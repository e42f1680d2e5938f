import MercControl.Realtime.Coalescing
import Mathlib.Tactic.SplitIfs

/-!
# Publication of in-flight results

`History` is what the row is for: only the leader of the standing election
records, once, and a follower is handed what was recorded for its tenant.  The
statements on the row refine it.
-/

namespace MercControl.Realtime.Coalescing

open Library Machine

structure Election where
  tenant : Tenant
  leader : LeaderRef
  number : Nat

/-- `InflightResult`: the columns that a success or a failure writes. -/
inductive Content
  | result (resultRef resultSHA256 : String) (tokens : Int) (leaderContractId : Nat)
  | failure (failure : String)

inductive Entry
  | elected (election : Election)
  | recorded (ref : LeaderRef) (content : Content)
  | handed (tenant : Tenant) (content : Content)
  | swept

/-- The newest entry is first. -/
abbrev History := List Entry

def History.standing : History → Option (Election × Option Content)
  | [] => none
  | .elected election :: _ => some (election, none)
  | .recorded _ content :: rest => (standing rest).map fun current => (current.1, some content)
  | .handed _ _ :: rest => standing rest
  | .swept :: _ => none

/-- An election is the first of its row, or follows one in which nothing was
recorded. -/
def History.Admits (history : History) : Entry → Prop
  | .elected election =>
    election.number ≤ inflightMaxElections ∧
      match history.standing with
      | none => election.number = 1
      | some (old, recorded) =>
        recorded = none ∧ election.number = old.number + 1 ∧ election.tenant = old.tenant
  | .recorded ref _ => ∃ election, history.standing = some (election, none) ∧ election.leader = ref
  | .handed tenant content =>
    ∃ election, history.standing = some (election, some content) ∧ election.tenant = tenant
  | .swept => True

def History.Fenced : History → Prop
  | [] => True
  | entry :: rest => Admits rest entry ∧ Fenced rest

/-- The row with the columns that its leader writes, and what has happened to
it. -/
structure Publisher where
  leadership : State
  content : Option Content
  history : History

def Publisher.empty : Publisher := ⟨.empty, none, []⟩

inductive Attempt
  | claim (tenant : Tenant) (ref : LeaderRef)
  | follow (tenant : Tenant) (ref : LeaderRef)
  | renew (ref : LeaderRef)
  | resolveSuccess (ref : LeaderRef) (resultRef resultSHA256 : String) (tokens : Int)
      (leaderContractId : Nat)
  | resolveFailure (ref : LeaderRef) (failure : String)
  | await (tenant : Tenant)
  | sweep
  | tick (seconds : Nat)

/-- The update of both resolutions, fenced on the leader. -/
def Publisher.publish (p : Publisher) (ref : LeaderRef) (outcome : InflightState)
    (content : Content) : Publisher :=
  match p.leadership.heldBy ref with
  | none => { p with leadership := resolve p.leadership ref outcome }
  | some _ =>
    ⟨resolve p.leadership ref outcome, some content, .recorded ref content :: p.history⟩

/-- One poll of `AwaitInflightResult`; a nil contract is zero. -/
def Publisher.await (p : Publisher) (tenant : Tenant) : Option Content :=
  match p.leadership.row with
  | none => none
  | some row =>
    if row.tenantScope ≠ tenant ∨ row.state = .running then none
    else p.content.filter fun
      | .result _ _ _ leaderContractId => leaderContractId ≠ 0
      | .failure _ => true

def attempt (p : Publisher) : Attempt → Except Failure Publisher
  | .claim tenant ref =>
    (step p.leadership (.claim tenant ref)).map fun leadership =>
      match claimed p.leadership tenant ref with
      | none => { p with leadership }
      | some row =>
        ⟨leadership, none, .elected ⟨row.tenantScope, ref, row.elections⟩ :: p.history⟩
  | .follow tenant ref =>
    (step p.leadership (.follow tenant ref)).map fun leadership => { p with leadership }
  | .renew ref => (step p.leadership (.renew ref)).map fun leadership => { p with leadership }
  | .resolveSuccess ref resultRef resultSHA256 tokens leaderContractId =>
    if leaderContractId = 0 then .error .notHeld
    else .ok (p.publish ref .complete (.result resultRef resultSHA256 tokens leaderContractId))
  | .resolveFailure ref failure =>
    .ok (p.publish ref .failed
      (.failure (if failure = "" then "leader failed without a reported reason" else failure)))
  | .await tenant =>
    match p.await tenant with
    | none => .ok p
    | some content => .ok { p with history := .handed tenant content :: p.history }
  | .sweep =>
    (step p.leadership .sweep).map fun leadership =>
      if leadership.row = none then ⟨leadership, none, .swept :: p.history⟩
      else { p with leadership }
  | .tick seconds =>
    (step p.leadership (.tick seconds)).map fun leadership => { p with leadership }

structure Publisher.Shows (p : Publisher) : Prop where
  fenced : p.history.Fenced
  standing : p.history.standing = p.leadership.row.map fun row =>
    (⟨row.tenantScope, row.leaderRef, row.elections⟩, p.content)
  running : ∀ row ∈ p.leadership.row, (row.state = .running ↔ p.content = none)

variable {p after : Publisher} {event : Attempt}

section

variable (shows : p.Shows)

include shows

/-- A step that leaves the row to its leader changes nothing that is shown. -/
theorem Publisher.Shows.of_row {leadership : State} (change : Row → Row)
    (isRow : leadership.row = p.leadership.row.map change)
    (same : ∀ row, (change row).tenantScope = row.tenantScope ∧
      (change row).leaderRef = row.leaderRef ∧ (change row).elections = row.elections ∧
      (change row).state = row.state) : Publisher.Shows { p with leadership } where
  fenced := shows.fenced
  standing := by
    rw [isRow, Option.map_map, shows.standing]
    congr 1
    funext row
    obtain ⟨tenant, leader, elections, -⟩ := same row
    simp [tenant, leader, elections]
  running := by
    intro row isSome
    rw [isRow] at isSome
    obtain ⟨old, isOld, rfl⟩ := Option.map_eq_some_iff.mp isSome
    rw [(same old).2.2.2]
    exact shows.running old isOld

theorem Publisher.Shows.claim {tenant : Tenant} {ref : LeaderRef}
    (ran : attempt p (.claim tenant ref) = .ok after) : after.Shows := by
  simp only [attempt, step] at ran
  cases taken : claimed p.leadership tenant ref with
  | none =>
    simp only [taken, Except.map] at ran
    cases ran
    exact shows
  | some =>
    simp only [taken, Except.map] at ran
    cases ran
    obtain ⟨isRunning, isLeader⟩ := claimed_leads taken
    refine ⟨⟨?_, shows.fenced⟩, by simp [History.standing, isLeader], by simp [isRunning]⟩
    unfold claimed at taken
    split at taken
    · rename_i absent
      cases taken
      simp [History.Admits, shows.standing, absent, inflightMaxElections]
    · rename_i old isOld
      split_ifs at taken with free
      cases taken
      have unresolved := (shows.running old isOld).mp free.1
      simp only [History.Admits, shows.standing, isOld, Option.map_some]
      exact ⟨free.2.2.1, unresolved, trivial, trivial⟩

theorem Publisher.Shows.publish {ref : LeaderRef} {outcome : InflightState} {content : Content}
    (ended : outcome ≠ .running) : (p.publish ref outcome content).Shows := by
  unfold Publisher.publish
  cases isHeld : p.leadership.heldBy ref with
  | none =>
    refine shows.of_row id ?_ (by simp)
    simp [resolve, isHeld]
  | some row =>
    obtain ⟨isRow, isLeader, isRunning⟩ := heldBy_eq_some.mp isHeld
    have unresolved := (shows.running row isRow).mp isRunning
    have standing := shows.standing
    rw [isRow, Option.map_some, unresolved] at standing
    refine ⟨⟨⟨_, standing, isLeader⟩, shows.fenced⟩, ?_, ?_⟩
    · simp [History.standing, standing, resolve, isHeld]
    · simp [resolve, isHeld, ended]

theorem Publisher.Shows.handed {tenant : Tenant} {content : Content}
    (found : p.await tenant = some content) :
    Publisher.Shows { p with history := .handed tenant content :: p.history } := by
  refine ⟨⟨?_, shows.fenced⟩, shows.standing, shows.running⟩
  unfold Publisher.await at found
  split at found
  · cases found
  rename_i row isRow
  split_ifs at found with foreign
  obtain ⟨isContent, -⟩ := Option.filter_eq_some_iff.mp found
  rw [not_or, not_not] at foreign
  exact ⟨_, by rw [shows.standing, isRow, Option.map_some, isContent], foreign.1⟩

theorem attempt_shows (ran : attempt p event = .ok after) : after.Shows := by
  cases event with
  | claim => exact shows.claim ran
  | follow tenant =>
    cases ran
    refine shows.of_row (fun row =>
      if row.tenantScope = tenant then { row with followers := row.followers + 1 } else row) ?_ ?_
    · cases isRow : p.leadership.row with
      | none => simp [followed, isRow]
      | some row => by_cases own : row.tenantScope = tenant <;> simp [followed, isRow, own]
    · intro row
      by_cases own : row.tenantScope = tenant <;> simp [own]
  | renew ref =>
    simp only [attempt, step, renewInflightLease] at ran
    rcases isHeld : p.leadership.heldBy ref with _ | row
    · simp [isHeld, Except.map] at ran
    simp only [isHeld, Except.map] at ran
    cases ran
    obtain ⟨isRow, -⟩ := heldBy_eq_some.mp isHeld
    refine shows.of_row (fun row =>
      { row with leaseExpiresAt := p.leadership.now + inflightLeaseTTL }) ?_ ?_
    · rw [isRow, Option.map_some]
    · exact fun _ => ⟨rfl, rfl, rfl, rfl⟩
  | resolveSuccess =>
    simp only [attempt, ite_error_eq_ok] at ran
    obtain ⟨-, ran⟩ := ran
    cases ran
    exact shows.publish (by simp)
  | resolveFailure =>
    cases ran
    exact shows.publish (by simp)
  | await =>
    simp only [attempt] at ran
    split at ran
    · cases ran
      exact shows
    · rename_i content found
      cases ran
      exact shows.handed found
  | sweep =>
    cases ran
    dsimp only
    split_ifs with gone
    · exact ⟨⟨trivial, shows.fenced⟩, by simp [History.standing, gone], by simp [gone]⟩
    refine shows.of_row id ?_ (by simp)
    cases isRow : p.leadership.row with
    | none => simp
    | some =>
      simp only [isRow, Option.filter_some] at gone ⊢
      split_ifs at gone ⊢ with kept
      · rfl
      · exact absurd rfl gone
  | tick =>
    cases ran
    exact shows.of_row id (by simp) (by simp)

end

/-- Whatever the order of claims, renewals, resolutions, sweeps and polls, the
history is fenced and the row shows how it stands. -/
theorem publication_fenced (events : List Attempt) : Always attempt Publisher.Shows .empty events :=
  always_of_invariant (fun _ _ _ => attempt_shows) (fun _ => id) events ⟨trivial, rfl, nofun⟩

end MercControl.Realtime.Coalescing
