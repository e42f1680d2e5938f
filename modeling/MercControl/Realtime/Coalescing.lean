import MercControl.Library.Machine

/-!
# Leaders of in-flight executions

Of the callers with one request identity one leads and executes, the others
follow.  The leader renews its lease while it runs; the row also has an expiry
of its own, after which a sweep deletes it.  The state has the row of one
identity, and each event is one statement.
-/

namespace MercControl.Realtime.Coalescing

open Library Machine

abbrev LeaderRef := Nat
abbrev Tenant := Nat

def inflightLeaseTTL : Nat := 30

def inflightResultTTL : Nat := 60

def inflightMaxElections : Nat := 3

inductive InflightState
  | running
  | complete
  | failed
  deriving DecidableEq

structure Row where
  tenantScope : Tenant
  leaderRef : LeaderRef
  state : InflightState
  leaseExpiresAt : Nat
  elections : Nat
  expiresAt : Nat
  followers : Nat

/-- A caller that was answered as leader and has not resolved, with the end of
the lease it was given last. -/
structure Leader where
  ref : LeaderRef
  leaseUntil : Nat

structure State where
  now : Nat
  row : Option Row
  leaders : List Leader

def State.empty : State := ⟨0, none, []⟩

/-- `InflightRole` of a claim that did not take the row: an ineligible leader
executes alone. -/
inductive Role
  | alone
  | follower
  deriving DecidableEq

/-- The `INSERT ... ON CONFLICT DO UPDATE` of `ClaimInflightExecution`: the
row, if the claim takes it. -/
def claimed (s : State) (tenant : Tenant) (ref : LeaderRef) : Option Row :=
  match s.row with
  | none =>
    some
      { tenantScope := tenant, leaderRef := ref, state := .running,
        leaseExpiresAt := s.now + inflightLeaseTTL, elections := 1,
        expiresAt := s.now + inflightResultTTL, followers := 0 }
  | some row =>
    if row.state = .running ∧ row.leaseExpiresAt ≤ s.now ∧
        row.elections < inflightMaxElections ∧ row.tenantScope = tenant then
      some { row with
        leaderRef := ref
        leaseExpiresAt := s.now + inflightLeaseTTL
        elections := row.elections + 1
        expiresAt := s.now + inflightResultTTL }
    else none

/-- The second statement of `ClaimInflightExecution`, which counts a follower:
the answer and the row. -/
def followed (s : State) (tenant : Tenant) : Role × Option Row :=
  match s.row with
  | none => (.alone, none)
  | some row =>
    if row.tenantScope = tenant then
      (if inflightMaxElections ≤ row.elections ∧ row.state ≠ .complete then .alone
        else .follower,
        some { row with followers := row.followers + 1 })
    else (.alone, some row)

/-- `leader_ref = ref AND state = 'RUNNING'`. -/
def State.heldBy (s : State) (ref : LeaderRef) : Option Row :=
  s.row.filter fun row => row.leaderRef = ref ∧ row.state = .running

/-- `ResolveInflightSuccess` and `ResolveInflightFailure`; the caller stops
leading in any case. -/
def resolve (s : State) (ref : LeaderRef) (outcome : InflightState) : State :=
  let leaders := s.leaders.filter (·.ref ≠ ref)
  match s.heldBy ref with
  | none => { s with leaders }
  | some row =>
    { s with
      leaders
      row := some { row with state := outcome, expiresAt := s.now + inflightResultTTL } }

inductive Failure
  | notHeld

def renewInflightLease (s : State) (ref : LeaderRef) : Except Failure State :=
  match s.heldBy ref with
  | none => .error .notHeld
  | some row =>
    let leaseExpiresAt := s.now + inflightLeaseTTL
    .ok { s with
      row := some { row with leaseExpiresAt }
      leaders := s.leaders.map fun leader =>
        if leader.ref = ref then ⟨ref, leaseExpiresAt⟩ else leader }

inductive Event
  | claim (tenant : Tenant) (ref : LeaderRef)
  | follow (tenant : Tenant) (ref : LeaderRef)
  | renew (ref : LeaderRef)
  | resolveSuccess (ref : LeaderRef)
  | resolveFailure (ref : LeaderRef)
  | sweep
  | tick (seconds : Nat)

def step (s : State) : Event → Except Failure State
  | .claim tenant ref =>
    match claimed s tenant ref with
    | none => .ok s
    | some row =>
      .ok { s with
        row := some row
        leaders := ⟨ref, row.leaseExpiresAt⟩ :: s.leaders.filter (·.ref ≠ ref) }
  | .follow tenant _ => .ok { s with row := (followed s tenant).2 }
  | .renew ref => renewInflightLease s ref
  | .resolveSuccess ref => .ok (resolve s ref .complete)
  | .resolveFailure ref => .ok (resolve s ref .failed)
  | .sweep => .ok { s with row := s.row.filter (s.now < ·.expiresAt) }
  | .tick seconds => .ok { s with now := s.now + seconds }

def State.live (s : State) (leader : Leader) : Prop :=
  leader ∈ s.leaders ∧ s.now < leader.leaseUntil

def State.ledByOther (s : State) (ref : LeaderRef) : Prop :=
  ∃ leader ∈ s.leaders, s.now < leader.leaseUntil ∧ leader.ref ≠ ref
  deriving Decidable

/-- A caller is not answered as leader while another one leads. -/
def AnswersOne (s : State) : Event → Prop
  | .claim tenant ref => s.ledByOther ref → claimed s tenant ref = none
  | .follow tenant ref => s.ledByOther ref → (followed s tenant).1 = .follower
  | _ => True

instance (s : State) (event : Event) : Decidable (AnswersOne s event) := by
  cases event <;> unfold AnswersOne <;> infer_instance

def Row.leased (row : Row) (now : Nat) : Prop := row.state = .running ∧ now < row.leaseExpiresAt

/-- A sweep finds no leased row past its own expiry, and a leased row is
followed under its tenant and before its last election. -/
def Undisturbed (s : State) : Event → Prop
  | .sweep => ∀ row ∈ s.row, row.leased s.now → s.now < row.expiresAt
  | .follow tenant _ =>
    ∀ row ∈ s.row, row.leased s.now →
      row.tenantScope = tenant ∧ row.elections < inflightMaxElections
  | _ => True

instance (s : State) (event : Event) : Decidable (Undisturbed s event) := by
  cases event <;> unfold Undisturbed <;> unfold Row.leased <;> infer_instance

def Held (s : State) : Prop :=
  ∀ leader, s.live leader →
    ∃ row, s.row = some row ∧ row.state = .running ∧
      row.leaderRef = leader.ref ∧ row.leaseExpiresAt = leader.leaseUntil

variable {s next : State} {ref : LeaderRef} {tenant : Tenant} {row : Row} {event : Event}

theorem Held.same (held : Held s) {first second : Leader}
    (firstLive : s.live first) (secondLive : s.live second) : first.ref = second.ref := by
  obtain ⟨_, found, _, isFirst, _⟩ := held first firstLive
  obtain ⟨_, otherFound, _, isSecond, _⟩ := held second secondLive
  rw [← isFirst, ← isSecond, Option.mem_unique otherFound found]

theorem heldBy_eq_some :
    s.heldBy ref = some row ↔ s.row = some row ∧ row.leaderRef = ref ∧ row.state = .running := by
  simp [State.heldBy, Option.filter_eq_some_iff]

theorem Held.not_live_of_claimed (held : Held s)
    (taken : claimed s tenant ref = some row) (leader : Leader) : ¬ s.live leader := by
  intro live
  obtain ⟨_, found, _, _, _⟩ := held leader live
  simp only [claimed, found] at taken
  split at taken
  · have running := live.2
    omega
  · cases taken

theorem claimed_leads (taken : claimed s tenant ref = some row) :
    row.state = .running ∧ row.leaderRef = ref := by
  unfold claimed at taken
  split at taken
  · cases taken
    exact ⟨rfl, rfl⟩
  · split at taken
    · rename_i free
      cases taken
      exact ⟨free.1, rfl⟩
    · cases taken

section

variable (held : Held s)

include held

theorem Held.claim (taken : claimed s tenant ref = some row) : Held
      { s with
        row := some row
        leaders := ⟨ref, row.leaseExpiresAt⟩ :: s.leaders.filter (·.ref ≠ ref) } := by
  rintro leader ⟨mem, running⟩
  obtain ⟨isRunning, isLeader⟩ := claimed_leads taken
  rcases List.mem_cons.mp mem with rfl | old
  · exact ⟨row, rfl, isRunning, isLeader, rfl⟩
  · have live : s.live leader := ⟨(List.mem_filter.mp old).1, running⟩
    exact absurd live (held.not_live_of_claimed taken leader)

theorem Held.renew (renewed : renewInflightLease s ref = .ok next) : Held next := by
  unfold renewInflightLease at renewed
  split at renewed
  · cases renewed
  rename_i row isHeld
  cases renewed
  obtain ⟨found, isLeader, isRunning⟩ := heldBy_eq_some.mp isHeld
  rintro leader ⟨mem, running⟩
  obtain ⟨before, beforeMem, rfl⟩ := List.mem_map.mp mem
  by_cases same : before.ref = ref
  · rw [if_pos same]
    exact ⟨_, rfl, isRunning, isLeader, rfl⟩
  · rw [if_neg same] at running
    obtain ⟨_, currentFound, _, isOther, _⟩ := held before ⟨beforeMem, running⟩
    rw [Option.mem_unique currentFound found, isLeader] at isOther
    exact absurd isOther.symm same

theorem Held.resolve (outcome : InflightState) : Held (resolve s ref outcome) := by
  have kept : ∀ leader, leader ∈ s.leaders.filter (·.ref ≠ ref) →
      s.now < leader.leaseUntil → leader.ref ≠ ref ∧ s.live leader := by
    intro leader mem running
    obtain ⟨old, other⟩ := List.mem_filter.mp mem
    exact ⟨by simpa using other, old, running⟩
  unfold Coalescing.resolve
  split
  · rintro leader ⟨mem, running⟩
    exact held leader (kept leader mem running).2
  rename_i row isHeld
  obtain ⟨found, isLeader, _⟩ := heldBy_eq_some.mp isHeld
  rintro leader ⟨mem, running⟩
  obtain ⟨other, live⟩ := kept leader mem running
  obtain ⟨_, currentFound, _, isOther, _⟩ := held leader live
  rw [Option.mem_unique currentFound found, isLeader] at isOther
  exact absurd isOther.symm other

theorem Held.leased {leader : Leader} (live : s.live leader) :
    ∃ row, s.row = some row ∧ row.leased s.now := by
  obtain ⟨row, found, isRunning, _, lease⟩ := held leader live
  exact ⟨row, found, isRunning, lease ▸ live.2⟩

theorem step_held (undisturbed : Undisturbed s event) (ran : step s event = .ok next) :
    Held next := by
  cases event with
  | claim =>
    simp only [step] at ran
    split at ran
    · cases ran
      exact held
    · rename_i row taken
      cases ran
      exact held.claim taken
  | follow tenant =>
    cases ran
    intro leader live
    obtain ⟨row, found, rest⟩ := held leader live
    by_cases same : row.tenantScope = tenant <;> simpa [followed, found, same] using rest
  | renew => exact held.renew ran
  | resolveSuccess =>
    cases ran
    exact held.resolve .complete
  | resolveFailure =>
    cases ran
    exact held.resolve .failed
  | sweep =>
    cases ran
    intro leader live
    obtain ⟨row, found, isRunning, isLeader, lease⟩ := held leader live
    have kept : s.now < row.expiresAt := undisturbed row found ⟨isRunning, lease ▸ live.2⟩
    exact ⟨row, by simp [found, kept], isRunning, isLeader, lease⟩
  | tick =>
    cases ran
    rintro leader ⟨mem, running⟩
    exact held leader ⟨mem, Nat.lt_of_le_of_lt (Nat.le_add_right _ _) running⟩

theorem answersOne_of_held (undisturbed : Undisturbed s event) : AnswersOne s event := by
  cases event with
  | claim tenant ref =>
    rintro ⟨leader, mem, running, _⟩
    cases taken : claimed s tenant ref with
    | none => rfl
    | some => exact absurd ⟨mem, running⟩ (held.not_live_of_claimed taken leader)
  | follow =>
    rintro ⟨leader, mem, running, _⟩
    obtain ⟨row, found, leased⟩ := held.leased ⟨mem, running⟩
    obtain ⟨sameTenant, early⟩ := undisturbed row found leased
    simp [followed, found, sameTenant, Nat.not_le.mpr early]
  | _ => trivial

end

/-- In a run in which no sweep deletes the row of a live leader and no caller
follows a leased row of another tenant or of the last election, there is one
leader at most. -/
theorem one_leader {events : List Event}
    (undisturbed : Meets step Undisturbed State.empty events) :
    Meets step AnswersOne State.empty events ∧
      Always step
        (fun s => ∀ first second, s.live first → s.live second →
          first.ref = second.ref) State.empty events := by
  have start : Held State.empty := by
    rintro leader ⟨member, _⟩
    cases member
  exact ⟨meets_of_guarded (fun _ _ _ => step_held)
        (fun _ _ => answersOne_of_held) start undisturbed,
      always_of_guarded (fun _ _ _ => step_held)
        (fun _ held _ _ => held.same) start undisturbed⟩

/-- The second caller follows, and leads once the first lease has run out. -/
theorem one_leader_taken_over :
    Meets step AnswersOne State.empty
        [.claim 1 10, .tick 20, .renew 10, .claim 1 11, .follow 1 11, .tick 30, .claim 1 11] :=
  (one_leader (by decide)).1

/-- A leader that renews in time loses its row to the sweep after a minute, and
the next caller leads beside it. -/
theorem renewed_leader_swept :
    ¬ Meets step AnswersOne State.empty
      [.claim 1 10, .tick 25, .renew 10, .tick 25, .renew 10, .tick 10, .sweep, .claim 1 11] := by
  decide

end MercControl.Realtime.Coalescing
