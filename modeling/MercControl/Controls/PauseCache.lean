import MercControl.Library.Machine
import Mathlib.Tactic.SplitIfs

/-!
# The pause cache of an operational control

One control in one process: its row, its entry in the cache, and the calls of
`OperationalControlPaused` and `AdminSetOperationalControl` between their
steps.  A change of the row is named by the version it commits.
-/

namespace MercControl.Controls

open Library Machine

structure CacheEntry where
  paused : Bool
  expiresAt : Nat

/-- What a call read from the row, with the version it read. -/
structure Fetched where
  paused : Bool
  version : Nat
  deriving DecidableEq

/-- A call that missed the cache.  `follows` is the newest change when it
began, if the call behind it had returned. -/
structure Reader where
  follows : Option Nat
  fetched : Option Fetched

structure Answer where
  follows : Option Nat
  paused : Bool
  row : Fetched
  deriving DecidableEq

structure State where
  now : Nat
  row : Fetched
  entry : Option CacheEntry
  readers : Nat → Option Reader
  /-- The changes that are committed and whose calls are still to invalidate. -/
  invalidating : List Nat
  answers : List Answer

/-- No call is under way and nothing is cached. -/
def State.started (paused : Bool) : State := ⟨0, ⟨paused, 0⟩, none, fun _ => none, [], []⟩

inductive Event
  | start (reader : Nat)
  | fetch (reader : Nat)
  /-- The row is missing or cannot be read. -/
  | fail (reader : Nat)
  | store (reader : Nat)
  | commit (paused : Bool)
  | invalidate (version : Nat)
  | tick (milliseconds : Nat)

def operationalControlCacheTTL : Nat := 50

def State.follows (s : State) : Option Nat :=
  if s.row.version ∈ s.invalidating then none else some s.row.version

def State.setReader (s : State) (reader : Nat) (call : Option Reader) : State :=
  { s with readers := Function.update s.readers reader call }

def State.answer (s : State) (follows : Option Nat) (paused : Bool) : State :=
  { s with answers := ⟨follows, paused, s.row⟩ :: s.answers }

/-- The entry that `get` finds: an expired one is deleted. -/
def State.fresh (s : State) : Option CacheEntry :=
  s.entry.filter fun entry => s.now ≤ entry.expiresAt

def step (s : State) : Event → Except Unit State
  | .start reader =>
    if (s.readers reader).isSome then .error ()
    else
      match s.fresh with
      | some entry => .ok (s.answer s.follows entry.paused)
      | none => .ok ({ s with entry := none }.setReader reader (some ⟨s.follows, none⟩))
  | .fetch reader =>
    match s.readers reader with
    | some ⟨follows, none⟩ => .ok (s.setReader reader (some ⟨follows, some s.row⟩))
    | _ => .error ()
  | .fail reader =>
    match s.readers reader with
    | some ⟨_, none⟩ => .ok (s.setReader reader none)
    | _ => .error ()
  | .store reader =>
    match s.readers reader with
    | some ⟨follows, some fetched⟩ =>
      .ok (({ s with entry := some ⟨fetched.paused, s.now + operationalControlCacheTTL⟩ }.setReader
        reader none).answer follows fetched.paused)
    | _ => .error ()
  | .commit paused =>
    .ok { s with
      row := ⟨paused, s.row.version + 1⟩
      invalidating := (s.row.version + 1) :: s.invalidating }
  | .invalidate version =>
    if version ∈ s.invalidating then
      .ok { s with entry := none, invalidating := s.invalidating.filter (· ≠ version) }
    else .error ()
  | .tick milliseconds => .ok { s with now := s.now + milliseconds }

/-- A call that began after the newest change had returned answered the value
of that change. -/
def Immediate (s : State) : Prop :=
  ∀ answer ∈ s.answers, answer.follows = some answer.row.version → answer.paused = answer.row.paused

/-- A value is stored before another change is committed, or before the newest
change invalidates the entry. -/
def storesInTime (s : State) : Event → Bool
  | .store reader =>
    match s.readers reader with
    | some ⟨_, some fetched⟩ =>
      fetched.version = s.row.version || s.invalidating.contains s.row.version
    | _ => true
  | _ => true

/-- A read of the row is no older than the change the call follows. -/
structure Reader.Sound (reader : Reader) (row : Fetched) : Prop where
  follows : ∀ version ∈ reader.follows, version ≤ row.version
  fetched : ∀ fetched ∈ reader.fetched, (∀ version ∈ reader.follows, version ≤ fetched.version) ∧
    fetched.version ≤ row.version ∧ (fetched.version = row.version → fetched = row)

structure Sound (s : State) : Prop where
  entry : ∀ entry ∈ s.entry, entry.paused = s.row.paused ∨ s.row.version ∈ s.invalidating
  readers : ∀ reader call, s.readers reader = some call → call.Sound s.row
  immediate : Immediate s

variable {s next : State}

theorem Sound.setReader (sound : Sound s) {reader : Nat} {call : Option Reader}
    (isSound : ∀ made ∈ call, made.Sound s.row) : Sound (s.setReader reader call) where
  entry := sound.entry
  readers := forall_update sound.readers isSound
  immediate := sound.immediate

theorem Sound.answer (sound : Sound s) {follows : Option Nat} {paused : Bool}
    (same : follows = some s.row.version → paused = s.row.paused) :
    Sound (s.answer follows paused) :=
  { sound with immediate := List.forall_mem_cons.mpr ⟨same, sound.immediate⟩ }

theorem mem_follows {version : Nat} :
    version ∈ s.follows ↔ s.row.version ∉ s.invalidating ∧ s.row.version = version := by
  by_cases pending : s.row.version ∈ s.invalidating <;> simp [State.follows, pending]

theorem step_sound (event : Event) (sound : Sound s) (inTime : storesInTime s event = true)
    (ran : step s event = .ok next) : Sound next := by
  cases event with
  | start =>
    simp only [step, ite_error_eq_ok] at ran
    obtain ⟨-, ran⟩ := ran
    split at ran
    · rename_i entry isFresh
      cases ran
      refine sound.answer fun isNewest => ?_
      have isEntry := (Option.filter_eq_some_iff.mp isFresh).1
      exact (sound.entry entry isEntry).resolve_right (mem_follows.mp isNewest).1
    · cases ran
      have emptied : Sound { s with entry := none } := { sound with entry := by simp }
      refine emptied.setReader ?_
      rintro _ ⟨⟩
      exact ⟨fun version isFollowed => Nat.le_of_eq (mem_follows.mp isFollowed).2.symm, by simp⟩
  | fetch reader =>
    simp only [step] at ran
    split at ran
    · rename_i follows isCall
      cases ran
      have old := (sound.readers reader _ isCall).follows
      refine sound.setReader ?_
      rintro _ ⟨⟩
      refine ⟨old, ?_⟩
      rintro _ ⟨⟩
      exact ⟨old, Nat.le_refl _, fun _ => rfl⟩
    · cases ran
  | fail =>
    simp only [step] at ran
    split at ran
    · cases ran
      exact sound.setReader (by simp)
    · cases ran
  | store reader =>
    simp only [step] at ran
    split at ran
    · rename_i follows fetched isCall
      cases ran
      obtain ⟨after, within, current⟩ := (sound.readers reader _ isCall).fetched fetched rfl
      simp only [storesInTime, isCall, Bool.or_eq_true, decide_eq_true_eq,
        List.contains_iff_mem] at inTime
      have stored : Sound { s with
          entry := some ⟨fetched.paused, s.now + operationalControlCacheTTL⟩ } := by
        refine { sound with entry := ?_ }
        rintro _ ⟨⟩
        exact inTime.imp_left fun same => congrArg Fetched.paused (current same)
      refine Sound.answer (stored.setReader ?_) fun isNewest => ?_
      · simp
      · exact congrArg Fetched.paused (current (Nat.le_antisymm within (after _ isNewest)))
    · cases ran
  | commit =>
    cases ran
    refine ⟨fun _ _ => .inr List.mem_cons_self, ?_, sound.immediate⟩
    intro reader call isCall
    have old := sound.readers reader call isCall
    refine ⟨fun version isFollowed => Nat.le_succ_of_le (old.follows version isFollowed), ?_⟩
    intro fetched isFetched
    obtain ⟨after, within, -⟩ := old.fetched fetched isFetched
    exact ⟨after, Nat.le_succ_of_le within, fun same =>
      absurd same (Nat.ne_of_lt (Nat.lt_succ_of_le within))⟩
  | invalidate =>
    simp only [step] at ran
    split_ifs at ran
    cases ran
    exact { sound with entry := by simp }
  | tick =>
    cases ran
    exact { sound with }

theorem kill_switch_immediate (paused : Bool) (events : List Event)
    (inTime : Meets step (fun s event => storesInTime s event = true) (.started paused) events) :
    Always step Immediate (.started paused) events :=
  always_of_guarded (fun _ event _ sound inTime => step_sound event sound inTime)
    (fun _ sound => sound.immediate) ⟨nofun, nofun, nofun⟩ inTime

def pausedRun : List Event := [.start 0, .fetch 0, .store 0, .commit true, .invalidate 1, .start 1,
  .fetch 1, .store 1]

theorem pausedRun_immediate : Always step Immediate (.started false) pausedRun :=
  kill_switch_immediate false pausedRun (by decide)

theorem late_store_outlives_pause :
    ¬Immediate (run step (.started false)
      [.start 0, .fetch 0, .commit true, .invalidate 1, .store 0, .start 1]) := by
  intro immediate
  exact absurd (immediate ⟨some 1, false, true, 1⟩ (by decide) rfl) nofun

end MercControl.Controls
