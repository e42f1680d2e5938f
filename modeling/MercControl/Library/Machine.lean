import Mathlib.Logic.Function.Basic

/-!
# Machines with atomic, fallible steps

A step either commits a next state or fails and leaves the state as it was, as
a database transaction does.  Concurrent writers whose transactions are atomic
are described by the runs over all interleavings of their steps.
-/

namespace MercControl.Library.Machine

variable {State Event Failure : Type*}

/-- One atomic step: a failed step leaves the state unchanged. -/
def apply (step : State → Event → Except Failure State) (state : State) (event : Event) : State :=
  match step state event with
  | .ok next => next
  | .error _ => state

def run (step : State → Event → Except Failure State) : State → List Event → State
  | state, [] => state
  | state, event :: rest => run step (apply step state event) rest

/-- Every step of the run is taken in a state that meets `guard`. -/
def Meets (step : State → Event → Except Failure State) (guard : State → Event → Prop) :
    State → List Event → Prop
  | _, [] => True
  | state, event :: rest => guard state event ∧ Meets step guard (apply step state event) rest

/-- `good` holds in every state of the run, the first and the last
included. -/
def Always (step : State → Event → Except Failure State) (good : State → Prop) :
    State → List Event → Prop
  | state, [] => good state
  | state, event :: rest => good state ∧ Always step good (apply step state event) rest

/-- Why a step was refused. -/
def failure? {Result : Type*} : Except Failure Result → Option Failure
  | .ok _ => none
  | .error failure => some failure

/-- A transaction that checks and then goes on commits exactly when the check
passes and the rest commits. -/
@[simp]
theorem ite_error_eq_ok {Result : Type*} {refused : Prop} [Decidable refused]
    {failure : Failure} {rest : Except Failure Result} {result : Result} :
    (if refused then .error failure else rest) = .ok result ↔ ¬ refused ∧ rest = .ok result := by
  by_cases refusal : refused <;> simp [refusal]

@[simp]
theorem bind_eq_ok {Middle Result : Type*} {first : Except Failure Middle}
    {rest : Middle → Except Failure Result} {result : Result} :
    first.bind rest = .ok result ↔ ∃ middle, first = .ok middle ∧ rest middle = .ok result := by
  cases first <;> simp [Except.bind]

theorem check_bind_eq_ok {Result : Type*} {check : Except Failure Unit}
    {rest : Except Failure Result} {result : Result} :
    check.bind (fun _ => rest) = .ok result ↔ check = .ok () ∧ rest = .ok result := by
  cases check <;> simp [Except.bind]

/-- What holds of every value that is kept holds after one of them is written
or removed. -/
theorem forall_update {Key Value : Type*} [DecidableEq Key] {values : Key → Option Value}
    {good : Key → Value → Prop} {key : Key} {written : Option Value}
    (all : ∀ k value, values k = some value → good k value)
    (isGood : ∀ value ∈ written, good key value) :
    ∀ k value, Function.update values key written k = some value → good k value := by
  intro k value found
  by_cases same : k = key
  · subst same
    rw [Function.update_self] at found
    exact isGood value found
  · rw [Function.update_of_ne same] at found
    exact all k value found

section

variable {Row Result Failure : Type} {read : Row → Except Failure Result} {rows : List Row}
  {results : List Result}

theorem mapM_eq_ok : rows.mapM read = .ok results ↔
    (rows.all fun row => (read row).isOk) = true ∧
      rows.filterMap (fun row => (read row).toOption) = results := by
  induction rows generalizing results with
  | nil => exact ⟨fun mapped => ⟨rfl, Except.ok.inj mapped⟩, fun same => congrArg Except.ok same.2⟩
  | cons row rest ih =>
    rw [List.mapM_cons, List.all_cons, List.filterMap_cons]
    cases read row with
    | error => exact iff_of_false nofun (by simp [Except.isOk, Except.toBool])
    | ok result =>
      constructor
      · intro mapped
        obtain ⟨_, ⟨⟩, mapped⟩ := bind_eq_ok.mp mapped
        obtain ⟨_, readRest, mapped⟩ := bind_eq_ok.mp mapped
        obtain ⟨readable, rfl⟩ := ih.mp readRest
        exact ⟨readable, Except.ok.inj mapped⟩
      · rintro ⟨readable, rfl⟩
        exact bind_eq_ok.mpr ⟨result, rfl, bind_eq_ok.mpr ⟨_, ih.mpr ⟨readable, rfl⟩, rfl⟩⟩

theorem mapM_perm {others : List Row} (perm : rows.Perm others)
    (mapped : rows.mapM read = .ok results) :
    ∃ shuffled, others.mapM read = .ok shuffled ∧ results.Perm shuffled := by
  obtain ⟨readable, rfl⟩ := mapM_eq_ok.mp mapped
  rw [perm.all_eq] at readable
  exact ⟨_, mapM_eq_ok.mpr ⟨readable, rfl⟩, perm.filterMap _⟩

/-- Every result of a loop that went through is the result of one of its
rounds. -/
theorem exists_of_mem_mapM {result : Result} (mapped : rows.mapM read = .ok results)
    (mem : result ∈ results) : ∃ row ∈ rows, read row = .ok result := by
  obtain ⟨_, rfl⟩ := mapM_eq_ok.mp mapped
  obtain ⟨row, isRow, isResult⟩ := List.mem_filterMap.mp mem
  refine ⟨row, isRow, ?_⟩
  cases isRead : read row with
  | error => simp [isRead, Except.toOption] at isResult
  | ok => simpa [isRead, Except.toOption] using isResult

end

section

variable {step : State → Event → Except Failure State}
variable {guard : State → Event → Prop} {invariant : State → Prop} {good : State → Prop}
  {state next : State} {event : Event} {events : List Event}

theorem apply_of_ok (ran : step state event = .ok next) : apply step state event = next := by
  simp [apply, ran]

theorem apply_of_error {failure : Failure} (failed : step state event = .error failure) :
    apply step state event = state := by
  simp [apply, failed]

theorem apply_of_committed
    (holds : good state) (committed : ∀ next, step state event = .ok next → good next) :
    good (apply step state event) := by
  cases outcome : step state event with
  | ok next =>
    rw [apply_of_ok outcome]
    exact committed next outcome
  | error =>
    rw [apply_of_error outcome]
    exact holds

@[simp]
theorem run_nil (state : State) : run step state [] = state := rfl

@[simp]
theorem run_cons (state : State) (event : Event) (rest : List Event) :
    run step state (event :: rest) = run step (apply step state event) rest := rfl

theorem run_append (state : State) (before after : List Event) :
    run step state (before ++ after) = run step (run step state before) after := by
  induction before generalizing state with
  | nil => rfl
  | cons event rest ih => exact ih (apply step state event)

theorem meets_append (state : State) (before after : List Event) :
    Meets step guard state (before ++ after) ↔
      Meets step guard state before ∧ Meets step guard (run step state before) after := by
  induction before generalizing state with
  | nil => simp [Meets]
  | cons event rest ih => simp [List.cons_append, Meets, run_cons, ih, and_assoc]

theorem meets_unguarded (state : State) (events : List Event) :
    Meets step (fun _ _ => True) state events := by
  induction events generalizing state with
  | nil => trivial
  | cons event rest ih => exact ⟨trivial, ih _⟩

/-- `Always` is about every prefix of the run. -/
theorem always_iff_prefixes (state : State) (events : List Event) :
    Always step good state events ↔ ∀ before, before <+: events → good (run step state before) := by
  induction events generalizing state with
  | nil => simp [Always, List.prefix_nil]
  | cons event rest ih =>
    rw [Always, ih]
    constructor
    · intro both before isPrefix
      cases before with
      | nil => exact both.1
      | cons first others =>
        obtain ⟨same, others_prefix⟩ := List.cons_prefix_cons.mp isPrefix
        rw [run_cons, same]
        exact both.2 others others_prefix
    · intro all
      refine ⟨all [] List.nil_prefix, ?_⟩
      intro before isPrefix
      exact all (event :: before) (List.cons_prefix_cons.mpr ⟨rfl, isPrefix⟩)

section

variable (preserved :
  ∀ state event next,
    invariant state → guard state event → step state event = .ok next → invariant next)

include preserved

/-- The step rule: what every committed step preserves, every step
preserves. -/
theorem invariant_apply (holds : invariant state) (guarded : guard state event) :
    invariant (apply step state event) :=
  apply_of_committed holds fun next => preserved state event next holds guarded

/-- The run rule: an invariant preserved by every committed step that meets the
guard holds after every guarded run. -/
theorem invariant_run (holds : invariant state) (guarded : Meets step guard state events) :
    invariant (run step state events) := by
  induction events generalizing state with
  | nil => exact holds
  | cons event rest ih => exact ih (invariant_apply preserved holds guarded.1) guarded.2

/-- What an invariant and the guard imply for each step holds of every step of
a guarded run. -/
theorem meets_of_guarded {other : State → Event → Prop}
    (implies : ∀ state event, invariant state → guard state event → other state event)
    (holds : invariant state) (guarded : Meets step guard state events) :
    Meets step other state events := by
  induction events generalizing state with
  | nil => trivial
  | cons event rest ih =>
    exact ⟨implies state event holds guarded.1,
        ih (invariant_apply preserved holds guarded.1) guarded.2⟩

/-- What an invariant implies holds in every state of a guarded run. -/
theorem always_of_guarded
    (implies : ∀ state, invariant state → good state) (holds : invariant state)
    (guarded : Meets step guard state events) : Always step good state events := by
  induction events generalizing state with
  | nil => exact implies state holds
  | cons event rest ih =>
    exact ⟨implies state holds, ih (invariant_apply preserved holds guarded.1) guarded.2⟩

end

section

variable (preserved :
  ∀ state event next, invariant state → step state event = .ok next → invariant next)

include preserved

theorem invariant_apply_of_preserved (holds : invariant state) :
    invariant (apply step state event) :=
  apply_of_committed holds fun next => preserved state event next holds

theorem invariant_run_of_preserved (events : List Event)
    (holds : invariant state) : invariant (run step state events) :=
  invariant_run (fun state event next holds _ =>
    preserved state event next holds) holds (meets_unguarded state events)

theorem always_of_invariant (implies : ∀ state, invariant state → good state)
    (events : List Event) (holds : invariant state) : Always step good state events :=
  always_of_guarded (fun state event next holds _ => preserved state event next holds) implies
    holds (meets_unguarded state events)

theorem meets_of_invariant {other : State → Event → Prop}
    (implies : ∀ state event, invariant state → other state event)
    (events : List Event) (holds : invariant state) : Meets step other state events :=
  meets_of_guarded (fun state event next holds _ => preserved state event next holds)
    (fun state event holds _ => implies state event holds) holds (meets_unguarded state events)

/-- The exact rule: when a step keeps `good` exactly if it meets the guard, a
run is good throughout exactly if all its steps meet the guard. -/
theorem always_iff_meets (exact : ∀ state event, invariant state → good state →
        (good (apply step state event) ↔ guard state event))
    (events : List Event) (holds : invariant state) (start : good state) :
    Always step good state events ↔ Meets step guard state events := by
  induction events generalizing state with
  | nil => exact iff_of_true start trivial
  | cons event rest ih =>
    have stepHolds : invariant (apply step state event) :=
      invariant_apply_of_preserved preserved holds
    have stepExact := exact state event holds start
    constructor
    · intro both
      have nextGood : good (apply step state event) := by
        cases rest with
        | nil => exact both.2
        | cons => exact both.2.1
      exact ⟨stepExact.mp nextGood, (ih stepHolds nextGood).mp both.2⟩
    · intro both
      exact ⟨start, (ih stepHolds (stepExact.mpr both.1)).mpr both.2⟩

/-- Two guards that agree wherever the invariant holds are met by the same
runs. -/
theorem meets_iff_meets {other : State → Event → Prop}
    (agree : ∀ state event, invariant state → (guard state event ↔ other state event))
    (events : List Event) (holds : invariant state) :
    Meets step guard state events ↔ Meets step other state events := by
  induction events generalizing state with
  | nil => exact Iff.rfl
  | cons event rest ih =>
    have stepHolds : invariant (apply step state event) :=
      invariant_apply_of_preserved preserved holds
    rw [Meets, Meets, agree state event holds, ih stepHolds]

end

end

instance decidableMeets (step : State → Event → Except Failure State) (guard : State → Event → Prop)
    [∀ state event, Decidable (guard state event)] :
    ∀ (state : State) (events : List Event), Decidable (Meets step guard state events)
  | _, [] => isTrue trivial
  | state, event :: rest =>
    @instDecidableAnd _ _ inferInstance (decidableMeets step guard (apply step state event) rest)

instance decidableAlways (step : State → Event → Except Failure State)
    (good : State → Prop) [DecidablePred good] :
    ∀ (state : State) (events : List Event), Decidable (Always step good state events)
  | state, [] => inferInstanceAs (Decidable (good state))
  | state, event :: rest =>
    @instDecidableAnd _ _ inferInstance (decidableAlways step good (apply step state event) rest)

end MercControl.Library.Machine
