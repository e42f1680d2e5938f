import Mathlib.Data.List.Range
import MercControl.Library.Machine

/-!
# Admissions under the current activation policy

A policy write appends a revision under the exclusive advisory lock.  A request
is classified under a snapshot, which is known by its revision, and the
transaction that writes the row compares the revision once more under the
shared lock.
-/

namespace MercControl.Activation

open Library Machine

abbrev ProcessId := Nat
abbrev AdmissionId := Nat

/-- How far an admission has come.  The last two stages are in its transaction. -/
inductive Stage
  | ingress
  | read
  /-- The snapshot of the process is behind. -/
  | behind
  | compared
  | captured
  | locked
  | guarded
  deriving DecidableEq

structure Admission where
  process : ProcessId
  stage : Stage
  /-- The revision that the admission read and expects. -/
  revision : Nat
  /-- The revisions of the snapshots that the classification used. -/
  classified : List Nat
  deriving DecidableEq

/-- The holder of the exclusive lock and the revision it has inserted. -/
structure Writer where
  process : ProcessId
  revision : Option Nat

structure State where
  /-- The policy revisions, in the order of their commits. -/
  revisions : List Nat
  writer : Option Writer
  /-- The holders of the shared lock. -/
  shared : List AdmissionId
  /-- The processes that have been through `loadActivationAtStartup`. -/
  serving : ProcessId → Bool
  /-- `activeRuntimeActivation`; 0 is the snapshot of the document. -/
  activation : ProcessId → Nat
  /-- Snapshots that a process holds and may yet install. -/
  fetched : List (ProcessId × Nat)
  admissions : AdmissionId → Option Admission

def State.empty : State where
  revisions := []
  writer := none
  shared := []
  serving := fun _ => false
  activation := fun _ => 0
  fetched := []
  admissions := fun _ => none

def State.latest (s : State) : Nat := s.revisions.foldl max 0

def adoptActivationIfNewer (s : State) (process : ProcessId) (candidate : Nat) : State :=
  if candidate ≤ s.activation process then s
  else { s with activation := Function.update s.activation process candidate }

def activationAdmissionRevision (captured current : Nat) : Nat :=
  if 0 < captured then captured else current

inductive Event
  /-- `lockActivationPolicy`, by an operator, a rollback or a seed. -/
  | lockPolicy (process : ProcessId)
  /-- `insertActivationPolicyLocked`. -/
  | insertPolicy
  | commitPolicy
  | rollbackPolicy
  | startup (process : ProcessId)
  /-- `readActivationSnapshot` of a refresh. -/
  | fetch (process : ProcessId)
  | install (process : ProcessId) (revision : Nat)
  | arrive (id : AdmissionId) (process : ProcessId)
  | readPolicy (id : AdmissionId)
  | compare (id : AdmissionId)
  | adopt (id : AdmissionId)
  | capture (id : AdmissionId)
  /-- A use of `currentActivation`, before or in the transaction. -/
  | classify (id : AdmissionId)
  | lockShared (id : AdmissionId)
  /-- The comparison of `guardActivationAdmissionTx`. -/
  | guard (id : AdmissionId)
  | commit (id : AdmissionId)
  /-- The request fails for another reason. -/
  | leave (id : AdmissionId)

inductive Failure
  | notAllowed
  | locked

def State.set (s : State) (id : AdmissionId) (admission : Option Admission) : State :=
  { s with admissions := Function.update s.admissions id admission }

def State.close (s : State) (id : AdmissionId) : State :=
  { s with shared := s.shared.filter (· ≠ id) }.set id none

def State.during (s : State) (id : AdmissionId) (stage : Stage)
    (body : Admission → Except Failure State) : Except Failure State :=
  match s.admissions id with
  | none => .error .notAllowed
  | some admission =>
    if admission.stage = stage then body admission else .error .notAllowed

def step (s : State) : Event → Except Failure State
  | .lockPolicy process =>
    if s.writer.isSome ∨ s.shared ≠ [] then .error .locked
    else .ok { s with writer := some ⟨process, none⟩ }
  | .insertPolicy =>
    match s.writer with
    | some ⟨process, none⟩ => .ok { s with writer := some ⟨process, some (s.latest + 1)⟩ }
    | _ => .error .notAllowed
  | .commitPolicy =>
    match s.writer with
    | some ⟨process, some revision⟩ =>
      .ok { s with
        revisions := s.revisions ++ [revision]
        writer := none
        fetched := (process, revision) :: s.fetched }
    | _ => .error .notAllowed
  | .rollbackPolicy => .ok { s with writer := none }
  | .startup process =>
    -- the migration has seeded the policies
    if s.serving process ∨ s.latest = 0 then .error .notAllowed
    else
      .ok { s with
        serving := Function.update s.serving process true
        activation := Function.update s.activation process s.latest }
  | .fetch process => .ok { s with fetched := (process, s.latest) :: s.fetched }
  | .install process revision =>
    if (process, revision) ∈ s.fetched then .ok (adoptActivationIfNewer s process revision)
    else .error .notAllowed
  | .arrive id process =>
    if s.serving process ∧ s.admissions id = none then
      .ok (s.set id (some ⟨process, .ingress, 0, []⟩))
    else .error .notAllowed
  | .readPolicy id =>
    s.during id .ingress fun admission =>
      .ok (s.set id (some { admission with stage := .read, revision := s.latest }))
  | .compare id =>
    s.during id .read fun admission =>
      if s.activation admission.process < admission.revision then
        .ok (s.set id (some { admission with stage := .behind }))
      else if admission.revision < s.activation admission.process then .ok (s.close id)
      else .ok (s.set id (some { admission with stage := .compared }))
  | .adopt id =>
    s.during id .behind fun admission =>
      .ok ((adoptActivationIfNewer s admission.process admission.revision).set id
        (some { admission with stage := .compared }))
  | .capture id =>
    s.during id .compared fun admission =>
      if s.activation admission.process = admission.revision then
        .ok (s.set id (some { admission with stage := .captured }))
      else .ok (s.close id)
  | .classify id =>
    match s.admissions id with
    | some ⟨process, stage, revision, classified⟩ =>
      if stage = .captured ∨ stage = .guarded then
        .ok (s.set id (some ⟨process, stage, revision, s.activation process :: classified⟩))
      else .error .notAllowed
    | none => .error .notAllowed
  | .lockShared id =>
    s.during id .captured fun admission =>
      if s.writer.isSome then .error .locked
      else
        .ok ({ s with shared := id :: s.shared }.set id
          (some { admission with
            stage := .locked
            revision := activationAdmissionRevision admission.revision
              (s.activation admission.process) }))
  | .guard id =>
    s.during id .locked fun admission =>
      if admission.revision = 0 ∨ s.latest ≠ admission.revision then .ok (s.close id)
      else .ok (s.set id (some { admission with stage := .guarded }))
  | .commit id => s.during id .guarded fun _ => .ok (s.close id)
  | .leave id => .ok (s.close id)

@[grind]
def Stage.bound : Stage → Bool
  | .captured | .locked | .guarded => true
  | _ => false

@[grind]
def Stage.inTransaction : Stage → Bool
  | .locked | .guarded => true
  | _ => false

@[grind cases]
structure AdmissionSound (s : State) (id : AdmissionId) (admission : Admission) : Prop where
  served : s.serving admission.process = true
  known : admission.revision ≤ s.latest
  positive : admission.stage ≠ .ingress → 0 < admission.revision
  unclassified : admission.stage.bound = false → admission.classified = []
  bound : admission.stage.bound = true → admission.revision ≤ s.activation admission.process
  classified : ∀ revision ∈ admission.classified,
    admission.revision ≤ revision ∧ revision ≤ s.latest
  holds : admission.stage.inTransaction = true → id ∈ s.shared
  current : admission.stage = .guarded → admission.revision = s.latest

@[grind cases]
structure Sound (s : State) : Prop where
  consecutive : s.revisions = List.range' 1 s.revisions.length
  excluded : s.writer.isSome = true → s.shared = []
  inserted : ∀ process revision, s.writer = some ⟨process, some revision⟩ → revision = s.latest + 1
  activation : ∀ process, s.activation process ≤ s.latest
  fetched : ∀ snapshot ∈ s.fetched, snapshot.2 ≤ s.latest
  seeded : ∀ process, s.serving process = true → 0 < s.latest
  admissions : ∀ id admission, s.admissions id = some admission → AdmissionSound s id admission

theorem sound_empty : Sound State.empty where
  consecutive := rfl
  excluded := fun _ => rfl
  inserted := nofun
  activation := fun _ => Nat.le_refl 0
  fetched := nofun
  seeded := nofun
  admissions := nofun

section

variable {s next : State} {id : AdmissionId} {admission : Admission}

theorem foldl_max_range' (count : Nat) : (List.range' 1 count).foldl max 0 = count := by
  induction count with
  | zero => rfl
  | succ count ih =>
    rw [List.range'_concat, List.foldl_append, ih]
    simp [Nat.add_comm]

theorem Sound.latest_eq (sound : Sound s) : s.latest = s.revisions.length := by
  rw [State.latest, sound.consecutive, foldl_max_range', List.length_range']

theorem AdmissionSound.mono (sound : AdmissionSound s id admission)
    (serving : ∀ process, s.serving process = true →
      next.serving process = true ∧ s.activation process ≤ next.activation process)
    (latest : s.latest ≤ next.latest)
    (shared : id ∈ s.shared → id ∈ next.shared ∧ next.latest = s.latest) :
    AdmissionSound next id admission := by
  have here := serving _ sound.served
  constructor <;> grind

section

variable (sound : Sound s)

include sound

theorem Sound.set {shared : List AdmissionId} {written : Option Admission}
    (excluded : s.writer.isSome = true → shared = [])
    (others : ∀ other, other ≠ id → other ∈ s.shared → other ∈ shared)
    (writes : ∀ admission, written = some admission →
      AdmissionSound { s with shared } id admission) :
    Sound ({ s with shared }.set id written) := by
  refine { sound with excluded, admissions := ?_ }
  intro other admission isAdmission
  by_cases isId : other = id
  · subst isId
    simp only [State.set, Function.update_self] at isAdmission
    exact (writes admission isAdmission).mono (fun _ same => ⟨same, le_rfl⟩) le_rfl
      fun mem => ⟨mem, rfl⟩
  · simp only [State.set, Function.update_of_ne isId] at isAdmission
    exact (sound.admissions other admission isAdmission).mono
      (fun _ same => ⟨same, le_rfl⟩) le_rfl
      fun mem => ⟨others other isId mem, rfl⟩

theorem Sound.write (writes : AdmissionSound s id admission) :
    Sound (s.set id (some admission)) := by
  refine Sound.set sound sound.excluded (fun _ _ mem => mem) ?_
  rintro _ ⟨⟩
  exact writes

theorem Sound.close : Sound (s.close id) := by
  refine Sound.set sound ?_ ?_ nofun
  · intro isWriting
    rw [sound.excluded isWriting]
    rfl
  · intro other ne mem
    simp [mem, ne]

/-- A step of a writer or of a refresh.  A new revision needs the exclusive
lock. -/
theorem Sound.around {revisions : List Nat} {writer : Option Writer}
    {fetched : List (ProcessId × Nat)} (consecutive : revisions = List.range' 1 revisions.length)
    (grows : s.revisions.length ≤ revisions.length)
    (locked : revisions.length = s.revisions.length ∨ s.shared = [])
    (excluded : writer.isSome = true → s.shared = [])
    (inserted : ∀ process revision, writer = some ⟨process, some revision⟩ →
      revision = revisions.length + 1)
    (known : ∀ snapshot ∈ fetched, snapshot.2 ≤ revisions.length) :
    Sound { s with revisions, writer, fetched } := by
  have before := sound.latest_eq
  have after : State.latest
      { s with
        revisions, writer, fetched } =
        revisions.length := by
    rw [State.latest, consecutive, foldl_max_range', List.length_range']
  constructor
  case admissions =>
    intro id admission isAdmission
    refine (sound.admissions id admission isAdmission).mono
      (fun _ same => ⟨same, le_rfl⟩) (by omega) ?_
    grind
  all_goals grind

theorem Sound.install {process : ProcessId} {serving : ProcessId → Bool} {revision : Nat}
    (newer : s.serving process = true → s.activation process ≤ revision) (ran : revision ≤ s.latest)
    (seeded : ∀ process, serving process = true → 0 < s.latest)
    (kept : ∀ process, s.serving process = true → serving process = true) :
    Sound
      { s with serving, activation := Function.update s.activation process revision } := by
  refine { sound with activation := ?_, seeded, admissions := ?_ }
  · intro other
    have already := sound.activation other
    grind [Function.update_apply, State.latest]
  · intro id admission isAdmission
    refine (sound.admissions id admission isAdmission).mono ?_
      le_rfl fun mem => ⟨mem, rfl⟩
    grind [Function.update_apply]

theorem Sound.adopt {process : ProcessId} {candidate : Nat} (ran : candidate ≤ s.latest) :
    Sound (adoptActivationIfNewer s process candidate) := by
  unfold adoptActivationIfNewer
  split_ifs
  · exact sound
  · exact sound.install (by omega) ran sound.seeded fun _ same => same

end

theorem during_ok {stage : Stage} {body : Admission → Except Failure State}
    (ran : s.during id stage body = .ok next) :
    ∃ admission, s.admissions id = some admission ∧
      admission.stage = stage ∧ body admission = .ok next := by
  unfold State.during at ran
  split at ran
  · cases ran
  · split_ifs at ran with isStage
    exact ⟨_, ‹_›, isStage, ran⟩

theorem step_sound (s : State) (event : Event) (next : State)
    (sound : Sound s) (ran : step s event = .ok next) : Sound next := by
  have latest := sound.latest_eq
  cases event with
  | lockPolicy =>
    obtain ⟨free, ran⟩ := ite_error_eq_ok.mp ran
    cases ran
    exact sound.around sound.consecutive le_rfl (.inl rfl)
      (by grind) nofun (latest ▸ sound.fetched)
  | insertPolicy =>
    simp only [step] at ran
    split at ran <;> cases ran
    exact sound.around sound.consecutive le_rfl (.inl rfl)
      (by grind) (by grind) (latest ▸ sound.fetched)
  | commitPolicy =>
    simp only [step] at ran
    split at ran <;> cases ran
    rename_i process revision isWriter
    have isNext := sound.inserted process revision isWriter
    have noneShared := sound.excluded (by rw [isWriter]; rfl)
    refine sound.around ?_ (by simp) (.inr noneShared) nofun nofun ?_
    · rw [List.length_append, List.length_singleton, List.range'_concat,
        ← sound.consecutive, isNext, latest, Nat.one_mul, Nat.add_comm 1]
    · grind
  | rollbackPolicy =>
    cases ran
    exact sound.around sound.consecutive le_rfl (.inl rfl) nofun
      nofun (latest ▸ sound.fetched)
  | fetch =>
    cases ran
    exact sound.around sound.consecutive le_rfl (.inl rfl)
      sound.excluded (latest ▸ sound.inserted) (by grind)
  | startup =>
    obtain ⟨_, ran⟩ := ite_error_eq_ok.mp ran
    cases ran
    exact sound.install (by grind) le_rfl (by grind) (by grind [Function.update_apply])
  | install =>
    simp only [step] at ran
    split_ifs at ran with isFetched
    cases ran
    exact sound.adopt (sound.fetched _ isFetched)
  | arrive =>
    simp only [step] at ran
    split_ifs at ran with served
    cases ran
    exact sound.write ⟨served.1, Nat.zero_le _, nofun, fun _ => rfl, nofun, nofun, nofun, nofun⟩
  | readPolicy id =>
    obtain ⟨admission, found, isStage, ran⟩ := during_ok ran
    have own := sound.admissions id admission found
    have seeded := sound.seeded _ own.served
    cases ran
    refine sound.write ?_
    constructor <;> grind
  | compare id | capture id | guard id =>
    obtain ⟨admission, found, isStage, ran⟩ := during_ok ran
    have own := sound.admissions id admission found
    split_ifs at ran
    all_goals
      cases ran
      first
      | exact sound.close
      | refine sound.write ?_
        constructor <;> grind
  | adopt id =>
    obtain ⟨admission, found, isStage, ran⟩ := during_ok ran
    cases ran
    have adopted : Sound (adoptActivationIfNewer s admission.process admission.revision) :=
      sound.adopt (sound.admissions id admission found).known
    have own := adopted.admissions id admission (by grind [adoptActivationIfNewer])
    refine adopted.write ?_
    constructor <;> grind
  | classify id =>
    simp only [step] at ran
    split at ran
    · rename_i process stage revision classified found
      split_ifs at ran with isStage
      cases ran
      have own := sound.admissions id _ found
      have known := sound.activation process
      refine sound.write ?_
      constructor <;> grind
    · cases ran
  | lockShared id =>
    obtain ⟨admission, found, isStage, ran⟩ := during_ok ran
    obtain ⟨free, ran⟩ := ite_error_eq_ok.mp ran
    cases ran
    have own := sound.admissions id admission found
    refine Sound.set sound (fun isWriting => (free isWriting).elim)
      (fun _ _ mem => List.mem_cons_of_mem _ mem) ?_
    rintro _ ⟨⟩
    constructor <;> grind [activationAdmissionRevision, State.latest]
  | commit =>
    obtain ⟨_, _, _, ran⟩ := during_ok ran
    cases ran
    exact sound.close
  | leave =>
    cases ran
    exact sound.close

theorem adoptActivationIfNewer_le (s : State) (process other : ProcessId) (candidate : Nat) :
    s.activation other ≤ (adoptActivationIfNewer s process candidate).activation other := by
  unfold adoptActivationIfNewer
  split_ifs
  · exact le_rfl
  · by_cases isProcess : other = process
    · subst isProcess
      simp only [Function.update_self]
      omega
    · simp [Function.update_of_ne isProcess]

theorem step_activation {event : Event} (ran : step s event = .ok next) (process : ProcessId)
    (isServing : s.serving process = true) : s.activation process ≤ next.activation process := by
  cases event with
  | install other revision =>
    simp only [step] at ran
    split_ifs at ran
    cases ran
    exact adoptActivationIfNewer_le s other process revision
  | adopt =>
    obtain ⟨admission, _, _, ran⟩ := during_ok ran
    cases ran
    exact adoptActivationIfNewer_le s admission.process process admission.revision
  | startup other =>
    obtain ⟨ready, ran⟩ := ite_error_eq_ok.mp ran
    cases ran
    have ne : process ≠ other := by
      rintro rfl
      exact ready (.inl isServing)
    simp [Function.update_of_ne ne]
  | lockPolicy | insertPolicy | commitPolicy | rollbackPolicy | fetch | arrive
  | readPolicy | compare | capture | classify | lockShared | guard | commit
  | leave =>
    have same : next.activation = s.activation := by
      grind [step, State.during, State.set, State.close]
    exact (congrFun same process).ge

theorem commit_current {id : AdmissionId} (sound : Sound s) (ran : step s (.commit id) = .ok next)
    {admission : Admission} (found : s.admissions id = some admission) :
    ∀ revision ∈ admission.revision :: admission.classified, revision = s.latest := by
  obtain ⟨_, isOther, isGuarded, _⟩ := during_ok ran
  obtain rfl := Option.mem_unique found isOther
  have own := sound.admissions id admission found
  have current := own.current isGuarded
  intro revision mem
  rcases List.mem_cons.mp mem with rfl | isClassified
  · exact current
  · have within := own.classified revision isClassified
    omega

end

/-- What the locks and the second comparison are for. -/
structure Governed (s : State) : Prop where
  /-- Policy revisions are allocated without gaps or repeats. -/
  consecutive : s.revisions = List.range' 1 s.revisions.length
  /-- An admission commits under the newest revision only. -/
  current : ∀ id next admission, step s (.commit id) = .ok next →
    s.admissions id = some admission →
      ∀ revision ∈ admission.revision :: admission.classified, revision = s.latest
  /-- The snapshot of a serving process does not go back. -/
  kept : ∀ event process, s.serving process = true →
    s.activation process ≤ (apply step s event).activation process

/-- However writers and admissions interleave, every admission that commits was
classified under the newest revision. -/
theorem admissions_governed (events : List Event) :
    Governed (run step State.empty events) := by
  have sound : Sound (run step State.empty events) :=
    invariant_run_of_preserved step_sound events sound_empty
  refine ⟨sound.consecutive, ?_, ?_⟩
  · exact fun _ _ _ ran found => commit_current sound ran found
  · intro event process isServing
    cases ran : step (run step State.empty events) event with
    | error => rw [apply_of_error ran]
    | ok =>
      rw [apply_of_ok ran]
      exact step_activation ran process isServing

/-- A second revision is committed while the first request is classified. -/
def overtaken : List Event :=
  [.lockPolicy 0, .insertPolicy, .commitPolicy, .startup 0, .startup 1,
   .arrive 7 0, .readPolicy 7, .compare 7, .capture 7, .classify 7,
   .lockPolicy 1, .insertPolicy, .commitPolicy, .lockShared 7, .guard 7,
   .arrive 8 0, .readPolicy 8, .compare 8, .adopt 8, .capture 8, .classify 8,
   .lockShared 8, .guard 8]

example :
    let s := run step State.empty overtaken
    (step s (.commit 7)).isOk = false ∧ (step s (.commit 8)).isOk = true ∧
      s.admissions 8 = some ⟨0, .guarded, 2, [2]⟩ := by
  decide

end MercControl.Activation
