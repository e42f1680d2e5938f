import Mathlib.Data.List.Find
import MercControl.Library.Machine

/-!
# Rolling an activation policy back

The newest statement about each profile or cell is in force.  A rollback writes
the statements of a revision forward.  A statement of CANARY or ACTIVE counts
only if it comes from the document, to which a rollback row is traced by one
step.
-/

namespace MercControl.Activation.Policy

open Library Machine

inductive Lifecycle
  | draft
  | validated
  | realRuntimeProven
  | canary
  | active
  | quarantined
  | rejectedForContract
  | retired
  deriving DecidableEq

def Lifecycle.rank : Lifecycle → Nat
  | .quarantined | .retired | .rejectedForContract => 0
  | .draft => 1
  | .validated => 2
  | .realRuntimeProven => 3
  | .canary => 4
  | .active => 5

def runtimeLifecycleRoutable (state : Lifecycle) : Bool := state = .canary || state = .active

def directedReachableLifecycle (state : Lifecycle) : Bool :=
  decide (Lifecycle.validated.rank ≤ state.rank)

structure Cell where
  id : Nat
  lifecycle : Option Lifecycle
  /-- `benchmarkAuthorityFor`. -/
  receipt : Nat
  /-- `cellAuthorityBindable`. -/
  bindable : Bool
  deriving DecidableEq

structure Profile where
  id : Nat
  lifecycle : Lifecycle
  receipt : Nat
  cells : List Cell
  deriving DecidableEq

/-- The state of a cell, floored by its profile's. -/
def effectiveLifecycle (own : Option Lifecycle) (profile : Lifecycle) : Lifecycle :=
  match own with
  | none => profile
  | some own => if own.rank ≤ profile.rank then own else profile

/-- `activationKey`; `none` is the profile itself. -/
structure Key where
  profile : Nat
  cell : Option Nat
  deriving DecidableEq

/-- A lifecycle for each key that has one, as `runtimeActivation` keeps it. -/
abbrev Overlay := Key → Option Lifecycle

def profileLifecycle (overlay : Overlay) (profile : Profile) : Lifecycle :=
  (overlay ⟨profile.id, none⟩).getD profile.lifecycle

def cellLifecycle (overlay : Overlay) (profile : Profile) (cell : Cell) : Lifecycle :=
  effectiveLifecycle ((overlay ⟨profile.id, some cell.id⟩).or cell.lifecycle)
    (profileLifecycle overlay profile)

def cellRoutable (overlay : Overlay) (profile : Profile) (cell : Cell) : Bool :=
  cellLifecycle overlay profile cell = .active && cell.bindable

def cellDirected (overlay : Overlay) (profile : Profile) (cell : Cell) : Bool :=
  directedReachableLifecycle (cellLifecycle overlay profile cell)

/-- `ActivationPolicyEntry`. -/
structure Entry where
  key : Key
  lifecycle : Lifecycle
  routable : Bool
  receipt : Nat
  deriving DecidableEq

def Cell.entry (profile : Profile) (cell : Cell) : Entry :=
  let effective := effectiveLifecycle cell.lifecycle profile.lifecycle
  { key := ⟨profile.id, some cell.id⟩
    lifecycle := effective
    routable := effective = .active && cell.bindable
    receipt := cell.receipt }

def Profile.entry (profile : Profile) : Entry where
  key := ⟨profile.id, none⟩
  lifecycle := profile.lifecycle
  routable := profile.lifecycle = .active
  receipt := profile.receipt

def documentActivationEntries (document : List Profile) : List Entry :=
  document.flatMap fun profile => profile.entry :: profile.cells.map (Cell.entry profile)

inductive Source
  | document
  | operator
  | rollback (target : Nat)
  deriving DecidableEq

structure Row extends Entry where
  revision : Nat
  source : Source
  deriving DecidableEq

def newest (rows : List Row) (upTo : Nat) (key : Key) : Option Row :=
  rows.find? fun row => row.key = key && row.revision ≤ upTo

def latest (rows : List Row) : Nat := (rows.map Row.revision).foldr max 0

/-- `provenanceAuthorized`: `restored` is the source of the statement that a
rollback row restores. -/
def documentSourced : Source → Option Source → Bool
  | .document, _ => true
  | .operator, _ => false
  | .rollback _, restored => restored = some .document

def hasRoutableCell (document : List Profile) (profile : Nat) : Bool :=
  (document.find? (·.id = profile)).any fun profile =>
    profile.cells.any fun cell => (cell.entry profile).routable

def storedRoutableEntryHasCurrentGlobalAuthority (document : List Profile)
    (entry : Entry) (source : Source) (restored : Option Source) : Bool :=
  documentSourced source restored &&
    ((documentActivationEntries document).find? (·.key = entry.key)).any
      fun declared =>
        entry.lifecycle = declared.lifecycle && entry.receipt = declared.receipt &&
          (entry.lifecycle ≠ .active ||
            if entry.key.cell.isSome then declared.routable
            else hasRoutableCell document entry.key.profile)

def restoredSource (rows : List Row) (row : Row) : Option Source :=
  match row.source with
  | .rollback target => (newest rows target row.key).map Row.source
  | _ => none

/-- What `activationSnapshotFrom` makes of a statement. -/
def inForce (document : List Profile) (rows : List Row) (row : Row) : Option Lifecycle :=
  let restored := restoredSource rows row
  if !runtimeLifecycleRoutable row.lifecycle then some row.lifecycle
  else if storedRoutableEntryHasCurrentGlobalAuthority document row.toEntry row.source restored then
    some row.lifecycle
  else if documentSourced row.source restored then none
  else some .quarantined

def readActivationSnapshot (document : List Profile) (rows : List Row) : Overlay :=
  fun key => (newest rows (latest rows) key).bind (inForce document rows)

def snapshotAt (document : List Profile) (rows : List Row) (revision : Nat) : Overlay :=
  readActivationSnapshot document (rows.filter (·.revision ≤ revision))

inductive Event
  | seed
  /-- `ApplyActivationPolicy`. -/
  | operator (entries : List Entry)
  /-- `RollbackActivationPolicy`; `valid` is what the rules for cells say. -/
  | rollback (target : Nat) (valid : Bool)

inductive Refusal
  | noEntries
  | unregistered
  | noAuthority
  | invalid

/-- `syncActivationPolicy` writes what is missing or has drifted. -/
def unseeded (document : List Profile) (rows : List Row) : List Entry :=
  (documentActivationEntries document).filter fun entry =>
    match newest rows (latest rows) entry.key with
    | none => true
    | some stored =>
      stored.source = .document &&
        (stored.lifecycle ≠ entry.lifecycle || stored.receipt ≠ entry.receipt)

def insertActivationPolicy (rows : List Row) (entries : List Entry) (source : Source) : List Row :=
  entries.map (fun entry => ⟨entry, latest rows + 1, source⟩) ++ rows

/-- The statement a rollback writes: without authority it is a quarantine. -/
def restoredEntry (document : List Profile) (target : Nat) (row : Row) : Entry :=
  if runtimeLifecycleRoutable row.lifecycle &&
      !storedRoutableEntryHasCurrentGlobalAuthority document row.toEntry
        (.rollback target) (some row.source) then
    { row.toEntry with lifecycle := .quarantined, routable := false }
  else row.toEntry

/-- `DISTINCT ON (runtime_profile_id, cell_id)`. -/
def statementsAt (rows : List Row) (target : Nat) : List Row :=
  rows.filter fun row => newest rows target row.key = some row

def rollbackRows (document : List Profile) (rows : List Row) (target : Nat) : List Row :=
  insertActivationPolicy rows ((statementsAt rows target).map (restoredEntry document target))
    (.rollback target)

def step (document : List Profile) (rows : List Row) : Event → Except Refusal (List Row)
  | .seed =>
    .ok
      (if unseeded document rows = [] then rows
      else insertActivationPolicy rows (unseeded document rows) .document)
  | .operator entries =>
    if entries = [] then .error .noEntries
    else if entries.any fun entry =>
        !(documentActivationEntries document).any (·.key = entry.key) then
      .error .unregistered
    else if entries.any (runtimeLifecycleRoutable ·.lifecycle) then .error .noAuthority
    else .ok (insertActivationPolicy rows entries .operator)
  | .rollback target valid =>
    if statementsAt rows target = [] then .error .noEntries
    else if !valid then .error .invalid
    else .ok (rollbackRows document rows target)

/-- The migration seeds the table before anything else is written. -/
def seeded (document : List Profile) : List Row :=
  insertActivationPolicy [] (documentActivationEntries document) .document

section

variable {document : List Profile} {rows : List Row} {target upTo : Nat} {key : Key} {row : Row}

theorem revision_le_latest (mem : row ∈ rows) : row.revision ≤ latest rows := by
  induction rows with
  | nil => cases mem
  | cons first rest ih =>
    rcases List.mem_cons.mp mem with rfl | inRest
    · exact Nat.le_max_left _ _
    · exact Nat.le_trans (ih inRest) (Nat.le_max_right _ _)

theorem newest_latest : newest rows (latest rows) key = rows.find? (·.key = key) := by
  refine List.find?_congr fun row mem => ?_
  simp [revision_le_latest mem]

theorem find?_filter_revision :
    (rows.filter (·.revision ≤ target)).find? (·.key = key) = newest rows target key := by
  rw [List.find?_filter, newest]
  refine List.find?_congr fun row _ => ?_
  simp [and_comm]

theorem newest_key (found : newest rows target key = some row) : row ∈ rows ∧ row.key = key := by
  have holds := List.find?_some found
  simp only [Bool.and_eq_true, decide_eq_true_eq] at holds
  exact ⟨List.mem_of_find?_eq_some found, holds.1⟩

/-- The statements at a revision are the newest ones of their keys. -/
theorem find?_statementsAt :
    (statementsAt rows target).find? (·.key = key) = newest rows target key := by
  cases result : (statementsAt rows target).find? (·.key = key) with
  | none =>
    cases found : newest rows target key with
    | none => rfl
    | some row =>
      obtain ⟨mem, isKey⟩ := newest_key found
      have listed : row ∈ statementsAt rows target :=
        List.mem_filter.mpr ⟨mem, by simp [isKey, found]⟩
      have refused := List.find?_eq_none.mp result row listed
      exact (refused (by simp [isKey])).elim
  | some row =>
    have isKey : row.key = key := by simpa using List.find?_some result
    have listed := List.mem_filter.mp (List.mem_of_find?_eq_some result)
    rw [← isKey]
    exact (of_decide_eq_true listed.2).symm

theorem restoredEntry_key : (restoredEntry document target row).key = row.key := by
  unfold restoredEntry
  split_ifs <;> rfl

def restoredRow (document : List Profile) (rows : List Row) (target : Nat) (row : Row) : Row :=
  ⟨restoredEntry document target row, latest rows + 1, .rollback target⟩

theorem rollbackRows_eq : rollbackRows document rows target =
      (statementsAt rows target).map (restoredRow document rows target) ++ rows := by
  simp [rollbackRows, insertActivationPolicy, restoredRow]

theorem newest_rollbackRows (earlier : upTo ≤ latest rows) :
    newest (rollbackRows document rows target) upTo key = newest rows upTo key := by
  rw [newest, rollbackRows_eq, List.find?_append, List.find?_eq_none.mpr]
  · rfl
  intro row mem
  obtain ⟨_, _, rfl⟩ := List.mem_map.mp mem
  rw [Bool.and_eq_true]
  intro both
  have within : latest rows + 1 ≤ upTo := of_decide_eq_true both.2
  omega

theorem find?_rollbackRows : (rollbackRows document rows target).find? (·.key = key) =
      ((newest rows target key).map (restoredRow document rows target)).or
        (rows.find? (·.key = key)) := by
  rw [rollbackRows_eq, List.find?_append, List.find?_map]
  have same : (fun row : Row => decide (row.key = key)) ∘ restoredRow document rows target =
        fun row => decide (row.key = key) := by
    funext row
    simp [restoredRow, restoredEntry_key]
  rw [same, find?_statementsAt]

theorem snapshot_rollbackRows (earlier : target ≤ latest rows)
    (found : newest rows target key = some row) :
    readActivationSnapshot document (rollbackRows document rows target) key =
      some (restoredEntry document target row).lifecycle := by
  have isKey := (newest_key found).2
  have restored : restoredSource (rollbackRows document rows target)
      (restoredRow document rows target row) = some row.source := by
    simp [restoredSource, restoredRow, restoredEntry_key, isKey, newest_rollbackRows earlier, found]
  rw [readActivationSnapshot, newest_latest, find?_rollbackRows, found]
  simp only [Option.map_some, Option.some_or, Option.bind_some, inForce, restored]
  by_cases authorized : (runtimeLifecycleRoutable row.lifecycle &&
      !storedRoutableEntryHasCurrentGlobalAuthority document row.toEntry
        (.rollback target) (some row.source)) = true
  · simp only [restoredRow, restoredEntry, if_pos authorized]
    rfl
  · simp only [restoredRow, restoredEntry, if_neg authorized]
    split_ifs with notRoutable <;> simp_all

end

/-- Every statement of CANARY or ACTIVE in force at the revision was written
from the document and has its authority. -/
def Restorable (document : List Profile) (rows : List Row) (target : Nat) : Prop :=
  ∀ row ∈ statementsAt rows target,
    runtimeLifecycleRoutable row.lifecycle = true →
      row.source = .document ∧
        storedRoutableEntryHasCurrentGlobalAuthority document row.toEntry .document none = true

def SameAnswers (document : List Profile) (left right : Overlay) : Prop :=
  ∀ profile ∈ document,
    profileLifecycle left profile = profileLifecycle right profile ∧
      ∀ cell ∈ profile.cells, cellLifecycle left profile cell = cellLifecycle right profile cell ∧
        cellRoutable left profile cell = cellRoutable right profile cell ∧
        cellDirected left profile cell = cellDirected right profile cell

section

variable {document : List Profile} {rows : List Row} {target : Nat} {key : Key}

theorem sameAnswers_of_entries {left right : Overlay}
    (same : ∀ entry ∈ documentActivationEntries document, left entry.key = right entry.key) :
    SameAnswers document left right := by
  intro profile mem
  have own : left ⟨profile.id, none⟩ = right ⟨profile.id, none⟩ := by
    refine same profile.entry (List.mem_flatMap.mpr ⟨profile, mem, ?_⟩)
    exact List.mem_cons_self
  have ofProfile : profileLifecycle left profile = profileLifecycle right profile := by
    rw [profileLifecycle, profileLifecycle, own]
  refine ⟨ofProfile, fun cell cellMem => ?_⟩
  have ofCell : left ⟨profile.id, some cell.id⟩ = right ⟨profile.id, some cell.id⟩ := by
    refine same (cell.entry profile) (List.mem_flatMap.mpr ⟨profile, mem, ?_⟩)
    exact List.mem_cons_of_mem _ (List.mem_map.mpr ⟨cell, cellMem, rfl⟩)
  have lifecycle : cellLifecycle left profile cell = cellLifecycle right profile cell := by
    rw [cellLifecycle, cellLifecycle, ofCell, ofProfile]
  exact ⟨lifecycle, by rw [cellRoutable, cellRoutable, lifecycle],
    by rw [cellDirected, cellDirected, lifecycle]⟩

theorem snapshot_restored (restorable : Restorable document rows target)
    (earlier : target ≤ latest rows) {row : Row} (found : newest rows target key = some row) :
    readActivationSnapshot document (rollbackRows document rows target) key =
      snapshotAt document rows target key := by
  obtain ⟨mem, isKey⟩ := newest_key found
  have listed : row ∈ statementsAt rows target := List.mem_filter.mpr ⟨mem, by simp [isKey, found]⟩
  rw [snapshot_rollbackRows earlier found, snapshotAt,
    readActivationSnapshot, newest_latest, find?_filter_revision, found,
    Option.bind_some]
  have facts := restorable row listed
  cases routable : runtimeLifecycleRoutable row.lifecycle with
  | false => simp [restoredEntry, inForce, routable]
  | true =>
    obtain ⟨isDocument, authority⟩ := facts routable
    have same : storedRoutableEntryHasCurrentGlobalAuthority document
        row.toEntry (.rollback target) (some .document) = true := authority
    simp [restoredEntry, inForce, routable, isDocument, restoredSource, authority, same]

theorem newest_unrestored (absent : newest rows target key = none) (upTo : Nat) :
    newest (rollbackRows document rows target) upTo key = newest rows upTo key := by
  rw [newest, rollbackRows_eq, List.find?_append, List.find?_eq_none.mpr]
  · rfl
  intro row mem both
  obtain ⟨old, listed, rfl⟩ := List.mem_map.mp mem
  rw [← find?_statementsAt] at absent
  refine List.find?_eq_none.mp absent old listed ?_
  rw [Bool.and_eq_true] at both
  rw [← both.1, restoredRow, restoredEntry_key]

theorem snapshot_unrestored (absent : newest rows target key = none) :
    readActivationSnapshot document (rollbackRows document rows target) key =
      readActivationSnapshot document rows key := by
  rw [readActivationSnapshot, readActivationSnapshot, newest_latest,
    newest_latest, find?_rollbackRows, absent]
  cases found : rows.find? (·.key = key) with
  | none => rfl
  | some row =>
    have isKey : row.key = key := by simpa using List.find?_some found
    have same : restoredSource (rollbackRows document rows target) row =
        restoredSource rows row := by
      simp [restoredSource, isKey, newest_unrestored absent]
    simp [inForce, same]

theorem latest_rollbackRows : latest rows ≤ latest (rollbackRows document rows target) := by
  rw [rollbackRows_eq]
  induction statementsAt rows target with
  | nil => exact le_rfl
  | cons row rest ih => exact Nat.le_trans ih (Nat.le_max_right _ _)

theorem snapshot_rollback_twice (earlier : target ≤ latest rows) : readActivationSnapshot document
        (rollbackRows document (rollbackRows document rows target) target) =
      readActivationSnapshot document (rollbackRows document rows target) := by
  funext key
  have again : newest (rollbackRows document rows target) target key =
      newest rows target key := newest_rollbackRows earlier
  cases found : newest rows target key with
  | some =>
    rw [snapshot_rollbackRows (Nat.le_trans earlier latest_rollbackRows)
      (again.trans found), snapshot_rollbackRows earlier found]
  | none => exact snapshot_unrestored (again.trans found)

end

/-- Every profile and cell of the document has a statement. -/
def Seeded (document : List Profile) (rows : List Row) : Prop :=
  ∀ entry ∈ documentActivationEntries document, ∃ row ∈ rows, row.key = entry.key ∧ row.revision = 1

theorem step_subset {document : List Profile} {rows next : List Row}
    {event : Event} (ran : step document rows event = .ok next) : rows ⊆ next := by
  cases event <;> simp only [step] at ran
  · cases ran
    split_ifs
    · exact List.Subset.refl _
    · exact List.subset_append_right _ _
  all_goals
    split_ifs at ran
    cases ran
    exact List.subset_append_right _ _

theorem run_seeded (document : List Profile) (events : List Event) :
    Seeded document (run (step document) (seeded document) events) := by
  refine invariant_run_of_preserved ?_ events ?_
  · intro rows event next seeded ran entry mem
    obtain ⟨row, inRows, facts⟩ := seeded entry mem
    exact ⟨row, step_subset ran inRows, facts⟩
  · intro entry mem
    refine ⟨⟨entry, 1, .document⟩, ?_, rfl, rfl⟩
    simp only [seeded, insertActivationPolicy, List.append_nil]
    exact List.mem_map.mpr ⟨entry, mem, rfl⟩

/-- A rollback to an earlier revision gives the answers of that revision back,
and a second one changes nothing. -/
theorem rollback_restores (document : List Profile) (events : List Event)
    (target : Nat) (valid : Bool) (next : List Row) :
    let rows := run (step document) (seeded document) events
    1 ≤ target → target ≤ latest rows →
      step document rows (.rollback target valid) = .ok next →
        (Restorable document rows target →
          SameAnswers document (readActivationSnapshot document next)
            (snapshotAt document rows target)) ∧
        ∀ validAgain again,
          step document next (.rollback target validAgain) = .ok again →
            readActivationSnapshot document again = readActivationSnapshot document next := by
  intro rows positive earlier ran
  simp only [step] at ran
  split_ifs at ran
  cases ran
  constructor
  · intro restorable
    refine sameAnswers_of_entries fun entry member => ?_
    obtain ⟨row, inRows, isKey, isFirst⟩ := run_seeded document events entry member
    cases found : newest rows target entry.key with
    | some => exact snapshot_restored restorable earlier found
    | none =>
      refine (List.find?_eq_none.mp found row inRows ?_).elim
      simp [isKey, isFirst, positive]
  · intro validAgain again ran
    simp only [step] at ran
    split_ifs at ran
    cases ran
    exact snapshot_rollback_twice earlier

def servedProfile : Profile where
  id := 1
  lifecycle := .active
  receipt := 7
  cells := [⟨2, some .active, 7, true⟩]

def quarantineCell : Event := .operator [⟨⟨1, some 2⟩, .quarantined, false, 0⟩]

theorem rollback_restores_first :
    let document := [servedProfile]
    let rows := run (step document) (seeded document) [quarantineCell]
    Restorable document rows 1 ∧
      SameAnswers document (readActivationSnapshot document (rollbackRows document rows 1))
        (snapshotAt document rows 1) := by
  intro document rows
  have restorable : Restorable document rows 1 := by
    unfold Restorable
    decide
  exact ⟨restorable,
    (rollback_restores document [quarantineCell] 1 true _ (by decide) (by decide) rfl).1 restorable⟩

/-- The third revision is itself a rollback, and was in force with the cell
ACTIVE; rolling back to it quarantines the cell. -/
theorem rollback_to_rollback_quarantines :
    let document := [servedProfile]
    let rows := run (step document) (seeded document)
      [quarantineCell, .rollback 1 true, quarantineCell]
    ∃ next, step document rows (.rollback 3 true) = .ok next ∧
      (snapshotAt document rows 3) ⟨1, some 2⟩ = some .active ∧
      (readActivationSnapshot document next) ⟨1, some 2⟩ = some .quarantined ∧
      ¬ SameAnswers document (readActivationSnapshot document next)
        (snapshotAt document rows 3) := by
  intro document rows
  refine ⟨rollbackRows document rows 3, rfl, by decide, by decide, ?_⟩
  intro same
  exact absurd (same servedProfile (by decide)).1 (by decide)

end MercControl.Activation.Policy
