import Mathlib.Data.List.Sort
import MercControl.Library.Table

/-!
# Ballots

`Table.least` keeps the least row of every key of a list.  What it keeps
depends on the set of the rows only, and sorted it is a canonical list.
`StrictMajority` is a choice that more than half of a list made; there is at
most one.
-/

namespace MercControl.Library.Table

variable {Row Key : Type*} {key : Row → Key} [DecidableEq Key]

def keepLesser (less : Row → Row → Bool) (kept : Table key) (row : Row) : Table key :=
  match absent : kept.find? (key row) with
  | none => kept.insert row absent
  | some current => if less row current then kept.set row else kept

def least (key : Row → Key) (less : Row → Row → Bool) (rows : List Row) : Table key :=
  rows.foldl (keepLesser less) empty

variable [LinearOrder Row]

/-- `row` is the least of the rows of its key. -/
def Leads (key : Row → Key) (rows : List Row) (row : Row) : Prop :=
  row ∈ rows ∧ ∀ other ∈ rows, key other = key row → row ≤ other

variable {less : Row → Row → Bool} {kept : Table key} {rows : List Row}
variable {row leader : Row} {k : Key}

omit [DecidableEq Key] in
theorem Leads.unique {other : Row} (leads : Leads key rows leader)
    (also : Leads key rows other) (same : key leader = key other) : leader = other :=
  le_antisymm (leads.2 other also.1 same.symm) (also.2 leader leads.1 same)

section

variable (orders : ∀ left right, less left right ↔ left < right)

include orders

theorem find?_keepLesser :
    (kept.keepLesser less row).find? k =
      if key row = k then some ((kept.find? k).elim row (min row)) else
        kept.find? k := by
  unfold keepLesser
  split
  next absent =>
      rw [find?_insert absent]
      by_cases same : key row = k
      · rw [← same, absent]
        simp
      · simp [same]
  next current found =>
      by_cases lesser : less row current
      · rw [if_pos lesser, find?_set found]
        by_cases same : key row = k
        · rw [← same, found]
          simp [min_eq_left ((orders row current).mp lesser).le]
        · simp [same]
      · rw [if_neg lesser]
        by_cases same : key row = k
        · have notLess : current ≤ row :=
            not_lt.mp fun below => lesser ((orders row current).mpr below)
          rw [if_pos same, ← same, found]
          simp [min_eq_right notLess]
        · rw [if_neg same]

theorem find?_foldl_keepLesser :
    (rows.foldl (keepLesser less) kept).find? k =
      ((kept.find? k).toList ++ rows.filter fun row => key row = k).min? := by
  induction rows generalizing kept with
  | nil => cases found : kept.find? k <;> simp [found]
  | cons row rest keepsRest =>
    rw [List.foldl_cons, keepsRest, find?_keepLesser orders]
    by_cases same : key row = k
    · cases kept.find? k with
      | none => simp [same]
      | some current =>
        have swap : min row current = min current row := min_comm _ _
        simp only [same, if_true, Option.elim_some, Option.toList_some,
          List.singleton_append, decide_true, List.filter_cons_of_pos,
          List.min?_cons', List.foldl_cons, swap]
    · simp [same]

theorem find?_least :
    (least key less rows).find? k = (rows.filter fun row => key row = k).min? := by
  rw [least, find?_foldl_keepLesser orders]
  simp [find?, empty]

theorem mem_least : leader ∈ (least key less rows).rows ↔ Leads key rows leader := by
  have found : (least key less rows).find? (key leader) = some leader ↔
      leader ∈ (least key less rows).rows ∧ key leader = key leader :=
    find?_eq_some
  rw [find?_least orders, List.min?_eq_some_iff] at found
  rw [Leads]
  simpa using found.symm

end

variable {others : List Row}

theorem least_perm (orders : ∀ left right, less left right ↔ left < right)
    (same : ∀ row, row ∈ rows ↔ row ∈ others) :
    (least key less rows).rows.Perm (least key less others).rows := by
  have nodup : ∀ table : Table key, table.rows.Nodup :=
    fun table => List.Nodup.of_map key table.distinct
  rw [List.perm_ext_iff_of_nodup (nodup _) (nodup _)]
  intro leader
  simp [mem_least orders, Leads, same]

end MercControl.Library.Table

namespace MercControl.Library

variable {Row : Type*} [LinearOrder Row] {rows others : List Row}

theorem insertionSort_eq_of_perm (perm : rows.Perm others) :
    rows.insertionSort (· ≤ ·) = others.insertionSort (· ≤ ·) := by
  refine List.Perm.eq_of_pairwise (fun left right _ _ => le_antisymm)
    (List.pairwise_insertionSort _ _) (List.pairwise_insertionSort _ _) ?_
  exact (List.perm_insertionSort _ _).trans (perm.trans (List.perm_insertionSort _ _).symm)

variable {Choice : Type*} [DecidableEq Choice] {choices : List Choice}
variable {choice other : Choice}

def support (choices : List Choice) (choice : Choice) : Nat :=
  choices.countP fun tested => tested = choice

def StrictMajority (choices : List Choice) (choice : Choice) : Prop :=
  choices.length < 2 * support choices choice
  deriving Decidable

theorem support_add_support_le (ne : choice ≠ other) :
    support choices choice + support choices other ≤ choices.length := by
  rw [support, support, List.length_eq_countP_add_countP fun tested => tested = choice]
  apply Nat.add_le_add_left
  apply List.countP_mono_left
  intro tested _ isOther
  rw [of_decide_eq_true isOther]
  simpa using ne.symm

variable (majority : StrictMajority choices choice)

include majority

theorem StrictMajority.unique (also : StrictMajority choices other) : choice = other := by
  by_contra ne
  have bound : support choices choice + support choices other ≤
      choices.length := support_add_support_le ne
  unfold StrictMajority at majority also
  omega

theorem StrictMajority.mem : choice ∈ choices := by
  have pos : 0 < support choices choice := by
    unfold StrictMajority at majority
    omega
  obtain ⟨_, mem, same⟩ := List.countP_pos_iff.mp pos
  exact of_decide_eq_true same ▸ mem

theorem find?_strictMajority :
    choices.find? (fun tested => StrictMajority choices tested) = some choice := by
  cases found : choices.find? (fun tested => StrictMajority choices tested) with
  | none => exact absurd (by simpa using majority) (List.find?_eq_none.mp found choice majority.mem)
  | some tested =>
    have also : StrictMajority choices tested := by simpa using List.find?_some found
    rw [also.unique majority]

end MercControl.Library
