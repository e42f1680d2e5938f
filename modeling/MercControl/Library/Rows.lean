import Mathlib.Algebra.Order.BigOperators.Group.List
import Mathlib.Algebra.Order.Ring.Int
import Mathlib.Data.List.Nodup

/-!
# Rows of a table

A table is the list of its rows in insertion order.  `sumWhere` sums an amount
over the selected rows, `updateWhere` changes them in place.
-/

namespace MercControl.Library.Rows

variable {Row Key : Type*}

/-- `SELECT COALESCE(SUM(amount),0) FROM rows WHERE selected`. -/
def sumWhere (selected : Row → Bool) (amount : Row → Int) : List Row → Int
  | [] => 0
  | row :: rest => (if selected row then amount row else 0) + sumWhere selected amount rest

/-- `UPDATE rows SET change WHERE selected`. -/
def updateWhere (selected : Row → Bool) (change : Row → Row) : List Row → List Row :=
  List.map fun row => if selected row then change row else row

variable {selected : Row → Bool} {amount : Row → Int} {rows : List Row}
  {changed : Row → Bool} {change : Row → Row} {key : Row → Key}

@[simp]
theorem sumWhere_nil : sumWhere selected amount [] = 0 := rfl

@[simp]
theorem sumWhere_cons (row : Row) (rest : List Row) : sumWhere selected amount (row :: rest) =
      (if selected row then amount row else 0) + sumWhere selected amount rest := rfl

theorem sumWhere_eq_sum (rows : List Row) : sumWhere selected amount rows =
      (rows.map fun row => if selected row then amount row else 0).sum := by
  induction rows with
  | nil => rfl
  | cons row rest ih => rw [sumWhere_cons, ih, List.map_cons, List.sum_cons]

@[simp]
theorem sumWhere_append (left right : List Row) : sumWhere selected amount (left ++ right) =
      sumWhere selected amount left + sumWhere selected amount right := by
  simp [sumWhere_eq_sum]

section

variable {other : Row → Bool} {second : Row → Int}

theorem sumWhere_eq_of_rowwise (rowwise : ∀ row ∈ rows,
      (if selected row then amount row else 0) = if other row then second row else 0) :
    sumWhere selected amount rows = sumWhere other second rows := by
  rw [sumWhere_eq_sum, sumWhere_eq_sum, List.map_congr_left rowwise]

theorem sumWhere_le_of_rowwise (rowwise : ∀ row ∈ rows,
      (if selected row then amount row else 0) ≤ if other row then second row else 0) :
    sumWhere selected amount rows ≤ sumWhere other second rows := by
  rw [sumWhere_eq_sum, sumWhere_eq_sum]
  exact List.sum_le_sum rowwise

end

theorem sumWhere_add (other : Row → Int) (rows : List Row) :
    sumWhere selected (fun row => amount row + other row) rows =
      sumWhere selected amount rows + sumWhere selected other rows := by
  simp only [sumWhere_eq_sum, ← List.sum_map_add]
  congr 2
  funext row
  split_ifs <;> simp

section

variable (nonneg : ∀ row ∈ rows, selected row = true → 0 ≤ amount row)

include nonneg

theorem weight_nonneg :
    ∀ weight ∈ rows.map fun row => if selected row then amount row else 0, 0 ≤ weight := by
  intro weight mem
  obtain ⟨row, isRow, rfl⟩ := List.mem_map.mp mem
  split_ifs with chosen
  · exact nonneg row isRow chosen
  · exact Int.le_refl 0

theorem sumWhere_nonneg : 0 ≤ sumWhere selected amount rows := by
  rw [sumWhere_eq_sum]
  exact List.sum_nonneg (weight_nonneg nonneg)

end

theorem sumWhere_eq_zero (zero : ∀ row ∈ rows, selected row = true → amount row = 0) :
    sumWhere selected amount rows = 0 := by
  rw [sumWhere_eq_sum]
  apply List.sum_eq_zero
  intro weight mem
  obtain ⟨row, isRow, rfl⟩ := List.mem_map.mp mem
  split_ifs with chosen
  · exact zero row isRow chosen
  · rfl

theorem sumWhere_map {Other : Type*} (change : Other → Row) (rows : List Other) :
    sumWhere selected amount (rows.map change) =
      sumWhere (fun row => selected (change row)) (fun row => amount (change row)) rows := by
  rw [sumWhere_eq_sum, sumWhere_eq_sum, List.map_map]
  rfl

theorem sumWhere_updateWhere_le (lowered : ∀ row ∈ rows, changed row = true →
      (if selected (change row) then amount (change row) else 0) ≤
        if selected row then amount row else 0) :
    sumWhere selected amount (updateWhere changed change rows) ≤ sumWhere selected amount rows := by
  rw [updateWhere, sumWhere_map]
  apply sumWhere_le_of_rowwise
  intro row mem
  by_cases touched : changed row = true
  · simpa only [touched, if_true] using lowered row mem touched
  · simp [touched]

theorem sumWhere_eq_zero_iff (nonneg : ∀ row ∈ rows, selected row = true → 0 ≤ amount row) :
    sumWhere selected amount rows = 0 ↔ ∀ row ∈ rows, selected row = true → amount row = 0 := by
  refine ⟨?_, sumWhere_eq_zero⟩
  intro total row mem chosen
  rw [sumWhere_eq_sum] at total
  have zero := List.all_zero_of_le_zero_le_of_sum_eq_zero (weight_nonneg nonneg) total
    (List.mem_map_of_mem mem)
  rwa [if_pos chosen] at zero

theorem sumWhere_split (test : Row → Bool) (rows : List Row) : sumWhere selected amount rows =
      sumWhere (fun row => selected row && test row) amount rows +
        sumWhere (fun row => selected row && !test row) amount rows := by
  simp only [sumWhere_eq_sum, ← List.sum_map_add]
  congr 2
  funext row
  cases selected row <;> cases test row <;> simp

theorem sumWhere_ite (rows : List Row) :
    sumWhere (fun _ => true) (fun row => if selected row then amount row else 0)
        rows = sumWhere selected amount rows :=
  sumWhere_eq_of_rowwise fun _ _ => if_pos rfl

theorem sumWhere_le_of_imp {wider : Row → Bool}
    (implies : ∀ row ∈ rows, selected row = true → wider row = true)
    (nonneg : ∀ row ∈ rows, wider row = true → 0 ≤ amount row) :
    sumWhere selected amount rows ≤ sumWhere wider amount rows := by
  apply sumWhere_le_of_rowwise
  intro row mem
  split_ifs with chosen wide wide
  · exact le_rfl
  · exact absurd (implies row mem chosen) wide
  · exact nonneg row mem wide
  · exact le_rfl

theorem sumWhere_sublist [BEq Key] [LawfulBEq Key]
    {part rows : List Row} (isPart : part.Sublist rows) (distinct : (rows.map key).Nodup) :
    sumWhere (fun row => part.any fun other => key other == key row) amount
        rows = sumWhere (fun _ => true) amount part := by
  induction isPart with
  | slnil => rfl
  | cons row isPart ih =>
    rw [List.map_cons, List.nodup_cons] at distinct
    rw [sumWhere_cons, ih distinct.2, if_neg, Int.zero_add]
    intro chosen
    obtain ⟨other, inPart, same⟩ := List.any_eq_true.mp chosen
    apply distinct.1
    rw [← beq_iff_eq.mp same]
    exact List.mem_map_of_mem (isPart.subset inPart)
  | cons_cons row isPart ih =>
    rw [List.map_cons, List.nodup_cons] at distinct
    rw [sumWhere_cons, sumWhere_cons, ← ih distinct.2, if_pos rfl, if_pos (by simp)]
    congr 1
    apply sumWhere_eq_of_rowwise
    intro later mem
    have ne : key row ≠ key later := by
      intro same
      exact distinct.1 (same ▸ List.mem_map_of_mem mem)
    rw [List.any_cons, beq_eq_false_iff_ne.mpr ne, Bool.false_or]

theorem updateWhere_eq_self (untouched : ∀ row ∈ rows, changed row = false) :
    updateWhere changed change rows = rows := by
  have rowwise : ∀ row ∈ rows, (if changed row then change row else row) = id row := by
    intro row mem
    simp [untouched row mem]
  rw [updateWhere, List.map_congr_left rowwise, List.map_id]

variable {row : Row}

/-- Replacing the one row with a given key moves the sum by the change of that
row. -/
theorem sumWhere_updateWhere_key [BEq Key] [LawfulBEq Key] (selected : Row → Bool)
    (amount : Row → Int) (change : Row → Row) (distinct : (rows.map key).Nodup) (mem : row ∈ rows) :
    sumWhere selected amount (updateWhere (fun other => key other == key row) change rows) =
      sumWhere selected amount rows - (if selected row then amount row else 0) +
        (if selected (change row) then amount (change row) else 0) := by
  induction rows with
  | nil => cases mem
  | cons first rest ih =>
    rw [List.map_cons, List.nodup_cons] at distinct
    rcases List.mem_cons.mp mem with same | later
    · subst same
      have restKept : updateWhere (fun other => key other == key row) change rest = rest := by
        apply updateWhere_eq_self
        intro other otherMem
        have ne : key other ≠ key row := by
          intro equal
          exact distinct.1 (equal ▸ List.mem_map_of_mem otherMem)
        exact beq_eq_false_iff_ne.mpr ne
      rw [updateWhere] at restKept ⊢
      rw [List.map_cons, restKept]
      simp only [beq_self_eq_true, if_true, sumWhere_cons]
      omega
    · have ne : key first ≠ key row := by
        intro equal
        exact distinct.1 (equal ▸ List.mem_map_of_mem later)
      have tailMoved := ih distinct.2 later
      rw [updateWhere] at tailMoved ⊢
      rw [List.map_cons, sumWhere_cons, tailMoved]
      simp only [beq_eq_false_iff_ne.mpr ne, sumWhere_cons]
      simp only [Bool.false_eq_true, if_false]
      omega

theorem mem_updateWhere : row ∈ updateWhere changed change rows ↔
      ∃ before ∈ rows, (if changed before then change before else before) = row := by
  simp [updateWhere]

theorem forall_updateWhere {good : Row → Prop} (old : ∀ row ∈ rows, good row)
    (new : ∀ row ∈ rows, changed row = true → good (change row)) :
    ∀ row ∈ updateWhere changed change rows, good row := by
  intro row mem
  obtain ⟨before, beforeMem, rfl⟩ := mem_updateWhere.mp mem
  split_ifs with touched
  · exact new before beforeMem touched
  · exact old before beforeMem

theorem map_updateWhere (kept : ∀ row ∈ rows, changed row = true → key (change row) = key row) :
    (updateWhere changed change rows).map key = rows.map key := by
  rw [updateWhere, List.map_map]
  apply List.map_congr_left
  intro row mem
  by_cases touched : changed row = true
  · simp [touched, kept row mem touched]
  · simp [touched]

theorem test_updated {Result : Type*} {test : Row → Result}
    (kept : ∀ row, test (change row) = test row) :
    (test ∘ fun row => if changed row then change row else row) = test := by
  funext row
  by_cases touched : changed row = true
  · simp [touched, kept]
  · simp [touched]

theorem forall₂_updateWhere {related : Row → Row → Prop}
    (changes : ∀ row ∈ rows, changed row = true → related row (change row))
    (others : ∀ row ∈ rows, changed row = false → related row row) :
    List.Forall₂ related rows (updateWhere changed change rows) := by
  rw [updateWhere, List.forall₂_map_right_iff, List.forall₂_same]
  intro row mem
  cases touched : changed row with
  | true => exact changes row mem touched
  | false => exact others row mem touched

section

variable {related : Row → Row → Prop} {before after : List Row}

theorem exists_before (all : List.Forall₂ related before after)
    (mem : row ∈ after) : ∃ old ∈ before, related old row := by
  induction all with
  | nil => cases mem
  | cons head _ ih =>
    rcases List.mem_cons.mp mem with rfl | later
    · exact ⟨_, List.mem_cons_self, head⟩
    · obtain ⟨old, isOld, relation⟩ := ih later
      exact ⟨old, List.mem_cons_of_mem _ isOld, relation⟩

theorem exists_after (all : List.Forall₂ related before after)
    (mem : row ∈ before) : ∃ new ∈ after, related row new :=
  exists_before all.flip mem

theorem forall₂_comp {second both : Row → Row → Prop} {last : List Row}
    (compose : ∀ row middle final, related row middle → second middle final → both row final)
    (one : List.Forall₂ related before after) (two : List.Forall₂ second after last) :
    List.Forall₂ both before last := by
  induction one generalizing last with
  | nil =>
    cases two
    exact .nil
  | cons head _ ih =>
    cases two with
    | cons next rest => exact .cons (compose _ _ _ head next) (ih rest)

theorem map_eq_of_forall₂ (kept : ∀ row new, related row new → key new = key row)
    (all : List.Forall₂ related before after) : after.map key = before.map key := by
  induction all with
  | nil => rfl
  | cons head _ ih => rw [List.map_cons, List.map_cons, kept _ _ head, ih]

theorem sumWhere_forall₂ (kept : ∀ row new, related row new →
      (if selected new then amount new else 0) = if selected row then amount row else 0)
    (all : List.Forall₂ related before after) :
    sumWhere selected amount after = sumWhere selected amount before := by
  rw [sumWhere_eq_sum, sumWhere_eq_sum, map_eq_of_forall₂ kept all]

end

theorem forall_concat {good : Row → Prop} (old : ∀ other ∈ rows, good other) (new : good row) :
    ∀ other ∈ rows ++ [row], good other :=
  List.forall_mem_append.mpr ⟨old, List.forall_mem_singleton.mpr new⟩

theorem nodup_concat (distinct : (rows.map key).Nodup)
    (fresh : ∀ other ∈ rows, key other ≠ key row) : ((rows ++ [row]).map key).Nodup := by
  rw [List.map_append, List.nodup_append]
  refine ⟨distinct, List.nodup_singleton _, ?_⟩
  intro old isOld new isNew
  obtain ⟨other, mem, rfl⟩ := List.mem_map.mp isOld
  rw [List.mem_singleton.mp isNew]
  exact fresh other mem

end MercControl.Library.Rows
