import MercControl.Library.Table

/-!
# Tables that evolve

Rows change under their keys, and new rows are appended.  `Evolves related
fresh` says how.  It is closed under composition, so one fact about each
statement gives one about the transaction.
-/

namespace MercControl.Library.Table

universe u v

variable {Row : Type u} {Key : Type v} {key : Row → Key}

/-- Every row changed into a related one under its key, and the new rows are
fresh. -/
def Evolves (related : Row → Row → Prop) (fresh : Row → Prop) (before after : Table key) : Prop :=
  ∃ (change : Change key) (added : List Row),
    after.rows = before.rows.map change.apply ++ added ∧
      (∀ row ∈ before.rows, related row (change.apply row)) ∧
      ∀ row ∈ added, fresh row

namespace Evolves

variable {related : Row → Row → Prop} {fresh : Row → Prop}
variable {before middle after : Table key} {row : Row}

theorem refl (reflexive : ∀ row, related row row) (table : Table key) :
    Evolves related fresh table table :=
  ⟨⟨id, fun _ => rfl⟩, [], by simp, fun row _ => reflexive row, by simp⟩

variable {selected : Row → Bool} {change : Change key} {newer : Row → Prop}
  {amount earlier : Row → Int}

theorem update_cases
    (changes : ∀ row ∈ before.rows, selected row = true → related row (change.apply row))
    (others : ∀ row ∈ before.rows, selected row = false → related row row) :
    Evolves related fresh before (before.update selected change) := by
  refine ⟨change.where selected, [], ?_, ?_, by simp⟩
  · simp [Table.update, Table.map]
  intro row mem
  simp only [Change.where]
  cases chosen : selected row with
  | true => exact changes row mem chosen
  | false => exact others row mem chosen

theorem update (reflexive : ∀ row, related row row)
    (changes : ∀ row ∈ before.rows, selected row = true → related row (change.apply row)) :
    Evolves related fresh before (before.update selected change) :=
  update_cases changes fun row _ _ => reflexive row

theorem mono {weaker : Row → Row → Prop} (evolves : Evolves related fresh before after)
    (relates : ∀ old ∈ before.rows, ∀ row, related old row → weaker old row)
    (refreshes : ∀ row, fresh row → newer row) : Evolves weaker newer before after := by
  obtain ⟨change, added, rows, changes, news⟩ := evolves
  exact ⟨change, added, rows, fun row mem => relates row mem _ (changes row mem),
      fun row mem => refreshes row (news row mem)⟩

theorem relax {weaker : Row → Row → Prop} (evolves : Evolves related (fun _ => False) before after)
    (relates : ∀ old ∈ before.rows, ∀ row, related old row → weaker old row) :
    Evolves weaker fresh before after :=
  evolves.mono relates nofun

theorem trans {later next : Row → Row → Prop} {newest : Row → Prop}
    (first : Evolves related fresh before middle) (second : Evolves later newer middle after)
    (relates : ∀ old between row, related old between → later between row → next old row)
    (refreshes : ∀ between row, fresh between → later between row → newest row)
    (added : ∀ row, newer row → newest row) : Evolves next newest before after := by
  obtain ⟨change, early, rows, changes, news⟩ := first
  obtain ⟨further, late, restRows, furtherChanges, restNews⟩ := second
  refine ⟨⟨fun row => further.apply (change.apply row), fun row =>
      (further.kept _).trans (change.kept row)⟩,
    early.map further.apply ++ late, ?_, ?_, ?_⟩
  · rw [restRows, rows, List.map_append, List.map_map, List.append_assoc]
    rfl
  · intro row mem
    have between : change.apply row ∈ middle.rows := by
      rw [rows]
      exact List.mem_append_left _ (List.mem_map_of_mem mem)
    exact relates row _ _ (changes row mem) (furtherChanges _ between)
  · intro row mem
    rcases List.mem_append.mp mem with isEarly | isLate
    · obtain ⟨between, inEarly, rfl⟩ := List.mem_map.mp isEarly
      have inMiddle : between ∈ middle.rows := by
        rw [rows]
        exact List.mem_append_right _ inEarly
      exact refreshes between _ (news between inEarly) (furtherChanges between inMiddle)
    · exact added row (restNews row isLate)

theorem trans_update {next : Row → Row → Prop} (first : Evolves related fresh before middle)
    (untouched : ∀ row, fresh row → selected row = false)
    (kept : ∀ old row, related old row → selected row = false → next old row)
    (changed : ∀ old row, related old row → selected row = true → next old (change.apply row)) :
    Evolves next fresh before (middle.update selected change) := by
  have second : Evolves (fun old row => row = if selected old then change.apply old else old)
      (fun _ => False) middle (middle.update selected change) :=
    update_cases (fun _ _ chosen => (if_pos chosen).symm) fun _ _ left => by simp [left]
  refine first.trans second ?_ ?_ nofun
  · rintro old between row relates rfl
    split_ifs with chosen
    · exact changed old between relates chosen
    · exact kept old between relates (Bool.eq_false_iff.mpr chosen)
  · rintro between row isFresh rfl
    rw [untouched between isFresh]
    exact isFresh

theorem added_unused {change : Change key} {added : List Row}
    (rows : after.rows = (before.map change).rows ++ added) (isNew : row ∈ added) :
    ∀ old ∈ before.rows, key old ≠ key row := by
  intro old inBefore same
  have distinct := after.distinct
  rw [rows, List.map_append, List.nodup_append] at distinct
  refine distinct.2.2 (key old) ?_ (key row) (List.mem_map_of_mem isNew) same
  exact List.mem_map.mpr ⟨_, List.mem_map_of_mem inBefore, change.kept old⟩

section

variable (evolves : Evolves related fresh before after)

include evolves

theorem mem_cases (mem : row ∈ after.rows) :
    (∃ old ∈ before.rows, key row = key old ∧ related old row) ∨
      (fresh row ∧ ∀ old ∈ before.rows, key old ≠ key row) := by
  obtain ⟨change, _, rows, changes, news⟩ := evolves
  rw [rows] at mem
  rcases List.mem_append.mp mem with changed | isNew
  · obtain ⟨old, inBefore, rfl⟩ := List.mem_map.mp changed
    exact .inl ⟨old, inBefore, change.kept old, changes old inBefore⟩
  · exact .inr ⟨news row isNew, added_unused rows isNew⟩

theorem exists_after (mem : row ∈ before.rows) :
    ∃ next ∈ after.rows, key next = key row ∧ related row next := by
  obtain ⟨change, _, rows, changes, _⟩ := evolves
  refine ⟨change.apply row, ?_, change.kept row, changes row mem⟩
  rw [rows]
  exact List.mem_append_left _ (List.mem_map_of_mem mem)

theorem related_of_key {old : Row} (oldMem : old ∈ before.rows) (mem : row ∈ after.rows)
    (same : key row = key old) : related old row := by
  obtain ⟨_, nextMem, sameKey, relates⟩ := evolves.exists_after oldMem
  obtain rfl := eq_of_key nextMem mem (sameKey.trans same.symm)
  exact relates

theorem map_rows {View : Type*} {view : Row → View}
    (same : ∀ old row, related old row → view row = view old) :
    ∃ added : List Row, (∀ row ∈ added, fresh row) ∧
      after.rows.map view = before.rows.map view ++ added.map view := by
  obtain ⟨_, added, rows, changes, news⟩ := evolves
  refine ⟨added, news, ?_⟩
  rw [rows, List.map_append, List.map_map]
  congr 1
  exact List.map_congr_left fun row mem => same row _ (changes row mem)

theorem total_changed
    (zero : ∀ row, fresh row → (∀ old ∈ before.rows, key old ≠ key row) → amount row = 0) :
    ∃ change : Change key, (∀ row ∈ before.rows, related row (change.apply row)) ∧
      after.total amount = before.total fun row => amount (change.apply row) := by
  obtain ⟨change, added, rows, changes, news⟩ := evolves
  have nothing : Rows.sumWhere (fun _ => true) amount added = 0 := by
    refine Rows.sumWhere_eq_zero fun row mem _ => ?_
    exact zero row (news row mem) (added_unused rows mem)
  refine ⟨change, changes, ?_⟩
  rw [← total_map, Table.total, rows, Rows.sumWhere_append, nothing, Int.add_zero]
  rfl

theorem total (same : ∀ old ∈ before.rows, ∀ row, related old row → amount row = earlier old)
    (zero : ∀ row, fresh row → amount row = 0) : after.total amount = before.total earlier := by
  obtain ⟨_, changes, total⟩ := evolves.total_changed fun row isFresh _ => zero row isFresh
  rw [total]
  exact total_congr fun row mem => same row mem _ (changes row mem)

theorem total_le (less : ∀ old ∈ before.rows, ∀ row, related old row → amount row ≤ earlier old)
    (zero : ∀ row, fresh row → (∀ old ∈ before.rows, key old ≠ key row) → amount row = 0) :
    after.total amount ≤ before.total earlier := by
  obtain ⟨_, changes, total⟩ := evolves.total_changed zero
  rw [total]
  exact total_le_total fun row mem => less row mem _ (changes row mem)

end

theorem exists_before (evolves : Evolves related (fun _ => False) before after)
    (mem : row ∈ after.rows) : ∃ old ∈ before.rows, key row = key old ∧ related old row :=
  (evolves.mem_cases mem).resolve_right fun isNew => isNew.1

variable [DecidableEq Key] {k : Key}

theorem insert {row : Row} (reflexive : ∀ row, related row row)
    (unused : before.find? (key row) = none) (isFresh : fresh row) :
    Evolves related fresh before (before.insert row unused) :=
  ⟨⟨id, fun _ => rfl⟩, [row], by simp [Table.insert],
    fun old _ => reflexive old, by simpa using isFresh⟩

theorem set {old row : Row} (reflexive : ∀ row, related row row)
    (found : before.find? (key row) = some old) (relates : related old row) :
    Evolves related fresh before (before.set row) := by
  have kept : ∀ other : Row, key (if key other = key row then row else other) = key other := by
    intro other
    split_ifs with same
    · exact same.symm
    · rfl
  refine ⟨⟨fun other => if key other = key row then row else other, kept⟩, [],
    by simp [Table.set, Rows.updateWhere], ?_, by simp⟩
  intro other mem
  simp only
  split_ifs with same
  · obtain rfl := eq_of_find? found mem same
    exact relates
  · exact reflexive other

theorem find?_after (evolves : Evolves related fresh before after)
    (found : before.find? k = some row) : ∃ next, after.find? k = some next ∧ related row next := by
  obtain ⟨next, mem, same, relates⟩ := evolves.exists_after (mem_of_find? found)
  exact ⟨next, find?_eq_some.mpr ⟨mem, same.trans (key_of_find? found)⟩, relates⟩

theorem find?_cases (evolves : Evolves related fresh before after)
    (found : after.find? k = some row) :
    (∃ old, before.find? k = some old ∧ related old row) ∨ (before.find? k = none ∧ fresh row) := by
  have isKey := key_of_find? found
  rcases evolves.mem_cases (mem_of_find? found) with
    ⟨old, inBefore, same, relates⟩ | ⟨isFresh, unused⟩
  · exact .inl ⟨old, find?_eq_some.mpr ⟨inBefore, same.symm.trans isKey⟩, relates⟩
  · refine .inr ⟨?_, isFresh⟩
    apply List.find?_eq_none.mpr
    intro old inBefore chosen
    exact unused old inBefore ((beq_iff_eq.mp chosen).trans isKey.symm)

end Evolves

end MercControl.Library.Table
