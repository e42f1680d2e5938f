import MercControl.Library.Rows

/-!
# Tables with a primary key

A table is a list of rows together with the proof that no two rows have the
same key.  Rows are appended under a fresh key or written over the row with
their key.
-/

namespace MercControl.Library

universe u v

/-- Rows in insertion order, one for each key. -/
structure Table {Row : Type u} {Key : Type v} (key : Row → Key) where
  rows : List Row
  distinct : (rows.map key).Nodup

namespace Table

variable {Row : Type u} {Key : Type v} {key : Row → Key}

def empty : Table key := ⟨[], List.nodup_nil⟩

def total (amount : Row → Int) (table : Table key) : Int :=
  Rows.sumWhere (fun _ => true) amount table.rows

structure Change (key : Row → Key) where
  apply : Row → Row
  kept : ∀ row, key (apply row) = key row

/-- `UPDATE` of every row. -/
def map (table : Table key) (change : Change key) : Table key where
  rows := table.rows.map change.apply
  distinct := by
    have keys : (table.rows.map change.apply).map key = table.rows.map key := by
      rw [List.map_map]
      exact List.map_congr_left fun row _ => change.kept row
    rw [keys]
    exact table.distinct

def Change.where (change : Change key) (selected : Row → Bool) : Change key where
  apply := fun row => if selected row then change.apply row else row
  kept := by
    intro row
    split_ifs
    · exact change.kept row
    · rfl

/-- `UPDATE ... WHERE selected`. -/
def update (table : Table key) (selected : Row → Bool) (change : Change key) : Table key :=
  table.map (change.where selected)

variable {selected : Row → Bool} {change : Change key} {other : Row}

theorem mem_update {table : Table key} : other ∈ (table.update selected change).rows ↔
      ∃ before ∈ table.rows, other = if selected before then change.apply before else before := by
  simp only [update, map, Change.where, List.mem_map, eq_comm]

variable {good : Row → Prop}

theorem forall_update {table : Table key}
    (changed : ∀ row ∈ table.rows, selected row = true → good (change.apply row))
    (others : ∀ row ∈ table.rows, selected row = false → good row) :
    ∀ row ∈ (table.update selected change).rows, good row := by
  intro row mem
  obtain ⟨before, inTable, rfl⟩ := mem_update.mp mem
  split_ifs with chosen
  · exact changed before inTable chosen
  · exact others before inTable (by simpa using chosen)

/-- Every row changed into a related one under its key. -/
def Mapped (related : Row → Row → Prop) (before after : Table key) : Prop :=
  ∃ change : Change key, after = before.map change ∧
    ∀ row ∈ before.rows, related row (change.apply row)

section

variable {table after : Table key} {related : Row → Row → Prop}

theorem Mapped.refl (reflexive : ∀ row, related row row) (table : Table key) :
    Mapped related table table :=
  ⟨⟨id, fun _ => rfl⟩, by simp [map], fun row _ => reflexive row⟩

theorem Mapped.update (reflexive : ∀ row, related row row)
    (changes : ∀ row ∈ table.rows, selected row = true → related row (change.apply row)) :
    Mapped related table (table.update selected change) := by
  refine ⟨_, rfl, ?_⟩
  intro row mem
  simp only [Change.where]
  split_ifs with chosen
  · exact changes row mem chosen
  · exact reflexive row

theorem Mapped.mono {weaker : Row → Row → Prop} (mapped : Mapped related table after)
    (implies : ∀ before row, related before row → weaker before row) :
    Mapped weaker table after := by
  obtain ⟨change, isAfter, changes⟩ := mapped
  exact ⟨change, isAfter, fun row mem => implies row _ (changes row mem)⟩

theorem Mapped.exists_before (mapped : Mapped related table after) {row : Row}
    (mem : row ∈ after.rows) : ∃ before ∈ table.rows, related before row := by
  obtain ⟨_, rfl, changes⟩ := mapped
  obtain ⟨before, inTable, rfl⟩ := List.mem_map.mp mem
  exact ⟨before, inTable, changes before inTable⟩

end

/-- `UPDATE ... WHERE selected` under a trigger: refused as a whole when one
change is not allowed. -/
def updateAllowed (table : Table key) (allowed : Row → Row → Bool)
    (selected : Row → Bool) (change : Change key) : Option (Table key) :=
  if table.rows.any fun row => selected row && !allowed row (change.apply row) then none
  else some (table.update selected change)

theorem updateAllowed_eq_some {table next : Table key} {allowed : Row → Row → Bool} :
    table.updateAllowed allowed selected change = some next ↔
      (∀ row ∈ table.rows, selected row = true → allowed row (change.apply row) = true) ∧
      next = table.update selected change := by
  have legal : (¬ table.rows.any fun row => selected row && !allowed row (change.apply row)) ↔
      ∀ row ∈ table.rows, selected row = true → allowed row (change.apply row) = true := by simp
  rw [updateAllowed, Option.ite_none_left_eq_some, legal, Option.some_inj, eq_comm (a := next)]

theorem eq_of_key {table : Table key} {row : Row} (mem : row ∈ table.rows)
    (otherMem : other ∈ table.rows) (same : key row = key other) : row = other :=
  List.inj_on_of_nodup_map table.distinct mem otherMem same

section

variable {table : Table key} {row : Row} {amount : Row → Int}

@[simp]
theorem total_empty : (empty : Table key).total amount = 0 := rfl

theorem total_congr {other : Row → Int} (rowwise : ∀ row ∈ table.rows, amount row = other row) :
    table.total amount = table.total other :=
  Rows.sumWhere_eq_of_rowwise fun row mem => by rw [rowwise row mem]

theorem total_map (change : Change key) :
    (table.map change).total amount = table.total fun row => amount (change.apply row) :=
  Rows.sumWhere_map change.apply table.rows

theorem Mapped.total {after : Table key} {related : Row → Row → Prop}
    (mapped : Mapped related table after)
    (same : ∀ before ∈ table.rows, ∀ row, related before row → amount row = amount before) :
    after.total amount = table.total amount := by
  obtain ⟨_, rfl, changes⟩ := mapped
  rw [total_map]
  apply total_congr
  intro row mem
  exact same row mem _ (changes row mem)

theorem total_add (other : Row → Int) :
    (table.total fun row => amount row + other row) = table.total amount + table.total other :=
  Rows.sumWhere_add other table.rows

theorem total_sub (other : Row → Int) :
    (table.total fun row => amount row - other row) = table.total amount - table.total other := by
  rw [eq_sub_iff_add_eq, ← total_add]
  simp

theorem total_eq_zero (zero : ∀ row ∈ table.rows, amount row = 0) : table.total amount = 0 :=
  Rows.sumWhere_eq_zero fun row mem _ => zero row mem

theorem total_nonneg (nonneg : ∀ row ∈ table.rows, 0 ≤ amount row) : 0 ≤ table.total amount :=
  Rows.sumWhere_nonneg fun row mem _ => nonneg row mem

theorem total_le_total {larger : Row → Int}
    (rowwise : ∀ row ∈ table.rows, amount row ≤ larger row) :
    table.total amount ≤ table.total larger :=
  Rows.sumWhere_le_of_rowwise fun row mem => by simpa using rowwise row mem

theorem total_eq_sum : table.total amount = (table.rows.map amount).sum := by
  simp [total, Rows.sumWhere_eq_sum]

theorem total_le_mul_length {bound : Int} (rowwise : ∀ row ∈ table.rows, amount row ≤ bound) :
    table.total amount ≤ bound * table.rows.length := by
  have each : ∀ value ∈ table.rows.map amount, value ≤ bound := by simpa using rowwise
  have bounded := List.sum_le_card_nsmul _ _ each
  rw [total_eq_sum, Int.mul_comm]
  simpa using bounded

theorem total_le_of_mem (nonneg : ∀ row ∈ table.rows, 0 ≤ amount row) (mem : row ∈ table.rows) :
    amount row ≤ table.total amount := by
  rw [total_eq_sum]
  exact List.single_le_sum (by simpa using nonneg) _ (List.mem_map_of_mem mem)

end

variable [DecidableEq Key]

/-- `SELECT ... WHERE key = k`. -/
def find? (table : Table key) (k : Key) : Option Row := table.rows.find? fun row => key row == k

/-- `INSERT`, under a key that is not in use. -/
def insert (table : Table key) (row : Row) (fresh : table.find? (key row) = none) : Table key where
  rows := table.rows ++ [row]
  distinct := by
    refine Rows.nodup_concat table.distinct ?_
    intro other member equal
    have unused := List.find?_eq_none.mp fresh other member
    simp [equal] at unused

/-- `INSERT`, refused when the key is in use. -/
def insertNew (table : Table key) (row : Row) : Option (Table key) :=
  if fresh : table.find? (key row) = none then some (table.insert row fresh) else none

theorem insertNew_eq_some {table next : Table key} {row : Row} : table.insertNew row = some next ↔
      ∃ fresh : table.find? (key row) = none, next = table.insert row fresh := by
  unfold insertNew
  split_ifs with fresh
  · simp [fresh, eq_comm]
  · simp [fresh]

/-- `DELETE ... WHERE key = k`. -/
def remove (table : Table key) (k : Key) : Table key where
  rows := table.rows.filter fun row => !(key row == k)
  distinct := table.distinct.sublist (List.filter_sublist.map key)

/-- `UPDATE ... WHERE key = key row`: the row replaces the one with its
key. -/
def set (table : Table key) (row : Row) : Table key where
  rows := Rows.updateWhere (fun other => key other == key row) (fun _ => row) table.rows
  distinct := by
    have keys :
        (Rows.updateWhere (fun other => key other == key row) (fun _ => row)
          table.rows).map key = table.rows.map key :=
      Rows.map_updateWhere fun _ _ chosen => (beq_iff_eq.mp chosen).symm
    rw [keys]
    exact table.distinct

variable {table : Table key} {k : Key} {row old : Row} {amount : Row → Int}

theorem find?_eq_some : table.find? k = some row ↔ row ∈ table.rows ∧ key row = k := by
  constructor
  · intro found
    exact ⟨List.mem_of_find?_eq_some found, by simpa using List.find?_some found⟩
  · rintro ⟨mem, rfl⟩
    cases found : table.find? (key row) with
    | none =>
      have unused := List.find?_eq_none.mp found row mem
      simp at unused
    | some other =>
      have otherMem : other ∈ table.rows := List.mem_of_find?_eq_some found
      have sameKey : key other = key row := by simpa using List.find?_some found
      rw [eq_of_key otherMem mem sameKey]

theorem find?_of_mem (mem : row ∈ table.rows) : table.find? (key row) = some row :=
  find?_eq_some.mpr ⟨mem, rfl⟩

section

variable (found : table.find? k = some row)

include found

theorem mem_of_find? : row ∈ table.rows :=
  (find?_eq_some.mp found).1

theorem key_of_find? : key row = k := (find?_eq_some.mp found).2

theorem eq_of_find? (mem : other ∈ table.rows) (same : key other = k) : other = row :=
  Option.some.inj ((find?_eq_some.mpr ⟨mem, same⟩).symm.trans found)

end

theorem key_ne_of_find?_none (absent : table.find? k = none)
    (mem : row ∈ table.rows) : key row ≠ k := by
  intro same
  have found := find?_eq_some.mpr ⟨mem, same⟩
  rw [absent] at found
  cases found

theorem remove_of_none (absent : table.find? k = none) : table.remove k = table := by
  obtain ⟨rows, _⟩ := table
  have kept : rows.filter (fun row => !(key row == k)) = rows := by
    apply List.filter_eq_self.mpr
    intro row mem
    have unused := List.find?_eq_none.mp absent row mem
    simpa using unused
  simp [remove, kept]

theorem mem_insert {fresh : table.find? (key row) = none} :
    other ∈ (table.insert row fresh).rows ↔ other ∈ table.rows ∨ other = row := by
  simp [insert]

theorem mem_set (mem : other ∈ (table.set row).rows) :
    other = row ∨ (other ∈ table.rows ∧ key other ≠ key row) := by
  obtain ⟨before, beforeMem, rfl⟩ := Rows.mem_updateWhere.mp mem
  by_cases same : key before = key row
  · simp [same]
  · simp [same, beforeMem]

theorem forall_set (all : ∀ other ∈ table.rows, good other) (new : good row) :
    ∀ other ∈ (table.set row).rows, good other := by
  intro other mem
  rcases mem_set mem with isRow | ⟨inTable, _⟩
  · rw [isRow]
    exact new
  · exact all other inTable

section

variable (fresh : table.find? (key row) = none)

include fresh

theorem forall_insert (all : ∀ other ∈ table.rows, good other) (new : good row) :
    ∀ other ∈ (table.insert row fresh).rows, good other :=
  Rows.forall_concat all new

theorem find?_insert :
    (table.insert row fresh).find? k = if key row = k then some row else table.find? k := by
  by_cases same : key row = k
  · rw [if_pos same, find?_eq_some]
    exact ⟨mem_insert.mpr (.inr rfl), same⟩
  · simp [find?, insert, List.find?_append, same]

theorem find?_insert_of_some (found : table.find? k = some other) :
    (table.insert row fresh).find? k = some other := by
  rw [find?] at found
  rw [find?, insert, List.find?_append, found, Option.some_or]

theorem isSome_find?_insert : ((table.insert row fresh).find? k).isSome = true ↔
      key row = k ∨ (table.find? k).isSome = true := by
  rw [find?_insert]
  split_ifs with same <;> simp [same]

theorem find?_insert_self : (table.insert row fresh).find? (key row) = some row := by
  rw [find?_insert, if_pos rfl]

end

theorem find?_set_self (found : table.find? (key row) = some old) :
    (table.set row).find? (key row) = some row := by
  rw [find?_eq_some] at found ⊢
  refine ⟨Rows.mem_updateWhere.mpr ⟨old, found.1, ?_⟩, rfl⟩
  simp [found.2]

theorem find?_set_other (ne : key row ≠ k) : (table.set row).find? k = table.find? k := by
  cases found : table.find? k with
  | some other =>
    rw [find?_eq_some] at found ⊢
    refine ⟨Rows.mem_updateWhere.mpr ⟨other, found.1, ?_⟩, found.2⟩
    simp [found.2, Ne.symm ne]
  | none =>
    apply List.find?_eq_none.mpr
    intro other mem chosen
    rcases mem_set mem with isRow | ⟨inTable, _⟩
    · subst isRow
      exact ne (by simpa using chosen)
    · exact List.find?_eq_none.mp found other inTable chosen

theorem find?_set (found : table.find? (key row) = some old) :
    (table.set row).find? k = if key row = k then some row else table.find? k := by
  by_cases same : key row = k
  · rw [if_pos same, ← same]
    exact find?_set_self found
  · rw [if_neg same]
    exact find?_set_other same

theorem find?_set_at {place : Key} (found : table.find? place = some old)
    (same : key row = key old) :
    (table.set row).find? k = if place = k then some row else table.find? k := by
  obtain rfl := same.trans (key_of_find? found)
  exact find?_set found

theorem isSome_find?_set (found : table.find? (key row) = some old) :
    ((table.set row).find? k).isSome = (table.find? k).isSome := by
  rw [find?_set found]
  by_cases same : key row = k
  · rw [if_pos same, ← same, found]
    rfl
  · rw [if_neg same]

theorem find?_map : (table.map change).find? k = (table.find? k).map change.apply := by
  have sameKey : ((key · == k) ∘ change.apply) = (key · == k) := by
    funext row
    rw [Function.comp_apply, change.kept row]
  rw [find?, map, List.find?_map, sameKey, find?]

theorem find?_update : (table.update selected change).find? k =
      (table.find? k).map fun row => if selected row then change.apply row else row :=
  find?_map

theorem find?_update_of_selected (found : table.find? k = some row) (chosen : selected row = true) :
    (table.update selected change).find? k = some (change.apply row) := by
  rw [find?_update, found, Option.map_some, if_pos chosen]

/-- There is a row under the key and it is good. -/
def Holds (table : Table key) (k : Key) (good : Row → Prop) : Prop :=
  ∃ row, table.find? k = some row ∧ good row

instance (table : Table key) (k : Key) (good : Row → Prop)
    [DecidablePred good] : Decidable (table.Holds k good) :=
  decidable_of_iff (∃ row ∈ table.find? k, good row) Iff.rfl

theorem Holds.update (holds : table.Holds k good)
    (keeps : ∀ row, table.find? k = some row → selected row = true →
      good row → good (change.apply row)) : (table.update selected change).Holds k good := by
  obtain ⟨row, found, isGood⟩ := holds
  refine ⟨if selected row then change.apply row else row, ?_, ?_⟩
  · rw [find?_update, found]
    rfl
  · split_ifs with chosen
    · exact keeps row found chosen isGood
    · exact isGood

theorem Holds.update_other {other : Key} (holds : table.Holds k good)
    (found : table.find? other = some row) (bad : ¬ good row) :
    (table.update (key · == other) change).Holds k good := by
  refine holds.update ?_
  intro chosenRow isChosen chosen isGood
  rw [← key_of_find? isChosen, beq_iff_eq.mp chosen, found] at isChosen
  exact absurd isGood (Option.some.inj isChosen ▸ bad)

theorem Mapped.holds {after : Table key} {related : Row → Row → Prop}
    {better : Row → Prop} (mapped : Mapped related table after) (holds : table.Holds k good)
    (keeps : ∀ before row, related before row → good before → better row) :
    after.Holds k better := by
  obtain ⟨change, rfl, changes⟩ := mapped
  obtain ⟨row, found, isGood⟩ := holds
  refine ⟨change.apply row, ?_, keeps row _ (changes row (mem_of_find? found)) isGood⟩
  rw [find?_map, found]
  rfl

theorem Mapped.find?_before {after : Table key} {related : Row → Row → Prop}
    (mapped : Mapped related table after) (found : after.find? k = some row) :
    ∃ before, table.find? k = some before ∧ related before row := by
  obtain ⟨_, rfl, changes⟩ := mapped
  rw [find?_map] at found
  obtain ⟨before, isBefore, rfl⟩ := Option.map_eq_some_iff.mp found
  exact ⟨before, isBefore, changes before (mem_of_find? isBefore)⟩

theorem holds_update (found : table.find? k = some row) (chosen : selected row = true)
    (isGood : good (change.apply row)) : (table.update selected change).Holds k good :=
  ⟨change.apply row, find?_update_of_selected found chosen, isGood⟩

theorem Holds.set (holds : table.Holds k good) (found : table.find? (key row) = some old)
    (keeps : key row = k → good old → good row) : (table.set row).Holds k good := by
  obtain ⟨other, isOther, isGood⟩ := holds
  by_cases same : key row = k
  · rw [← same] at isOther
    rw [Option.mem_unique isOther found] at isGood
    refine ⟨row, ?_, keeps same isGood⟩
    rw [← same]
    exact find?_set_self found
  · exact ⟨other, (find?_set_other same).trans isOther, isGood⟩

theorem Holds.insert (holds : table.Holds k good) (fresh : table.find? (key row) = none) :
    (table.insert row fresh).Holds k good := by
  obtain ⟨other, found, isGood⟩ := holds
  exact ⟨other, find?_insert_of_some fresh found, isGood⟩

@[simp]
theorem total_insert (fresh : table.find? (key row) = none) :
    (table.insert row fresh).total amount = table.total amount + amount row := by
  simp [total, insert]

theorem total_set (found : table.find? (key row) = some old) :
    (table.set row).total amount = table.total amount - amount old + amount row := by
  have sameKey : key old = key row := key_of_find? found
  have moved := Rows.sumWhere_updateWhere_key (fun _ => true) amount (fun _ => row)
      table.distinct (mem_of_find? found)
  simp only [if_true, sameKey] at moved
  exact moved

end Table

end MercControl.Library
