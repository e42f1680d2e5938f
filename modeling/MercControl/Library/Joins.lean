import Mathlib.Algebra.Order.BigOperators.Group.Finset
import Mathlib.Data.Finset.Max
import MercControl.Library.Table

/-!
# Tables that sum up events

Each row of the table sums up the events reported under its key, in a way that
depends on the set of these events only.  Then two tables that have heard the
same events agree, in whatever order they came.
-/

namespace MercControl.Library.Table

variable {Row Key Event : Type*} {key : Row → Key} [DecidableEq Key]

/-- A key has a row exactly if an event was reported under it, and the row
sums up these events. -/
def Explains (sums : Row → Set Event → Prop) (table : Table key)
    (reports : Key → Set Event) : Prop :=
  ∀ k, (table.find? k).elim (reports k = ∅) fun row => sums row (reports k)

section

variable {sums : Row → Set Event → Prop} {table next : Table key}
variable {reports heard : Key → Set Event} {k : Key} {row : Row}

section

variable (explains : table.Explains sums reports)

include explains

theorem Explains.row_sums (found : table.find? k = some row) : sums row (reports k) := by
  have atKey := explains k
  rw [found] at atKey
  exact atKey

theorem Explains.eq_empty (absent : table.find? k = none) : reports k = ∅ := by
  have atKey := explains k
  rw [absent] at atKey
  exact atKey

theorem Explains.exists_row {event : Event} (reported : event ∈ reports k) :
    ∃ row, table.find? k = some row := by
  cases found : table.find? k with
  | none =>
    rw [explains.eq_empty found] at reported
    cases reported
  | some row => exact ⟨row, rfl⟩

theorem Explains.write {event : Event} (after : Option Row → Row)
    (lookups : ∀ other, next.find? other =
      if k = other then some (after (table.find? k)) else table.find? other)
    (reported : ∀ other, heard other =
      if k = other then Insert.insert event (reports other) else reports other)
    (first : sums (after none) {event})
    (further : ∀ row, table.find? k = some row → sums row (reports k) →
      sums (after (some row)) (Insert.insert event (reports k))) : next.Explains sums heard := by
  intro other
  rw [lookups, reported]
  by_cases same : k = other
  · subst same
    rw [if_pos rfl, if_pos rfl, Option.elim_some]
    cases found : table.find? k with
    | none =>
      rw [explains.eq_empty found, insert_empty_eq]
      exact first
    | some row => exact further row found (explains.row_sums found)
  · rw [if_neg same, if_neg same]
    exact explains other

theorem Explains.mapped {change : Row → Row}
    (lookups : ∀ other, next.find? other = (table.find? other).map change)
    (reported : ∀ other, heard other = reports other)
    (keeps : ∀ row events, sums row events → sums (change row) events) :
    next.Explains sums heard := by
  intro other
  rw [lookups, reported]
  cases found : table.find? other with
  | none => exact explains.eq_empty found
  | some row => exact keeps row _ (explains.row_sums found)

/-- What the set of events determines is the same in two tables that have
heard the same events. -/
theorem Explains.find?_map_eq {View : Type*} {view : Row → View} {other : Table key}
    (alike : other.Explains sums heard) (same : reports k = heard k)
    (heardSome : ∀ row, ¬ sums row ∅)
    (determined : ∀ row another events, sums row events →
      sums another events → view row = view another) :
    (table.find? k).map view = (other.find? k).map view := by
  cases found : table.find? k with
  | none =>
    cases alsoFound : other.find? k with
    | none => rfl
    | some another =>
      have merged := alike.row_sums alsoFound
      rw [← same, explains.eq_empty found] at merged
      exact absurd merged (heardSome another)
  | some row =>
    have merged := explains.row_sums found
    cases alsoFound : other.find? k with
    | none =>
      rw [same, alike.eq_empty alsoFound] at merged
      exact absurd merged (heardSome row)
    | some another =>
      rw [same] at merged
      exact congrArg some (determined row another _ merged (alike.row_sums alsoFound))

end

end

theorem total_eq_sum_keys (table : Table key) (amount : Row → Int) :
    table.total amount = ∑ k ∈ (table.rows.map key).toFinset, (table.find? k).elim 0 amount := by
  rw [total_eq_sum, List.sum_toFinset _ table.distinct, List.map_map]
  congr 1
  apply List.map_congr_left
  intro row mem
  have found := find?_of_mem mem
  rw [Function.comp_apply, found, Option.elim_some]

theorem elim_eq_zero {table : Table key} {k : Key} {amount : Row → Int}
    (unused : k ∉ (table.rows.map key).toFinset) : (table.find? k).elim 0 amount = 0 := by
  cases found : table.find? k with
  | none => rfl
  | some =>
    rw [List.mem_toFinset, ← key_of_find? found] at unused
    exact absurd (List.mem_map_of_mem (mem_of_find? found)) unused

theorem total_of_key (table : Table key) (k : Key) (amount : Row → Int) :
    (table.total fun row => if key row = k then amount row else 0) =
      (table.find? k).elim 0 amount := by
  have single : ∀ other ∈ (table.rows.map key).toFinset, other ≠ k →
      ((table.find? other).elim 0 fun row => if key row = k then amount row else 0) = 0 := by
    intro other _ ne
    cases found : table.find? other with
    | none => rfl
    | some =>
      have isOther := key_of_find? found
      rw [Option.elim_some, if_neg (by rw [isOther]; exact ne)]
  rw [total_eq_sum_keys, Finset.sum_eq_single k single]
  · cases found : table.find? k with
    | none => rfl
    | some => rw [Option.elim_some, Option.elim_some, if_pos (key_of_find? found)]
  · exact elim_eq_zero

omit [DecidableEq Key] in
theorem total_if (table : Table key) (test : Row → Bool) (bound : Int) :
    (table.total fun row => if test row then bound else 0) = bound * table.rows.countP test := by
  rw [total_eq_sum, List.sum_map_ite, List.countP_eq_length_filter]
  simp [Int.mul_comm]

section

variable {Owner OwnerKey : Type*} {ownerKey : Owner → OwnerKey}
variable [DecidableEq OwnerKey]

theorem sumWhere_comm (rows : List Row) (owners : List Owner) (amount : Row → Owner → Int) :
    Rows.sumWhere (fun _ => true)
        (fun row => Rows.sumWhere (fun _ => true) (amount row) owners) rows =
      Rows.sumWhere (fun _ => true)
        (fun owner => Rows.sumWhere (fun _ => true) (fun row => amount row owner) rows)
        owners := by
  simpa [Rows.sumWhere_eq_sum] using
    Multiset.sum_map_sum_map (rows : Multiset Row) (owners : Multiset Owner) (f := amount)

omit [DecidableEq Key] in
theorem total_owned (table : Table key) (owners : Table ownerKey)
    (owner : Row → Option OwnerKey) (amount : Row → Owner → Int) :
    (table.total fun row => ((owner row).bind owners.find?).elim 0 (amount row)) =
      owners.total fun other =>
        table.total fun row =>
          if owner row = some (ownerKey other) then amount row other else 0 := by
  have ofRow : ∀ row, ((owner row).bind owners.find?).elim 0 (amount row) =
        owners.total fun other =>
          if owner row = some (ownerKey other) then amount row other else 0 := by
    intro row
    cases isOwner : owner row with
    | none => exact (total_eq_zero fun other _ => by simp).symm
    | some =>
      rw [Option.bind_some, ← total_of_key]
      refine total_congr fun other _ => ?_
      simp [eq_comm]
  rw [total_congr fun row _ => ofRow row]
  exact sumWhere_comm _ _ _

end

theorem total_eq_of_find? {table other : Table key} {amount : Row → Int}
    (same : ∀ k, (table.find? k).elim 0 amount = (other.find? k).elim 0 amount) :
    table.total amount = other.total amount := by
  let keys := (table.rows.map key).toFinset ∪ (other.rows.map key).toFinset
  calc
    table.total amount = ∑ k ∈ keys, (table.find? k).elim 0 amount := by
      rw [total_eq_sum_keys]
      exact Finset.sum_subset Finset.subset_union_left fun k _ => elim_eq_zero
    _ = ∑ k ∈ keys, (other.find? k).elim 0 amount := Finset.sum_congr rfl fun k _ => same k
    _ = other.total amount := by
      rw [total_eq_sum_keys]
      exact (Finset.sum_subset Finset.subset_union_right fun k _ => elim_eq_zero).symm

end MercControl.Library.Table

namespace MercControl.Library.Rows

theorem sumWhere_eq_sum_toFinset {Row : Type*} [DecidableEq Row] {selected : Row → Bool}
    {amount : Row → Int} {rows : List Row} (distinct : rows.Nodup) :
    sumWhere selected amount rows = ∑ row ∈ rows.toFinset with selected row, amount row := by
  rw [sumWhere_eq_sum, Finset.sum_filter, List.sum_toFinset _ distinct]

/-- What the amounts exceed a limit by is made up of what each adds beyond the
limit to those before it. -/
theorem sum_beyond {Row Turn : Type*} [DecidableEq Row] [LinearOrder Turn] (turn : Row → Turn)
    {amount : Row → Int} {limit : Int} (limited : 0 ≤ limit) {rows : Finset Row}
    (nonneg : ∀ row ∈ rows, 0 ≤ amount row) (ordered : Set.InjOn turn rows) :
    ∑ row ∈ rows, max 0 (min (amount row)
        (∑ other ∈ rows with turn other ≤ turn row, amount other - limit)) =
      max 0 (∑ row ∈ rows, amount row - limit) := by
  induction rows using Finset.induction_on_max_value turn with
  | empty => simpa using limited
  | insert last rows new isLast ih =>
    have whole : (insert last rows).filter (turn · ≤ turn last) = insert last rows := by
      simpa using isLast
    have unaffected : ∀ row ∈ rows, (insert last rows).filter (turn · ≤ turn row) =
        rows.filter (turn · ≤ turn row) := by
      intro row mem
      have strict : turn row ≠ turn last := fun same =>
        new (ordered (by simp [mem]) (by simp) same ▸ mem)
      rw [Finset.filter_insert, if_neg ((isLast row mem).lt_of_ne strict).not_ge]
    have earlier := ih (fun row mem => nonneg row (by simp [mem])) (ordered.mono (by simp))
    have pos := nonneg last (by simp)
    rw [← Finset.sum_congr rfl fun row mem => congrArg (fun others =>
      max 0 (min (amount row) (∑ other ∈ others, amount other - limit)))
        (unaffected row mem)] at earlier
    rw [Finset.sum_insert new, whole, Finset.sum_insert new, earlier]
    omega

end MercControl.Library.Rows
