import Mathlib.Order.Nat
import MercControl.Library.Machine

/-!
# The key-value cache of the agent's model

`KvCacheSlot` keeps the keys (or values) of a batch in one preallocated buffer:
one row for each sequence, one slot for each token.  The operations are
specified by what they do to the live rows: the allocation cannot be observed.
-/

namespace MercControl.Agent

open Library

inductive Failure
  | shapeMismatch
  | indexOutOfRange
  | contextLengthExceeded
  | tokenizer
  deriving DecidableEq

def maxSeqLen : Nat := 8192

/-- A tensor, by its batch dimension and its sequence dimension. -/
structure Tensor (Entry : Type) where
  rows : List (List Entry)
  width : Nat
  aligned : ∀ row ∈ rows, row.length = width

theorem mem_zipWith {First Second Result : Type} {combine : First → Second → Result}
    {firsts : List First} {seconds : List Second} {result : Result}
    (mem : result ∈ List.zipWith combine firsts seconds) :
    ∃ first ∈ firsts, ∃ second ∈ seconds, combine first second = result := by
  rw [← List.map_uncurry_zip_eq_zipWith] at mem
  obtain ⟨⟨first, second⟩, inZip, same⟩ := List.mem_map.mp mem
  obtain ⟨firstMem, secondMem⟩ := List.of_mem_zip inZip
  exact ⟨first, firstMem, second, secondMem, same⟩

namespace Tensor

variable {Entry : Type}

def fromRows (rows : List (List Entry)) (width : Nat) : Except Failure (Tensor Entry) :=
  if aligned : ∀ row ∈ rows, row.length = width then
    .ok { rows, width, aligned }
  else .error .shapeMismatch

def zeros [Inhabited Entry] (batch width : Nat) : Tensor Entry where
  rows := List.replicate batch (List.replicate width default)
  width
  aligned := by
    intro row member
    rw [List.eq_of_mem_replicate member, List.length_replicate]

variable {tensor : Tensor Entry} {width offset : Nat} {source : Tensor Entry} {numbers : List Nat}

theorem take_aligned (fits : width ≤ tensor.width) :
    ∀ row ∈ tensor.rows.map (List.take width), row.length = width := by
  intro row mem
  obtain ⟨long, longMem, rfl⟩ := List.mem_map.mp mem
  rw [List.length_take, tensor.aligned long longMem, Nat.min_eq_left fits]

def narrow (tensor : Tensor Entry) (width : Nat) : Except Failure (Tensor Entry) :=
  if fits : width ≤ tensor.width then
    .ok { rows := tensor.rows.map (List.take width), width, aligned := take_aligned fits }
  else .error .indexOutOfRange

def overwrite (offset : Nat) (row source : List Entry) : List Entry :=
  row.take offset ++ source ++ row.drop (offset + source.length)

theorem overwrite_aligned (fits : offset + source.width ≤ tensor.width) :
    ∀ row ∈ List.zipWith (overwrite offset) tensor.rows source.rows, row.length = tensor.width := by
  intro row mem
  obtain ⟨old, oldMem, new, newMem, rfl⟩ := mem_zipWith mem
  have oldLength := tensor.aligned old oldMem
  have newLength := source.aligned new newMem
  simp only [overwrite, List.length_append, List.length_take,
    List.length_drop, oldLength, newLength]
  omega

def sliceSet (tensor source : Tensor Entry) (offset : Nat) : Except Failure (Tensor Entry) :=
  if source.rows.length ≠ tensor.rows.length then .error .shapeMismatch
  else if fits : offset + source.width ≤ tensor.width then
    .ok
      { rows := List.zipWith (overwrite offset) tensor.rows source.rows
        width := tensor.width
        aligned := overwrite_aligned fits }
  else .error .indexOutOfRange

theorem batch_of_sliceSet {next : Tensor Entry}
    (ran : tensor.sliceSet source offset = .ok next) : source.rows.length = tensor.rows.length := by
  unfold sliceSet at ran
  split_ifs at ran with differs
  exact not_not.mp differs

def select (rows : List (List Entry)) (numbers : List Nat) : List (List Entry) :=
  numbers.filterMap (rows[·]?)

theorem select_subset {rows : List (List Entry)}
    {row : List Entry} (mem : row ∈ select rows numbers) : row ∈ rows := by
  obtain ⟨_, _, found⟩ := List.mem_filterMap.mp mem
  exact List.mem_of_getElem? found

def indexSelect (tensor : Tensor Entry) (numbers : List Nat) : Except Failure (Tensor Entry) :=
  if ∀ number ∈ numbers, number < tensor.rows.length then
    .ok
      { rows := select tensor.rows numbers
        width := tensor.width
        aligned := fun row member => tensor.aligned row (select_subset member) }
  else .error .indexOutOfRange

end Tensor

/-- The keys and the values of all layers are kept in the same way, and one
slot stands for all of them. -/
structure KvCacheSlot (Entry : Type) where
  buf : Option (Tensor Entry)
  curLen : Nat
  cap : Nat

namespace KvCacheSlot

section

variable {Entry : Type} [Inhabited Entry]

def new : KvCacheSlot Entry where
  buf := none
  curLen := 0
  cap := maxSeqLen

def resetWithCap (_slot : KvCacheSlot Entry) (cap : Nat) : KvCacheSlot Entry where
  buf := none
  curLen := 0
  cap := min (max cap 1) maxSeqLen

def allocated (slot : KvCacheSlot Entry) (src : Tensor Entry) : Tensor Entry × Nat :=
  match slot.buf with
  | none =>
    (Tensor.zeros src.rows.length (min (max slot.cap (slot.curLen + src.width)) maxSeqLen), 0)
  | some buf => (buf, slot.curLen)

def grown (buf src : Tensor Entry) (curLen : Nat) : Except Failure (Tensor Entry) :=
  if buf.width < curLen + src.width then
    let grown := Tensor.zeros src.rows.length (min (curLen + src.width) maxSeqLen)
    if 0 < curLen then (buf.narrow curLen).bind fun live => grown.sliceSet live 0 else .ok grown
  else .ok buf

def append (slot : KvCacheSlot Entry) (src : Tensor Entry) :
    Except Failure (Tensor Entry × KvCacheSlot Entry) :=
  let (buf, curLen) := slot.allocated src
  (grown buf src curLen).bind fun buf =>
  (buf.sliceSet src curLen).bind fun buf =>
  (buf.narrow (curLen + src.width)).bind fun live =>
  .ok (live, { buf := some buf, curLen := curLen + src.width, cap := slot.cap })

def compact (slot : KvCacheSlot Entry) (numbers : List Nat) : Except Failure (KvCacheSlot Entry) :=
  match slot.buf with
  | none => .ok slot
  | some buf =>
    (buf.narrow slot.curLen).bind fun live =>
    (live.indexSelect numbers).bind fun kept =>
    ((Tensor.zeros kept.rows.length
      (min (max slot.cap slot.curLen) maxSeqLen)).sliceSet kept 0).bind fun buf =>
    .ok { slot with buf := some buf }

end

variable {Entry : Type}

structure Carries (buf : Tensor Entry) (curLen : Nat) (rows : List (List Entry)) : Prop where
  fits : curLen ≤ buf.width
  bounded : buf.width ≤ maxSeqLen
  same : buf.rows.map (List.take curLen) = rows

inductive Holds (slot : KvCacheSlot Entry) (rows : List (List Entry)) : Prop
  | empty (unallocated : slot.buf = none) (fresh : slot.curLen = 0) (blank : ∀ row ∈ rows, row = [])
  | live (buf : Tensor Entry) (allocated : slot.buf = some buf)
      (carries : Carries buf slot.curLen rows)

variable {buf src : Tensor Entry} {curLen : Nat} {rows : List (List Entry)}
  {slot : KvCacheSlot Entry}

theorem holds_resetWithCap (slot : KvCacheSlot Entry) (cap batch : Nat) :
    (slot.resetWithCap cap).Holds (List.replicate batch []) :=
  .empty rfl rfl (fun _ mem => List.eq_of_mem_replicate mem)

section

variable (carries : Carries buf curLen rows)

include carries

theorem Carries.batch : buf.rows.length = rows.length := by
  rw [← carries.same, List.length_map]

theorem Carries.length_eq : ∀ row ∈ rows, row.length = curLen := by
  rw [← carries.same]
  exact Tensor.take_aligned carries.fits

omit carries in
theorem Holds.length_eq (holds : slot.Holds rows) : ∀ row ∈ rows, row.length = slot.curLen := by
  cases holds with
  | empty _ fresh blank =>
    intro row mem
    rw [blank row mem, fresh]
    rfl
  | live buf _ carries => exact carries.length_eq

theorem Carries.narrow : buf.narrow curLen = .ok ⟨rows, curLen, carries.length_eq⟩ := by
  unfold Tensor.narrow
  rw [dif_pos carries.fits]
  simp [carries.same]

theorem Carries.sliceSet (batch : src.rows.length = rows.length)
    (room : curLen + src.width ≤ buf.width) :
    ∃ next, buf.sliceSet src curLen = .ok next ∧
      Carries next (curLen + src.width) (List.zipWith (· ++ ·) rows src.rows) := by
  unfold Tensor.sliceSet
  rw [if_neg (by rw [batch, carries.batch]; exact not_not.mpr rfl), dif_pos room]
  refine ⟨_, rfl, room, carries.bounded, ?_⟩
  rw [← carries.same, List.zipWith_map_left, List.map_zipWith,
    ← List.map_uncurry_zip_eq_zipWith, ← List.map_uncurry_zip_eq_zipWith]
  refine List.map_congr_left ?_
  rintro ⟨old, new⟩ inZip
  obtain ⟨oldMem, newMem⟩ := List.of_mem_zip inZip
  have short : (old.take curLen ++ new).length = curLen + src.width := by
    rw [List.length_append, List.length_take, buf.aligned old oldMem, src.aligned new newMem,
      Nat.min_eq_left carries.fits]
  simp only [Tensor.overwrite, Function.uncurry_apply_pair]
  rw [← short, List.take_left]

end

theorem zipWith_nil_append (rows : List (List Entry)) :
    List.zipWith (· ++ ·) (List.replicate rows.length []) rows = rows := by
  induction rows with
  | nil => rfl
  | cons row rows ih =>
    simp [List.replicate_succ, List.zipWith_cons_cons, ih]

section

variable [Inhabited Entry]

theorem carries_zeros {batch : Nat} (bounded : width ≤ maxSeqLen) :
    Carries (Tensor.zeros batch width : Tensor Entry) 0 (List.replicate batch []) where
  fits := Nat.zero_le _
  bounded
  same := by simp [Tensor.zeros]

theorem sliceSet_zeros (bounded : width ≤ maxSeqLen) (room : src.width ≤ width) : ∃ next,
      (Tensor.zeros src.rows.length width).sliceSet src 0 = .ok next ∧
        Carries next src.width src.rows ∧ next.width = width := by
  have blank : Carries (Tensor.zeros src.rows.length width : Tensor Entry) 0
        (List.replicate src.rows.length []) :=
    carries_zeros bounded
  have batch : src.rows.length = (List.replicate src.rows.length ([] : List Entry)).length := by
    rw [List.length_replicate]
  have fits : 0 + src.width ≤ width := by
    rwa [Nat.zero_add]
  obtain ⟨next, written, carries⟩ := blank.sliceSet batch fits
  rw [zipWith_nil_append, Nat.zero_add] at carries
  refine ⟨next, written, carries, ?_⟩
  unfold Tensor.sliceSet at written
  split_ifs at written
  · cases written
    rfl

theorem Holds.allocated (holds : slot.Holds rows) (batch : src.rows.length = rows.length) :
    Carries (slot.allocated src).1 slot.curLen rows ∧ (slot.allocated src).2 = slot.curLen := by
  cases holds with
  | empty unallocated fresh blank =>
    have isBlank : rows = List.replicate src.rows.length [] := by
      rw [batch]
      exact List.eq_replicate_of_mem blank
    unfold KvCacheSlot.allocated
    rw [unallocated, fresh, isBlank]
    exact ⟨carries_zeros (Nat.min_le_right _ _), rfl⟩
  | live buf isBuf carries =>
    unfold KvCacheSlot.allocated
    rw [isBuf]
    exact ⟨carries, rfl⟩

theorem Carries.grown (carries : Carries buf curLen rows) (batch : src.rows.length = rows.length) :
    ∃ next, KvCacheSlot.grown buf src curLen = .ok next ∧ Carries next curLen rows ∧
      (curLen + src.width ≤ maxSeqLen → curLen + src.width ≤ next.width) := by
  unfold KvCacheSlot.grown
  by_cases narrow : buf.width < curLen + src.width
  · rw [if_pos narrow]
    have bounded : min (curLen + src.width) maxSeqLen ≤ maxSeqLen := Nat.min_le_right _ _
    have curFits : curLen ≤ min (curLen + src.width) maxSeqLen :=
      Nat.le_min.mpr ⟨Nat.le_add_right _ _, Nat.le_trans carries.fits carries.bounded⟩
    by_cases used : 0 < curLen
    · rw [if_pos used, carries.narrow]
      let live : Tensor Entry := ⟨rows, curLen, carries.length_eq⟩
      obtain ⟨next, written, nextCarries, width⟩ : ∃ next,
            (Tensor.zeros live.rows.length (min (curLen + src.width) maxSeqLen)).sliceSet live 0 =
                .ok next ∧
              Carries next live.width live.rows ∧
              next.width = min (curLen + src.width) maxSeqLen :=
        sliceSet_zeros bounded curFits
      refine ⟨next, ?_, nextCarries, ?_⟩
      · rw [batch]
        exact written
      · intro fits
        rw [width]
        exact (Nat.min_eq_left fits).ge
    · have isZero : curLen = 0 := Nat.eq_zero_of_not_pos used
      subst isZero
      have blank : rows = List.replicate src.rows.length [] := by
        rw [batch]
        exact List.eq_replicate_of_mem fun row mem =>
          List.eq_nil_of_length_eq_zero (carries.length_eq row mem)
      refine ⟨_, rfl, ?_, ?_⟩
      · rw [blank]
        exact carries_zeros bounded
      · intro fits
        exact (Nat.min_eq_left fits).ge
  · rw [if_neg narrow]
    exact ⟨buf, rfl, carries, fun _ => Nat.le_of_not_lt narrow⟩

variable (holds : slot.Holds rows)

include holds

/-- An append adds to each live row, or there is no room for it. -/
theorem Holds.append (batch : src.rows.length = rows.length) :
    (slot.curLen + src.width ≤ maxSeqLen ∧ ∃ live next, slot.append src = .ok (live, next) ∧
        live.rows = List.zipWith (· ++ ·) rows src.rows ∧
        next.Holds (List.zipWith (· ++ ·) rows src.rows) ∧
        next.curLen = slot.curLen + src.width) ∨
      (maxSeqLen < slot.curLen + src.width ∧ slot.append src = .error .indexOutOfRange) := by
  obtain ⟨carries, sameLen⟩ := holds.allocated batch
  obtain ⟨room, made, roomCarries, enough⟩ := carries.grown batch
  unfold KvCacheSlot.append
  dsimp only
  rw [sameLen, made]
  dsimp only [Except.bind]
  by_cases fits : slot.curLen + src.width ≤ maxSeqLen
  · obtain ⟨next, written, nextCarries⟩ := roomCarries.sliceSet batch (enough fits)
    refine .inl ⟨fits, ?_⟩
    rw [written]
    dsimp only
    rw [nextCarries.narrow]
    exact ⟨_, _, rfl, rfl, .live next rfl nextCarries, rfl⟩
  · have tooLong : ¬ slot.curLen + src.width ≤ room.width := fun fit =>
      fits (Nat.le_trans fit roomCarries.bounded)
    refine .inr ⟨Nat.lt_of_not_le fits, ?_⟩
    unfold Tensor.sliceSet
    rw [if_neg (by rw [batch, roomCarries.batch]; exact not_not.mpr rfl), dif_neg tooLong]

/-- A cache in use takes a row for each of its rows, or nothing. -/
theorem Holds.batch_of_append {next : KvCacheSlot Entry} {live : Tensor Entry}
    (used : 0 < slot.curLen) (ran : slot.append src = .ok (live, next)) :
    src.rows.length = rows.length := by
  cases holds with
  | empty => omega
  | live buf isBuf carries =>
    unfold KvCacheSlot.append KvCacheSlot.allocated at ran
    rw [isBuf] at ran
    obtain ⟨_, made, ran⟩ := Machine.bind_eq_ok.mp ran
    obtain ⟨_, isWritten, _⟩ := Machine.bind_eq_ok.mp ran
    unfold KvCacheSlot.grown at made
    by_cases narrow : buf.width < slot.curLen + src.width
    · rw [if_pos narrow] at made
      rw [if_pos used, carries.narrow] at made
      have batch := Tensor.batch_of_sliceSet made
      rw [Tensor.zeros, List.length_replicate] at batch
      exact batch.symm
    · rw [if_neg narrow] at made
      cases made
      exact (Tensor.batch_of_sliceSet isWritten).trans carries.batch

theorem Holds.compact (inside : ∀ number ∈ numbers, number < rows.length) :
    ∃ next, slot.compact numbers = .ok next ∧ next.Holds (Tensor.select rows numbers) ∧
      next.curLen = slot.curLen := by
  cases holds with
  | empty unallocated fresh blank =>
    refine ⟨slot, ?_, .empty unallocated fresh ?_, rfl⟩
    · unfold KvCacheSlot.compact
      rw [unallocated]
    · intro row mem
      exact blank row (Tensor.select_subset mem)
  | live buf isBuf carries =>
    have bounded : min (max slot.cap slot.curLen) maxSeqLen ≤ maxSeqLen := Nat.min_le_right _ _
    have curFits : slot.curLen ≤ min (max slot.cap slot.curLen) maxSeqLen :=
      Nat.le_min.mpr ⟨Nat.le_max_right _ _, Nat.le_trans carries.fits carries.bounded⟩
    let kept : Tensor Entry :=
      ⟨Tensor.select rows numbers, slot.curLen, fun row mem =>
        carries.length_eq row (Tensor.select_subset mem)⟩
    obtain ⟨next, written, nextCarries, _⟩ : ∃ next, (Tensor.zeros kept.rows.length
              (min (max slot.cap slot.curLen) maxSeqLen)).sliceSet kept 0 =
              .ok next ∧
            Carries next kept.width kept.rows ∧
            next.width = min (max slot.cap slot.curLen) maxSeqLen :=
      sliceSet_zeros bounded curFits
    refine ⟨{ slot with buf := some next }, ?_, .live next rfl nextCarries, rfl⟩
    unfold KvCacheSlot.compact Tensor.indexSelect
    rw [isBuf]
    dsimp only
    rw [carries.narrow]
    dsimp only [Except.bind]
    rw [if_pos inside]
    dsimp only
    rw [written]

end

end KvCacheSlot

end MercControl.Agent
