import Mathlib.Data.List.Fold
import Mathlib.Data.List.GetD
import Mathlib.Data.List.MinMax
import MercControl.Agent.BatchRuns

/-!
# Decoding padded prompts

The prompts of a band are filled up to one length.  The mask hides the padding,
and the generated tokens of a row are cached behind it, at the positions they
would have alone.
-/

namespace MercControl.Agent

open Library Machine

variable {Prompt Text : Type}

variable {padLen fed seqCap remaining cachedLen : Nat} {prompt : List Token}
  {prompts : List (List Token)} {batch final : PaddedBatch}
  {predict : List Entry → Token} {model : ModelState}
  {predicted : Nat → Token} {backend : LlamaBackend Prompt Text}

theorem visible_append (forbidden : Nat → Bool) (first second : List Entry) :
    visible forbidden (first ++ second) =
      visible forbidden first ++ visible (fun slot => forbidden (first.length + slot)) second := by
  unfold visible
  rw [List.zipIdx_append, List.filter_append, List.map_append, Nat.zero_add]
  congr 1
  rw [List.zipIdx_eq_map_add, List.filter_map, List.map_map]
  rfl

variable {forbidden : Nat → Bool} {generated : List Token} {logits : List (List Token)}
  {input : Tensor Token}

theorem visible_of_none {row : List Entry}
    (hidden : ∀ slot < row.length, forbidden slot = true) : visible forbidden row = [] := by
  unfold visible
  rw [List.map_eq_nil_iff, List.filter_eq_nil_iff]
  intro entry mem
  rw [hidden entry.2 (List.snd_lt_of_mem_zipIdx mem)]
  simp

def cachedRow (padLen : Nat) (prompt generated : List Token) : List Entry :=
  (padded padLen prompt).zipIdx ++ generated.zipIdx prompt.length

/-- A mask that hides just the padding shows the row as it would be alone. -/
theorem visible_cachedRow (short : prompt.length ≤ padLen)
    (mask : ∀ slot < padLen + generated.length,
      forbidden slot = (decide (prompt.length ≤ slot) && decide (slot < padLen))) :
    visible forbidden (cachedRow padLen prompt generated) = (prompt ++ generated).zipIdx := by
  let filler := List.replicate (padLen - prompt.length) (prompt.getLastD 0)
  have split : cachedRow padLen prompt generated =
        prompt.zipIdx ++ (filler.zipIdx prompt.length ++ generated.zipIdx prompt.length) := by
    unfold cachedRow padded
    rw [List.zipIdx_append, Nat.zero_add, List.append_assoc]
  have fillerLength : filler.length = padLen - prompt.length := List.length_replicate
  rw [split, visible_append, visible_append]
  have shown : visible forbidden prompt.zipIdx = prompt.zipIdx := by
    apply visible_of_all
    intro slot inside
    rw [List.length_zipIdx] at inside
    rw [mask slot (by omega)]
    simp [inside]
  have hidden : visible (fun slot => forbidden (prompt.zipIdx.length + slot))
        (filler.zipIdx prompt.length) = [] := by
    apply visible_of_none
    intro slot inside
    rw [List.length_zipIdx, fillerLength] at inside
    rw [List.length_zipIdx, mask _ (by omega)]
    simp only [Nat.le_add_right, decide_true, Bool.true_and, decide_eq_true_eq]
    omega
  have generatedShown : visible
          (fun slot =>
            forbidden (prompt.zipIdx.length + ((filler.zipIdx prompt.length).length + slot)))
          (generated.zipIdx prompt.length) =
        generated.zipIdx prompt.length := by
    apply visible_of_all
    intro slot inside
    rw [List.length_zipIdx] at inside
    rw [List.length_zipIdx, List.length_zipIdx, fillerLength, mask _ (by omega)]
    simp only [Bool.and_eq_false_iff, decide_eq_false_iff_not]
    omega
  rw [shown, hidden, generatedShown, List.nil_append, List.zipIdx_append, Nat.zero_add]

theorem mapIdx_map_eq {Result : Type} {active : List Nat}
    {rowOf : Nat → List Entry} {compute : Nat → List Entry → Result} {result : Nat → Result}
    (same : ∀ number row, active[number]? = some row → compute number (rowOf row) = result row) :
    (active.map rowOf).mapIdx compute = active.map result := by
  refine List.ext_getElem? ?_
  intro number
  rw [List.getElem?_mapIdx, List.getElem?_map, List.getElem?_map]
  cases found : active[number]? with
  | none => rfl
  | some row => exact congrArg some (same number row found)

/-- The vectors of the padded loop are in step: of each active row, all but the
last generated token is cached. -/
structure PaddedSynced (prompts : List (List Token)) (padLen fed : Nat)
    (batch : PaddedBatch) : Prop where
  genLength : batch.gen.length = prompts.length
  nodup : batch.active.Nodup
  inside : ∀ row ∈ batch.active, row < prompts.length
  short : ∀ row ∈ batch.active, (prompts.getD row []).length ≤ padLen
  counts : ∀ row ∈ batch.active, (batch.gen.getD row []).length = fed + 1
  last :
    (batch.activeLast.map fun token => [token]) =
      batch.active.map fun row => (batch.gen.getD row []).drop fed
  positions : batch.activePos = batch.active.map fun row => (prompts.getD row []).length + fed
  real0 : batch.activeReal0 = batch.active.map fun row => (prompts.getD row []).length
  holds : batch.active ≠ [] →
    batch.model.kv.Holds
        (batch.active.map fun row =>
          cachedRow padLen (prompts.getD row []) ((batch.gen.getD row []).take fed)) ∧
      batch.model.kv.curLen = padLen + fed

section

variable (synced : PaddedSynced prompts padLen fed batch)

include synced

theorem PaddedSynced.inGen : ∀ row ∈ batch.active, row < batch.gen.length := by
  rw [synced.genLength]
  exact synced.inside

/-- What the pass feeds: the last token of each row at its own position. -/
theorem PaddedSynced.keys :
    List.zipWith List.zip (batch.activeLast.map fun token => [token])
        (batch.activePos.map fun position => [position]) =
      batch.active.map fun row =>
        ((batch.gen.getD row []).drop fed).zipIdx ((prompts.getD row []).length + fed) := by
  rw [synced.last, synced.positions, List.map_map, List.zipWith_map, List.zipWith_self]
  refine List.map_congr_left ?_
  intro row mem
  have single : ((batch.gen.getD row []).drop fed).length = 1 := by
    rw [List.length_drop, synced.counts row mem]
    omega
  obtain ⟨token, isToken⟩ := List.length_eq_one_iff.mp single
  rw [isToken]
  rfl

omit synced in
/-- A pass that succeeds has added its keys to the cache and predicts from what
the mask shows. -/
theorem forwardPadded_ok {positions : List (List Nat)} {mask : Nat → Nat → Nat → Bool}
    {fresh : Bool} {kv : KvCacheSlot Entry} {rows keys : List (List Entry)} {next : ModelState}
    (ran : forwardPadded predict model input positions mask fresh seqCap = .ok (logits, next))
    (holds : kv.Holds rows) (isKv : kv = if fresh then
      model.kv.resetWithCap (model.nextSeqCap.getD (min seqCap maxSeqLen)) else model.kv)
    (isKeys : List.zipWith List.zip input.rows positions = keys)
    (batch : keys.length = rows.length) :
    (∀ row ∈ positions, ∀ position ∈ row, position < maxSeqLen) ∧
      kv.curLen + input.width ≤ maxSeqLen ∧
      (logits = (List.zipWith (· ++ ·) rows keys).mapIdx fun number row =>
        (List.range input.width).map fun query => predict (visible (mask number query) row)) ∧
      next.kv.Holds (List.zipWith (· ++ ·) rows keys) ∧
      next.kv.curLen = kv.curLen + input.width := by
  obtain ⟨inContext, ran⟩ := ite_error_eq_ok.mp ran
  obtain ⟨_, isTensor, ran⟩ := bind_eq_ok.mp ran
  obtain ⟨⟨_, _⟩, appended, ran⟩ := bind_eq_ok.mp ran
  cases ran
  rw [isKeys] at isTensor
  unfold Tensor.fromRows at isTensor
  split_ifs at isTensor with aligned
  cases isTensor
  rw [← isKv] at appended
  have sameBatch : (Tensor.mk keys input.width aligned).rows.length = rows.length := batch
  rcases holds.append sameBatch with
    ⟨fits, isLive, stored, written, liveRows, nextHolds, nextLength⟩ | ⟨_, failed⟩
  · cases written.symm.trans appended
    refine ⟨?_, fits, ?_, nextHolds, nextLength⟩
    · intro row mem position isPosition
      by_contra long
      exact inContext ⟨row, mem, position, isPosition, Nat.le_of_not_lt long⟩
    · rw [← liveRows]
  · cases failed.symm.trans appended

/-- A pass over the active rows of a padded batch predicts what each row alone
would. -/
theorem PaddedSynced.forward (left : batch.active ≠ [])
    (isInput : Tensor.fromRows (batch.activeLast.map fun token => [token]) 1 = .ok input)
    (ran : forwardPadded predict batch.model input (batch.activePos.map fun position => [position])
      (paddedDecodeMask batch.activeReal0 padLen) false seqCap = .ok (logits, model)) :
    (∀ row ∈ batch.active, (tokensOf prompts batch.gen row).length ≤ maxSeqLen) ∧
      (logits.map (·.headD 0) =
        batch.active.map fun row => predict (tokensOf prompts batch.gen row).zipIdx) ∧
      model.kv.Holds
        (batch.active.map fun row =>
          cachedRow padLen (prompts.getD row []) (batch.gen.getD row [])) ∧
      model.kv.curLen = padLen + (fed + 1) := by
  have singles : ∀ row ∈ batch.activeLast.map fun token => [token], row.length = 1 := by simp
  rw [fromRows_of_aligned singles] at isInput
  cases isInput
  obtain ⟨holds, length⟩ := synced.holds left
  obtain ⟨inContext, -, isLogits, nextHolds, nextLength⟩ :=
    forwardPadded_ok ran holds rfl synced.keys (by simp)
  have rows : List.zipWith (· ++ ·)
          (batch.active.map fun row =>
            cachedRow padLen (prompts.getD row []) ((batch.gen.getD row []).take fed))
          (batch.active.map fun row =>
            ((batch.gen.getD row []).drop fed).zipIdx ((prompts.getD row []).length + fed)) =
        batch.active.map fun row =>
          cachedRow padLen (prompts.getD row []) (batch.gen.getD row []) := by
    rw [List.zipWith_map, List.zipWith_self]
    refine List.map_congr_left ?_
    intro row mem
    rw [cachedRow, cachedRow, List.append_assoc, take_zipIdx_append_drop]
    rw [synced.counts row mem]
    exact Nat.le_succ fed
  rw [rows] at isLogits nextHolds
  refine ⟨?_, ?_, nextHolds, nextLength.trans (by rw [length]; rfl)⟩
  · intro row mem
    have isPosition : (prompts.getD row []).length + fed ∈ batch.activePos := by
      rw [synced.positions]
      exact List.mem_map.mpr ⟨row, mem, rfl⟩
    have below := inContext [_] (List.mem_map.mpr ⟨_, isPosition, rfl⟩) _ (.head _)
    unfold tokensOf
    rw [List.length_append, synced.counts row mem]
    omega
  · have computed : logits =
        batch.active.map fun row => [predict (tokensOf prompts batch.gen row).zipIdx] := by
      rw [isLogits]
      refine mapIdx_map_eq ?_
      intro number row found
      have real : batch.activeReal0.getD number 0 = (prompts.getD row []).length := by
        rw [synced.real0, List.getD_eq_getElem?_getD, List.getElem?_map, found]
        rfl
      change [predict (visible (paddedDecodeMask batch.activeReal0 padLen number 0) _)] = _
      rw [visible_cachedRow (synced.short row (List.mem_of_getElem? found))]
      · rfl
      · intro slot _
        unfold paddedDecodeMask
        rw [real]
    rw [computed, List.map_map]
    rfl

theorem PaddedSynced.next {eos : Token} {dropped : ModelState} (holds :
      model.kv.Holds
        (batch.active.map fun row =>
          cachedRow padLen (prompts.getD row []) (batch.gen.getD row [])))
    (length : model.kv.curLen = padLen + (fed + 1)) (ran : dropEnded model batch.active
      (sampled eos predicted batch.active) = .ok dropped) :
    PaddedSynced prompts padLen (fed + 1)
      { model := dropped
        gen := pushTokens batch.gen (sampled eos predicted batch.active)
        active := (sampled eos predicted batch.active).map Survivor.row
        activeLast := (sampled eos predicted batch.active).map Survivor.token
        activePos := (sampled eos predicted batch.active).map
          fun row => batch.activePos.getD row.slot 0 + 1
        activeReal0 := (sampled eos predicted batch.active).map
          fun row => batch.activeReal0.getD row.slot 0 } := by
  have pushed {row : Nat} (mem : row ∈ ongoing eos predicted batch.active) :=
    getD_pushTokens_ongoing synced.nodup synced.inGen mem
  have fromSlots :
      ∀ {Cell : Type} (cells : List Cell) (blank : Cell) (cellOf : Nat → Cell),
        cells = batch.active.map cellOf →
          ((sampled eos predicted batch.active).map fun row => cells.getD row.slot blank) =
          (ongoing eos predicted batch.active).map cellOf := by
    intro Cell cells blank cellOf isCells
    rw [← survivors_rows, List.map_map]
    refine List.map_congr_left ?_
    intro survivor mem
    rw [isCells, List.getD_eq_getElem?_getD, List.getElem?_map, (mem_survivors mem).2]
    rfl
  rw [survivors_rows]
  refine ⟨?_, ?_, ?_, ?_, ?_, ?_, ?_, ?_, ?_⟩
  · rw [length_pushTokens]
    exact synced.genLength
  · exact synced.nodup.filter _
  · intro row mem
    exact synced.inside row (List.mem_filter.mp mem).1
  · intro row mem
    exact synced.short row (List.mem_filter.mp mem).1
  · intro row mem
    rw [pushed mem, List.length_append, synced.counts row (List.mem_filter.mp mem).1]
    rfl
  · rw [survivors_tokens, List.map_map]
    refine List.map_congr_left ?_
    intro row mem
    rw [pushed mem, ← synced.counts row (List.mem_filter.mp mem).1, List.drop_left]
    rfl
  · have positions := fromSlots batch.activePos 0 _ synced.positions
    have advanced := congrArg (List.map (· + 1)) positions
    rw [List.map_map, List.map_map] at advanced
    exact advanced
  · exact fromSlots batch.activeReal0 0 _ synced.real0
  · intro someLeft
    obtain ⟨droppedHolds, sameLength⟩ := dropEnded_holds holds someLeft ran
    refine ⟨?_, sameLength.trans length⟩
    -- of the rows that go on, all tokens but the new one are cached
    convert droppedHolds using 1
    refine List.map_congr_left ?_
    intro row mem
    rw [pushed mem, ← synced.counts row (List.mem_filter.mp mem).1, List.take_left]

theorem paddedLoop_runsAlone
    (ran : paddedLoop backend padLen seqCap remaining cachedLen batch = .ok final) :
    RunsAlone backend prompts batch.gen batch.active remaining final.gen ∧
      final.gen.length = prompts.length := by
  induction remaining generalizing batch fed cachedLen with
  | zero =>
    cases ran
    exact ⟨runsAlone_of_done (.inl rfl), synced.genLength⟩
  | succ remaining ih =>
    unfold paddedLoop at ran
    by_cases left : batch.active = []
    · rw [if_pos left] at ran
      cases ran
      exact ⟨runsAlone_of_done (.inr left), synced.genLength⟩
    rw [if_neg left] at ran
    obtain ⟨_, isInput, ran⟩ := bind_eq_ok.mp ran
    obtain ⟨⟨_, _⟩, passed, ran⟩ := bind_eq_ok.mp ran
    obtain ⟨rowsFit, isNext, holds, length⟩ := synced.forward left isInput passed
    dsimp only at ran
    rw [isNext] at ran
    obtain ⟨_, isDropped, ran⟩ := bind_eq_ok.mp ran
    obtain ⟨runs, genLength⟩ := ih (synced.next holds length isDropped) ran
    rw [survivors_rows] at runs
    exact ⟨.cons synced.nodup synced.inGen rowsFit runs, genLength⟩

end

theorem length_padded (short : prompt.length ≤ padLen) :
    (padded padLen prompt).length = padLen := by
  unfold padded
  rw [List.length_append, List.length_replicate]
  omega

theorem getD_range {bound number : Nat} (inside : number < bound) :
    (List.range bound).getD number 0 = number := by
  rw [List.getD_eq_getElem _ _ (by rwa [List.length_range]), List.getElem_range]

section

abbrev prefilledRows (prompts : List (List Token)) (padLen : Nat) : List (List Entry) :=
  (List.range prompts.length).map fun row => cachedRow padLen (prompts.getD row []) []

abbrev prefillMask (prompts : List (List Token)) (padLen : Nat) : Nat → Nat → Nat → Bool :=
  buildPaddedMask (prompts.map List.length) (prompts.map fun _ => List.range padLen) 0

def prefillLogits (predict : List Entry → Token) (prompts : List (List Token)) (padLen number : Nat)
    (row : List Entry) : List Token :=
  (List.range padLen).map fun query =>
    predict (visible (prefillMask prompts padLen number query) row)

/-- At the last token of a prompt, the mask of the prefill hides just the
padding. -/
theorem buildPaddedMask_last {row slot : Nat} (inside : row < prompts.length)
    (nonempty : prompts.getD row [] ≠ [])
    (short : (prompts.getD row []).length ≤ padLen) (slotInside : slot < padLen) :
    prefillMask prompts padLen row ((prompts.getD row []).length - 1) slot =
      (decide ((prompts.getD row []).length ≤ slot) && decide (slot < padLen)) := by
  have pos : 0 < (prompts.getD row []).length := List.length_pos_iff.mpr nonempty
  have positions : (prompts.map fun _ => List.range padLen).getD row [] = List.range padLen := by
    rw [List.getD_eq_getElem?_getD, List.getElem?_map, List.getElem?_eq_getElem inside]
    rfl
  unfold prefillMask buildPaddedMask
  rw [if_neg (Nat.not_lt_zero slot), positions, Nat.sub_zero, getD_range slotInside,
    getD_range (show (prompts.getD row []).length - 1 < padLen by omega)]
  simp only [slotInside, decide_true, Bool.and_true, decide_eq_decide]
  omega

def afterPrefill (prompts : List (List Token)) (model : ModelState)
    (eos : Token) (predicted : Nat → Token) : PaddedBatch :=
  let kept := sampled eos predicted (List.range prompts.length)
  { model := model
    gen := pushTokens (List.replicate prompts.length []) kept
    active := kept.map Survivor.row
    activeLast := kept.map Survivor.token
    activePos := kept.map fun row => (prompts.map List.length).getD row.row 0
    activeReal0 := kept.map fun row => (prompts.map List.length).getD row.row 0 }

theorem inside_blank : ∀ row ∈ List.range prompts.length,
    row < (List.replicate prompts.length ([] : List Token)).length := by
  intro row mem
  rw [List.length_replicate]
  exact List.mem_range.mp mem

theorem paddedLoop_batch {rows : List (List Entry)}
    (holds : batch.model.kv.Holds rows) (used : 0 < batch.model.kv.curLen)
    (left : batch.active ≠ []) (aligned : batch.activePos.length = batch.activeLast.length)
    (ran : paddedLoop backend padLen seqCap (remaining + 1) cachedLen batch = .ok final) :
    batch.activeLast.length = rows.length := by
  unfold paddedLoop at ran
  rw [if_neg left] at ran
  obtain ⟨_, isInput, ran⟩ := bind_eq_ok.mp ran
  obtain ⟨⟨_, _⟩, passed, _⟩ := bind_eq_ok.mp ran
  have singles : ∀ row ∈ batch.activeLast.map fun token => [token], row.length = 1 := by simp
  rw [fromRows_of_aligned singles] at isInput
  cases isInput
  obtain ⟨_, passed⟩ := ite_error_eq_ok.mp passed
  obtain ⟨keys, isKeys, passed⟩ := bind_eq_ok.mp passed
  obtain ⟨⟨_, _⟩, appended, _⟩ := bind_eq_ok.mp passed
  have keyRows : keys.rows.length = batch.activeLast.length := by
    unfold Tensor.fromRows at isKeys
    split_ifs at isKeys
    cases isKeys
    rw [List.length_zipWith, List.length_map, List.length_map, aligned, Nat.min_self]
  exact keyRows.symm.trans (holds.batch_of_append used appended)

variable (short : ∀ prompt ∈ prompts, prompt.length ≤ padLen)

include short

/-- The vectors are in step after the prefill when no row has ended there: the
cache is not compacted at that point. -/
theorem afterPrefill_synced {eos : Token}
    (holds : model.kv.Holds (prefilledRows prompts padLen)) (length : model.kv.curLen = padLen)
    (allLeft : (ongoing eos predicted (List.range prompts.length)) = List.range prompts.length) :
    PaddedSynced prompts padLen 0 (afterPrefill prompts model eos predicted) := by
  have active : (afterPrefill prompts model eos predicted).active = List.range prompts.length :=
    survivors_rows.trans allLeft
  have pushed : ∀ row ∈ List.range prompts.length,
      (afterPrefill prompts model eos predicted).gen.getD row [] = [predicted row] := by
    intro row mem
    have goesOn := mem
    rw [← allLeft] at goesOn
    refine (pushTokens_survivors List.nodup_range inside_blank row).trans ?_
    rw [if_pos ⟨mem, of_decide_eq_true (List.mem_filter.mp goesOn).2⟩, getD_replicate_nil]
    rfl
  have lengths : ((sampled eos predicted (List.range prompts.length)).map
        fun row => (prompts.map List.length).getD row.row 0) =
        (List.range prompts.length).map fun row => (prompts.getD row []).length := by
    conv_rhs => rw [← allLeft, ← survivors_rows, List.map_map]
    exact List.map_congr_left fun _ _ => List.getD_map prompts [] List.length
  constructor
  · exact (length_pushTokens _ _).trans List.length_replicate
  · rw [active]
    exact List.nodup_range
  · rw [active]
    exact fun row mem => List.mem_range.mp mem
  · rw [active]
    exact fun row mem => short _ (getD_mem (List.mem_range.mp mem))
  · rw [active]
    intro row mem
    rw [pushed row mem]
    rfl
  · rw [active]
    change ((survivors eos _ _).map Survivor.token).map _ = _
    rw [survivors_tokens, allLeft, List.map_map]
    refine List.map_congr_left ?_
    intro row mem
    rw [pushed row mem]
    rfl
  · rw [active]
    exact lengths
  · rw [active]
    exact lengths
  · intro _
    rw [active]
    exact ⟨holds, length⟩

variable (nonempty : ∀ prompt ∈ prompts, prompt ≠ [])

include nonempty

theorem prefill_tokens :
    List.zipWith (fun (row : List Token) length => row.getD (length - 1) 0)
        ((prefilledRows prompts padLen).mapIdx (prefillLogits predict prompts padLen))
        (prompts.map List.length) =
      (List.range prompts.length).map fun row => predict (prompts.getD row []).zipIdx := by
  have computed :
      (prefilledRows prompts padLen).mapIdx (prefillLogits predict prompts padLen) =
        (List.range prompts.length).map fun row =>
          prefillLogits predict prompts padLen row (cachedRow padLen (prompts.getD row []) []) := by
    refine mapIdx_map_eq ?_
    intro number row found
    obtain ⟨_, isRow⟩ := List.getElem?_eq_some_iff.mp found
    rw [List.getElem_range] at isRow
    rw [isRow]
  have lengths : prompts.map List.length =
        (List.range prompts.length).map fun row => (prompts.getD row []).length := by
    conv_lhs => rw [← range_map_getD prompts]
    rw [List.map_map]
    rfl
  rw [computed, lengths, List.zipWith_map, List.zipWith_self]
  refine List.map_congr_left ?_
  intro row mem
  have inside := List.mem_range.mp mem
  have rowShort := short _ (getD_mem inside)
  have rowNonempty := nonempty _ (getD_mem inside)
  have pos : 0 < (prompts.getD row []).length := List.length_pos_iff.mpr rowNonempty
  have lastInside : (prompts.getD row []).length - 1 < (List.range padLen).length := by
    rw [List.length_range]
    omega
  rw [prefillLogits, List.getD_eq_getElem?_getD, List.getElem?_map,
    List.getElem?_eq_getElem lastInside, List.getElem_range]
  change predict (visible _ _) = _
  rw [visible_cachedRow rowShort, List.append_nil]
  intro slot slotInside
  exact buildPaddedMask_last inside rowNonempty rowShort slotInside

/-- The prefill predicts, at the last token of each prompt, what the prompt
alone would. -/
theorem forwardPadded_prefill {next : ModelState}
    (isInput : Tensor.fromRows (prompts.map (padded padLen)) padLen = .ok input)
    (ran : forwardPadded predict model input (prompts.map fun _ => List.range padLen)
      (prefillMask prompts padLen) true seqCap = .ok (logits, next)) :
    padLen ≤ maxSeqLen ∧
      (List.zipWith (fun row length => row.getD (length - 1) 0) logits (prompts.map List.length) =
        (List.range prompts.length).map fun row => predict (prompts.getD row []).zipIdx) ∧
      next.kv.Holds (prefilledRows prompts padLen) ∧ next.kv.curLen = padLen := by
  have aligned : ∀ row ∈ prompts.map (padded padLen), row.length = padLen := by
    intro row mem
    obtain ⟨prompt, promptMem, rfl⟩ := List.mem_map.mp mem
    exact length_padded (short prompt promptMem)
  rw [fromRows_of_aligned aligned] at isInput
  obtain rfl := Except.ok.inj isInput
  have keys : List.zipWith List.zip (prompts.map (padded padLen))
        (prompts.map fun _ => List.range padLen) =
      prefilledRows prompts padLen := by
    calc List.zipWith List.zip (prompts.map (padded padLen))
          (prompts.map fun _ => List.range padLen)
        = prompts.map fun prompt => cachedRow padLen prompt [] := by
          rw [List.zipWith_map, List.zipWith_self]
          refine List.map_congr_left ?_
          intro prompt mem
          unfold cachedRow
          rw [List.zipIdx_eq_zip_range', length_padded (short prompt mem),
            List.range_eq_range', List.zipIdx_nil, List.append_nil]
      _ = _ := by
          conv_lhs => rw [← range_map_getD prompts]
          rw [List.map_map]
          rfl
  have blank := KvCacheSlot.holds_resetWithCap model.kv
    (model.nextSeqCap.getD (min seqCap maxSeqLen)) prompts.length
  obtain ⟨-, fits, isLogits, holds, length⟩ := forwardPadded_ok ran blank rfl keys (by simp)
  have rows := KvCacheSlot.zipWith_nil_append (prefilledRows prompts padLen)
  rw [List.length_map, List.length_range] at rows
  rw [rows] at isLogits holds
  refine ⟨(Nat.zero_add padLen).symm.trans_le fits, ?_, holds, length.trans (Nat.zero_add padLen)⟩
  rw [isLogits]
  exact prefill_tokens short nonempty

theorem paddedLoop_afterPrefill
    (holds : model.kv.Holds (prefilledRows prompts padLen)) (length : model.kv.curLen = padLen)
    (ran : paddedLoop backend padLen seqCap remaining cachedLen
      (afterPrefill prompts model backend.eos predicted) = .ok final) :
    RunsAlone backend prompts (afterPrefill prompts model backend.eos predicted).gen
        (afterPrefill prompts model backend.eos predicted).active remaining
        final.gen ∧
      final.gen.length = prompts.length := by
  let start := afterPrefill prompts model backend.eos predicted
  have genLength : start.gen.length = prompts.length :=
    (length_pushTokens _ _).trans List.length_replicate
  by_cases done : remaining = 0 ∨ start.active = []
  · have isFinal : start = final := by
      rcases done with rfl | isDone
      · exact Except.ok.inj ran
      · unfold paddedLoop at ran
        cases remaining with
        | zero => exact Except.ok.inj ran
        | succ =>
          dsimp only at ran
          rw [if_pos isDone] at ran
          exact Except.ok.inj ran
    rw [← isFinal]
    exact ⟨runsAlone_of_done done, genLength⟩
  · obtain ⟨more, left⟩ := not_or.mp done
    obtain ⟨remaining, rfl⟩ := Nat.exists_eq_succ_of_ne_zero more
    obtain ⟨_, isActive⟩ := List.exists_mem_of_ne_nil _ left
    have used : 0 < start.model.kv.curLen := by
      obtain ⟨survivor, mem, _⟩ := List.mem_map.mp isActive
      have inside : survivor.row < prompts.length :=
        List.mem_range.mp (List.mem_of_getElem? (mem_survivors mem).2)
      have isPrompt := getD_mem inside
      have pos := List.length_pos_iff.mpr (nonempty _ isPrompt)
      have below := short _ isPrompt
      rw [show start.model.kv.curLen = padLen from length]
      omega
    have aligned : start.activePos.length = start.activeLast.length :=
      (List.length_map _).trans (List.length_map _).symm
    have batch := paddedLoop_batch holds used left aligned ran
    have kept : (sampled backend.eos predicted (List.range prompts.length)).length =
            (List.range prompts.length).length := by
      rw [List.length_map] at batch
      exact (List.length_map _).symm.trans batch
    exact paddedLoop_runsAlone
      (afterPrefill_synced short holds length (filter_of_survivors_length kept)) ran

end

/-- A padded bucket: the tokens are those of each prompt alone, with a limit of
at least one. -/
theorem generatePaddedBucket_greedy {final : ModelState} {gen : List (List Token)} {maxTokens : Nat}
    (nonempty : ∀ prompt ∈ prompts, prompt ≠ [])
    (ran : generatePaddedBucket backend model prompts maxTokens = .ok (gen, final)) :
    gen.length = prompts.length ∧ ∀ row < prompts.length,
        Greedy backend.predict backend.eos (prompts.getD row [])
          (maxTokens - 1 + 1) (gen.getD row []) := by
  let padLen := (prompts.map List.length).foldl max 0
  have short : ∀ prompt ∈ prompts, prompt.length ≤ padLen := by
    intro prompt mem
    unfold padLen
    rw [List.foldl_eq_foldr]
    exact List.le_max_of_le' 0 (List.mem_map_of_mem mem) le_rfl
  obtain ⟨_, isInput, ran⟩ := bind_eq_ok.mp ran
  obtain ⟨⟨_, prefilled⟩, passed, ran⟩ := bind_eq_ok.mp ran
  obtain ⟨padFits, isFirst, holds, length⟩ := forwardPadded_prefill short nonempty isInput passed
  dsimp only at ran
  rw [isFirst] at ran
  obtain ⟨batch, looped, ran⟩ := bind_eq_ok.mp ran
  cases ran
  let predicted := fun row => backend.predict (prompts.getD row []).zipIdx
  let kept := sampled backend.eos predicted (List.range prompts.length)
  let left := ongoing backend.eos predicted (List.range prompts.length)
  have rest : RunsAlone backend prompts (pushTokens (List.replicate prompts.length []) kept) left
          (maxTokens - 1) batch.gen ∧
        batch.gen.length = prompts.length := by
    have runs := paddedLoop_afterPrefill short nonempty holds length looped
    rw [show (afterPrefill prompts prefilled backend.eos predicted).active =
      left from survivors_rows] at runs
    exact runs
  refine ⟨rest.2, ?_⟩
  intro row rowInside
  have runs : RunsAlone backend prompts (List.replicate prompts.length [])
        (List.range prompts.length) (maxTokens - 1 + 1) batch.gen := by
    refine .cons List.nodup_range inside_blank ?_ ?_
    · intro row mem
      rw [tokensOf_blank]
      exact Nat.le_trans (short _ (getD_mem (List.mem_range.mp mem))) padFits
    · simp only [tokensOf_blank]
      exact rest.1
  obtain ⟨_, isTokens, greedy, _⟩ := runs row
  rw [getD_replicate_nil, List.nil_append] at isTokens
  rw [isTokens, ← tokensOf_blank prompts prompts.length row]
  exact greedy (List.mem_range.mpr rowInside)

end MercControl.Agent
