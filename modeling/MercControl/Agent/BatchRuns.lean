import MercControl.Agent.SoloRuns

/-!
# Decoding a batch

Each row of a batch runs as if it were alone.  The rows that go on are kept in
step: the active rows, their last tokens and the rows of the cache are the same
selection of the batch.
-/

namespace MercControl.Agent

open Library Machine

variable {gen prompts : List (List Token)} {predicted : Nat → Token}
  {eos : Token} {active : List Nat} {model : ModelState} {batch : Batch}
  {seqLen : Nat}

abbrev ongoing (eos : Token) (predicted : Nat → Token) (active : List Nat) : List Nat :=
  active.filter fun row => predicted row ≠ eos

abbrev sampled (eos : Token) (predicted : Nat → Token) (active : List Nat) : List Survivor :=
  survivors eos active (active.map predicted)

theorem mem_survivors {survivor : Survivor} (mem : survivor ∈ sampled eos predicted active) :
    survivor.token = predicted survivor.row ∧ active[survivor.slot]? = some survivor.row := by
  obtain ⟨⟨⟨_, _⟩, _⟩, entryMem, rfl⟩ := List.mem_map.mp mem
  have found := List.mem_zipIdx_iff_getElem?.mp (List.mem_filter.mp entryMem).1
  rw [List.getElem?_zip_eq_some, List.getElem?_map] at found
  obtain ⟨isRow, isToken⟩ := found
  rw [isRow] at isToken
  exact ⟨(Option.some.inj isToken).symm, isRow⟩

theorem survivors_rows :
    (sampled eos predicted active).map Survivor.row = ongoing eos predicted active := by
  have pairs : ((active.zip (active.map predicted)).zipIdx.filter
          fun entry => entry.1.2 ≠ eos).map Prod.fst =
        (active.zip (active.map predicted)).filter fun pair => pair.2 ≠ eos := by
    conv_rhs => rw [← List.zipIdx_map_fst 0 (active.zip _), List.filter_map]
    rfl
  calc (sampled eos predicted active).map Survivor.row
      = (((active.zip (active.map predicted)).zipIdx.filter
          fun entry => entry.1.2 ≠ eos).map Prod.fst).map Prod.fst := by
        unfold sampled survivors
        rw [List.map_map, List.map_map]
        rfl
    _ = ((active.map fun row => (row, predicted row)).filter
          fun pair => pair.2 ≠ eos).map Prod.fst := by
        rw [pairs, List.map_prod_left_eq_zip]
    _ = ongoing eos predicted active := by
        rw [List.filter_map, List.map_map]
        exact List.map_id _

theorem survivors_tokens : (sampled eos predicted active).map Survivor.token =
      (ongoing eos predicted active).map predicted := by
  rw [← survivors_rows, List.map_map]
  exact List.map_congr_left fun _ mem => (mem_survivors mem).1

theorem survivors_select {rowOf : Nat → List Entry} : Tensor.select (active.map rowOf)
        ((sampled eos predicted active).map Survivor.slot) =
      (ongoing eos predicted active).map rowOf := by
  unfold Tensor.select
  rw [← survivors_rows, List.map_map, List.filterMap_map, List.filterMap_eq_map_iff_forall_eq_some]
  intro survivor mem
  rw [Function.comp_apply, List.getElem?_map, (mem_survivors mem).2]
  rfl

theorem filter_of_survivors_length (same : (sampled eos predicted active).length = active.length) :
    ongoing eos predicted active = active := by
  refine List.Sublist.eq_of_length List.filter_sublist ?_
  rw [← survivors_rows, List.length_map, same]

theorem length_pushTokens (gen : List (List Token)) (kept : List Survivor) :
    (pushTokens gen kept).length = gen.length := by
  induction kept generalizing gen with
  | nil => rfl
  | cons survivor kept ih =>
    change (pushTokens (gen.modify survivor.row _) kept).length = _
    rw [ih, List.length_modify]

theorem getD_pushTokens {kept : List Survivor}
    (tokens : ∀ survivor ∈ kept, survivor.token = predicted survivor.row)
    (nodup : (kept.map Survivor.row).Nodup)
    (inside : ∀ survivor ∈ kept, survivor.row < gen.length) (row : Nat) :
    (pushTokens gen kept).getD row [] =
      if row ∈ kept.map Survivor.row then gen.getD row [] ++ [predicted row]
      else gen.getD row [] := by
  induction kept generalizing gen with
  | nil => simp [pushTokens]
  | cons survivor kept ih =>
    rw [List.map_cons, List.nodup_cons] at nodup
    have modified : (gen.modify survivor.row fun tokens => tokens ++ [survivor.token]).getD row [] =
          if row = survivor.row then gen.getD row [] ++ [predicted row] else gen.getD row [] := by
      rw [List.getD_eq_getElem?_getD, List.getElem?_modify, List.getD_eq_getElem?_getD]
      by_cases isRow : row = survivor.row
      · subst isRow
        rw [if_pos rfl, tokens survivor (.head _),
          List.getElem?_eq_getElem (inside survivor (.head _))]
        simp
      · rw [if_neg isRow]
        simp [Ne.symm isRow]
    change (pushTokens (gen.modify survivor.row _) kept).getD row [] = _
    rw [ih (fun other mem => tokens other (.tail _ mem)) nodup.2 (by
        intro other mem
        rw [List.length_modify]
        exact inside other (.tail _ mem)), modified]
    by_cases isRow : row = survivor.row
    · subst isRow
      simp [nodup.1]
    · simp [isRow]

def tokensOf (prompts gen : List (List Token)) (row : Nat) : List Token :=
  prompts.getD row [] ++ gen.getD row []

theorem pushTokens_survivors (nodup : active.Nodup)
    (inside : ∀ row ∈ active, row < gen.length) (row : Nat) :
    (pushTokens gen (sampled eos predicted active)).getD row [] =
      if row ∈ active ∧ predicted row ≠ eos then gen.getD row [] ++ [predicted row]
      else gen.getD row [] := by
  have rows : (sampled eos predicted active).map Survivor.row = ongoing eos predicted active :=
    survivors_rows
  have tokens : ∀ survivor ∈ sampled eos predicted active,
        survivor.token = predicted survivor.row :=
    fun _ mem => (mem_survivors mem).1
  have distinct : ((sampled eos predicted active).map Survivor.row).Nodup := by
    rw [rows]
    exact nodup.filter _
  have rowsInside : ∀ survivor ∈ sampled eos predicted active, survivor.row < gen.length :=
    fun _ mem => inside _ (List.mem_of_getElem? (mem_survivors mem).2)
  rw [getD_pushTokens tokens distinct rowsInside, rows]
  simp

theorem dropEnded_holds {next : ModelState} {rowOf : Nat → List Entry}
    (holds : model.kv.Holds (active.map rowOf)) (someLeft : (ongoing eos predicted active) ≠ [])
    (ran : dropEnded model active (sampled eos predicted active) = .ok next) :
    next.kv.Holds ((ongoing eos predicted active).map rowOf) ∧
      next.kv.curLen = model.kv.curLen := by
  unfold dropEnded at ran
  split_ifs at ran with fewer
  · have inside : ∀ slot ∈ (sampled eos predicted active).map
            Survivor.slot, slot < (active.map rowOf).length := by
      intro slot mem
      obtain ⟨_, survivorMem, rfl⟩ := List.mem_map.mp mem
      rw [List.length_map]
      exact (List.getElem?_eq_some_iff.mp (mem_survivors survivorMem).2).1
    have keeps : (sampled eos predicted active).map Survivor.slot ≠ [] := by
      intro isNil
      rw [List.map_eq_nil_iff] at isNil
      apply someLeft
      rw [← survivors_rows, isNil]
      rfl
    obtain ⟨_, compacted, kvHolds, sameLength⟩ := holds.compact inside
    unfold compactKvCache at ran
    rw [if_neg keeps, compacted] at ran
    cases ran
    rw [survivors_select] at kvHolds
    exact ⟨kvHolds, sameLength⟩
  · cases ran
    rw [filter_of_survivors_length (not_not.mp fewer)]
    exact ⟨holds, rfl⟩

variable {Prompt Text : Type}

/-- The cache holds the tokens of the active rows before `indexPos`, and
`seqLen` tokens of each are still to be fed. -/
structure Synced (prompts : List (List Token)) (batch : Batch) (seqLen : Nat) : Prop where
  genLength : batch.gen.length = prompts.length
  nodup : batch.active.Nodup
  inside : ∀ row ∈ batch.active, row < prompts.length
  ready : batch.active ≠ [] →
    Ready batch.model batch.indexPos
      (batch.active.map fun row => ((tokensOf prompts batch.gen row).take batch.indexPos).zipIdx)
  lengths : ∀ row ∈ batch.active, (tokensOf prompts batch.gen row).length = batch.indexPos + seqLen
  positive : 0 < seqLen

theorem Synced.inGen (synced : Synced prompts batch seqLen) :
    ∀ row ∈ batch.active, row < batch.gen.length := by
  rw [synced.genLength]
  exact synced.inside

/-- What a loop makes of each row: an active row runs on as it would alone,
the others are left. -/
def RunsAlone (backend : LlamaBackend Prompt Text) (prompts gen : List (List Token))
    (active : List Nat) (limit : Nat) (final : List (List Token)) : Prop :=
  ∀ row, ∃ rest, final.getD row [] = gen.getD row [] ++ rest ∧
    (row ∈ active → Greedy backend.predict backend.eos (tokensOf prompts gen row) limit rest) ∧
    (row ∉ active → rest = [])

variable {backend : LlamaBackend Prompt Text}

theorem runsAlone_of_done {limit : Nat} (done : limit = 0 ∨ active = []) :
    RunsAlone backend prompts gen active limit gen := by
  intro row
  refine ⟨[], (List.append_nil _).symm, ?_, fun _ => rfl⟩
  intro isActive
  rcases done with isLimit | isDone
  · rw [isLimit]
    exact .limit _
  · rw [isDone] at isActive
    cases isActive

section

variable (nodup : active.Nodup) (inside : ∀ row ∈ active, row < gen.length)

include nodup inside

theorem RunsAlone.cons {final : List (List Token)} {limit : Nat}
    (fits : ∀ row ∈ active, (tokensOf prompts gen row).length ≤ maxSeqLen)
    (rest : RunsAlone backend prompts (pushTokens gen (survivors backend.eos active
            (active.map fun row => backend.predict (tokensOf prompts gen row).zipIdx)))
        (active.filter fun row => backend.predict (tokensOf prompts gen row).zipIdx ≠ backend.eos)
        limit final) : RunsAlone backend prompts gen active (limit + 1) final := by
  intro row
  obtain ⟨tail, isTail, runs, stays⟩ := rest row
  rw [pushTokens_survivors nodup inside] at isTail
  by_cases isActive : row ∈ active
  · by_cases goesOn : backend.predict (tokensOf prompts gen row).zipIdx ≠ backend.eos
    · rw [if_pos ⟨isActive, goesOn⟩, List.append_assoc] at isTail
      have grown := runs (List.mem_filter.mpr ⟨isActive, decide_eq_true goesOn⟩)
      unfold tokensOf at grown
      rw [pushTokens_survivors nodup inside, if_pos ⟨isActive, goesOn⟩,
        ← List.append_assoc] at grown
      exact ⟨_, isTail, fun _ => .next (fits row isActive) goesOn grown,
        fun isOut => (isOut isActive).elim⟩
    · rw [if_neg (fun both => goesOn both.2)] at isTail
      have isNil : tail = [] := by
        apply stays
        intro mem
        exact goesOn (of_decide_eq_true (List.mem_filter.mp mem).2)
      refine ⟨tail, isTail, fun _ => ?_, fun _ => isNil⟩
      rw [isNil]
      exact .ended (fits row isActive) (not_not.mp goesOn)
  · rw [if_neg (fun both => isActive both.1)] at isTail
    have isNil : tail = [] := by
      apply stays
      intro mem
      exact isActive (List.mem_filter.mp mem).1
    exact ⟨tail, isTail, fun isIn => (isActive isIn).elim, fun _ => isNil⟩

omit nodup inside in
/-- A pass over the active rows predicts what each row alone would, and the
cache then holds all their tokens. -/
theorem Synced.forward {predict : List Entry → Token} {next : List Token}
    {input : Tensor Token} (synced : Synced prompts batch seqLen) (left : batch.active ≠ [])
    (isInput : Tensor.fromRows
        (batch.active.map fun row => (tokensOf prompts batch.gen row).drop batch.indexPos) seqLen =
        .ok input)
    (ran : forward predict batch.model input batch.indexPos = .ok (next, model)) :
    batch.indexPos + seqLen ≤ maxSeqLen ∧
      (next = batch.active.map fun row => predict (tokensOf prompts batch.gen row).zipIdx) ∧
      Ready model (batch.indexPos + seqLen)
        (batch.active.map fun row => (tokensOf prompts batch.gen row).zipIdx) := by
  obtain ⟨_, isFed, passed⟩ := forward_rows (synced.ready left) synced.lengths synced.positive
  obtain rfl := Except.ok.inj (isFed.symm.trans isInput)
  rcases passed with ⟨fits, after, computed, ready⟩ | ⟨_, failed⟩
  · rw [computed] at ran
    cases ran
    exact ⟨fits, rfl, ready⟩
  · rw [failed] at ran
    cases ran

theorem getD_pushTokens_ongoing {row : Nat} (goesOn : row ∈ ongoing eos predicted active) :
    (pushTokens gen (sampled eos predicted active)).getD row [] =
      gen.getD row [] ++ [predicted row] := by
  obtain ⟨isActive, notEnded⟩ := List.mem_filter.mp goesOn
  rw [pushTokens_survivors nodup inside, if_pos ⟨isActive, of_decide_eq_true notEnded⟩]

theorem tokensOf_pushTokens {row : Nat} (goesOn : row ∈ ongoing eos predicted active) :
    tokensOf prompts (pushTokens gen (sampled eos predicted active)) row =
      tokensOf prompts gen row ++ [predicted row] := by
  unfold tokensOf
  rw [getD_pushTokens_ongoing nodup inside goesOn, List.append_assoc]

end

theorem Synced.next {dropped : ModelState} (synced : Synced prompts batch seqLen)
    (ready :
      Ready model (batch.indexPos + seqLen)
        (batch.active.map fun row => (tokensOf prompts batch.gen row).zipIdx))
    (ran : dropEnded model batch.active
      (sampled eos predicted batch.active) = .ok dropped) :
    Synced prompts
      { model := dropped
        gen := pushTokens batch.gen (sampled eos predicted batch.active)
        active := (sampled eos predicted batch.active).map Survivor.row
        activeLast := (sampled eos predicted batch.active).map Survivor.token
        indexPos := batch.indexPos + seqLen } 1 := by
  have pos := synced.positive
  rw [survivors_rows]
  refine ⟨?_, ?_, ?_, ?_, ?_, Nat.one_pos⟩
  · rw [length_pushTokens]
    exact synced.genLength
  · exact synced.nodup.filter _
  · intro row mem
    exact synced.inside row (List.mem_filter.mp mem).1
  · intro someLeft
    have started : batch.indexPos + seqLen ≠ 0 := by
      omega
    obtain ⟨holds, length⟩ := ready.holds_of_ne_zero started
    obtain ⟨droppedHolds, sameLength⟩ := dropEnded_holds holds someLeft ran
    refine .cached started ?_ (sameLength.trans length)
    -- of the rows that go on, all tokens but the new one are cached
    convert droppedHolds using 1
    refine List.map_congr_left ?_
    intro row mem
    rw [tokensOf_pushTokens synced.nodup synced.inGen mem,
      ← synced.lengths row (List.mem_filter.mp mem).1, List.take_left]
  · intro row mem
    rw [tokensOf_pushTokens synced.nodup synced.inGen mem, List.length_append,
      synced.lengths row (List.mem_filter.mp mem).1]
    rfl

theorem equalLoop_runsAlone {plen remaining step : Nat} {final : Batch}
    (synced : Synced prompts batch seqLen)
    (input :
      (if step = 0 then (prompts, plen)
        else (batch.activeLast.map fun token => [token], 1)) =
        (batch.active.map fun row => (tokensOf prompts batch.gen row).drop batch.indexPos, seqLen))
    (ran : equalLoop backend prompts plen remaining step batch = .ok final) :
    RunsAlone backend prompts batch.gen batch.active remaining final.gen ∧
      final.gen.length = prompts.length := by
  induction remaining generalizing step batch seqLen with
  | zero =>
    cases ran
    exact ⟨runsAlone_of_done (.inl rfl), synced.genLength⟩
  | succ remaining ih =>
    unfold equalLoop at ran
    by_cases left : batch.active = []
    · rw [if_pos left] at ran
      cases ran
      exact ⟨runsAlone_of_done (.inr left), synced.genLength⟩
    rw [if_neg left, input] at ran
    obtain ⟨_, isInput, ran⟩ := bind_eq_ok.mp ran
    obtain ⟨⟨_, _⟩, passed, ran⟩ := bind_eq_ok.mp ran
    obtain ⟨fits, rfl, ready⟩ := synced.forward left isInput passed
    obtain ⟨_, isDropped, ran⟩ := bind_eq_ok.mp ran
    have nextSynced := synced.next ready isDropped
    have rowsFit : ∀ row ∈ batch.active, (tokensOf prompts batch.gen row).length ≤ maxSeqLen := by
      intro row mem
      rw [synced.lengths row mem]
      exact fits
    let predicted := fun row => backend.predict (tokensOf prompts batch.gen row).zipIdx
    let kept := sampled backend.eos predicted batch.active
    have nextInput :
        (if step + 1 = 0 then (prompts, plen)
          else ((kept.map Survivor.token).map fun token => [token], 1)) =
          ((kept.map Survivor.row).map fun row =>
            (tokensOf prompts (pushTokens batch.gen kept) row).drop
              (batch.indexPos + seqLen), 1) := by
      rw [if_neg (Nat.succ_ne_zero step), survivors_tokens, survivors_rows, List.map_map]
      refine Prod.ext (List.map_congr_left ?_) rfl
      intro row mem
      rw [tokensOf_pushTokens synced.nodup synced.inGen mem,
        ← synced.lengths row (List.mem_filter.mp mem).1,
        List.drop_left]
      rfl
    obtain ⟨runs, length⟩ := ih nextSynced nextInput ran
    rw [survivors_rows] at runs
    exact ⟨.cons synced.nodup synced.inGen rowsFit runs, length⟩

theorem range_map_getD (prompts : List (List Token)) :
    ((List.range prompts.length).map fun row => prompts.getD row []) = prompts := by
  refine List.ext_getElem (by simp) ?_
  intro row _ inside
  simp [List.getD_eq_getElem?_getD, inside]

theorem getD_replicate_nil (count row : Nat) :
    (List.replicate count ([] : List Token)).getD row [] = [] := by
  rw [List.getD_eq_getElem?_getD, List.getElem?_replicate]
  split_ifs <;> rfl

theorem tokensOf_blank (prompts : List (List Token)) (count row : Nat) :
    tokensOf prompts (List.replicate count []) row = prompts.getD row [] := by
  unfold tokensOf
  rw [getD_replicate_nil, List.append_nil]

theorem getD_mem {row : Nat} (inside : row < prompts.length) : prompts.getD row [] ∈ prompts := by
  rw [List.getD_eq_getElem?_getD, List.getElem?_eq_getElem inside]
  exact List.getElem_mem _

theorem generateEqual_greedy {final : ModelState} {plen maxTokens : Nat}
    (lengths : ∀ prompt ∈ prompts, prompt.length = plen) (pos : 0 < plen)
    (ran : generateEqual backend model prompts plen maxTokens = .ok (gen, final)) :
    gen.length = prompts.length ∧ ∀ row < prompts.length,
        Greedy backend.predict backend.eos (prompts.getD row []) maxTokens (gen.getD row []) := by
  obtain ⟨_, looped, ran⟩ := bind_eq_ok.mp ran
  cases ran
  have synced : Synced prompts
        { model := model.setNextSeqCap (some (min (plen + maxTokens) maxSeqLen))
          gen := List.replicate prompts.length []
          active := List.range prompts.length
          activeLast := List.replicate prompts.length 0
          indexPos := 0 } plen := by
    refine ⟨List.length_replicate, List.nodup_range, ?_, ?_, ?_, pos⟩
    · intro row mem
      exact List.mem_range.mp mem
    · intro _
      convert Ready.fresh prompts.length using 1
      simp
    · intro row mem
      rw [tokensOf_blank, Nat.zero_add]
      exact lengths _ (getD_mem (List.mem_range.mp mem))
  have input : (if 0 = 0 then (prompts, plen)
        else ((List.replicate prompts.length (0 : Token)).map fun token => [token], 1)) =
        ((List.range prompts.length).map fun row =>
          (tokensOf prompts (List.replicate prompts.length []) row).drop 0, plen) := by
    rw [if_pos rfl]
    simp only [tokensOf_blank, List.drop_zero, range_map_getD]
  obtain ⟨runs, length⟩ := equalLoop_runsAlone synced input looped
  refine ⟨length, ?_⟩
  intro row inside
  obtain ⟨_, isRest, greedy, _⟩ := runs row
  rw [getD_replicate_nil, List.nil_append] at isRest
  rw [isRest, ← tokensOf_blank prompts prompts.length row]
  exact greedy (List.mem_range.mpr inside)

end MercControl.Agent
