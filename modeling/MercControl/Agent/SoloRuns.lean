import MercControl.Agent.Decoding

/-!
# Decoding one prompt

`Greedy` is what decoding a prompt alone comes to: the tokens that follow each
other until the end token or the limit, each predicted from all tokens before
it.  `greedyLoop` computes it.
-/

namespace MercControl.Agent

open Library Machine

variable {model : ModelState} {indexPos width : Nat}
  {rows : List (List Entry)} {predict : List Entry → Token}
  {tokens generated : List Token}

theorem visible_of_all {forbidden : Nat → Bool} {row : List Entry}
    (allowed : ∀ slot < row.length, forbidden slot = false) : visible forbidden row = row := by
  have kept : (row.zipIdx.filter fun entry => !forbidden entry.2) = row.zipIdx := by
    rw [List.filter_eq_self]
    intro entry mem
    rw [allowed entry.2 (List.snd_lt_of_mem_zipIdx mem)]
    rfl
  unfold visible
  rw [kept, List.zipIdx_map_fst]

/-- The rows of the cache before a forward pass at `indexPos`.  A pass at the
start empties the cache. -/
inductive Ready (model : ModelState) :
    (indexPos : Nat) → (rows : List (List Entry)) → Prop
  | fresh (batch : Nat) : Ready model 0 (List.replicate batch [])
  | cached {indexPos : Nat} {rows : List (List Entry)}
      (started : indexPos ≠ 0) (holds : model.kv.Holds rows)
      (length : model.kv.curLen = indexPos) : Ready model indexPos rows

theorem Ready.holds (ready : Ready model indexPos rows) (seqCap : Nat) :
    (if indexPos = 0 then model.kv.resetWithCap seqCap else model.kv).Holds rows ∧
      (if indexPos = 0 then model.kv.resetWithCap seqCap else model.kv).curLen = indexPos := by
  cases ready with
  | fresh =>
    rw [if_pos rfl]
    exact ⟨KvCacheSlot.holds_resetWithCap _ _ _, rfl⟩
  | cached started holds length =>
    rw [if_neg started]
    exact ⟨holds, length⟩

theorem Ready.holds_of_ne_zero (ready : Ready model indexPos rows) (started : indexPos ≠ 0) :
    model.kv.Holds rows ∧ model.kv.curLen = indexPos := by
  cases ready with
  | fresh => exact (started rfl).elim
  | cached _ holds length => exact ⟨holds, length⟩

theorem fromRows_of_aligned {Cell : Type} {rows : List (List Cell)}
    (aligned : ∀ row ∈ rows, row.length = width) :
    Tensor.fromRows rows width = .ok ⟨rows, width, aligned⟩ := by
  unfold Tensor.fromRows
  rw [dif_pos aligned]

def extend (rows : List (List Entry)) (input : List (List Token))
    (indexPos : Nat) : List (List Entry) :=
  List.zipWith (fun row tokens => row ++ tokens.zipIdx indexPos) rows input

theorem length_extend {input : List (List Token)} (rowLengths : ∀ row ∈ rows, row.length = indexPos)
    (inputLengths : ∀ row ∈ input, row.length = width) :
    ∀ row ∈ extend rows input indexPos, row.length = indexPos + width := by
  intro row mem
  obtain ⟨old, oldMem, new, newMem, rfl⟩ := mem_zipWith mem
  rw [List.length_append, List.length_zipIdx, rowLengths old oldMem, inputLengths new newMem]

theorem visible_last {row : List Entry} (pos : 0 < width) (length : row.length = indexPos + width) :
    visible (causalMask width indexPos (width - 1)) row = row := by
  apply visible_of_all
  intro slot inside
  unfold causalMask
  rw [Bool.and_eq_false_iff]
  right
  rw [decide_eq_false_iff_not]
  omega

/-- A pass adds the input to the cache and predicts from all that is cached, or
the input does not fit. -/
theorem forward_spec {x : Tensor Token} (ready : Ready model indexPos rows)
    (batch : x.rows.length = rows.length) (pos : 0 < x.width) :
    (indexPos + x.width ≤ maxSeqLen ∧ ∃ next, forward predict model x indexPos =
          .ok ((extend rows x.rows indexPos).map predict, next) ∧
        Ready next (indexPos + x.width) (extend rows x.rows indexPos)) ∨
      (maxSeqLen < indexPos + x.width ∧
        forward predict model x indexPos = .error .contextLengthExceeded) := by
  unfold forward
  by_cases long : maxSeqLen < indexPos + x.width
  · rw [if_pos long]
    exact .inr ⟨long, rfl⟩
  rw [if_neg long]
  have fits : indexPos + x.width ≤ maxSeqLen := Nat.le_of_not_lt long
  refine .inl ⟨fits, ?_⟩
  obtain ⟨holds, length⟩ := ready.holds (model.nextSeqCap.getD maxSeqLen)
  have keysAligned : ∀ row ∈ x.rows.map fun row => row.zipIdx indexPos, row.length = x.width := by
    intro row mem
    obtain ⟨tokens, tokensMem, rfl⟩ := List.mem_map.mp mem
    rw [List.length_zipIdx, x.aligned tokens tokensMem]
  have keysBatch : (x.rows.map fun row => row.zipIdx indexPos).length = rows.length := by
    rw [List.length_map, batch]
  rw [fromRows_of_aligned keysAligned]
  dsimp only [Except.bind]
  have rowsEq : List.zipWith (· ++ ·) rows (x.rows.map fun row => row.zipIdx indexPos) =
        extend rows x.rows indexPos := by
    unfold extend
    rw [List.zipWith_map_right]
  have rowLengths : ∀ row ∈ rows, row.length = indexPos := by
    rw [← length]
    exact holds.length_eq
  let keys : Tensor Entry := ⟨_, x.width, keysAligned⟩
  have sameBatch : keys.rows.length = rows.length := keysBatch
  rcases holds.append sameBatch with
    ⟨_, live, next, appended, isLive, nextHolds, nextLength⟩ | ⟨tooLong, _⟩
  · rw [appended]
    dsimp only
    rw [isLive, rowsEq]
    rw [rowsEq] at nextHolds
    refine ⟨_, congrArg Except.ok (Prod.ext ?_ rfl), ?_⟩
    · refine List.map_congr_left ?_
      intro row mem
      rw [visible_last pos (length_extend rowLengths x.aligned row mem)]
    · refine .cached (by omega) nextHolds ?_
      rw [nextLength, length]
  · rw [length] at tooLong
    exact (Nat.not_lt.mpr fits tooLong).elim

/-- Decoding `tokens` alone with a limit gives `generated`, and all of it fits
in the context. -/
inductive Greedy (predict : List Entry → Token) (eos : Token) :
    (tokens : List Token) → (limit : Nat) → (generated : List Token) → Prop
  | limit (tokens : List Token) : Greedy predict eos tokens 0 []
  | ended {tokens : List Token} {limit : Nat} (fits : tokens.length ≤ maxSeqLen)
      (isEnd : predict tokens.zipIdx = eos) :
      Greedy predict eos tokens (limit + 1) []
  | next {tokens generated : List Token} {limit : Nat} (fits : tokens.length ≤ maxSeqLen)
      (goesOn : predict tokens.zipIdx ≠ eos)
      (rest :
        Greedy predict eos (tokens ++ [predict tokens.zipIdx]) limit generated) :
      Greedy predict eos tokens (limit + 1) (predict tokens.zipIdx :: generated)

theorem take_zipIdx_append_drop (count start : Nat) (inside : count ≤ tokens.length) :
    (tokens.take count).zipIdx start ++ (tokens.drop count).zipIdx (start + count) =
      tokens.zipIdx start := by
  conv_rhs => rw [← List.take_append_drop count tokens]
  rw [List.zipIdx_append, List.length_take, Nat.min_eq_left inside]

variable {Prompt Text : Type}

variable {backend : LlamaBackend Prompt Text}

/-- A pass that feeds the rest of some rows predicts from the whole rows. -/
theorem forward_rows {active : List Nat} {tokens : Nat → List Token}
    (ready : Ready model indexPos (active.map fun row => ((tokens row).take indexPos).zipIdx))
    (lengths : ∀ row ∈ active, (tokens row).length = indexPos + width) (pos : 0 < width) :
    ∃ input, Tensor.fromRows (active.map fun row => (tokens row).drop indexPos) width = .ok input ∧
      ((indexPos + width ≤ maxSeqLen ∧ ∃ next, forward predict model input indexPos =
            .ok (active.map fun row => predict (tokens row).zipIdx, next) ∧
          Ready next (indexPos + width) (active.map fun row => (tokens row).zipIdx)) ∨
        (maxSeqLen < indexPos + width ∧
          forward predict model input indexPos = .error .contextLengthExceeded)) := by
  have aligned : ∀ row ∈ active.map fun row => (tokens row).drop indexPos, row.length = width := by
    intro row mem
    obtain ⟨number, numberMem, rfl⟩ := List.mem_map.mp mem
    rw [List.length_drop, lengths number numberMem]
    omega
  have rows : extend (active.map fun row => ((tokens row).take indexPos).zipIdx)
        (active.map fun row => (tokens row).drop indexPos) indexPos =
      active.map fun row => (tokens row).zipIdx := by
    unfold extend
    rw [List.zipWith_map, List.zipWith_self]
    refine List.map_congr_left ?_
    intro row mem
    have inside : indexPos ≤ (tokens row).length := by
      rw [lengths row mem]
      omega
    have joined := take_zipIdx_append_drop indexPos 0 inside
    rw [Nat.zero_add] at joined
    exact joined
  let input : Tensor Token := ⟨_, width, aligned⟩
  have sameBatch : input.rows.length =
      (active.map fun row => ((tokens row).take indexPos).zipIdx).length := by
    simp [input]
  have passed := @forward_spec model indexPos _ predict input ready sameBatch pos
  rw [rows, List.map_map] at passed
  exact ⟨input, fromRows_of_aligned aligned, passed⟩

theorem forward_single (predict : List Entry → Token)
    (ready : Ready model indexPos [(tokens.take indexPos).zipIdx])
    (inside : indexPos < tokens.length) (fits : tokens.length ≤ maxSeqLen) :
    ∃ input next, Tensor.fromRows [tokens.drop indexPos] (tokens.drop indexPos).length = .ok input ∧
        forward predict model input indexPos = .ok ([predict tokens.zipIdx], next) ∧
        Ready next tokens.length [tokens.zipIdx] := by
  have length : tokens.length = indexPos + (tokens.drop indexPos).length := by
    rw [List.length_drop]
    omega
  have alone : Ready model indexPos ([0].map fun _ => (tokens.take indexPos).zipIdx) := ready
  obtain ⟨input, isInput, ⟨_, next, ran, nextReady⟩ | ⟨_, _⟩⟩ :=
    forward_rows alone (fun _ _ => length) (by omega)
  · rw [← length] at nextReady
    exact ⟨input, next, isInput, ran, nextReady⟩
  · omega

section

variable {remaining step : Nat}

-- Before each step, the cache holds the tokens before `indexPos`, and the
-- context is what follows.
variable (ready : Ready model indexPos [(tokens.take indexPos).zipIdx])
  (inside : indexPos < tokens.length)
  (context : (if step = 0 then tokens else tokens.drop (tokens.length - 1)) = tokens.drop indexPos)

include ready inside context

theorem greedyLoop_succ (fits : tokens.length ≤ maxSeqLen) :
    ∃ next, Ready next tokens.length [tokens.zipIdx] ∧
      greedyLoop backend (remaining + 1) step model tokens generated indexPos =
        if backend.predict tokens.zipIdx = backend.eos then .ok (generated, next)
        else
          greedyLoop backend remaining (step + 1) next (tokens ++ [backend.predict tokens.zipIdx])
            (generated ++ [backend.predict tokens.zipIdx]) tokens.length := by
  obtain ⟨_, next, isInput, ran, nextReady⟩ := forward_single backend.predict ready inside fits
  have length : indexPos + (tokens.drop indexPos).length = tokens.length := by
    rw [List.length_drop]
    omega
  refine ⟨next, nextReady, ?_⟩
  rw [greedyLoop]
  rw [context, isInput]
  dsimp only [Except.bind]
  rw [ran]
  rw [length]

theorem greedyLoop_of_greedy {rest : List Token}
    (greedy : Greedy backend.predict backend.eos tokens remaining rest) :
    ∃ next, greedyLoop backend remaining step model tokens generated
      indexPos = .ok (generated ++ rest, next) := by
  induction greedy generalizing step indexPos model generated with
  | limit =>
    rw [List.append_nil]
    exact ⟨model, rfl⟩
  | ended fits isEnd =>
    obtain ⟨next, -, ran⟩ := greedyLoop_succ ready inside context fits
    rw [ran, if_pos isEnd, List.append_nil]
    exact ⟨next, rfl⟩
  | next fits goesOn _ ih =>
    obtain ⟨next, _, ran⟩ := greedyLoop_succ ready inside context fits
    rw [List.append_cons, ran, if_neg goesOn]
    apply ih
    · rwa [List.take_left]
    · simp
    · simp

omit ready in
theorem greedyLoop_fits {result : List Token × ModelState}
    (ran : greedyLoop backend (remaining + 1) step model tokens generated indexPos = .ok result) :
    tokens.length ≤ maxSeqLen := by
  rw [greedyLoop] at ran
  rw [context, fromRows_of_aligned (by simp)] at ran
  dsimp only [Except.bind] at ran
  obtain ⟨_, passed, _⟩ := bind_eq_ok.mp ran
  obtain ⟨short, _⟩ := ite_error_eq_ok.mp passed
  dsimp only at short
  rw [List.length_drop] at short
  omega

theorem greedy_of_greedyLoop {final : ModelState} {result : List Token}
    (ran : greedyLoop backend remaining step model tokens generated indexPos =
      .ok (result, final)) :
    ∃ rest, result = generated ++ rest ∧
      Greedy backend.predict backend.eos tokens remaining rest := by
  induction remaining generalizing step indexPos model tokens generated with
  | zero =>
    obtain ⟨rfl, _⟩ := Prod.mk.inj (Except.ok.inj ran)
    exact ⟨[], (List.append_nil _).symm, .limit tokens⟩
  | succ remaining ih =>
    have fits := greedyLoop_fits inside context ran
    obtain ⟨_, _, isNext⟩ := greedyLoop_succ ready inside context fits
    rw [isNext] at ran
    split_ifs at ran with isEnd
    · obtain ⟨rfl, _⟩ := Prod.mk.inj (Except.ok.inj ran)
      exact ⟨[], (List.append_nil _).symm, .ended fits isEnd⟩
    · obtain ⟨rest, isRest, greedy⟩ :=
        ih (by rwa [List.take_left]) (by simp) (by simp) ran
      refine ⟨backend.predict tokens.zipIdx :: rest, ?_, .next fits isEnd greedy⟩
      rw [isRest, List.append_assoc]
      rfl

end

theorem generate_of_greedy {prompt : Prompt} {ids : Ids} {maxTokens : Nat}
    (encoded : backend.encode prompt = .ok ids)
    (greedy : Greedy backend.predict backend.eos ids.1 maxTokens generated) (model : ModelState) :
    ∃ next, generate backend model prompt maxTokens =
      .ok ((backend.decode generated, generated.length), next) := by
  have ready : Ready model 0 [(ids.1.take 0).zipIdx] := .fresh 1
  obtain ⟨next, ran⟩ :
      ∃ next, greedyLoop backend maxTokens 0 model ids.1 [] 0 = .ok ([] ++ generated, next) :=
    greedyLoop_of_greedy ready (List.length_pos_iff.mpr ids.2) rfl greedy
  refine ⟨next, ?_⟩
  unfold generate
  rw [encoded]
  dsimp only [Except.bind]
  rw [ran]
  rfl

theorem greedy_of_generate {prompt : Prompt} {ids : Ids} {maxTokens : Nat}
    {next : ModelState} {result : Text × Nat} (encoded : backend.encode prompt = .ok ids)
    (ran : generate backend model prompt maxTokens = .ok (result, next)) :
    ∃ generated, Greedy backend.predict backend.eos ids.1 maxTokens generated ∧
        result = (backend.decode generated, generated.length) := by
  unfold generate at ran
  rw [encoded] at ran
  dsimp only [Except.bind] at ran
  obtain ⟨⟨generated, _⟩, looped, ran⟩ := bind_eq_ok.mp ran
  obtain ⟨rfl, _⟩ := Prod.mk.inj (Except.ok.inj ran)
  have ready : Ready model 0 [(ids.1.take 0).zipIdx] := .fresh 1
  obtain ⟨rest, isRest, greedy⟩ :=
    greedy_of_greedyLoop ready (List.length_pos_iff.mpr ids.2) rfl looped
  rw [isRest]
  exact ⟨rest, greedy, rfl⟩

end MercControl.Agent
