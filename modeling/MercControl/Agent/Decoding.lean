import Mathlib.Data.List.Sort
import MercControl.Agent.KvCache

/-!
# Greedy decoding

The agent decodes prompts greedily, one alone or many at once: prompts of one
length together, the rest padded to the longest of its band.

The transformer is a function: the next token of a row is determined by the
tokens and positions that the mask lets the row see.  The encoding is never
empty.
-/

namespace MercControl.Agent

open Library

abbrev Token := Nat

/-- What is cached for a token: the token and its position. -/
abbrev Entry := Token × Nat

abbrev Ids := { ids : List Token // ids ≠ [] }

/-- `LlamaBackend`, without its cache. -/
structure LlamaBackend (Prompt Text : Type) where
  /-- The token with the largest logit. -/
  predict : List Entry → Token
  eos : Token
  encode : Prompt → Except Failure Ids
  /-- The tokenizer knows every token that the model predicts: it decodes them,
  one by one for the stream and as a whole. -/
  decode : List Token → Text

/-- `ModelWeights`: the state of the model between calls. -/
structure ModelState where
  kv : KvCacheSlot Entry
  nextSeqCap : Option Nat

def ModelState.setNextSeqCap (model : ModelState) (cap : Option Nat) : ModelState :=
  { model with nextSeqCap := cap }

def visible (forbidden : Nat → Bool) (row : List Entry) : List Entry :=
  (row.zipIdx.filter fun entry => !forbidden entry.2).map Prod.fst

/-- `build_causal_mask`; a single query has no mask. -/
def causalMask (seqLen indexPos query slot : Nat) : Bool :=
  decide (seqLen ≠ 1) && decide (query + indexPos < slot)

def forward (predict : List Entry → Token) (model : ModelState)
    (x : Tensor Token) (indexPos : Nat) :
    Except Failure (List Token × ModelState) :=
  if maxSeqLen < indexPos + x.width then .error .contextLengthExceeded
  else
    let seqCap := model.nextSeqCap.getD maxSeqLen
    let kv := if indexPos = 0 then model.kv.resetWithCap seqCap else model.kv
    (Tensor.fromRows (x.rows.map fun row => row.zipIdx indexPos) x.width).bind fun keys =>
    (kv.append keys).bind fun (live, kv) =>
    .ok (live.rows.map fun row => predict (visible (causalMask x.width indexPos (x.width - 1)) row),
     { kv, nextSeqCap := none })

/-- The next token of each row at each query.  The mask is given for each row,
query and slot. -/
def forwardPadded (predict : List Entry → Token) (model : ModelState) (x : Tensor Token)
    (positions : List (List Nat)) (mask : Nat → Nat → Nat → Bool) (fresh : Bool) (seqCap : Nat) :
    Except Failure (List (List Token) × ModelState) :=
  if ∃ row ∈ positions, ∃ position ∈ row, maxSeqLen ≤ position then .error .contextLengthExceeded
  else
    let seqCap := model.nextSeqCap.getD (min seqCap maxSeqLen)
    let kv := if fresh then model.kv.resetWithCap seqCap else model.kv
    (Tensor.fromRows (List.zipWith List.zip x.rows positions) x.width).bind fun keys =>
    (kv.append keys).bind fun (live, kv) =>
    .ok (live.rows.mapIdx fun number row =>
      (List.range x.width).map fun query => predict (visible (mask number query) row),
     { kv, nextSeqCap := none })

def compactKvCache (model : ModelState) (keep : List Nat) : Except Failure ModelState :=
  if keep = [] then .ok model
  else (model.kv.compact keep).bind fun kv => .ok { model with kv }

variable {Prompt Text : Type}

def greedyLoop (backend : LlamaBackend Prompt Text) :
    (remaining step : Nat) → ModelState → (tokens generated : List Token) →
      (indexPos : Nat) → Except Failure (List Token × ModelState)
  | 0, _, model, _, generated, _ => .ok (generated, model)
  | remaining + 1, step, model, tokens, generated, indexPos =>
    let ctx := if step = 0 then tokens else tokens.drop (tokens.length - 1)
    (Tensor.fromRows [ctx] ctx.length).bind fun input =>
    (forward backend.predict model input indexPos).bind fun (logits, model) =>
    match logits with
    | next :: _ =>
      if next = backend.eos then .ok (generated, model)
      else
        greedyLoop backend remaining (step + 1) model (tokens ++ [next])
          (generated ++ [next]) (indexPos + ctx.length)
    | [] => .error .shapeMismatch

def generate (backend : LlamaBackend Prompt Text) (model : ModelState)
    (prompt : Prompt) (maxTokens : Nat) :
    Except Failure ((Text × Nat) × ModelState) :=
  (backend.encode prompt).bind fun ids =>
  (greedyLoop backend maxTokens 0 model ids.1 [] 0).bind fun (generated, model) =>
  .ok ((backend.decode generated, generated.length), model)

/-- A row that goes on: its number among the active rows, its number in the
batch, its new token. -/
structure Survivor where
  slot : Nat
  row : Nat
  token : Token

def survivors (eos : Token) (active : List Nat) (next : List Token) : List Survivor :=
  ((active.zip next).zipIdx.filter fun entry => entry.1.2 ≠ eos).map
    fun entry => { slot := entry.2, row := entry.1.1, token := entry.1.2 }

def pushTokens (gen : List (List Token)) (rows : List Survivor) : List (List Token) :=
  rows.foldl
    (fun gen survivor => gen.modify survivor.row (fun tokens => tokens ++ [survivor.token]))
    gen

def dropEnded (model : ModelState) (active : List Nat)
    (rows : List Survivor) : Except Failure ModelState :=
  if rows.length ≠ active.length then compactKvCache model (rows.map Survivor.slot) else .ok model

structure Batch where
  model : ModelState
  gen : List (List Token)
  active : List Nat
  activeLast : List Token
  indexPos : Nat

def equalLoop (backend : LlamaBackend Prompt Text) (prompts : List (List Token)) (plen : Nat) :
    (remaining step : Nat) → Batch → Except Failure Batch
  | 0, _, batch => .ok batch
  | remaining + 1, step, batch =>
    if batch.active = [] then .ok batch
    else
      let (rows, seqLen) :=
        if step = 0 then (prompts, plen) else (batch.activeLast.map fun token => [token], 1)
      (Tensor.fromRows rows seqLen).bind fun input =>
      (forward backend.predict batch.model input batch.indexPos).bind fun (next, model) =>
      let kept := survivors backend.eos batch.active next
      (dropEnded model batch.active kept).bind fun model =>
      equalLoop backend prompts plen remaining (step + 1)
        { model := model
          gen := pushTokens batch.gen kept
          active := kept.map Survivor.row
          activeLast := kept.map Survivor.token
          indexPos := batch.indexPos + seqLen }

def generateEqual (backend : LlamaBackend Prompt Text) (model : ModelState)
    (prompts : List (List Token)) (plen maxTokens : Nat) :
    Except Failure (List (List Token) × ModelState) :=
  let seqCap := min (plen + maxTokens) maxSeqLen
  (equalLoop backend prompts plen maxTokens 0
    { model := model.setNextSeqCap (some seqCap)
      gen := List.replicate prompts.length []
      active := List.range prompts.length
      activeLast := List.replicate prompts.length 0
      indexPos := 0 }).bind fun batch =>
  .ok (batch.gen, batch.model)

def buildPaddedMask (realLen : List Nat) (qGlobalPos : List (List Nat))
    (cachedLen : Nat) (row query slot : Nat) : Bool :=
  if slot < cachedLen then decide (realLen.getD row 0 ≤ slot)
  else
    decide
      ((qGlobalPos.getD row []).getD query 0 < (qGlobalPos.getD row []).getD (slot - cachedLen) 0)

def paddedDecodeMask (real0 : List Nat) (padLen : Nat) (row _query slot : Nat) : Bool :=
  decide (real0.getD row 0 ≤ slot) && decide (slot < padLen)

def padded (padLen : Nat) (ids : List Token) : List Token :=
  ids ++ List.replicate (padLen - ids.length) (ids.getLastD 0)

structure PaddedBatch where
  model : ModelState
  gen : List (List Token)
  active : List Nat
  activeLast : List Token
  activePos : List Nat
  activeReal0 : List Nat

def paddedLoop (backend : LlamaBackend Prompt Text) (padLen seqCap : Nat) :
    (remaining cachedLen : Nat) → PaddedBatch → Except Failure PaddedBatch
  | 0, _, batch => .ok batch
  | remaining + 1, cachedLen, batch =>
    if batch.active = [] then .ok batch
    else
      (Tensor.fromRows (batch.activeLast.map fun token => [token]) 1).bind fun input =>
      (forwardPadded backend.predict batch.model input
        (batch.activePos.map fun position => [position])
        (paddedDecodeMask batch.activeReal0 padLen) false seqCap).bind fun (logits, model) =>
      let kept := survivors backend.eos batch.active (logits.map (·.headD 0))
      (dropEnded model batch.active kept).bind fun model =>
      paddedLoop backend padLen seqCap remaining (cachedLen + 1)
        { model := model
          gen := pushTokens batch.gen kept
          active := kept.map Survivor.row
          activeLast := kept.map Survivor.token
          activePos := kept.map fun row => batch.activePos.getD row.slot 0 + 1
          activeReal0 := kept.map fun row => batch.activeReal0.getD row.slot 0 }

/-- `generate_padded_bucket`, before decoding.  The first token comes from the
prefill, whatever `maxTokens` is. -/
def generatePaddedBucket (backend : LlamaBackend Prompt Text)
    (model : ModelState) (prompts : List (List Token)) (maxTokens : Nat) :
    Except Failure (List (List Token) × ModelState) :=
  let realLen := prompts.map List.length
  let padLen := realLen.foldl max 0
  let seqCap := min (padLen + maxTokens) maxSeqLen
  let prefillPos := prompts.map fun _ => List.range padLen
  (Tensor.fromRows (prompts.map (padded padLen)) padLen).bind fun input =>
  (forwardPadded backend.predict (model.setNextSeqCap (some seqCap)) input
    prefillPos (buildPaddedMask realLen prefillPos 0) true seqCap).bind fun (logits, model) =>
  let first := List.zipWith (fun row length => row.getD (length - 1) 0) logits realLen
  let kept := survivors backend.eos (List.range prompts.length) first
  (paddedLoop backend padLen seqCap (maxTokens - 1) padLen
    { model := model
      gen := pushTokens (List.replicate prompts.length []) kept
      active := kept.map Survivor.row
      activeLast := kept.map Survivor.token
      activePos := kept.map fun row => realLen.getD row.row 0
      activeReal0 := kept.map fun row => realLen.getD row.row 0 }).bind fun batch =>
  .ok (batch.gen, batch.model)

/-- What the host decides: the order of a hash map, and how many rows fit in
memory when a bucket or a band comes up. -/
structure Host where
  order : List Nat → List Nat
  order_perm : ∀ lengths, (order lengths).Perm lengths
  bucketCap : Nat → Nat
  bucketCap_pos : ∀ length, 0 < bucketCap length
  bandCap : Nat → Nat
  bandCap_pos : ∀ band, 0 < bandCap band

def padBucket : Nat := 16

def chunksIn (width : Nat) : (rounds : Nat) → List Nat → List (List Nat)
  | 0, _ => []
  | _, [] => []
  | rounds + 1, items => items.take width :: chunksIn width rounds (items.drop width)

def chunks (width : Nat) (items : List Nat) : List (List Nat) := chunksIn width items.length items

def forEach {Item State : Type} (body : Item → State → Except Failure State) :
    List Item → State → Except Failure State
  | [], state => .ok state
  | item :: rest, state => (body item state).bind (forEach body rest)

structure Results (Text : Type) where
  model : ModelState
  out : List (Text × Nat)
  singletons : List Nat

def writeAll (backend : LlamaBackend Prompt Text) (members : List Nat)
    (gen : List (List Token)) (out : List (Text × Nat)) :
    List (Text × Nat) :=
  (members.zip gen).foldl
    (fun out result => out.set result.1 (backend.decode result.2, result.2.length))
    out

def pick (encoded : List Ids) (members : List Nat) : List (List Token) :=
  members.filterMap fun member => encoded[member]?.map Subtype.val

def equalChunk (backend : LlamaBackend Prompt Text) (encoded : List Ids)
    (plen maxTokens : Nat) (members : List Nat) (results : Results Text) :
    Except Failure (Results Text) :=
  match members with
  | [member] => .ok { results with singletons := results.singletons ++ [member] }
  | members =>
    (generateEqual backend results.model (pick encoded members) plen
      maxTokens).bind fun (gen, model) =>
    .ok { results with model, out := writeAll backend members gen results.out }

def bucketMembers (encoded : List Ids) (plen : Nat) : List Nat :=
  (List.range encoded.length).filter fun member =>
    (encoded[member]?.map fun ids => ids.1.length) = some plen

def bucketChunks (host : Host) (encoded : List Ids) (plen : Nat) : List (List Nat) :=
  match bucketMembers encoded plen with
  | [member] => [[member]]
  | members => chunks (host.bucketCap plen) members

def bandChunk (backend : LlamaBackend Prompt Text) (prompts : List Prompt)
    (encoded : List Ids) (maxTokens : Nat) (members : List Nat)
    (results : Results Text) : Except Failure (Results Text) :=
  match members with
  | [member] =>
    match prompts[member]? with
    | none => .error .indexOutOfRange
    | some prompt =>
      (generate backend results.model prompt maxTokens).bind fun (result, model) =>
      .ok { results with model, out := results.out.set member result }
  | members =>
    (generatePaddedBucket backend results.model (pick encoded members)
      maxTokens).bind fun (gen, model) =>
    .ok { results with model, out := writeAll backend members gen results.out }

def bandOf (encoded : List Ids) (member : Nat) : Nat :=
  ((encoded[member]?.map fun ids => ids.1.length).getD 0 + padBucket - 1) / padBucket

def bandChunks (host : Host) (encoded : List Ids) (singletons : List Nat)
    (band : Nat) : List (List Nat) :=
  match singletons.filter fun member => bandOf encoded member = band with
  | [member] => [[member]]
  | members => chunks (host.bandCap band) members

def allBandChunks (host : Host) (encoded : List Ids) (singletons : List Nat) : List (List Nat) :=
  let sorted := singletons.insertionSort (· ≤ ·)
  let bands := (sorted.map (bandOf encoded)).dedup.insertionSort (· ≤ ·)
  bands.flatMap (bandChunks host encoded sorted)

def allBucketChunks (host : Host) (encoded : List Ids) : List (Nat × List Nat) :=
  (host.order (encoded.map fun ids => ids.1.length).dedup).flatMap
    fun plen => (bucketChunks host encoded plen).map fun chunk => (plen, chunk)

def generateBatch (backend : LlamaBackend Prompt Text) (host : Host)
    (blank : Text) (model : ModelState) (prompts : List Prompt)
    (maxTokens : Nat) : Except Failure (List (Text × Nat) × ModelState) :=
  (prompts.mapM backend.encode).bind fun encoded =>
  (forEach (fun chunk => equalChunk backend encoded chunk.1 maxTokens chunk.2)
    (allBucketChunks host encoded)
    { model := model
      out := List.replicate prompts.length (blank, 0)
      singletons := [] }).bind fun results =>
  (forEach (bandChunk backend prompts encoded maxTokens)
    (allBandChunks host encoded results.singletons) results).bind fun results =>
  .ok (results.out, results.model)

end MercControl.Agent
