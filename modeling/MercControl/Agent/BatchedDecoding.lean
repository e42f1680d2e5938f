import Mathlib.Data.List.Dedup
import Mathlib.Data.List.Pairwise
import MercControl.Agent.PaddedRuns

/-!
# A batch answers each prompt as if alone

`generateBatch` splits the prompts into chunks, which write the results of
their own prompts.  A prompt in a padded chunk is given one token more than
asked for when the limit is zero.
-/

namespace MercControl.Agent

open Library Machine

variable {host : Host} {encoded : List Ids} {place maxTokens : Nat} {members : List Nat}

theorem chunksIn_flatten {width rounds : Nat} {items : List Nat} (pos : 0 < width)
    (enough : items.length ≤ rounds) : (chunksIn width rounds items).flatten = items := by
  induction rounds generalizing items with
  | zero =>
    rw [Nat.le_zero, List.length_eq_zero_iff] at enough
    rw [enough]
    rfl
  | succ rounds ih =>
    cases items with
    | nil => rfl
    | cons item items =>
      have shorter : ((item :: items).drop width).length ≤ rounds := by
        rw [List.length_drop]
        omega
      change ((item :: items).take width ::
        chunksIn width rounds ((item :: items).drop width)).flatten = _
      rw [List.flatten_cons, ih shorter, List.take_append_drop]

theorem chunks_flatten {width : Nat} (pos : 0 < width)
    (items : List Nat) : (chunks width items).flatten = items :=
  chunksIn_flatten pos le_rfl

theorem bucketChunks_flatten (host : Host) (encoded : List Ids) (plen : Nat) :
    (bucketChunks host encoded plen).flatten = bucketMembers encoded plen := by
  unfold bucketChunks
  split
  · rename_i single
    rw [single]
    rfl
  · exact chunks_flatten (host.bucketCap_pos plen) _

theorem nodup_flatMap_of_key {items keys : List Nat} {keyOf : Nat → Option Nat}
    (distinct : keys.Nodup) (nodup : items.Nodup) :
    (keys.flatMap fun key => items.filter fun item => keyOf item = some key).Nodup := by
  rw [List.nodup_flatMap]
  refine ⟨fun key _ => nodup.filter _, distinct.imp ?_⟩
  intro first second differ item inFirst inSecond
  have isFirst := of_decide_eq_true (List.mem_filter.mp inFirst).2
  have isSecond := of_decide_eq_true (List.mem_filter.mp inSecond).2
  exact differ (Option.mem_unique isFirst isSecond)

theorem allBucketChunks_members (host : Host) (encoded : List Ids) :
    (allBucketChunks host encoded).flatMap Prod.snd =
      (host.order (encoded.map fun ids => ids.1.length).dedup).flatMap (bucketMembers encoded) := by
  unfold allBucketChunks
  rw [List.flatMap_assoc]
  refine congrArg (fun blocks => List.flatMap blocks _) ?_
  funext plen
  rw [List.flatMap_map, ← bucketChunks_flatten host encoded plen]
  exact List.flatMap_id

theorem allBucketChunks_nodup (host : Host) (encoded : List Ids) :
    ((allBucketChunks host encoded).flatMap Prod.snd).Nodup := by
  rw [allBucketChunks_members]
  refine nodup_flatMap_of_key ?_ List.nodup_range
  exact (host.order_perm _).nodup_iff.mpr (List.nodup_dedup _)

theorem mem_allBucketChunks (inside : place < encoded.length) :
    ∃ chunk ∈ allBucketChunks host encoded, place ∈ chunk.2 := by
  have found := List.getElem?_eq_getElem inside
  let plen := encoded[place].1.length
  have isLength : plen ∈ (encoded.map fun ids => ids.1.length) :=
    List.mem_map.mpr ⟨_, List.getElem_mem inside, rfl⟩
  have isMember : place ∈ bucketMembers encoded plen := by
    refine List.mem_filter.mpr ⟨List.mem_range.mpr inside, ?_⟩
    rw [found]
    exact decide_eq_true rfl
  rw [← List.mem_flatMap, allBucketChunks_members]
  refine List.mem_flatMap.mpr ⟨plen, ?_, isMember⟩
  exact (host.order_perm _).mem_iff.mpr (List.mem_dedup.mpr isLength)

theorem chunk_members {chunk : Nat × List Nat} (member : chunk ∈ allBucketChunks host encoded) :
    0 < chunk.1 ∧ ∀ place ∈ chunk.2, place ∈ bucketMembers encoded chunk.1 := by
  obtain ⟨plen, isBucket, inBucket⟩ := List.mem_flatMap.mp member
  obtain ⟨members, isChunk, rfl⟩ := List.mem_map.mp inBucket
  have isLength := (host.order_perm _).mem_iff.mp isBucket
  obtain ⟨ids, _, isLength⟩ := List.mem_map.mp (List.mem_dedup.mp isLength)
  constructor
  · rw [← isLength]
    exact List.length_pos_iff.mpr ids.2
  · intro place inChunk
    rw [← bucketChunks_flatten host encoded plen]
    exact List.mem_flatten.mpr ⟨members, isChunk, inChunk⟩

theorem chunk_unique {Item : Type} {items : List Item} {membersOf : Item → List Nat}
    (nodup : (items.flatMap membersOf).Nodup) {first second : Item} (firstMember : first ∈ items)
    (secondMember : second ∈ items) (inFirst : place ∈ membersOf first)
    (inSecond : place ∈ membersOf second) : first = second := by
  by_contra differ
  have apart := (List.nodup_flatMap.mp nodup).2
  have symmetric : Std.Symm (Function.onFun List.Disjoint membersOf) :=
    ⟨fun _ _ => List.Disjoint.symm⟩
  have disjoint := apart.forall firstMember secondMember differ
  exact disjoint inFirst inSecond

/-- The places whose chunk of a bucket has no other member. -/
def leftOver (host : Host) (encoded : List Ids) : List Nat :=
  ((allBucketChunks host encoded).filter fun chunk => chunk.2.length = 1).flatMap Prod.snd

theorem leftOver_nodup (host : Host) (encoded : List Ids) : (leftOver host encoded).Nodup := by
  obtain ⟨each, apart⟩ := List.nodup_flatMap.mp (allBucketChunks_nodup host encoded)
  refine List.nodup_flatMap.mpr ⟨?_, apart.filter _⟩
  intro chunk member
  exact each chunk (List.mem_filter.mp member).1

theorem allBandChunks_flatten (host : Host) (encoded : List Ids) (singletons : List Nat) :
    (allBandChunks host encoded singletons).flatMap id = (((singletons.insertionSort (· ≤ ·)).map
        (bandOf encoded)).dedup.insertionSort (· ≤ ·)).flatMap
          fun band =>
            (singletons.insertionSort (· ≤ ·)).filter fun member =>
              some (bandOf encoded member) = some band := by
  unfold allBandChunks
  rw [List.flatMap_assoc]
  refine congrArg (fun blocks => List.flatMap blocks _) ?_
  funext band
  simp only [List.flatMap_id, Option.some.injEq]
  unfold bandChunks
  split
  · rename_i single
    rw [single]
    rfl
  · exact chunks_flatten (host.bandCap_pos band) _

theorem allBandChunks_nodup {singletons : List Nat} (nodup : singletons.Nodup) :
    ((allBandChunks host encoded singletons).flatMap id).Nodup := by
  rw [allBandChunks_flatten]
  refine nodup_flatMap_of_key ?_ ?_
  · exact (List.perm_insertionSort _ _).nodup_iff.mpr (List.nodup_dedup _)
  · exact (List.perm_insertionSort _ _).nodup_iff.mpr nodup

theorem mem_allBandChunks {singletons : List Nat} :
    place ∈ (allBandChunks host encoded singletons).flatMap id ↔ place ∈ singletons := by
  rw [allBandChunks_flatten]
  have sorted : place ∈ singletons.insertionSort (· ≤ ·) ↔ place ∈ singletons :=
    (List.perm_insertionSort _ _).mem_iff
  constructor
  · intro member
    obtain ⟨_, _, inBand⟩ := List.mem_flatMap.mp member
    exact sorted.mp (List.mem_filter.mp inBand).1
  · intro member
    refine List.mem_flatMap.mpr ⟨bandOf encoded place, ?_, ?_⟩
    · rw [(List.perm_insertionSort _ _).mem_iff, List.mem_dedup]
      exact List.mem_map.mpr ⟨place, sorted.mpr member, rfl⟩
    · exact List.mem_filter.mpr ⟨sorted.mpr member, decide_eq_true rfl⟩

variable {Prompt Text : Type}

structure Writes (members : List Nat) (Good : Nat → Text × Nat → Prop)
    (before after : List (Text × Nat)) : Prop where
  length : after.length = before.length
  kept : ∀ place ∉ members, after[place]? = before[place]?
  good : ∀ place ∈ members, ∀ result, after[place]? = some result → Good place result

variable {backend : LlamaBackend Prompt Text} {prompts : List Prompt}

theorem forEach_writes {Item : Type} {membersOf : Item → List Nat}
    {Good : Item → Nat → Text × Nat → Prop}
    {body : Item → Results Text → Except Failure (Results Text)}
    {items : List Item} {start final : Results Text} (nodup : (items.flatMap membersOf).Nodup)
    (writes : ∀ item ∈ items, ∀ results next,
      body item results = .ok next → Writes (membersOf item) (Good item) results.out next.out)
    (ran : forEach body items start = .ok final) :
    final.out.length = start.out.length ∧
      (∀ place ∉ items.flatMap membersOf, final.out[place]? = start.out[place]?) ∧
      ∀ item ∈ items, ∀ place ∈ membersOf item, ∀ result,
        final.out[place]? = some result → Good item place result := by
  induction items generalizing start with
  | nil =>
    cases ran
    exact ⟨rfl, fun _ _ => rfl, fun _ member => by cases member⟩
  | cons item items ih =>
    obtain ⟨next, isNext, ran⟩ := bind_eq_ok.mp ran
    rw [List.flatMap_cons, List.nodup_append] at nodup
    obtain ⟨_, restNodup, apart⟩ := nodup
    have wrote := writes item (.head _) start next isNext
    obtain ⟨restLength, restKept, restGood⟩ :=
      ih restNodup (fun other member => writes other (.tail _ member)) ran
    refine ⟨restLength.trans wrote.length, ?_, ?_⟩
    · intro place outside
      rw [List.flatMap_cons, List.mem_append, not_or] at outside
      rw [restKept place outside.2, wrote.kept place outside.1]
    · intro other member place inChunk result isResult
      rcases List.mem_cons.mp member with rfl | member
      · have outside : place ∉ items.flatMap membersOf :=
          fun inRest => apart place inChunk place inRest rfl
        rw [restKept place outside] at isResult
        exact wrote.good place inChunk result isResult
      · exact restGood other member place inChunk result isResult

theorem writeAll_writes {gen : List (List Token)} {out : List (Text × Nat)}
    {Good : Nat → Text × Nat → Prop} (nodup : members.Nodup)
    (good : List.Forall₂ (fun member tokens => Good member (backend.decode tokens, tokens.length))
      members gen) : Writes members Good out (writeAll backend members gen out) := by
  induction good generalizing out with
  | nil => exact ⟨rfl, fun _ _ => rfl, fun _ member => by cases member⟩
  | @cons member tokens members gen isGood _ ih =>
    rw [List.nodup_cons] at nodup
    have rest : Writes members Good (out.set member (backend.decode tokens, tokens.length))
        (writeAll backend (member :: members) (tokens :: gen) out) :=
      ih nodup.2
    refine ⟨rest.length.trans List.length_set, ?_, ?_⟩
    · intro place outside
      rw [List.mem_cons, not_or] at outside
      rw [rest.kept place outside.2, List.getElem?_set_ne (Ne.symm outside.1)]
    · intro place inside result isResult
      rcases List.mem_cons.mp inside with rfl | inside
      · rw [rest.kept place nodup.1] at isResult
        rw [List.getElem?_set_self'] at isResult
        obtain ⟨_, _, rfl⟩ := Option.map_eq_some_iff.mp isResult
        exact isGood
      · exact rest.good place inside result isResult

def idsAt (encoded : List Ids) (place : Nat) : List Token :=
  (encoded[place]?.map Subtype.val).getD []

theorem idsAt_eq (inside : place < encoded.length) : idsAt encoded place = encoded[place].1 := by
  unfold idsAt
  rw [List.getElem?_eq_getElem inside]
  rfl

def Answers (backend : LlamaBackend Prompt Text) (encoded : List Ids)
    (limit place : Nat) (result : Text × Nat) : Prop :=
  ∃ generated,
    Greedy backend.predict backend.eos (idsAt encoded place) limit generated ∧
      result = (backend.decode generated, generated.length)

theorem pick_eq (inside : ∀ member ∈ members, member < encoded.length) :
    pick encoded members = members.map (idsAt encoded) := by
  rw [pick, List.filterMap_eq_map_iff_forall_eq_some]
  intro member isMember
  unfold idsAt
  rw [List.getElem?_eq_getElem (inside member isMember)]
  rfl

theorem answers_of_rows {gen : List (List Token)} {limit : Nat}
    (inside : ∀ member ∈ members, member < encoded.length)
    (length : gen.length = (pick encoded members).length)
    (rows : ∀ row < (pick encoded members).length,
      Greedy backend.predict backend.eos ((pick encoded members).getD row [])
        limit (gen.getD row [])) :
    List.Forall₂
      (fun member tokens =>
        Answers backend encoded limit member (backend.decode tokens, tokens.length))
      members gen := by
  rw [pick_eq inside] at length rows
  rw [List.length_map] at length rows
  refine List.forall₂_iff_get.mpr ⟨length.symm, ?_⟩
  intro row inMembers inGen
  have greedy := rows row inMembers
  rw [List.getD_eq_getElem?_getD, List.getElem?_map,
    List.getElem?_eq_getElem inMembers, List.getD_eq_getElem?_getD,
    List.getElem?_eq_getElem inGen] at greedy
  exact ⟨_, greedy, rfl⟩

theorem length_of_mem_bucketMembers {plen member : Nat}
    (isMember : member ∈ bucketMembers encoded plen) :
    member < encoded.length ∧ (idsAt encoded member).length = plen := by
  obtain ⟨inRange, isLength⟩ := List.mem_filter.mp isMember
  have inside := List.mem_range.mp inRange
  have isLength := of_decide_eq_true isLength
  unfold idsAt
  rw [List.getElem?_eq_getElem inside] at isLength ⊢
  exact ⟨inside, Option.some.inj isLength⟩

theorem lt_of_mem_bandChunk {chunk : List Nat}
    (member : chunk ∈ allBandChunks host encoded (leftOver host encoded))
    (inChunk : place ∈ chunk) : place < encoded.length := by
  have isOver : place ∈ leftOver host encoded :=
    mem_allBandChunks.mp (List.mem_flatMap.mpr ⟨chunk, member, inChunk⟩)
  obtain ⟨_, isBucket, inBucket⟩ := List.mem_flatMap.mp isOver
  have members := chunk_members (List.mem_filter.mp isBucket).1
  exact (length_of_mem_bucketMembers (members.2 place inBucket)).1

/-- A chunk of a bucket answers its prompts, unless it has one only. -/
theorem equalChunk_writes {chunk : Nat × List Nat} {results next : Results Text}
    (nodup : chunk.2.Nodup) (pos : 0 < chunk.1)
    (members : ∀ member ∈ chunk.2, member ∈ bucketMembers encoded chunk.1)
    (ran : equalChunk backend encoded chunk.1 maxTokens chunk.2 results = .ok next) :
    Writes chunk.2
      (fun place result => chunk.2.length ≠ 1 → Answers backend encoded maxTokens place result)
      results.out next.out := by
  have inside : ∀ member ∈ chunk.2, member < encoded.length :=
    fun member isMember => (length_of_mem_bucketMembers (members member isMember)).1
  unfold equalChunk at ran
  split at ran
  · rename_i member single
    cases ran
    rw [single]
    exact ⟨rfl, fun _ _ => rfl, fun _ _ _ _ many => (many rfl).elim⟩
  · obtain ⟨⟨_, _⟩, generated, ran⟩ := bind_eq_ok.mp ran
    cases ran
    have lengths : ∀ prompt ∈ pick encoded chunk.2, prompt.length = chunk.1 := by
      rw [pick_eq inside]
      intro prompt isPrompt
      obtain ⟨member, isMember, rfl⟩ := List.mem_map.mp isPrompt
      exact (length_of_mem_bucketMembers (members member isMember)).2
    obtain ⟨length, rows⟩ := generateEqual_greedy lengths pos generated
    have answers := answers_of_rows inside length rows
    exact writeAll_writes nodup (answers.imp fun _ _ isAnswer _ => isAnswer)

/-- The limit of a chunk of a band: a padded chunk always takes the token of
the prefill. -/
def bandLimit (maxTokens : Nat) (members : List Nat) : Nat :=
  if members.length = 1 then maxTokens else maxTokens - 1 + 1

theorem bandChunk_writes {results next : Results Text} (nodup : members.Nodup)
    (inside : ∀ member ∈ members, member < encoded.length)
    (encodes : List.Forall₂ (fun prompt ids => backend.encode prompt = .ok ids) prompts encoded)
    (ran : bandChunk backend prompts encoded maxTokens members results = .ok next) :
    Writes members (Answers backend encoded (bandLimit maxTokens members))
      results.out next.out := by
  unfold bandChunk at ran
  split at ran
  · rename_i member
    have inEncoded : member < encoded.length := inside member (.head _)
    have inPrompts : member < prompts.length := by
      rw [encodes.length_eq]
      exact inEncoded
    rw [List.getElem?_eq_getElem inPrompts] at ran
    obtain ⟨⟨_, model⟩, generated, ran⟩ := bind_eq_ok.mp ran
    cases ran
    have isEncoded : backend.encode prompts[member] = .ok encoded[member] :=
      encodes.get inPrompts inEncoded
    obtain ⟨tokens, greedy, rfl⟩ := greedy_of_generate isEncoded generated
    rw [← idsAt_eq inEncoded] at greedy
    exact writeAll_writes nodup (.cons ⟨tokens, greedy, rfl⟩ .nil)
  · rename_i many
    obtain ⟨⟨_, model⟩, generated, ran⟩ := bind_eq_ok.mp ran
    cases ran
    have nonempty : ∀ prompt ∈ pick encoded members, prompt ≠ [] := by
      intro prompt isPrompt
      obtain ⟨member, _, isPrompt⟩ := List.mem_filterMap.mp isPrompt
      obtain ⟨ids, _, rfl⟩ := Option.map_eq_some_iff.mp isPrompt
      exact ids.2
    obtain ⟨length, rows⟩ := generatePaddedBucket_greedy nonempty generated
    have limit : bandLimit maxTokens members = maxTokens - 1 + 1 := by
      refine if_neg ?_
      intro single
      obtain ⟨member, isSingle⟩ := List.length_eq_one_iff.mp single
      exact many member isSingle
    rw [limit]
    exact writeAll_writes nodup (answers_of_rows inside length rows)

theorem encoded_of_mapM (ran : prompts.mapM backend.encode = .ok encoded) :
    List.Forall₂ (fun prompt ids => backend.encode prompt = .ok ids) prompts encoded := by
  induction prompts generalizing encoded with
  | nil =>
    cases ran
    exact .nil
  | cons prompt prompts ih =>
    rw [List.mapM_cons] at ran
    obtain ⟨ids, isIds, ran⟩ := bind_eq_ok.mp ran
    obtain ⟨_, isRest, ran⟩ := bind_eq_ok.mp ran
    cases ran
    exact .cons isIds (ih isRest)

/-- The buckets leave the places over that are alone in their chunk. -/
theorem forEach_singletons {chunks : List (Nat × List Nat)} {start final : Results Text}
    (ran : forEach (fun chunk => equalChunk backend encoded chunk.1 maxTokens chunk.2)
      chunks start = .ok final) :
    final.singletons = start.singletons ++ (chunks.filter fun chunk => chunk.2.length = 1).flatMap
          Prod.snd := by
  induction chunks generalizing start with
  | nil =>
    cases ran
    exact (List.append_nil _).symm
  | cons chunk chunks ih =>
    obtain ⟨_, isNext, ran⟩ := bind_eq_ok.mp ran
    rw [ih ran]
    dsimp only at isNext
    unfold equalChunk at isNext
    split at isNext
    · rename_i member single
      cases isNext
      rw [List.filter_cons_of_pos (by rw [single]; rfl),
        List.flatMap_cons, single, List.append_assoc]
    · rename_i many
      obtain ⟨⟨_, _⟩, _, isNext⟩ := bind_eq_ok.mp isNext
      cases isNext
      have notSingle : chunk.2.length ≠ 1 := by
        intro single
        obtain ⟨member, isSingle⟩ := List.length_eq_one_iff.mp single
        exact many member isSingle
      simp [notSingle]

def Padded (host : Host) (encoded : List Ids) (place : Nat) : Prop :=
  ∃ chunk ∈ allBandChunks host encoded (leftOver host encoded), 2 ≤ chunk.length ∧ place ∈ chunk

theorem generateBatch_answers {blank : Text} {model final : ModelState} {out : List (Text × Nat)}
    (ran : generateBatch backend host blank model prompts maxTokens = .ok (out, final)) :
    ∃ encoded, prompts.mapM backend.encode = .ok encoded ∧ out.length = prompts.length ∧
      ∀ place < prompts.length, ∀ result, out[place]? = some result →
        (Padded host encoded place → Answers backend encoded (maxTokens - 1 + 1) place result) ∧
        (¬ Padded host encoded place → Answers backend encoded maxTokens place result) := by
  obtain ⟨encoded, isEncoded, ran⟩ := bind_eq_ok.mp ran
  obtain ⟨bucketed, isBucketed, ran⟩ := bind_eq_ok.mp ran
  obtain ⟨_, isBanded, ran⟩ := bind_eq_ok.mp ran
  cases ran
  have encodes := encoded_of_mapM isEncoded
  have bucketNodup := allBucketChunks_nodup host encoded
  have singletons : bucketed.singletons = leftOver host encoded := forEach_singletons isBucketed
  rw [singletons] at isBanded
  have bandNodup : ((allBandChunks host encoded (leftOver host encoded)).flatMap id).Nodup :=
    allBandChunks_nodup (leftOver_nodup host encoded)
  obtain ⟨bucketLength, _, bucketGood⟩ := forEach_writes bucketNodup
    (fun chunk member _ _ => equalChunk_writes ((List.nodup_flatMap.mp bucketNodup).1 chunk member)
      (chunk_members member).1 (chunk_members member).2) isBucketed
  obtain ⟨bandLength, bandKept, bandGood⟩ := forEach_writes bandNodup
    (fun chunk member _ _ => bandChunk_writes ((List.nodup_flatMap.mp bandNodup).1 chunk member)
      (fun _ => lt_of_mem_bandChunk member) encodes) isBanded
  refine ⟨encoded, isEncoded, ?_, ?_⟩
  · rw [bandLength, bucketLength, List.length_replicate]
  · intro place inside result isResult
    rw [encodes.length_eq] at inside
    by_cases isOver : place ∈ leftOver host encoded
    · obtain ⟨chunk, isChunk, inChunk⟩ := List.mem_flatMap.mp (mem_allBandChunks.mpr isOver)
      have answers : Answers backend encoded (bandLimit maxTokens chunk) place result :=
        bandGood chunk isChunk place inChunk result isResult
      constructor
      · rintro ⟨_, isOther, many, inOther⟩
        obtain rfl := chunk_unique bandNodup isChunk isOther inChunk inOther
        unfold bandLimit at answers
        rwa [if_neg (by omega)] at answers
      · intro notPadded
        have single : chunk.length = 1 := by
          have pos := List.length_pos_of_mem inChunk
          have few : ¬ 2 ≤ chunk.length := fun many => notPadded ⟨chunk, isChunk, many, inChunk⟩
          change 0 < chunk.length at pos
          omega
        unfold bandLimit at answers
        rwa [if_pos single] at answers
    · constructor
      · rintro ⟨chunk, isChunk, _, inChunk⟩
        exact (isOver (mem_allBandChunks.mp (List.mem_flatMap.mpr ⟨chunk, isChunk, inChunk⟩))).elim
      intro _
      have outside : place ∉ (allBandChunks host encoded (leftOver host encoded)).flatMap id :=
        fun inBand => isOver (mem_allBandChunks.mp inBand)
      rw [bandKept place outside] at isResult
      obtain ⟨chunk, isChunk, inChunk⟩ := mem_allBucketChunks inside
      refine bucketGood chunk isChunk place inChunk result isResult ?_
      intro single
      exact isOver (List.mem_flatMap.mpr
        ⟨chunk, List.mem_filter.mpr ⟨isChunk, decide_eq_true single⟩, inChunk⟩)

def AnsweredAlone (backend : LlamaBackend Prompt Text)
    (prompts : List Prompt) (maxTokens : Nat) (out : List (Text × Nat)) :
    Prop :=
  out.length = prompts.length ∧
    ∀ (place : Nat) prompt, prompts[place]? = some prompt →
      ∀ alone, ∃ result next, out[place]? = some result ∧
        generate backend alone prompt maxTokens = .ok (result, next)

/-- With a limit of zero, every prompt of a padded chunk ends at once. -/
def PaddedRowsEnd (backend : LlamaBackend Prompt Text) (host : Host)
    (prompts : List Prompt) (maxTokens : Nat) : Prop :=
  maxTokens = 0 → ∀ encoded, prompts.mapM backend.encode = .ok encoded →
    ∀ place, Padded host encoded place → backend.predict (idsAt encoded place).zipIdx = backend.eos

theorem generateBatch_alone_iff {backend : LlamaBackend Prompt Text} {host : Host} {blank : Text}
    {model final : ModelState} {prompts : List Prompt} {maxTokens : Nat} {out : List (Text × Nat)}
    (ran : generateBatch backend host blank model prompts maxTokens = .ok (out, final)) :
    AnsweredAlone backend prompts maxTokens out ↔ PaddedRowsEnd backend host prompts maxTokens := by
  obtain ⟨encoded, isEncoded, length, answers⟩ := generateBatch_answers ran
  have encodes := encoded_of_mapM isEncoded
  constructor
  · rintro ⟨_, alone⟩ isZero others areEncoded place isPadded
    obtain rfl := Except.ok.inj (isEncoded.symm.trans areEncoded)
    obtain ⟨_, isChunk, _, inChunk⟩ := id isPadded
    have inEncoded := lt_of_mem_bandChunk isChunk inChunk
    have inPrompts : place < prompts.length := by
      rw [encodes.length_eq]
      exact inEncoded
    obtain ⟨result, next, isResult, generated⟩ :=
      alone place _ (List.getElem?_eq_getElem inPrompts) model
    obtain ⟨tokens, greedy, isTokens⟩ :=
      greedy_of_generate (encodes.get inPrompts inEncoded) generated
    obtain ⟨others, othersGreedy, areOthers⟩ := (answers place inPrompts result isResult).1 isPadded
    rw [isZero] at greedy othersGreedy
    cases greedy
    cases othersGreedy with
    | ended _ isEnd => exact isEnd
    | next =>
      have counts := congrArg Prod.snd (isTokens.symm.trans areOthers)
      cases counts
  · intro ends
    refine ⟨length, ?_⟩
    intro place prompt isPrompt alone
    obtain ⟨inPrompts, isAt⟩ := List.getElem?_eq_some_iff.mp isPrompt
    have inEncoded : place < encoded.length := by
      rw [← encodes.length_eq]
      exact inPrompts
    have isIds : backend.encode prompt = .ok encoded[place] := by
      rw [← isAt]
      exact encodes.get inPrompts inEncoded
    have inOut : place < out.length := by
      rw [length]
      exact inPrompts
    have isResult := List.getElem?_eq_getElem inOut
    obtain ⟨padded, unpadded⟩ := answers place inPrompts _ isResult
    obtain ⟨tokens, greedy, isTokens⟩ : Answers backend encoded maxTokens place out[place] := by
      by_cases isPadded : Padded host encoded place
      · obtain ⟨tokens, greedy, isTokens⟩ := padded isPadded
        refine ⟨tokens, ?_, isTokens⟩
        cases maxTokens with
        | zero =>
          have isEnd := ends rfl encoded isEncoded place isPadded
          cases greedy with
          | ended => exact .limit _
          | next _ goesOn => exact (goesOn isEnd).elim
        | succ => exact greedy
      · exact unpadded isPadded
    rw [idsAt_eq inEncoded] at greedy
    obtain ⟨next, generated⟩ := generate_of_greedy isIds greedy alone
    rw [← isTokens] at generated
    exact ⟨_, next, isResult, generated⟩

/-- The next token is the number of tokens so far, and six ends the answer. -/
def countingBackend : LlamaBackend Ids (List Token) where
  predict := List.length
  eos := 6
  encode := .ok
  decode := id

def narrowHost : Host where
  order := id
  order_perm := List.Perm.refl
  bucketCap := fun _ => 2
  bucketCap_pos := fun _ => by decide
  bandCap := fun _ => 2
  bandCap_pos := fun _ => by decide

def idleModel : ModelState := { kv := KvCacheSlot.new, nextSeqCap := none }

def fivePrompts : List Ids :=
  [⟨[7], by decide⟩, ⟨[7, 8], by decide⟩, ⟨[9], by decide⟩,
    ⟨[7, 8, 9], by decide⟩, ⟨[5], by decide⟩]

theorem fivePrompts_alone :
    ∃ out final,
      generateBatch countingBackend narrowHost [] idleModel fivePrompts 2 = .ok (out, final) ∧
        AnsweredAlone countingBackend fivePrompts 2 out := by
  have succeeds :
      (generateBatch countingBackend narrowHost [] idleModel fivePrompts 2).toOption.isSome := by
    decide +kernel
  cases ran : generateBatch countingBackend narrowHost [] idleModel fivePrompts 2 with
  | error =>
    rw [ran] at succeeds
    cases succeeds
  | ok result =>
    refine ⟨result.1, result.2, rfl, ?_⟩
    refine (generateBatch_alone_iff ran).mpr ?_
    intro isZero
    cases isZero

/-- With a limit of zero, two prompts of different lengths are answered with
one token each, and alone with none. -/
theorem zero_limit_answered :
    (generateBatch countingBackend narrowHost [] idleModel
        [⟨[7], by decide⟩, ⟨[7, 8], by decide⟩] 0).map Prod.fst =
      .ok [([1], 1), ([2], 1)] ∧
    (generate countingBackend idleModel ⟨[7], by decide⟩ 0).map Prod.fst = .ok ([], 0) := by
  decide +kernel

end MercControl.Agent
