import MercControl.Library.Machine
import MercControl.Verification.Planner

/-!
# Soundness of the votes

What the verdict over the votes of a chunk says about the committed bytes.  The
verdict is taken on one vote for each supplier, and a dissent is measured
against the class of the first counted vote for the winning bytes only. -/

namespace MercControl.Verification

open Library Machine

variable {reads : PlanReads} {info : CommitTaskInfo}
variable {commitBytes redundancyBytes winner : Bytes}
variable {votes listed : List ChunkVote} {vote first second : ChunkVote}
variable {rows shuffled : List ChunkResult} {verdict : Verdict}

def comparesBytes : JobType → Bool
  | .embed => false
  | .batchInfer => true
  | .mediaTranscode => true
  | .mediaRendering => true
  | .other => false

theorem resultsAgree_of_comparesBytes {jobType : JobType}
    (bytewise : comparesBytes jobType) (compare : Bytes → Bytes → Bool) :
    resultsAgree compare jobType = fun a b => decide (a = b) := by
  cases jobType with
  | embed | other => cases bytewise
  | batchInfer | mediaTranscode | mediaRendering => rfl

theorem byteExactJobType_of_comparesBytes {jobType : JobType}
    (bytewise : comparesBytes jobType) : byteExactJobType jobType := by
  cases jobType with
  | embed => cases bytewise
  | _ => rfl

def Majority (votes : List ChunkVote) (bytes : Bytes) : Prop :=
  StrictMajority ((independentSupplierVotes votes).map ChunkVote.bytes) bytes

/-- The first counted vote for the winning bytes, whose class the dissents
are measured against. -/
def firstAgreeing (votes : List ChunkVote) (winner : Bytes) : Option ChunkVote :=
  (independentSupplierVotes votes).find? fun vote => vote.bytes = winner

/-- The vote is against the winning bytes and of the class of the first
counted vote for them. -/
def Loses (votes : List ChunkVote) (winner : Bytes) (vote : ChunkVote) : Prop :=
  vote.bytes ≠ winner ∧ (firstAgreeing votes winner).any fun first => first.sameClass vote

/-- The vote is against the winning bytes and not of the class of the first
counted vote for them. -/
def Excused (votes : List ChunkVote) (winner : Bytes) (vote : ChunkVote) : Prop :=
  vote.bytes ≠ winner ∧ ¬(firstAgreeing votes winner).any fun first => first.sameClass vote

def standing (votes : List ChunkVote) (winner : Bytes) (vote : ChunkVote) : VoteStanding :=
  voteStanding (fun a b => a = b) true winner (firstAgreeing votes winner) vote

theorem standing_eq_loss_iff : standing votes winner vote = .loss ↔ Loses votes winner vote := by
  unfold standing voteStanding Loses
  split_ifs <;> simp_all

theorem standing_eq_crossClass_iff :
    standing votes winner vote = .crossClass ↔ Excused votes winner vote := by
  unfold standing voteStanding Excused
  split_ifs <;> simp_all

/-! ### The verdict of a tiebreak -/

theorem majorityVote_of_strictMajority {results : List Bytes}
    (majority : StrictMajority results winner) :
    majorityVote (fun a b => a = b) results = winner := by
  have turned (result : Bytes) :
      (fun other : Bytes => decide (result = other)) = fun other => decide (other = result) := by
    funext other
    simp [eq_comm]
  have found : (results.find? fun result => results.length <
      2 * results.countP fun other => other = result) = some winner :=
    find?_strictMajority majority
  simp [majorityVote, turned, found]

theorem majority_iff : Majority votes winner ↔ (independentSupplierVotes votes).length <
        2 * (independentSupplierVotes votes).countP fun vote => vote.bytes = winner := by
  rw [Majority, StrictMajority, support, List.countP_map, List.length_map]
  rfl

theorem resolveTiebreak_of_majority (bytewise : comparesBytes info.jobType)
    (majority : Majority votes winner) :
    resolveTiebreak (resultsAgree reads.compareEmbeddings info.jobType) info votes =
      (if (independentSupplierVotes votes).any fun vote =>
            standing votes winner vote = .loss ∧ vote.supplierId = info.supplierId
          then .lossNoPayout else .pass,
        (independentSupplierVotes votes).flatMap fun vote =>
          tiebreakEffects info vote (standing votes winner vote)) := by
  have wins := not_le.mpr (majority_iff.mp majority)
  simp only [resolveTiebreak, resultsAgree_of_comparesBytes bytewise,
    byteExactJobType_of_comparesBytes bytewise,
    majorityVote_of_strictMajority majority, if_neg wins]
  rfl

theorem resolveTiebreak_of_no_majority (bytewise : comparesBytes info.jobType)
    (split : ∀ bytes, ¬Majority votes bytes) :
    resolveTiebreak (resultsAgree reads.compareEmbeddings info.jobType) info
        votes = (.passWithPenalty, []) := by
  simp only [majority_iff, not_lt] at split
  simp [resolveTiebreak, resultsAgree_of_comparesBytes bytewise, if_pos (split _)]

/-- The excuse of a counted vote can be read off the recorded events: a
supplier has one counted vote. -/
theorem crossClass_recorded_iff (counted : vote ∈ independentSupplierVotes votes) :
    Effect.recordEvent info.jobId vote.taskId vote.supplierId .tiebreakCrossClass ∈
        (independentSupplierVotes votes).flatMap (fun vote =>
          tiebreakEffects info vote (standing votes winner vote)) ↔
      Excused votes winner vote := by
  rw [List.mem_flatMap, ← standing_eq_crossClass_iff]
  constructor
  · rintro ⟨other, also, recorded⟩
    cases stands : standing votes winner other with
    | win | loss => simp [stands, tiebreakEffects] at recorded
    | crossClass =>
      simp only [stands, tiebreakEffects, List.mem_cons, reduceCtorEq,
        Effect.recordEvent.injEq, true_and, and_true, List.not_mem_nil,
        or_false, false_or] at recorded
      obtain rfl := eq_of_counted counted also recorded.2
      exact stands
  · intro stands
    exact ⟨vote, counted, by simp [stands, tiebreakEffects]⟩

/-! ### The verdict over all votes -/

theorem checkRedundancy_alone (alone : (independentSupplierVotes votes).length < 2) :
    checkRedundancy reads info votes = .error .noIndependentSupplier := by
  have refused : matchVotes info votes = .error .noIndependentSupplier := by
    have few : independentRedundancyMatch votes = false := decide_eq_false (not_le.mpr alone)
    simp [matchVotes, few]
  unfold checkRedundancy
  rcases counted : independentSupplierVotes votes with _ | ⟨first, _ | _⟩
  · exact refused
  · exact refused
  · exact absurd alone (by simp [counted])

theorem checkRedundancy_tiebreak (three : 3 ≤ (independentSupplierVotes votes).length) :
    checkRedundancy reads info votes =
      .ok (resolveTiebreak (resultsAgree reads.compareEmbeddings info.jobType) info votes) := by
  have again agree : resolveTiebreak agree info (independentSupplierVotes votes) =
        resolveTiebreak agree info votes := by
    simp [resolveTiebreak, independentSupplierVotes_idem]
  rw [← again]
  unfold checkRedundancy
  rcases counted : independentSupplierVotes votes with
    _ | ⟨first, _ | ⟨second, _ | ⟨third, rest⟩⟩⟩
  · exact absurd three (by simp [counted])
  · exact absurd three (by simp [counted])
  · exact absurd three (by simp [counted])
  · rfl

def CommitterStands (info : CommitTaskInfo) (votes : List ChunkVote) (winner : Bytes) : Prop :=
  ∀ vote ∈ independentSupplierVotes votes,
    vote.supplierId = info.supplierId → ¬Loses votes winner vote

def CommitTaskInfo.excuse (info : CommitTaskInfo) (vote : ChunkVote) : Effect :=
  .recordEvent info.jobId vote.taskId vote.supplierId .tiebreakCrossClass

structure Settles (info : CommitTaskInfo) (votes : List ChunkVote)
    (winner : Bytes) (verdict : Verdict) : Prop where
  passes_iff : verdict.1 = .pass ↔ CommitterStands info votes winner
  excuses_iff : ∀ vote ∈ independentSupplierVotes votes,
    info.excuse vote ∈ verdict.2 ↔ Excused votes winner vote
  uncrossed : info.recordEvent .redundancyCrossClass ∉ verdict.2

structure Provisional (info : CommitTaskInfo) (votes : List ChunkVote)
    (verdict : Verdict) : Prop where
  outcome : verdict.1 = .passWithPenalty
  unexcused : ∀ vote, info.excuse vote ∉ verdict.2
  crossed : info.recordEvent .redundancyCrossClass ∈ verdict.2 →
    (independentSupplierVotes votes).Pairwise fun first second => ¬first.sameClass second

theorem resolveTiebreak_settles (bytewise : comparesBytes info.jobType)
    (majority : Majority votes winner) :
    Settles info votes winner
      (resolveTiebreak (resultsAgree reads.compareEmbeddings info.jobType) info votes) := by
  rw [resolveTiebreak_of_majority bytewise majority]
  constructor
  · have lost_iff : ((independentSupplierVotes votes).any fun vote =>
        standing votes winner vote = .loss ∧ vote.supplierId = info.supplierId) = true ↔
          ¬CommitterStands info votes winner := by
      simp [standing_eq_loss_iff, CommitterStands, and_comm]
    by_cases stands : CommitterStands info votes winner
    · rw [if_neg (lost_iff.not.mpr (not_not.mpr stands))]
      simp [stands]
    · rw [if_pos (lost_iff.mpr stands)]
      simp [stands]
  · intro vote counted
    exact crossClass_recorded_iff counted
  · simp only [List.mem_flatMap, not_exists, not_and]
    intro vote _
    cases standing votes winner vote <;> simp [tiebreakEffects, CommitTaskInfo.recordEvent]

theorem match_settles (pair : independentSupplierVotes votes = [first, second])
    (agree : first.bytes = second.bytes) :
    ∃ verdict, matchVotes info votes = .ok verdict ∧ Settles info votes second.bytes verdict := by
  have independent : independentRedundancyMatch votes := by
    simp [independentRedundancyMatch, minIndependentSuppliersForRedundancy, pair]
  refine ⟨_, if_pos independent, ?_⟩
  have allAgree : ∀ vote ∈ independentSupplierVotes votes, vote.bytes = second.bytes := by
    rw [pair]
    simp [agree]
  constructor
  · simp only [true_iff]
    intro vote counted _ loses
    exact loses.1 (allAgree vote counted)
  · intro vote counted
    simp [CommitTaskInfo.recordEvent, CommitTaskInfo.excuse, Excused, allAgree vote counted]
  · simp [CommitTaskInfo.recordEvent]

theorem majority_pair_iff (pair : independentSupplierVotes votes = [first, second]) :
    Majority votes winner ↔ first.bytes = winner ∧ second.bytes = winner := by
  rw [majority_iff, pair]
  by_cases isFirst : first.bytes = winner <;> by_cases isSecond : second.bytes = winner <;>
    simp [isFirst, isSecond]

theorem dispatchTiebreak_ok {effects : List Effect}
    (dispatched : dispatchTiebreak reads info = .ok effects) :
    effects = [] ∨ ∃ peer : { peer : Uuid // peer ≠ uuidNil }, effects =
      [.insertTiebreak uuidNil info.jobId info.taskId peer.val info.inputRef info.chunkIndex] := by
  unfold dispatchTiebreak at dispatched
  split at dispatched
  · exact .inl (Except.ok.inj dispatched).symm
  obtain ⟨_, -, dispatched⟩ := bind_eq_ok.mp dispatched
  split at dispatched
  · exact .inl (Except.ok.inj dispatched).symm
  · obtain ⟨_, -, dispatched⟩ := bind_eq_ok.mp dispatched
    obtain ⟨peer, -, dispatched⟩ := bind_eq_ok.mp dispatched
    split at dispatched
    · exact .inl (Except.ok.inj dispatched).symm
    next peer => exact .inr ⟨peer, (Except.ok.inj dispatched).symm⟩

section

variable (bytewise : comparesBytes info.jobType)

include bytewise

theorem checkRedundancy_of_majority (two : 2 ≤ (independentSupplierVotes votes).length)
    (majority : Majority votes winner) :
    ∃ verdict, checkRedundancy reads info votes = .ok verdict ∧
      Settles info votes winner verdict := by
  rcases counted : independentSupplierVotes votes with
    _ | ⟨first, _ | ⟨second, _ | ⟨third, rest⟩⟩⟩
  · simp [counted] at two
  · simp [counted] at two
  · obtain ⟨isFirst, rfl⟩ := (majority_pair_iff counted).mp majority
    obtain ⟨verdict, matched, settles⟩ := match_settles counted isFirst
    refine ⟨verdict, ?_, settles⟩
    simp only [checkRedundancy, counted,
      resultsAgree_of_comparesBytes bytewise, isFirst, decide_true, if_true]
    exact matched
  · exact ⟨_, checkRedundancy_tiebreak (by simp [counted]),
      resolveTiebreak_settles bytewise majority⟩

theorem checkRedundancy_differ
    (pair : independentSupplierVotes votes = [first, second]) (differ : first.bytes ≠ second.bytes)
    (checked : checkRedundancy reads info votes = .ok verdict) :
    Provisional info votes verdict := by
  simp only [checkRedundancy, pair, resultsAgree_of_comparesBytes bytewise,
    differ, decide_false, Bool.false_eq_true, if_false] at checked
  split at checked
  next otherClass =>
    cases checked
    constructor
    · rfl
    · simp [CommitTaskInfo.recordEvent, CommitTaskInfo.excuse]
    · intro _
      rw [pair]
      simpa [byteExactJobType_of_comparesBytes bytewise] using otherClass
  next =>
    split at checked
    on_goal 1 =>
      obtain ⟨_, dispatches, checked⟩ := bind_eq_ok.mp checked
      rcases dispatchTiebreak_ok dispatches with rfl | ⟨peer, rfl⟩
    all_goals
      cases checked
      constructor
      · rfl
      · simp [CommitTaskInfo.recordEvent, CommitTaskInfo.excuse]
      · simp [CommitTaskInfo.recordEvent]

theorem checkRedundancy_of_no_majority (split : ∀ bytes, ¬Majority votes bytes)
    (checked : checkRedundancy reads info votes = .ok verdict) :
    Provisional info votes verdict := by
  rcases counted : independentSupplierVotes votes with
    _ | ⟨first, _ | ⟨second, _ | ⟨third, rest⟩⟩⟩
  · rw [checkRedundancy_alone (by simp [counted])] at checked
    cases checked
  · rw [checkRedundancy_alone (by simp [counted])] at checked
    cases checked
  · refine checkRedundancy_differ bytewise counted ?_ checked
    intro agree
    exact split _ ((majority_pair_iff counted).mpr ⟨agree, rfl⟩)
  · rw [checkRedundancy_tiebreak (by simp [counted]),
      resolveTiebreak_of_no_majority bytewise split] at checked
    cases checked
    exact ⟨rfl, by simp, by simp⟩

theorem checkRedundancy_cases (checked : checkRedundancy reads info votes = .ok verdict) :
    (2 ≤ (independentSupplierVotes votes).length ∧
      ∃ winner, Majority votes winner ∧ Settles info votes winner verdict) ∨
    Provisional info votes verdict := by
  have two : 2 ≤ (independentSupplierVotes votes).length := by
    by_contra alone
    rw [checkRedundancy_alone (not_le.mp alone)] at checked
    cases checked
  by_cases decided : ∃ winner, Majority votes winner
  · obtain ⟨winner, majority⟩ := decided
    obtain ⟨_, rechecked, settles⟩ := checkRedundancy_of_majority bytewise two majority
    obtain rfl := Except.ok.inj (checked.symm.trans rechecked)
    exact .inl ⟨two, winner, majority, settles⟩
  · exact .inr (checkRedundancy_of_no_majority bytewise (not_exists.mp decided) checked)

end

/-! ### The order of the votes -/

def PlanReads.relisted (reads : PlanReads) (rows : List ChunkResult) : PlanReads :=
  { reads with chunkResults := .ok rows }

section

variable (stored : reads.chunkResults = .ok rows)

include stored

section

variable (perm : rows.Perm shuffled)

include perm

theorem gatherChunkResults_relisted
    (gathered : gatherChunkResults reads info commitBytes = .ok votes) :
    ∃ listed, gatherChunkResults (reads.relisted shuffled) info commitBytes =
        .ok listed ∧ votes.Perm listed := by
  unfold gatherChunkResults at gathered ⊢
  split at gathered
  next unread =>
      cases gathered
      exact ⟨[], if_pos unread, .nil⟩
  next read =>
      have readListed : ¬((!(reads.relisted shuffled).storage) = true ∨
          info.jobId = uuidNil) := read
      rw [if_neg readListed]
      rw [stored] at gathered
      change (if rows.isEmpty then _ else _) = _ at gathered
      change ∃ listed, (if shuffled.isEmpty then _ else _) = _ ∧ _
      rw [← perm.isEmpty_eq, ← perm.any_eq]
      split at gathered
      next none =>
          cases gathered
          exact ⟨[], if_pos none, .nil⟩
      next some =>
          rw [if_neg some]
          obtain ⟨_, mapped, gathered⟩ := bind_eq_ok.mp gathered
          obtain ⟨listed, mappedListed, readPerm⟩ := mapM_perm perm mapped
          rw [mappedListed]
          dsimp only [Except.bind]
          split at gathered
          next own =>
              rw [if_pos own]
              exact ⟨_, rfl, (Except.ok.inj gathered) ▸ readPerm⟩
          next absent =>
              rw [if_neg absent]
              exact ⟨_, rfl, (Except.ok.inj gathered) ▸ readPerm.append_right _⟩

theorem chunkVotes_relisted
    (gathered : chunkVotes reads info commitBytes redundancyBytes = .ok votes) :
    ∃ listed, chunkVotes (reads.relisted shuffled) info commitBytes
        redundancyBytes = .ok listed ∧ votes.Perm listed := by
  obtain ⟨_, gathers, gathered⟩ := bind_eq_ok.mp gathered
  obtain ⟨chunkListed, gathersListed, chunkPerm⟩ := gatherChunkResults_relisted stored perm gathers
  unfold chunkVotes
  rw [gathersListed]
  change ∃ listed, (if chunkListed.isEmpty then _ else _) = _ ∧ _
  rw [← chunkPerm.isEmpty_eq]
  split at gathered
  next isEmpty =>
      rw [if_pos isEmpty]
      exact ⟨_, rfl, (Except.ok.inj gathered) ▸ .refl _⟩
  next notEmpty =>
      rw [if_neg notEmpty]
      exact ⟨_, rfl, (Except.ok.inj gathered) ▸ chunkPerm⟩

theorem dispatchTiebreak_relisted :
    dispatchTiebreak (reads.relisted shuffled) info = dispatchTiebreak reads info := by
  have sameIds (field : ChunkResult → Uuid) :
      ((shuffled.filter fun row => row.workerId ≠ info.workerId).map field).toFinset =
        ((rows.filter fun row => row.workerId ≠ info.workerId).map field).toFinset :=
    List.toFinset_eq_of_perm _ _ ((perm.symm.filter _).map field)
  unfold dispatchTiebreak
  rw [stored]
  simp only [PlanReads.relisted, Except.bind, sameIds]

theorem checkRedundancy_relisted (votesPerm : votes.Perm listed) :
    checkRedundancy (reads.relisted shuffled) info listed = checkRedundancy reads info votes := by
  have counted : independentSupplierVotes listed = independentSupplierVotes votes :=
    independentSupplierVotes_congr fun vote => votesPerm.symm.mem_iff
  have matched : matchVotes info listed = matchVotes info votes := by
    unfold matchVotes independentRedundancyMatch
    rw [counted]
  unfold checkRedundancy
  rw [counted, matched, dispatchTiebreak_relisted stored perm]
  rfl

theorem verifyTaskResult_relisted
    (gathered : chunkVotes reads info commitBytes redundancyBytes = .ok votes) :
    verifyTaskResult (reads.relisted shuffled) info commitBytes (some redundancyBytes) =
      verifyTaskResult reads info commitBytes (some redundancyBytes) := by
  obtain ⟨_, gathersListed, votesPerm⟩ := chunkVotes_relisted stored perm gathered
  have probed : checkHoneypot (reads.relisted shuffled) info commitBytes =
      checkHoneypot reads info commitBytes := rfl
  unfold verifyTaskResult
  rw [probed]
  dsimp only
  rw [gathered, gathersListed]
  dsimp only [Except.bind]
  rw [checkRedundancy_relisted stored perm votesPerm]

end

end

/-! ### Soundness -/

def AgreesWithOther (info : CommitTaskInfo) (commitBytes : Bytes) (votes : List ChunkVote) : Prop :=
  (independentSupplierVotes votes).length = 2 ∧
    ∃ other ∈ independentSupplierVotes votes,
      other.supplierId ≠ info.supplierId ∧ other.bytes = commitBytes

structure VotesSound (reads : PlanReads) (info : CommitTaskInfo)
    (commitBytes redundancyBytes : Bytes) (votes : List ChunkVote) :
    Prop where
  passed : ∀ effects,
    verifyTaskResult reads info commitBytes (some redundancyBytes) = .ok (.pass, effects) →
    AgreesWithOther info commitBytes votes ∨ Majority votes commitBytes
  ordered : ∀ rows shuffled, reads.chunkResults = .ok rows → rows.Perm shuffled →
    verifyTaskResult (reads.relisted shuffled) info commitBytes (some redundancyBytes) =
      verifyTaskResult reads info commitBytes (some redundancyBytes)
  excused : ∀ verdict,
    verifyTaskResult reads info commitBytes (some redundancyBytes) = .ok verdict →
    ∀ vote ∈ independentSupplierVotes votes, info.excuse vote ∈ verdict.2 →
      ∀ agreeing ∈ votes, Majority votes agreeing.bytes → ¬agreeing.sameClass vote
  crossed : ∀ verdict,
    verifyTaskResult reads info commitBytes (some redundancyBytes) = .ok verdict →
    info.recordEvent .redundancyCrossClass ∈ verdict.2 →
    (independentSupplierVotes votes).Pairwise fun first second => ¬first.sameClass second

/-- The committed bytes are the winning ones, or the committing supplier's
counted vote dissents within the class of the first counted vote for them; and
every dissent that shares its class with some vote for them is of that class. -/
structure Decided (info : CommitTaskInfo) (commitBytes : Bytes)
    (votes : List ChunkVote) (winner : Bytes) : Prop where
  own : commitBytes = winner ∨
    ∃ vote ∈ independentSupplierVotes votes,
      vote.supplierId = info.supplierId ∧ Loses votes winner vote
  classes : ∀ agreeing ∈ votes, agreeing.bytes = winner →
    ∀ dissent ∈ independentSupplierVotes votes,
      dissent.bytes ≠ winner → agreeing.sameClass dissent →
      (firstAgreeing votes winner).any fun first => first.sameClass dissent

theorem agreesWithOther_majority (majority : Majority votes winner)
    (agrees : AgreesWithOther info commitBytes votes) : commitBytes = winner := by
  obtain ⟨two, _, counted, -, rfl⟩ := agrees
  obtain ⟨_, _, pair⟩ := List.length_eq_two.mp two
  obtain ⟨isFirst, isSecond⟩ := (majority_pair_iff pair).mp majority
  rw [pair] at counted
  simp only [List.mem_cons, List.not_mem_nil, or_false] at counted
  rcases counted with rfl | rfl
  · exact isFirst
  · exact isSecond

theorem votes_sound_iff (bytewise : comparesBytes info.jobType)
    (unprobed : checkHoneypot reads info commitBytes = .ok none)
    (gathered : chunkVotes reads info commitBytes redundancyBytes = .ok votes) :
    VotesSound reads info commitBytes redundancyBytes votes ↔
      (2 ≤ (independentSupplierVotes votes).length →
        ∀ winner, Majority votes winner → Decided info commitBytes votes winner) := by
  have verdict_eq : verifyTaskResult reads info commitBytes (some redundancyBytes) =
        checkRedundancy reads info votes := by
    unfold verifyTaskResult
    rw [unprobed]
    dsimp only [Except.bind]
    rw [gathered]
  constructor
  · intro sound two winner majority
    obtain ⟨verdict, checked, settles⟩ := checkRedundancy_of_majority bytewise two majority
    constructor
    · by_cases stands : CommitterStands info votes winner
      · left
        have passes := settles.passes_iff.mpr stands
        have agrees := sound.passed verdict.2 (by rw [verdict_eq, checked, ← passes])
        rcases agrees with agrees | agrees
        · exact agreesWithOther_majority majority agrees
        · exact agrees.unique majority
      · right
        simpa [CommitterStands] using stands
    · intro agreeing listed isWinner dissent counted differs shares
      by_contra otherClass
      refine sound.excused verdict (verdict_eq.trans checked) dissent counted
        ?_ agreeing listed (isWinner ▸ majority) shares
      exact (settles.excuses_iff dissent counted).mpr ⟨differs, otherClass⟩
  · intro decided
    refine ⟨?_, ?_, ?_, ?_⟩
    · intro effects passes
      rw [verdict_eq] at passes
      rcases checkRedundancy_cases bytewise passes with
        ⟨two, winner, majority, settles⟩ | provisional
      · have stands := settles.passes_iff.mp rfl
        rcases (decided two winner majority).own with rfl | ⟨vote, counted, own, loses⟩
        · exact .inr majority
        · exact absurd loses (stands vote counted own)
      · cases provisional.outcome
    · intro rows shuffled stored perm
      exact verifyTaskResult_relisted stored perm gathered
    · intro verdict checked vote counted recorded agreeing listed agrees
      rw [verdict_eq] at checked
      rcases checkRedundancy_cases bytewise checked with
        ⟨two, winner, majority, settles⟩ | provisional
      · have excused := (settles.excuses_iff vote counted).mp recorded
        intro shares
        exact excused.2 ((decided two winner majority).classes agreeing listed
          (agrees.unique majority) vote counted excused.1 shares)
      · exact absurd recorded (provisional.unexcused vote)
    · intro verdict checked recorded
      rw [verdict_eq] at checked
      rcases checkRedundancy_cases bytewise checked with ⟨-, winner, -, settles⟩ | provisional
      · exact absurd recorded settles.uncrossed
      · exact provisional.crossed recorded

/-! ### Votes on one chunk -/

def commitOf (supplierId : Uuid) (buildHash : String)
    (stored : supplierId ≠ uuidNil) : CommitTaskInfo where
  taskId := 5
  jobId := 2
  workerId := 3
  supplierId
  isHoneypot := false
  isRedundancy := false
  jobType := .batchInfer
  engine := "llama"
  buildHash
  buildIdentityPolicy := currentEngineBuildIdentityPolicy
  inputRef := "input"
  chunkIndex := 0
  attempt := 0
  resultSha256 := ""
  checkSampled := true
  peerSupplierId := uuidNil
  peerEngine := ""
  peerBuildHash := ""
  peerBuildIdentityPolicy := ""
  taskId_ne_nil := by decide
  supplierId_ne_nil := stored

def resultOf (taskId supplierId : Uuid) (body : Bytes) (buildHash : String)
    (task : taskId ≠ uuidNil) (stored : supplierId ≠ uuidNil) :
    ChunkResult where
  taskId
  workerId := supplierId
  supplierId
  artifactSha256 := none
  body := some body
  engine := "llama"
  buildHash
  buildIdentityPolicy := currentEngineBuildIdentityPolicy
  taskId_ne_nil := task
  supplierId_ne_nil := stored

def chunkReads (rows : List ChunkResult) : PlanReads where
  compareEmbeddings _ _ := false
  honeypotAnswer := .ok none
  storage := true
  chunkResults := .ok rows
  tiebreakExists := .ok false
  selectPeer _ _ := .ok none

def otherResults (firstBuild secondBuild : String) : List ChunkResult :=
  [resultOf 1 11 [7] firstBuild (by decide) (by decide),
    resultOf 2 12 [7] secondBuild (by decide) (by decide)]

/-- Supplier 11 has passed with task 1 and commits other bytes as task 5;
supplier 13 commits other bytes from a build of its own, and from the build of
supplier 12. -/
theorem dissents_pass :
    (∃ votes effects,
      chunkVotes (chunkReads (otherResults "aa" "aa"))
        (commitOf 11 "aa" (by decide)) [9] [7] = .ok votes ∧
      verifyTaskResult (chunkReads (otherResults "aa" "aa"))
        (commitOf 11 "aa" (by decide)) [9] (some [7]) = .ok (.pass, effects) ∧
      ∀ vote ∈ votes, vote.taskId ≠ 5 → vote.bytes ≠ [9]) ∧
    (∃ votes effects,
      chunkVotes (chunkReads (otherResults "aa" "aa"))
        (commitOf 13 "bb" (by decide)) [9] [7] = .ok votes ∧
      verifyTaskResult (chunkReads (otherResults "aa" "aa"))
        (commitOf 13 "bb" (by decide)) [9] (some [7]) = .ok (.pass, effects) ∧
      ∀ vote ∈ votes, vote.taskId ≠ 5 → vote.bytes ≠ [9]) ∧
    ∃ votes effects dissent agreeing,
      chunkVotes (chunkReads (otherResults "aa" "bb"))
        (commitOf 13 "bb" (by decide)) [9] [7] = .ok votes ∧
      verifyTaskResult (chunkReads (otherResults "aa" "bb"))
        (commitOf 13 "bb" (by decide)) [9] (some [7]) = .ok (.pass, effects) ∧
      dissent ∈ votes ∧ agreeing ∈ votes ∧
      (commitOf 13 "bb" (by decide)).excuse dissent ∈ effects ∧
      agreeing.bytes = [7] ∧ dissent.bytes = [9] ∧
      agreeing.sameClass dissent := by
  refine ⟨⟨_, _, rfl, rfl, ?_⟩, ⟨_, _, rfl, rfl, ?_⟩,
    ⟨_, _, (commitOf 13 "bb" (by decide)).ownVote [9],
      { (commitOf 12 "bb" (by decide)).ownVote [7] with taskId := 2 },
      rfl, rfl, ?_⟩⟩
  · decide
  · decide
  · decide

/-- Three suppliers of one class, of which the committing one loses. -/
theorem one_class_votes_sound :
    ∃ votes,
      chunkVotes (chunkReads (otherResults "aa" "aa"))
        (commitOf 13 "aa" (by decide)) [9] [7] = .ok votes ∧
      VotesSound (chunkReads (otherResults "aa" "aa"))
        (commitOf 13 "aa" (by decide)) [9] [7] votes := by
  refine ⟨_, rfl, ?_⟩
  refine (votes_sound_iff rfl rfl rfl).mpr ?_
  intro _ winner majority
  obtain rfl : winner = [7] := majority.unique (by decide)
  refine ⟨.inr ⟨(commitOf 13 "aa" (by decide)).ownVote [9], ?_⟩, ?_⟩
  · unfold Loses
    decide
  · decide

end MercControl.Verification
