import MercControl.Verification.DecisionShape
import MercControl.Verification.VoteSoundness

/-!
# Which planned decisions are accepted

Every decision that the planner returns is accepted with the settlement built
for it, unless the task is a known-answer probe whose answer is missing or was
measured on another class: the applier does not know the event kind.  An
accepted plan that is read back has lost the citations of its rows.
-/

namespace MercControl.Verification

open Library Machine

variable {ids : EffectIds} {info : CommitTaskInfo} {reads : PlanReads}
variable {commitBytes : Bytes} {effect : Effect} {effects : List Effect}

/-! ### Accepted effects -/

def Effect.Accepted (info : CommitTaskInfo) : Effect → Prop
  | .dockReputation supplierId event =>
    supplierId ≠ uuidNil ∧ verificationReputationEventAllowed event
  | .recordEvent jobId taskId supplierId kind =>
    jobId = info.jobId ∧ taskId ≠ uuidNil ∧ supplierId ≠ uuidNil ∧ verificationEventKindAllowed kind
  | .clawbackCredit supplierId taskId => taskId ≠ uuidNil ∧ supplierId ≠ uuidNil
  | .quarantine supplierId => supplierId = info.supplierId
  | .requeue taskId => taskId = info.taskId
  | .insertTiebreak _ jobId primaryTaskId peerWorkerId inputRef chunkIndex =>
    jobId = info.jobId ∧ primaryTaskId = info.taskId ∧
      peerWorkerId ≠ uuidNil ∧ inputRef = info.inputRef ∧
      chunkIndex = info.chunkIndex

variable {outcome : VerifyOutcome}

theorem checkEffect_named_iff {id : Uuid} :
    checkEffect info id (effect.named id) = .ok () ↔ effect.Accepted info := by
  cases effect <;> simp [Effect.named, checkEffect, Effect.Accepted]

@[simp]
theorem Effect.hashed_named (id : Uuid) (effect : Effect) :
    (effect.named id).hashed = effect.hashed := by
  cases effect <;> rfl

def recordFrom (ids : EffectIds) (info : CommitTaskInfo) (first : Nat)
    (effects : List Effect) : List VerificationEffect :=
  effects.mapIdx fun ordinal effect =>
    let id := ids.payloadId info.taskId info.attempt (first + ordinal) effect.hashed
    { id, effect := effect.named id }

theorem recordFrom_cons (first : Nat) : recordFrom ids info first (effect :: effects) =
      { id := ids.payloadId info.taskId info.attempt first effect.hashed
        effect := effect.named (ids.payloadId info.taskId info.attempt first effect.hashed) } ::
        recordFrom ids info (first + 1) effects := by
  simp [recordFrom, List.mapIdx_cons, Nat.add_assoc, Nat.add_comm 1]

theorem checkEffects_recordFrom_iff {first : Nat} {seen : List Uuid}
    (earlier : ∀ id ∈ seen, ∃ ordinal < first, ∃ effect,
      id = ids.payloadId info.taskId info.attempt ordinal effect) :
    checkEffects ids info first seen (recordFrom ids info first effects) = .ok () ↔
      ∀ effect ∈ effects, effect.Accepted info := by
  induction effects generalizing first seen with
  | nil => simp [recordFrom, checkEffects]
  | cons effect rest acceptsRest =>
    have canonical := ids.payloadId_ne_nil info.taskId info.attempt first effect.hashed
    have fresh : ids.payloadId info.taskId info.attempt first effect.hashed ∉ seen := by
      intro mem
      obtain ⟨ordinal, before, _, same⟩ := earlier _ mem
      have equal := ids.payloadId_inj _ _ _ _ _ _ same
      omega
    rw [recordFrom_cons, checkEffects]
    simp only [Effect.hashed_named, ne_eq, not_true_eq_false, or_false,
      canonical, fresh, if_false, List.forall_mem_cons]
    rw [check_bind_eq_ok, checkEffect_named_iff, acceptsRest]
    intro id mem
    rcases List.mem_cons.mp mem with rfl | old
    · exact ⟨first, by omega, _, rfl⟩
    · obtain ⟨ordinal, before, same⟩ := earlier id old
      exact ⟨ordinal, by omega, same⟩

theorem checkEffects_recordEffects_iff :
    checkEffects ids info 0 [] (recordEffects ids info effects) = .ok () ↔
      ∀ effect ∈ effects, effect.Accepted info := by
  have same : recordEffects ids info effects = recordFrom ids info 0 effects := by
    simp [recordEffects, recordFrom]
  rw [same]
  exact checkEffects_recordFrom_iff (by simp)

/-! ### Requeues -/

@[simp]
theorem Effect.isRequeue_named (id : Uuid) (effect : Effect) :
    (effect.named id).isRequeue = effect.isRequeue := by
  cases effect <;> rfl

theorem countP_recordEffects :
    (recordEffects ids info effects).countP (fun recorded => recorded.effect.isRequeue) =
      effects.countP Effect.isRequeue := by
  have mapped : (recordEffects ids info effects).map
      (fun recorded => recorded.effect.isRequeue) = effects.map Effect.isRequeue := by
    refine List.ext_getElem (by simp [recordEffects]) ?_
    intro position _ _
    simp [recordEffects]
  have counted := congrArg (List.countP id) mapped
  simpa [List.countP_map, Function.comp_def] using counted

/-! ### What the planner asks for -/

variable {verdict : Verdict} {all votes : List ChunkVote} {vote : ChunkVote}

/-- A verdict whose effects are accepted and that requeues the task exactly
when it rejects the result. -/
structure Applicable (info : CommitTaskInfo) (verdict : Verdict) : Prop where
  accepted : ∀ effect ∈ verdict.2, effect.Accepted info
  requeues : verdict.2.countP Effect.isRequeue = if verdict.1 = .fail then 1 else 0

/-- The task is no known-answer probe, or its answer is stored and, if the
answer belongs to a class, was measured on the class of the result. -/
def ProbeAnswered (reads : PlanReads) (info : CommitTaskInfo) : Prop :=
  info.isHoneypot →
    ∃ known answerClass, reads.honeypotAnswer = .ok (some (known, answerClass)) ∧
      (byteExactJobType info.jobType → answerClass = "" ∨
        answerClass = classKey info.engine info.buildHash info.buildIdentityPolicy)

theorem checkHoneypot_applicable (answered : ProbeAnswered reads info)
    (probed : checkHoneypot reads info commitBytes = .ok (some verdict)) :
    Applicable info verdict := by
  have task := info.taskId_ne_nil
  have supplier := info.supplierId_ne_nil
  unfold checkHoneypot at probed
  split at probed
  · simp at probed
  next probe =>
    obtain ⟨_, answerClass, stored, measured⟩ := answered (by simpa using probe)
    rw [stored] at probed
    have sameClass : ¬(byteExactJobType info.jobType ∧ answerClass ≠ "" ∧
        answerClass ≠ classKey info.engine info.buildHash info.buildIdentityPolicy) := by
      rintro ⟨exact, blank, other⟩
      exact (measured exact).elim blank other
    simp only [sameClass, if_false] at probed
    split at probed
    · split at probed
      all_goals
        obtain rfl := Option.some.inj (Except.ok.inj probed)
        constructor
        · simp [CommitTaskInfo.rejectProbe, CommitTaskInfo.recordEvent,
            Effect.Accepted, task, supplier,
            verificationReputationEventAllowed, verificationEventKindAllowed]
        · rfl
    · simp at probed

theorem checkHoneypot_unanswered (unanswered : ¬ProbeAnswered reads info) {probed : Option Verdict}
    (checked : checkHoneypot reads info commitBytes = .ok probed) :
    ∃ verdict, probed = some verdict ∧ ∃ effect ∈ verdict.2, ¬effect.Accepted info := by
  unfold ProbeAnswered at unanswered
  push Not at unanswered
  obtain ⟨probe, unusable⟩ := unanswered
  unfold checkHoneypot at checked
  rw [if_neg (by simpa using probe)] at checked
  split at checked
  · simp at checked
  · cases checked
    refine ⟨_, rfl, _, List.mem_singleton_self _, ?_⟩
    simp [CommitTaskInfo.recordEvent, Effect.Accepted, verificationEventKindAllowed]
  next known answerClass stored =>
    obtain ⟨exact, blank, other⟩ := unusable known answerClass stored
    rw [if_pos ⟨exact, blank, other⟩] at checked
    cases checked
    refine ⟨_, rfl, info.recordEvent .honeypotClassMismatch, ?_, ?_⟩
    · simp [CommitTaskInfo.rejectProbe]
    · simp [CommitTaskInfo.recordEvent, Effect.Accepted, verificationEventKindAllowed]

def ChunkVote.Stored (vote : ChunkVote) : Prop := vote.taskId ≠ uuidNil ∧ vote.supplierId ≠ uuidNil

theorem tiebreakEffects_accepted (stored : vote.Stored) (standing : VoteStanding) :
    ∀ effect ∈ tiebreakEffects info vote standing,
      effect.Accepted info ∧ effect.isRequeue = false := by
  obtain ⟨task, supplier⟩ := stored
  cases standing <;> simp [tiebreakEffects, Effect.Accepted, Effect.isRequeue, task, supplier,
      verificationReputationEventAllowed, verificationEventKindAllowed]

theorem applicable_of_effects (accepts : outcome ≠ .fail)
    (accepted : ∀ effect ∈ effects, effect.Accepted info ∧ effect.isRequeue = false) :
    Applicable info (outcome, effects) := by
  refine ⟨fun effect mem => (accepted effect mem).1, ?_⟩
  rw [if_neg accepts, List.countP_eq_zero]
  intro effect mem
  simp [accepted effect mem]

theorem resolveTiebreak_applicable {agree : Bytes → Bytes → Bool}
    (stored : ∀ vote ∈ all, vote.Stored) : Applicable info (resolveTiebreak agree info all) := by
  unfold resolveTiebreak
  dsimp only
  split
  · exact ⟨by simp, rfl⟩
  · refine applicable_of_effects (by split <;> simp) ?_
    intro effect mem
    obtain ⟨vote, counted, asked⟩ := List.mem_flatMap.mp mem
    have safe := stored vote (mem_independentSupplierVotes.mp counted).1
    exact tiebreakEffects_accepted safe _ effect asked

theorem dispatchTiebreak_accepted (dispatched : dispatchTiebreak reads info = .ok effects) :
    ∀ effect ∈ effects, effect.Accepted info ∧ effect.isRequeue = false := by
  rcases dispatchTiebreak_ok dispatched with rfl | ⟨peer, rfl⟩
  · simp
  · simp [Effect.Accepted, Effect.isRequeue, peer.property]

theorem independentSupplierVotes_length_le (all : List ChunkVote) :
    (independentSupplierVotes all).length ≤ all.length := by
  refine (List.subperm_of_subset ?_ ?_).length_le
  · exact List.Nodup.of_map _ (independentSupplierVotes_suppliers_nodup all)
  · exact fun vote mem => (mem_independentSupplierVotes.mp mem).1

theorem matchVotes_applicable (matched : matchVotes info votes = .ok verdict) :
    Applicable info verdict := by
  unfold matchVotes at matched
  split at matched
  · cases matched
    refine applicable_of_effects nofun ?_
    simp [CommitTaskInfo.recordEvent, Effect.Accepted, Effect.isRequeue, info.taskId_ne_nil,
      info.supplierId_ne_nil, verificationReputationEventAllowed, verificationEventKindAllowed]
  · simp at matched

/-- A provisional verdict that records one event and goes on with `effects`. -/
theorem provisional_applicable {kind : VerificationEventKind}
    (allowed : verificationEventKindAllowed kind)
    (accepted : ∀ effect ∈ effects, effect.Accepted info ∧ effect.isRequeue = false) :
    Applicable info (.passWithPenalty, info.recordEvent kind :: effects) := by
  refine applicable_of_effects nofun (List.forall_mem_cons.mpr ⟨?_, accepted⟩)
  simp [CommitTaskInfo.recordEvent, Effect.Accepted, Effect.isRequeue, info.taskId_ne_nil,
    info.supplierId_ne_nil, allowed]

theorem checkRedundancy_applicable (stored : votes.length ≤ 2 ∨ ∀ vote ∈ votes, vote.Stored)
    (checked : checkRedundancy reads info votes = .ok verdict) : Applicable info verdict := by
  unfold checkRedundancy at checked
  dsimp only at checked
  split at checked
  · exact matchVotes_applicable checked
  · exact matchVotes_applicable checked
  next first second counted =>
    split at checked
    · exact matchVotes_applicable checked
    split at checked
    · cases checked
      exact provisional_applicable rfl (by simp)
    split at checked
    · obtain ⟨_, asked, checked⟩ := bind_eq_ok.mp checked
      cases checked
      exact provisional_applicable rfl (dispatchTiebreak_accepted asked)
    · cases checked
      exact provisional_applicable rfl (by simp)
  next notEmpty notOne notTwo =>
    cases checked
    have many : ¬votes.length ≤ 2 := by
      have bound := independentSupplierVotes_length_le votes
      intro few
      match counted : independentSupplierVotes votes with
      | [] => exact notEmpty counted
      | [vote] => exact notOne vote counted
      | [first, second] => exact notTwo first second counted
      | first :: second :: third :: rest =>
        rw [counted] at bound
        simp only [List.length_cons] at bound
        omega
    have safe := stored.resolve_left many
    refine resolveTiebreak_applicable fun vote mem => ?_
    exact safe vote (mem_independentSupplierVotes.mp mem).1

theorem readVote_stored {result : ChunkResult}
    (read : readVote info commitBytes result = .ok vote) : vote.Stored := by
  unfold readVote at read
  repeat' split at read
  all_goals cases read
  all_goals exact ⟨result.taskId_ne_nil, result.supplierId_ne_nil⟩

theorem gatherChunkResults_stored
    (gathered : gatherChunkResults reads info commitBytes = .ok votes) :
    ∀ vote ∈ votes, vote.Stored := by
  unfold gatherChunkResults at gathered
  split at gathered
  · cases gathered
    simp
  obtain ⟨_, -, gathered⟩ := bind_eq_ok.mp gathered
  split at gathered
  · cases gathered
    simp
  obtain ⟨read, mapped, gathered⟩ := bind_eq_ok.mp gathered
  have safe : ∀ vote ∈ read, vote.Stored := by
    intro vote mem
    obtain ⟨_, -, readsRow⟩ := exists_of_mem_mapM mapped mem
    exact readVote_stored readsRow
  split at gathered
  · cases gathered
    exact safe
  cases gathered
  intro vote mem
  rcases List.mem_append.mp mem with old | own
  · exact safe vote old
  · obtain rfl := List.mem_singleton.mp own
    exact ⟨info.taskId_ne_nil, info.supplierId_ne_nil⟩

theorem chunkVotes_stored {redundancyBytes : Bytes}
    (gathered : chunkVotes reads info commitBytes redundancyBytes = .ok votes) :
    votes.length ≤ 2 ∨ ∀ vote ∈ votes, vote.Stored := by
  obtain ⟨_, gather, gathered⟩ := bind_eq_ok.mp gathered
  split at gathered
  · cases gathered
    exact .inl (by simp)
  · cases gathered
    exact .inr (gatherChunkResults_stored gather)

theorem success_applicable (accepts : outcome ≠ .fail) :
    Applicable info (outcome, [.dockReputation info.supplierId .taskSuccess]) := by
  refine applicable_of_effects accepts ?_
  simp [Effect.Accepted, Effect.isRequeue, info.supplierId_ne_nil,
    verificationReputationEventAllowed]

variable {redundancyBytes : Option Bytes}

theorem verifyTaskResult_applicable (answered : ProbeAnswered reads info)
    (verified : verifyTaskResult reads info commitBytes redundancyBytes = .ok verdict) :
    Applicable info verdict := by
  obtain ⟨_, checked, verified⟩ := bind_eq_ok.mp verified
  split at verified
  · cases verified
    exact checkHoneypot_applicable answered checked
  split at verified
  · obtain ⟨_, gathered, checked⟩ := bind_eq_ok.mp verified
    exact checkRedundancy_applicable (chunkVotes_stored gathered) checked
  · split at verified
    all_goals
      cases verified
      exact success_applicable nofun

theorem verifyTaskResult_unanswered (unanswered : ¬ProbeAnswered reads info)
    (verified : verifyTaskResult reads info commitBytes redundancyBytes = .ok verdict) :
    ∃ effect ∈ verdict.2, ¬effect.Accepted info := by
  obtain ⟨_, checked, verified⟩ := bind_eq_ok.mp verified
  obtain ⟨_, rfl, rejected⟩ := checkHoneypot_unanswered unanswered checked
  cases verified
  exact rejected

/-! ### The settlement -/

theorem projectNanosToMicros_pos {nanos : Int} (pos : 0 < nanos) :
    0 < projectNanosToMicros nanos := by
  unfold projectNanosToMicros nanosPerMicro
  dsimp only
  split_ifs <;> omega

theorem projectNanosToMicros_nonneg (nanos : Int) : 0 ≤ projectNanosToMicros nanos := by
  by_cases pos : 0 < nanos
  · exact (projectNanosToMicros_pos pos).le
  · simp [projectNanosToMicros, not_lt.mp pos]

theorem settlementRows_shape {job : SettledJob} {charge payout : Int}
    {now : Nat} (payable : outcome.payable) (pos : 0 < charge)
    (nonneg : 0 ≤ payout) (bounded : payout ≤ charge) :
    checkSettlement info outcome (settlementRows job info charge payout now) = .ok () := by
  have settles : ¬(outcome = .fail ∨ outcome = .lossNoPayout) := by
    rintro (rfl | rfl) <;> simp [VerifyOutcome.payable] at payable
  simp [checkSettlement, settles, settlementRows, checkEntries, threeRowShape,
    Except.bind, pos, nonneg, bounded]

variable {settlementCurrency : Currency} {job : SettledJob}
variable {settled : ObservedSettlement} {now : Nat}
variable {entries : List LedgerEntry}

theorem decisionSettlement_shape (settles :
      decisionSettlement settlementCurrency job info settled now outcome = .ok entries) :
    checkSettlement info outcome entries = .ok () ∧
      entries.length = if outcome.payable then 3 else 0 := by
  unfold decisionSettlement at settles
  split at settles
  next payable =>
    have pays : outcome.payable := by cases outcome <;> simp_all [VerifyOutcome.payable]
    rw [if_pos pays]
    obtain ⟨-, settles⟩ := ite_error_eq_ok.mp settles
    split at settles
    · simp only [splitFrozenChargeNanos, ite_error_eq_ok, not_le, not_lt] at settles
      obtain ⟨pos, -, -, bounded, settles⟩ := settles
      cases settles
      exact ⟨settlementRows_shape pays (projectNanosToMicros_pos pos)
        (projectNanosToMicros_nonneg _) bounded, rfl⟩
    · cases settles
      exact ⟨settlementRows_shape pays settled.charge_pos
        settled.payout_nonneg settled.payout_le_charge, rfl⟩
  next rejected =>
    cases settles
    cases outcome <;> simp_all [checkSettlement, VerifyOutcome.payable]

/-! ### Planner and applier -/

/-- The decision can be persisted and applied with the settlement. -/
structure AppliesWith (ids : EffectIds) (info : CommitTaskInfo)
    (decision : VerificationDecision) (entries : List LedgerEntry) :
    Prop where
  accepted : validateVerificationDecisionShape ids info decision entries = .ok ()
  settled : entries.length = if decision.outcome.payable then 3 else 0
  kinds : ∀ recorded ∈ decision.effects, ∀ jobId taskId supplierId kind,
    recorded.effect = .recordEvent jobId taskId supplierId kind → verificationEventKindAllowed kind
  requeues : decision.requeues = if decision.outcome = .fail then 1 else 0

theorem recordsAllowed_of_accepted (accepted : ∀ effect ∈ effects, effect.Accepted info) :
    ∀ recorded ∈ recordEffects ids info effects, ∀ jobId taskId supplierId kind,
        recorded.effect = .recordEvent jobId taskId supplierId kind →
          verificationEventKindAllowed kind := by
  intro recorded mem jobId taskId supplierId kind records
  obtain ⟨position, inside, rfl⟩ := List.mem_mapIdx.mp mem
  have fits := accepted _ (List.getElem_mem inside)
  generalize effects[position] = effect at records fits
  cases effect with
  | recordEvent =>
    simp only [Effect.named, Effect.recordEvent.injEq] at records
    rw [← records.2.2.2]
    exact fits.2.2.2
  | _ => simp [Effect.named] at records

/-- A planned decision can be applied with its settlement exactly when the
task is no probe or its known answer is there and comparable. -/
theorem planTaskResult_applies_iff {decision : VerificationDecision}
    (planned :
      planTaskResult ids reads info commitBytes redundancyBytes = .ok decision)
    (settles :
      decisionSettlement settlementCurrency job info settled now decision.outcome = .ok entries) :
    AppliesWith ids info decision entries ↔ ProbeAnswered reads info := by
  obtain ⟨_, verified, planned⟩ := bind_eq_ok.mp planned
  cases planned
  obtain ⟨shape, count⟩ := decisionSettlement_shape settles
  constructor
  · intro applies
    by_contra unanswered
    obtain ⟨effect, member, refused⟩ := verifyTaskResult_unanswered unanswered verified
    have accepted := applies.accepted
    simp only [validateVerificationDecisionShape, check_bind_eq_ok,
      checkEffects_recordEffects_iff] at accepted
    exact refused (accepted.2.1 effect member)
  · intro answered
    have applicable := verifyTaskResult_applicable answered verified
    refine ⟨?_, count, recordsAllowed_of_accepted applicable.accepted, ?_⟩
    · simp only [validateVerificationDecisionShape,
        check_bind_eq_ok, checkEffects_recordEffects_iff]
      exact ⟨rfl, applicable.accepted, rfl, shape⟩
    · rw [VerificationDecision.requeues, countP_recordEffects]
      exact applicable.requeues

/-! ### Two probes that cannot be applied, and one that can -/

def positionIds : EffectIds where
  payloadId _ _ ordinal _ := ordinal + 1
  payloadId_ne_nil _ _ _ _ := Nat.succ_ne_zero _
  payloadId_inj _ _ _ _ _ _ same := Nat.succ.inj same

def probe : CommitTaskInfo where
  taskId := 1
  jobId := 2
  workerId := 3
  supplierId := 4
  isHoneypot := true
  isRedundancy := false
  jobType := .batchInfer
  engine := "llama"
  buildHash := "00112233445566aa"
  buildIdentityPolicy := currentEngineBuildIdentityPolicy
  inputRef := "probe"
  chunkIndex := 0
  attempt := 0
  resultSha256 := ""
  checkSampled := true
  peerSupplierId := uuidNil
  peerEngine := ""
  peerBuildHash := ""
  peerBuildIdentityPolicy := ""
  taskId_ne_nil := Nat.one_ne_zero
  supplierId_ne_nil := by decide

def probeReads (answer : Option (Bytes × String)) : PlanReads where
  compareEmbeddings _ _ := false
  honeypotAnswer := .ok answer
  storage := true
  chunkResults := .ok []
  tiebreakExists := .ok false
  selectPeer _ _ := .ok none

def probeJob : SettledJob where
  buyerId := 9
  currency := .usd
  payoutHoldSecs := 0

def probeSettled : ObservedSettlement where
  billedCharge := 100
  supplierPayout := 80
  nanos := none
  charge_pos := by decide
  payout_nonneg := by decide
  payout_le_charge := by decide

def probeAnswer : Bytes × String :=
  ([7], classKey probe.engine probe.buildHash probe.buildIdentityPolicy)

theorem answered_probe_applies :
    ∃ decision entries,
      planTaskResult positionIds (probeReads (some probeAnswer)) probe [7] none = .ok decision ∧
      decisionSettlement .usd probeJob probe probeSettled 0 decision.outcome = .ok entries ∧
      AppliesWith positionIds probe decision entries := by
  obtain ⟨decision, planned, passed⟩ : ∃ decision,
      planTaskResult positionIds (probeReads (some probeAnswer)) probe [7] none = .ok decision ∧
        decision.outcome = .pass := ⟨_, rfl, rfl⟩
  obtain ⟨entries, settles⟩ : ∃ entries,
      decisionSettlement .usd probeJob probe probeSettled 0 decision.outcome = .ok entries := by
    rw [passed]
    exact ⟨_, rfl⟩
  refine ⟨decision, entries, planned, settles, ?_⟩
  refine (planTaskResult_applies_iff planned settles).mpr ?_
  intro _
  exact ⟨_, _, rfl, fun _ => .inr rfl⟩

/-- The answer of the probe is gone, or was measured on another build: the
plan is refused because of its event. -/
theorem probe_plans_refused :
    (∃ decision, planTaskResult positionIds (probeReads none) probe [7] none = .ok decision ∧
      decision.outcome = .fail ∧ decision.requeues = 0 ∧
      validateVerificationDecisionShape positionIds probe decision [] =
        .error (.invalidEvent (probe.recordEvent .honeypotAnswerMissing))) ∧
    ∃ decision,
      planTaskResult positionIds
        (probeReads (some ([7], "llama|ffffffffffffffff|policy"))) probe [7]
        none = .ok decision ∧
      decision.outcome = .fail ∧ decision.requeues = 1 ∧
      validateVerificationDecisionShape positionIds probe decision [] =
        .error (.invalidEvent (probe.recordEvent .honeypotClassMismatch)) :=
  ⟨⟨_, rfl, rfl, rfl, rfl⟩, ⟨_, rfl, rfl, rfl, rfl⟩⟩

/-! ### A plan stored and read back -/

/-- A ledger row with the authority that it cites. -/
structure CitedEntry extends LedgerEntry where
  pricingDecisionSha256 : String
  lifecycleRevision : String
  laneSettlementId : String

def CitedEntry.Uncited (entry : CitedEntry) : Prop :=
  entry.pricingDecisionSha256 = "" ∧ entry.lifecycleRevision = "" ∧ entry.laneSettlementId = ""

/-- Rows are stored by the name of their kind, then by task. -/
def LedgerEntry.place (entry : LedgerEntry) : Nat ×ₗ Nat :=
  toLex
    (match entry.kind with
      | .buyerCharge => 0
      | .clawback => 1
      | .platformTake => 2
      | .supplierCredit => 3,
    entry.taskId.elim 0 (· + 1))

def canonicalVerificationSettlements (entries : List CitedEntry) : List LedgerEntry :=
  (entries.map (·.toLedgerEntry)).insertionSort (Order.Preimage LedgerEntry.place (· ≤ ·))

def ledgerEntriesFromCanonical (rows : List LedgerEntry) : List CitedEntry :=
  rows.map fun row => ⟨row, "", "", ""⟩

/-- A row of `verification_work_plans`.  Its digest is a function of the rest,
and two rows with one digest are taken to be equal. -/
structure PlanRow where
  decision : VerificationDecision
  settlement : List LedgerEntry
  deriving DecidableEq

/-- `VerificationWorkPlan`: the digest is computed again from what was read. -/
def PlanRow.load (row : PlanRow) : Option (VerificationDecision × List CitedEntry) :=
  let entries := ledgerEntriesFromCanonical row.settlement
  if canonicalVerificationSettlements entries = row.settlement then some (row.decision, entries)
  else none

/-- `PersistVerificationWorkPlan` by the holder of the lease.  The error `none`
is a conflict with the stored row. -/
def persistPlan (ids : EffectIds) (info : CommitTaskInfo) (stored : Option PlanRow)
    (decision : VerificationDecision) (entries : List CitedEntry) :
    Except (Option ShapeError) PlanRow :=
  match validateVerificationDecisionShape ids info decision (entries.map (·.toLedgerEntry)) with
  | .error error => .error (some error)
  | .ok _ =>
    let row : PlanRow := ⟨decision, canonicalVerificationSettlements entries⟩
    match stored with
    | none => .ok row
    | some old => if old = row then .ok old else .error none

/-- Reading the row gives the plan that was stored, in the order of the rows. -/
def PlanRow.Keeps (row : PlanRow) (decision : VerificationDecision)
    (cited : List CitedEntry) : Prop :=
  ∃ loaded, row.load = some (decision, loaded) ∧ loaded.Perm cited

section
variable {decision other : VerificationDecision} {cited others : List CitedEntry}
variable {row otherRow : PlanRow}

theorem persistPlan_eq_ok {stored : Option PlanRow}
    (persisted : persistPlan ids info stored decision cited = .ok row) :
    row = ⟨decision, canonicalVerificationSettlements cited⟩ ∧
      persistPlan ids info (some row) decision cited = .ok row := by
  unfold persistPlan at persisted ⊢
  cases stored <;> grind

theorem canonical_keeps_iff :
    PlanRow.Keeps ⟨decision, canonicalVerificationSettlements cited⟩ decision cited ↔
      ∀ entry ∈ cited, entry.Uncited := by
  have sorted : (canonicalVerificationSettlements cited).Pairwise _ :=
    List.pairwise_insertionSort _ _
  -- The stored rows are in order, so the digest of what is read is their own.
  have digest : canonicalVerificationSettlements
      (ledgerEntriesFromCanonical (canonicalVerificationSettlements cited)) =
        canonicalVerificationSettlements cited := by
    rw [canonicalVerificationSettlements, ledgerEntriesFromCanonical, List.map_map]
    exact (congrArg _ (List.map_id _)).trans sorted.insertionSort_eq
  simp only [PlanRow.Keeps, PlanRow.load, digest, if_true, Option.some.injEq, Prod.mk.injEq,
    true_and, exists_eq_left']
  constructor
  · intro perm entry mem
    obtain ⟨_, -, rfl⟩ := List.mem_map.mp (perm.mem_iff.mpr mem)
    exact ⟨rfl, rfl, rfl⟩
  · intro uncited
    have same : ledgerEntriesFromCanonical (cited.map (·.toLedgerEntry)) = cited := by
      rw [ledgerEntriesFromCanonical, List.map_map]
      refine (List.map_congr_left ?_).trans (List.map_id _)
      rintro ⟨entry, _, _, _⟩ mem
      obtain ⟨rfl, rfl, rfl⟩ := uncited _ mem
      rfl
    nth_rewrite 2 [← same]
    exact (List.perm_insertionSort _ _).map _

/-- What is stored keeps two accepted plans, and tells them apart, exactly if
none of their rows cites an authority: citations are neither stored nor part of
the digest. -/
theorem plans_survive_iff (stored : persistPlan ids info none decision cited = .ok row)
    (storable : persistPlan ids info none other others = .ok otherRow) :
    (row.Keeps decision cited ∧ otherRow.Keeps other others ∧
      persistPlan ids info (some row) decision cited = .ok row ∧
      (persistPlan ids info (some row) other others = .ok row →
        other = decision ∧ others.Perm cited)) ↔
    ∀ entry ∈ cited ++ others, entry.Uncited := by
  obtain ⟨rfl, again⟩ := persistPlan_eq_ok stored
  obtain ⟨rfl, -⟩ := persistPlan_eq_ok storable
  rw [List.forall_mem_append, ← canonical_keeps_iff, ← canonical_keeps_iff]
  constructor
  · rintro ⟨keeps, otherKeeps, -, -⟩
    exact ⟨keeps, otherKeeps⟩
  · rintro ⟨keeps, otherKeeps⟩
    refine ⟨keeps, otherKeeps, again, ?_⟩
    intro accepted
    -- The two plans are one row, and the row keeps both.
    rw [(persistPlan_eq_ok accepted).1] at keeps
    obtain ⟨_, load, perm⟩ := keeps
    obtain ⟨_, otherLoad, otherPerm⟩ := otherKeeps
    cases load.symm.trans otherLoad
    exact ⟨rfl, otherPerm.symm.trans perm⟩

end

def passing : VerificationDecision := ⟨.pass, [], none⟩

def pricedRows (digest : String) : List CitedEntry :=
  (settlementRows probeJob probe 100 80 0).map fun entry => ⟨entry, digest, "", ""⟩

theorem uncited_plan_survives : ∃ row,
    persistPlan positionIds probe none passing (pricedRows "") = .ok row ∧
      row.Keeps passing (pricedRows "") := by
  have stored : persistPlan positionIds probe none passing (pricedRows "") = .ok _ := rfl
  refine ⟨_, stored, ((plans_survive_iff stored stored).mpr ?_).1⟩
  simp [pricedRows, settlementRows, CitedEntry.Uncited]

/-- The digest of the pricing decision is lost, and the plan with another one
passes for the same. -/
theorem citation_not_stored : ∃ row,
    persistPlan positionIds probe none passing (pricedRows "first") = .ok row ∧
      ¬row.Keeps passing (pricedRows "first") ∧
      persistPlan positionIds probe (some row) passing (pricedRows "second") = .ok row := by
  have second : persistPlan positionIds probe none passing (pricedRows "second") = .ok _ := rfl
  refine ⟨_, rfl, mt canonical_keeps_iff.mp ?_, (persistPlan_eq_ok second).2⟩
  simp [pricedRows, settlementRows, CitedEntry.Uncited]

end MercControl.Verification
