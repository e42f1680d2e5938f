import Mathlib.Data.Finset.Basic
import MercControl.Verification.Votes

/-!
# Planning a verification decision

`PlanTaskResult` runs `verifyTaskResult` against a store that records what it
is asked to do.  The result is an outcome and the effects that
`applyVerificationDecision` carries out later.  What the planner reads is given
by `PlanReads`; a read may fail.
-/

namespace MercControl.Verification

inductive VerifyOutcome
  | pass
  | fail
  | passWithPenalty
  | lossNoPayout
  deriving DecidableEq

def VerifyOutcome.payable : VerifyOutcome → Bool
  | .pass => true
  | .passWithPenalty => true
  | .fail => false
  | .lossNoPayout => false

inductive ReputationEvent
  | taskSuccess
  | honeypotPass
  | redundancyMatch
  | mismatch
  | honeypotFail
  | timeout
  | thermalThrottle
  | resultCorrupt
  | artifactOversize
  | spoofingDetected
  deriving DecidableEq

inductive VerificationEventKind
  | honeypotPass
  | honeypotFail
  | honeypotAnswerMissing
  | honeypotClassMismatch
  | redundancyMatch
  | redundancyMismatch
  | redundancyCrossClass
  | redundancySameSupplier
  | noIndependentSupplier
  | tiebreakWin
  | tiebreakLoss
  | tiebreakCrossClass
  | artifactInvalid
  | artifactOversize
  | artifactUnavailable
  deriving DecidableEq

/-- What a decision asks the applier to do. -/
inductive Effect
  | dockReputation (supplierId : Uuid) (event : ReputationEvent)
  | recordEvent (jobId taskId supplierId : Uuid) (kind : VerificationEventKind)
  | clawbackCredit (supplierId taskId : Uuid)
  | quarantine (supplierId : Uuid)
  | requeue (taskId : Uuid)
  | insertTiebreak (taskId jobId primaryTaskId peerWorkerId : Uuid)
      (inputRef : String) (chunkIndex : Nat)
  deriving DecidableEq

/-- The effect as it is hashed: the task of a tiebreak is named after the hash
and left out of it. -/
def Effect.hashed : Effect → Effect
  | .insertTiebreak _ jobId primaryTaskId peerWorkerId inputRef chunkIndex =>
    .insertTiebreak uuidNil jobId primaryTaskId peerWorkerId inputRef chunkIndex
  | effect => effect

def Effect.named (id : Uuid) : Effect → Effect
  | .insertTiebreak _ jobId primaryTaskId peerWorkerId inputRef chunkIndex =>
    .insertTiebreak id jobId primaryTaskId peerWorkerId inputRef chunkIndex
  | effect => effect

structure VerificationEffect where
  id : Uuid
  effect : Effect
  deriving DecidableEq

/-- The name-based identifiers of `verificationEffectPayloadID`: hashes of the
attempt, the position and the effect, taken to be free of collisions between
positions; their version bits are never all zero. -/
structure EffectIds where
  payloadId (taskId : Uuid) (attempt ordinal : Nat) (effect : Effect) : Uuid
  payloadId_ne_nil : ∀ taskId attempt ordinal effect,
    payloadId taskId attempt ordinal effect ≠ uuidNil
  payloadId_inj : ∀ taskId attempt ordinal other effect otherEffect,
    payloadId taskId attempt ordinal effect =
      payloadId taskId attempt other otherEffect → ordinal = other

structure VerificationFailure where
  kind : VerificationEventKind
  code : String
  jobType : JobType
  deriving DecidableEq

structure VerificationDecision where
  outcome : VerifyOutcome
  effects : List VerificationEffect
  failure : Option VerificationFailure
  deriving DecidableEq

def Effect.isRequeue : Effect → Bool
  | .requeue _ => true
  | _ => false

def VerificationDecision.requeues (decision : VerificationDecision) : Nat :=
  decision.effects.countP fun recorded => recorded.effect.isRequeue

/-- The committed attempt, rebuilt from its verification work.  The work can
only be created with identifiers that are not nil. -/
structure CommitTaskInfo where
  taskId : Uuid
  jobId : Uuid
  workerId : Uuid
  supplierId : Uuid
  isHoneypot : Bool
  isRedundancy : Bool
  jobType : JobType
  engine : String
  buildHash : String
  buildIdentityPolicy : String
  inputRef : String
  chunkIndex : Nat
  attempt : Nat
  resultSha256 : String
  /-- The sampling decision pinned before planning. -/
  checkSampled : Bool
  peerSupplierId : Uuid
  peerEngine : String
  peerBuildHash : String
  peerBuildIdentityPolicy : String
  taskId_ne_nil : taskId ≠ uuidNil
  supplierId_ne_nil : supplierId ≠ uuidNil

/-- A complete result of the chunk, as `ChunkResults` lists it. -/
structure ChunkResult where
  taskId : Uuid
  workerId : Uuid
  supplierId : Uuid
  /-- The digest of the sealed artifact, if the result has one. -/
  artifactSha256 : Option String
  /-- The stored bytes, unless they cannot be read. -/
  body : Option Bytes
  engine : String
  buildHash : String
  buildIdentityPolicy : String
  taskId_ne_nil : taskId ≠ uuidNil
  supplierId_ne_nil : supplierId ≠ uuidNil

inductive PlanError
  | readFailed
  | noIndependentSupplier

/-- The known answer comes with its class, and a peer is selected outside of a
set of workers and a set of suppliers. -/
structure PlanReads where
  compareEmbeddings : Bytes → Bytes → Bool
  honeypotAnswer : Except PlanError (Option (Bytes × String))
  storage : Bool
  chunkResults : Except PlanError (List ChunkResult)
  tiebreakExists : Except PlanError Bool
  selectPeer (workers suppliers : Finset Uuid) :
    Except PlanError (Option {peer : Uuid // peer ≠ uuidNil})

abbrev Verdict := VerifyOutcome × List Effect

namespace CommitTaskInfo

def recordEvent (info : CommitTaskInfo) (kind : VerificationEventKind) : Effect :=
  .recordEvent info.jobId info.taskId info.supplierId kind

def rejectProbe (info : CommitTaskInfo) (kind : VerificationEventKind) : List Effect :=
  [.dockReputation info.supplierId .honeypotFail, info.recordEvent kind,
    .clawbackCredit info.supplierId info.taskId,
    .quarantine info.supplierId,
    .requeue info.taskId]

def ownVote (info : CommitTaskInfo) (commitBytes : Bytes) : ChunkVote where
  supplierId := info.supplierId
  taskId := info.taskId
  bytes := commitBytes
  engine := info.engine
  buildHash := info.buildHash
  buildIdentityPolicy := info.buildIdentityPolicy

/-- The peer's vote when the chunk lists no results: its task is unknown. -/
def peerVote (info : CommitTaskInfo) (redundancyBytes : Bytes) : ChunkVote where
  supplierId := info.peerSupplierId
  taskId := uuidNil
  bytes := redundancyBytes
  engine := info.peerEngine
  buildHash := info.peerBuildHash
  buildIdentityPolicy := info.peerBuildIdentityPolicy

end CommitTaskInfo

/-- The verdict of a known-answer probe, or nothing if the task goes on to
the other checks. -/
def checkHoneypot (reads : PlanReads) (info : CommitTaskInfo)
    (commitBytes : Bytes) : Except PlanError (Option Verdict) :=
  if !info.isHoneypot then .ok none
  else
    match reads.honeypotAnswer with
    | .error failure => .error failure
    | .ok none => .ok (some (.fail, [info.recordEvent .honeypotAnswerMissing]))
    | .ok (some (known, answerClass)) =>
      if byteExactJobType info.jobType ∧ answerClass ≠ "" ∧
          answerClass ≠ classKey info.engine info.buildHash info.buildIdentityPolicy then
        .ok (some (.fail, info.rejectProbe .honeypotClassMismatch))
      else if byteHoneypotComparable info.jobType answerClass info.engine
          info.buildHash info.buildIdentityPolicy then
        if !resultsAgree reads.compareEmbeddings info.jobType commitBytes known then
          .ok (some (.fail, info.rejectProbe .honeypotFail))
        else
          .ok (some (.pass,
            [.dockReputation info.supplierId .honeypotPass, info.recordEvent .honeypotPass]))
      else .ok none

def readVote (info : CommitTaskInfo) (commitBytes : Bytes)
    (result : ChunkResult) : Except PlanError ChunkVote :=
  let vote (bytes : Bytes) : ChunkVote :=
    { supplierId := result.supplierId
      taskId := result.taskId
      bytes
      engine := result.engine
      buildHash := result.buildHash
      buildIdentityPolicy := result.buildIdentityPolicy }
  if result.taskId = info.taskId then
    .ok (vote commitBytes)
  -- an artifact of the same class with the same digest is not read again
  else if byteExactJobType info.jobType ∧ result.artifactSha256 = some info.resultSha256 ∧
      sameVerificationClass info.engine info.buildHash result.engine
        result.buildHash info.buildIdentityPolicy
        result.buildIdentityPolicy then
    .ok (vote commitBytes)
  else
    match result.body with
    | none => .error .readFailed
    | some bytes => .ok (vote bytes)

def gatherChunkResults (reads : PlanReads) (info : CommitTaskInfo)
    (commitBytes : Bytes) : Except PlanError (List ChunkVote) :=
  if !reads.storage ∨ info.jobId = uuidNil then .ok []
  else
    reads.chunkResults.bind fun rows =>
    if rows.isEmpty then .ok []
    else
      (rows.mapM (readVote info commitBytes)).bind fun votes =>
      if rows.any fun row => row.taskId = info.taskId then .ok votes
      else .ok (votes ++ [info.ownVote commitBytes])

/-- The votes that are compared: those of the chunk or, if it lists no
results, those of the two peers. -/
def chunkVotes (reads : PlanReads) (info : CommitTaskInfo) (commitBytes redundancyBytes : Bytes) :
    Except PlanError (List ChunkVote) :=
  (gatherChunkResults reads info commitBytes).bind fun votes =>
  if votes.isEmpty then .ok [info.ownVote commitBytes, info.peerVote redundancyBytes]
  else .ok votes

inductive VoteStanding
  | win
  | crossClass
  | loss
  deriving DecidableEq

/-- Where a vote stands in a tiebreak: with the winning bytes, excused as of
another class than the first winning vote, or lost. -/
def voteStanding (agree : Bytes → Bytes → Bool) (byteExact : Bool)
    (winner : Bytes) (winning : Option ChunkVote) (vote : ChunkVote) :
    VoteStanding :=
  if agree vote.bytes winner then .win
  else if byteExact && !winning.any fun first => first.sameClass vote then .crossClass
  else .loss

def tiebreakEffects (info : CommitTaskInfo) (vote : ChunkVote) : VoteStanding → List Effect
  | .win =>
    [.dockReputation vote.supplierId .redundancyMatch,
      .recordEvent info.jobId vote.taskId vote.supplierId .tiebreakWin]
  | .crossClass =>
    [.dockReputation vote.supplierId .redundancyMatch,
      .recordEvent info.jobId vote.taskId vote.supplierId .tiebreakCrossClass]
  | .loss =>
    [.dockReputation vote.supplierId .mismatch,
      .recordEvent info.jobId vote.taskId vote.supplierId .tiebreakLoss,
      .clawbackCredit vote.supplierId vote.taskId]

def resolveTiebreak (agree : Bytes → Bytes → Bool) (info : CommitTaskInfo)
    (all : List ChunkVote) : Verdict :=
  let votes := independentSupplierVotes all
  let winner := majorityVote agree (votes.map ChunkVote.bytes)
  if 2 * votes.countP (fun vote => agree vote.bytes winner) ≤ votes.length then
    (.passWithPenalty, [])
  else
    let winning := votes.find? fun vote => agree vote.bytes winner
    let standing := voteStanding agree (byteExactJobType info.jobType) winner winning
    let committerLost := votes.any fun vote =>
      standing vote = .loss ∧ vote.supplierId = info.supplierId
    (if committerLost then .lossNoPayout else .pass,
      votes.flatMap fun vote => tiebreakEffects info vote (standing vote))

/-- The tiebreak that a mismatch asks for, outside the workers and suppliers of
the chunk's other results. -/
def dispatchTiebreak (reads : PlanReads) (info : CommitTaskInfo) : Except PlanError (List Effect) :=
  if !reads.storage then .ok []
  else
    reads.tiebreakExists.bind fun tiebreakExists =>
    if tiebreakExists then .ok []
    else
      reads.chunkResults.bind fun chunk =>
      let others := chunk.filter fun row => row.workerId ≠ info.workerId
      (reads.selectPeer (others.map ChunkResult.workerId).toFinset
        (others.map ChunkResult.supplierId).toFinset).bind fun peer =>
      match peer with
      | none => .ok []
      | some peer =>
        .ok [.insertTiebreak uuidNil info.jobId info.taskId peer.val
          info.inputRef info.chunkIndex]

/-- Votes without a dissent pass if they are of two suppliers at least. -/
def matchVotes (info : CommitTaskInfo) (rawVotes : List ChunkVote) : Except PlanError Verdict :=
  if independentRedundancyMatch rawVotes then
    .ok (.pass,
      [.dockReputation info.supplierId .redundancyMatch, info.recordEvent .redundancyMatch,
        .dockReputation info.supplierId .taskSuccess])
  else .error .noIndependentSupplier

def checkRedundancy (reads : PlanReads) (info : CommitTaskInfo)
    (rawVotes : List ChunkVote) : Except PlanError Verdict :=
  let agree := resultsAgree reads.compareEmbeddings info.jobType
  match independentSupplierVotes rawVotes with
  | [] => matchVotes info rawVotes
  | [_] => matchVotes info rawVotes
  | [first, second] =>
    if agree first.bytes second.bytes then matchVotes info rawVotes
    else if byteExactJobType info.jobType && !first.sameClass second then
      .ok (.passWithPenalty, [info.recordEvent .redundancyCrossClass])
    else if info.checkSampled then
      (dispatchTiebreak reads info).bind fun dispatched =>
      .ok (.passWithPenalty, info.recordEvent .redundancyMismatch :: dispatched)
    else .ok (.passWithPenalty, [info.recordEvent .redundancyMismatch])
  | all => .ok (resolveTiebreak agree info all)

def verifyTaskResult (reads : PlanReads) (info : CommitTaskInfo)
    (commitBytes : Bytes) (redundancyBytes : Option Bytes) :
    Except PlanError Verdict :=
  (checkHoneypot reads info commitBytes).bind fun probed =>
  match probed with
  | some verdict => .ok verdict
  | none =>
    match redundancyBytes with
    | some redundancyBytes =>
      (chunkVotes reads info commitBytes redundancyBytes).bind (checkRedundancy reads info)
    | none =>
      if info.isRedundancy then
        .ok (.passWithPenalty, [.dockReputation info.supplierId .taskSuccess])
      else .ok (.pass, [.dockReputation info.supplierId .taskSuccess])

/-- The recorder numbers the effects in the order in which they are asked
for. -/
def recordEffects (ids : EffectIds) (info : CommitTaskInfo)
    (effects : List Effect) : List VerificationEffect :=
  effects.mapIdx fun ordinal effect =>
    let id := ids.payloadId info.taskId info.attempt ordinal effect.hashed
    { id, effect := effect.named id }

def planTaskResult (ids : EffectIds) (reads : PlanReads)
    (info : CommitTaskInfo) (commitBytes : Bytes)
    (redundancyBytes : Option Bytes) : Except PlanError VerificationDecision :=
  (verifyTaskResult reads info commitBytes redundancyBytes).bind fun verdict =>
  .ok { outcome := verdict.1, effects := recordEffects ids info verdict.2, failure := none }

end MercControl.Verification
