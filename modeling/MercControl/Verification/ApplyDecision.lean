import MercControl.Verification.WorkLeases

/-!
# Applying a verification decision

`applyVerificationDecision` as `VerifyJobTx` runs it: one transaction that
checks the lease and the plan, carries the effects out, writes the verdict,
makes the work terminal and, if the result is accepted, settles the task,
resolves the artifact of the chunk and fails the siblings.

Effects that write the reputation of suppliers, `verification_events` or the
payout side of a clawback only check their target here.
-/

namespace MercControl.Verification

open Library

/-- What the transaction reads besides the database. -/
structure Env where
  ids : EffectIds
  settlementCurrency : Currency

/-- The lease columns of a work row that is not leased are NULL, and reading
them fails. -/
def lockVerificationWorkFence (state : State) (work : WorkRow)
    (lease : VerificationLease) (plan : VerificationWorkPlan) :
    Except Failure Unit :=
  match state.desk.plans.find? lease.workId, work.status with
  | none, _ => .error .leaseLost
  | some stored, .leased _ _ _ =>
    if !work.heldBy lease state.now ∨ stored.decision ≠ plan.decision ∨
        stored.settlement ≠ plan.settlement ∨
        work.artifact ≠ some plan.artifact ∨
        work.sampling ≠ some plan.sampling then
      .error .workConflict
    else .ok ()
  | some _, _ => .error .noLease

def TaskRow.matchesCommit (task : TaskRow) (info : CommitTaskInfo)
    (artifact : VerificationArtifact) : Bool :=
  task.claimedBy = some info.workerId && task.result = some (.sealed artifact) &&
    task.isHoneypot = info.isHoneypot &&
    task.isRedundancy = info.isRedundancy &&
    task.inputRef = info.inputRef && task.chunkIndex = info.chunkIndex

def settlementMatches (job : JobRow) (info : CommitTaskInfo)
    (settled : ObservedSettlement) (entry : LedgerEntry) : Bool :=
  let agrees (amount : Int) (buyerId supplierId : Option Uuid) : Bool :=
    entry.amount = amount &&
      (entry.currency = none || entry.currency = some job.account.currency) &&
      entry.buyerId = buyerId && entry.supplierId = supplierId
  match entry.kind with
  | .buyerCharge => agrees (-settled.billedCharge) (some job.account.buyerId) none
  | .supplierCredit => agrees settled.supplierPayout none (some info.supplierId)
  | .platformTake => agrees (settled.billedCharge - settled.supplierPayout) none none
  | .clawback => false

def validateVerificationSettlement (env : Env) (state : State)
    (task : TaskRow) (info : CommitTaskInfo) (outcome : VerifyOutcome)
    (entries : List LedgerEntry) : Except Failure Unit :=
  if outcome = .fail ∨ outcome = .lossNoPayout then .ok ()
  else
    match state.board.jobs.find? task.jobId, task.settled with
    | some job, some settled =>
      if job.account.currency ≠ env.settlementCurrency then .error .currencyMismatch
      else if entries.length ≠ 3 ∨ !entries.all (settlementMatches job info settled) then
        .error .settlementRefused
      else .ok ()
    | _, _ => .error .settlementRefused

def State.supplierOf (state : State) (task : TaskRow) : Option Uuid :=
  match state.desk.works.find? (task.id, task.attempt) with
  | some work => some work.info.supplierId
  | none => task.execution.map fun execution => execution.supplierId

def validateTarget (state : State) (info : CommitTaskInfo)
    (taskId supplierId : Uuid) : Except Failure Unit :=
  match state.board.tasks.find? taskId with
  | none => .error .notFound
  | some task =>
    if task.jobId ≠ info.jobId ∨ task.chunkIndex ≠ info.chunkIndex ∨
        state.supplierOf task ≠ some supplierId then
      .error .effectTarget
    else .ok ()

def validateVerificationEffectTarget (state : State) (info : CommitTaskInfo) :
    Effect → Except Failure Unit
  | .dockReputation supplierId _ =>
    if supplierId = info.supplierId ∨
        state.board.tasks.rows.any (fun task =>
          task.jobId = info.jobId && task.chunkIndex = info.chunkIndex &&
            state.supplierOf task = some supplierId) then
      .ok ()
    else .error .effectTarget
  | .recordEvent _ taskId supplierId _ => validateTarget state info taskId supplierId
  | .clawbackCredit supplierId taskId => validateTarget state info taskId supplierId
  | .quarantine _ => .ok ()
  | .requeue _ => .ok ()
  | .insertTiebreak _ _ _ _ _ _ => .ok ()

def Board.setOutcome (board : Board) (taskId : Uuid) (outcome : TaskOutcome) :
    Except Failure Board :=
  board.updateTasks (fun task => task.id = taskId)
    { apply := fun task => { task with outcome := some outcome }, kept := fun _ => rfl }

def promoteProvisionalWinner (board : Board) (taskId : Uuid) : Except Failure Board :=
  match board.tasks.find? taskId with
  | none => .error .notFound
  | some task =>
    if task.status = .complete ∧ task.outcome = some (.decided .passWithPenalty) then
      board.setOutcome taskId (.decided .pass)
    else if task.outcome = some (.decided .pass) then .ok board
    else .error (.promotionRefused taskId)

def clawbackEntry (credit : LedgerEntry) : LedgerEntry where
  kind := .clawback
  supplierId := credit.supplierId
  buyerId := none
  taskId := credit.taskId
  amount := -credit.amount
  currency := credit.currency
  payoutStatus := .clawedBack
  releaseAt := none

/-- `clawbackTaskCreditTx` on the ledger.  A clawback that is there has to be
the exact reverse of the credit. -/
def clawbackTaskCredit (ledger : Table LedgerEntry.taskKind) (supplierId taskId : Uuid) :
    Except Failure (Table LedgerEntry.taskKind) :=
  match ledger.find? (some taskId, .supplierCredit) with
  | none => .ok ledger
  | some credit =>
    if credit.supplierId ≠ some supplierId ∨ credit.amount ≤ 0 then .ok ledger
    else
      let reversed := ledger.set { credit with payoutStatus := .clawedBack }
      match reversed.find? (some taskId, .clawback) with
      | none =>
        match reversed.insertNew (clawbackEntry credit) with
        | none => .error (.ledgerRowExists .clawback)
        | some ledger => .ok ledger
      | some existing =>
        if existing.amount = -credit.amount ∧ existing.supplierId = credit.supplierId then
          .ok reversed
        else .error (.ledgerRowExists .clawback)

def Board.hasTiebreak (board : Board) (jobId : Uuid) (chunkIndex : Nat) : Bool :=
  board.tasks.rows.any fun task =>
    task.jobId = jobId && task.chunkIndex = chunkIndex &&
      task.hedgedFrom.isSome && task.isRedundancy

def Board.addObligation (board : Board) (jobId : Uuid) : Except Failure Board :=
  board.updateJobs (fun job => job.id = jobId)
    { apply := fun job =>
        { job with
          taskCount := job.taskCount + 1
          consumed := job.consumed + 1
          status := if job.status = .verifying then .running else job.status }
      kept := fun _ => rfl }

/-- The tiebreak of a chunk.  It is pinned to the peer if the peer may claim
it. -/
def insertPlannedTiebreak (board : Board) (peerEligible : Bool)
    (taskId jobId primaryTaskId peerWorkerId : Uuid) (inputRef : String)
    (chunkIndex : Nat) : Except Failure Board :=
  match board.jobs.find? jobId with
  | none => .error .reserveExhausted
  | some job =>
    if board.hasTiebreak jobId chunkIndex then .ok board
    else if !job.reserveLeft ∨ !job.status.live then .error .reserveExhausted
    else
      (board.insertTask
        (TaskTerms.opened
          { id := taskId
            jobId
            chunkIndex
            isHoneypot := false
            isRedundancy := true
            hedgedFrom := some primaryTaskId
            inputRef }
          (if peerEligible then some peerWorkerId else none))).bind
        fun board => board.addObligation jobId

def runEffect (state : State) (info : CommitTaskInfo) (peerEligible : Bool) :
    Effect → Except Failure State
  | .dockReputation _ _ => .ok state
  | .recordEvent _ taskId _ kind =>
    if kind = .tiebreakWin ∧ taskId ≠ info.taskId then
      (promoteProvisionalWinner state.board taskId).bind fun board =>
      .ok { state with board }
    else .ok state
  | .clawbackCredit supplierId taskId =>
    (clawbackTaskCredit state.books.ledger supplierId taskId).bind fun ledger =>
    let clawed : State := { state with books := { state.books with ledger } }
    if taskId ≠ info.taskId then
      (clawed.board.setOutcome taskId .clawedBack).bind fun board =>
      .ok { clawed with board }
    else .ok clawed
  | .quarantine _ => .ok state
  | .requeue _ => .ok state
  | .insertTiebreak taskId jobId primaryTaskId peerWorkerId inputRef chunkIndex =>
    (insertPlannedTiebreak state.board peerEligible taskId jobId
      primaryTaskId peerWorkerId inputRef chunkIndex).bind fun board =>
        .ok { state with board }

def runEffects (info : CommitTaskInfo) (peerEligible : Bool) :
    State → List VerificationEffect → Except Failure State
  | state, [] => .ok state
  | state, effect :: rest =>
    (validateVerificationEffectTarget state info effect.effect).bind fun _ =>
    (runEffect state info peerEligible effect.effect).bind fun next =>
    runEffects info peerEligible next rest

def insertExactTaskVerdict (state : State) (info : CommitTaskInfo)
    (plan : VerificationWorkPlan) : Except Failure State :=
  match state.books.verdicts.insertNew
      { taskId := info.taskId
        attempt := info.attempt
        jobId := info.jobId
        supplierId := info.supplierId
        outcome := plan.decision.outcome
        decision := plan.decision
        settlement := plan.settlement
        artifact := plan.artifact } with
  | none => .error .verdictExists
  | some verdicts => .ok { state with books := { state.books with verdicts } }

def assertExactTaskVerdict (state : State) (info : CommitTaskInfo)
    (plan : VerificationWorkPlan) : Except Failure Unit :=
  match state.books.verdicts.find? (info.taskId, info.attempt) with
  | none => .error .replayConflict
  | some verdict =>
    if verdict.jobId = info.jobId ∧ verdict.supplierId = info.supplierId ∧
        verdict.outcome = plan.decision.outcome ∧
        verdict.decision = plan.decision ∧
        verdict.settlement = plan.settlement ∧
        verdict.artifact = plan.artifact then
      .ok ()
    else .error .replayConflict

def terminalizeVerificationWork (state : State) (lease : VerificationLease)
    (plan : VerificationWorkPlan) : Except Failure State :=
  (state.desk.held state.now lease).bind fun work =>
  if work.artifact ≠ some plan.artifact then .error .leaseLost
  else
    .ok { state with
      desk := { state.desk with
        works := state.desk.works.set
          { work with status := .terminal plan.decision.outcome plan.decision plan.settlement } } }

/-- The attempt that a verdict closes. -/
def TaskRow.isVerifying (info : CommitTaskInfo) (task : TaskRow) : Bool :=
  task.id = info.taskId && task.status = .verifying &&
    task.workerId = some info.workerId && task.attempt = info.attempt

def rejectDecision (state : State) (lease : VerificationLease)
    (info : CommitTaskInfo) (plan : VerificationWorkPlan) :
    Except Failure State :=
  (insertExactTaskVerdict state info plan).bind fun state =>
  if !state.board.tasks.rows.any (TaskRow.isVerifying info) then .error .transitionLost
  else
    (state.board.updateTasks (TaskRow.isVerifying info)
      { apply := fun task =>
          { task with
            status := .retrying
            claimedBy := none
            workerId := none
            attempt := task.attempt + 1 }
        kept := fun _ => rfl }).bind fun board =>
    (board.updateJobs (fun job => job.id = info.jobId && job.status = .verifying)
      { apply := fun job => { job with status := .running }
        kept := fun _ => rfl }).bind fun board =>
    terminalizeVerificationWork { state with board } lease plan

def TaskRow.inFamily (root : Uuid) (task : TaskRow) : Bool :=
  !task.isRedundancy && (task.id = root || task.hedgedFrom = some root)

def TaskTerms.root (task : TaskTerms) : Uuid := task.hedgedFrom.getD task.id

def Books.charged (books : Books) (taskId : Uuid) : Bool :=
  (books.ledger.find? (some taskId, .buyerCharge)).isSome

/-- The rows to write, and whether the task counts for the job. -/
def fenceHedgeSettlement (state : State) (task : TaskRow) (entries : List LedgerEntry) :
    Except Failure (List LedgerEntry × Bool) :=
  if task.isRedundancy then .ok (entries, true)
  else if (state.board.tasks.find? task.root).isNone then .error .notFound
  else if state.board.tasks.rows.any fun sibling =>
      sibling.id ≠ task.id && sibling.inFamily task.root && state.books.charged sibling.id then
    .ok ([], false)
  else .ok (entries, true)

def insertNewLedgerEntries :
    Table LedgerEntry.taskKind → List LedgerEntry → Except Failure (Table LedgerEntry.taskKind)
  | ledger, [] => .ok ledger
  | ledger, entry :: rest =>
    match ledger.insertNew entry with
    | none => .error (.ledgerRowExists entry.kind)
    | some ledger => insertNewLedgerEntries ledger rest

def debitPrepaidForTask (job : JobRow) (taskId : Uuid)
    (entries : List LedgerEntry) : Except Failure (List Debit) :=
  if !job.prepaidRequired ∨ entries.isEmpty then .ok []
  else
    match entries.filter fun entry => entry.kind = .buyerCharge with
    | [charge] =>
      if charge.buyerId = some job.account.buyerId ∧ charge.amount < 0 then
        .ok [.task taskId (-charge.amount)]
      else .error .settlementRefused
    | _ => .error .settlementRefused

/-- The committing task, not completed yet, is placed in the year 9999. -/
structure ChunkWinnerCandidate where
  work : WorkId
  artifact : VerificationArtifact
  isRedundancy : Bool
  completedAt : Option Nat

def VerificationDecision.winners (decision : VerificationDecision) : List Uuid :=
  (decision.effects.filterMap fun recorded =>
    match recorded.effect with
    | .recordEvent _ taskId _ .tiebreakWin => some taskId
    | _ => none).dedup

def ChunkWinnerCandidate.before (left right : ChunkWinnerCandidate) : Bool :=
  if left.isRedundancy ≠ right.isRedundancy then !left.isRedundancy
  else
    match left.completedAt, right.completedAt with
    | some leftAt, some rightAt =>
      if leftAt ≠ rightAt then leftAt < rightAt else left.work.1 < right.work.1
    | some _, none => true
    | none, some _ => false
    | none, none => left.work.1 < right.work.1

def firstCandidate (first : ChunkWinnerCandidate)
    (rest : List ChunkWinnerCandidate) : ChunkWinnerCandidate :=
  rest.foldl (fun best next => if next.before best then next else best) first

def loadCandidate (state : State) (info : CommitTaskInfo)
    (plan : VerificationWorkPlan) (taskId : Uuid) :
    Except Failure ChunkWinnerCandidate :=
  if taskId = info.taskId then
    .ok
      { work := (info.taskId, info.attempt)
        artifact := plan.artifact
        isRedundancy := info.isRedundancy
        completedAt := none }
  else
    match state.board.tasks.find? taskId with
    | none => .error (.winnerUnavailable taskId)
    | some task =>
      match state.desk.works.find? (task.id, task.attempt) with
      | none => .error (.winnerUnavailable taskId)
      | some work =>
        match work.artifact with
        | none => .error (.winnerUnavailable taskId)
        | some artifact =>
          if work.status.isTerminal ∧ task.jobId = info.jobId ∧ task.chunkIndex = info.chunkIndex ∧
              (task.outcome = some (.decided .pass) ∨
                task.outcome = some (.decided .passWithPenalty)) then
            .ok
              { work := (task.id, task.attempt)
                artifact
                isRedundancy := task.isRedundancy
                completedAt := some (task.completedAt.getD state.now) }
          else .error (.winnerUnavailable taskId)

def WorkStatus.payable : WorkStatus → Bool
  | terminal outcome _ _ => outcome.payable
  | _ => false

/-- `validate_chunk_artifact_resolution_insert`. -/
def resolutionBound (state : State) (row : ResolutionRow) : Bool :=
  match state.board.tasks.find? row.winner.1, state.desk.works.find? row.winner with
  | some task, some work =>
    task.jobId = row.jobId && task.chunkIndex = row.chunkIndex &&
      task.status = .complete && task.result = some (.sealed row.artifact) &&
      work.info.jobId = row.jobId && row.winner.2 = task.attempt &&
      work.status.payable && work.artifact = some row.artifact &&
      (row.basis ≠ .provisional ||
        (!task.isRedundancy && !task.isHoneypot && state.books.charged task.id))
  | _, _ => false

/-- Insert the winner unless the chunk has a row of the basis.  A majority has
to be the recorded one. -/
def recordWinner (state : State) (info : CommitTaskInfo) (basis : Basis)
    (decision : VerificationDecision) (winner : ChunkWinnerCandidate) :
    Except Failure State :=
  let row : ResolutionRow :=
    { jobId := info.jobId
      chunkIndex := info.chunkIndex
      basis
      winner := winner.work
      artifact := winner.artifact
      decision }
  -- the trigger fires before the conflict is looked for
  if !resolutionBound state row then .error .resolutionRefused
  else
    match state.books.resolutions.find? row.slot with
    | none =>
      match state.books.resolutions.insertNew row with
      | none => .error .resolutionConflict
      | some resolutions =>
        .ok { state with books := { state.books with resolutions } }
    | some existing =>
      if basis = .provisional ∨
          (existing.winner = winner.work ∧ existing.artifact = winner.artifact) then
        .ok state
      else .error .resolutionConflict

def recordChunkArtifactResolution (state : State) (task : TaskRow)
    (info : CommitTaskInfo) (plan : VerificationWorkPlan) (counts : Bool) :
    Except Failure State :=
  match plan.decision.winners with
  | [] =>
    if !counts ∨ task.isRedundancy ∨ task.isHoneypot then .ok state
    else
      (loadCandidate state info plan info.taskId).bind
        (recordWinner state info .provisional plan.decision)
  | winner :: others =>
    (loadCandidate state info plan winner).bind fun first =>
    (others.mapM (loadCandidate state info plan)).bind fun rest =>
    recordWinner state info .majority plan.decision (firstCandidate first rest)

def cancelledSibling (task : TaskRow) (sibling : TaskRow) : Bool :=
  sibling.jobId = task.jobId && sibling.chunkIndex = task.chunkIndex && sibling.id ≠ task.id &&
    (sibling.status = .queued || sibling.status = .running || sibling.status = .retrying) &&
    !sibling.isRedundancy && !sibling.isHoneypot &&
    (sibling.hedgedFrom.isSome || (task.hedgedFrom = some sibling.id && !task.isRedundancy))

def cancelSiblings (board : Board) (task : TaskRow) : Except Failure Board :=
  board.updateTasks (cancelledSibling task)
    { apply := fun sibling =>
        { sibling with status := .failed, claimedBy := none }
      kept := fun _ => rfl }

def completeTask (state : State) (info : CommitTaskInfo)
    (outcome : VerifyOutcome) : Except Failure State :=
  if !state.board.tasks.rows.any (TaskRow.isVerifying info) then .error .transitionLost
  else
    (state.board.updateTasks (TaskRow.isVerifying info)
      { apply := fun task =>
          { task with
            status := .complete
            completedAt := some state.now
            outcome := some (.decided outcome) }
        kept := fun _ => rfl }).bind fun board =>
    .ok { state with board }

def countTask (state : State) (info : CommitTaskInfo) : Except Failure State :=
  (state.board.updateJobs (fun job => job.id = info.jobId)
    { apply := fun job => { job with tasksDone := job.tasksDone + 1 }
      kept := fun _ => rfl }).bind fun board =>
  .ok { state with
    board
    books := { state.books with counted := state.books.counted ++ [info.taskId] } }

def settleTask (state : State) (job : JobRow) (info : CommitTaskInfo)
    (entries : List LedgerEntry) : Except Failure State :=
  (insertNewLedgerEntries state.books.ledger entries).bind fun ledger =>
  (debitPrepaidForTask job info.taskId entries).bind fun debits =>
  .ok { state with books := { state.books with ledger, debits := state.books.debits ++ debits } }

def acceptDecision (state : State) (lease : VerificationLease) (task : TaskRow) (job : JobRow)
    (info : CommitTaskInfo) (plan : VerificationWorkPlan) : Except Failure State :=
  (fenceHedgeSettlement state task plan.settlement).bind fun fenced =>
  (completeTask state info plan.decision.outcome).bind fun state =>
  (insertExactTaskVerdict state info plan).bind fun state =>
  (if fenced.2 then countTask state info else .ok state).bind fun state =>
  (terminalizeVerificationWork state lease plan).bind fun state =>
  (settleTask state job info fenced.1).bind fun state =>
  (recordChunkArtifactResolution state task info plan
    fenced.2).bind fun state =>
      (cancelSiblings state.board task).bind fun board =>
      .ok { state with board }

def carryOut (state : State) (lease : VerificationLease) (task : TaskRow)
    (job : JobRow) (info : CommitTaskInfo) (plan : VerificationWorkPlan)
    (peerEligible : Bool) : Except Failure State :=
  (runEffects info peerEligible state plan.decision.effects).bind fun state =>
  if plan.decision.outcome = .fail then
    if plan.decision.requeues ≠ 1 then .error (.requeueEffects plan.decision.requeues)
    else rejectDecision state lease info plan
  else if plan.decision.requeues ≠ 0 then .error (.requeueEffects plan.decision.requeues)
  else acceptDecision state lease task job info plan

/-- `peerEligible` is what `tiebreakPeerClaimEligibleTx` finds for the peer of
a planned tiebreak. -/
def verifyJob (env : Env) (state : State) (lease : VerificationLease)
    (plan : VerificationWorkPlan) (peerEligible : Bool) :
    Except Failure State :=
  if plan.workId ≠ lease.workId then .error .workConflict
  else
    match state.desk.works.find? lease.workId with
    | none => .error .leaseLost
    | some work =>
      let info := work.info
      match validateVerificationDecisionShape env.ids info plan.decision plan.settlement with
      | .error error => .error (.shape error)
      | .ok _ =>
        (lockVerificationWorkFence state work lease plan).bind fun _ =>
        match state.board.tasks.find? info.taskId with
        | none => .error .notFound
        | some task =>
          if task.jobId ≠ info.jobId then .error .jobChanged
          else if !task.matchesCommit info plan.artifact then .error .workConflict
          else
            (validateVerificationSettlement env state task info
              plan.decision.outcome plan.settlement).bind fun _ =>
                if !task.isVerifying info then
                  (assertExactTaskVerdict state info plan).bind fun _ => .ok state
                else
                  match state.board.jobs.find? info.jobId with
                  | none => .error .notFound
                  | some job =>
                    if !job.status.live then .error .replayConflict
                    else carryOut state lease task job info plan peerEligible

end MercControl.Verification
