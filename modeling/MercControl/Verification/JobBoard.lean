import MercControl.Verification.ApplyDecision

/-!
# The jobs and tasks of the store

The transactions that move jobs and tasks are, with those of the verification
work, the steps of one machine.  Which worker may claim a task is left open, up
to the checks on the status of the task and its job and on the spending cap.
-/

namespace MercControl.Verification

open Library

def maxTaskRetries : Nat := 3

namespace State

def taskCharges (state : State) (jobId : Uuid) : Int :=
  state.books.ledger.total fun entry =>
    if entry.kind = .buyerCharge ∧ entry.taskId.bind state.board.jobOfTask = some jobId then
      -entry.amount
    else 0

def premiumCharge (state : State) (jobId : Uuid) : Int :=
  (state.books.premiums.find? jobId).elim 0 PremiumRow.amount

def inFlight (state : State) (jobId : Uuid) : Nat :=
  state.board.tasks.rows.countP fun task =>
    task.jobId = jobId && (task.status = .running || task.status = .verifying)

def exposure (state : State) (job : JobRow) : Int :=
  state.taskCharges job.id + state.inFlight job.id * job.perTask + job.premium

def withinCap (state : State) (job : JobRow) : Bool :=
  job.maxCharge.all fun cap => state.exposure job ≤ cap

/-- `pending` of `jobTerminalTransitionStateTx`. -/
def verificationPending (state : State) (jobId : Uuid) : Bool :=
  state.board.tasks.rows.any (fun task => task.jobId = jobId && task.status = .verifying) ||
  state.desk.works.rows.any fun work => work.info.jobId = jobId && !work.status.isTerminal

end State

def TaskRow.requeued (status : TaskStatus) : TaskChange where
  apply := fun task =>
    { task with status, claimedBy := none, workerId := none, attempt := task.attempt + 1 }
  kept := fun _ => rfl

def TaskRow.closed (status : TaskStatus) : TaskChange where
  apply := fun task =>
    { task with status, claimedBy := none, workerId := none }
  kept := fun _ => rfl

namespace Board

def onTask (board : Board) (taskId : Uuid)
    (body : TaskRow → Except Failure Board) : Except Failure Board :=
  match board.tasks.find? taskId with
  | none => .error .notFound
  | some task => body task

def onJob (board : Board) (jobId : Uuid)
    (body : JobRow → Except Failure Board) : Except Failure Board :=
  match board.jobs.find? jobId with
  | none => .error .notFound
  | some job => body job

def writeTask (board : Board) (taskId : Uuid) (change : TaskChange) : Except Failure Board :=
  board.updateTasks (fun task => task.id = taskId) change

def moveJob (board : Board) (jobId : Uuid) (before after : JobStatus) : Except Failure Board :=
  board.updateJobs (fun job => job.id = jobId && job.status = before)
    { apply := fun job => { job with status := after }, kept := fun _ => rfl }

end Board

structure TaskSpec where
  id : Uuid
  chunkIndex : Nat
  isHoneypot : Bool
  isRedundancy : Bool
  inputRef : String

def TaskSpec.terms (spec : TaskSpec) (jobId : Uuid) : TaskTerms where
  id := spec.id
  jobId
  chunkIndex := spec.chunkIndex
  isHoneypot := spec.isHoneypot
  isRedundancy := spec.isRedundancy
  hedgedFrom := none
  inputRef := spec.inputRef

def Board.insertTasks (jobId : Uuid) : Board → List TaskSpec → Except Failure Board
  | board, [] => .ok board
  | board, spec :: rest =>
    (board.insertTask ((spec.terms jobId).opened none)).bind fun board =>
    insertTasks jobId board rest

/-- The plan is for the tasks of the submission and keeps to the `CHECK`s of
`job_economic_plans`; a cap of zero is stored as none. -/
def JobTerms.planned (terms : JobTerms) (tasks : List TaskSpec) : Bool :=
  terms.initialTasks = tasks.length && 0 < terms.initialTasks &&
    0 < terms.perTask && 0 ≤ terms.premium &&
    terms.maxCharge.all (fun cap => 0 < cap) &&
    terms.firmQuoteMax.all fun cap => 0 < cap

def submitJob (board : Board) (terms : JobTerms) (tasks : List TaskSpec) : Except Failure Board :=
  if !terms.planned tasks then .error .invalidRequest
  else
    (board.insertJob
      { toJobTerms := terms
        status := .queued
        taskCount := tasks.length
        tasksDone := 0
        actual := 0
        strikes := 0
        consumed := 0 }).bind fun board =>
    board.insertTasks terms.id tasks

def Board.dispatch (board : Board) (task : TaskRow) (execution : Execution) :
    Except Failure Board :=
  (board.writeTask task.id
    { apply := fun row =>
        { row with
          status := .running
          claimedBy := some execution.workerId
          workerId := some execution.workerId
          execution := some execution }
      kept := fun _ => rfl }).bind fun board =>
  board.moveJob task.jobId .queued .running

/-- `ClaimTasksTx`: an unclaimed task, or one that is pinned to the worker.
The cap is checked again after the claim. -/
def claimTask (state : State) (taskId : Uuid) (execution : Execution) : Except Failure Board :=
  state.board.onTask taskId fun task =>
    state.board.onJob task.jobId fun job =>
      if (task.status ≠ .queued ∧ task.status ≠ .retrying) ∨
          (task.claimedBy ≠ none ∧ task.claimedBy ≠ some execution.workerId) ∨
          !job.status.live then
        .error .notFound
      else
        (state.board.dispatch task execution).bind fun board =>
        if !{ state with board }.withinCap job then .error .notFound else .ok board

def TaskTerms.isTiebreak (terms : TaskTerms) : Bool := terms.isRedundancy && terms.hedgedFrom.isSome

/-- The machine is the one frozen on the task by an earlier claim. -/
def TaskRow.frozenFor (task : TaskRow) (execution : Execution) : Bool :=
  task.execution.any fun run =>
    run.supplierId = execution.supplierId && run.engine = execution.engine &&
      run.buildHash = execution.buildHash &&
      run.buildIdentityPolicy = execution.buildIdentityPolicy

/-- `tiebreakPeerClaimEligibleTx`, as far as the job goes: it has been started
and its cap covers one more task. -/
def State.tiebreakEligible (state : State) (job : JobRow) : Bool :=
  (job.status = .running || job.status = .verifying) &&
    job.maxCharge.all fun cap => state.exposure job + job.perTask ≤ cap

/-- A tiebreak is checked as when it was pinned; anything else has to be frozen
for the machine, as every job that is submitted today has a placement of
version 3 or later. -/
def startTask (state : State) (taskId : Uuid) (attempt : Nat)
    (execution : Execution) : Except Failure Board :=
  state.board.onTask taskId fun task =>
    state.board.onJob task.jobId fun job =>
      if task.attempt ≠ attempt ∨ task.claimedBy ≠ some execution.workerId ∨
          (task.status ≠ .queued ∧ task.status ≠ .running) ∨
          !job.status.live then
        .error .notFound
      else if (task.status = .running ∨ !task.isTiebreak) ∧ !task.frozenFor execution then
        .error .notFound
      else if task.status = .running then
        if task.workerId ≠ some execution.workerId ∨
            task.execution.map (fun run => run.workerId) ≠ some execution.workerId then
          .error .notFound
        else state.board.moveJob task.jobId .queued .running
      else if task.workerId ≠ none ∧ task.workerId ≠ some execution.workerId then .error .notFound
      else if task.isTiebreak ∧ !state.tiebreakEligible job then .error .notFound
      else state.board.dispatch task execution

/-- A tiebreak that its worker has not begun is pinned to another one. -/
def reassignPinnedTiebreak (state : State)
    (taskId pinnedWorkerId peerWorkerId : Uuid) : Except Failure Board :=
  state.board.onTask taskId fun task =>
    state.board.onJob task.jobId fun job =>
      if (task.status ≠ .queued ∧ task.status ≠ .retrying) ∨
          !task.isTiebreak ∨ task.claimedBy ≠ some pinnedWorkerId ∨
          (job.status ≠ .running ∧ job.status ≠ .verifying) then
        .ok state.board
      else if peerWorkerId = pinnedWorkerId ∨ !state.tiebreakEligible job then .error .noSupply
      else
        (state.board.writeTask taskId
          { apply := fun row =>
              { row with claimedBy := some peerWorkerId, workerId := none }
            kept := fun _ => rfl }).bind fun board =>
        board.moveJob task.jobId .verifying .running

def Board.hasHedge (board : Board) (jobId primaryTaskId : Uuid) : Bool :=
  board.tasks.rows.any fun task =>
    task.jobId = jobId && task.hedgedFrom = some primaryTaskId && !task.isRedundancy

def Board.consumeReserve (board : Board) (jobId : Uuid) : Except Failure Board :=
  board.updateJobs (fun job => job.id = jobId)
    { apply := fun job => { job with consumed := job.consumed + 1 }, kept := fun _ => rfl }

/-- `InsertHedgeTask`, as `StragglerTasks` and `EndgameTailTasks` call it, for
primaries.  A primary has one hedge. -/
def insertHedgeTask (board : Board) (taskId primaryTaskId peerWorkerId : Uuid) :
    Except Failure Board :=
  board.onTask primaryTaskId fun primary =>
    board.onJob primary.jobId fun job =>
      if primary.isHoneypot ∨ primary.isRedundancy ∨ primary.hedgedFrom.isSome then .error .notFound
      else if board.hasHedge primary.jobId primaryTaskId then .ok board
      else if (primary.status ≠ .running ∧ primary.status ≠ .verifying) ∨
          !job.status.live ∨ !job.reserveLeft then
        .error .reserveExhausted
      else
        (board.insertTask
          (TaskTerms.opened
            { id := taskId
              jobId := primary.jobId
              chunkIndex := primary.chunkIndex
              isHoneypot := false
              isRedundancy := false
              hedgedFrom := some primaryTaskId
              inputRef := primary.inputRef }
            (some peerWorkerId))).bind fun board =>
        board.consumeReserve primary.jobId

/-- `InsertTiebreakTask`, for the re-verification of a dispute. -/
def insertTiebreakTask (board : Board)
    (taskId anchorTaskId peerWorkerId : Uuid) : Except Failure Board :=
  board.onTask anchorTaskId fun anchor =>
    insertPlannedTiebreak board true taskId anchor.jobId anchorTaskId
      peerWorkerId anchor.inputRef anchor.chunkIndex

def requeueStaleTask (board : Board) (taskId : Uuid) : Except Failure Board :=
  board.onTask taskId fun task =>
    board.onJob task.jobId fun job =>
      if task.status ≠ .running ∨ !job.status.live then .ok board
      else
        (board.writeTask taskId (TaskRow.requeued .queued)).bind fun board =>
        board.moveJob task.jobId .verifying .running

def rescueRunningTask (board : Board) (taskId : Uuid) : Except Failure Board :=
  board.onTask taskId fun task =>
    if task.status ≠ .running then .ok board else board.writeTask taskId (TaskRow.requeued .queued)

def rescueStuckJob (board : Board) (jobId : Uuid) : Except Failure Board :=
  board.onJob jobId fun job =>
    if job.status ≠ .running ∨ job.strikes ≠ 0 then .ok board
    else
      (board.updateJobs (fun job => job.id = jobId)
        { apply := fun job => { job with strikes := 1 }
          kept := fun _ => rfl }).bind fun board =>
      board.updateTasks
        (fun task => task.jobId = jobId && (task.status = .running || task.status = .retrying))
        (TaskRow.requeued .queued)

def adminForceRequeueTask (board : Board) (taskId : Uuid)
    (retryLimit : Nat) : Except Failure Board :=
  board.onTask taskId fun task =>
    if (task.status ≠ .running ∧ task.status ≠ .retrying) ∨ retryLimit ≤ task.attempt then
      .error .notRequeueable
    else board.writeTask taskId (TaskRow.requeued .queued)

/-- `RequeueTask`, which looks at no status. -/
def requeueTask (board : Board) (taskId : Uuid) : Except Failure Board :=
  board.onTask taskId fun task =>
    (board.writeTask taskId (TaskRow.requeued .retrying)).bind fun board =>
    board.moveJob task.jobId .verifying .running

/-- `ReconcileLegacyVerifyingTasks` on one task: it is verifying and has no
verification work. -/
def reconcileVerifyingTask (state : State) (taskId : Uuid) : Except Failure Board :=
  state.board.onTask taskId fun task =>
    state.board.onJob task.jobId fun job =>
      if task.status ≠ .verifying ∨ !job.status.live ∨
          (state.desk.works.find? (task.id, task.attempt)).isSome then
        .ok state.board
      else
        (state.board.writeTask taskId
          { apply := fun task =>
              { task with
                status := .retrying
                claimedBy := none
                workerId := none
                attempt := task.attempt + 1
                result := none
                settled := none
                outcome := none
                completedAt := none }
            kept := fun _ => rfl }).bind fun board =>
        board.updateJobs
          (fun job => job.id = task.jobId && (job.status = .queued || job.status = .verifying))
          { apply := fun job => { job with status := .running }, kept := by rintro ⟨⟩; rfl }

def failJobAndSettleOnce (state : State) (jobId : Uuid) : Except Failure Board :=
  state.board.onJob jobId fun job =>
    if !job.status.live then .ok state.board
    else if state.verificationPending jobId then .error .verificationPending
    else
      state.board.updateJobs (fun job => job.id = jobId)
        { apply := fun job =>
            { job with status := .failed, actual := state.taskCharges jobId }
          kept := fun _ => rfl }

def failTask (state : State) (taskId workerId : Uuid) (attempt : Nat)
    (retryable : Bool) : Except Failure Board :=
  state.board.onTask taskId fun task =>
    if task.claimedBy ≠ some workerId ∨ task.attempt ≠ attempt then .error .notOwner
    else if task.status ≠ .running ∧ task.status ≠ .queued ∧ task.status ≠ .retrying then
      .ok state.board
    else if !retryable ∨ maxTaskRetries ≤ task.attempt then
      (state.board.writeTask taskId (TaskRow.closed .failed)).bind
        fun board => failJobAndSettleOnce { state with board } task.jobId
    else state.board.writeTask taskId (TaskRow.requeued .retrying)

def failTaskAndSettleJob (state : State) (taskId : Uuid) : Except Failure Board :=
  state.board.onTask taskId fun task =>
    if task.status ≠ .running then .ok state.board
    else
      (state.board.writeTask taskId (TaskRow.closed .failed)).bind
        fun board => failJobAndSettleOnce { state with board } task.jobId

def cancelJob (state : State) (jobId buyerId : Uuid) : Except Failure Board :=
  state.board.onJob jobId fun job =>
    if job.account.buyerId ≠ buyerId then .error .notFound
    else if job.status = .cancelled then .ok state.board
    else if job.status ≠ .queued ∨ state.verificationPending jobId then .error .notCancellable
    else
      (state.board.moveJob jobId .queued .cancelled).bind fun board =>
      board.updateTasks (fun task => task.jobId = jobId && task.status = .queued)
        { apply := fun task => { task with status := .failed }, kept := fun _ => rfl }

/-- The amount of the job is written by `SetJobActualUSD`, later. -/
def cancelStuckJob (state : State) (jobId : Uuid) : Except Failure Board :=
  state.board.onJob jobId fun job =>
    if job.status ≠ .running ∨ state.verificationPending jobId then .ok state.board
    else
      (state.board.moveJob jobId .running .cancelled).bind fun board =>
      board.updateTasks (fun task => task.jobId = jobId && !task.status.finished)
        { apply := fun task => { task with status := .cancelled }, kept := fun _ => rfl }

def setJobActual (state : State) (jobId : Uuid) : Except Failure Board :=
  state.board.updateJobs (fun job => job.id = jobId)
    { apply := fun job => { job with actual := state.taskCharges jobId + state.premiumCharge jobId }
      kept := fun _ => rfl }

def detachUnfinishedTasks (board : Board) (jobId : Uuid) : Except Failure Board :=
  board.onJob jobId fun job =>
    if job.status.live then .ok board
    else
      board.updateTasks
        (fun task =>
          task.jobId = jobId &&
            (task.status = .queued || task.status = .retrying || task.status = .running))
        (TaskRow.closed (if job.status = .cancelled then .cancelled else .failed))

inductive BoardEvent
  | submit (terms : JobTerms) (tasks : List TaskSpec)
  | claim (taskId : Uuid) (execution : Execution)
  | start (taskId : Uuid) (attempt : Nat) (execution : Execution)
  | hedge (taskId primaryTaskId peerWorkerId : Uuid)
  | tiebreak (taskId anchorTaskId peerWorkerId : Uuid)
  | reassign (taskId pinnedWorkerId peerWorkerId : Uuid)
  | requeueStale (taskId : Uuid)
  | rescueRunning (taskId : Uuid)
  | rescueStuck (jobId : Uuid)
  | adminRequeue (taskId : Uuid) (retryLimit : Nat)
  | requeue (taskId : Uuid)
  | reconcile (taskId : Uuid)
  | failTask (taskId workerId : Uuid) (attempt : Nat) (retryable : Bool)
  | failTaskAndSettle (taskId : Uuid)
  | cancel (jobId buyerId : Uuid)
  | cancelStuck (jobId : Uuid)
  | setActual (jobId : Uuid)
  | detach (jobId : Uuid)

def boardStep (state : State) : BoardEvent → Except Failure Board
  | .submit terms tasks => submitJob state.board terms tasks
  | .claim taskId execution => claimTask state taskId execution
  | .start taskId attempt execution => startTask state taskId attempt execution
  | .hedge taskId primaryTaskId peerWorkerId =>
    insertHedgeTask state.board taskId primaryTaskId peerWorkerId
  | .tiebreak taskId anchorTaskId peerWorkerId =>
    insertTiebreakTask state.board taskId anchorTaskId peerWorkerId
  | .reassign taskId pinnedWorkerId peerWorkerId =>
    reassignPinnedTiebreak state taskId pinnedWorkerId peerWorkerId
  | .requeueStale taskId => requeueStaleTask state.board taskId
  | .rescueRunning taskId => rescueRunningTask state.board taskId
  | .rescueStuck jobId => rescueStuckJob state.board jobId
  | .adminRequeue taskId retryLimit => adminForceRequeueTask state.board taskId retryLimit
  | .requeue taskId => requeueTask state.board taskId
  | .reconcile taskId => reconcileVerifyingTask state taskId
  | .failTask taskId workerId attempt retryable =>
    Verification.failTask state taskId workerId attempt retryable
  | .failTaskAndSettle taskId => failTaskAndSettleJob state taskId
  | .cancel jobId buyerId => cancelJob state jobId buyerId
  | .cancelStuck jobId => cancelStuckJob state jobId
  | .setActual jobId => setJobActual state jobId
  | .detach jobId => detachUnfinishedTasks state.board jobId

inductive WorkEvent
  | claim (workId : WorkId) (owner : String) (duration : Nat)
  | claimForAttempt (workId : WorkId) (owner : String) (duration : Nat)
  | renew (lease : VerificationLease) (extension : Nat)
  | release (lease : VerificationLease) (retryAt : Nat)
  | pinSampling (lease : VerificationLease) (sampling : Sampling)
  | persistPlan (lease : VerificationLease) (plan : VerificationWorkPlan)

def workStep (env : Env) (state : State) : WorkEvent → Except Failure Desk
  | .claim workId owner duration => state.desk.claimVerificationWork state.now workId owner duration
  | .claimForAttempt workId owner duration =>
    state.desk.claimVerificationWorkForAttempt state.now workId owner duration
  | .renew lease extension => state.desk.renewVerificationLease state.now lease extension
  | .release lease retryAt => state.desk.releaseVerificationWork state.now lease retryAt
  | .pinSampling lease sampling => state.desk.pinVerificationSampling state.now lease sampling
  | .persistPlan lease plan => state.desk.persistVerificationWorkPlan env.ids state.now lease plan

/-- What a worker reports with its result; the settlement is what the frozen
economics of the task give for the reported output. -/
structure TaskCommit where
  resultSha256 : String
  settled : ObservedSettlement

/-- The snapshot of a commit.  What the processor fills in later is empty. -/
def commitInfo (task : TaskRow) (job : JobRow) (execution : Execution)
    (isTask : task.id ≠ uuidNil) (isSupplier : execution.supplierId ≠ uuidNil) :
    CommitTaskInfo where
  taskId := task.id
  jobId := task.jobId
  workerId := execution.workerId
  supplierId := execution.supplierId
  isHoneypot := task.isHoneypot
  isRedundancy := task.isRedundancy
  jobType := job.jobType
  engine := execution.engine
  buildHash := execution.buildHash
  buildIdentityPolicy := execution.buildIdentityPolicy
  inputRef := task.inputRef
  chunkIndex := task.chunkIndex
  attempt := task.attempt
  resultSha256 := ""
  checkSampled := false
  peerSupplierId := uuidNil
  peerEngine := ""
  peerBuildHash := ""
  peerBuildIdentityPolicy := ""
  taskId_ne_nil := isTask
  supplierId_ne_nil := isSupplier

/-- The work of an attempt is created once, and a commit that comes again has
to be the same. -/
def createVerificationWork (state : State) (info : CommitTaskInfo)
    (commit : TaskCommit) : Except Failure Desk :=
  match state.desk.works.find? (info.taskId, info.attempt) with
  | some work =>
    if work.info = info ∧ work.reportedSha256 = commit.resultSha256 then .ok state.desk
    else .error .workConflict
  | none =>
    match state.desk.works.insertNew
        { info := info
          reportedSha256 := commit.resultSha256
          status := .pending state.now
          sampling := none
          artifact := none } with
    | none => .error .workConflict
    | some works => .ok { state.desk with works }

def Board.allCommitted (board : Board) (jobId : Uuid) : Bool :=
  !board.tasks.rows.any fun task =>
    task.jobId = jobId &&
      (task.status = .queued || task.status = .retrying || task.status = .running)

/-- The commit of a task that is verifying already leaves the task alone. -/
def TaskRow.committed (workerId : Uuid) (commit : TaskCommit) : TaskChange where
  apply := fun task =>
    if task.status = .verifying then task
    else
      { task with
        status := .verifying
        workerId := some workerId
        result := some (.staged task.attempt)
        settled := some commit.settled
        outcome := none
        completedAt := none }
  kept := by
    intro task
    split_ifs <;> rfl

def completeTaskTx (state : State) (taskId workerId : Uuid) (attempt : Nat)
    (commit : TaskCommit) : Except Failure State :=
  match state.board.tasks.find? taskId with
  | none => .error .notFound
  | some task =>
    match task.execution, state.board.jobs.find? task.jobId with
    | some execution, some job =>
      if valid : task.id ≠ uuidNil ∧ execution.supplierId ≠ uuidNil then
        if task.claimedBy ≠ some workerId ∨ execution.workerId ≠ workerId ∨ task.attempt ≠ attempt ∨
            (task.status ≠ .running ∧ task.status ≠ .queued ∧ task.status ≠ .verifying) ∨
            (task.status = .verifying ∧ task.workerId ≠ some workerId) ∨
            !job.status.live then
          .error .notFound
        else
          (state.board.writeTask taskId (TaskRow.committed workerId commit)).bind fun board =>
          (board.updateJobs
            (fun job =>
              job.id = task.jobId && (job.status = .queued || job.status = .running) &&
                board.allCommitted task.jobId)
            { apply := fun job => { job with status := .verifying }
              kept := fun _ => rfl }).bind fun board =>
          (createVerificationWork state (commitInfo task job execution valid.1 valid.2)
            commit).bind fun desk =>
          .ok { state with board, desk }
      else .error .invalidRequest
    | _, _ => .error .notFound

def State.finalizable (state : State) (job : JobRow) : Bool :=
  0 < job.taskCount &&
    (state.board.tasks.rows.all fun task =>
      task.jobId ≠ job.id || task.status = .complete || task.status = .failed) &&
    state.board.tasks.rows.any fun task => task.jobId = job.id && task.status = .complete

/-- `insertJobSLAPremiumChargeTx` and the debit of a prepaid job. -/
def chargePremium (books : Books) (job : JobRow) : Books :=
  if job.premium ≤ 0 then books
  else
    match books.premiums.insertNew { jobId := job.id, amount := job.premium } with
    | none => books
    | some premiums =>
      { books with
        premiums
        debits :=
          if job.prepaidRequired then books.debits ++ [.premium job.id job.premium]
          else books.debits }

/-- `completeJobEconomics`. -/
def finalizeJob (env : Env) (state : State) (jobId : Uuid) : Except Failure State :=
  match state.board.jobs.find? jobId with
  | none => .error .notFound
  | some job =>
    if job.account.currency ≠ env.settlementCurrency then .error .currencyMismatch
    else if job.status ≠ .complete ∧
        ((job.status ≠ .running ∧ job.status ≠ .verifying) ∨ !state.finalizable job) then
      .error .notFinalizable
    else
      let books := chargePremium state.books job
      let charged : State := { state with books }
      (state.board.updateJobs (fun job => job.id = jobId)
        { apply := fun job =>
            { job with
              status := .complete
              actual := charged.taskCharges jobId + charged.premiumCharge jobId }
          kept := fun _ => rfl }).bind fun board =>
      .ok { charged with board }

inductive Event
  /-- Time passes. -/
  | tick (seconds : Nat)
  | board (event : BoardEvent)
  | work (event : WorkEvent)
  | commit (taskId workerId : Uuid) (attempt : Nat) (commit : TaskCommit)
  | pinArtifact (lease : VerificationLease) (kind : ArtifactKind) (body : Bytes)
  | verify (lease : VerificationLease) (plan : VerificationWorkPlan) (peerEligible : Bool)
  | finalize (jobId : Uuid)

def step (env : Env) (state : State) : Event → Except Failure State
  | .tick seconds => .ok { state with now := state.now + seconds }
  | .board event => (boardStep state event).bind fun board => .ok { state with board }
  | .work event => (workStep env state event).bind fun desk => .ok { state with desk }
  | .commit taskId workerId attempt commit => completeTaskTx state taskId workerId attempt commit
  | .pinArtifact lease kind body => pinVerificationArtifact state lease kind body
  | .verify lease plan peerEligible => verifyJob env state lease plan peerEligible
  | .finalize jobId => finalizeJob env state jobId

end MercControl.Verification
