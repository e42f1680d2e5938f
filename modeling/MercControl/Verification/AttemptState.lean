import MercControl.Verification.DecisionShape

/-!
# The store of jobs, tasks and verification work

The board holds the jobs and their tasks, the desk the verification work with
its leases and plans, and the books what is written once.  Status changes go
through the tables of `lifecycle_transitions`, which a trigger enforces on every
update.
-/

namespace MercControl.Verification

open Library Table

deriving instance DecidableEq for ObservedSettlement
deriving instance DecidableEq for CommitTaskInfo

inductive JobStatus
  | queued
  | running
  | verifying
  | complete
  | failed
  | cancelled
  deriving DecidableEq

inductive TaskStatus
  | queued
  | running
  | verifying
  | retrying
  | complete
  | failed
  | cancelled
  deriving DecidableEq

namespace JobStatus

/-- The statuses in which a job takes commits, verdicts and new tasks. -/
def live : JobStatus → Bool
  | queued => true
  | running => true
  | verifying => true
  | _ => false

theorem ne_complete {status : JobStatus} (isLive : status.live = true) : status ≠ .complete := by
  rintro rfl
  cases isLive

/-- The rows of `lifecycle_transitions` for jobs. -/
def mayBecome : JobStatus → JobStatus → Bool
  | queued, running => true
  | queued, cancelled => true
  | queued, failed => true
  | running, verifying => true
  | running, complete => true
  | running, failed => true
  | running, cancelled => true
  | verifying, running => true
  | verifying, complete => true
  | verifying, failed => true
  | before, after => before = after

end JobStatus

namespace TaskStatus

def finished : TaskStatus → Bool
  | complete => true
  | failed => true
  | cancelled => true
  | _ => false

/-- The rows of `lifecycle_transitions` for tasks. -/
def mayBecome : TaskStatus → TaskStatus → Bool
  | queued, running => true
  | queued, retrying => true
  | queued, failed => true
  | queued, cancelled => true
  | running, queued => true
  | running, verifying => true
  | running, complete => true
  | running, retrying => true
  | running, failed => true
  | running, cancelled => true
  | verifying, running => true
  | verifying, complete => true
  | verifying, retrying => true
  | verifying, failed => true
  | verifying, cancelled => true
  | retrying, queued => true
  | retrying, running => true
  | retrying, failed => true
  | retrying, cancelled => true
  | complete, retrying => true
  | complete, failed => true
  | failed, retrying => true
  | before, after => before = after

end TaskStatus

/-- What a job is accepted with and keeps. -/
structure JobTerms where
  id : Uuid
  jobType : JobType
  account : SettledJob
  prepaidRequired : Bool
  /-- `sla_premium_usd` of the economic plan, in micro-units. -/
  premium : Int
  /-- `buyer_charge_per_task_usd` of the economic plan, in micro-units. -/
  perTask : Int
  /-- `initial_task_count` of the economic plan. -/
  initialTasks : Nat
  /-- `max_usd`, in micro-units: the cap on the charges of the job. -/
  maxCharge : Option Int
  /-- `firm_quote_max_usd`, in micro-units, of a job with a firm quote. -/
  firmQuoteMax : Option Int
  /-- `reserved_tasks`: the hedges and tiebreaks that are paid for. -/
  reserved : Nat

structure JobRow extends JobTerms where
  status : JobStatus
  taskCount : Nat
  tasksDone : Nat
  /-- `actual_usd`, in micro-units. -/
  actual : Int
  strikes : Nat
  consumed : Nat

def JobTerms.cost (terms : JobTerms) (tasks : Nat) : Int := terms.perTask * tasks + terms.premium

/-- The condition of `consumeEconomicReserveTx`: a reserved task is left, and
the ceilings of the job cover one task more. -/
def JobRow.reserveLeft (job : JobRow) : Bool :=
  let cost := job.cost (job.initialTasks + job.consumed + 1)
  job.consumed < job.reserved && job.maxCharge.all (fun cap => cost ≤ cap) &&
    job.firmQuoteMax.all fun cap => cost ≤ cap

/-- What a task is created with and keeps. -/
structure TaskTerms where
  id : Uuid
  jobId : Uuid
  chunkIndex : Nat
  isHoneypot : Bool
  isRedundancy : Bool
  hedgedFrom : Option Uuid
  inputRef : String

/-- The identity of the worker that runs an attempt, frozen by the claim. -/
structure Execution where
  workerId : Uuid
  supplierId : Uuid
  engine : String
  buildHash : String
  buildIdentityPolicy : String
  deriving DecidableEq

/-- What was sealed for an attempt: its result, or evidence that there is no
usable one. -/
inductive ArtifactKind
  | result
  | oversized
  | unavailable
  deriving DecidableEq

/-- A sealed object.  It is never written again, so the bytes stand for the
digest. -/
structure VerificationArtifact where
  taskId : Uuid
  attempt : Nat
  kind : ArtifactKind
  body : Bytes
  deriving DecidableEq

inductive ResultRef
  | staged (attempt : Nat)
  | sealed (artifact : VerificationArtifact)
  deriving DecidableEq

/-- `verification_outcome`. -/
inductive TaskOutcome
  | decided (outcome : VerifyOutcome)
  | clawedBack
  deriving DecidableEq

structure TaskRow extends TaskTerms where
  status : TaskStatus
  /-- `retry_count`. -/
  attempt : Nat
  claimedBy : Option Uuid
  workerId : Option Uuid
  execution : Option Execution
  result : Option ResultRef
  /-- What `loadObservedOutputSettlement` finds for the committed attempt. -/
  settled : Option ObservedSettlement
  outcome : Option TaskOutcome
  completedAt : Option Nat

def TaskTerms.opened (terms : TaskTerms) (claimedBy : Option Uuid) : TaskRow where
  toTaskTerms := terms
  status := .queued
  attempt := 0
  claimedBy
  workerId := none
  execution := none
  result := none
  settled := none
  outcome := none
  completedAt := none

structure Board where
  jobs : Table fun job : JobRow => job.id
  tasks : Table fun task : TaskRow => task.id

/-- A work row is named by the attempt it verifies. -/
abbrev WorkId := Uuid × Nat

inductive WorkStatus
  | pending (nextAttemptAt : Nat)
  | leased (owner : String) (token expiresAt : Nat)
  /-- The outcome with the decision and settlement that its digest covers. -/
  | terminal (outcome : VerifyOutcome) (decision : VerificationDecision)
      (settlement : List LedgerEntry)

def WorkStatus.isTerminal : WorkStatus → Bool
  | terminal _ _ _ => true
  | _ => false

structure Sampling where
  probability : String
  selected : Bool
  deriving DecidableEq

structure WorkRow where
  info : CommitTaskInfo
  reportedSha256 : String
  status : WorkStatus
  sampling : Option Sampling
  artifact : Option VerificationArtifact

def WorkRow.id (work : WorkRow) : WorkId := (work.info.taskId, work.info.attempt)

structure VerificationLease where
  workId : WorkId
  owner : String
  token : Nat

def WorkRow.heldBy (work : WorkRow) (lease : VerificationLease) (now : Nat) : Bool :=
  match work.status with
  | .leased owner token expiresAt => owner = lease.owner && token = lease.token && now < expiresAt
  | _ => false

structure VerificationWorkPlan where
  workId : WorkId
  artifact : VerificationArtifact
  sampling : Sampling
  decision : VerificationDecision
  settlement : List LedgerEntry
  deriving DecidableEq

structure Desk where
  works : Table WorkRow.id
  /-- The plans in the order in which they were made. -/
  plans : Table VerificationWorkPlan.workId
  /-- The number of lease tokens handed out; the next one is new. -/
  issued : Nat

structure VerdictRow where
  taskId : Uuid
  attempt : Nat
  jobId : Uuid
  supplierId : Uuid
  outcome : VerifyOutcome
  decision : VerificationDecision
  settlement : List LedgerEntry
  artifact : VerificationArtifact
  deriving DecidableEq

def VerdictRow.workId (verdict : VerdictRow) : WorkId := (verdict.taskId, verdict.attempt)

/-- `ledger_task_kind_uniq`. -/
def LedgerEntry.taskKind (entry : LedgerEntry) : Option Uuid × LedgerKind :=
  (entry.taskId, entry.kind)

/-- The `buyer_charge` row of a job's premium; its reference names the job. -/
structure PremiumRow where
  jobId : Uuid
  amount : Int

/-- A debit of a prepaid balance. -/
inductive Debit
  | task (taskId : Uuid) (amount : Int)
  | premium (jobId : Uuid) (amount : Int)

inductive Basis
  | provisional
  | majority
  deriving DecidableEq

/-- A row of `chunk_artifact_resolutions`.  The decision is what the row's
effect id is a hash of. -/
structure ResolutionRow where
  jobId : Uuid
  chunkIndex : Nat
  basis : Basis
  winner : WorkId
  artifact : VerificationArtifact
  decision : VerificationDecision

/-- `chunk_artifact_resolutions_one_basis`. -/
def ResolutionRow.slot (row : ResolutionRow) : Uuid × Nat × Basis :=
  (row.jobId, row.chunkIndex, row.basis)

structure Books where
  verdicts : Table VerdictRow.workId
  ledger : Table LedgerEntry.taskKind
  premiums : Table PremiumRow.jobId
  debits : List Debit
  resolutions : Table ResolutionRow.slot
  /-- History: the tasks that raised `tasks_done` of their job, once for each
  time. -/
  counted : List Uuid

structure State where
  board : Board
  desk : Desk
  books : Books
  now : Nat

def State.empty : State where
  board := { jobs := .empty, tasks := .empty }
  desk := { works := .empty, plans := .empty, issued := 0 }
  books :=
    { verdicts := .empty
      ledger := .empty
      premiums := .empty
      debits := []
      resolutions := .empty
      counted := [] }
  now := 0

inductive Failure
  | notFound
  | invalidRequest
  | taken
  /-- `cx_guard_lifecycle_transition`. -/
  | illegalTransition
  /-- `ErrVerificationWorkConflict`. -/
  | workConflict
  /-- `ErrVerificationLeaseLost`. -/
  | leaseLost
  /-- The lease columns of the work row are NULL. -/
  | noLease
  /-- `ErrVerificationWorkBusy`. -/
  | workBusy
  /-- `ErrVerificationWorkTerminal`, with the recorded outcome. -/
  | workTerminal (outcome : VerifyOutcome)
  | shape (error : ShapeError)
  | jobChanged
  | settlementRefused
  /-- `ErrVerificationReplayConflict`. -/
  | replayConflict
  | effectTarget
  | promotionRefused (taskId : Uuid)
  /-- `ErrEconomicReserveExhausted`. -/
  | reserveExhausted
  | noSupply
  | requeueEffects (count : Nat)
  | transitionLost
  | verdictExists
  | ledgerRowExists (kind : LedgerKind)
  | winnerUnavailable (taskId : Uuid)
  /-- `validate_chunk_artifact_resolution_insert`. -/
  | resolutionRefused
  /-- `ErrVerificationWorkConflict` of `recordChunkArtifactResolutionTx`. -/
  | resolutionConflict
  /-- `ErrJobVerificationPending`. -/
  | verificationPending
  | notCancellable
  /-- `ErrJobNotFinalizable`. -/
  | notFinalizable
  | notRequeueable
  | notOwner
  | currencyMismatch
  deriving DecidableEq

structure TaskChange where
  apply : TaskRow → TaskRow
  kept : ∀ task, (apply task).toTaskTerms = task.toTaskTerms

structure JobChange where
  apply : JobRow → JobRow
  kept : ∀ job, (apply job).toJobTerms = job.toJobTerms

def TaskChange.toChange (change : TaskChange) : Table.Change fun task : TaskRow => task.id where
  apply := change.apply
  kept := fun task => congrArg TaskTerms.id (change.kept task)

def JobChange.toChange (change : JobChange) : Table.Change fun job : JobRow => job.id where
  apply := change.apply
  kept := fun job => congrArg JobTerms.id (change.kept job)

namespace Board

def updateTasks (board : Board) (selected : TaskRow → Bool)
    (change : TaskChange) : Except Failure Board :=
  match board.tasks.updateAllowed
      (fun before after => before.status.mayBecome after.status) selected
      change.toChange with
  | none => .error .illegalTransition
  | some tasks => .ok { board with tasks }

def updateJobs (board : Board) (selected : JobRow → Bool)
    (change : JobChange) : Except Failure Board :=
  match board.jobs.updateAllowed (fun before after => before.status.mayBecome after.status) selected
      change.toChange with
  | none => .error .illegalTransition
  | some jobs => .ok { board with jobs }

def insertTask (board : Board) (task : TaskRow) : Except Failure Board :=
  match board.tasks.insertNew task with
  | none => .error .taken
  | some tasks => .ok { board with tasks }

def insertJob (board : Board) (job : JobRow) : Except Failure Board :=
  match board.jobs.insertNew job with
  | none => .error .taken
  | some jobs => .ok { board with jobs }

def jobOfTask (board : Board) (taskId : Uuid) : Option Uuid :=
  (board.tasks.find? taskId).map fun task => task.jobId

variable {board next : Board}

theorem updateTasks_ok {selected : TaskRow → Bool} {change : TaskChange}
    (ran : board.updateTasks selected change = .ok next) :
    (∀ task ∈ board.tasks.rows, selected task = true →
      task.status.mayBecome (change.apply task).status = true) ∧
    next = { board with tasks := board.tasks.update selected change.toChange } := by
  unfold updateTasks at ran
  split at ran
  · cases ran
  next tasks found =>
    obtain ⟨allowed, rfl⟩ := updateAllowed_eq_some.mp found
    exact ⟨allowed, (Except.ok.inj ran).symm⟩

theorem updateJobs_ok {selected : JobRow → Bool} {change : JobChange}
    (ran : board.updateJobs selected change = .ok next) :
    (∀ job ∈ board.jobs.rows, selected job = true →
      job.status.mayBecome (change.apply job).status = true) ∧
    next = { board with jobs := board.jobs.update selected change.toChange } := by
  unfold updateJobs at ran
  split at ran
  · cases ran
  next jobs found =>
    obtain ⟨allowed, rfl⟩ := updateAllowed_eq_some.mp found
    exact ⟨allowed, (Except.ok.inj ran).symm⟩

theorem insertTask_ok {task : TaskRow} (ran : board.insertTask task = .ok next) :
    ∃ fresh : board.tasks.find? task.id = none,
      next = { board with tasks := board.tasks.insert task fresh } := by
  unfold insertTask at ran
  split at ran
  · cases ran
  next tasks found =>
    obtain ⟨fresh, rfl⟩ := insertNew_eq_some.mp found
    exact ⟨fresh, (Except.ok.inj ran).symm⟩

end Board

end MercControl.Verification
