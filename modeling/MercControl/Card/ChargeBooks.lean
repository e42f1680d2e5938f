import MercControl.Money.BuyerOperations

/-!
# The rows behind a buyer's card charges

Terminal jobs are collected from the saved card, alone or in a batch.  The
functions are single transactions on the charge columns, under
`cx_guard_lifecycle_transition`.

`requests` is no table: it lists the provider requests that were issued, with
the record that one was definitely rejected.
-/

namespace MercControl.Card

open Library
open Money (JobId micros)

abbrev BatchId := Nat
abbrev PaymentMethod := Nat
abbrev ProviderId := Nat

inductive ChargeStatus where
  | notAttempted
  | deferred
  | noPaymentMethod
  | failed
  | manualReview
  | outcomeUnknown
  | charged
  | abandoned
  deriving DecidableEq

/-- The `job_charge` rows of `lifecycle_transitions`. -/
def chargeTransitions : List (ChargeStatus × ChargeStatus) :=
  [(.notAttempted, .deferred), (.notAttempted, .charged),
   (.notAttempted, .failed), (.notAttempted, .noPaymentMethod),
   (.notAttempted, .outcomeUnknown),
   (.deferred, .notAttempted), (.deferred, .charged), (.deferred, .failed),
   (.deferred, .noPaymentMethod), (.deferred, .outcomeUnknown),
   (.noPaymentMethod, .deferred), (.noPaymentMethod, .outcomeUnknown),
   (.failed, .notAttempted), (.failed, .charged), (.failed, .outcomeUnknown),
   (.failed, .manualReview), (.failed, .deferred),
   (.manualReview, .deferred), (.manualReview, .charged),
   (.manualReview, .abandoned),
   (.outcomeUnknown, .charged), (.outcomeUnknown, .failed),
   (.outcomeUnknown, .deferred), (.outcomeUnknown, .manualReview)]

inductive BatchStatus where
  | attempting
  | outcomeUnknown
  | charged
  | manualReview
  deriving DecidableEq

/-- The `charge_batch` rows of `lifecycle_transitions`. -/
def batchTransitions : List (BatchStatus × BatchStatus) :=
  [(.attempting, .charged), (.attempting, .outcomeUnknown), (.attempting, .manualReview),
   (.outcomeUnknown, .attempting), (.outcomeUnknown, .charged),
   (.outcomeUnknown, .manualReview),
   (.manualReview, .attempting)]

/-- `cx_guard_lifecycle_transition`. -/
def mayBecome {Status : Type} [DecidableEq Status]
    (transitions : List (Status × Status)) (before after : Status) : Bool :=
  before == after || transitions.contains (before, after)

inductive OperationStatus where
  | outcomeUnknown
  | failed
  | succeeded
  deriving DecidableEq

/-- What an operation charges.  Its key is `job-<id>` or `cxbatch-<id>`. -/
inductive Source where
  | job (job : JobId)
  | batch (batch : BatchId)
  deriving DecidableEq

structure Cash where
  paymentIntent : ProviderId
  chargeId : ProviderId
  deriving DecidableEq

/-- `stripe_pi` with the requested and received cents, which are equal. -/
structure Collected where
  paymentIntent : ProviderId
  cents : Int
  deriving DecidableEq

structure JobCharge where
  job : JobId
  actualMicros : Int
  /-- `charge_status`. -/
  status : ChargeStatus
  /-- `charge_attempts`. -/
  attempts : Nat
  /-- `charge_attempt_usd`. -/
  frozenMicros : Option Int
  billedMicros : Option Int
  /-- `charge_batch_id`. -/
  batch : Option BatchId
  cash : Option Collected

/-- A `charge_batches` row. -/
structure Batch where
  batch : BatchId
  amountMicros : Int
  status : BatchStatus
  attempts : Nat
  cash : Option Collected

/-- A `buyer_charge_operations` row. -/
structure Operation where
  source : Source
  amountCents : Int
  paymentMethod : PaymentMethod
  status : OperationStatus
  /-- `provider_attempt`. -/
  attempt : Nat
  cash : Option Cash

structure Collection where
  cash : Cash
  source : Source
  cents : Int
  deriving DecidableEq

/-- A provider request; its key is made of the source and the attempt. -/
structure Request where
  source : Source
  attempt : Nat
  rejected : Bool

structure Books where
  ledger : Money.State
  jobs : Table JobCharge.job
  batches : Table Batch.batch
  operations : Table Operation.source
  collections : List Collection
  requests : List Request

def Books.opened (freeMicros : Int) : Books where
  ledger := .opened freeMicros
  jobs := .empty
  batches := .empty
  operations := .empty
  collections := []
  requests := []

inductive Failure where
  | ledger (failure : Money.Failure)
  | notFound
  | illegalTransition
  | invalidAmount
  | alreadyCharged
  | alreadyExists
  | lostBoundary
  | conflictingOperation
  | invalidAttempt
  | notArmed
  | notFailed
  | operationNotFound
  | conflictingCash
  | cannotConfirm
  | nothingToCollect
  | noCall

def chargeMaxAttempts : Nat := 8

def JobCharge.setStatus (status : ChargeStatus) : Table.Change JobCharge.job where
  apply := fun row => { row with status }
  kept := fun _ => rfl

def JobCharge.setActual (actualMicros : Int) : Table.Change JobCharge.job where
  apply := fun row => { row with actualMicros }
  kept := fun _ => rfl

/-- `charge_attempt_usd`, with `billed_usd` if it is not there yet. -/
def JobCharge.freeze (amountMicros : Int) : Table.Change JobCharge.job where
  apply := fun row =>
    { row with
      frozenMicros := some amountMicros
      billedMicros := some (row.billedMicros.getD amountMicros) }
  kept := fun _ => rfl

def JobCharge.joinBatch (batch : BatchId) (due : JobCharge → Int) : Table.Change JobCharge.job where
  apply := fun row => { row with batch := some batch, billedMicros := some (due row) }
  kept := fun _ => rfl

def JobCharge.countAttempt : Table.Change JobCharge.job where
  apply := fun row =>
    { row with
      attempts := row.attempts + 1
      status :=
        if chargeMaxAttempts ≤ row.attempts + 1 then .manualReview else row.status }
  kept := fun _ => rfl

def JobCharge.collect (collected : Collected) : Table.Change JobCharge.job where
  apply := fun row => { row with status := .charged, cash := some collected }
  kept := fun _ => rfl

def Batch.setStatus (status : BatchStatus) : Table.Change Batch.batch where
  apply := fun row => { row with status }
  kept := fun _ => rfl

def Batch.countAttempt : Table.Change Batch.batch where
  apply := fun row => { row with attempts := row.attempts + 1 }
  kept := fun _ => rfl

def Batch.review : Table.Change Batch.batch where
  apply := fun row => { row with attempts := row.attempts + 1, status := .manualReview }
  kept := fun _ => rfl

def Batch.collect (collected : Collected) : Table.Change Batch.batch where
  apply := fun row => { row with status := .charged, cash := some collected }
  kept := fun _ => rfl

def changeJobs (b : Books) (selected : JobCharge → Bool)
    (change : Table.Change JobCharge.job) : Except Failure Books :=
  match b.jobs.updateAllowed
      (fun before after => mayBecome chargeTransitions before.status after.status)
      selected change with
  | none => .error .illegalTransition
  | some jobs => .ok { b with jobs }

def changeBatch (b : Books) (batch : BatchId)
    (change : Table.Change Batch.batch) : Except Failure Books :=
  match b.batches.updateAllowed
      (fun before after => mayBecome batchTransitions before.status after.status)
      (·.batch == batch) change with
  | none => .error .illegalTransition
  | some batches => .ok { b with batches }

def firmCapped (firm : Option Int) (actual : Int) : Int :=
  match firm with
  | none => actual
  | some firm => if 0 < firm ∧ firm < actual then firm else actual

def firmChargeAmount (row : JobCharge) (job : Money.Job) : Int :=
  max 0 (firmCapped job.plan.firmMicros row.actualMicros - micros job.slaRefund - job.debitedMicros)

def jobChargeInfo (row : JobCharge) (job : Money.Job) : Int :=
  let charge := firmCapped job.plan.firmMicros row.actualMicros
  let netOfRefund :=
    if 0 < micros job.slaRefund then max 0 (charge - micros job.slaRefund) else charge
  if 0 < job.debitedMicros then max 0 (netOfRefund - job.debitedMicros) else netOfRefund

def Books.dueMicros (b : Books) (row : JobCharge) : Int :=
  match b.ledger.jobs.find? row.job with
  | none => 0
  | some job => firmChargeAmount row job

def setChargeStatus (b : Books) (job : JobId) (status : ChargeStatus) : Except Failure Books :=
  changeJobs b (·.job == job) (JobCharge.setStatus status)

def markJobDeferred (b : Books) (job : JobId) : Except Failure Books :=
  changeJobs b (fun row => row.job == job && row.status == .notAttempted)
    (JobCharge.setStatus .deferred)

def freezeChargeAmount (b : Books) (job : JobId) (amountMicros : Int) : Except Failure Books :=
  changeJobs b (fun row => row.job == job && row.frozenMicros.isNone)
    (JobCharge.freeze amountMicros)

def reflipNoCardJobs (b : Books) : Except Failure Books :=
  changeJobs b
    (fun row => row.status == .noPaymentMethod && row.batch.isNone && decide (0 < b.dueMicros row))
    (JobCharge.setStatus .deferred)

def markBuyerDeferredNoCard (b : Books) : Except Failure Books :=
  changeJobs b (fun row => row.status == .deferred && row.batch.isNone)
    (JobCharge.setStatus .noPaymentMethod)

def stripeMinChargeMicros : Int := 500000

/-- The jobs `FormChargeBatch` locks, oldest first. -/
def Books.batchCandidates (b : Books) : List JobCharge :=
  (b.jobs.rows.filter fun row =>
    row.status == .deferred && row.batch.isNone && decide (0 < b.dueMicros row)).take 500

/-- The batch and what each member is billed. -/
def formChargeBatch (b : Books) (batch : BatchId) : Except Failure Books :=
  let candidates := b.batchCandidates
  let amountMicros := Rows.sumWhere (fun _ => true) b.dueMicros candidates
  if candidates.isEmpty ∨ amountMicros < stripeMinChargeMicros then .error .nothingToCollect
  else if fresh : b.batches.find? batch = none then
    changeJobs
      { b with
        batches := b.batches.insert
          { batch, amountMicros, status := .attempting, attempts := 0, cash := none } fresh }
      (fun row => candidates.any (·.job == row.job))
      (JobCharge.joinBatch batch b.dueMicros)
  else .error .alreadyExists

def advanceFailedChargeRetry (b : Books) (job : JobId) : Except Failure Books :=
  if b.jobs.rows.any fun row => row.job == job && row.status == .failed then
    changeJobs b (fun row => row.job == job && row.status == .failed) JobCharge.countAttempt
  else .error .notFailed

def markChargeManualReview (b : Books) (job : JobId) : Except Failure Books :=
  if b.jobs.rows.any fun row => row.job == job && row.status == .failed then
    changeJobs b (fun row => row.job == job && row.status == .failed)
      (JobCharge.setStatus .manualReview)
  else .error .notFailed

def BatchStatus.isOpen (status : BatchStatus) : Bool :=
  status == .attempting || status == .outcomeUnknown

/-- After the last attempt the batch and its unsettled members go to manual
review. -/
def bumpChargeBatchRetry (b : Books) (batch : BatchId) : Except Failure Books :=
  match b.batches.find? batch with
  | none => .error .notFound
  | some row =>
    if !row.status.isOpen then .error .notFound
    else if chargeMaxAttempts ≤ row.attempts + 1 then do
      let reviewed ← changeBatch b batch Batch.review
      changeJobs reviewed
        (fun row =>
          row.batch == some batch && (row.status == .outcomeUnknown || row.status == .failed))
        (JobCharge.setStatus .manualReview)
    else changeBatch b batch Batch.countAttempt

def issueRequest (b : Books) (operation : Operation) : Books :=
  { b with requests := b.requests ++ [⟨operation.source, operation.attempt, false⟩] }

def insertOperation (b : Books) (source : Source) (amountCents : Int)
    (paymentMethod : PaymentMethod) (fresh : b.operations.find? source = none) : Books :=
  let operation : Operation :=
    { source, amountCents, paymentMethod, status := .outcomeUnknown, attempt := 1, cash := none }
  issueRequest { b with operations := b.operations.insert operation fresh } operation

def rearmOperation (b : Books) (operation : Operation) (paymentMethod : PaymentMethod) : Books :=
  let rearmed : Operation :=
    { operation with status := .outcomeUnknown, paymentMethod, attempt := operation.attempt + 1 }
  issueRequest { b with operations := b.operations.set rearmed } rearmed

/-- The checks on an operation that exists already; only a failed one is
retried. -/
def checkRetry (operation : Operation) (amountCents : Int)
    (paymentMethod : PaymentMethod) : Except Failure Unit :=
  if (operation.status ≠ .failed ∧ operation.paymentMethod ≠ paymentMethod) ∨
      operation.amountCents ≠ amountCents then
    .error .conflictingOperation
  else if operation.status ≠ .failed then .error .notArmed
  else if 2 ^ 30 ≤ operation.attempt then .error .invalidAttempt
  else .ok ()

/-- `BeginBuyerChargeOperation` for a job. -/
def beginJobCharge (b : Books) (job : JobId) (amountCents : Int)
    (paymentMethod : PaymentMethod) : Except Failure Books :=
  match b.jobs.find? job with
  | none => .error .notFound
  | some row =>
    if amountCents ≤ 0 then .error .invalidAmount
    else if row.status = .charged then .error .alreadyCharged
    else if fresh : b.operations.find? (.job job) = none then
      setChargeStatus (insertOperation b (.job job) amountCents paymentMethod fresh) job
        .outcomeUnknown
    else
      match b.operations.find? (.job job) with
      | none => .error .notFound
      | some operation => do
          checkRetry operation amountCents paymentMethod
          if row.status = .failed then
            setChargeStatus (rearmOperation b operation paymentMethod) job .outcomeUnknown
          else .error .notFailed

/-- `BeginBuyerChargeOperation` for a batch.  A retry leaves the batch
`attempting`. -/
def beginBatchCharge (b : Books) (batch : BatchId) (amountCents : Int)
    (paymentMethod : PaymentMethod) : Except Failure Books :=
  match b.batches.find? batch with
  | none => .error .notFound
  | some row =>
    if amountCents ≤ 0 then .error .invalidAmount
    else if row.status = .charged then .error .alreadyCharged
    else if fresh : b.operations.find? (.batch batch) = none then
      if row.status ≠ .attempting then .error .lostBoundary
      else do
        let marked ←
          changeBatch (insertOperation b (.batch batch) amountCents paymentMethod fresh)
            batch (Batch.setStatus .outcomeUnknown)
        changeJobs marked (fun row => row.batch == some batch && row.status != .charged)
          (JobCharge.setStatus .outcomeUnknown)
    else
      match b.operations.find? (.batch batch) with
      | none => .error .notFound
      | some operation => do
          checkRetry operation amountCents paymentMethod
          if row.status.isOpen then
            changeBatch (rearmOperation b operation paymentMethod) batch
              (Batch.setStatus .attempting)
          else .error .notFailed

def beginBuyerChargeOperation (b : Books) (source : Source)
    (amountCents : Int) (paymentMethod : PaymentMethod) :
    Except Failure Books :=
  match source with
  | .job job => beginJobCharge b job amountCents paymentMethod
  | .batch batch => beginBatchCharge b batch amountCents paymentMethod

def rejectOperation (b : Books) (operation : Operation) : Books :=
  { b with
    operations := b.operations.set { operation with status := .failed }
    requests := b.requests.map fun request =>
      if request.source = operation.source ∧ request.attempt = operation.attempt then
        { request with rejected := true }
      else request }

def markBuyerChargeDefinitelyFailed (b : Books) (source : Source) : Except Failure Books :=
  match b.operations.find? source with
  | none => .error .notFound
  | some operation =>
    if operation.status = .failed then .ok b
    else if operation.status = .succeeded then .error .notFailed
    else
      match source with
      | .job job =>
        match b.jobs.find? job with
        | none => .error .notFound
        | some row =>
          if row.status = .outcomeUnknown ∨ row.status = .failed then
            setChargeStatus (rejectOperation b operation) job .failed
          else .error .notFailed
      | .batch batch =>
        match b.batches.find? batch with
        | none => .error .notFound
        | some row =>
          if row.status.isOpen then
            changeBatch (rejectOperation b operation) batch (Batch.setStatus .attempting)
          else .error .notFailed

/-- The `eligible` conditions on the operation. -/
def operationAccepts (operation : Option Operation) (cash : Cash) (cents : Int) : Bool :=
  match operation with
  | none => true
  | some operation =>
    operation.amountCents == cents &&
      (operation.status == .outcomeUnknown ||
        (operation.status == .succeeded && operation.cash == some cash))

/-- `INSERT INTO buyer_cash_collections ... ON CONFLICT (payment_intent)`: the
same row is no change, any other conflict is refused. -/
def recordCollection (collections : List Collection) (row : Collection) :
    Except Failure (List Collection) :=
  match collections.find? (·.cash.paymentIntent == row.cash.paymentIntent) with
  | some recorded =>
    if recorded = row then .ok collections else .error .conflictingCash
  | none =>
    if collections.any fun recorded =>
        recorded.cash.chargeId == row.cash.chargeId || recorded.source == row.source then
      .error .conflictingCash
    else .ok (collections ++ [row])

/-- `operation_updated`. -/
def settleOperation (b : Books) (operation : Option Operation) (cash : Cash) : Books :=
  match operation with
  | none => b
  | some operation =>
    if operation.status = .outcomeUnknown then
      { b with
        operations := b.operations.set { operation with status := .succeeded, cash := some cash } }
    else b

/-- What both confirmations share: the operation agrees, the cash is recorded,
the operation settles. -/
def recordCash (b : Books) (source : Source) (cash : Cash) (cents : Int)
    (requireOperation : Bool) : Except Failure Books :=
  let operation := b.operations.find? source
  if cents ≤ 0 then .error .invalidAmount
  else if requireOperation && operation.isNone then .error .operationNotFound
  else if !operationAccepts operation cash cents then .error .conflictingOperation
  else do
    let collections ← recordCollection b.collections ⟨cash, source, cents⟩
    .ok (settleOperation { b with collections } operation cash)

def confirmJobCharge (b : Books) (job : JobId) (cash : Cash) (cents : Int)
    (requireOperation : Bool) : Except Failure Books :=
  match b.jobs.find? job with
  | none => .error .notFound
  | some row =>
    if row.status = .charged ∧ row.cash ≠ some ⟨cash.paymentIntent, cents⟩ then
      .error .cannotConfirm
    else do
      let recorded ← recordCash b (.job job) cash cents requireOperation
      if row.status = .charged then .ok recorded
      else changeJobs recorded (·.job == job) (JobCharge.collect ⟨cash.paymentIntent, cents⟩)

/-- `confirmBatchChargeSQL` with `validateChargeConfirmation`: the batch and
all its members become charged. -/
def confirmBatchCharge (b : Books) (batch : BatchId) (cash : Cash)
    (cents : Int) (requireOperation : Bool) : Except Failure Books :=
  match b.batches.find? batch with
  | none => .error .notFound
  | some row =>
    if row.status = .charged then
      if row.cash ≠ some ⟨cash.paymentIntent, cents⟩ then .error .cannotConfirm
      else recordCash b (.batch batch) cash cents requireOperation
    else if !row.status.isOpen then .error .cannotConfirm
    else do
      let recorded ← recordCash b (.batch batch) cash cents requireOperation
      let settled ← changeBatch recorded batch (Batch.collect ⟨cash.paymentIntent, cents⟩)
      changeJobs settled (·.batch == some batch) (JobCharge.setStatus .charged)

def confirmCharge (b : Books) (source : Source) (cash : Cash) (cents : Int)
    (requireOperation : Bool) : Except Failure Books :=
  match source with
  | .job job => confirmJobCharge b job cash cents requireOperation
  | .batch batch => confirmBatchCharge b batch cash cents requireOperation

end MercControl.Card
