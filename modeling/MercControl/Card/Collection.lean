import MercControl.Card.ChargeBooks

/-!
# Collecting from the card

`chargeOrDeferJob`, `retryFailedSingle` and `chargeBatch` read, decide and
write in several transactions and processes, so a call is a state of its own.
The other writers are the deferred-charge sweep, the webhook that reconciles an
operation, and the ledger.
-/

namespace MercControl.Card

open Library
open Money (JobId)

abbrev ProcessId := Nat

/-- `chargeMinUSD` and the minor unit of the settlement currency. -/
structure Config where
  thresholdMicros : Int
  microsPerMinor : Int

def Config.majorToMinor (config : Config) (amountMicros : Int) : Int :=
  (amountMicros + config.microsPerMinor / 2) / config.microsPerMinor

inductive Caller where
  | chargeOrDeferJob
  | retryFailedSingle
  | chargeBatch

inductive Phase where
  | priced
  /-- The status was read as `not_attempted`. -/
  | checked
  /-- In `chargeBuyer`, before the request boundary. -/
  | charging
  /-- The request boundary is crossed. -/
  | sent
  /-- `chargeBuyer` returned an error that is not an unknown outcome. -/
  | failing
  deriving DecidableEq

structure Call where
  caller : Caller
  source : Source
  amountMicros : Int
  /-- The SLA refund that `JobChargeInfo` subtracted. -/
  slaRefundMicros : Int
  phase : Phase

structure State where
  books : Books
  calls : ProcessId → Option Call

def State.opened (freeMicros : Int) : State where
  books := .opened freeMicros
  calls := fun _ => none

def JobCharge.submitted (job : JobId) : JobCharge where
  job
  actualMicros := 0
  status := .notAttempted
  attempts := 0
  frozenMicros := none
  billedMicros := none
  batch := none
  cash := none

def setActual (b : Books) (job : JobId) (amount : Money.Job → Int) : Books :=
  match b.ledger.jobs.find? job with
  | none => b
  | some row => { b with jobs := b.jobs.update (·.job == job) (JobCharge.setActual (amount row)) }

/-- What the transactions of the ledger write to the charge columns. -/
def recordLedgerEvent (b : Books) : Money.Event → Books
  | .submitJob job _ _ _ =>
    if fresh : b.jobs.find? job = none then { b with jobs := b.jobs.insert (.submitted job) fresh }
    else b
  | .finalizeJob job => setActual b job Money.Job.chargedMicros
  | .moveJob job .failed => setActual b job fun row => row.tasks.total Money.TaskLedger.charge
  | _ => b

def applyLedger (b : Books) (event : Money.Event) : Except Failure Books :=
  match Money.step b.ledger event with
  | .error failure => .error (.ledger failure)
  | .ok ledger => .ok (recordLedgerEvent { b with ledger } event)

/-- `SetJobActualUSD`, after a stuck job was cancelled. -/
def setJobActualUSD (b : Books) (job : JobId) : Except Failure Books :=
  match b.ledger.jobs.find? job with
  | none => .error .notFound
  | some row =>
    if row.status = .cancelled then .ok (setActual b job Money.Job.chargedMicros)
    else .error .notFound

def State.begin (s : State) (process : ProcessId) (call : Call) : Except Failure State :=
  if (s.calls process).isSome then .error .noCall
  else .ok { s with calls := Function.update s.calls process (some call) }

/-- A transaction of a call in the given phase; `phase` is where the call goes
from there, `none` ends it. -/
def State.advance (s : State) (process : ProcessId) (current : Phase)
    (body : Call → Except Failure (Books × Option Phase)) :
    Except Failure State :=
  match s.calls process with
  | none => .error .noCall
  | some call =>
    if call.phase ≠ current then .error .noCall
    else
      match body call with
      | .error failure => .error failure
      | .ok (books, phase) =>
        .ok
          { books
            calls := Function.update s.calls process (phase.map fun phase => { call with phase }) }

/-- A transaction on the books, after which the call goes on in `phase`. -/
def thenPhase (books : Except Failure Books) (phase : Option Phase) :
    Except Failure (Books × Option Phase) :=
  books.map fun books => (books, phase)

/-- `JobChargeInfo`, the first read of `chargeOrDeferJob`. -/
def startCharge (s : State) (process : ProcessId) (job : JobId) : Except Failure State :=
  match s.books.jobs.find? job, s.books.ledger.jobs.find? job with
  | some row, some ledgerRow =>
    let amountMicros := jobChargeInfo row ledgerRow
    if amountMicros ≤ 0 then .error .nothingToCollect
    else
      s.begin process
        { caller := .chargeOrDeferJob, source := .job job, amountMicros,
          slaRefundMicros := Money.micros ledgerRow.slaRefund,
          phase := .priced }
  | _, _ => .error .notFound

/-- `JobChargeStatus`, the second read. -/
def checkStatus (s : State) (process : ProcessId) : Except Failure State :=
  s.advance process .priced fun call =>
    match call.source with
    | .batch _ => .error .notFound
    | .job job =>
      match s.books.jobs.find? job with
      | none => .error .notFound
      | some row =>
        if row.status = .notAttempted then .ok (s.books, some .checked) else .ok (s.books, none)

/-- A write of `chargeOrDeferJob` after its reads.  Small amounts are deferred
and nothing else. -/
def decideCharge (config : Config) (s : State) (process : ProcessId) (small : Bool)
    (write : JobId → Int → Except Failure Books) (phase : Option Phase) : Except Failure State :=
  s.advance process .checked fun call =>
    match call.source with
    | .batch _ => .error .notFound
    | .job job =>
      if decide (call.amountMicros < config.thresholdMicros) = small then
        thenPhase (write job call.amountMicros) phase
      else .error .noCall

def deferCharge (config : Config) (s : State) (process : ProcessId) : Except Failure State :=
  decideCharge config s process true (fun job _ => markJobDeferred s.books job) none

/-- No saved card. -/
def parkCharge (config : Config) (s : State) (process : ProcessId) : Except Failure State :=
  decideCharge config s process false
    (fun job _ => setChargeStatus s.books job .noPaymentMethod) none

def freezeCharge (config : Config) (s : State) (process : ProcessId) : Except Failure State :=
  decideCharge config s process false
    (fun job amountMicros => freezeChargeAmount s.books job amountMicros)
    (some .charging)

/-- `retryFailedSingle` on a job of `FailedChargesDue`, with
`JobFrozenChargeInfo`. -/
def startRetry (s : State) (process : ProcessId) (job : JobId) : Except Failure State :=
  match s.books.jobs.find? job with
  | none => .error .notFound
  | some row =>
    let amountMicros := row.frozenMicros.getD row.actualMicros
    if row.status ≠ .failed ∨ amountMicros ≤ 0 then .error .nothingToCollect
    else
      s.begin process
        { caller := .retryFailedSingle, source := .job job, amountMicros,
          slaRefundMicros := 0, phase := .charging }

/-- `chargeBatch` on a batch of `AttemptingChargeBatches` or one just
formed. -/
def startBatch (s : State) (process : ProcessId) (batch : BatchId) : Except Failure State :=
  match s.books.batches.find? batch with
  | none => .error .notFound
  | some row =>
    if row.status ≠ .attempting then .error .nothingToCollect
    else
      s.begin process
        { caller := .chargeBatch, source := .batch batch,
          amountMicros := row.amountMicros, slaRefundMicros := 0,
          phase := .charging }

/-- `chargeBuyer` gives up before the request boundary: no customer, no saved
card, no payment authority, or an error of `BeginBuyerChargeOperation`. -/
def refuseCharge (s : State) (process : ProcessId) : Except Failure State :=
  s.advance process .charging fun _ => .ok (s.books, some .failing)

def beginCharge (config : Config) (s : State) (process : ProcessId)
    (paymentMethod : PaymentMethod) : Except Failure State :=
  s.advance process .charging fun call =>
    thenPhase
      (beginBuyerChargeOperation s.books call.source
        (config.majorToMinor call.amountMicros) paymentMethod)
      (some .sent)

/-- The provider definitely rejected the request, and that was recorded. -/
def rejectCharge (s : State) (process : ProcessId) : Except Failure State :=
  s.advance process .sent fun call =>
    thenPhase (markBuyerChargeDefinitelyFailed s.books call.source) (some .failing)

/-- The provider answered with the payment: `SetJobCharged` or
`MarkChargeBatchCharged`. -/
def confirmSent (config : Config) (s : State) (process : ProcessId)
    (cash : Cash) : Except Failure State :=
  s.advance process .sent fun call =>
    thenPhase (confirmCharge s.books call.source cash (config.majorToMinor call.amountMicros) false)
      none

def failedCharge (b : Books) (call : Call) : Except Failure Books :=
  match call.caller, call.source with
  | .chargeOrDeferJob, .job job => setChargeStatus b job .failed
  | .retryFailedSingle, .job job => advanceFailedChargeRetry b job
  | .chargeBatch, .batch batch => bumpChargeBatchRetry b batch
  | _, _ => .error .noCall

def failCharge (s : State) (process : ProcessId) : Except Failure State :=
  s.advance process .failing fun call => thenPhase (failedCharge s.books call) none

/-- The call ends without a further write: unknown outcome, logged error, or a
dead process. -/
def dropCall (s : State) (process : ProcessId) : Except Failure State :=
  match s.calls process with
  | none => .error .noCall
  | some _ => .ok { s with calls := Function.update s.calls process none }

inductive Event where
  | ledger (event : Money.Event)
  | setJobActualUSD (job : JobId)
  | startCharge (process : ProcessId) (job : JobId)
  | checkStatus (process : ProcessId)
  | deferCharge (process : ProcessId)
  | parkCharge (process : ProcessId)
  | freezeCharge (process : ProcessId)
  | startRetry (process : ProcessId) (job : JobId)
  | startBatch (process : ProcessId) (batch : BatchId)
  | refuseCharge (process : ProcessId)
  | beginCharge (process : ProcessId) (paymentMethod : PaymentMethod)
  | rejectCharge (process : ProcessId)
  | confirmSent (process : ProcessId) (cash : Cash)
  | failCharge (process : ProcessId)
  | dropCall (process : ProcessId)
  | reconcile (source : Source) (cash : Cash) (cents : Int)
  | markChargeManualReview (job : JobId)
  | reflipNoCardJobs
  | markBuyerDeferredNoCard
  | formChargeBatch (batch : BatchId)

def State.write (s : State) (books : Except Failure Books) : Except Failure State :=
  books.map fun books => { s with books }

def step (config : Config) (s : State) : Event → Except Failure State
  | .ledger event => s.write (applyLedger s.books event)
  | .setJobActualUSD job => s.write (setJobActualUSD s.books job)
  | .startCharge process job => startCharge s process job
  | .checkStatus process => checkStatus s process
  | .deferCharge process => deferCharge config s process
  | .parkCharge process => parkCharge config s process
  | .freezeCharge process => freezeCharge config s process
  | .startRetry process job => startRetry s process job
  | .startBatch process batch => startBatch s process batch
  | .refuseCharge process => refuseCharge s process
  | .beginCharge process paymentMethod => beginCharge config s process paymentMethod
  | .rejectCharge process => rejectCharge s process
  | .confirmSent process cash => confirmSent config s process cash
  | .failCharge process => failCharge s process
  | .dropCall process => dropCall s process
  | .reconcile source cash cents => s.write (confirmCharge s.books source cash cents true)
  | .markChargeManualReview job => s.write (markChargeManualReview s.books job)
  | .reflipNoCardJobs => s.write (reflipNoCardJobs s.books)
  | .markBuyerDeferredNoCard => s.write (markBuyerDeferredNoCard s.books)
  | .formChargeBatch batch => s.write (formChargeBatch s.books batch)

def cardPlan : Money.Plan where
  perTaskMicros := 6000000
  taskLimit := 1
  premiumMicros := 0
  slaGuaranteeSecs := 0
  firmMicros := none
  perTask_pos := by decide
  premium_nonneg := by decide

def fiveDollars : Config where
  thresholdMicros := 5000000
  microsPerMinor := 10000

def completedCardJob (job : JobId) (chargeMicros : Int) : List Event :=
  (Money.completedJob job false cardPlan chargeMicros).map .ledger

def deferredBy (process : ProcessId) (job : JobId) : List Event :=
  [.startCharge process job, .checkStatus process, .deferCharge process]

end MercControl.Card
