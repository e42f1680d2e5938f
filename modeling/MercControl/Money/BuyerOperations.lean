import MercControl.Library.Machine
import MercControl.Money.BuyerLedger

/-!
# The transactions that move a buyer's money

Batch jobs on the prepaid and on the free-credit rail, the SLA settlement,
disputes, and the realtime lane.  The transactions of one buyer are serialised
by its row and advisory locks, so each is one step.
-/

namespace MercControl.Money

open Library

inductive Failure where
  | notFound
  | alreadyExists
  | invalidAmount
  | insufficientPrepaid
  | insufficientFreeCredit
  | insufficientFunds
  | jobNotLive
  | economicReserveExhausted
  | chargeConflict
  | disputeJobNotTerminal
  | disputeAlreadyActive
  | disputeAlreadyResolved
  | overRefunded
  | prepaidMismatch
  | restoreRefused
  | causalRefundRequired
  | alreadyFinalized
  | aboveCeiling
  | notRefundable
  | refundNeedsReversal

def creditPrepaidTopup (s : State) (amountMicros : Int) : Except Failure State :=
  if amountMicros ≤ 0 then .error .invalidAmount
  else .ok { s with balanceMicros := s.balanceMicros + amountMicros }

def reservePrepaidForJob (s : State) (amountMicros : Int) : Except Failure Unit :=
  if amountMicros ≤ 0 then .error .invalidAmount
  else if s.balanceMicros - s.openPrepaidJobResidualMicros -
      s.executingCeilingMicros < amountMicros then
    .error .insufficientPrepaid
  else .ok ()

/-- A buyer with a saved payment method is not on the free-credit rail. -/
def reserveFreeCreditForJob (s : State) (hasPaymentMethod : Bool) (needMicros : Int) :
    Except Failure Unit :=
  if needMicros ≤ 0 then .error .invalidAmount
  else if !hasPaymentMethod ∧ s.freeMicros - s.spentMicros - s.committedMicros < needMicros then
    .error .insufficientFreeCredit
  else .ok ()

def Job.submitted (job : JobId) (prepaidRequired : Bool) (plan : Plan) : Job where
  job
  prepaidRequired
  plan
  status := .queued
  slaMet := none
  tasks := .empty
  premiumCharge := none
  premiumDebit := none
  slaRefund := none
  balanceReturn := none
  premiumRefunds := []
  receipts := []

/-- The reservation `SubmitJobTx` makes before it inserts the job. -/
def reserveForJob (s : State) (prepaidRequired hasPaymentMethod : Bool) (plan : Plan) :
    Except Failure Unit :=
  if prepaidRequired then reservePrepaidForJob s plan.reservedMicros
  else reserveFreeCreditForJob s hasPaymentMethod plan.reservedMicros

/-- The money part of `SubmitJobTx`. -/
def submitJob (s : State) (job : JobId) (prepaidRequired hasPaymentMethod : Bool)
    (plan : Plan) : Except Failure State :=
  match reserveForJob s prepaidRequired hasPaymentMethod plan with
  | .error failure => .error failure
  | .ok () =>
    if fresh : s.jobs.find? job = none then
      .ok { s with jobs := s.jobs.insert (.submitted job prepaidRequired plan) fresh }
    else .error .alreadyExists

/-- A debit of the materialised balance for a settled charge, if the job is on
the prepaid rail. -/
def debitPrepaid (s : State) (prepaidRequired : Bool) (amountMicros : Int) :
    Except Failure (Option Int × Int) :=
  if prepaidRequired then
    if s.balanceMicros < amountMicros then .error .insufficientPrepaid
    else .ok (some amountMicros, s.balanceMicros - amountMicros)
  else .ok (none, s.balanceMicros)

/-- A verified task of a live job settles: `buyer_charge`, and an equal
`prepaid_debit` on the prepaid rail. -/
def settleTask (s : State) (job : JobId) (task : TaskId) (chargeMicros : Int) :
    Except Failure State :=
  match s.jobs.find? job with
  | none => .error .notFound
  | some row =>
    if !row.status.live then .error .jobNotLive
    else if chargeMicros ≤ 0 ∨ row.plan.perTaskMicros < chargeMicros then .error .chargeConflict
    else if row.plan.taskLimit ≤ row.tasks.rows.length then .error .economicReserveExhausted
    else
      match debitPrepaid s row.prepaidRequired chargeMicros with
      | .error failure => .error failure
      | .ok (debit, balanceMicros) =>
        if fresh : row.tasks.find? task = none then
          let settled : TaskLedger :=
            { task, charge := chargeMicros, debit, refund := none, restore := none }
          .ok { s with
            balanceMicros
            jobs := s.jobs.set { row with tasks := row.tasks.insert settled fresh } }
        else .error .alreadyExists

def Plan.premiumCharge (plan : Plan) : Option Int :=
  if 0 < plan.premiumMicros then some plan.premiumMicros else none

def finalizeJob (s : State) (job : JobId) : Except Failure State :=
  match s.jobs.find? job with
  | none => .error .notFound
  | some row =>
    if row.status = .complete then .ok s
    else if row.status ≠ .running ∧ row.status ≠ .verifying then .error .jobNotLive
    else
      let debited : Except Failure (Option Int × Int) :=
        match row.plan.premiumCharge with
        | none => .ok (none, s.balanceMicros)
        | some premium => debitPrepaid s row.prepaidRequired premium
      match debited with
      | .error failure => .error failure
      | .ok (debit, balanceMicros) =>
        .ok { s with
          balanceMicros
          jobs := s.jobs.set
            { row with
              status := .complete
              premiumCharge := row.plan.premiumCharge
              premiumDebit := debit } }

/-- A live job starts, fails or is cancelled. -/
def moveJob (s : State) (job : JobId) (status : JobStatus) : Except Failure State :=
  match s.jobs.find? job with
  | none => .error .notFound
  | some row =>
    if !row.status.live || status = .complete then .error .jobNotLive
    else .ok { s with jobs := s.jobs.set { row with status } }

def Job.chargeableMicros (job : Job) : Int :=
  match job.plan.firmMicros with
  | none => job.chargedMicros
  | some firm =>
    if 0 < firm ∧ firm < job.chargedMicros then firm else job.chargedMicros

def slaRefundAmount (premium chargeable : Int) : Int :=
  if premium ≤ 0 ∨ chargeable ≤ 0 then 0
  else if chargeable < premium then chargeable
  else premium

/-- `restorePrepaidForSLAPremiumRefundTx`: what comes back when the premium had
been debited. -/
def slaBalanceReturn (job : Job) (refundMicros : Int) : Option Int :=
  match job.premiumDebit with
  | none => none
  | some debit =>
    if debit ≤ 0 then none else some (min refundMicros debit)

/-- `span` is the time from creation to merged results in seconds, once the
results are merged. -/
def settleJobSLA (s : State) (job : JobId) (span : Option Nat) : Except Failure State :=
  match s.jobs.find? job, span with
  | none, _ => .error .notFound
  | some _, none => .ok s
  | some row, some secs =>
    if row.plan.slaGuaranteeSecs = 0 ∨ row.slaMet.isSome ∨ row.status ≠ .complete then .ok s
    else if secs ≤ row.plan.slaGuaranteeSecs then
      .ok { s with jobs := s.jobs.set { row with slaMet := some true } }
    else
      let refund := slaRefundAmount row.plan.premiumMicros row.chargeableMicros
      if refund ≤ 0 then .ok { s with jobs := s.jobs.set { row with slaMet := some false } }
      else
        let returned := slaBalanceReturn row refund
        .ok { s with
          balanceMicros := s.balanceMicros + micros returned
          jobs := s.jobs.set
            { row with slaMet := some false, slaRefund := some refund, balanceReturn := returned } }

def fileDispute (s : State) (dispute : DisputeId) (job : JobId) : Except Failure State :=
  match s.jobs.find? job with
  | none => .error .notFound
  | some row =>
    if row.status.live then .error .disputeJobNotTerminal
    else if s.activeDispute job then .error .disputeAlreadyActive
    else if fresh : s.disputes.find? dispute = none then
      .ok { s with disputes := s.disputes.insert { dispute, job, resolution := none } fresh }
    else .error .alreadyExists

/-- The task part of `insertJobDisputeBuyerRefundsTx`: each charge is refunded
once. -/
def TaskLedger.refunded (task : TaskLedger) : TaskLedger :=
  if 0 < task.charge ∧ task.refund = none then { task with refund := some task.charge } else task

/-- `restorePrepaidForTaskDebitTx`, once for each task. -/
def TaskLedger.restored (task : TaskLedger) : TaskLedger :=
  match task.debit, task.refund, task.restore with
  | some debit, some _, none => { task with restore := some debit }
  | _, _, _ => task

theorem TaskLedger.refunded_task (task : TaskLedger) : task.refunded.task = task.task := by
  rw [TaskLedger.refunded]
  split <;> rfl

theorem TaskLedger.restored_task (task : TaskLedger) : task.restored.task = task.task := by
  rw [TaskLedger.restored]
  split <;> rfl

/-- The job-level part of `insertJobDisputeBuyerRefundsTx`, under the dispute's
own reference. -/
def Job.premiumRefundFor (job : Job) (dispute : DisputeId) : List DisputeRow :=
  match job.premiumCharge with
  | none => []
  | some premium =>
    if 0 < premium ∧ !job.premiumRefunds.any (·.dispute == dispute) then
      [{ dispute, micros := premium }]
    else []

def insertJobDisputeBuyerRefunds (job : Job) (dispute : DisputeId) : Job :=
  { job with
    tasks := job.tasks.map ⟨TaskLedger.refunded, TaskLedger.refunded_task⟩
    premiumRefunds := job.premiumRefunds ++ job.premiumRefundFor dispute }

def buyerRefundMicros (job : Job) (dispute : DisputeId) : Int :=
  job.taskRefundMicros + Rows.sumWhere (·.dispute == dispute) DisputeRow.micros job.premiumRefunds

def restorePrepaidForDisputeJobTasks (job : Job) : Job :=
  { job with tasks := job.tasks.map ⟨TaskLedger.restored, TaskLedger.restored_task⟩ }

def TaskLedger.overRefunded (task : TaskLedger) : Bool := decide (task.charge < micros task.refund)

def TaskLedger.prepaidMismatch (task : TaskLedger) : Bool :=
  match task.debit, task.refund with
  | some debit, some refund => debit != refund
  | _, _ => false

def TaskLedger.restoreRefused (task : TaskLedger) : Bool :=
  task.debit.isSome && task.refund.isSome && task.netSpend != 0

/-- The buyer side of an upheld resolution, with the causal check of
`consumeRiskReserveForDisputeRefundTx`. -/
def upholdJob (job : Job) (dispute : DisputeId) : Except Failure Job :=
  let refunded := insertJobDisputeBuyerRefunds job dispute
  let buyerRefund := buyerRefundMicros refunded dispute
  if refunded.tasks.rows.any TaskLedger.overRefunded then .error .overRefunded
  else if refunded.tasks.rows.any TaskLedger.prepaidMismatch then .error .prepaidMismatch
  else if refunded.tasks.rows.any TaskLedger.restoreRefused then .error .restoreRefused
  else if 0 < buyerRefund ∧ refunded.disputeRefundMicros - job.disputeRefundMicros ≤ 0 then
    .error .causalRefundRequired
  else
    let restored := restorePrepaidForDisputeJobTasks refunded
    .ok
      (if 0 < buyerRefund then
        { restored with receipts := restored.receipts ++ [{ dispute, micros := buyerRefund }] }
      else restored)

/-- The buyer side of `resolveDisputeInTx`.  The balance is credited with the
restores that were written. -/
def resolveDispute (s : State) (dispute : DisputeId) (resolution : Resolution) :
    Except Failure State :=
  match s.disputes.find? dispute with
  | none => .error .notFound
  | some filed =>
    if filed.resolution = some resolution then .ok s
    else if filed.resolution.isSome then .error .disputeAlreadyResolved
    else
      let resolved : State :=
        { s with disputes := s.disputes.set { filed with resolution := some resolution } }
      match resolution, s.jobs.find? filed.job with
      | .rejected, _ => .ok resolved
      | .upheld, none => .error .notFound
      | .upheld, some row =>
        match upholdJob row dispute with
        | .error failure => .error failure
        | .ok upheld =>
          .ok { resolved with
            balanceMicros := s.balanceMicros + (row.netDebit - upheld.netDebit)
            jobs := s.jobs.set upheld }

def ceilNanosToMicros (nanos : Int) : Int := (nanos + 999) / 1000

def evaluateRealtimeBuyerFunding (s : State) (needNanos : Int) : Except Failure Unit :=
  if needNanos < 0 then .error .invalidAmount
  else if s.realtimeCapacityMicros < ceilNanosToMicros needNanos then .error .insufficientFunds
  else .ok ()

def authorizeRealtime (s : State) (contract : ContractId) (needNanos : Int) :
    Except Failure State :=
  match evaluateRealtimeBuyerFunding s needNanos with
  | .error failure => .error failure
  | .ok () =>
    if fresh : s.contracts.find? contract = none then
      let executing : Contract :=
        { contract, holdMicros := ceilNanosToMicros needNanos,
          state := .executing, charge := none, debit := none,
          refund := none, restore := none }
      .ok { s with contracts := s.contracts.insert executing fresh }
    else .error .alreadyExists

/-- The part of a realtime charge assigned to prepaid: the rest is covered by
what the grant leaves.  `spentMicros` includes the charge. -/
def prepaidResidualMicros (freeMicros spentMicros chargeMicros : Int) : Int :=
  let freeRemaining := freeMicros - (spentMicros - chargeMicros)
  let covered := if freeRemaining < 0 then 0 else freeRemaining
  let covered := if chargeMicros < covered then chargeMicros else covered
  chargeMicros - covered

/-- `maybeDebitPrepaidForRealtimeTx` on the buyer before the charge row: the
debit to write and the balance after it. -/
def maybeDebitPrepaidForRealtime (s : State) (chargeMicros : Int) :
    Except Failure (Option Int × Int) :=
  if chargeMicros ≤ 0 then .error .invalidAmount
  else
    let residual := prepaidResidualMicros s.freeMicros (s.spentMicros + chargeMicros) chargeMicros
    if residual = 0 then .ok (none, s.balanceMicros)
    else if s.balanceMicros < residual then .error .insufficientPrepaid
    else .ok (some residual, s.balanceMicros - residual)

/-- The money part of `FinalizeRealtimeSuccess`. -/
def settleRealtime (s : State) (contract : ContractId) (chargeMicros : Int) :
    Except Failure State :=
  match s.contracts.find? contract with
  | none => .error .notFound
  | some row =>
    if row.state ≠ .executing then .error .alreadyFinalized
    else if row.holdMicros < chargeMicros then .error .aboveCeiling
    else
      match maybeDebitPrepaidForRealtime s chargeMicros with
      | .error failure => .error failure
      | .ok (debit, balanceMicros) =>
        .ok { s with
          balanceMicros
          contracts := s.contracts.set
            { row with state := .verified, charge := some chargeMicros, debit } }

/-- `FinalizeRealtimeFailure` or the recovery of a stale contract. -/
def failRealtime (s : State) (contract : ContractId) : Except Failure State :=
  match s.contracts.find? contract with
  | none => .error .notFound
  | some row =>
    if row.state ≠ .executing then .error .alreadyFinalized
    else .ok { s with contracts := s.contracts.set { row with state := .failed } }

/-- The buyer side of `RefundRealtimeContract`; `payoutHeld` says that the
supplier's credit has not left. -/
def refundRealtime (s : State) (contract : ContractId) (payoutHeld : Bool) : Except Failure State :=
  match s.contracts.find? contract with
  | none => .error .notFound
  | some row =>
    if row.state ≠ .verified ∨ row.refund.isSome then .error .notRefundable
    else if !payoutHeld then .error .refundNeedsReversal
    else
      .ok { s with
        balanceMicros := s.balanceMicros + micros row.debit
        contracts := s.contracts.set { row with refund := row.charge, restore := row.debit } }

inductive Event where
  | topup (amountMicros : Int)
  | submitJob (job : JobId) (prepaidRequired hasPaymentMethod : Bool) (plan : Plan)
  | settleTask (job : JobId) (task : TaskId) (chargeMicros : Int)
  | finalizeJob (job : JobId)
  | moveJob (job : JobId) (status : JobStatus)
  | settleJobSLA (job : JobId) (span : Option Nat)
  | fileDispute (dispute : DisputeId) (job : JobId)
  | resolveDispute (dispute : DisputeId) (resolution : Resolution)
  | authorizeRealtime (contract : ContractId) (needNanos : Int)
  | settleRealtime (contract : ContractId) (chargeMicros : Int)
  | failRealtime (contract : ContractId)
  | refundRealtime (contract : ContractId) (payoutHeld : Bool)

def Event.submits : Event → Bool
  | .submitJob _ _ _ _ => true
  | _ => false

def step (s : State) : Event → Except Failure State
  | .topup amountMicros => creditPrepaidTopup s amountMicros
  | .submitJob job prepaidRequired hasPaymentMethod plan =>
    submitJob s job prepaidRequired hasPaymentMethod plan
  | .settleTask job task chargeMicros => settleTask s job task chargeMicros
  | .finalizeJob job => finalizeJob s job
  | .moveJob job status => moveJob s job status
  | .settleJobSLA job span => settleJobSLA s job span
  | .fileDispute dispute job => fileDispute s dispute job
  | .resolveDispute dispute resolution => resolveDispute s dispute resolution
  | .authorizeRealtime contract needNanos => authorizeRealtime s contract needNanos
  | .settleRealtime contract chargeMicros => settleRealtime s contract chargeMicros
  | .failRealtime contract => failRealtime s contract
  | .refundRealtime contract payoutHeld => refundRealtime s contract payoutHeld

def completedJob (job : JobId) (prepaidRequired : Bool) (plan : Plan) (chargeMicros : Int) :
    List Event :=
  [.submitJob job prepaidRequired true plan, .moveJob job .running,
   .settleTask job 1 chargeMicros, .finalizeJob job]

end MercControl.Money
