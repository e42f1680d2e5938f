import MercControl.Library.Table

/-!
# The money of one buyer

The free grant, the prepaid balance and the ledger of one buyer, in exact
micros.  A ledger row is unique for its task, contract or reference and its
kind, so it stands as a field of what it is keyed by, as an absolute value.
-/

namespace MercControl.Money

open Library

abbrev TaskId := Nat
abbrev JobId := Nat
abbrev ContractId := Nat
abbrev DisputeId := Nat

def micros (row : Option Int) : Int := row.getD 0

@[simp]
theorem micros_none : micros none = 0 := rfl

@[simp]
theorem micros_some (amount : Int) : micros (some amount) = amount := rfl

/-- The rows of one settled task, at most one of each kind. -/
structure TaskLedger where
  task : TaskId
  /-- `buyer_charge`. -/
  charge : Int
  /-- `prepaid_debit`. -/
  debit : Option Int
  /-- `buyer_refund`. -/
  refund : Option Int
  /-- `prepaid_restore`. -/
  restore : Option Int

def TaskLedger.netSpend (task : TaskLedger) : Int := task.charge - micros task.refund

def TaskLedger.netDebit (task : TaskLedger) : Int := micros task.debit - micros task.restore

/-- The frozen `job_economic_plans` row, with the firm quote.  The reserve
covers every task the job may ever have. -/
structure Plan where
  perTaskMicros : Int
  taskLimit : Nat
  premiumMicros : Int
  slaGuaranteeSecs : Nat
  firmMicros : Option Int
  perTask_pos : 0 < perTaskMicros
  premium_nonneg : 0 ≤ premiumMicros

/-- `reserved_buyer_charge_usd`. -/
def Plan.reservedMicros (plan : Plan) : Int :=
  plan.perTaskMicros * plan.taskLimit + plan.premiumMicros

inductive JobStatus where
  | queued
  | running
  | verifying
  | complete
  | failed
  | cancelled
  deriving DecidableEq

def JobStatus.live : JobStatus → Bool
  | .queued => true
  | .running => true
  | .verifying => true
  | .complete => false
  | .failed => false
  | .cancelled => false

structure DisputeRow where
  dispute : DisputeId
  micros : Int

structure Job where
  job : JobId
  prepaidRequired : Bool
  plan : Plan
  status : JobStatus
  slaMet : Option Bool
  tasks : Table TaskLedger.task
  /-- `buyer_charge` under `sla-premium-<job>`. -/
  premiumCharge : Option Int
  /-- `prepaid_debit` under `prepaid-sla-<job>`. -/
  premiumDebit : Option Int
  /-- `sla_refund` under `sla-<job>`. -/
  slaRefund : Option Int
  /-- `prepaid_balance_return` under `prepaid-sla-restore-<job>`. -/
  balanceReturn : Option Int
  /-- `buyer_refund` rows under `dispute-sla-refund-<dispute>`. -/
  premiumRefunds : List DisputeRow
  /-- `job_dispute_refunds`, with their `buyer_refund_usd`. -/
  receipts : List DisputeRow

def totalMicros (rows : List DisputeRow) : Int :=
  Rows.sumWhere (fun _ => true) DisputeRow.micros rows

theorem totalMicros_append (rows more : List DisputeRow) :
    totalMicros (rows ++ more) = totalMicros rows + totalMicros more :=
  Rows.sumWhere_append rows more

def Job.chargedMicros (job : Job) : Int :=
  job.tasks.total TaskLedger.charge + micros job.premiumCharge

def Job.taskRefundMicros (job : Job) : Int := job.tasks.total fun task => micros task.refund

def Job.disputeRefundMicros (job : Job) : Int :=
  job.taskRefundMicros + totalMicros job.premiumRefunds

/-- Everything credited back to the buyer for the job. -/
def Job.creditedMicros (job : Job) : Int := job.disputeRefundMicros + micros job.slaRefund

/-- The `prepaid_debit` rows of the job, as `sqlOpenPrepaidJobResidualMicros`
and `firmChargeAmountSQL` sum them, without restores. -/
def Job.debitedMicros (job : Job) : Int :=
  job.tasks.total (fun task => micros task.debit) + micros job.premiumDebit

def Job.residualMicros (job : Job) : Int :=
  if job.status.live then max 0 (job.plan.reservedMicros - job.debitedMicros) else 0

/-- `buyer_charge` and `buyer_refund` rows of the job.  The `sla_refund` row is
of another kind. -/
def Job.netSpend (job : Job) : Int :=
  job.tasks.total TaskLedger.netSpend + micros job.premiumCharge - totalMicros job.premiumRefunds

/-- `prepaid_debit` and `prepaid_restore` rows of the job. -/
def Job.netDebit (job : Job) : Int := job.tasks.total TaskLedger.netDebit + micros job.premiumDebit

inductive ContractState where
  | executing
  | verified
  | failed
  deriving DecidableEq

structure Contract where
  contract : ContractId
  /-- The accepted ceiling, rounded up to micros. -/
  holdMicros : Int
  state : ContractState
  charge : Option Int
  debit : Option Int
  refund : Option Int
  restore : Option Int
  deriving DecidableEq

def Contract.heldMicros (contract : Contract) : Int :=
  if contract.state = .executing then contract.holdMicros else 0

def Contract.netSpend (contract : Contract) : Int := micros contract.charge - micros contract.refund

def Contract.netDebit (contract : Contract) : Int := micros contract.debit - micros contract.restore

inductive Resolution where
  | upheld
  | rejected
  deriving DecidableEq

/-- A `disputes` row; without a resolution it is active. -/
structure Dispute where
  dispute : DisputeId
  job : JobId
  resolution : Option Resolution

structure State where
  /-- The grant as it counts in the settlement currency. -/
  freeMicros : Int
  balanceMicros : Int
  jobs : Table Job.job
  contracts : Table Contract.contract
  disputes : Table Dispute.dispute

def State.opened (freeMicros : Int) : State where
  freeMicros
  balanceMicros := 0
  jobs := .empty
  contracts := .empty
  disputes := .empty

/-- `buyer_charge` and `buyer_refund` rows of the buyer. -/
def State.spentMicros (s : State) : Int :=
  s.jobs.total Job.netSpend + s.contracts.total Contract.netSpend

/-- `prepaid_debit` and `prepaid_restore` rows of the buyer. -/
def State.prepaidDebitedMicros (s : State) : Int :=
  s.jobs.total Job.netDebit + s.contracts.total Contract.netDebit

def State.openPrepaidJobResidualMicros (s : State) : Int :=
  s.jobs.total fun job => if job.prepaidRequired then job.residualMicros else 0

def State.openNonPrepaidJobResidualMicros (s : State) : Int :=
  s.jobs.total fun job => if job.prepaidRequired then 0 else job.residualMicros

/-- `sqlOpenNonEnvelopeExecutingCeilingMicros`. -/
def State.executingCeilingMicros (s : State) : Int := s.contracts.total Contract.heldMicros

/-- `sqlBuyerCommittedMoneyMicros` of a buyer without leases and envelopes. -/
def State.committedMicros (s : State) : Int :=
  s.openPrepaidJobResidualMicros + s.openNonPrepaidJobResidualMicros + s.executingCeilingMicros

/-- `availableMicros` of `evaluateRealtimeBuyerFunding`. -/
def State.realtimeCapacityMicros (s : State) : Int :=
  s.freeMicros + s.balanceMicros - s.spentMicros + s.prepaidDebitedMicros - s.committedMicros

def State.activeDispute (s : State) (job : JobId) : Bool :=
  s.disputes.rows.any fun dispute => dispute.job == job && dispute.resolution.isNone

end MercControl.Money
