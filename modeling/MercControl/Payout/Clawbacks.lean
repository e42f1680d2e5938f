import MercControl.Payout.SupplierAccrual

/-!
# Provider outcomes, disputes and clawbacks of supplier credits

What happens to a credit after its claim: the provider's answers, the recovery
of money already sent, and the three operations that take a credit back.
-/

namespace MercControl.Payout

open Library

/-- `DeferPayout`: the provider definitely refused. -/
def deferPayoutCredit (activeDispute : Bool) (credit : Credit) : Except Failure Credit :=
  if credit.cashEvidence then .error .cashEvidence
  else if credit.operationUnknown then
    if credit.status = .reversalRequired then .ok credit else .error .unresolvedOutcome
  else if credit.status = .reversalRequired then
    if credit.operation.any (·.status == .reversalRequired) && !activeDispute then
      .ok ((credit.setStatus .ready).mapOperation (Operation.setStatus · .ready))
    else .ok credit
  else if credit.status = .sending then
    .ok ((credit.setStatus .ready).mapOperation fun operation =>
      if operation.status = .sending then operation.setStatus .ready else operation)
  else .ok credit

def outcomeUnknownCredit (credit : Credit) : Except Failure Credit :=
  match credit.operation with
  | none => .error .notFound
  | some operation =>
    if operation.cashMoved || operation.transferRef.isSome then .error .cashEvidence
    else if credit.status ≠ .sending ∧ credit.status ≠ .outcomeUnknown ∧
        credit.status ≠ .reversalRequired then
      .error .cannotComplete
    else
      let next : PayoutStatus :=
        if credit.status = .reversalRequired ∨ operation.status = .reversalRequired then
          .reversalRequired
        else .outcomeUnknown
      .ok { credit with
        status := next
        operation := some { operation with status := next, outcomeUnknown := true } }

structure PayoutResult where
  cashMoved : Bool
  sentCents : Int
  ref : ProviderRef

def finalizePayoutCredit (factor : Int) (result : PayoutResult) (credit : Credit) :
    Except Failure Credit :=
  match credit.operation, credit.settlement with
  | some operation, some settlement =>
    if operation.requestedCents ≠ settlement.cashCents ∨
        settlement.carryInMicros + credit.liabilityMicros ≠
          settlement.cashCents * factor + settlement.remainderMicros then
      .error .reconciliationMismatch
    else
      let recovering : Bool :=
        credit.status == .reversalRequired || operation.status == .reversalRequired
      let underway : Bool :=
        (credit.status == .sending && operation.status == .sending) ||
          (credit.status == .outcomeUnknown && operation.status == .outcomeUnknown)
      let finish (status : PayoutStatus) (cashMoved : Bool) : Credit :=
        { credit with
          status
          payoutRef := some result.ref
          operation := some { operation with
            status
            cashMoved
            outcomeUnknown := false
            transferRef := some result.ref } }
      if result.cashMoved then
        if result.sentCents ≠ operation.requestedCents then .error .reconciliationMismatch
        else if recovering || credit.status == .clawedBack || operation.status == .clawedBack then
          .ok (finish .reversalRequired true)
        else if underway then .ok (finish .released true)
        else .error .cannotComplete
      else if recovering then .ok (finish .reversalRequired operation.cashMoved)
      else if underway then .ok (finish .exported false)
      else .error .cannotComplete
  | _, _ => .error .notFound

def recoverStalePayoutOperations (s : State) (expired : List EntryId) : Except Failure State :=
  changeCredits s
    (fun credit =>
      expired.contains credit.entry && credit.status == .sending &&
        credit.operation.any fun operation =>
          operation.status == .sending && !operation.cashMoved && operation.transferRef.isNone)
    fun credit =>
      (credit.setStatus .outcomeUnknown).mapOperation fun operation =>
        { operation with status := .outcomeUnknown, outcomeUnknown := true }

def releasePayoutCredit (credit : Credit) : Except Failure Credit :=
  if credit.status = .held ∨ credit.status = .ready then .ok (credit.setStatus .held)
  else .error .notHeld

/-- `AuthorizePayoutSubsidy`, once the fund has been found and covers the
credit. -/
def authorizePayoutSubsidyCredit (credit : Credit) : Except Failure Credit :=
  if credit.status = .awaitingFunding then .ok { credit with status := .held, fundingBound := true }
  else if credit.status = .held ∨ credit.status = .ready then
    .ok { credit with fundingBound := true }
  else .error .notHeld

/-- The buyer's cash for a job is confirmed: its credits can be claimed
again. -/
def confirmJobCollection (s : State) (job : JobId) : Except Failure State :=
  changeCredits s (fun credit => credit.job == some job && credit.status == .awaitingFunding)
    (Credit.setStatus · .held)

/-- `recomputeStripeCollectionFunding` on the credits whose funding the event
impairs. -/
def impairPayoutFunding (s : State) (impaired : List EntryId) : Except Failure State :=
  changeCredits s
    (fun credit =>
      impaired.contains credit.entry &&
        credit.operation.any fun operation =>
          operation.status == .reversalRequired ||
            (operation.status != .reversed &&
              (operation.cashMoved || operation.outcomeUnknown || operation.status == .sending)))
    fun credit =>
      (credit.setStatus .reversalRequired).mapOperation (Operation.setStatus · .reversalRequired)

def claimReversalCredit (activeDispute leaseExpired : Bool) (credit : Credit) :
    Except Failure Credit :=
  match credit.operation with
  | none => .error .notFound
  | some operation =>
    if (credit.status = .reversalRequired ∨ credit.status = .reversing) ∧ credit.cashEvidence ∧
        ((operation.status = .reversing ∧ leaseExpired) ∨
          (operation.status = .reversalRequired ∧ !activeDispute)) then
      .ok { credit with status := .reversing, operation := some (operation.setStatus .reversing) }
    else .ok credit

def finalizeReversalCredit (recoveredCents : Int) (credit : Credit) : Except Failure Credit :=
  match credit.operation with
  | none => .error .notFound
  | some operation =>
    if credit.status = .reversed ∧ operation.status = .reversed then .ok credit
    else if credit.status ≠ .reversing ∨ operation.status ≠ .reversing then .error .cannotComplete
    else if recoveredCents ≠ operation.requestedCents then .error .reconciliationMismatch
    else
      .ok { credit with
        status := .reversed
        operation := some { operation with status := .reversed, outcomeUnknown := false } }

def reversalFailedCredit (credit : Credit) : Except Failure Credit :=
  match credit.operation with
  | none => .error .notFound
  | some operation =>
    if credit.status = .reversed ∨ operation.status = .reversed then .ok credit
    else if credit.status ≠ .reversing ∧ credit.status ≠ .reversalRequired then
      .error .cannotComplete
    else
      .ok { credit with
        status := .reversalRequired
        operation := some
          (if operation.status = .reversing ∨ operation.status = .reversalRequired then
            operation.setStatus .reversalRequired
          else operation) }

/-- The status a clawback gives: money that may have left has to be recovered
outside. -/
def Credit.clawbackStatus (credit : Credit) : PayoutStatus :=
  if credit.cashLeft then .reversalRequired else .clawedBack

def State.taskCredit (s : State) (supplier : SupplierId) (task : TaskId) : Option Credit :=
  s.credits.find? fun credit =>
    credit.supplier == supplier && decide (0 < credit.liabilityMicros) &&
      match credit.source with
      | .task credited _ => credited == task
      | .contract _ => false

/-- `clawbackTaskCreditTx`, and `ClawbackTaskCredit`, which always corrects the
verdict. -/
def clawbackTaskCredit (s : State) (supplier : SupplierId) (task : TaskId)
    (correctProjection : Bool) : Except Failure State :=
  match s.taskCredit supplier task with
  | none => .ok s
  | some credit =>
    changeCredits s (·.entry == credit.entry) fun _ =>
      { credit with
        status := credit.clawbackStatus
        verdict := if correctProjection then .clawedBack else credit.verdict
        operation := credit.operation.map (Operation.setStatus · credit.clawbackStatus) }

/-- `RecordDispute`: the job's payouts are frozen, those in flight go to
recovery. -/
def fileDispute (s : State) (dispute : DisputeId) (job : JobId) : Except Failure State :=
  if s.activeDispute job then .error .disputeAlreadyActive
  else if s.disputes.any (·.dispute == dispute) then .error .alreadyExists
  else
    let frozen := s.credits.filter fun credit =>
      credit.job == some job && credit.status != .released &&
        credit.status != .exported && credit.status != .clawedBack &&
        credit.status != .reversalRequired
    changeCredits
      { s with
        disputes := s.disputes ++
          [{ dispute, job, resolution := none, holds := frozen.map (·.entry) }] }
      (fun credit => credit.job == some job &&
        (credit.status == .sending || credit.status == .outcomeUnknown))
      fun credit =>
        (credit.setStatus .reversalRequired).mapOperation fun operation =>
          { operation with status := .reversalRequired, outcomeUnknown := true }

def upheldCredit (credit : Credit) : Credit :=
  let status :=
    if credit.status = .clawedBack ∨ credit.status = .reversalRequired then credit.status
    else credit.clawbackStatus
  { credit with
    status
    verdict := .clawedBack
    operation := credit.operation.map (Operation.setStatus · status) }

/-- `insertJobDisputeClawbacksTx` and the status updates after it. -/
def disputeClawbacks (s : State) (job : JobId) : Resolution → Except Failure State
  | .upheld => changeCredits s (·.job == some job) upheldCredit
  | .rejected => .ok s

/-- `reconcileDisputePayoutHoldsTx` refuses to guess. -/
def holdUnreconcilable (resolution : Resolution) (credit : Credit) : Bool :=
  match credit.operation with
  | none => credit.status == .reversalRequired || credit.status == .reversing
  | some operation =>
    resolution == .rejected &&
      (credit.status == .reversing || operation.status == .reversing ||
        credit.status == .reversed || operation.status == .reversed)

/-- `reconcileDisputePayoutHoldsTx` on one held credit; `compromised` says that
the funding is impaired. -/
def reconcileHold (resolution : Resolution) (compromised : Bool) (credit : Credit) : Credit :=
  match credit.operation, resolution with
  | none, _ => credit
  | some operation, .rejected =>
    if credit.cashEvidence then
      if compromised then credit
      else
        { credit with
          status :=
            if credit.status = .reversalRequired then .released else credit.status
          payoutRef :=
            if credit.status = .reversalRequired then credit.payoutRef.or operation.transferRef
            else credit.payoutRef
          operation := some
            (if operation.status = .reversalRequired then
              { operation with status := .released, outcomeUnknown := false }
            else operation) }
    else
      { credit with
        status :=
          if credit.status = .reversalRequired then .outcomeUnknown else credit.status
        operation := some
          (if operation.status = .reversalRequired then
            { operation with status := .outcomeUnknown, outcomeUnknown := true }
          else operation) }
  | some operation, .upheld =>
    if operation.status = .reversalRequired ∧ !credit.cashEvidence then
      { credit with operation := some { operation with outcomeUnknown := true } }
    else credit

/-- The payout side of `resolveDisputeInTx`.  The buyer's refund in the same
transaction does not read or write supplier rows. -/
def resolveDispute (s : State) (dispute : DisputeId) (resolution : Resolution)
    (compromised : EntryId → Bool) : Except Failure State :=
  match s.disputes.find? (·.dispute == dispute) with
  | none => .error .notFound
  | some filed =>
    if filed.resolution = some resolution then .ok s
    else if filed.resolution.isSome then .error .disputeAlreadyResolved
    else
      let resolved : State :=
        { s with
          disputes := Rows.updateWhere (·.dispute == dispute)
            (fun row => { row with resolution := some resolution })
            s.disputes }
      match disputeClawbacks resolved filed.job resolution with
      | .error failure => .error failure
      | .ok clawed =>
        let held : Credit → Bool := fun credit => filed.holds.contains credit.entry
        if clawed.credits.any fun credit => held credit && holdUnreconcilable resolution credit then
          .error .recoveryInFlight
        else
          changeCredits clawed held fun credit =>
            reconcileHold resolution (compromised credit.entry) credit

def refundRealtimeContract (s : State) (contract : ContractId) : Except Failure State :=
  match s.credits.find? (·.source == .contract contract) with
  | none => .error .notFound
  | some credit =>
    if s.refunded.contains contract then .error .notRefundable
    else if credit.fundingBound ∨
        (credit.status ≠ .held ∧ credit.status ≠ .awaitingFunding ∧ credit.status ≠ .carried) then
      .error .needsReversal
    else
      changeCredits { s with refunded := s.refunded ++ [contract] } (·.entry == credit.entry)
        fun _ => credit.setStatus .clawedBack

inductive Event where
  | insertCredit (entry : EntryId) (supplier : SupplierId)
      (source : CreditSource) (liabilityMicros : Int) (verdict : Verdict)
  | claimPayout (entry : EntryId) (context : ClaimContext)
  | deferPayout (entry : EntryId)
  | outcomeUnknown (entry : EntryId)
  | finalizePayout (entry : EntryId) (result : PayoutResult)
  | recoverStale (expired : List EntryId)
  | releasePayout (entry : EntryId)
  | authorizeSubsidy (entry : EntryId)
  | confirmCollection (job : JobId)
  | impairFunding (impaired : List EntryId)
  | claimReversal (entry : EntryId) (leaseExpired : Bool)
  | finalizeReversal (entry : EntryId) (recoveredCents : Int)
  | reversalFailed (entry : EntryId)
  | clawbackTaskCredit (supplier : SupplierId) (task : TaskId) (correctProjection : Bool)
  | fileDispute (dispute : DisputeId) (job : JobId)
  | resolveDispute (dispute : DisputeId) (resolution : Resolution) (compromised : EntryId → Bool)
  | refundRealtimeContract (contract : ContractId)

def State.disputed (s : State) (entry : EntryId) : Bool :=
  (s.credit entry).any fun credit => credit.job.any s.activeDispute

def step (factor : Int) (s : State) : Event → Except Failure State
  | .insertCredit entry supplier source liabilityMicros verdict =>
    insertCredit s entry supplier source liabilityMicros verdict
  | .claimPayout entry context => claimPayout factor s entry context
  | .deferPayout entry => changeCredit s entry (deferPayoutCredit (s.disputed entry))
  | .outcomeUnknown entry => changeCredit s entry outcomeUnknownCredit
  | .finalizePayout entry result => changeCredit s entry (finalizePayoutCredit factor result)
  | .recoverStale expired => recoverStalePayoutOperations s expired
  | .releasePayout entry => changeCredit s entry releasePayoutCredit
  | .authorizeSubsidy entry => changeCredit s entry authorizePayoutSubsidyCredit
  | .confirmCollection job => confirmJobCollection s job
  | .impairFunding impaired => impairPayoutFunding s impaired
  | .claimReversal entry leaseExpired =>
    changeCredit s entry (claimReversalCredit (s.disputed entry) leaseExpired)
  | .finalizeReversal entry recoveredCents =>
    changeCredit s entry (finalizeReversalCredit recoveredCents)
  | .reversalFailed entry => changeCredit s entry reversalFailedCredit
  | .clawbackTaskCredit supplier task correctProjection =>
    clawbackTaskCredit s supplier task correctProjection
  | .fileDispute dispute job => fileDispute s dispute job
  | .resolveDispute dispute resolution compromised =>
    resolveDispute s dispute resolution compromised
  | .refundRealtimeContract contract => refundRealtimeContract s contract

end MercControl.Payout
