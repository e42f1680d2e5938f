import MercControl.Library.Machine
import MercControl.Library.Rows

/-!
# Supplier credits, the accrual and payout claims

A supplier is owed one credit for each settled task or realtime contract.  A
payout claim folds the credit into the supplier's accrual, requests the whole
minor units of `factor` micros the accrual then holds and keeps the rest as
carry.

Tables keyed by the ledger entry are fields of the credit.
-/

namespace MercControl.Payout

open Library

abbrev EntryId := Nat
abbrev SupplierId := Nat
abbrev TaskId := Nat
abbrev JobId := Nat
abbrev ContractId := Nat
abbrev DisputeId := Nat
abbrev ProviderRef := Nat

inductive PayoutStatus where
  | pending
  | held
  | awaitingFunding
  | ready
  | sending
  | outcomeUnknown
  | released
  | exported
  | carried
  | clawedBack
  | reversalRequired
  | reversing
  | reversed
  deriving DecidableEq

/-- The `payout` rows of `lifecycle_transitions`. -/
def payoutTransitions : List (PayoutStatus × PayoutStatus) :=
  [(.pending, .held), (.pending, .awaitingFunding), (.pending, .ready),
   (.pending, .clawedBack), (.pending, .reversalRequired),
   (.held, .awaitingFunding), (.held, .ready), (.held, .sending),
   (.held, .released), (.held, .exported), (.held, .carried),
   (.held, .clawedBack), (.held, .reversalRequired),
   (.awaitingFunding, .held), (.awaitingFunding, .ready),
   (.awaitingFunding, .sending), (.awaitingFunding, .clawedBack),
   (.awaitingFunding, .reversalRequired),
   (.ready, .held), (.ready, .sending), (.ready, .released),
   (.ready, .exported), (.ready, .clawedBack), (.ready, .awaitingFunding),
   (.ready, .reversalRequired),
   (.sending, .ready), (.sending, .released), (.sending, .outcomeUnknown),
   (.sending, .reversalRequired), (.sending, .exported),
   (.outcomeUnknown, .exported), (.outcomeUnknown, .ready),
   (.outcomeUnknown, .released), (.outcomeUnknown, .reversalRequired),
   (.released, .clawedBack), (.released, .reversalRequired),
   (.exported, .reversalRequired),
   (.carried, .held), (.carried, .awaitingFunding), (.carried, .clawedBack),
   (.carried, .reversalRequired),
   (.reversalRequired, .reversing), (.reversalRequired, .ready),
   (.reversalRequired, .released), (.reversalRequired, .outcomeUnknown),
   (.reversing, .reversed), (.reversing, .reversalRequired)]

/-- `cx_guard_lifecycle_transition` on `payout_status`. -/
def PayoutStatus.mayBecome (before after : PayoutStatus) : Bool :=
  before == after || payoutTransitions.contains (before, after)

inductive CreditSource where
  | task (task : TaskId) (job : JobId)
  | contract (contract : ContractId)
  deriving DecidableEq

/-- `tasks.verification_outcome` of the credited task. -/
inductive Verdict where
  | none
  | pass
  | clawedBack
  deriving DecidableEq

structure Settlement where
  carryInMicros : Int
  liabilityMicros : Int
  cashCents : Int
  remainderMicros : Int
  deriving DecidableEq

structure Operation where
  requestedCents : Int
  status : PayoutStatus
  cashMoved : Bool
  outcomeUnknown : Bool
  transferRef : Option ProviderRef
  deriving DecidableEq

/-- A `ledger_entries` row of kind `supplier_credit`. -/
structure Credit where
  entry : EntryId
  supplier : SupplierId
  source : CreditSource
  liabilityMicros : Int
  status : PayoutStatus
  payoutRef : Option ProviderRef
  verdict : Verdict
  settlement : Option Settlement
  operation : Option Operation
  fundingBound : Bool
  deriving DecidableEq

def Credit.job (credit : Credit) : Option JobId :=
  match credit.source with
  | .task _ job => some job
  | .contract _ => none

def Credit.absorbed (credit : Credit) : Bool := credit.settlement.isSome

def Credit.operationUnknown (credit : Credit) : Bool := credit.operation.any (·.outcomeUnknown)

def Credit.cashEvidence (credit : Credit) : Bool :=
  credit.operation.any (fun operation => operation.cashMoved || operation.transferRef.isSome) ||
    credit.payoutRef.isSome

/-- `reversalRequired` of the clawback paths: the provider was asked for this
credit's cash, so it has or may have left. -/
def Credit.cashLeft (credit : Credit) : Bool :=
  credit.payoutRef.isSome || credit.operationUnknown ||
    credit.status == .sending || credit.status == .outcomeUnknown ||
    credit.status == .released || credit.status == .exported ||
    credit.status == .reversalRequired

structure Accrual where
  accruedMicros : Int
  lifetimeAbsorbed : Int
  lifetimePaidCents : Int

inductive Resolution where
  | upheld
  | rejected
  deriving DecidableEq

/-- A `disputes` row with its `dispute_payout_holds`.  Without a resolution it
is active. -/
structure Dispute where
  dispute : DisputeId
  job : JobId
  resolution : Option Resolution
  holds : List EntryId

structure State where
  /-- In the order of creation. -/
  credits : List Credit
  accruals : SupplierId → Accrual
  disputes : List Dispute
  /-- `realtime_refunds`. -/
  refunded : List ContractId

def State.empty : State where
  credits := []
  accruals := fun _ => ⟨0, 0, 0⟩
  disputes := []
  refunded := []

def State.credit (s : State) (entry : EntryId) : Option Credit := s.credits.find? (·.entry == entry)

def State.activeDispute (s : State) (job : JobId) : Bool :=
  s.disputes.any fun dispute => dispute.job == job && dispute.resolution.isNone

inductive Failure where
  | notFound
  | alreadyExists
  | negativeLiability
  | liabilityChanged
  | illegalTransition
  | notRetryable
  | notHeld
  | cashEvidence
  | unresolvedOutcome
  | cannotComplete
  | reconciliationMismatch
  | disputeAlreadyActive
  | disputeAlreadyResolved
  | recoveryInFlight
  | notRefundable
  | needsReversal

/-- `UPDATE ledger_entries ... WHERE selected`; the trigger refuses the whole
statement when one row's transition is not listed. -/
def changeCredits (s : State) (selected : Credit → Bool) (change : Credit → Credit) :
    Except Failure State :=
  if s.credits.any fun credit =>
      selected credit && !credit.status.mayBecome (change credit).status then
    .error .illegalTransition
  else .ok { s with credits := Rows.updateWhere selected change s.credits }

def changeCredit (s : State) (entry : EntryId)
    (body : Credit → Except Failure Credit) : Except Failure State :=
  match s.credit entry with
  | none => .error .notFound
  | some credit =>
    match body credit with
    | .error failure => .error failure
    | .ok changed => changeCredits s (·.entry == entry) fun _ => changed

def Credit.setStatus (credit : Credit) (status : PayoutStatus) : Credit := { credit with status }

def Credit.mapOperation (credit : Credit) (change : Operation → Operation) : Credit :=
  { credit with operation := credit.operation.map change }

def Operation.setStatus (operation : Operation) (status : PayoutStatus) : Operation :=
  { operation with status }

/-- A task or a realtime contract settles: its credit is held. -/
def insertCredit (s : State) (entry : EntryId) (supplier : SupplierId)
    (source : CreditSource) (liabilityMicros : Int) (verdict : Verdict) :
    Except Failure State :=
  if s.credits.any fun credit => credit.entry == entry || credit.source == source then
    .error .alreadyExists
  else
    .ok { s with
      credits := s.credits ++
        [{ entry, supplier, source, liabilityMicros, status := .held,
           payoutRef := none, verdict, settlement := none,
           operation := none, fundingBound := false }] }

/-- The settlement of the credit and the accrual after it.  A replay changes
nothing.  Go's `/` and `%` truncate. -/
def accrueSupplierLiability (factor : Int) (accrual : Accrual) (settled : Option Settlement)
    (liabilityMicros : Int) : Except Failure (Settlement × Accrual) :=
  if liabilityMicros < 0 then .error .negativeLiability
  else
    match settled with
    | some recorded =>
      if recorded.liabilityMicros ≠ liabilityMicros then .error .liabilityChanged
      else .ok (recorded, accrual)
    | none =>
      let effective := accrual.accruedMicros + liabilityMicros
      let cashCents := effective.tdiv factor
      let carryOut := effective.tmod factor
      .ok
        ({ carryInMicros := accrual.accruedMicros, liabilityMicros,
           cashCents, remainderMicros := carryOut },
         { accruedMicros := carryOut,
           lifetimeAbsorbed := accrual.lifetimeAbsorbed + liabilityMicros,
           lifetimePaidCents := accrual.lifetimePaidCents + cashCents })

/-- What the claim finds outside the credit: the release time has come, the
manual gate lets the entry through, and a source covers the requested cents. -/
structure ClaimContext where
  released : Bool
  approved : Bool
  funded : Bool

def Credit.claimable (credit : Credit) (context : ClaimContext) : Bool :=
  (credit.status == .held || credit.status == .ready || credit.status == .awaitingFunding) &&
    context.released &&
    (credit.job.isNone || credit.verdict == .pass) &&
    context.approved

/-- What the claim writes to the credit once its liability is accrued.  `none`
is the return without a commit. -/
def claimedCredit (credit : Credit) (settlement : Settlement) (funded : Bool) :
    Except Failure (Option Credit) :=
  let settledCredit := { credit with settlement := some settlement }
  if settlement.cashCents = 0 then
    if credit.status = .held then .ok (some (settledCredit.setStatus .carried)) else .ok none
  else if !funded then .ok (some (settledCredit.setStatus .awaitingFunding))
  else
    match credit.operation with
    | none =>
      .ok (some { settledCredit with
        status := .sending
        fundingBound := true
        operation := some
          { requestedCents := settlement.cashCents, status := .sending,
            cashMoved := false, outcomeUnknown := false,
            transferRef := none } })
    | some operation =>
      -- ON CONFLICT DO UPDATE re-arms a ready operation of the same request
      if operation.status = .ready ∧ operation.requestedCents = settlement.cashCents then
        .ok (some { settledCredit with
          status := .sending
          fundingBound := true
          operation := some (operation.setStatus .sending) })
      else .error .notRetryable

def claimPayout (factor : Int) (s : State) (entry : EntryId) (context : ClaimContext) :
    Except Failure State :=
  match s.credit entry with
  | none => .error .notFound
  | some credit =>
    if credit.job.any s.activeDispute || !credit.claimable context then .ok s
    else
      match accrueSupplierLiability factor (s.accruals credit.supplier)
          credit.settlement credit.liabilityMicros with
      | .error failure => .error failure
      | .ok (settlement, accrual) =>
        match claimedCredit credit settlement context.funded with
        | .error failure => .error failure
        | .ok none => .ok s
        | .ok (some claimed) =>
          changeCredits
            { s with accruals := Function.update s.accruals credit.supplier accrual }
            (·.entry == entry) fun _ => claimed

end MercControl.Payout
