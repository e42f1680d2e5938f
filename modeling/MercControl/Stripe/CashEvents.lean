import MercControl.Library.Machine
import MercControl.Library.Table

/-!
# Stripe's evidence about collected cash

The collection that a charge brought in, the refunds, disputes and fraud
warnings that Stripe reported about it, and the supplier payouts reserved
against it.  Webhooks may leave the payment intent out and may arrive before
the collection is recorded.

Two events with the same digest are the same event.  `seen` is the snapshot of
a statement that takes the advisory lock of the charge and goes on; a statement
that starts under the lock sees the present state.
-/

namespace MercControl.Stripe

open Library

abbrev PaymentIntent := Nat
abbrev ChargeId := Nat
abbrev DisputeId := Nat
abbrev CurrencyCode := Nat

inductive CashEventType where
  | chargeRefunded
  | disputeCreated
  | disputeFundsWithdrawn
  | disputeFundsReinstated
  | disputeClosed
  deriving DecidableEq

/-- A dispute status, as far as the code tells one from another. -/
inductive DisputeStatus where
  | warning (stage : Nat)
  | prevented
  | lost
  | other (code : Nat)
  deriving DecidableEq

inductive DisputeCashEffect where
  | noEffect
  | unavailable
  | available
  deriving DecidableEq

def disputeCashEffect : CashEventType → DisputeStatus → DisputeCashEffect × Nat
  | .disputeCreated, .warning _ => (.noEffect, 0)
  | .disputeCreated, .prevented => (.noEffect, 0)
  | .disputeCreated, _ => (.unavailable, 10)
  | .disputeFundsWithdrawn, _ => (.unavailable, 20)
  | .disputeClosed, .lost => (.unavailable, 30)
  | .disputeClosed, _ => (.noEffect, 0)
  | .disputeFundsReinstated, _ => (.available, 40)
  | .chargeRefunded, _ => (.noEffect, 0)

/-- A parsed refund or dispute webhook.  The object of a refund is the charge,
that of the others a dispute. -/
structure CashEvent where
  eventId : Nat
  eventType : CashEventType
  objectId : Nat
  chargeId : ChargeId
  paymentIntent : Option PaymentIntent
  currency : CurrencyCode
  status : DisputeStatus
  eventCreated : Nat
  amountCents : Int
  refundedCents : Int
  deriving DecidableEq

namespace CashEvent

def isRefund (event : CashEvent) : Bool := event.eventType = .chargeRefunded

def valid (event : CashEvent) : Bool :=
  0 < event.eventCreated && decide (0 < event.amountCents) &&
    (!event.isRefund || decide (0 < event.refundedCents ∧ event.refundedCents ≤ event.amountCents))

def effect (event : CashEvent) : DisputeCashEffect :=
  (disputeCashEffect event.eventType event.status).1

/-- The time and the rank that `applyStripeDisputeState` writes. -/
def effectCreated (event : CashEvent) : Nat :=
  if event.effect = .noEffect then 0 else event.eventCreated

def effectRank (event : CashEvent) : Nat :=
  if event.effect = .noEffect then 0 else (disputeCashEffect event.eventType event.status).2

def cashUnavailable (event : CashEvent) : Bool := event.effect = .unavailable

end CashEvent

/-- A `stripe_charge_cash_state` row. -/
structure ChargeCash where
  chargeId : ChargeId
  paymentIntent : Option PaymentIntent
  amountCents : Int
  refundedCents : Int
  currency : CurrencyCode
  lastEventId : Nat
  lastEventCreated : Nat
  deriving DecidableEq

/-- A `stripe_dispute_cash_state` row. -/
structure DisputeCash where
  disputeId : DisputeId
  chargeId : ChargeId
  paymentIntent : Option PaymentIntent
  amountCents : Int
  currency : CurrencyCode
  status : DisputeStatus
  cashUnavailable : Bool
  effectCreated : Nat
  effectRank : Nat
  lastEventId : Nat
  lastEventType : CashEventType
  lastEventCreated : Nat
  deriving DecidableEq

inductive ChargedSource where
  | job (id : Nat)
  | batch (id : Nat)
  deriving DecidableEq

/-- A `buyer_cash_collections` row; a top-up has no charged source. -/
structure Collection where
  paymentIntent : PaymentIntent
  chargeId : ChargeId
  buyerId : Nat
  source : Option ChargedSource
  receivedCents : Int
  currency : CurrencyCode
  deriving DecidableEq

/-- A `prepaid_topup_operations` row.  A succeeded one names its payment
intent and charge. -/
structure TopupOperation where
  operationKey : Nat
  buyerId : Nat
  amountCents : Int
  currency : CurrencyCode
  succeeded : Option (PaymentIntent × ChargeId)
  deriving DecidableEq

/-- A `stripe_risk_events` row; `payload` stands for the body of the
warning. -/
structure RiskEvent where
  eventId : Nat
  warningId : Nat
  chargeId : ChargeId
  paymentIntent : Option PaymentIntent
  payload : Nat
  deriving DecidableEq

/-- A `supplier_payout_funding` row of kind `buyer_collection`. -/
structure Funding where
  fundingId : Nat
  entryId : Nat
  paymentIntent : PaymentIntent
  amountCents : Int
  createdAt : Nat
  compromisedCents : Option Int
  deriving DecidableEq

structure State where
  events : Table CashEvent.eventId
  charges : Table ChargeCash.chargeId
  disputes : Table DisputeCash.disputeId
  collections : Table Collection.paymentIntent
  topups : Table TopupOperation.operationKey
  warnings : Table RiskEvent.eventId
  funding : Table Funding.fundingId

def State.empty : State where
  events := .empty
  charges := .empty
  disputes := .empty
  collections := .empty
  topups := .empty
  warnings := .empty
  funding := .empty

inductive Failure where
  | invalidEvent
  | eventConflict
  | collectionConflict
  | objectConflict
  | notEligible
  | bindingConflict
  | cashSourceConflict
  | topupConflict
  | warningConflict
  | duplicateKey

/-- The refunds and lost disputes bound to a payment intent, at most what was
received. -/
def unavailableCents (s : State) (intent : PaymentIntent) (received : Int) : Int :=
  min received
    (Rows.sumWhere (fun row => decide (row.paymentIntent = some intent))
        ChargeCash.refundedCents s.charges.rows +
      Rows.sumWhere
        (fun row => decide (row.paymentIntent = some intent) && row.cashUnavailable)
        DisputeCash.amountCents s.disputes.rows)

def reservedCents (s : State) (intent : PaymentIntent) : Int :=
  Rows.sumWhere (fun row => decide (row.paymentIntent = intent)) Funding.amountCents s.funding.rows

def Funding.noLaterThan (row other : Funding) : Bool :=
  row.createdAt < other.createdAt ||
    (row.createdAt = other.createdAt && row.fundingId ≤ other.fundingId)

def reservedUpTo (s : State) (row : Funding) : Int :=
  Rows.sumWhere
    (fun earlier => decide (earlier.paymentIntent = row.paymentIntent) && earlier.noLaterThan row)
    Funding.amountCents s.funding.rows

def impairedCents (s : State) (received : Int) (row : Funding) : Int :=
  max 0
    (min row.amountCents
      (reservedUpTo s row - (received - unavailableCents s row.paymentIntent received)))

def recomputeStripeCollectionFunding (s : State) (intent : PaymentIntent)
    (received : Int) : State :=
  { s with
    funding := s.funding.update (fun row => decide (row.paymentIntent = intent))
      { apply := fun row => { row with compromisedCents := some (impairedCents s received row) }
        kept := fun _ => rfl } }

/-- What a payout asks for; the job or the first top-up that fits chooses the
payment intent. -/
structure FundingRequest where
  fundingId : Nat
  entryId : Nat
  paymentIntent : PaymentIntent
  amountCents : Int
  createdAt : Nat

def capacityFits (s : State) (collection : Collection) (requested : Int) : Bool :=
  let available :=
    collection.receivedCents - unavailableCents s collection.paymentIntent collection.receivedCents
  let reserved := reservedCents s collection.paymentIntent
  0 ≤ available && decide (0 ≤ reserved) && decide (reserved ≤ available) &&
    decide (requested ≤ available - reserved)

/-- The end of `reservePayoutFundingWithJobSnapshot` and of
`reserveBuyerTopupPayoutFunding`.  An entry that is funded keeps its row. -/
def reservePayoutFunding (s : State) (request : FundingRequest) : Except Failure State :=
  if s.funding.rows.any fun row => decide (row.entryId = request.entryId) then .ok s
  else
    match s.collections.find? request.paymentIntent with
    | none => .ok s
    | some collection =>
      if request.amountCents ≤ 0 ∨ capacityFits s collection request.amountCents = false then .ok s
      else
        match fresh : s.funding.find? request.fundingId with
        | some _ => .error .duplicateKey
        | none =>
          .ok { s with
            funding := s.funding.insert
              { fundingId := request.fundingId
                entryId := request.entryId
                paymentIntent := request.paymentIntent
                amountCents := request.amountCents
                createdAt := request.createdAt
                compromisedCents := none }
              fresh }

def collectionOfCharge (s : State) (charge : ChargeId) : Option Collection :=
  s.collections.rows.find? fun row => decide (row.chargeId = charge)

/-- The payment intent of an event: the one it carries, or else the one of the
charge's collection, of the charge's refunds or of the dispute. -/
def resolvePaymentIntent (s : State) (event : CashEvent) : Option PaymentIntent :=
  event.paymentIntent.or
    (((collectionOfCharge s event.chargeId).map Collection.paymentIntent).or
      (((s.charges.find? event.chargeId).bind ChargeCash.paymentIntent).or
        (if event.isRefund then none
         else (s.disputes.find? event.objectId).bind DisputeCash.paymentIntent)))

def collectionConflict (collection : Collection) (event : CashEvent) : Bool :=
  decide (collection.currency ≠ event.currency) ||
    (event.isRefund && decide (event.amountCents ≠ collection.receivedCents)) ||
    decide (collection.chargeId ≠ event.chargeId)

def compatible (first second : Option PaymentIntent) : Bool :=
  first.isNone || second.isNone || decide (first = second)

def CashEvent.refundRow (event : CashEvent) (intent : Option PaymentIntent) : ChargeCash where
  chargeId := event.chargeId
  paymentIntent := intent
  amountCents := event.amountCents
  refundedCents := event.refundedCents
  currency := event.currency
  lastEventId := event.eventId
  lastEventCreated := event.eventCreated

def ChargeCash.merge (row : ChargeCash) (event : CashEvent)
    (intent : Option PaymentIntent) : ChargeCash :=
  { row with
    paymentIntent := row.paymentIntent.or intent
    refundedCents := max row.refundedCents event.refundedCents
    lastEventId :=
      if row.lastEventCreated ≤ event.eventCreated then event.eventId else row.lastEventId
    lastEventCreated := max row.lastEventCreated event.eventCreated }

def applyStripeChargeRefundState (s : State) (event : CashEvent)
    (intent : Option PaymentIntent) : Except Failure State :=
  match fresh : s.charges.find? event.chargeId with
  | none => .ok { s with charges := s.charges.insert (event.refundRow intent) fresh }
  | some row =>
    if row.amountCents = event.amountCents ∧ row.currency = event.currency ∧
        compatible row.paymentIntent intent = true then
      .ok { s with charges := s.charges.set (row.merge event intent) }
    else .error .objectConflict

def CashEvent.disputeRow (event : CashEvent) (intent : Option PaymentIntent) : DisputeCash where
  disputeId := event.objectId
  chargeId := event.chargeId
  paymentIntent := intent
  amountCents := event.amountCents
  currency := event.currency
  status := event.status
  cashUnavailable := event.cashUnavailable
  effectCreated := event.effectCreated
  effectRank := event.effectRank
  lastEventId := event.eventId
  lastEventType := event.eventType
  lastEventCreated := event.eventCreated

/-- The event has a cash effect and no later or higher ranked one is
recorded. -/
def DisputeCash.yieldsTo (row : DisputeCash) (event : CashEvent) : Bool :=
  (decide (row.effectCreated < event.effectCreated) ||
      (decide (row.effectCreated = event.effectCreated) &&
        decide (row.effectRank ≤ event.effectRank))) &&
    decide (0 < event.effectRank)

def DisputeCash.merge (row : DisputeCash) (event : CashEvent)
    (intent : Option PaymentIntent) : DisputeCash :=
  { row with
    paymentIntent := row.paymentIntent.or intent
    status :=
      if row.lastEventCreated ≤ event.eventCreated then event.status else row.status
    cashUnavailable :=
      if row.yieldsTo event then event.cashUnavailable else row.cashUnavailable
    effectCreated :=
      if row.yieldsTo event then event.effectCreated else row.effectCreated
    effectRank :=
      if row.yieldsTo event then event.effectRank else row.effectRank
    lastEventId :=
      if row.lastEventCreated ≤ event.eventCreated then event.eventId else row.lastEventId
    lastEventType :=
      if row.lastEventCreated ≤ event.eventCreated then event.eventType else row.lastEventType
    lastEventCreated := max row.lastEventCreated event.eventCreated }

def applyStripeDisputeState (s : State) (event : CashEvent)
    (intent : Option PaymentIntent) : Except Failure State :=
  match fresh : s.disputes.find? event.objectId with
  | none => .ok { s with disputes := s.disputes.insert (event.disputeRow intent) fresh }
  | some row =>
    if row.chargeId = event.chargeId ∧ row.amountCents = event.amountCents ∧
        row.currency = event.currency ∧
        compatible row.paymentIntent intent = true then
      .ok { s with disputes := s.disputes.set (row.merge event intent) }
    else .error .objectConflict

def bindDispute (intent : PaymentIntent) : Table.Change DisputeCash.disputeId where
  apply := fun row => { row with paymentIntent := some intent }
  kept := fun _ => rfl

/-- The charge's disputes without a payment intent take the refund's. -/
def bindDisputesOfRefund (s : State) (event : CashEvent) : State :=
  match (s.charges.find? event.chargeId).bind ChargeCash.paymentIntent with
  | none => s
  | some intent =>
    { s with
      disputes := s.disputes.update
        (fun row => decide (row.chargeId = event.chargeId) && row.paymentIntent.isNone)
        (bindDispute intent) }

/-- The row that the event is about, written under its payment intent. -/
def applyCashState (s : State) (event : CashEvent)
    (intent : Option PaymentIntent) : Except Failure State :=
  if event.isRefund then
    (applyStripeChargeRefundState s event intent).bind fun applied =>
    .ok (bindDisputesOfRefund applied event)
  else applyStripeDisputeState s event intent

def linkedCollection (s : State) (event : CashEvent) : Option Collection :=
  (resolvePaymentIntent s event).bind s.collections.find?

/-- The part of `ApplyPaymentEventTx` after an event was found to be new. -/
def applyNewPaymentEvent (s : State) (event : CashEvent) : Except Failure State :=
  match linkedCollection s event with
  | none => applyCashState s event (resolvePaymentIntent s event)
  | some collection =>
    if collectionConflict collection event then .error .collectionConflict
    else
      (applyCashState s event (resolvePaymentIntent s event)).bind fun applied =>
      .ok (recomputeStripeCollectionFunding applied
        collection.paymentIntent collection.receivedCents)

def applyPaymentEventTx (s : State) (event : CashEvent) : Except Failure State :=
  if event.valid = false then .error .invalidEvent
  else
    match fresh : s.events.find? event.eventId with
    | some stored => if stored = event then .ok s else .error .eventConflict
    | none => applyNewPaymentEvent { s with events := s.events.insert event fresh } event

structure ChargeResult where
  paymentIntent : PaymentIntent
  chargeId : ChargeId
  receivedCents : Int
  currency : CurrencyCode

def bindingConflict (seen : State) (charge : ChargeResult) : Bool :=
  (seen.charges.rows.any fun row =>
      decide (row.chargeId = charge.chargeId) &&
        (!compatible row.paymentIntent (some charge.paymentIntent) ||
          decide (row.amountCents ≠ charge.receivedCents) ||
          decide (row.currency ≠ charge.currency))) ||
    (seen.disputes.rows.any fun row =>
      decide (row.chargeId = charge.chargeId) &&
        (!compatible row.paymentIntent (some charge.paymentIntent) ||
          decide (charge.receivedCents < row.amountCents) ||
          decide (row.currency ≠ charge.currency))) ||
    (seen.warnings.rows.any fun row =>
      decide (row.chargeId = charge.chargeId) &&
        !compatible row.paymentIntent (some charge.paymentIntent))

def bindCharge (intent : PaymentIntent) : Table.Change ChargeCash.chargeId where
  apply := fun row => { row with paymentIntent := some intent }
  kept := fun _ => rfl

/-- The charge's rows without a payment intent take the collection's.  An
`UPDATE` picks its rows in the snapshot and tests them again as they are. -/
def bindCashState (seen s : State) (charge : ChargeResult) : State :=
  { s with
    charges := s.charges.update
      (fun row =>
        decide (row.chargeId = charge.chargeId) && row.paymentIntent.isNone &&
          (seen.charges.find? row.chargeId).any fun old => old.paymentIntent.isNone)
      (bindCharge charge.paymentIntent)
    disputes := s.disputes.update
      (fun row =>
        decide (row.chargeId = charge.chargeId) && row.paymentIntent.isNone &&
          (seen.disputes.find? row.disputeId).any fun old => old.paymentIntent.isNone)
      (bindDispute charge.paymentIntent) }

def ChargeResult.collection (charge : ChargeResult) (buyer : Nat)
    (source : Option ChargedSource) : Collection where
  paymentIntent := charge.paymentIntent
  chargeId := charge.chargeId
  buyerId := buyer
  source
  receivedCents := charge.receivedCents
  currency := charge.currency

/-- `INSERT INTO buyer_cash_collections`, which accepts the row that is there.
No two collections have one charge, one job or one batch. -/
def recordCollection (s : State) (row : Collection) : Except Failure State :=
  match fresh : s.collections.find? row.paymentIntent with
  | some stored =>
    if stored = row then .ok s else .error .cashSourceConflict
  | none =>
    if s.collections.rows.any fun other =>
        decide (other.chargeId = row.chargeId) ||
          (row.source.isSome && decide (other.source = row.source)) then
      .error .duplicateKey
    else .ok { s with collections := s.collections.insert row fresh }

/-- A charge confirmation.  `eligible` is what the statement finds about the
job or batch and its charge operation. -/
structure Confirmation where
  charge : ChargeResult
  buyerId : Nat
  source : ChargedSource
  eligible : Bool

/-- `confirmJobChargeSQL` and `confirmBatchChargeSQL`: one statement that takes
the lock, checks, records and binds. -/
def confirmCharge (seen s : State) (confirmation : Confirmation) : Except Failure State :=
  if confirmation.charge.receivedCents ≤ 0 ∨ confirmation.eligible = false then .error .notEligible
  else if bindingConflict seen confirmation.charge then .error .bindingConflict
  else
    (recordCollection s
      (confirmation.charge.collection confirmation.buyerId
        (some confirmation.source))).bind fun recorded =>
    .ok (bindCashState seen recorded confirmation.charge)

def bindStripeCashStateToCollection (s : State) (charge : ChargeResult) : Except Failure State :=
  if bindingConflict s charge then .error .bindingConflict else .ok (bindCashState s s charge)

def beginPrepaidTopup (s : State) (key buyer : Nat) (amountCents : Int)
    (currency : CurrencyCode) : Except Failure State :=
  match fresh : s.topups.find? key with
  | some stored =>
    if stored.buyerId = buyer ∧ stored.amountCents = amountCents ∧ stored.currency = currency then
      .ok s
    else .error .topupConflict
  | none =>
    .ok { s with topups := s.topups.insert ⟨key, buyer, amountCents, currency, none⟩ fresh }

def creditPendingTopup (s : State) (operation : TopupOperation)
    (charge : ChargeResult) : Except Failure State :=
  (recordCollection s (charge.collection operation.buyerId none)).bind fun recorded =>
  (bindStripeCashStateToCollection recorded charge).bind fun bound =>
  .ok { bound with
    topups := bound.topups.set
      { operation with succeeded := some (charge.paymentIntent, charge.chargeId) } }

/-- The lock is a statement of its own, so that every check sees the present
rows. -/
def creditPrepaidTopup (s : State) (key buyer : Nat) (charge : ChargeResult) :
    Except Failure State :=
  if charge.receivedCents ≤ 0 then .error .topupConflict
  else
    match fresh : s.topups.find? key with
    | none =>
      creditPendingTopup
        { s with
          topups :=
            s.topups.insert ⟨key, buyer, charge.receivedCents, charge.currency, none⟩ fresh }
        ⟨key, buyer, charge.receivedCents, charge.currency, none⟩ charge
    | some operation =>
      if operation.buyerId ≠ buyer ∨ operation.amountCents ≠ charge.receivedCents ∨
          operation.currency ≠ charge.currency then
        .error .topupConflict
      else
        match operation.succeeded with
        | none => creditPendingTopup s operation charge
        | some identity =>
          if identity ≠ (charge.paymentIntent, charge.chargeId) then .error .topupConflict
          else bindStripeCashStateToCollection s charge

def warningConflict (seen : State) (event : RiskEvent) : Bool :=
  seen.warnings.rows.any fun row =>
    decide (row.warningId = event.warningId) &&
      (decide (row.chargeId ≠ event.chargeId) || !compatible row.paymentIntent event.paymentIntent)

def cashConflict (seen : State) (event : RiskEvent) : Bool :=
  (seen.collections.rows.any fun row =>
      decide (row.chargeId = event.chargeId) &&
        !compatible (some row.paymentIntent) event.paymentIntent) ||
    (seen.charges.rows.any fun row =>
      decide (row.chargeId = event.chargeId) &&
        !compatible row.paymentIntent event.paymentIntent) ||
    (seen.disputes.rows.any fun row =>
      decide (row.chargeId = event.chargeId) && !compatible row.paymentIntent event.paymentIntent)

/-- One statement that takes the lock of the charge and of the warning, checks
and inserts. -/
def applyStripeRiskEvent (seen s : State) (event : RiskEvent) : Except Failure State :=
  if warningConflict seen event || cashConflict seen event then .error .warningConflict
  else
    match fresh : s.warnings.find? event.eventId with
    | some stored => if stored = event then .ok s else .error .eventConflict
    | none => .ok { s with warnings := s.warnings.insert event fresh }

inductive Step where
  | deliver (event : CashEvent)
  | confirm (confirmation : Confirmation)
  | beginTopup (key buyer : Nat) (amountCents : Int) (currency : CurrencyCode)
  | creditTopup (key buyer : Nat) (charge : ChargeResult)
  | warn (event : RiskEvent)
  | reserve (request : FundingRequest)

/-- A transaction that waits for no other sees the state it changes. -/
def step (s : State) : Step → Except Failure State
  | .deliver event => applyPaymentEventTx s event
  | .confirm confirmation => confirmCharge s s confirmation
  | .beginTopup key buyer amountCents currency => beginPrepaidTopup s key buyer amountCents currency
  | .creditTopup key buyer charge => creditPrepaidTopup s key buyer charge
  | .warn event => applyStripeRiskEvent s s event
  | .reserve request => reservePayoutFunding s request

def run (s : State) (steps : List Step) : State := Machine.run step s steps

end MercControl.Stripe
