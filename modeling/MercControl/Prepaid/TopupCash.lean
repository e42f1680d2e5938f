import MercControl.Library.Machine
import MercControl.Library.Rows

/-!
# Top-up cash, prepaid refunds and payout funding

A prepaid refund is planned over the top-ups of one buyer from the newest to
the oldest, one slice per payment intent; a supplier payout reserves its cents
against the oldest top-up that fits in what its query saw.

`factor` is the number of micros in one cent.  What the live jobs and contracts
hold is handed to a refund as `held`.
-/

namespace MercControl.Prepaid

open Library

abbrev PaymentIntent := Nat

/-- A succeeded `prepaid_topup_operations` row with its cash collection. -/
structure Topup where
  paymentIntent : PaymentIntent
  receivedCents : Int

inductive SliceStatus where
  | pending
  | succeeded
  | failed
  deriving DecidableEq

/-- A `prepaid_refund_operations` row; its key is the pair of the refund key
and the payment intent. -/
structure RefundSlice where
  refundKey : Nat
  paymentIntent : PaymentIntent
  cents : Int
  status : SliceStatus
  refundId : Option Nat

/-- A `supplier_payout_funding` row of kind `buyer_collection`. -/
structure PayoutFunding where
  entry : Nat
  paymentIntent : PaymentIntent
  cents : Int

/-- A top-up in the query of `reserveBuyerTopupPayoutFunding`. -/
structure Candidate where
  paymentIntent : PaymentIntent
  receivedCents : Int
  unavailable : Int
  reserved : Int

/-- A payout claim between its query and its end.  The query waits for the
locks on the top-ups, and then returns what its statement saw when it began. -/
structure PayoutClaim where
  entry : Nat
  requested : Int
  candidates : List Candidate

structure State where
  balanceMicros : Int
  /-- In the order in which the collections were recorded. -/
  topups : List Topup
  slices : List RefundSlice
  funding : List PayoutFunding
  claims : List PayoutClaim
  refundedCents : PaymentIntent → Int
  /-- `stripe_dispute_cash_state.amount_cents` where `cash_unavailable`. -/
  disputedCents : PaymentIntent → Int

def State.empty : State where
  balanceMicros := 0
  topups := []
  slices := []
  funding := []
  claims := []
  refundedCents := fun _ => 0
  disputedCents := fun _ => 0

inductive Failure where
  | invalidArguments
  | insufficientPrepaid
  | belowMinorUnit
  | exceedsFundedValue
  | missingSlice
  | conflictingIdentity
  | fundingMismatch
  | entryLocked
  | missingClaim

/-- A pending or succeeded slice holds its cents; a failed one gave them
back. -/
def RefundSlice.holds (slice : RefundSlice) : Bool :=
  slice.status = .pending || slice.status = .succeeded

def slicedCents (s : State) (intent : PaymentIntent) : Int :=
  Rows.sumWhere (fun slice => decide (slice.paymentIntent = intent) && slice.holds)
    RefundSlice.cents s.slices

def reservedCents (s : State) (intent : PaymentIntent) : Int :=
  Rows.sumWhere (fun row => decide (row.paymentIntent = intent)) PayoutFunding.cents s.funding

def refundable (s : State) (topup : Topup) : Int :=
  topup.receivedCents - slicedCents s topup.paymentIntent

/-- The loop of `planPrepaidRefundSlicesTx`, with the cents that remain to be
allocated.  The second component could not be traced to a top-up. -/
def planPrepaidRefundSlices (s : State) (key : Nat) : List Topup → Int → List RefundSlice × Int
  | [], remaining => ([], remaining)
  | topup :: rest, remaining =>
    if remaining ≤ 0 ∨ refundable s topup ≤ 0 then planPrepaidRefundSlices s key rest remaining
    else
      let take := min (refundable s topup) remaining
      let planned := planPrepaidRefundSlices s key rest (remaining - take)
      (⟨key, topup.paymentIntent, take, .pending, none⟩ :: planned.1, planned.2)

/-- The whole cents in the unreserved part of the balance. -/
def refundCents (factor : Nat) (s : State) (held : Nat) : Int := (s.balanceMicros - held) / factor

/-- A refund key that already has slices is a replay and moves nothing. -/
def beginPrepaidRefund (factor : Nat) (s : State) (key held : Nat) : Except Failure State :=
  if s.slices.any fun slice => decide (slice.refundKey = key) then .ok s
  else if s.balanceMicros - held ≤ 0 then .error .insufficientPrepaid
  else if refundCents factor s held ≤ 0 then .error .belowMinorUnit
  else
    let planned := planPrepaidRefundSlices s key s.topups.reverse (refundCents factor s held)
    if 0 < planned.2 then .error .exceedsFundedValue
    else
      .ok { s with
        balanceMicros := s.balanceMicros - refundCents factor s held * factor
        slices := s.slices ++ planned.1 }

def RefundSlice.isOf (key : Nat) (intent : PaymentIntent) (slice : RefundSlice) : Bool :=
  slice.refundKey = key && slice.paymentIntent = intent

def RefundSlice.isPendingOf (key : Nat) (intent : PaymentIntent) (slice : RefundSlice) : Bool :=
  slice.isOf key intent && slice.status = .pending

def recordPrepaidRefundProviderId
    (s : State) (key : Nat) (intent : PaymentIntent) (refundId : Nat) :
    Except Failure State :=
  match s.slices.find? (RefundSlice.isOf key intent) with
  | none => .error .missingSlice
  | some slice =>
    if slice.status = .pending ∧ (slice.refundId = none ∨ slice.refundId = some refundId) then
      .ok { s with
        slices := Rows.updateWhere (RefundSlice.isPendingOf key intent)
          (fun row => { row with refundId := some refundId }) s.slices }
    else if slice.refundId = some refundId ∧ slice.status = .succeeded then .ok s
    else .error .conflictingIdentity

/-- The provider ended the slice without returning cash, so the balance gets it
back once. -/
def failPrepaidRefund (factor : Nat) (s : State) (key : Nat) (intent : PaymentIntent)
    (refundId : Nat) : Except Failure State :=
  match s.slices.find? (RefundSlice.isOf key intent) with
  | none => .error .missingSlice
  | some slice =>
    if slice.refundId ≠ some refundId then .error .conflictingIdentity
    else
      match slice.status with
      | .failed => .ok s
      | .succeeded => .error .conflictingIdentity
      | .pending =>
        .ok { s with
          balanceMicros := s.balanceMicros + slice.cents * factor
          slices := Rows.updateWhere (RefundSlice.isPendingOf key intent)
            (fun row => { row with status := .failed }) s.slices }

def completePrepaidRefund (s : State) (key : Nat) (intent : PaymentIntent) (refundId : Nat) :
    Except Failure State :=
  match s.slices.find? (RefundSlice.isOf key intent) with
  | none => .error .missingSlice
  | some slice =>
    if slice.status = .pending ∧ (slice.refundId = none ∨ slice.refundId = some refundId) then
      .ok { s with
        slices := Rows.updateWhere (RefundSlice.isPendingOf key intent)
          (fun row => { row with status := .succeeded, refundId := some refundId })
          s.slices }
    else if slice.refundId = some refundId ∧ slice.status = .succeeded then .ok s
    else .error .conflictingIdentity

/-- The cash of each top-up: what Stripe took out of it,
`LEAST(received, refunded + disputed)`, and what payouts have reserved. -/
def candidates (s : State) : List Candidate :=
  s.topups.map fun topup =>
    { paymentIntent := topup.paymentIntent
      receivedCents := topup.receivedCents
      unavailable := min topup.receivedCents
        (s.refundedCents topup.paymentIntent + s.disputedCents topup.paymentIntent)
      reserved := reservedCents s topup.paymentIntent }

def Candidate.fits (requested : Int) (candidate : Candidate) : Bool :=
  let available := candidate.receivedCents - candidate.unavailable
  decide (0 < candidate.receivedCents) && decide (0 ≤ candidate.reserved) &&
    decide (candidate.reserved ≤ available) &&
    decide (requested ≤ available - candidate.reserved)

def PayoutClaim.isOf (entry : Nat) (claim : PayoutClaim) : Bool := claim.entry = entry

/-- Up to the query of `reserveBuyerTopupPayoutFunding`, under the lock on the
ledger entry.  A liability that is already funded keeps its funding. -/
def beginPayoutClaim (s : State) (entry : Nat) (requested : Int) : Except Failure State :=
  if s.claims.any (PayoutClaim.isOf entry) then .error .entryLocked
  else
    match s.funding.find? fun row => decide (row.entry = entry) with
    | some row => if row.cents ≠ requested then .error .fundingMismatch else .ok s
    | none =>
      if requested ≤ 0 then .error .invalidArguments
      else .ok { s with claims := s.claims ++ [⟨entry, requested, candidates s⟩] }

def State.endClaim (s : State) (entry : Nat) : State :=
  { s with claims := s.claims.filter fun claim => !claim.isOf entry }

/-- The oldest candidate that fits takes the whole request. -/
def reserveBuyerTopupPayoutFunding (s : State) (entry : Nat) : Except Failure State :=
  match s.claims.find? (PayoutClaim.isOf entry) with
  | none => .error .missingClaim
  | some claim =>
    match claim.candidates.find? (Candidate.fits claim.requested) with
    | none => .ok (s.endClaim entry)
    | some candidate =>
      .ok { s.endClaim entry with
        funding := s.funding ++ [⟨entry, candidate.paymentIntent, claim.requested⟩] }

/-- A payment intent that was credited before is a replay. -/
def creditPrepaidTopup (factor : Nat) (s : State) (intent : PaymentIntent) (cents : Int) :
    Except Failure State :=
  if cents ≤ 0 then .error .invalidArguments
  else
    match s.topups.find? fun row => decide (row.paymentIntent = intent) with
    | some row =>
      if row.receivedCents ≠ cents then .error .conflictingIdentity else .ok s
    | none =>
      .ok { s with
        balanceMicros := s.balanceMicros + cents * factor
        topups := s.topups ++ [⟨intent, cents⟩] }

inductive Event where
  | topup (intent : PaymentIntent) (cents : Int)
  /-- A debit of the balance by a job, a lease or a realtime contract. -/
  | spend (micros : Nat)
  /-- A debit given back to the balance. -/
  | giveBack (micros : Nat)
  | beginRefund (key held : Nat)
  | recordProviderId (key : Nat) (intent : PaymentIntent) (refundId : Nat)
  | failRefund (key : Nat) (intent : PaymentIntent) (refundId : Nat)
  | completeRefund (key : Nat) (intent : PaymentIntent) (refundId : Nat)
  | beginPayout (entry : Nat) (requested : Int)
  | reservePayout (entry : Nat)
  | abandonPayout (entry : Nat)
  /-- Stripe reports the refunded and disputed cash of a charge. -/
  | stripeCash (intent : PaymentIntent) (refunded disputed : Int)

def step (factor : Nat) (s : State) : Event → Except Failure State
  | .topup intent cents => creditPrepaidTopup factor s intent cents
  | .spend micros =>
    if s.balanceMicros < micros then .error .insufficientPrepaid
    else .ok { s with balanceMicros := s.balanceMicros - micros }
  | .giveBack micros => .ok { s with balanceMicros := s.balanceMicros + micros }
  | .beginRefund key held => beginPrepaidRefund factor s key held
  | .recordProviderId key intent refundId => recordPrepaidRefundProviderId s key intent refundId
  | .failRefund key intent refundId => failPrepaidRefund factor s key intent refundId
  | .completeRefund key intent refundId => completePrepaidRefund s key intent refundId
  | .beginPayout entry requested => beginPayoutClaim s entry requested
  | .reservePayout entry => reserveBuyerTopupPayoutFunding s entry
  | .abandonPayout entry => .ok (s.endClaim entry)
  | .stripeCash intent refunded disputed =>
    .ok { s with
      refundedCents := Function.update s.refundedCents intent refunded
      disputedCents := Function.update s.disputedCents intent disputed }

end MercControl.Prepaid
