import Mathlib.Data.Prod.Lex
import MercControl.Library.Joins
import MercControl.Stripe.CashSteps

/-!
# What holds of the cash rows in every state

The row of a charge or of a dispute is the join of the events stored about it.
Once the collection of a charge is recorded every row of the charge has a
payment intent, and reservations are impaired by the present rows.
-/

namespace MercControl.Stripe

open Library Table Rows

/-! ## Rows as joins of events -/

/-- The place of an event in the order in which cash effects override each
other. -/
def CashEvent.effectKey (event : CashEvent) : Nat ×ₗ Nat :=
  toLex (event.effectCreated, event.effectRank)

def DisputeCash.effectKey (row : DisputeCash) : Nat ×ₗ Nat :=
  toLex (row.effectCreated, row.effectRank)

def rankUnavailable (rank : Nat) : Bool := 0 < rank && rank < 40

variable {charge : ChargeId} {row : Funding} {s next : State} {event : CashEvent}
  {intent : Option PaymentIntent}

theorem cashUnavailable_eq_rankUnavailable :
    event.cashUnavailable = rankUnavailable event.effectRank := by
  unfold CashEvent.cashUnavailable CashEvent.effectRank CashEvent.effect
  cases event.eventType <;> cases event.status <;> simp [disputeCashEffect, rankUnavailable]

theorem effectKey_of_rank_zero (zero : event.effectRank = 0) : event.effectKey = toLex (0, 0) := by
  have none : event.effectCreated = 0 := by
    revert zero
    unfold CashEvent.effectRank CashEvent.effectCreated CashEvent.effect
    cases event.eventType <;> cases event.status <;> simp [disputeCashEffect]
  rw [CashEvent.effectKey, zero, none]

structure ChargeCash.Merges (row : ChargeCash) (refunds : Set CashEvent) : Prop where
  refunded : IsGreatest (CashEvent.refundedCents '' refunds) row.refundedCents
  fixed : ∀ event ∈ refunds, row.amountCents = event.amountCents ∧ row.currency = event.currency

structure DisputeCash.Merges (row : DisputeCash) (events : Set CashEvent) : Prop where
  effect : IsGreatest (CashEvent.effectKey '' events) row.effectKey
  flag : row.cashUnavailable = rankUnavailable row.effectRank
  fixed : ∀ event ∈ events,
    row.chargeId = event.chargeId ∧ row.amountCents = event.amountCents ∧
      row.currency = event.currency

section

variable {events : Set CashEvent}

theorem refundRow_merges : (event.refundRow intent).Merges {event} where
  refunded := by
    rw [Set.image_singleton]
    exact isGreatest_singleton
  fixed := by
    rintro other rfl
    exact ⟨rfl, rfl⟩

theorem disputeRow_merges : (event.disputeRow intent).Merges {event} where
  effect := by
    rw [Set.image_singleton]
    exact isGreatest_singleton
  flag := cashUnavailable_eq_rankUnavailable
  fixed := by
    rintro other rfl
    exact ⟨rfl, rfl, rfl⟩

theorem ChargeCash.Merges.merge {row : ChargeCash} (merges : row.Merges events)
    (fits : row.amountCents = event.amountCents ∧ row.currency = event.currency) :
    (row.merge event intent).Merges (insert event events) where
  refunded := by
    rw [Set.image_insert_eq]
    have greatest := merges.refunded.insert event.refundedCents
    rw [max_comm] at greatest
    exact greatest
  fixed := by
    rintro other (rfl | mem)
    · exact fits
    · exact merges.fixed other mem

theorem DisputeCash.merge_effectKey (row : DisputeCash) :
    (row.merge event intent).effectKey = max event.effectKey row.effectKey := by
  have yields :
      row.yieldsTo event = true ↔ row.effectKey ≤ event.effectKey ∧ 0 < event.effectRank := by
    simp [DisputeCash.yieldsTo, DisputeCash.effectKey, CashEvent.effectKey, Prod.Lex.toLex_le_toLex]
  by_cases yielding : row.yieldsTo event = true
  · rw [max_eq_left (yields.mp yielding).1]
    simp [DisputeCash.effectKey, DisputeCash.merge, yielding, CashEvent.effectKey]
  have kept : (row.merge event intent).effectKey = row.effectKey := by
    simp [DisputeCash.effectKey, DisputeCash.merge, yielding]
  rw [kept, max_eq_right]
  rcases Nat.eq_zero_or_pos event.effectRank with zero | pos
  · rw [effectKey_of_rank_zero zero, DisputeCash.effectKey, Prod.Lex.toLex_le_toLex]
    simp only
    omega
  · by_contra later
    exact yielding (yields.mpr ⟨(not_le.mp later).le, pos⟩)

theorem DisputeCash.Merges.merge {row : DisputeCash} (merges : row.Merges events)
    (fits : row.chargeId = event.chargeId ∧
      row.amountCents = event.amountCents ∧ row.currency = event.currency) :
    (row.merge event intent).Merges (insert event events) where
  effect := by
    rw [Set.image_insert_eq, DisputeCash.merge_effectKey]
    exact merges.effect.insert event.effectKey
  flag := by
    by_cases yielding : row.yieldsTo event = true
    · simp [DisputeCash.merge, yielding, cashUnavailable_eq_rankUnavailable]
    · simp [DisputeCash.merge, yielding, merges.flag]
  fixed := by
    rintro other (rfl | mem)
    · exact fits
    · exact merges.fixed other mem

theorem ChargeCash.Merges.bindTo {row : ChargeCash} (merges : row.Merges events) :
    (row.bindTo charge intent).Merges events := by
  unfold ChargeCash.bindTo
  split_ifs
  · exact ⟨merges.refunded, merges.fixed⟩
  · exact merges

theorem DisputeCash.Merges.bindTo {row : DisputeCash} (merges : row.Merges events) :
    (row.bindTo charge intent).Merges events := by
  unfold DisputeCash.bindTo
  split_ifs
  · exact { merges with }
  · exact merges

end

def storedWhere (s : State) (about : CashEvent → Prop) : Set CashEvent :=
  { event | event ∈ s.events.rows ∧ about event }

def refundsOf (s : State) (charge : ChargeId) : Set CashEvent :=
  storedWhere s fun event => event.isRefund = true ∧ event.chargeId = charge

def eventsOf (s : State) (dispute : DisputeId) : Set CashEvent :=
  storedWhere s fun event => event.isRefund = false ∧ event.objectId = dispute

/-- The rows are the joins of the stored events. -/
structure Merged (s : State) : Prop where
  charges : s.charges.Explains ChargeCash.Merges (refundsOf s)
  disputes : s.disputes.Explains DisputeCash.Merges (eventsOf s)

theorem storedWhere_insert {about : CashEvent → Prop} [DecidablePred about]
    {fresh : s.events.find? event.eventId = none}
    (stored : next.events = s.events.insert event fresh) :
    storedWhere next about =
      if about event then insert event (storedWhere s about) else storedWhere s about := by
  ext other
  have isStored :
      other ∈ storedWhere next about ↔ (other ∈ s.events.rows ∨ other = event) ∧ about other := by
    simp [storedWhere, stored, Table.insert]
  rw [isStored]
  split_ifs with reported
  · constructor
    · rintro ⟨known | rfl, isAbout⟩
      · exact .inr ⟨known, isAbout⟩
      · exact .inl rfl
    · rintro (rfl | ⟨known, isAbout⟩)
      · exact ⟨.inr rfl, reported⟩
      · exact ⟨.inl known, isAbout⟩
  · constructor
    · rintro ⟨known | rfl, isAbout⟩
      · exact ⟨known, isAbout⟩
      · exact absurd isAbout reported
    · rintro ⟨known, isAbout⟩
      exact ⟨.inl known, isAbout⟩

theorem Merged.accepted (merged : Merged s) (accepted : Accepted s next event) : Merged next := by
  have refunds : ∀ charge, refundsOf next charge =
      if event.isRefund = true ∧ event.chargeId = charge then insert event (refundsOf s charge)
      else refundsOf s charge :=
    fun _ => storedWhere_insert accepted.events
  have disputed : ∀ dispute, eventsOf next dispute =
      if event.isRefund = false ∧ event.objectId = dispute then insert event (eventsOf s dispute)
      else eventsOf s dispute :=
    fun _ => storedWhere_insert accepted.events
  cases isRefund : event.isRefund with
  | true =>
    simp only [isRefund, true_and, Bool.true_eq_false, false_and, if_false] at refunds disputed
    have written := accepted.refund isRefund
    constructor
    · refine merged.charges.write (fun old => refundAfter old event _)
        written.charges refunds refundRow_merges ?_
      intro row found merges
      have fits := written.fits row found
      exact merges.merge ⟨fits.1, fits.2.1⟩
    · exact merged.disputes.mapped written.disputes disputed fun _ _ merges => merges.bindTo
  | false =>
    simp only [isRefund, true_and, Bool.false_eq_true, false_and, if_false] at refunds disputed
    have written := accepted.dispute isRefund
    constructor
    · rw [written.charges, funext refunds]
      exact merged.charges
    · refine merged.disputes.write (fun old => disputeAfter old event _)
        written.disputes disputed disputeRow_merges ?_
      intro row found merges
      have fits := written.fits row found
      exact merges.merge ⟨fits.1, fits.2.1, fits.2.2.1⟩

variable {move : Step} {collection : Collection}

theorem Merged.records (merged : Merged s) (records : Records s next move collection) :
    Merged next := by
  have refunds : ∀ charge, refundsOf next charge = refundsOf s charge := by
    intro charge
    rw [refundsOf, storedWhere, records.events]
    rfl
  have disputed : ∀ dispute, eventsOf next dispute = eventsOf s dispute := by
    intro dispute
    rw [eventsOf, storedWhere, records.events]
    rfl
  exact ⟨merged.charges.mapped records.charges refunds fun _ _ merges => merges.bindTo,
      merged.disputes.mapped records.disputes disputed fun _ _ merges => merges.bindTo⟩

/-! ## Which payment intent an event writes -/

theorem or_of_compatible {first second : Option PaymentIntent}
    (fits : compatible first second = true) (kept : second = none → first = none) :
    first.or second = second := by
  rcases compatible_iff.mp fits with isNone | isNone | rfl
  · rw [isNone, Option.none_or]
  · rw [kept isNone, Option.none_or]
  · exact Option.or_self

theorem none_or_eq_of_or {first second known : Option PaymentIntent}
    (merged : first.or second = known) : first = none ∨ first = known := by
  cases first with
  | none => exact .inl rfl
  | some => exact .inr merged

theorem refundAfter_paymentIntent (isRefund : event.isRefund = true)
    (written : RefundWritten s next event (resolvePaymentIntent s event)) :
    (refundAfter (s.charges.find? event.chargeId) event
      (resolvePaymentIntent s event)).paymentIntent = resolvePaymentIntent s event := by
  cases found : s.charges.find? event.chargeId with
  | none => rfl
  | some row =>
    refine or_of_compatible (written.fits row found).2.2 fun missing => ?_
    simp [resolvePaymentIntent, found, isRefund] at missing
    exact missing.2.2

theorem disputeAfter_paymentIntent (isRefund : event.isRefund = false)
    (written : DisputeWritten s next event (resolvePaymentIntent s event)) :
    (disputeAfter (s.disputes.find? event.objectId) event
      (resolvePaymentIntent s event)).paymentIntent = resolvePaymentIntent s event := by
  cases found : s.disputes.find? event.objectId with
  | none => rfl
  | some row =>
    refine or_of_compatible (written.fits row found).2.2.2 fun missing => ?_
    simp [resolvePaymentIntent, found, isRefund] at missing
    exact missing.2.2.2

/-- Rows change only into rows of the charge under the given payment intent,
and only if they had no other one. -/
def WrittenUnder {Row Key : Type} [DecidableEq Key] {key : Row → Key} (charged : Row → ChargeId)
    (named : Row → Option PaymentIntent) (charge : ChargeId) (intent : Option PaymentIntent)
    (table next : Table key) : Prop :=
  ∀ k, next.find? k = table.find? k ∨
    ∃ row, next.find? k = some row ∧ charged row = charge ∧ named row = intent ∧
      ∀ old, table.find? k = some old →
        charged old = charge ∧ (named old = none ∨ named old = intent)

section

variable {Row Key : Type} [DecidableEq Key] {key : Row → Key}
variable {charged : Row → ChargeId} {named : Row → Option PaymentIntent}
variable {table next : Table key}

section

variable (written : WrittenUnder charged named charge intent table next)

include written

theorem WrittenUnder.forall_rows {good : ChargeId → Option PaymentIntent → Prop}
    (before : ∀ row ∈ table.rows, good (charged row) (named row)) (new : good charge intent) :
    ∀ row ∈ next.rows, good (charged row) (named row) := by
  intro row mem
  have found := find?_of_mem mem
  rcases written (key row) with same | ⟨other, isOther, rfl, rfl, _⟩
  · exact before row (mem_of_find? (same ▸ found))
  · rw [isOther] at found
    rw [← Option.some.inj found]
    exact new

theorem WrittenUnder.total_eq {share : Row → Int} {other : PaymentIntent}
    (ne : intent ≠ some other) (only : ∀ row, named row ≠ some other → share row = 0) :
    next.total share = table.total share := by
  apply total_eq_of_find?
  intro k
  rcases written k with same | ⟨row, isRow, -, isNamed, before⟩
  · rw [same]
  · rw [isRow, Option.elim_some, only row (isNamed ▸ ne)]
    cases found : table.find? k with
    | none => rfl
    | some old =>
      rw [Option.elim_some, only old]
      rcases (before old found).2 with unnamed | wasNamed
      · rw [unnamed]
        exact nofun
      · rw [wasNamed]
        exact ne

end

theorem WrittenUnder.of_write {k : Key} {after : Row}
    (lookups : ∀ other, next.find? other = if k = other then some after else table.find? other)
    (isCharge : charged after = charge) (isNamed : named after = intent)
    (before : ∀ old, table.find? k = some old →
      charged old = charge ∧ (named old = none ∨ named old = intent)) :
    WrittenUnder charged named charge intent table next := by
  intro other
  rw [lookups]
  by_cases same : k = other
  · subst same
    rw [if_pos rfl]
    exact .inr ⟨after, rfl, isCharge, isNamed, before⟩
  · rw [if_neg same]
    exact .inl rfl

section

variable {bind bound : Row → Row}
  (lookups : ∀ k, next.find? k = (table.find? k).map bind)
  (binds : ∀ row, bind row = if charged row = charge ∧ named row = none then bound row else row)

include lookups binds

theorem WrittenUnder.of_bind (isCharge : ∀ row, charged (bound row) = charged row)
    (isNamed : ∀ row, named (bound row) = intent) :
    WrittenUnder charged named charge intent table next := by
  intro k
  rw [lookups]
  cases found : table.find? k with
  | none => exact .inl rfl
  | some row =>
    rw [Option.map_some, binds]
    split_ifs with unbound
    · right
      refine ⟨bound row, rfl, (isCharge row).trans unbound.1, isNamed row, ?_⟩
      rintro old isOld
      cases isOld
      exact ⟨unbound.1, .inl unbound.2⟩
    · exact .inl rfl

/-- After the binding every row of the charge has a payment intent. -/
theorem named_of_bind (isNamed : ∀ row, named (bound row) ≠ none) :
    ∀ row ∈ next.rows, charged row = charge → named row ≠ none := by
  intro row mem
  have found := find?_of_mem mem
  rw [lookups] at found
  obtain ⟨old, _, rfl⟩ := Option.map_eq_some_iff.mp found
  rw [binds]
  split_ifs with unbound
  · exact fun _ => isNamed old
  · exact fun isCharge missing => unbound ⟨isCharge, missing⟩

theorem find?_of_named
    (known : ∀ row ∈ table.rows, charged row = charge → named row ≠ none) (k : Key) :
    next.find? k = table.find? k := by
  rw [lookups]
  cases found : table.find? k with
  | none => rfl
  | some row =>
    rw [Option.map_some, binds, if_neg]
    intro unbound
    exact known row (mem_of_find? found) unbound.1 unbound.2

end

end

theorem Accepted.charges (accepted : Accepted s next event) :
    WrittenUnder ChargeCash.chargeId ChargeCash.paymentIntent event.chargeId
      (resolvePaymentIntent s event) s.charges next.charges := by
  cases isRefund : event.isRefund with
  | false =>
    rw [(accepted.dispute isRefund).charges]
    exact fun _ => .inl rfl
  | true =>
    have written := accepted.refund isRefund
    have isNamed := refundAfter_paymentIntent isRefund written
    refine WrittenUnder.of_write written.charges ?_ isNamed ?_
    · cases found : s.charges.find? event.chargeId with
      | none => rfl
      | some row =>
        have key : row.chargeId = event.chargeId := key_of_find? found
        exact key
    · intro old found
      refine ⟨key_of_find? found, ?_⟩
      rw [found] at isNamed
      exact none_or_eq_of_or isNamed

theorem Accepted.disputes (accepted : Accepted s next event) :
    WrittenUnder DisputeCash.chargeId DisputeCash.paymentIntent event.chargeId
      (resolvePaymentIntent s event) s.disputes next.disputes := by
  cases isRefund : event.isRefund with
  | true =>
    have written := accepted.refund isRefund
    have lookups := written.disputes
    rw [refundAfter_paymentIntent isRefund written] at lookups
    exact .of_bind lookups (fun _ => rfl) (fun _ => rfl) fun _ => rfl
  | false =>
    have written := accepted.dispute isRefund
    have isNamed := disputeAfter_paymentIntent isRefund written
    refine WrittenUnder.of_write written.disputes ?_ isNamed ?_
    · cases found : s.disputes.find? event.objectId with
      | none => rfl
      | some row => exact (written.fits row found).1
    · intro old found
      refine ⟨(written.fits old found).1, ?_⟩
      rw [found] at isNamed
      exact none_or_eq_of_or isNamed

/-- Refund and dispute rows change as in `WrittenUnder`. -/
structure Rewritten (charge : ChargeId) (intent : Option PaymentIntent) (s next : State) :
    Prop where
  charges : WrittenUnder ChargeCash.chargeId ChargeCash.paymentIntent
    charge intent s.charges next.charges
  disputes : WrittenUnder DisputeCash.chargeId DisputeCash.paymentIntent
    charge intent s.disputes next.disputes

theorem Accepted.rewritten (accepted : Accepted s next event) :
    Rewritten event.chargeId (resolvePaymentIntent s event) s next :=
  ⟨accepted.charges, accepted.disputes⟩

theorem Records.rewritten (records : Records s next move collection) :
    Rewritten collection.chargeId (some collection.paymentIntent) s next :=
  ⟨.of_bind records.charges (fun _ => rfl) (fun _ => rfl) fun _ => rfl,
    .of_bind records.disputes (fun _ => rfl) (fun _ => rfl) fun _ => rfl⟩

/-- Every refund and dispute row has a good charge and payment intent. -/
def EveryRow (good : ChargeId → Option PaymentIntent → Prop) (s : State) : Prop :=
  (∀ row ∈ s.charges.rows, good row.chargeId row.paymentIntent) ∧
    ∀ row ∈ s.disputes.rows, good row.chargeId row.paymentIntent

theorem EveryRow.rewritten {good : ChargeId → Option PaymentIntent → Prop}
    (every : EveryRow good s) (rewritten : Rewritten charge intent s next)
    (new : good charge intent) : EveryRow good next :=
  ⟨rewritten.charges.forall_rows every.1 new, rewritten.disputes.forall_rows every.2 new⟩

/-! ## The funding of a collection -/

variable {received : Int} {request : FundingRequest}

def chargeShare (intent : PaymentIntent) (row : ChargeCash) : Int :=
  if decide (row.paymentIntent = some intent) = true then row.refundedCents else 0

def disputeShare (intent : PaymentIntent) (row : DisputeCash) : Int :=
  if (decide (row.paymentIntent = some intent) && row.cashUnavailable) = true
  then row.amountCents
  else 0

theorem unavailableCents_eq (intent : PaymentIntent) (received : Int) :
    unavailableCents s intent received = min received
        (s.charges.total (chargeShare intent) + s.disputes.total (disputeShare intent)) := by
  rw [unavailableCents, ← sumWhere_ite s.charges.rows, ← sumWhere_ite s.disputes.rows]
  rfl

theorem unavailableCents_congr {intent : PaymentIntent} (charges : ∀ k,
      (next.charges.find? k).elim 0 (chargeShare intent) =
        (s.charges.find? k).elim 0 (chargeShare intent))
    (disputes : ∀ k, (next.disputes.find? k).elim 0 (disputeShare intent) =
        (s.disputes.find? k).elim 0 (disputeShare intent))
    (received : Int) :
    unavailableCents next intent received = unavailableCents s intent received := by
  rw [unavailableCents_eq, unavailableCents_eq,
    total_eq_of_find? charges, total_eq_of_find? disputes]

theorem unavailableCents_of_rewritten {intent : Option PaymentIntent} {other : PaymentIntent}
    (rewritten : Rewritten charge intent s next) (ne : intent ≠ some other) (received : Int) :
    unavailableCents next other received = unavailableCents s other received := by
  have noShare : ∀ row : ChargeCash, row.paymentIntent ≠ some other →
      chargeShare other row = 0 := by
    intro row unrelated
    simp [chargeShare, unrelated]
  have noDispute : ∀ row : DisputeCash, row.paymentIntent ≠ some other →
      disputeShare other row = 0 := by
    intro row unrelated
    simp [disputeShare, unrelated]
  rw [unavailableCents_eq, unavailableCents_eq,
    rewritten.charges.total_eq ne noShare, rewritten.disputes.total_eq ne noDispute]

theorem impairedCents_congr (reserved : reservedUpTo next row = reservedUpTo s row)
    (cash : unavailableCents next row.paymentIntent received =
      unavailableCents s row.paymentIntent received) :
    impairedCents next received row = impairedCents s received row := by
  rw [impairedCents, impairedCents, reserved, cash]

/-- Every reservation is positive, has its collection and records the cents
that its cash does not cover. -/
def Funded (s : State) : Prop :=
  ∀ row ∈ s.funding.rows, 0 < row.amountCents ∧
    ∃ collection,
      s.collections.find? row.paymentIntent = some collection ∧
        row.compromisedCents.getD 0 = impairedCents s collection.receivedCents row

theorem reservedUpTo_le (row : Funding) (pos : ∀ other ∈ s.funding.rows, 0 < other.amountCents) :
    reservedUpTo s row ≤ reservedCents s row.paymentIntent := by
  apply sumWhere_le_of_imp fun _ _ both => (Bool.and_eq_true_iff.mp both).1
  intro other mem _
  exact (pos other mem).le

def Funding.claim (row : Funding) : Funding := { row with compromisedCents := none }

theorem reservedUpTo_claims {other : Funding} (claims : (next.funding.rows.map Funding.claim).Perm
      (s.funding.rows.map Funding.claim)) (same : other.claim = row.claim) :
    reservedUpTo next other = reservedUpTo s row := by
  have overClaims : ∀ (state : State) (row : Funding), reservedUpTo state row = sumWhere
          (fun earlier =>
            decide (earlier.paymentIntent = row.claim.paymentIntent) &&
              earlier.noLaterThan row.claim)
          Funding.amountCents (state.funding.rows.map Funding.claim) := by
    intro state row
    rw [sumWhere_map]
    rfl
  rw [overClaims, overClaims, same]
  rw [sumWhere_eq_sum, sumWhere_eq_sum]
  exact (claims.map _).sum_eq

theorem recompute_claims (intent : PaymentIntent) (received : Int) :
    (recomputeStripeCollectionFunding s intent received).funding.rows.map
        Funding.claim = s.funding.rows.map Funding.claim := by
  show (s.funding.rows.map _).map Funding.claim = _
  rw [List.map_map]
  apply List.map_congr_left
  intro row _
  simp only [Function.comp_apply, Table.Change.where]
  split_ifs <;> rfl

/-! ## The invariant -/

def Named (s : State) : Prop :=
  ∀ collection ∈ s.collections.rows,
    EveryRow (fun charge intent => charge = collection.chargeId → intent ≠ none) s

structure Reached (s : State) : Prop where
  merged : Merged s
  valid : ∀ event ∈ s.events.rows, event.valid = true
  named : Named s
  funded : Funded s
  topups : TopupsCollected s
  oneCollection : ∀ collection ∈ s.collections.rows,
    ∀ other ∈ s.collections.rows, collection.chargeId = other.chargeId → collection = other

/-- Collections and stored webhooks are never removed. -/
structure Grows (s next : State) : Prop where
  collections : ∀ row ∈ s.collections.rows, row ∈ next.collections.rows
  events : ∀ event ∈ s.events.rows, event ∈ next.events.rows

section

theorem Grows.refl (s : State) : Grows s s := ⟨fun _ => id, fun _ => id⟩

theorem Grows.trans {last : State} (grows : Grows s next)
    (further : Grows next last) : Grows s last :=
  ⟨fun row mem => further.collections row (grows.collections row mem),
    fun row mem => further.events row (grows.events row mem)⟩

theorem Records.grows (records : Records s next move collection) : Grows s next := by
  constructor
  · exact fun _ mem => records.collections.mem_iff.mpr (.inl mem)
  · rw [records.events]
    exact fun _ mem => mem

theorem reached_empty : Reached State.empty where
  merged := ⟨fun _ => Set.eq_empty_of_forall_notMem fun _ stored => List.not_mem_nil stored.1,
    fun _ => Set.eq_empty_of_forall_notMem fun _ stored => List.not_mem_nil stored.1⟩
  valid := nofun
  named := nofun
  funded := nofun
  topups := nofun
  oneCollection := nofun

theorem resolvePaymentIntent_ne_none (mem : collection ∈ s.collections.rows)
    (same : collection.chargeId = event.chargeId) : resolvePaymentIntent s event ≠ none := by
  have found : collectionOfCharge s event.chargeId ≠ none := by
    intro absent
    have unused := List.find?_eq_none.mp absent collection mem
    simp [same] at unused
  obtain ⟨_, isOther⟩ := Option.ne_none_iff_exists'.mp found
  simp [resolvePaymentIntent, isOther]

/-- The payment intent of an event comes from the event, from a collection or
from a row. -/
theorem resolvePaymentIntent_of (good : Option PaymentIntent → Prop) (unnamed : good none)
    (own : good event.paymentIntent)
    (collections : ∀ other ∈ s.collections.rows, other.chargeId = event.chargeId →
      good (some other.paymentIntent))
    (charges : ∀ row ∈ s.charges.rows, row.chargeId = event.chargeId → good row.paymentIntent)
    (disputes : event.isRefund = false → ∀ row, s.disputes.find? event.objectId = some row →
      good row.paymentIntent) : good (resolvePaymentIntent s event) := by
  have either : ∀ first second : Option PaymentIntent, good first → good second →
      good (first.or second) := by
    intro first second isFirst isSecond
    cases first with
    | none => exact isSecond
    | some => exact isFirst
  refine either _ _ own (either _ _ ?_ (either _ _ ?_ ?_))
  · cases found : collectionOfCharge s event.chargeId with
    | none => exact unnamed
    | some other =>
      refine collections other (List.mem_of_find?_eq_some found) ?_
      simpa using List.find?_some found
  · cases found : s.charges.find? event.chargeId with
    | none => exact unnamed
    | some row => exact charges row (mem_of_find? found) (key_of_find? found)
  · split_ifs with isRefund
    · exact unnamed
    cases found : s.disputes.find? event.objectId with
    | none => exact unnamed
    | some row => exact disputes (by simpa using isRefund) row found

theorem Named.accepted (named : Named s) (accepted : Accepted s next event) : Named next := by
  rw [Named, accepted.collections]
  intro collection mem
  refine (named collection mem).rewritten accepted.rewritten ?_
  exact fun isCharge => resolvePaymentIntent_ne_none mem isCharge.symm

theorem Records.mem_of_ne (records : Records s next move collection) {other : Collection}
    (mem : other ∈ next.collections.rows) (ne : other.chargeId ≠ collection.chargeId) :
    other ∈ s.collections.rows := by
  rcases records.collections.mem_iff.mp mem with old | rfl
  · exact old
  · exact absurd rfl ne

theorem Records.recorded (records : Records s next move collection) :
    collection ∈ next.collections.rows :=
  records.collections.mem_iff.mpr (.inr rfl)

theorem Named.records (named : Named s) (records : Records s next move collection) :
    Named next := by
  intro other mem
  rcases records.collections.mem_iff.mp mem with old | rfl
  · exact (named other old).rewritten records.rewritten fun _ => Option.some_ne_none _
  constructor
  · exact named_of_bind records.charges (fun _ => rfl) fun _ => Option.some_ne_none _
  · exact named_of_bind records.disputes (fun _ => rfl) fun _ => Option.some_ne_none _

theorem Funded.accepted (funded : Funded s) (accepted : Accepted s next event) : Funded next := by
  have claims : (next.funding.rows.map Funding.claim).Perm (s.funding.rows.map Funding.claim) := by
    rw [accepted.funding]
    split
    · exact .refl _
    · rw [recompute_claims]
  have kept : ∀ row ∈ s.funding.rows, resolvePaymentIntent s event ≠ some row.paymentIntent →
      ∃ collection, next.collections.find? row.paymentIntent = some collection ∧
        row.compromisedCents.getD 0 = impairedCents next collection.receivedCents row := by
    intro row mem ne
    obtain ⟨-, collection, found, recorded⟩ := funded row mem
    rw [accepted.collections]
    refine ⟨collection, found, recorded.trans (impairedCents_congr ?_ ?_).symm⟩
    · exact reservedUpTo_claims claims rfl
    · exact unavailableCents_of_rewritten accepted.rewritten ne _
  intro row mem
  have fundingRows := accepted.funding
  cases linked : linkedCollection s event with
  | none =>
    rw [linked] at fundingRows
    rw [fundingRows] at mem
    obtain ⟨pos, collection, found, -⟩ := funded row mem
    refine ⟨pos, kept row mem ?_⟩
    intro same
    rw [linkedCollection, same, Option.bind_some, found] at linked
    cases linked
  | some collection =>
    rw [linked] at fundingRows
    obtain ⟨intent, isIntent, isLinked⟩ := Option.bind_eq_some_iff.mp linked
    have key : collection.paymentIntent = intent := key_of_find? isLinked
    rw [fundingRows] at mem
    obtain ⟨old, inTable, rfl⟩ := mem_update.mp mem
    by_cases selected : old.paymentIntent = collection.paymentIntent
    · rw [if_pos (decide_eq_true selected)]
      refine ⟨(funded old inTable).1, collection, ?_, ?_⟩
      · rw [accepted.collections, selected, key]
        exact isLinked
      · symm
        apply impairedCents_congr
        · exact reservedUpTo_claims claims rfl
        · rfl
    · rw [if_neg (by simpa using selected)]
      refine ⟨(funded old inTable).1, kept old inTable ?_⟩
      intro same
      rw [isIntent, ← key] at same
      exact selected (Option.some.inj same).symm

theorem Funded.records (funded : Funded s) (named : Named s)
    (records : Records s next move collection) : Funded next := by
  intro row mem
  rw [records.funding] at mem
  obtain ⟨pos, other, found, recorded⟩ := funded row mem
  have collectionKept : next.collections.find? row.paymentIntent = some other := by
    rw [find?_eq_some] at found ⊢
    exact ⟨records.grows.collections other found.1, found.2⟩
  refine ⟨pos, other, collectionKept, recorded.trans ?_⟩
  symm
  apply impairedCents_congr
  · exact reservedUpTo_claims (by rw [records.funding]) rfl
  by_cases same : row.paymentIntent = collection.paymentIntent
  · -- The charge was recorded before, so all its rows are named already.
    rcases records.collections with ⟨isThere, -⟩ | ⟨fresh, -⟩
    · have known := named collection isThere
      have charges := find?_of_named records.charges (fun _ => rfl) known.1
      have disputes := find?_of_named records.disputes (fun _ => rfl) known.2
      exact unavailableCents_congr (fun k => by rw [charges]) (fun k => by rw [disputes]) _
    · rw [← same, found] at fresh
      cases fresh
  · refine unavailableCents_of_rewritten records.rewritten ?_ _
    intro isIntent
    exact same (Option.some.inj isIntent).symm

theorem Funded.reserved (funded : Funded s) (reserved : Reserved s next request) : Funded next := by
  obtain ⟨collection, found, pos, fits⟩ := reserved.covered
  have key : collection.paymentIntent = request.paymentIntent := key_of_find? found
  have sameCash : ∀ intent received,
      unavailableCents next intent received = unavailableCents s intent received := by
    intro intent received
    rw [reserved.rest]
    rfl
  have sameCollections : next.collections = s.collections := by rw [reserved.rest]
  have positives : ∀ row ∈ next.funding.rows, 0 < row.amountCents := by
    intro row mem
    rw [reserved.rows, List.mem_append, List.mem_singleton] at mem
    rcases mem with old | rfl
    · exact (funded row old).1
    · exact pos
  simp only [capacityFits, key, Bool.and_eq_true, decide_eq_true_eq] at fits
  have total : reservedCents next request.paymentIntent =
      reservedCents s request.paymentIntent + request.amountCents := by
    simp [reservedCents, reserved.rows]
  -- Everything reserved against the collection, the request included, is
  -- covered, so nothing is impaired before or after.
  have coveredBefore : ∀ row : Funding, row.paymentIntent = request.paymentIntent →
        impairedCents s collection.receivedCents row = 0 := by
    intro row same
    have running := reservedUpTo_le row fun other mem => (funded other mem).1
    rw [impairedCents]
    rw [same] at running ⊢
    omega
  have coveredAfter : ∀ row : Funding, row.paymentIntent = request.paymentIntent →
        impairedCents next collection.receivedCents row = 0 := by
    intro row same
    have running := reservedUpTo_le row positives
    rw [impairedCents, same, sameCash]
    rw [same] at running
    omega
  intro row mem
  refine ⟨positives row mem, ?_⟩
  rw [sameCollections]
  rw [reserved.rows, List.mem_append, List.mem_singleton] at mem
  rcases mem with old | rfl
  · obtain ⟨-, other, isOther, recorded⟩ := funded row old
    refine ⟨other, isOther, recorded.trans ?_⟩
    by_cases same : row.paymentIntent = request.paymentIntent
    · rw [same, found] at isOther
      cases isOther
      rw [coveredBefore row same, coveredAfter row same]
    · symm
      apply impairedCents_congr
      · simp [reservedUpTo, reserved.rows, Ne.symm same]
      · exact sameCash _ _
  · exact ⟨collection, found, (coveredAfter _ rfl).symm⟩

/-- A step takes an event or a warning in, begins a top-up, records a charge, or
leaves all these alone. -/
inductive Steps (s next : State) : Step → Prop
  | rests {move : Step} (silent : move.collects = none)
      (rest : next = { s with funding := next.funding }) (funded : Funded next) :
      Steps s next move
  | begins {key buyer : Nat} {amountCents : Int} {currency : CurrencyCode}
      (rest : next = { s with topups := next.topups })
      (begun : ∀ operation ∈ next.topups.rows, operation ∈ s.topups.rows ∨
        operation = ⟨key, buyer, amountCents, currency, none⟩) :
      Steps s next (.beginTopup key buyer amountCents currency)
  | warns {event : RiskEvent} (rest : next = { s with warnings := next.warnings })
      (warned : ∀ row, row ∈ next.warnings.rows ↔ row ∈ s.warnings.rows ∨ row = event) :
      Steps s next (.warn event)
  | accepts {event : CashEvent} (valid : event.valid = true) (accepted : Accepted s next event) :
      Steps s next (.deliver event)
  | records {move : Step} {row : Collection} (records : Records s next move row) :
      Steps s next move

section

variable (reached : Reached s)

include reached

theorem Reached.accepted (valid : event.valid = true)
    (accepted : Accepted s next event) : Reached next where
  merged := reached.merged.accepted accepted
  valid := by
    rw [accepted.events]
    exact forall_insert accepted.fresh reached.valid valid
  named := reached.named.accepted accepted
  funded := reached.funded.accepted accepted
  topups := by
    rw [TopupsCollected, accepted.topups, accepted.collections]
    exact reached.topups
  oneCollection := by
    rw [accepted.collections]
    exact reached.oneCollection

theorem Reached.records (records : Records s next move collection) : Reached next where
  merged := reached.merged.records records
  valid := by
    rw [records.events]
    exact reached.valid
  named := reached.named.records records
  funded := reached.funded.records reached.named records
  topups := by
    intro operation mem identity succeeded
    rcases records.topups operation mem with old | ⟨whole, isWhole, rfl | rfl⟩
    · exact records.grows.collections _ (reached.topups operation old identity succeeded)
    · have isRow : operation.collection identity = collection := by
        have collects := records.collects
        cases move with
        | creditTopup =>
          cases isWhole
          cases succeeded
          simp only [Step.collects] at collects
          split_ifs at collects
          exact Option.some.inj collects
        | beginTopup | confirm | deliver | warn | reserve => cases isWhole <;> cases collects
      rw [isRow]
      exact records.recorded
    · cases succeeded
  oneCollection := by
    rcases records.collections with ⟨-, same⟩ | ⟨-, unused, inserted⟩
    · rw [same]
      exact reached.oneCollection
    · rw [inserted]
      intro row mem other otherMem sameCharge
      rw [List.mem_append, List.mem_singleton] at mem otherMem
      rcases mem with old | rfl
      · rcases otherMem with otherOld | rfl
        · exact reached.oneCollection row old other otherOld sameCharge
        · exact absurd sameCharge (unused row old)
      · rcases otherMem with otherOld | rfl
        · exact absurd sameCharge.symm (unused other otherOld)
        · rfl

theorem Reached.steps (ran : step s move = .ok next) : Steps s next move := by
  cases move with
  | deliver =>
    obtain ⟨valid, ⟨-, rfl⟩ | accepted⟩ := applyPaymentEventTx_ok ran
    · exact .rests rfl rfl reached.funded
    · exact .accepts valid accepted
  | confirm => exact .records (confirmCharge_ok (Sees.refl s _) ran)
  | beginTopup =>
    obtain ⟨rest, begun⟩ := beginPrepaidTopup_ok ran
    exact .begins rest begun
  | creditTopup => exact .records (creditPrepaidTopup_ok reached.topups ran)
  | warn =>
    obtain ⟨-, -, rest, warned⟩ := applyStripeRiskEvent_ok ran
    exact .warns rest warned
  | reserve =>
    rcases reservePayoutFunding_ok ran with rfl | reserved
    · exact .rests rfl rfl reached.funded
    · exact .rests rfl reserved.rest (reached.funded.reserved reserved)

theorem Reached.of_rest (rest : next =
      { s with topups := next.topups, warnings := next.warnings, funding := next.funding })
    (topups : TopupsCollected next) (funded : Funded next) : Reached next := by
  rw [rest] at topups funded ⊢
  exact
    { merged := ⟨reached.merged.charges, reached.merged.disputes⟩
      valid := reached.valid
      named := reached.named
      funded
      topups
      oneCollection := reached.oneCollection }

theorem Reached.stepped (ran : step s move = .ok next) : Reached next := by
  cases reached.steps ran with
  | rests _ rest funded =>
    refine reached.of_rest (by rw [rest]) ?_ funded
    rw [rest]
    exact reached.topups
  | begins rest begun =>
    refine reached.of_rest (by rw [rest]) ?_ (by rw [rest]; exact reached.funded)
    intro operation mem identity succeeded
    rcases begun operation mem with old | rfl
    · rw [rest]
      exact reached.topups operation old identity succeeded
    · cases succeeded
  | warns rest =>
    rw [rest]
    exact reached.of_rest rfl reached.topups reached.funded
  | accepts valid accepted => exact reached.accepted valid accepted
  | records records => exact reached.records records

end

theorem Reached.ran (steps : List Step) (reached : Reached s) : Reached (run s steps) :=
  Machine.invariant_run_of_preserved (fun _ _ _ holds => holds.stepped) steps reached

end

/-! ## Events that fit a collection -/

def Fits (collection : Collection) (event : CashEvent) : Prop :=
  event.currency = collection.currency ∧
    (event.isRefund = true → event.amountCents = collection.receivedCents)

/-- An event that contradicts nothing in the collection of its charge. -/
def Covered (collection : Collection) (event : CashEvent) : Prop :=
  Fits collection event ∧
    (event.isRefund = false → event.amountCents ≤ collection.receivedCents)

section

variable (merged : Merged s) (covered : ∀ event ∈ s.events.rows,
  event.chargeId = collection.chargeId → Covered collection event)

include merged covered

theorem Merged.charge_covered {row : ChargeCash} (mem : row ∈ s.charges.rows)
    (isCharge : row.chargeId = collection.chargeId) :
    row.amountCents = collection.receivedCents ∧ row.currency = collection.currency := by
  have merges := merged.charges.row_sums (find?_of_mem mem)
  obtain ⟨event, isEvent, -⟩ := merges.refunded.1
  have fixed := merges.fixed event isEvent
  have fits := (covered event isEvent.1 (isEvent.2.2.trans isCharge)).1
  exact ⟨fixed.1.trans (fits.2 isEvent.2.1), fixed.2.trans fits.1⟩

theorem Merged.dispute_covered {row : DisputeCash} (mem : row ∈ s.disputes.rows)
    (isCharge : row.chargeId = collection.chargeId) :
    row.amountCents ≤ collection.receivedCents ∧ row.currency = collection.currency := by
  have merges := merged.disputes.row_sums (find?_of_mem mem)
  obtain ⟨event, isEvent, -⟩ := merges.effect.1
  have fixed := merges.fixed event isEvent
  have fits := covered event isEvent.1 (fixed.1.symm.trans isCharge)
  exact ⟨fixed.2.1.trans_le (fits.2 isEvent.2.1), fixed.2.2.trans fits.1.1⟩

end

section

variable {charge : ChargeResult}

theorem collectionConflict_eq_false : collectionConflict collection event = false ↔
      Fits collection event ∧ event.chargeId = collection.chargeId := by
  simp only [collectionConflict, Bool.or_eq_false_iff,
    Bool.and_eq_false_iff, decide_eq_false_iff_not, ne_eq, not_not, Fits,
    eq_comm (a := collection.currency), eq_comm (a := collection.chargeId)]
  cases event.isRefund <;> simp

theorem Accepted.fits (accepted : Accepted s next event)
    (linked : linkedCollection s event = some collection) :
    Fits collection event ∧ event.chargeId = collection.chargeId :=
  collectionConflict_eq_false.mp (accepted.agrees collection linked)

/-- The stored events about a charge fit its recorded collection, and no
dispute is about more than was received. -/
theorem Clear.fits (clear : Clear s charge) (merged : Merged s)
    {buyer : Nat} {source : Option ChargedSource} (stored : event ∈ s.events.rows)
    (isCharge : event.chargeId = charge.chargeId) :
    Covered (charge.collection buyer source) event := by
  unfold Covered
  cases isRefund : event.isRefund with
  | true =>
    have isReported : event ∈ refundsOf s event.chargeId := ⟨stored, isRefund, rfl⟩
    obtain ⟨row, found⟩ := merged.charges.exists_row isReported
    have fixed := (merged.charges.row_sums found).fixed event isReported
    have mem := find?_eq_some.mp found
    have matched := clear.charges row mem.1 (mem.2.trans isCharge)
    exact ⟨⟨fixed.2.symm.trans matched.2.2, fun _ => fixed.1.symm.trans matched.2.1⟩, nofun⟩
  | false =>
    have isReported : event ∈ eventsOf s event.objectId := ⟨stored, isRefund, rfl⟩
    obtain ⟨row, found⟩ := merged.disputes.exists_row isReported
    have fixed := (merged.disputes.row_sums found).fixed event isReported
    have matched := clear.disputes row (mem_of_find? found) (fixed.1.trans isCharge)
    refine ⟨⟨fixed.2.2.symm.trans matched.2.2, fun absurdity => ?_⟩, ?_⟩
    · rw [isRefund] at absurdity
      cases absurdity
    · rw [← fixed.2.1]
      exact fun _ => matched.2.1

end

section

variable {intent : PaymentIntent} {later : Funding}

def Funding.turn (row : Funding) : Nat ×ₗ Nat := toLex (row.createdAt, row.fundingId)

def reservations (s : State) (intent : PaymentIntent) : Finset Funding :=
  {row ∈ s.funding.rows.toFinset | row.paymentIntent = intent}

theorem mem_reservations : row ∈ reservations s intent ↔
    row ∈ s.funding.rows ∧ row.paymentIntent = intent := by
  simp [reservations]

theorem reservedUpTo_eq : reservedUpTo s row =
    ∑ other ∈ reservations s row.paymentIntent with other.turn ≤ row.turn, other.amountCents := by
  rw [reservedUpTo, sumWhere_eq_sum_toFinset s.funding.distinct.of_map, reservations,
    Finset.filter_filter]
  simp [Funding.noLaterThan, Funding.turn, Prod.Lex.toLex_le_toLex]

variable (nonneg : ∀ row ∈ s.funding.rows, 0 ≤ row.amountCents)

include nonneg

theorem impairedCents_total :
    sumWhere (fun row => decide (row.paymentIntent = intent)) (impairedCents s received)
        s.funding.rows =
      max 0 (reservedCents s intent - (received - unavailableCents s intent received)) := by
  have distinct := s.funding.distinct.of_map
  have limited : 0 ≤ received - unavailableCents s intent received :=
    sub_nonneg.mpr (min_le_left _ _)
  rw [reservedCents, sumWhere_eq_sum_toFinset distinct, sumWhere_eq_sum_toFinset distinct]
  simp only [decide_eq_true_eq]
  refine Eq.trans ?_ (sum_beyond Funding.turn limited ?_ ?_)
  · refine Finset.sum_congr rfl fun row mem => ?_
    obtain ⟨-, rfl⟩ := mem_reservations.mp mem
    rw [impairedCents, reservedUpTo_eq]
    rfl
  · intro row mem
    exact nonneg row (mem_reservations.mp mem).1
  · intro row mem other isOther same
    exact eq_of_key (mem_reservations.mp mem).1 (mem_reservations.mp isOther).1
      (congrArg Prod.snd same)

theorem reservedUpTo_add_le (mem : later ∈ s.funding.rows)
    (same : row.paymentIntent = later.paymentIntent) (isLater : row.turn < later.turn) :
    reservedUpTo s row + later.amountCents ≤ reservedUpTo s later := by
  rw [reservedUpTo_eq, reservedUpTo_eq, same, add_comm, ← Finset.sum_insert]
  · refine Finset.sum_le_sum_of_subset_of_nonneg ?_ ?_
    · refine Finset.insert_subset ?_ ?_
      · simp [mem_reservations, mem]
      · exact Finset.monotone_filter_right _ fun other _ before => before.trans isLater.le
    · intro other isOther _
      exact nonneg other (mem_reservations.mp (Finset.mem_filter.mp isOther).1).1
  · intro before
    exact isLater.not_ge (Finset.mem_filter.mp before).2

/-- The impaired cents lie within the reservations, make up what the cash does
not cover, fall on the last reservations and grow with what is unavailable. -/
theorem impairment_exact (intent : PaymentIntent) (received : Int) :
    (∀ row ∈ (recomputeStripeCollectionFunding s intent received).funding.rows,
      row.paymentIntent = intent → row.compromisedCents = some (impairedCents s received row)) ∧
    (∀ row ∈ s.funding.rows,
      0 ≤ impairedCents s received row ∧ impairedCents s received row ≤ row.amountCents) ∧
    sumWhere (fun row => decide (row.paymentIntent = intent)) (impairedCents s received)
        s.funding.rows =
      max 0 (reservedCents s intent - (received - unavailableCents s intent received)) ∧
    (∀ row later, later ∈ s.funding.rows → row.paymentIntent = later.paymentIntent →
      row.turn < later.turn → 0 < impairedCents s received row →
        impairedCents s received later = later.amountCents) ∧
    ∀ other : State, other.funding = s.funding →
      unavailableCents s intent received ≤ unavailableCents other intent received →
        ∀ row, row.paymentIntent = intent →
          impairedCents s received row ≤ impairedCents other received row := by
  refine ⟨?_, ?_, impairedCents_total nonneg, ?_, ?_⟩
  · intro row member isIntent
    obtain ⟨_, -, rfl⟩ := Table.mem_update.mp member
    split_ifs at isIntent ⊢ with chosen
    · rfl
    · exact absurd (decide_eq_true isIntent) chosen
  · intro row member
    exact ⟨le_max_left _ _, max_le (nonneg row member) (min_le_left _ _)⟩
  · intro row later member same isLater impaired
    have reserved := reservedUpTo_add_le nonneg member same isLater
    have positive := nonneg later member
    simp only [impairedCents, same] at impaired ⊢
    omega
  · rintro other sameRows grows row rfl
    have reserved : reservedUpTo other row = reservedUpTo s row := by
      rw [reservedUpTo, reservedUpTo, sameRows]
    rw [impairedCents, impairedCents, reserved]
    omega

end

/-- Sixty and thirty of a hundred cents are reserved, and thirty are refunded. -/
def refundedAfterReserving : State :=
  run State.empty [.confirm ⟨⟨7, 1, 100, 0⟩, 4, .job 9, true⟩, .reserve ⟨11, 12, 7, 60, 1⟩,
    .reserve ⟨13, 14, 7, 30, 2⟩, .deliver ⟨1, .chargeRefunded, 1, 1, none, 0, .other 0, 1, 100, 30⟩]

theorem refund_impairs_last :
    sumWhere (fun row => decide (row.paymentIntent = 7))
      (impairedCents refundedAfterReserving 100) refundedAfterReserving.funding.rows = 20 :=
  ((impairment_exact (by decide +kernel) 7 100).2.2.1).trans (by decide +kernel)

end MercControl.Stripe
