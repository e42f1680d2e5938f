import MercControl.Stripe.CashEvents

/-!
# What the cash transactions write

One inversion lemma for each transaction: a webhook writes one row and binds
disputes, a recorded collection binds the rows of its charge, and everything
else keeps the cash rows.
-/

namespace MercControl.Stripe

open Library Machine Table

variable {s next : State} {event : CashEvent} {intent : Option PaymentIntent}

variable {buyer : Nat}

theorem compatible_iff {first second : Option PaymentIntent} :
    compatible first second = true ↔ first = none ∨ second = none ∨ first = second := by
  cases first <;> cases second <;> simp [compatible]

def ChargeCash.bindTo (row : ChargeCash) (charge : ChargeId)
    (intent : Option PaymentIntent) : ChargeCash :=
  if row.chargeId = charge ∧ row.paymentIntent = none then { row with paymentIntent := intent }
  else row

def DisputeCash.bindTo (row : DisputeCash) (charge : ChargeId)
    (intent : Option PaymentIntent) : DisputeCash :=
  if row.chargeId = charge ∧ row.paymentIntent = none then { row with paymentIntent := intent }
  else row

def refundAfter (old : Option ChargeCash) (event : CashEvent)
    (intent : Option PaymentIntent) : ChargeCash :=
  match old with
  | none => event.refundRow intent
  | some row => row.merge event intent

def disputeAfter (old : Option DisputeCash) (event : CashEvent)
    (intent : Option PaymentIntent) : DisputeCash :=
  match old with
  | none => event.disputeRow intent
  | some row => row.merge event intent

/-- The row of the event's charge, if there is one, agrees with it. -/
def RefundAgrees (s : State) (event : CashEvent) (intent : Option PaymentIntent) : Prop :=
  ∀ row, s.charges.find? event.chargeId = some row →
    row.amountCents = event.amountCents ∧ row.currency = event.currency ∧
      compatible row.paymentIntent intent = true

def DisputeAgrees (s : State) (event : CashEvent) (intent : Option PaymentIntent) : Prop :=
  ∀ row, s.disputes.find? event.objectId = some row →
    row.chargeId = event.chargeId ∧ row.amountCents = event.amountCents ∧
      row.currency = event.currency ∧ compatible row.paymentIntent intent = true

structure RefundWritten (s next : State) (event : CashEvent)
    (intent : Option PaymentIntent) : Prop where
  fits : RefundAgrees s event intent
  charges : ∀ charge, next.charges.find? charge =
    if event.chargeId = charge then some (refundAfter (s.charges.find? event.chargeId) event intent)
    else s.charges.find? charge
  disputes : ∀ dispute, next.disputes.find? dispute =
    (s.disputes.find? dispute).map fun row =>
      row.bindTo event.chargeId
        (refundAfter (s.charges.find? event.chargeId) event intent).paymentIntent

structure DisputeWritten (s next : State) (event : CashEvent)
    (intent : Option PaymentIntent) : Prop where
  fits : DisputeAgrees s event intent
  disputes : ∀ dispute, next.disputes.find? dispute =
    if event.objectId = dispute then
      some (disputeAfter (s.disputes.find? event.objectId) event intent)
    else s.disputes.find? dispute
  charges : next.charges = s.charges

theorem applyStripeChargeRefundState_ok
    (ran : applyStripeChargeRefundState s event intent = .ok next) :
    RefundAgrees s event intent ∧ (∀ charge, next.charges.find? charge =
      if event.chargeId = charge then
        some (refundAfter (s.charges.find? event.chargeId) event intent)
      else s.charges.find? charge) ∧
    next = { s with charges := next.charges } := by
  unfold applyStripeChargeRefundState at ran
  split at ran
  next fresh =>
    cases ran
    have after :
        refundAfter (s.charges.find? event.chargeId) event intent = event.refundRow intent := by
      rw [fresh]
      rfl
    refine ⟨by simp [RefundAgrees, fresh], fun charge => ?_, rfl⟩
    rw [after]
    exact find?_insert fresh
  next row found =>
    split_ifs at ran with fits
    cases ran
    refine ⟨?_, fun charge => ?_, rfl⟩
    · rintro other isOther
      cases found.symm.trans isOther
      exact fits
    · rw [found]
      exact find?_set_at found rfl

theorem applyStripeDisputeState_ok (ran : applyStripeDisputeState s event intent = .ok next) :
    DisputeWritten s next event intent ∧ next = { s with disputes := next.disputes } := by
  unfold applyStripeDisputeState at ran
  split at ran
  next fresh =>
    cases ran
    have after :
        disputeAfter (s.disputes.find? event.objectId) event intent = event.disputeRow intent := by
      rw [fresh]
      rfl
    refine ⟨⟨by simp [DisputeAgrees, fresh], fun dispute => ?_, rfl⟩, rfl⟩
    rw [after]
    exact find?_insert fresh
  next row found =>
    split_ifs at ran with fits
    cases ran
    refine ⟨⟨?_, fun dispute => ?_, rfl⟩, rfl⟩
    · rintro other isOther
      cases found.symm.trans isOther
      exact fits
    · rw [found]
      exact find?_set_at found rfl

theorem bindDisputesOfRefund_find? (dispute : DisputeId) :
    (bindDisputesOfRefund s event).disputes.find? dispute =
      (s.disputes.find? dispute).map fun row =>
        row.bindTo event.chargeId
          ((s.charges.find? event.chargeId).bind ChargeCash.paymentIntent) := by
  unfold bindDisputesOfRefund
  cases named : (s.charges.find? event.chargeId).bind ChargeCash.paymentIntent with
  | none =>
    have kept : ∀ row : DisputeCash, row.bindTo event.chargeId none = row := by
      intro row
      unfold DisputeCash.bindTo
      split_ifs with unnamed
      · rw [← unnamed.2]
      · rfl
    simp [kept]
  | some =>
    refine find?_update.trans ?_
    congr 1
    funext row
    simp [DisputeCash.bindTo, bindDispute]

theorem bindDisputesOfRefund_rest : bindDisputesOfRefund s event =
      { s with disputes := (bindDisputesOfRefund s event).disputes } := by
  unfold bindDisputesOfRefund
  split <;> rfl

theorem applyCashState_refund (isRefund : event.isRefund = true)
    (ran : applyCashState s event intent = .ok next) :
    RefundWritten s next event intent ∧
      next = { s with charges := next.charges, disputes := next.disputes } := by
  rw [applyCashState, if_pos isRefund, bind_eq_ok] at ran
  obtain ⟨applied, isApplied, isNext⟩ := ran
  obtain ⟨fits, charges, rest⟩ := applyStripeChargeRefundState_ok isApplied
  cases isNext
  have sameCharges : (bindDisputesOfRefund applied event).charges = applied.charges := by
    rw [bindDisputesOfRefund_rest]
  refine ⟨⟨fits, ?_, ?_⟩, ?_⟩
  · rw [sameCharges]
    exact charges
  · intro dispute
    rw [bindDisputesOfRefund_find?, charges, if_pos rfl, rest]
    rfl
  · rw [bindDisputesOfRefund_rest, rest]

theorem applyCashState_dispute (isRefund : event.isRefund = false)
    (ran : applyCashState s event intent = .ok next) :
    DisputeWritten s next event intent ∧ next = { s with disputes := next.disputes } := by
  rw [applyCashState, if_neg (by simp [isRefund])] at ran
  exact applyStripeDisputeState_ok ran

structure Writable (s : State) (event : CashEvent) (intent : Option PaymentIntent) : Prop where
  refund : event.isRefund = true → RefundAgrees s event intent
  dispute : event.isRefund = false → DisputeAgrees s event intent

theorem applyCashState_succeeds (fits : Writable s event intent) :
    ∃ next, applyCashState s event intent = .ok next := by
  unfold applyCashState
  cases isRefund : event.isRefund with
  | true =>
    rw [if_pos rfl]
    unfold applyStripeChargeRefundState
    split
    · exact ⟨_, rfl⟩
    next row found =>
      rw [if_pos (fits.refund isRefund row found)]
      exact ⟨_, rfl⟩
  | false =>
    rw [if_neg Bool.false_ne_true]
    unfold applyStripeDisputeState
    split
    · exact ⟨_, rfl⟩
    next row found =>
      rw [if_pos (fits.dispute isRefund row found)]
      exact ⟨_, rfl⟩

structure Accepted (s next : State) (event : CashEvent) : Prop where
  fresh : s.events.find? event.eventId = none
  events : next.events = s.events.insert event fresh
  agrees : ∀ collection, linkedCollection s event = some collection →
    collectionConflict collection event = false
  refund : event.isRefund = true → RefundWritten s next event (resolvePaymentIntent s event)
  dispute : event.isRefund = false → DisputeWritten s next event (resolvePaymentIntent s event)
  funding : next.funding =
    match linkedCollection s event with
    | none => s.funding
    | some collection =>
      (recomputeStripeCollectionFunding { next with funding := s.funding }
        collection.paymentIntent collection.receivedCents).funding
  collections : next.collections = s.collections
  topups : next.topups = s.topups
  warnings : next.warnings = s.warnings

/-- An event whose object is written is accepted, also if the funding of its
collection is computed again. -/
theorem accepted_of_written {applied : State} (fresh : s.events.find? event.eventId = none)
    (isApplied :
      applyCashState { s with events := s.events.insert event fresh } event
        (resolvePaymentIntent s event) = .ok applied)
    (agrees : ∀ collection, linkedCollection s event = some collection →
      collectionConflict collection event = false)
    (isNext : next =
      match linkedCollection s event with
      | none => applied
      | some collection =>
        recomputeStripeCollectionFunding applied collection.paymentIntent
          collection.receivedCents) : Accepted s next event := by
  have cashKept : next = { applied with funding := next.funding } := by
    rw [isNext]
    split <;> rfl
  have rest : applied =
      { s with
        events := s.events.insert event fresh
        charges := applied.charges
        disputes := applied.disputes } := by
    cases isRefund : event.isRefund with
    | true => exact (applyCashState_refund isRefund isApplied).2
    | false =>
      have written := applyCashState_dispute isRefund isApplied
      rw [written.1.charges]
      exact written.2
  have charges : next.charges = applied.charges := by rw [cashKept]
  have disputes : next.disputes = applied.disputes := by rw [cashKept]
  refine
    { fresh := fresh
      events := by rw [cashKept, rest]
      agrees
      refund := ?_
      dispute := ?_
      funding := ?_
      collections := by rw [cashKept, rest]
      topups := by rw [cashKept, rest]
      warnings := by rw [cashKept, rest] }
  · intro isRefund
    have written := (applyCashState_refund isRefund isApplied).1
    exact ⟨written.fits, by rw [charges]; exact written.charges,
      by rw [disputes]; exact written.disputes⟩
  · intro isRefund
    have written := (applyCashState_dispute isRefund isApplied).1
    exact ⟨written.fits, by rw [disputes]; exact written.disputes,
      by rw [charges]; exact written.charges⟩
  · have fundingKept : applied = { next with funding := s.funding } := by
      rw [cashKept, rest]
    rw [← fundingKept, isNext]
    split
    · rw [rest]
    · rfl

theorem applyPaymentEventTx_ok (ran : applyPaymentEventTx s event = .ok next) : event.valid = true ∧
      (s.events.find? event.eventId = some event ∧ next = s ∨ Accepted s next event) := by
  unfold applyPaymentEventTx at ran
  split_ifs at ran with valid
  refine ⟨by simpa using valid, ?_⟩
  split at ran
  next stored found =>
    split_ifs at ran with same
    cases ran
    rw [same] at found
    exact .inl ⟨found, rfl⟩
  next fresh =>
    right
    unfold applyNewPaymentEvent at ran
    have sameIntent : resolvePaymentIntent { s with events := s.events.insert event fresh }
          event = resolvePaymentIntent s event := rfl
    have sameLink : linkedCollection { s with events := s.events.insert event fresh }
          event = linkedCollection s event := rfl
    rw [sameIntent, sameLink] at ran
    cases linked : linkedCollection s event with
    | none =>
      rw [linked] at ran
      exact accepted_of_written fresh ran (by simp [linked]) (by rw [linked])
    | some =>
      simp only [linked, ite_error_eq_ok, bind_eq_ok, Bool.not_eq_true] at ran
      obtain ⟨agrees, _, isApplied, isNext⟩ := ran
      refine accepted_of_written fresh isApplied ?_ ?_
      · rintro other isOther
        cases linked.symm.trans isOther
        exact agrees
      · rw [linked]
        exact (Except.ok.inj isNext).symm

theorem applyPaymentEventTx_succeeds (valid : event.valid = true)
    (fresh : s.events.find? event.eventId = none)
    (agrees : ∀ collection, linkedCollection s event = some collection →
      collectionConflict collection event = false)
    (fits : Writable s event (resolvePaymentIntent s event)) :
    ∃ next, applyPaymentEventTx s event = .ok next := by
  let stored : State := { s with events := s.events.insert event fresh }
  obtain ⟨applied, isApplied⟩ :
      ∃ applied, applyCashState stored event (resolvePaymentIntent s event) = .ok applied :=
    applyCashState_succeeds ⟨fits.refund, fits.dispute⟩
  unfold applyPaymentEventTx
  rw [if_neg (by simp [valid])]
  split
  next other found =>
    rw [fresh] at found
    cases found
  next =>
    unfold applyNewPaymentEvent
    have sameIntent : resolvePaymentIntent stored event = resolvePaymentIntent s event := rfl
    have sameLink : linkedCollection stored event = linkedCollection s event := rfl
    rw [sameIntent, sameLink, isApplied]
    cases linked : linkedCollection s event with
    | none => exact ⟨applied, rfl⟩
    | some collection =>
      simp only [agrees collection linked]
      exact ⟨_, rfl⟩

/-- The snapshot still shows every row about the charge as it is. -/
structure Sees (seen s : State) (charge : ChargeId) : Prop where
  charges : ∀ row ∈ s.charges.rows, row.chargeId = charge → row ∈ seen.charges.rows
  disputes : ∀ row ∈ s.disputes.rows, row.chargeId = charge → row ∈ seen.disputes.rows
  warnings : ∀ row ∈ s.warnings.rows, row.chargeId = charge → row ∈ seen.warnings.rows
  collections : ∀ row ∈ s.collections.rows, row.chargeId = charge → row ∈ seen.collections.rows

instance (seen s : State) (charge : ChargeId) : Decidable (Sees seen s charge) :=
  decidable_of_iff
    ((∀ row ∈ s.charges.rows, row.chargeId = charge → row ∈ seen.charges.rows) ∧
      (∀ row ∈ s.disputes.rows, row.chargeId = charge → row ∈ seen.disputes.rows) ∧
      (∀ row ∈ s.warnings.rows, row.chargeId = charge → row ∈ seen.warnings.rows) ∧
      ∀ row ∈ s.collections.rows, row.chargeId = charge → row ∈ seen.collections.rows)
    ⟨fun all => ⟨all.1, all.2.1, all.2.2.1, all.2.2.2⟩,
      fun sees => ⟨sees.charges, sees.disputes, sees.warnings, sees.collections⟩⟩

theorem Sees.refl (s : State) (charge : ChargeId) : Sees s s charge := by
  constructor <;> exact fun _ mem _ => mem

/-- The rows about a charge contradict none of its collection's facts. -/
structure Clear (s : State) (charge : ChargeResult) : Prop where
  charges : ∀ row ∈ s.charges.rows, row.chargeId = charge.chargeId →
    compatible row.paymentIntent (some charge.paymentIntent) = true ∧
      row.amountCents = charge.receivedCents ∧
      row.currency = charge.currency
  disputes : ∀ row ∈ s.disputes.rows, row.chargeId = charge.chargeId →
    compatible row.paymentIntent (some charge.paymentIntent) = true ∧
      row.amountCents ≤ charge.receivedCents ∧
      row.currency = charge.currency
  warnings : ∀ row ∈ s.warnings.rows, row.chargeId = charge.chargeId →
    compatible row.paymentIntent (some charge.paymentIntent) = true

theorem bindingConflict_eq_false {charge : ChargeResult} :
    bindingConflict s charge = false ↔ Clear s charge := by
  simp only [bindingConflict, Bool.or_eq_false_iff, List.any_eq_false,
    Bool.and_eq_true, decide_eq_true_eq, not_and, Bool.or_eq_true,
    Bool.not_eq_true', not_or, ne_eq, not_not, not_lt,
    Bool.not_eq_false, and_assoc]
  constructor
  · rintro ⟨charges, disputes, warnings⟩
    exact ⟨charges, disputes, warnings⟩
  · rintro ⟨charges, disputes, warnings⟩
    exact ⟨charges, disputes, warnings⟩

theorem Clear.of_seen {seen : State} {charge : ChargeResult}
    (clear : Clear seen charge) (sees : Sees seen s charge.chargeId) : Clear s charge where
  charges := fun row mem same => clear.charges row (sees.charges row mem same) same
  disputes := fun row mem same => clear.disputes row (sees.disputes row mem same) same
  warnings := fun row mem same => clear.warnings row (sees.warnings row mem same) same

/-- The collection that a step records if nothing is in its way. -/
def Step.collects : Step → Option Collection
  | .confirm confirmation =>
    if confirmation.charge.receivedCents ≤ 0 ∨ confirmation.eligible = false then none
    else some (confirmation.charge.collection confirmation.buyerId (some confirmation.source))
  | .creditTopup _ buyer charge =>
    if charge.receivedCents ≤ 0 then none else some (charge.collection buyer none)
  | _ => none

/-- The top-up operation that a step begins or completes. -/
def Step.operation : Step → Option TopupOperation
  | .beginTopup key buyer amountCents currency => some ⟨key, buyer, amountCents, currency, none⟩
  | .creditTopup key buyer charge =>
    some ⟨key, buyer, charge.receivedCents, charge.currency,
      some (charge.paymentIntent, charge.chargeId)⟩
  | _ => none

def TopupOperation.IsStageOf (operation whole : TopupOperation) : Prop :=
  operation = whole ∨ operation = { whole with succeeded := none }

def Collection.charge (row : Collection) : ChargeResult :=
  ⟨row.paymentIntent, row.chargeId, row.receivedCents, row.currency⟩

def OffersTopups (s next : State) (move : Step) : Prop :=
  ∀ operation ∈ next.topups.rows, operation ∈ s.topups.rows ∨
    ∃ whole ∈ move.operation, operation.IsStageOf whole

def Recorded (s next : State) (row : Collection) : Prop :=
  row ∈ s.collections.rows ∧ next.collections = s.collections ∨
    s.collections.find? row.paymentIntent = none ∧
      (∀ other ∈ s.collections.rows, other.chargeId ≠ row.chargeId) ∧
      next.collections.rows = s.collections.rows ++ [row]

theorem Recorded.mem_iff {row other : Collection} (recorded : Recorded s next row) :
    other ∈ next.collections.rows ↔ other ∈ s.collections.rows ∨ other = row := by
  rcases recorded with ⟨isThere, same⟩ | ⟨-, -, inserted⟩
  · rw [same]
    constructor
    · exact .inl
    · rintro (old | rfl)
      · exact old
      · exact isThere
  · rw [inserted, List.mem_append, List.mem_singleton]

/-- What a recorded collection does: it is there afterwards, and the rows of
its charge are bound to it. -/
structure Records (s next : State) (move : Step) (row : Collection) : Prop where
  collects : move.collects = some row
  clear : Clear s row.charge
  collections : Recorded s next row
  charges : ∀ id, next.charges.find? id =
    (s.charges.find? id).map fun cash => cash.bindTo row.chargeId (some row.paymentIntent)
  disputes : ∀ id, next.disputes.find? id =
    (s.disputes.find? id).map fun cash => cash.bindTo row.chargeId (some row.paymentIntent)
  topups : OffersTopups s next move
  events : next.events = s.events
  warnings : next.warnings = s.warnings
  funding : next.funding = s.funding

theorem recordCollection_ok {row : Collection} (ran : recordCollection s row = .ok next) :
    Recorded s next row ∧ next = { s with collections := next.collections } := by
  unfold recordCollection at ran
  split at ran
  next stored found =>
    split_ifs at ran with same
    cases ran
    rw [same] at found
    exact ⟨.inl ⟨mem_of_find? found, rfl⟩, rfl⟩
  next fresh =>
    split_ifs at ran with taken
    cases ran
    refine ⟨.inr ⟨fresh, ?_, rfl⟩, rfl⟩
    intro other mem same
    apply taken
    exact List.any_eq_true.mpr ⟨other, mem, by simp [same]⟩

section

variable {seen : State} {charge : ChargeResult} {move : Step} {row : Collection}

/-- Rows of the charge that the snapshot has are bound just as if the update
looked at the rows alone. -/
theorem find?_update_unbound {Row Key : Type} [DecidableEq Key] {key : Row → Key}
    {table seen : Table key} {change : Table.Change key} {chargeOf : Row → ChargeId}
    {intentOf : Row → Option PaymentIntent} {charge : ChargeId}
    (sees : ∀ row ∈ table.rows, chargeOf row = charge → row ∈ seen.rows) (k : Key) :
    (table.update (fun row => decide (chargeOf row = charge) && (intentOf row).isNone &&
        (seen.find? (key row)).any fun old => (intentOf old).isNone) change).find? k =
      (table.find? k).map fun row =>
        if chargeOf row = charge ∧ intentOf row = none then change.apply row else row := by
  refine find?_update.trans ?_
  cases found : table.find? k with
  | none => rfl
  | some row =>
    rw [Option.map_some, Option.map_some]
    congr 1
    by_cases unbound : chargeOf row = charge ∧ intentOf row = none
    · have shown : seen.find? (key row) = some row :=
        find?_eq_some.mpr ⟨sees row (mem_of_find? found) unbound.1, rfl⟩
      rw [if_pos unbound, if_pos (by simp [unbound.1, unbound.2, shown])]
    · rw [if_neg unbound, if_neg]
      intro chosen
      apply unbound
      simp only [Bool.and_eq_true, decide_eq_true_eq, Option.isNone_iff_eq_none] at chosen
      exact chosen.1

theorem records_of_bind {recorded : State} (sees : Sees seen s row.chargeId)
    (clear : Clear s row.charge) (collects : move.collects = some row)
    (isRecorded : recordCollection s row = .ok recorded) :
    Records s (bindCashState seen recorded row.charge) move row := by
  obtain ⟨isThere, rest⟩ := recordCollection_ok isRecorded
  have charges : recorded.charges = s.charges := by
    rw [rest]
  have disputes : recorded.disputes = s.disputes := by
    rw [rest]
  refine
    { collects
      clear
      collections := isThere
      charges := ?_
      disputes := ?_
      topups := ?_
      events := ?_
      warnings := ?_
      funding := ?_ }
  · intro id
    refine (find?_update_unbound (by rw [charges]; exact sees.charges) id).trans ?_
    rw [charges]
    rfl
  · intro id
    refine (find?_update_unbound (by rw [disputes]; exact sees.disputes) id).trans ?_
    rw [disputes]
    rfl
  · intro operation mem
    left
    rw [rest] at mem
    exact mem
  · rw [rest]
    rfl
  · rw [rest]
    rfl
  · rw [rest]
    rfl

theorem confirmCharge_ok {confirmation : Confirmation}
    (sees : Sees seen s confirmation.charge.chargeId)
    (ran : confirmCharge seen s confirmation = .ok next) : Records s next (.confirm confirmation)
      (confirmation.charge.collection confirmation.buyerId (some confirmation.source)) := by
  unfold confirmCharge at ran
  simp only [ite_error_eq_ok, bind_eq_ok, Bool.not_eq_true] at ran
  obtain ⟨eligible, noConflict, _, isRecorded, isNext⟩ := ran
  cases isNext
  have collects : (Step.confirm confirmation).collects = some _ := if_neg eligible
  exact records_of_bind sees ((bindingConflict_eq_false.mp noConflict).of_seen sees) collects
    isRecorded

theorem bindStripeCashStateToCollection_ok
    (ran : bindStripeCashStateToCollection s charge = .ok next) :
    Clear s charge ∧ next = bindCashState s s charge := by
  unfold bindStripeCashStateToCollection at ran
  split_ifs at ran with conflict
  cases ran
  exact ⟨bindingConflict_eq_false.mp (by simpa using conflict), rfl⟩

theorem Records.of_topups {topups : Table TopupOperation.operationKey}
    (records : Records { s with topups } next move row)
    (begun : OffersTopups s { s with topups } move) : Records s next move row where
  __ := records
  clear := { records.clear with }
  topups := by
    intro operation mem
    rcases records.topups operation mem with known | offered
    · exact begun operation known
    · exact .inr offered

theorem recordCollection_sees {row : Collection}
    (ran : recordCollection s row = .ok next) (id : ChargeId) : Sees next s id := by
  obtain ⟨recorded, rest⟩ := recordCollection_ok ran
  refine ⟨?_, ?_, ?_, fun _ mem _ => recorded.mem_iff.mpr (.inl mem)⟩
  all_goals
    intro other mem _
    rw [rest]
    exact mem

theorem creditPendingTopup_ok {operation : TopupOperation}
    (collects : move.collects = some (charge.collection operation.buyerId none))
    (offers : move.operation =
      some { operation with succeeded := some (charge.paymentIntent, charge.chargeId) })
    (ran : creditPendingTopup s operation charge = .ok next) :
    Records s next move (charge.collection operation.buyerId none) := by
  unfold creditPendingTopup at ran
  simp only [bind_eq_ok] at ran
  obtain ⟨recorded, isRecorded, _, isBound, isNext⟩ := ran
  obtain ⟨clear, rfl⟩ := bindStripeCashStateToCollection_ok isBound
  have sees : Sees recorded s charge.chargeId := recordCollection_sees isRecorded _
  have records : Records s (bindCashState recorded recorded charge) move _ :=
    records_of_bind sees (clear.of_seen sees) collects isRecorded
  cases isNext
  exact { records with topups := forall_set records.topups (.inr ⟨_, offers, .inl rfl⟩) }

def TopupOperation.collection (operation : TopupOperation)
    (identity : PaymentIntent × ChargeId) : Collection :=
  ⟨identity.1, identity.2, operation.buyerId, none, operation.amountCents, operation.currency⟩

def TopupsCollected (s : State) : Prop :=
  ∀ operation ∈ s.topups.rows, ∀ identity, operation.succeeded = some identity →
    operation.collection identity ∈ s.collections.rows

theorem creditPrepaidTopup_ok {key : Nat} (collected : TopupsCollected s)
    (ran : creditPrepaidTopup s key buyer charge = .ok next) :
    Records s next (.creditTopup key buyer charge) (charge.collection buyer none) := by
  unfold creditPrepaidTopup at ran
  rw [ite_error_eq_ok] at ran
  obtain ⟨received, ran⟩ := ran
  have collects : (Step.creditTopup key buyer charge).collects =
      some (charge.collection buyer none) := if_neg received
  split at ran
  next fresh =>
    refine (creditPendingTopup_ok collects rfl ran).of_topups ?_
    exact forall_insert fresh (fun _ mem => .inl mem) (.inr ⟨_, rfl, .inr rfl⟩)
  next operation found =>
    simp only [ite_error_eq_ok, not_or, not_not] at ran
    obtain ⟨⟨rfl, isAmount, isCurrency⟩, ran⟩ := ran
    split at ran
    next =>
      refine creditPendingTopup_ok collects ?_ ran
      rw [Step.operation, ← isAmount, ← isCurrency, ← key_of_find? found]
    next identity succeeded =>
      rw [ite_error_eq_ok, not_not] at ran
      obtain ⟨rfl, ran⟩ := ran
      obtain ⟨clear, rfl⟩ := bindStripeCashStateToCollection_ok ran
      have known := collected operation (mem_of_find? found) _ succeeded
      rw [TopupOperation.collection, isAmount, isCurrency] at known
      exact
        { collects
          clear
          collections := .inl ⟨known, rfl⟩
          charges := find?_update_unbound fun _ known _ => known
          disputes := find?_update_unbound fun _ known _ => known
          topups := fun _ known => .inl known
          events := rfl
          warnings := rfl
          funding := rfl }

end

theorem beginPrepaidTopup_ok {key : Nat} {amountCents : Int} {currency : CurrencyCode} (ran :
      beginPrepaidTopup s key buyer amountCents currency = .ok next) :
    next = { s with topups := next.topups } ∧
      ∀ operation ∈ next.topups.rows, operation ∈ s.topups.rows ∨
        operation = ⟨key, buyer, amountCents, currency, none⟩ := by
  unfold beginPrepaidTopup at ran
  split at ran
  next =>
    split_ifs at ran
    cases ran
    exact ⟨rfl, fun _ mem => .inl mem⟩
  next fresh =>
    cases ran
    exact ⟨rfl, forall_insert fresh (fun _ mem => .inl mem) (.inr rfl)⟩

theorem applyStripeRiskEvent_ok {seen : State} {warning : RiskEvent}
    (ran : applyStripeRiskEvent seen s warning = .ok next) :
    warningConflict seen warning = false ∧ cashConflict seen warning = false ∧
      next = { s with warnings := next.warnings } ∧
      ∀ row, row ∈ next.warnings.rows ↔ row ∈ s.warnings.rows ∨ row = warning := by
  unfold applyStripeRiskEvent at ran
  simp only [Bool.or_eq_true, ite_error_eq_ok, not_or, Bool.not_eq_true] at ran
  obtain ⟨⟨noWarning, noCash⟩, ran⟩ := ran
  refine ⟨noWarning, noCash, ?_⟩
  split at ran
  next stored found =>
    split_ifs at ran with same
    cases ran
    refine ⟨rfl, fun row => ⟨.inl, ?_⟩⟩
    rintro (mem | isEvent)
    · exact mem
    · rw [isEvent, ← same]
      exact mem_of_find? found
  next fresh =>
    cases ran
    exact ⟨rfl, fun row => by simp [Table.insert]⟩

/-- What a payout funding request does: nothing, or a row that the collection
covers. -/
structure Reserved (s next : State) (request : FundingRequest) : Prop where
  rest : next = { s with funding := next.funding }
  covered : ∃ collection,
    s.collections.find? request.paymentIntent = some collection ∧ 0 < request.amountCents ∧
      capacityFits s collection request.amountCents = true
  rows : next.funding.rows =
    s.funding.rows ++
      [{ fundingId := request.fundingId
         entryId := request.entryId
         paymentIntent := request.paymentIntent
         amountCents := request.amountCents
         createdAt := request.createdAt
         compromisedCents := none }]

theorem reservePayoutFunding_ok {request : FundingRequest}
    (ran : reservePayoutFunding s request = .ok next) : next = s ∨ Reserved s next request := by
  unfold reservePayoutFunding at ran
  split_ifs at ran
  · exact .inl (Except.ok.inj ran).symm
  split at ran
  next => exact .inl (Except.ok.inj ran).symm
  next collection found =>
    split_ifs at ran with refused
    · exact .inl (Except.ok.inj ran).symm
    split at ran
    next => cases ran
    next fresh =>
      cases ran
      simp only [not_or, not_le, Bool.not_eq_false] at refused
      exact .inr ⟨rfl, ⟨collection, found, refused⟩, rfl⟩

end MercControl.Stripe
