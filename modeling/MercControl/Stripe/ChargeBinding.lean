import MercControl.Stripe.CashInvariant

/-!
# Evidence about a charge is bound before it is used

Confirmations and fraud warnings take the advisory lock of their charge, check
and write in one statement.  Under `READ COMMITTED` the statement keeps the
snapshot of its start while it waits for the lock, so it may check and bind
rows that have changed since.
-/

namespace MercControl.Stripe

open Library Machine Table

inductive Statement where
  | confirm (confirmation : Confirmation)
  | warn (event : RiskEvent)

structure Waiting where
  statement : Statement
  seen : State

structure Racing where
  cash : State
  waiting : List Waiting

def Racing.empty : Racing := ⟨State.empty, []⟩

inductive Move where
  /-- A transaction that waits for nobody or reads after it waited. -/
  | transaction (move : Step)
  /-- A statement takes its snapshot and waits. -/
  | start (statement : Statement)
  /-- A waiting statement gets its locks, runs and commits. -/
  | proceed (index : Nat)

def execute (seen s : State) : Statement → Except Failure State
  | .confirm confirmation => confirmCharge seen s confirmation
  | .warn event => applyStripeRiskEvent seen s event

def move (b : Racing) : Move → Except Failure Racing
  | .transaction taken => (step b.cash taken).bind fun next => .ok { b with cash := next }
  | .start statement => .ok { b with waiting := b.waiting ++ [⟨statement, b.cash⟩] }
  | .proceed index =>
    match b.waiting[index]? with
    | none => .ok b
    | some waiting =>
      let others := b.waiting.eraseIdx index
      match execute waiting.seen b.cash waiting.statement with
      | .ok next => .ok ⟨next, others⟩
      | .error _ => .ok ⟨b.cash, others⟩

/-- Every row about the charge that names a payment intent names this one. -/
structure Consonant (s : State) (charge : ChargeId) (intent : PaymentIntent) : Prop where
  charges : ∀ row ∈ s.charges.rows, row.chargeId = charge →
    row.paymentIntent = none ∨ row.paymentIntent = some intent
  disputes : ∀ row ∈ s.disputes.rows, row.chargeId = charge →
    row.paymentIntent = none ∨ row.paymentIntent = some intent
  warnings : ∀ row ∈ s.warnings.rows, row.chargeId = charge →
    row.paymentIntent = none ∨ row.paymentIntent = some intent
  collections : ∀ row ∈ s.collections.rows, row.chargeId = charge → row.paymentIntent = intent

def chargeLosses (s : State) (charge : ChargeId) : Int :=
  Rows.sumWhere (fun row => decide (row.chargeId = charge))
      ChargeCash.refundedCents s.charges.rows +
    Rows.sumWhere (fun row => decide (row.chargeId = charge) && row.cashUnavailable)
      DisputeCash.amountCents s.disputes.rows

structure EvidenceBound (s : State) : Prop where
  charges : ∀ collection ∈ s.collections.rows, ∀ row ∈ s.charges.rows,
    row.chargeId = collection.chargeId →
      row.paymentIntent = some collection.paymentIntent ∧
        row.amountCents = collection.receivedCents ∧
        row.currency = collection.currency
  disputes : ∀ collection ∈ s.collections.rows, ∀ row ∈ s.disputes.rows,
    row.chargeId = collection.chargeId →
      row.paymentIntent = some collection.paymentIntent ∧
        row.amountCents ≤ collection.receivedCents ∧
        row.currency = collection.currency
  oneIntent : ∀ charge, ∃ intent, Consonant s charge intent
  warnings : ∀ row ∈ s.warnings.rows, ∀ other ∈ s.warnings.rows,
    row.warningId = other.warningId → row.chargeId = other.chargeId
  included : ∀ collection ∈ s.collections.rows,
    min collection.receivedCents (chargeLosses s collection.chargeId) ≤
      unavailableCents s collection.paymentIntent collection.receivedCents

def NamesOwn (s : State) (charge : ChargeId) (named : Option PaymentIntent) : Prop :=
  ∀ intent ∈ named, Consonant s charge intent

def DisputesAtMost (s : State) (event : CashEvent) : Prop :=
  event.isRefund = false →
    ∀ collection ∈ s.collections.rows,
      collection.chargeId = event.chargeId → event.amountCents ≤ collection.receivedCents
  deriving Decidable

def UpToDate (seen s : State) : Statement → Prop
  | .confirm confirmation => Sees seen s confirmation.charge.chargeId
  | .warn event =>
    NamesOwn s event.chargeId event.paymentIntent ∧
      ∀ row ∈ s.warnings.rows, row.warningId = event.warningId → row ∈ seen.warnings.rows

def Safe (b : Racing) : Move → Prop
  | .transaction (.deliver event) =>
    NamesOwn b.cash event.chargeId event.paymentIntent ∧ DisputesAtMost b.cash event
  | .transaction (.warn event) => NamesOwn b.cash event.chargeId event.paymentIntent
  | .transaction _ => True
  | .start _ => True
  | .proceed index => ∀ waiting ∈ b.waiting[index]?, UpToDate waiting.seen b.cash waiting.statement

instance (s : State) (charge : ChargeId) (intent : PaymentIntent) :
    Decidable (Consonant s charge intent) :=
  decidable_of_iff
    ((∀ row ∈ s.charges.rows, row.chargeId = charge →
        row.paymentIntent = none ∨ row.paymentIntent = some intent) ∧
      (∀ row ∈ s.disputes.rows, row.chargeId = charge →
        row.paymentIntent = none ∨ row.paymentIntent = some intent) ∧
      (∀ row ∈ s.warnings.rows, row.chargeId = charge →
        row.paymentIntent = none ∨ row.paymentIntent = some intent) ∧
      ∀ row ∈ s.collections.rows, row.chargeId = charge → row.paymentIntent = intent)
    ⟨fun all => ⟨all.1, all.2.1, all.2.2.1, all.2.2.2⟩,
      fun holds => ⟨holds.charges, holds.disputes, holds.warnings, holds.collections⟩⟩

instance (s : State) (charge : ChargeId) (named : Option PaymentIntent) :
    Decidable (NamesOwn s charge named) :=
  inferInstanceAs (Decidable (∀ intent ∈ named, Consonant s charge intent))

instance (seen s : State) (statement : Statement) : Decidable (UpToDate seen s statement) := by
  cases statement <;> unfold UpToDate <;> infer_instance

instance (b : Racing) (move : Move) : Decidable (Safe b move) := by
  unfold Safe
  split <;> infer_instance

structure Sound (s : State) : Prop where
  reached : Reached s
  oneIntent : ∀ charge, ∃ intent, Consonant s charge intent
  fits : ∀ collection ∈ s.collections.rows, ∀ event ∈ s.events.rows,
    event.chargeId = collection.chargeId → Covered collection event
  warnings : ∀ row ∈ s.warnings.rows, ∀ other ∈ s.warnings.rows,
    row.warningId = other.warningId → row.chargeId = other.chargeId

variable {intent : PaymentIntent}

section

variable {s next : State} {event : CashEvent} {charge : ChargeResult}
variable {collection : Collection}

theorem CashEvent.amountCents_pos (valid : event.valid = true) : 0 < event.amountCents := by
  simp only [CashEvent.valid, Bool.and_eq_true, decide_eq_true_eq] at valid
  exact valid.1.2

theorem CashEvent.refundedCents_pos (valid : event.valid = true)
    (isRefund : event.isRefund = true) : 0 < event.refundedCents := by
  simp only [CashEvent.valid, isRefund, Bool.and_eq_true, Bool.not_true,
    Bool.false_or, decide_eq_true_eq] at valid
  exact valid.2.1

theorem Sound.bound (sound : Sound s) (recorded : collection ∈ s.collections.rows) :
    EveryRow (fun charge named => charge = collection.chargeId →
      named = some collection.paymentIntent) s := by
  obtain ⟨_, consonant⟩ := sound.oneIntent collection.chargeId
  have named := sound.reached.named collection recorded
  rw [consonant.collections collection recorded rfl]
  constructor
  · intro row mem isCharge
    exact (consonant.charges row mem isCharge).resolve_left (named.1 row mem isCharge)
  · intro row mem isCharge
    exact (consonant.disputes row mem isCharge).resolve_left (named.2 row mem isCharge)

theorem Reached.refundedCents_nonneg (reached : Reached s) {row : ChargeCash}
    (mem : row ∈ s.charges.rows) : 0 ≤ row.refundedCents := by
  have found := find?_of_mem mem
  obtain ⟨event, isEvent, same⟩ := (reached.merged.charges.row_sums found).refunded.1
  rw [← same]
  exact (CashEvent.refundedCents_pos (reached.valid event isEvent.1) isEvent.2.1).le

theorem Reached.amountCents_nonneg (reached : Reached s) {row : DisputeCash}
    (mem : row ∈ s.disputes.rows) : 0 ≤ row.amountCents := by
  have found := find?_of_mem mem
  have merges := reached.merged.disputes.row_sums found
  obtain ⟨event, isEvent, -⟩ := merges.effect.1
  rw [(merges.fixed event isEvent).2.1]
  exact (CashEvent.amountCents_pos (reached.valid event isEvent.1)).le

theorem Sound.losses_included (sound : Sound s) (recorded : collection ∈ s.collections.rows) :
    min collection.receivedCents (chargeLosses s collection.chargeId) ≤
      unavailableCents s collection.paymentIntent collection.receivedCents := by
  have refunds : Rows.sumWhere (fun row => decide (row.chargeId = collection.chargeId))
          ChargeCash.refundedCents s.charges.rows ≤
        Rows.sumWhere (fun row => decide (row.paymentIntent = some collection.paymentIntent))
          ChargeCash.refundedCents s.charges.rows := by
    apply Rows.sumWhere_le_of_imp
    · intro row mem isCharge
      exact decide_eq_true ((sound.bound recorded).1 row mem (of_decide_eq_true isCharge))
    · intro row mem _
      exact sound.reached.refundedCents_nonneg mem
  have disputes : Rows.sumWhere
          (fun row => decide (row.chargeId = collection.chargeId) && row.cashUnavailable)
          DisputeCash.amountCents s.disputes.rows ≤
        Rows.sumWhere
          (fun row =>
            decide (row.paymentIntent = some collection.paymentIntent) && row.cashUnavailable)
          DisputeCash.amountCents s.disputes.rows := by
    apply Rows.sumWhere_le_of_imp
    · intro row mem chosen
      rw [Bool.and_eq_true, decide_eq_true_eq] at chosen ⊢
      exact ⟨(sound.bound recorded).2 row mem chosen.1, chosen.2⟩
    · intro row mem _
      exact sound.reached.amountCents_nonneg mem
  rw [chargeLosses, unavailableCents]
  omega

theorem Sound.evidenceBound (sound : Sound s) : EvidenceBound s where
  charges := fun collection recorded row mem isCharge =>
    ⟨(sound.bound recorded).1 row mem isCharge,
      sound.reached.merged.charge_covered (sound.fits collection recorded) mem isCharge⟩
  disputes := fun collection recorded row mem isCharge =>
    ⟨(sound.bound recorded).2 row mem isCharge,
      sound.reached.merged.dispute_covered (sound.fits collection recorded) mem isCharge⟩
  oneIntent := sound.oneIntent
  warnings := sound.warnings
  included := fun _ recorded => sound.losses_included recorded

theorem Consonant.rewritten {id other : ChargeId}
    {written : Option PaymentIntent} (consonant : Consonant s id intent)
    (rewritten : Rewritten other written s next)
    (own : other = id → written = none ∨ written = some intent)
    (warnings : next.warnings = s.warnings)
    (collections : ∀ row ∈ next.collections.rows, row.chargeId = id → row.paymentIntent = intent) :
    Consonant next id intent := by
  have before : EveryRow (fun charge named => charge = id → named = none ∨ named = some intent) s :=
    ⟨consonant.charges, consonant.disputes⟩
  have after := before.rewritten rewritten own
  refine ⟨after.1, after.2, ?_, collections⟩
  rw [warnings]
  exact consonant.warnings

theorem Consonant.resolved (consonant : Consonant s event.chargeId intent)
    (own : event.paymentIntent = none ∨ event.paymentIntent = some intent)
    (dispute : event.isRefund = false → ∀ row,
      s.disputes.find? event.objectId = some row → row.chargeId = event.chargeId) :
    resolvePaymentIntent s event = none ∨ resolvePaymentIntent s event = some intent := by
  refine resolvePaymentIntent_of (fun named => named = none ∨ named = some intent) (.inl rfl) own ?_
    consonant.charges ?_
  · intro other mem same
    rw [consonant.collections other mem same]
    exact .inr rfl
  · intro isRefund row found
    exact consonant.disputes row (mem_of_find? found) (dispute isRefund row found)

/-- The payment intent of a charge, chosen so that evidence about the charge
names it if it names one. -/
theorem Sound.exists_intent {id : ChargeId} {named : Option PaymentIntent} (sound : Sound s)
    (own : NamesOwn s id named) (charge : ChargeId) :
    ∃ intent, Consonant s charge intent ∧ (id = charge → named = none ∨ named = some intent) := by
  obtain ⟨intent, consonant⟩ := sound.oneIntent charge
  cases named with
  | none => exact ⟨intent, consonant, fun _ => .inl rfl⟩
  | some other =>
    by_cases same : id = charge
    · subst same
      exact ⟨other, own other rfl, fun _ => .inr rfl⟩
    · exact ⟨intent, consonant, fun isCharge => absurd isCharge same⟩

theorem Sound.accepted (sound : Sound s) (valid : event.valid = true)
    (own : NamesOwn s event.chargeId event.paymentIntent)
    (atMost : DisputesAtMost s event) (accepted : Accepted s next event) : Sound next := by
  have resolves : ∀ charge, ∃ intent, Consonant s charge intent ∧
      (event.chargeId = charge →
        resolvePaymentIntent s event = none ∨ resolvePaymentIntent s event = some intent) := by
    intro charge
    obtain ⟨intent, consonant, named⟩ := sound.exists_intent own charge
    refine ⟨intent, consonant, ?_⟩
    rintro rfl
    exact consonant.resolved (named rfl) fun isRefund row found =>
      ((accepted.dispute isRefund).fits row found).1
  refine
    { reached := sound.reached.accepted valid accepted
      oneIntent := ?_
      fits := ?_
      warnings := ?_ }
  · intro charge
    obtain ⟨intent, consonant, resolved⟩ := resolves charge
    refine ⟨intent, consonant.rewritten accepted.rewritten resolved accepted.warnings ?_⟩
    rw [accepted.collections]
    exact consonant.collections
  · rw [accepted.collections, accepted.events]
    intro collection recorded
    refine forall_insert accepted.fresh (sound.fits collection recorded) ?_
    intro isCharge
    obtain ⟨intent, consonant, resolved⟩ := resolves event.chargeId
    have known := resolvePaymentIntent_ne_none recorded isCharge.symm
    have linked : linkedCollection s event = some collection := by
      rw [linkedCollection, (resolved rfl).resolve_left known, Option.bind_some,
        ← consonant.collections collection recorded isCharge.symm]
      exact find?_of_mem recorded
    exact
      ⟨(accepted.fits linked).1, fun isRefund => atMost isRefund collection recorded isCharge.symm⟩
  · rw [accepted.warnings]
    exact sound.warnings

theorem compatible_some {named : Option PaymentIntent}
    (isCompatible : compatible named (some intent) = true) :
    named = none ∨ named = some intent := by
  rcases compatible_iff.mp isCompatible with missing | absurdity | same
  · exact .inl missing
  · cases absurdity
  · exact .inr same

theorem Sound.records {taken : Step} (sound : Sound s)
    (records : Records s next taken collection) : Sound next := by
  have reached := sound.reached.records records
  have isThere : ∀ other ∈ next.collections.rows,
      other.chargeId = collection.chargeId → other.paymentIntent = collection.paymentIntent := by
    intro other mem isCharge
    rw [reached.oneCollection other mem collection records.recorded isCharge]
  refine { reached := reached, oneIntent := ?_, fits := ?_, warnings := ?_ }
  · intro id
    by_cases same : collection.chargeId = id
    · subst same
      have consonant : Consonant s collection.chargeId collection.paymentIntent :=
        { charges := fun row mem isCharge =>
            compatible_some (records.clear.charges row mem isCharge).1
          disputes := fun row mem isCharge =>
            compatible_some (records.clear.disputes row mem isCharge).1
          warnings := fun row mem isCharge =>
            compatible_some (records.clear.warnings row mem isCharge)
          collections := fun other mem => isThere other (records.grows.collections other mem) }
      exact ⟨collection.paymentIntent, consonant.rewritten records.rewritten (fun _ => .inr rfl)
        records.warnings isThere⟩
    · obtain ⟨intent, consonant⟩ := sound.oneIntent id
      refine ⟨intent, consonant.rewritten records.rewritten
        (fun isCharge => absurd isCharge same) records.warnings ?_⟩
      intro other mem isCharge
      refine consonant.collections other (records.mem_of_ne mem ?_) isCharge
      rw [isCharge]
      exact Ne.symm same
  · rw [records.events]
    intro other mem event stored isCharge
    rcases records.collections.mem_iff.mp mem with old | rfl
    · exact sound.fits other old event stored isCharge
    · exact records.clear.fits sound.reached.merged stored isCharge
  · rw [records.warnings]
    exact sound.warnings

theorem Sound.warned {seen : State} {warning : RiskEvent} (sound : Sound s)
    (own : NamesOwn s warning.chargeId warning.paymentIntent)
    (shown : ∀ row ∈ s.warnings.rows, row.warningId = warning.warningId → row ∈ seen.warnings.rows)
    (ran : applyStripeRiskEvent seen s warning = .ok next) : Sound next := by
  obtain ⟨noConflict, -, rest, stored⟩ := applyStripeRiskEvent_ok ran
  have reached : Reached next := by
    refine sound.reached.of_rest (by rw [rest]) ?_ ?_ <;> rw [rest]
    · exact sound.reached.topups
    · exact sound.reached.funded
  rw [rest] at reached stored ⊢
  refine ⟨reached, ?_, sound.fits, ?_⟩
  · intro charge
    obtain ⟨intent, holds, named⟩ := sound.exists_intent own charge
    refine ⟨intent, holds.charges, holds.disputes, ?_, holds.collections⟩
    intro row mem isCharge
    rcases (stored row).mp mem with old | rfl
    · exact holds.warnings row old isCharge
    · exact named isCharge
  · -- A stored warning with this id was seen, so it is about this charge.
    have sameCharge : ∀ row ∈ s.warnings.rows,
        row.warningId = warning.warningId → row.chargeId = warning.chargeId := by
      intro row mem sameId
      have unrelated := List.any_eq_false.mp noConflict row (shown row mem sameId)
      simp only [sameId, decide_true, Bool.true_and, Bool.or_eq_true,
        decide_eq_true_eq, not_or, ne_eq, not_not] at unrelated
      exact unrelated.1
    intro row mem other isOther sameId
    rcases (stored row).mp mem with old | rfl
    · rcases (stored other).mp isOther with otherOld | rfl
      · exact sound.warnings row old other otherOld sameId
      · exact sameCharge row old sameId
    · rcases (stored other).mp isOther with otherOld | rfl
      · exact (sameCharge other otherOld sameId.symm).symm
      · rfl

theorem Sound.stepped {taken : Step} {b : Racing} (sound : Sound b.cash)
    (safe : Safe b (.transaction taken)) (ran : step b.cash taken = .ok next) : Sound next := by
  have reached := sound.reached.stepped ran
  cases sound.reached.steps ran with
  | rests _ rest | begins rest =>
    rw [rest] at reached ⊢
    refine ⟨reached, fun charge => ?_, sound.fits, sound.warnings⟩
    obtain ⟨intent, holds⟩ := sound.oneIntent charge
    exact ⟨intent, holds.charges, holds.disputes, holds.warnings, holds.collections⟩
  | warns => exact sound.warned safe (fun _ mem _ => mem) ran
  | accepts valid accepted => exact sound.accepted valid safe.1 safe.2 accepted
  | records records => exact sound.records records

theorem Sound.executed {seen : State} {statement : Statement}
    (sound : Sound s) (upToDate : UpToDate seen s statement)
    (ran : execute seen s statement = .ok next) : Sound next := by
  cases statement with
  | confirm => exact sound.records (confirmCharge_ok upToDate ran)
  | warn => exact sound.warned upToDate.1 upToDate.2 ran

theorem Sound.moved {b after : Racing} {taken : Move} (sound : Sound b.cash)
    (safe : Safe b taken) (ran : move b taken = .ok after) : Sound after.cash := by
  cases taken with
  | transaction =>
    rw [move, bind_eq_ok] at ran
    obtain ⟨_, isNext, isAfter⟩ := ran
    cases isAfter
    exact sound.stepped safe isNext
  | start =>
    cases ran
    exact sound
  | proceed index =>
    unfold move at ran
    cases waits : b.waiting[index]? with
    | none =>
      simp only [waits] at ran
      cases ran
      exact sound
    | some waiting =>
      have upToDate := safe waiting waits
      simp only [waits] at ran
      cases outcome : execute waiting.seen b.cash waiting.statement with
      | ok =>
        simp only [outcome] at ran
        cases ran
        exact sound.executed upToDate outcome
      | error =>
        simp only [outcome] at ran
        cases ran
        exact sound

end

theorem sound_empty : Sound State.empty where
  reached := reached_empty
  oneIntent := fun _ =>
    ⟨0, nofun,
      nofun,
      nofun,
      nofun⟩
  fits := nofun
  warnings := nofun

/-- Along every run whose moves are all safe, the evidence about a charge is
bound to its collection and counted against it. -/
theorem evidence_bound (moves : List Move) (safe : Meets move Safe Racing.empty moves) :
    Always move (fun b => EvidenceBound b.cash) Racing.empty moves := by
  have preserved : ∀ b taken after, Sound (Racing.cash b) → Safe b taken →
      move b taken = .ok after → Sound after.cash :=
    fun _ _ _ sound safe => sound.moved safe
  exact always_of_guarded preserved (fun _ sound => sound.evidenceBound) sound_empty safe

def jobCharge : Confirmation := ⟨⟨7, 1, 100, 0⟩, 4, .job 9, true⟩

def unnamedRefund : CashEvent := ⟨1, .chargeRefunded, 1, 1, none, 0, .other 0, 1, 100, 30⟩

def namedDispute (intent : PaymentIntent) (amountCents : Int) : CashEvent :=
  ⟨2, .disputeFundsWithdrawn, 5, 1, some intent, 0, .other 0, 2, amountCents, 0⟩

def refundThenConfirm : List Move :=
  [.transaction (.deliver unnamedRefund), .start (.confirm jobCharge),
    .proceed 0, .transaction (.deliver (namedDispute 7 40))]

def refundDuringConfirm : List Move :=
  [.start (.confirm jobCharge), .transaction (.deliver unnamedRefund), .proceed 0]

def disputeUnderOtherIntent : List Move :=
  [.transaction (.confirm jobCharge), .transaction (.deliver (namedDispute 8 40))]

def disputeOfMore : List Move :=
  [.transaction (.confirm jobCharge), .transaction (.deliver (namedDispute 7 140))]

def warningForTwoCharges : List Move :=
  [.start (.warn ⟨1, 3, 1, none, 0⟩), .start (.warn ⟨2, 3, 2, none, 0⟩), .proceed 0, .proceed 0]

def cashAfter (moves : List Move) : State := (Machine.run move Racing.empty moves).cash

set_option maxRecDepth 4000 in
theorem refundThenConfirm_evidence_bound :
    Always move (fun b => EvidenceBound b.cash) Racing.empty
      refundThenConfirm :=
  evidence_bound refundThenConfirm (by decide +kernel)

theorem evidence_escapes_binding :
    ¬ EvidenceBound (cashAfter refundDuringConfirm) ∧
      ¬ EvidenceBound (cashAfter disputeUnderOtherIntent) ∧
      ¬ EvidenceBound (cashAfter disputeOfMore) ∧
      ¬ EvidenceBound (cashAfter warningForTwoCharges) := by
  refine ⟨fun bound => ?_, fun bound => ?_, fun bound => ?_, fun bound => ?_⟩
  · exact absurd bound.charges (by decide +kernel)
  · exact absurd bound.disputes (by decide +kernel)
  · exact absurd bound.disputes (by decide +kernel)
  · exact absurd bound.warnings (by decide +kernel)

end MercControl.Stripe
