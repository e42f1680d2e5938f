import MercControl.Stripe.CashInvariant

/-!
# Stripe's cash events in any order

Stripe delivers the events about a charge in any order and more than once.  If
they fit the collection of the charge, every order records it and ends with the
same cash: what each row sums up depends on the set of stored events only.  A
dispute of more than the charge is taken in after the recording, and before it
stands in its way.

Stripe is assumed to keep its identifiers and the amount, the currency and the
payment intent of a charge and of a dispute.
-/

namespace MercControl.Stripe

open Library Machine Table

def delivered (steps : List Step) : List CashEvent :=
  steps.filterMap fun
    | .deliver event => some event
    | _ => none

/-- What Stripe keeps fixed, as far as the cash of one charge depends on
it. -/
structure StripeKeeps (charge : ChargeId) (intent : PaymentIntent)
    (events : List CashEvent) : Prop where
  ids : ∀ event ∈ events, ∀ other ∈ events, event.eventId = other.eventId → event = other
  intents : ∀ event ∈ events, event.chargeId = charge →
    event.paymentIntent = none ∨ event.paymentIntent = some intent
  otherIntents : ∀ event ∈ events, event.chargeId ≠ charge → event.paymentIntent ≠ some intent
  refunds : ∀ event ∈ events, ∀ other ∈ events,
    event.isRefund = true → other.isRefund = true →
      event.chargeId = other.chargeId →
        event.amountCents = other.amountCents ∧ event.currency = other.currency
  disputes : ∀ event ∈ events, ∀ other ∈ events,
    event.isRefund = false → other.isRefund = false →
      event.objectId = other.objectId →
        event.chargeId = other.chargeId ∧ event.amountCents = other.amountCents ∧
          event.currency = other.currency

def refundedCents (s : State) (charge : ChargeId) : Option Int :=
  (s.charges.find? charge).map ChargeCash.refundedCents

def disputeFlag (s : State) (charge : ChargeId) (dispute : DisputeId) : Option Bool :=
  ((s.disputes.find? dispute).filter fun row =>
    decide (row.chargeId = charge)).map DisputeCash.cashUnavailable

def recordedImpairment (s : State) (intent : PaymentIntent) (id : Nat) : Option Int :=
  ((s.funding.find? id).filter fun row =>
    decide (row.paymentIntent = intent)).map fun row => row.compromisedCents.getD 0

structure SameCash (collection : Collection) (left right : State) : Prop where
  leftRecords : left.collections.find? collection.paymentIntent = some collection
  rightRecords : right.collections.find? collection.paymentIntent = some collection
  refunded : refundedCents left collection.chargeId = refundedCents right collection.chargeId
  flags : ∀ dispute, disputeFlag left collection.chargeId dispute =
    disputeFlag right collection.chargeId dispute
  unavailable :
    unavailableCents left collection.paymentIntent collection.receivedCents =
      unavailableCents right collection.paymentIntent collection.receivedCents
  impaired : (left.funding.rows.map Funding.claim).Perm (right.funding.rows.map Funding.claim) →
    ∀ id, recordedImpairment left collection.paymentIntent id =
      recordedImpairment right collection.paymentIntent id

def Collection.Shares (other collection : Collection) : Prop :=
  other.paymentIntent = collection.paymentIntent ∨ other.chargeId = collection.chargeId ∨
    collection.source.isSome = true ∧ other.source = collection.source

/-- Steps that keep what Stripe keeps, whose events fit the collection, and of
which none claims the collection's payment intent, charge, source or top-up
operation for another. -/
structure Orderly (collection : Collection) (steps : List Step) : Prop where
  keeps : StripeKeeps collection.chargeId collection.paymentIntent (delivered steps)
  covered : ∀ event ∈ delivered steps, event.chargeId = collection.chargeId →
    Covered collection event
  alone : ∀ move ∈ steps, ∀ other ∈ move.collects, other.Shares collection → other = collection
  operations : ∀ move ∈ steps, move.collects = some collection → ∀ whole ∈ move.operation,
    ∀ other ∈ steps, ∀ operation ∈ other.operation,
      operation.operationKey = whole.operationKey → operation.IsStageOf whole
  warned : ∀ warning, Step.warn warning ∈ steps → warning.chargeId = collection.chargeId →
    warning.paymentIntent = none ∨ warning.paymentIntent = some collection.paymentIntent

def Agrees (collection : Collection) (charge : ChargeId) (named : Option PaymentIntent) : Prop :=
  (charge = collection.chargeId → named = none ∨ named = some collection.paymentIntent) ∧
    (charge ≠ collection.chargeId → named ≠ some collection.paymentIntent)

variable {collection : Collection} {charge : ChargeId} {s next : State} {event : CashEvent}
  {steps : List Step} {move : Step}

theorem agrees_none : Agrees collection charge none := ⟨fun _ => .inl rfl, fun _ => nofun⟩

theorem agrees_of_kept {other : Collection} (kept : other.Shares collection → other = collection) :
    Agrees collection other.chargeId (some other.paymentIntent) := by
  constructor
  · intro same
    rw [kept (.inr (.inl same))]
    exact .inr rfl
  · intro ne same
    rw [kept (.inl (Option.some.inj same))] at ne
    exact ne rfl

theorem Agrees.named_iff {named : Option PaymentIntent} (agrees : Agrees collection charge named)
    (known : charge = collection.chargeId → named ≠ none) :
    named = some collection.paymentIntent ↔ charge = collection.chargeId := by
  constructor
  · intro isNamed
    by_contra ne
    exact agrees.2 ne isNamed
  · exact fun isCharge => (agrees.1 isCharge).resolve_left (known isCharge)

section

variable {operation whole last : TopupOperation}

theorem TopupOperation.IsStageOf.key (stage : operation.IsStageOf whole) :
    operation.operationKey = whole.operationKey := by
  rcases stage with rfl | rfl <;> rfl

theorem TopupOperation.IsStageOf.trans (stage : operation.IsStageOf whole)
    (further : whole.IsStageOf last) : operation.IsStageOf last := by
  rcases stage with rfl | rfl
  · exact further
  · rcases further with rfl | rfl
    · exact .inr rfl
    · exact .inr rfl

end

def Kept (collection : Collection) (s : State) : Prop :=
  ∀ other ∈ s.collections.rows, other.Shares collection → other = collection

/-- What holds along a run of the given steps, in which every collection, event
and warning stays with its own charge. -/
structure Heard (collection : Collection) (steps : List Step) (s : State) : Prop where
  stored : ∀ event ∈ s.events.rows, event ∈ delivered steps
  collected : ∀ row ∈ s.collections.rows, ∃ move ∈ steps, row ∈ move.collects
  topups : ∀ operation ∈ s.topups.rows,
    ∃ move ∈ steps, ∃ whole ∈ move.operation, operation.IsStageOf whole
  warnings : ∀ warning ∈ s.warnings.rows, Step.warn warning ∈ steps
  agrees : EveryRow (Agrees collection) s

theorem Heard.kept (heard : Heard collection steps s) (orderly : Orderly collection steps) :
    Kept collection s := by
  intro other mem
  obtain ⟨move, isMove, collects⟩ := heard.collected other mem
  exact orderly.alone move isMove other collects

theorem Reached.grows (reached : Reached s) (ran : step s move = .ok next) : Grows s next := by
  cases reached.steps ran with
  | rests _ rest | begins rest | warns rest =>
    rw [rest]
    exact ⟨fun _ => id, fun _ => id⟩
  | accepts _ accepted =>
    constructor
    · rw [accepted.collections]
      exact fun _ mem => mem
    · rw [accepted.events]
      exact fun _ mem => mem_insert.mpr (.inl mem)
  | records records => exact records.grows

theorem Reached.run_grows (reached : Reached s) (steps : List Step) : Grows s (run s steps) := by
  let grown : State → Prop := fun state => Reached state ∧ Grows s state
  have preserved : ∀ state move after, grown state → step state move = .ok after → grown after :=
    fun _ _ _ holds ran => ⟨holds.1.stepped ran, holds.2.trans (holds.1.grows ran)⟩
  have holds : grown (run s steps) :=
    invariant_run_of_preserved preserved steps ⟨reached, Grows.refl s⟩
  exact holds.2

theorem mem_delivered : event ∈ delivered steps ↔ Step.deliver event ∈ steps := by
  rw [delivered, List.mem_filterMap]
  constructor
  · rintro ⟨move, mem, isEvent⟩
    cases move <;> cases isEvent
    exact mem
  · intro mem
    exact ⟨_, mem, rfl⟩

section

variable (heard : Heard collection steps s) (orderly : Orderly collection steps)
  (merged : Merged s) (isEvent : event ∈ delivered steps)

include heard orderly merged isEvent

theorem Heard.charge_fixed (isRefund : event.isRefund = true) {row : ChargeCash}
    (found : s.charges.find? event.chargeId = some row) :
    row.amountCents = event.amountCents ∧ row.currency = event.currency := by
  have merges := merged.charges.row_sums found
  obtain ⟨other, isOther, -⟩ := merges.refunded.1
  obtain ⟨isStored, otherRefund, sameCharge⟩ := isOther
  have fixed := merges.fixed other ⟨isStored, otherRefund, sameCharge⟩
  have same := orderly.keeps.refunds other (heard.stored other isStored) event isEvent
    otherRefund isRefund sameCharge
  exact ⟨fixed.1.trans same.1, fixed.2.trans same.2⟩

theorem Heard.dispute_fixed (isRefund : event.isRefund = false) {row : DisputeCash}
    (found : s.disputes.find? event.objectId = some row) :
    row.chargeId = event.chargeId ∧ row.amountCents = event.amountCents ∧
      row.currency = event.currency := by
  have merges := merged.disputes.row_sums found
  obtain ⟨other, isOther, -⟩ := merges.effect.1
  obtain ⟨isStored, otherDispute, sameObject⟩ := isOther
  have fixed := merges.fixed other ⟨isStored, otherDispute, sameObject⟩
  have same := orderly.keeps.disputes other (heard.stored other isStored) event isEvent
    otherDispute isRefund sameObject
  exact ⟨fixed.1.trans same.1, fixed.2.1.trans same.2.1, fixed.2.2.trans same.2.2⟩

/-- An event is resolved to the charge's payment intent or to none, and an
event about another charge to another one. -/
theorem Heard.resolved : Agrees collection event.chargeId (resolvePaymentIntent s event) := by
  have own : Agrees collection event.chargeId event.paymentIntent :=
    ⟨orderly.keeps.intents event isEvent, orderly.keeps.otherIntents event isEvent⟩
  refine resolvePaymentIntent_of (Agrees collection event.chargeId) agrees_none own ?_ ?_ ?_
  · intro other mem sameCharge
    have agrees := agrees_of_kept (heard.kept orderly other mem)
    rwa [sameCharge] at agrees
  · intro row mem isCharge
    have agrees := heard.agrees.1 row mem
    rwa [isCharge] at agrees
  · intro isRefund row found
    have agrees := heard.agrees.2 row (mem_of_find? found)
    rwa [(heard.dispute_fixed orderly merged isEvent isRefund found).1] at agrees

theorem Heard.linked (isCharge : event.chargeId = collection.chargeId) {other : Collection}
    (linked : linkedCollection s event = some other) : other = collection := by
  obtain ⟨_, resolved, found⟩ := Option.bind_eq_some_iff.mp linked
  have agrees := (heard.resolved orderly merged isEvent).1 isCharge
  rw [resolved] at agrees
  rcases agrees with absurdity | same
  · cases absurdity
  apply heard.kept orderly other (mem_of_find? found)
  left
  rw [key_of_find? found]
  exact Option.some.inj same

theorem Heard.accepted (accepted : Accepted s next event) : Heard collection steps next where
  stored := by
    rw [accepted.events]
    exact forall_insert accepted.fresh heard.stored isEvent
  collected := by
    rw [accepted.collections]
    exact heard.collected
  topups := by
    rw [accepted.topups]
    exact heard.topups
  warnings := by
    rw [accepted.warnings]
    exact heard.warnings
  agrees := heard.agrees.rewritten accepted.rewritten (heard.resolved orderly merged isEvent)

end

section

variable (heard : Heard collection steps s) (orderly : Orderly collection steps)

include heard orderly

theorem Heard.records {row : Collection} (isMove : move ∈ steps)
    (records : Records s next move row) : Heard collection steps next := by
  refine { stored := ?_, collected := ?_, topups := ?_, warnings := ?_, agrees := ?_ }
  · rw [records.events]
    exact heard.stored
  · intro other mem
    rcases records.collections.mem_iff.mp mem with old | rfl
    · exact heard.collected other old
    · exact ⟨move, isMove, records.collects⟩
  · intro operation mem
    rcases records.topups operation mem with old | offered
    · exact heard.topups operation old
    · exact ⟨move, isMove, offered⟩
  · rw [records.warnings]
    exact heard.warnings
  · exact heard.agrees.rewritten records.rewritten
      (agrees_of_kept (orderly.alone move isMove row records.collects))

variable (reached : Reached s)

include reached

theorem Heard.stepped (isMove : move ∈ steps) (ran : step s move = .ok next) :
    Heard collection steps next := by
  cases reached.steps ran with
  | rests _ rest =>
    rw [rest]
    exact { heard with }
  | begins rest begun =>
    rw [rest] at begun ⊢
    refine { heard with topups := ?_ }
    intro operation mem
    rcases begun operation mem with old | rfl
    · exact heard.topups operation old
    · exact ⟨_, isMove, _, rfl, .inl rfl⟩
  | warns rest warned =>
    rw [rest] at warned ⊢
    refine { heard with warnings := ?_ }
    intro warning mem
    rcases (warned warning).mp mem with old | rfl
    · exact heard.warnings warning old
    · exact isMove
  | accepts _ accepted =>
    exact heard.accepted orderly reached.merged (mem_delivered.mpr isMove) accepted
  | records records => exact heard.records orderly isMove records

/-- A valid event about the charge is stored when it is delivered, whether or
not the collection is recorded by then. -/
theorem Heard.stores (isEvent : event ∈ delivered steps) (valid : event.valid = true)
    (isCharge : event.chargeId = collection.chargeId) :
    event ∈ (apply step s (.deliver event)).events.rows := by
  have merged := reached.merged
  have resolved := (heard.resolved orderly merged isEvent).1 isCharge
  cases stored : s.events.find? event.eventId with
  | some other =>
    have mem := find?_eq_some.mp stored
    have same : other = event :=
      orderly.keeps.ids other (heard.stored other mem.1) event isEvent mem.2
    rw [same] at mem
    exact (reached.run_grows [.deliver event]).events event mem.1
  | none =>
    have sameIntent : ∀ named : Option PaymentIntent, Agrees collection event.chargeId named →
          compatible named (resolvePaymentIntent s event) = true := by
      intro named agreesNamed
      rw [compatible_iff]
      rcases agreesNamed.1 isCharge with missing | isNamed
      · exact .inl missing
      · rcases resolved with missing | isResolved
        · exact .inr (.inl missing)
        · exact .inr (.inr (isNamed.trans isResolved.symm))
    obtain ⟨next, ran⟩ : ∃ next, applyPaymentEventTx s event = .ok next := by
      refine applyPaymentEventTx_succeeds valid stored ?_ ⟨?_, ?_⟩
      · intro other linked
        rw [heard.linked orderly merged isEvent isCharge linked]
        exact collectionConflict_eq_false.mpr ⟨(orderly.covered event isEvent isCharge).1, isCharge⟩
      · intro isRefund row found
        have fixed := heard.charge_fixed orderly merged isEvent isRefund found
        have named := heard.agrees.1 row (mem_of_find? found)
        rw [key_of_find? found] at named
        exact ⟨fixed.1, fixed.2, sameIntent _ named⟩
      · intro isRefund row found
        have fixed := heard.dispute_fixed orderly merged isEvent isRefund found
        have named := heard.agrees.2 row (mem_of_find? found)
        rw [fixed.1] at named
        exact ⟨fixed.1, fixed.2.1, fixed.2.2, sameIntent _ named⟩
    have isNext : apply step s (.deliver event) = next := apply_of_ok ran
    rw [isNext]
    obtain ⟨-, ⟨known, -⟩ | accepted⟩ := applyPaymentEventTx_ok ran
    · rw [stored] at known
      cases known
    · rw [accepted.events]
      exact mem_insert.mpr (.inr rfl)

end

/-! ## The recording -/

theorem recordCollection_succeeds (kept : Kept collection s) :
    ∃ next, recordCollection s collection = .ok next := by
  unfold recordCollection
  split
  next stored found =>
    have same := kept stored (mem_of_find? found) (.inl (key_of_find? found))
    exact ⟨s, if_pos same⟩
  next fresh =>
    rw [if_neg]
    · exact ⟨_, rfl⟩
    intro taken
    obtain ⟨other, mem, shared⟩ := List.any_eq_true.mp taken
    have same : other = collection := by
      apply kept other mem
      simpa [Collection.Shares] using Or.inr shared
    have found := find?_of_mem mem
    rw [same, fresh] at found
    cases found

theorem Reached.collects_recorded (reached : Reached s) (collects : move.collects = some collection)
    (ran : step s move = .ok next) : collection ∈ next.collections.rows := by
  cases reached.steps ran with
  | rests silent =>
    rw [silent] at collects
    cases collects
  | begins | warns | accepts => cases collects
  | records records =>
    rw [records.collects] at collects
    cases collects
    exact records.recorded

theorem creditPendingTopup_succeeds {operation : TopupOperation} {charge : ChargeResult}
    (kept : Kept (charge.collection operation.buyerId none) s) (clear : Clear s charge) :
    ∃ next, creditPendingTopup s operation charge = .ok next := by
  obtain ⟨recorded, isRecorded⟩ := recordCollection_succeeds kept
  have stillClear : Clear recorded charge := by
    rw [(recordCollection_ok isRecorded).2]
    exact ⟨clear.charges, clear.disputes, clear.warnings⟩
  rw [creditPendingTopup, isRecorded, Except.bind, bindStripeCashStateToCollection,
    bindingConflict_eq_false.mpr stillClear]
  exact ⟨_, rfl⟩

section

variable (heard : Heard collection steps s) (orderly : Orderly collection steps)
  (merged : Merged s)

include heard orderly merged

theorem Heard.clear {charge : ChargeResult} {buyer : Nat} {source : Option ChargedSource}
    (isCollection : charge.collection buyer source = collection) : Clear s charge := by
  subst isCollection
  have isCompatible : ∀ named : Option PaymentIntent,
      named = none ∨ named = some charge.paymentIntent →
        compatible named (some charge.paymentIntent) = true :=
    fun named known => compatible_iff.mpr (known.imp_right .inr)
  have covered := fun event stored => orderly.covered event (heard.stored event stored)
  refine ⟨?_, ?_, ?_⟩
  · intro row mem isCharge
    exact ⟨isCompatible _ ((heard.agrees.1 row mem).1 isCharge),
      merged.charge_covered covered mem isCharge⟩
  · intro row mem isCharge
    exact ⟨isCompatible _ ((heard.agrees.2 row mem).1 isCharge),
      merged.dispute_covered covered mem isCharge⟩
  · intro warning mem isCharge
    exact isCompatible _ (orderly.warned warning (heard.warnings warning mem) isCharge)

theorem Heard.confirms (isMove : move ∈ steps) (collects : move.collects = some collection) :
    ∃ next, step s move = .ok next := by
  have own := orderly.operations move isMove collects
  have kept := heard.kept orderly
  cases move with
  | confirm confirmation =>
    simp only [Step.collects] at collects
    split_ifs at collects with refused
    have isCollection := Option.some.inj collects
    have clear := heard.clear orderly merged isCollection
    obtain ⟨recorded, isRecorded⟩ := recordCollection_succeeds kept
    rw [step, confirmCharge, if_neg refused, bindingConflict_eq_false.mpr clear, isCollection,
      isRecorded]
    exact ⟨_, rfl⟩
  | creditTopup key buyer charge =>
    simp only [Step.collects] at collects
    split_ifs at collects with refused
    have isCollection := Option.some.inj collects
    have clear := heard.clear orderly merged isCollection
    rw [step, creditPrepaidTopup, if_neg refused]
    split
    next fresh =>
      exact creditPendingTopup_succeeds (isCollection ▸ kept)
        ⟨clear.charges, clear.disputes, clear.warnings⟩
    next operation found =>
      obtain ⟨other, isOther, whole, isWhole, stage⟩ :=
        heard.topups operation (mem_of_find? found)
      have sameKey : whole.operationKey = key := stage.key.symm.trans (key_of_find? found)
      have isStage := stage.trans (own _ rfl other isOther whole isWhole sameKey)
      rcases isStage with rfl | rfl
      · simp only [ne_eq, not_true_eq_false, or_self, if_false]
        rw [bindStripeCashStateToCollection, bindingConflict_eq_false.mpr clear]
        exact ⟨_, rfl⟩
      · simp only [ne_eq, not_true_eq_false, or_self, if_false]
        subst isCollection
        exact creditPendingTopup_succeeds kept clear
  | deliver | beginTopup | warn | reserve => cases collects

end

/-! ## Runs -/

theorem heard_empty : Heard collection steps State.empty where
  stored := nofun
  collected := nofun
  topups := nofun
  warnings := nofun
  agrees := ⟨nofun, nofun⟩

section

variable {taken : List Step} (orderly : Orderly collection steps)
  (part : ∀ move ∈ taken, move ∈ steps)

include orderly part

theorem Heard.ran (heard : Heard collection steps s) (reached : Reached s) :
    Heard collection steps (run s taken) := by
  induction taken generalizing s with
  | nil => exact heard
  | cons move rest ih =>
    refine ih (fun other mem => part other (List.mem_cons_of_mem move mem)) ?_
      (reached.ran [move])
    exact apply_of_committed heard fun _ ran =>
      heard.stepped orderly reached (part move List.mem_cons_self) ran

/-- The state in which a step of the run is taken. -/
theorem exists_before (isMove : move ∈ taken) : ∃ s, Reached s ∧ Heard collection steps s ∧
    Grows (apply step s move) (run State.empty taken) := by
  obtain ⟨before, after, rfl⟩ := List.append_of_mem isMove
  have reached : Reached (run State.empty before) := reached_empty.ran before
  refine ⟨run State.empty before, reached, ?_, ?_⟩
  · refine heard_empty.ran orderly (fun other mem => part other ?_) reached_empty
    exact List.mem_append_left _ mem
  · have split : run State.empty (before ++ move :: after) =
        run (apply step (run State.empty before) move) after := run_append _ _ _
    rw [split]
    exact (reached.ran [move]).run_grows after

theorem recorded_of_collects (confirms : ∃ move ∈ taken, move.collects = some collection) :
    collection ∈ (run State.empty taken).collections.rows := by
  obtain ⟨move, isMove, collects⟩ := confirms
  obtain ⟨s, reached, heard, grows⟩ := exists_before orderly part isMove
  obtain ⟨next, ran⟩ := heard.confirms orderly reached.merged (part move isMove) collects
  rw [apply_of_ok ran] at grows
  exact grows.collections collection (reached.collects_recorded collects ran)

/-- The stored events about the charge are the valid ones. -/
theorem mem_events_iff (delivers : ∀ event ∈ delivered steps,
      event.chargeId = collection.chargeId → event ∈ delivered taken)
    (isCharge : event.chargeId = collection.chargeId) :
    event ∈ (run State.empty taken).events.rows ↔
      event ∈ delivered steps ∧ event.valid = true := by
  constructor
  · intro stored
    have heard : Heard collection steps (run State.empty taken) :=
      heard_empty.ran orderly part reached_empty
    exact ⟨heard.stored event stored, (reached_empty.ran taken).valid event stored⟩
  · rintro ⟨isEvent, valid⟩
    have isMove := mem_delivered.mp (delivers event isEvent isCharge)
    obtain ⟨s, reached, heard, grows⟩ := exists_before orderly part isMove
    exact grows.events event (heard.stores orderly reached isEvent valid isCharge)

end

/-! ## The same events -/

section

theorem not_merges_empty_charge (row : ChargeCash) : ¬ row.Merges ∅ := by
  intro merges
  obtain ⟨_, isEvent, -⟩ := merges.refunded.1
  exact isEvent

theorem not_merges_empty_dispute (row : DisputeCash) : ¬ row.Merges ∅ := by
  intro merges
  obtain ⟨_, isEvent, -⟩ := merges.effect.1
  exact isEvent

/-- What the events of a dispute determine. -/
def DisputeCash.cash (row : DisputeCash) : ChargeId × Bool × Int :=
  (row.chargeId, row.cashUnavailable, row.amountCents)

theorem DisputeCash.Merges.cash_eq {row other : DisputeCash} {events : Set CashEvent}
    (merges : row.Merges events) (alike : other.Merges events) : row.cash = other.cash := by
  obtain ⟨event, isEvent, -⟩ := merges.effect.1
  have fixed := merges.fixed event isEvent
  have alsoFixed := alike.fixed event isEvent
  have sameKey : row.effectKey = other.effectKey := merges.effect.unique alike.effect
  have sameRank : row.effectRank = other.effectRank := congrArg (fun key => (ofLex key).2) sameKey
  rw [DisputeCash.cash, DisputeCash.cash, fixed.1, fixed.2.1, alsoFixed.1,
    alsoFixed.2.1, merges.flag, alike.flag, sameRank]

theorem Heard.bound (heard : Heard collection steps s) (named : Named s)
    (recorded : collection ∈ s.collections.rows) : EveryRow (fun charge named =>
      named = some collection.paymentIntent ↔ charge = collection.chargeId) s :=
  ⟨fun row mem => (heard.agrees.1 row mem).named_iff ((named collection recorded).1 row mem),
    fun row mem => (heard.agrees.2 row mem).named_iff ((named collection recorded).2 row mem)⟩

variable {left right : State}

def disputeCash (s : State) (charge : ChargeId) (dispute : DisputeId) :
    Option (ChargeId × Bool × Int) :=
  ((s.disputes.find? dispute).filter fun row => decide (row.chargeId = charge)).map DisputeCash.cash

theorem disputeCash_eq_none {dispute : DisputeId} (merged : Merged s)
    (unheard : ∀ event ∈ eventsOf s dispute, event.chargeId ≠ charge) :
    disputeCash s charge dispute = none := by
  cases found : s.disputes.find? dispute with
  | none =>
    rw [disputeCash, found]
    rfl
  | some row =>
    have merges := merged.disputes.row_sums found
    obtain ⟨event, isEvent, -⟩ := merges.effect.1
    have ne : row.chargeId ≠ charge := by
      rw [(merges.fixed event isEvent).1]
      exact unheard event isEvent
    rw [disputeCash, found]
    simp [Option.filter, ne]

theorem Heard.shares (heard : Heard collection steps s) (named : Named s)
    (recorded : collection ∈ s.collections.rows) :
    (∀ k, (s.charges.find? k).elim 0 (chargeShare collection.paymentIntent) =
      if k = collection.chargeId then (refundedCents s collection.chargeId).getD 0 else 0) ∧
    (∀ k, (s.disputes.find? k).elim 0 (disputeShare collection.paymentIntent) =
      (disputeCash s collection.chargeId k).elim 0 fun cash =>
        if cash.2.1 then cash.2.2 else 0) := by
  have bound := heard.bound named recorded
  constructor
  · intro k
    cases found : s.charges.find? k with
    | none =>
      split_ifs with isCharge
      · rw [refundedCents, ← isCharge, found]
        rfl
      · rfl
    | some row =>
      have key : row.chargeId = k := key_of_find? found
      have isBound := bound.1 row (mem_of_find? found)
      rw [key] at isBound
      split_ifs with isCharge
      · rw [refundedCents, ← isCharge, found]
        simp [chargeShare, isBound.mpr isCharge]
      · simp [chargeShare, mt isBound.mp isCharge]
  · intro k
    cases found : s.disputes.find? k with
    | none =>
      rw [disputeCash, found]
      rfl
    | some row =>
      have isBound := bound.2 row (mem_of_find? found)
      rw [disputeCash, found]
      by_cases isCharge : row.chargeId = collection.chargeId
      · simp [disputeShare, DisputeCash.cash, Option.filter, isBound.mpr isCharge, isCharge]
      · simp [disputeShare, Option.filter, mt isBound.mp isCharge, isCharge]

theorem exists_claim {other : State} {id : Nat} {row : Funding}
    (claims : (s.funding.rows.map Funding.claim).Perm (other.funding.rows.map Funding.claim))
    (found : s.funding.find? id = some row) :
    ∃ twin, other.funding.find? id = some twin ∧ row.claim = twin.claim := by
  have mem := find?_eq_some.mp found
  have isClaim : row.claim ∈ other.funding.rows.map Funding.claim :=
    claims.mem_iff.mp (List.mem_map_of_mem mem.1)
  obtain ⟨twin, isTwin, same⟩ := List.mem_map.mp isClaim
  have sameId : twin.claim.fundingId = row.claim.fundingId := by rw [same]
  exact ⟨twin, find?_eq_some.mpr ⟨isTwin, sameId.trans mem.2⟩, same.symm⟩

theorem recordedImpairment_eq (reachedLeft : Reached left) (reachedRight : Reached right)
    (leftRecorded : left.collections.find? collection.paymentIntent = some collection)
    (rightRecorded : right.collections.find? collection.paymentIntent = some collection)
    (unavailable : unavailableCents left collection.paymentIntent collection.receivedCents =
        unavailableCents right collection.paymentIntent collection.receivedCents)
    (sameClaims : (left.funding.rows.map Funding.claim).Perm
      (right.funding.rows.map Funding.claim)) (id : Nat) :
    recordedImpairment left collection.paymentIntent id =
      recordedImpairment right collection.paymentIntent id := by
  cases found : left.funding.find? id with
  | none =>
    cases alsoFound : right.funding.find? id with
    | none => rw [recordedImpairment, recordedImpairment, found, alsoFound]
    | some =>
      obtain ⟨twin, isTwin, -⟩ := exists_claim sameClaims.symm alsoFound
      rw [found] at isTwin
      cases isTwin
  | some row =>
    obtain ⟨twin, isTwin, same⟩ := exists_claim sameClaims found
    have sameIntent : row.claim.paymentIntent = twin.claim.paymentIntent := by rw [same]
    have sameAmount : row.claim.amountCents = twin.claim.amountCents := by rw [same]
    change row.paymentIntent = twin.paymentIntent at sameIntent
    change row.amountCents = twin.amountCents at sameAmount
    rw [recordedImpairment, recordedImpairment, found, isTwin]
    by_cases isIntent : row.paymentIntent = collection.paymentIntent
    · obtain ⟨-, _, isLeft, leftImpaired⟩ := reachedLeft.funded row (mem_of_find? found)
      obtain ⟨-, _, isRight, rightImpaired⟩ := reachedRight.funded twin (mem_of_find? isTwin)
      rw [isIntent, leftRecorded] at isLeft
      rw [← sameIntent, isIntent, rightRecorded] at isRight
      cases isLeft
      cases isRight
      have impaired : impairedCents left collection.receivedCents row =
            impairedCents right collection.receivedCents twin := by
        rw [impairedCents, impairedCents,
          reservedUpTo_claims sameClaims same, sameAmount, ← sameIntent,
          isIntent, unavailable]
      simp [Option.filter, isIntent, ← sameIntent, leftImpaired, rightImpaired, impaired]
    · simp [Option.filter, isIntent, ← sameIntent]

section

variable (reachedLeft : Reached left) (reachedRight : Reached right)
variable (sameEvents : ∀ event : CashEvent,
  event.chargeId = collection.chargeId → (event ∈ left.events.rows ↔ event ∈ right.events.rows))

include reachedLeft reachedRight sameEvents

theorem refundedCents_eq :
    refundedCents left collection.chargeId = refundedCents right collection.chargeId := by
  have sameRefunds : refundsOf left collection.chargeId = refundsOf right collection.chargeId := by
    ext event
    exact and_congr_left fun about => sameEvents event about.2
  exact reachedLeft.merged.charges.find?_map_eq reachedRight.merged.charges
    sameRefunds not_merges_empty_charge
    fun _ _ _ merges alike => merges.refunded.unique alike.refunded

variable (orderly : Orderly collection steps) (leftHeard : Heard collection steps left)
  (rightHeard : Heard collection steps right)

include orderly leftHeard rightHeard

theorem disputeCash_eq (dispute : DisputeId) : disputeCash left collection.chargeId dispute =
      disputeCash right collection.chargeId dispute := by
  by_cases reported : ∃ event ∈ eventsOf left dispute, event.chargeId = collection.chargeId
  · obtain ⟨first, ⟨stored, isDispute, isObject⟩, isCharge⟩ := reported
    have ofCharge : ∀ event ∈ delivered steps, event.isRefund = false ∧ event.objectId = dispute →
        event.chargeId = collection.chargeId := by
      intro event isEvent about
      have same := orderly.keeps.disputes event isEvent first (leftHeard.stored first stored)
        about.1 isDispute (about.2.trans isObject.symm)
      exact same.1.trans isCharge
    have sameReports : eventsOf left dispute = eventsOf right dispute := by
      ext event
      constructor
      · rintro ⟨stored, about⟩
        have isCharge := ofCharge event (leftHeard.stored event stored) about
        exact ⟨(sameEvents event isCharge).mp stored, about⟩
      · rintro ⟨stored, about⟩
        have isCharge := ofCharge event (rightHeard.stored event stored) about
        exact ⟨(sameEvents event isCharge).mpr stored, about⟩
    have sameRow : (left.disputes.find? dispute).map DisputeCash.cash =
        (right.disputes.find? dispute).map DisputeCash.cash :=
      reachedLeft.merged.disputes.find?_map_eq reachedRight.merged.disputes
        sameReports not_merges_empty_dispute
        fun _ _ _ merges alike => merges.cash_eq alike
    have filtered : ∀ row : Option DisputeCash,
        (row.filter fun row => decide (row.chargeId = collection.chargeId)).map DisputeCash.cash =
        (row.map DisputeCash.cash).filter fun cash => decide (cash.1 = collection.chargeId) := by
      intro row
      cases row with
      | none => rfl
      | some row =>
        by_cases isCharge : row.chargeId = collection.chargeId <;>
          simp [DisputeCash.cash, Option.filter, isCharge]
    rw [disputeCash, disputeCash, filtered, filtered, sameRow]
  · rw [disputeCash_eq_none reachedLeft.merged, disputeCash_eq_none reachedRight.merged]
    · rintro event ⟨stored, about⟩ isCharge
      exact reported ⟨event, ⟨(sameEvents event isCharge).mpr stored, about⟩, isCharge⟩
    · intro event isEvent isCharge
      exact reported ⟨event, isEvent, isCharge⟩

/-- Two states that stored the same events about the charge of a recorded
collection agree on its cash. -/
theorem sameCash_of_events (leftRecorded : collection ∈ left.collections.rows)
    (rightRecorded : collection ∈ right.collections.rows) :
    SameCash collection left right := by
  have refunded := refundedCents_eq reachedLeft reachedRight sameEvents
  have disputes := disputeCash_eq reachedLeft reachedRight sameEvents orderly leftHeard rightHeard
  have leftShares := leftHeard.shares reachedLeft.named leftRecorded
  have rightShares := rightHeard.shares reachedRight.named rightRecorded
  have unavailable : ∀ received,
      unavailableCents left collection.paymentIntent received =
        unavailableCents right collection.paymentIntent received := by
    apply unavailableCents_congr
    · intro k
      rw [leftShares.1, rightShares.1, refunded]
    · intro k
      rw [leftShares.2, rightShares.2, disputes]
  refine ⟨find?_of_mem leftRecorded, find?_of_mem rightRecorded, refunded, ?_, unavailable _, ?_⟩
  · intro dispute
    have flagged : ∀ s : State,
        disputeFlag s collection.chargeId dispute =
          (disputeCash s collection.chargeId dispute).map fun cash => cash.2.1 := by
      intro s
      rw [disputeCash, Option.map_map]
      rfl
    rw [flagged, flagged, disputes]
  · exact recordedImpairment_eq reachedLeft reachedRight (find?_of_mem leftRecorded)
      (find?_of_mem rightRecorded) (unavailable _)

end

/-- Two runs that confirm a collection and deliver the same events about its
charge, in any order and any number of times, leave the same cash and impair
the same reservations alike, provided that the events fit the collection and
no dispute is about more than was received. -/
theorem cash_events_commute (first second : List Step)
    (orderly : Orderly collection (first ++ second))
    (firstDelivers : ∀ event ∈ delivered (first ++ second),
      event.chargeId = collection.chargeId → event ∈ delivered first)
    (secondDelivers : ∀ event ∈ delivered (first ++ second),
      event.chargeId = collection.chargeId → event ∈ delivered second)
    (firstConfirms : ∃ move ∈ first, move.collects = some collection)
    (secondConfirms : ∃ move ∈ second, move.collects = some collection) :
    SameCash collection (run State.empty first) (run State.empty second) := by
  have inFirst : ∀ move ∈ first, move ∈ first ++ second :=
    fun _ member => List.mem_append_left _ member
  have inSecond : ∀ move ∈ second, move ∈ first ++ second :=
    fun _ member => List.mem_append_right _ member
  have firstHeard : Heard collection (first ++ second) (run State.empty first) :=
    heard_empty.ran orderly inFirst reached_empty
  have secondHeard : Heard collection (first ++ second) (run State.empty second) :=
    heard_empty.ran orderly inSecond reached_empty
  refine sameCash_of_events (reached_empty.ran first) (reached_empty.ran second) ?_
    orderly firstHeard secondHeard (recorded_of_collects orderly inFirst firstConfirms)
    (recorded_of_collects orderly inSecond secondConfirms)
  intro event isCharge
  rw [mem_events_iff orderly inFirst firstDelivers isCharge,
    mem_events_iff orderly inSecond secondDelivers isCharge]

def paidJob : Collection := ⟨7, 1, 4, some (.job 9), 100, 0⟩

/-- Thirty cents are refunded; the webhook leaves the payment intent out. -/
def partialRefund : CashEvent := ⟨1, .chargeRefunded, 1, 1, none, 0, .other 0, 1, 100, 30⟩

def disputeOpened : CashEvent := ⟨2, .disputeCreated, 5, 1, none, 0, .other 0, 2, 40, 0⟩

def disputeWithdrawn : CashEvent := ⟨3, .disputeFundsWithdrawn, 5, 1, some 7, 0, .other 1, 3, 40, 0⟩

def confirmPaidJob : Step := .confirm ⟨⟨7, 1, 100, 0⟩, 4, .job 9, true⟩

def reserveSixty : Step := .reserve ⟨11, 12, 7, 60, 1⟩

def refundFirst : List Step :=
  [.deliver partialRefund, confirmPaidJob, reserveSixty,
    .deliver disputeOpened, .deliver disputeWithdrawn]

def refundLast : List Step :=
  [confirmPaidJob, reserveSixty, .deliver disputeWithdrawn,
    .deliver disputeOpened, .deliver disputeWithdrawn,
    .deliver partialRefund]

set_option maxRecDepth 4000 in
theorem refund_order_leaves_same_cash :
    SameCash paidJob (run State.empty refundFirst) (run State.empty refundLast) ∧
      recordedImpairment (run State.empty refundLast) 7 11 = some 30 := by
  have orderly : Orderly paidJob (refundFirst ++ refundLast) := by
    refine ⟨⟨by decide, by decide, by decide, by decide, by decide⟩, ?_, ?_, ?_, ?_⟩
    · unfold Covered Fits
      decide
    · unfold Collection.Shares
      decide
    · unfold TopupOperation.IsStageOf
      decide
    · simp [refundFirst, refundLast, confirmPaidJob, reserveSixty]
  exact ⟨cash_events_commute refundFirst refundLast orderly (by decide) (by decide)
    (by decide) (by decide), by decide +kernel⟩

/-- A dispute of 140 cents on a charge of 100. -/
def largeDispute : CashEvent := ⟨4, .disputeCreated, 6, 1, none, 0, .other 0, 2, 140, 0⟩

/-- After the confirmation the dispute is taken in; before it, it keeps the
collection from being recorded. -/
theorem large_dispute_order_matters :
    let late := run State.empty [confirmPaidJob, .deliver largeDispute]
    let early := run State.empty [.deliver largeDispute, confirmPaidJob]
    late.collections.find? 7 = some paidJob ∧ unavailableCents late 7 100 = 100 ∧
      early.collections.find? 7 = none ∧ unavailableCents early 7 100 = 0 := by
  decide +kernel

end

end MercControl.Stripe
