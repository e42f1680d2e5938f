import MercControl.Library.Machine
import MercControl.Library.Table

/-!
# Saved cards

Stripe reports saved cards in any order and more than once.  All reports are
kept, and a customer shows the card of the newest one.  The erasure of a buyer
deletes the customer, but not the reports.
-/

namespace MercControl.Card.Saved

open Library Machine Table

def validStripeObjectID (value start : List Char) : Bool :=
  start ≠ [] && start.length < value.length && start.isPrefixOf value &&
    (value.drop start.length).all fun c => c.isAlphanum || c = '_' || c = '-'

def isSHA256Hex (digest : List Char) : Bool :=
  digest.length = 64 && digest.all fun c => c.isDigit || 'a' ≤ c.toLower && c.toLower ≤ 'f'

inductive EventType
  | setupIntentSucceeded
  | paymentMethodAttached
  deriving DecidableEq

/-- `stripePaymentMethodEvent`. -/
structure CardEvent where
  eventId : String
  eventType : EventType
  customerId : String
  paymentMethod : String
  eventCreated : Int
  payloadSHA256 : String
  deriving DecidableEq

def CardEvent.Complete (event : CardEvent) : Prop :=
  event.eventId ≠ "" ∧ validStripeObjectID event.customerId.toList "cus_".toList ∧
    validStripeObjectID event.paymentMethod.toList "pm_".toList ∧ 0 < event.eventCreated ∧
    isSHA256Hex event.payloadSHA256.toList
  deriving Decidable

/-- A `billing_customers` row. -/
structure Customer where
  buyer : Nat
  customerId : String
  paymentMethod : Option String
  eventCreated : Int
  eventId : String

structure State where
  customers : Table Customer.buyer
  events : Table CardEvent.eventId
  dated : ∀ event ∈ events.rows, 0 < event.eventCreated

def State.empty : State := ⟨.empty, .empty, List.forall_mem_nil _⟩

def State.knows (s : State) (customerId : String) : Bool :=
  s.customers.rows.any (·.customerId = customerId)

inductive Failure
  | invalid
  | identityMismatch
  | constraint
  | notFound
  | conflict

def upsertBillingCustomer (s : State) (buyer : Nat) (customerId : String) :
    Except Failure State :=
  if !validStripeObjectID customerId.toList "cus_".toList then .error .invalid
  else if fresh : s.customers.find? buyer = none then
    if s.knows customerId then .error .constraint
    else .ok { s with customers := s.customers.insert ⟨buyer, customerId, none, 0, ""⟩ fresh }
  else if (s.customers.find? buyer).any (·.customerId = customerId) then .ok s
  else .error .identityMismatch

/-- Events are ordered by time, then by identifier: here by code point, in the
database by its collation. -/
def Customer.olderThan (customer : Customer) (event : CardEvent) : Bool :=
  customer.eventCreated < event.eventCreated ||
    customer.eventCreated = event.eventCreated && customer.eventId < event.eventId

def CardEvent.save (event : CardEvent) : Change Customer.buyer where
  apply := fun customer =>
    { customer with
      paymentMethod := some event.paymentMethod
      eventCreated := event.eventCreated
      eventId := event.eventId }
  kept := fun _ => rfl

def setBillingPMByCustomerEvent (s : State) (event : CardEvent) : Except Failure State :=
  if complete : ¬ event.Complete then .error .invalid
  -- The table takes lower-case digests only.
  else if s.knows event.customerId && event.payloadSHA256.any Char.isUpper then .error .constraint
  else if fresh : s.events.find? event.eventId = none then
    if !s.knows event.customerId then .error .notFound
    else .ok
      { customers := s.customers.update
          (fun customer => customer.customerId = event.customerId && customer.olderThan event)
          event.save
        events := s.events.insert event fresh
        dated := forall_insert fresh s.dated (not_not.mp complete).2.2.2.1 }
  else if s.events.find? event.eventId = some event then .ok s
  else .error .conflict

inductive Event
  | upsertBillingCustomer (buyer : Nat) (customerId : String)
  | setBillingPMByCustomerEvent (event : CardEvent)
  | enforceBuyerTombstone (buyer : Nat)

def step (s : State) : Event → Except Failure State
  | .upsertBillingCustomer buyer customerId => Saved.upsertBillingCustomer s buyer customerId
  | .setBillingPMByCustomerEvent event => Saved.setBillingPMByCustomerEvent s event
  | .enforceBuyerTombstone buyer => .ok { s with customers := s.customers.remove buyer }

/-- The customer shows the newest of the events kept for it, if there are any. -/
structure Customer.UpToDate (events : List CardEvent) (customer : Customer) : Prop where
  newest : ∀ event ∈ events, event.customerId = customer.customerId →
    customer.olderThan event = false
  shown : customer.paymentMethod = none ∧ customer.eventCreated = 0 ∨
    ∃ event ∈ events, event.customerId = customer.customerId ∧
      event.save.apply customer = customer

def UpToDate (s : State) : Prop :=
  ∀ customer ∈ s.customers.rows, customer.UpToDate s.events.rows

/-- No new customer gets an identifier for which events are kept. -/
def BoundOnce (s : State) : Event → Prop
  | .upsertBillingCustomer buyer customerId =>
    (Saved.upsertBillingCustomer s buyer customerId).isOk → s.customers.find? buyer = none →
      ∀ event ∈ s.events.rows, event.customerId ≠ customerId
  | _ => True

variable {customer : Customer} {event : CardEvent} {s next : State}

theorem Customer.olderThan_trans {later : CardEvent} (older : customer.olderThan event = true)
    (newer : (event.save.apply customer).olderThan later = true) :
    customer.olderThan later = true := by
  simp only [olderThan, Bool.or_eq_true, Bool.and_eq_true, decide_eq_true_iff] at older newer ⊢
  rcases older with older | ⟨same, older⟩ <;> rcases newer with newer | ⟨equal, newer⟩
  · exact .inl (older.trans newer)
  · exact .inl (older.trans_eq equal)
  · exact .inl (same.trans_lt newer)
  · exact .inr ⟨same.trans equal, String.lt_trans older newer⟩

theorem Customer.UpToDate.save {events : List CardEvent} (current : customer.UpToDate events)
    (same : customer.customerId = event.customerId) (older : customer.olderThan event = true) :
    (event.save.apply customer).UpToDate (events ++ [event]) where
  newest := by
    intro other mem isOwn
    rcases List.mem_append.mp mem with mem | mem
    · have old := current.newest other mem isOwn
      exact Bool.eq_false_iff.mpr fun newer => by simp [olderThan_trans older newer] at old
    · simp [List.mem_singleton.mp mem, olderThan, CardEvent.save]
  shown := .inr ⟨event, by simp, same.symm, rfl⟩

theorem setBillingPMByCustomerEvent_upToDate (current : UpToDate s)
    (ran : setBillingPMByCustomerEvent s event = .ok next) : UpToDate next := by
  unfold setBillingPMByCustomerEvent at ran
  split_ifs at ran with _ _ fresh <;> cases ran
  · intro customer mem
    obtain ⟨before, isRow, rfl⟩ := mem_update.mp mem
    have upToDate := current before isRow
    split
    · rename_i chosen
      rw [Bool.and_eq_true, decide_eq_true_iff] at chosen
      exact upToDate.save chosen.1 chosen.2
    · rename_i unchosen
      refine ⟨?_, upToDate.shown.imp_right
        (Exists.imp fun _ => And.imp_left (List.mem_append_left _))⟩
      refine forall_insert fresh upToDate.newest fun isOwn => ?_
      simpa [isOwn] using unchosen
  · exact current

/-- A new customer has no card. -/
theorem upsertBillingCustomer_upToDate_iff {buyer : Nat} {customerId : String}
    (current : UpToDate s) (ran : upsertBillingCustomer s buyer customerId = .ok next) :
    UpToDate next ↔ BoundOnce s (.upsertBillingCustomer buyer customerId) := by
  have isOk : (upsertBillingCustomer s buyer customerId).isOk = true := by rw [ran]; rfl
  unfold upsertBillingCustomer at ran
  split_ifs at ran with _ fresh <;> cases ran
  · constructor
    · intro upToDate _ _ event mem isOwn
      have old := (upToDate _ (List.mem_append_right _ List.mem_cons_self)).newest event mem isOwn
      simp [Customer.olderThan, s.dated event mem] at old
    · intro once
      refine forall_insert fresh current ⟨?_, .inl ⟨rfl, rfl⟩⟩
      exact fun event mem isOwn => absurd isOwn (once isOk fresh event mem)
  · exact iff_of_true current fun _ absent => absurd absent fresh

theorem step_upToDate_iff (s : State) (event : Event) (current : UpToDate s) :
    UpToDate (apply step s event) ↔ BoundOnce s event := by
  cases outcome : step s event with
  | error =>
    rw [apply_of_error outcome]
    refine iff_of_true current ?_
    cases event <;> simp_all [BoundOnce, step, Except.isOk, Except.toBool]
  | ok next =>
    rw [apply_of_ok outcome]
    cases event with
    | upsertBillingCustomer => exact upsertBillingCustomer_upToDate_iff current outcome
    | setBillingPMByCustomerEvent =>
      exact iff_of_true (setBillingPMByCustomerEvent_upToDate current outcome) trivial
    | enforceBuyerTombstone =>
      cases outcome
      exact iff_of_true (fun customer mem => current customer (List.mem_of_mem_filter mem)) trivial

theorem saved_cards_upToDate_iff (events : List Event) :
    Always step UpToDate State.empty events ↔ Meets step BoundOnce State.empty events :=
  always_iff_meets (fun _ _ _ (_ : True) _ => trivial)
    (fun s event _ => step_upToDate_iff s event) events trivial (List.forall_mem_nil _)

end MercControl.Card.Saved
