import MercControl.Library.Machine
import MercControl.Library.Table

/-!
# Project orders

An order is created once under an idempotency key and pays for the steps of a
project up to its ceiling.  A submission locks its order until it commits.  A
creation that finds no row has nothing to lock.
-/

namespace MercControl.Projects

open Library Machine Table

structure Formats where
  validSHA256 : String → Bool
  idempotencyKey : String → Bool
  projectStepID : String → Bool
  settlementCurrency : String → Bool

structure Creation where
  buyer : Nat
  irSHA256 : String
  currency : String
  buyerCeilingNanos : Int
  idempotencyKey : String
  requestSHA : String

inductive OrderStatus
  | isOpen
  | cancelled
  | complete
  deriving DecidableEq

/-- A `project_orders` row. -/
structure Order extends Creation where
  id : Nat
  status : OrderStatus

structure ProjectOrder extends Order where
  reservedNanos : Int
  remainingNanos : Int

structure ProjectOrderStep where
  order : Nat
  step : String
  job : Nat
  acceptedCeilingNanos : Int

def ProjectOrderStep.key (row : ProjectOrderStep) : Nat × String := (row.order, row.step)

/-- A job submitted for a step.  `firmQuote` is a firm quote with its id and the
hash of its pricing decision. -/
structure Submission extends ProjectOrderStep where
  buyer : Nat
  currency : String
  firmQuote : Bool

inductive Failure
  | invalidRequest
  | keyReused
  | uniqueViolation
  | invalidLedger
  | locked
  | notFound
  | notFirm
  | notOwner
  | otherCurrency
  | notOpen
  | projectStepReserved
  | projectBudget

/-- The committed rows, the submission that locks each order, the creations
that found no row, and what creations answered. -/
structure State where
  orders : Table Order.id
  steps : Table ProjectOrderStep.key
  locks : Nat → Option Submission
  inserting : Nat → Option Creation
  answers : List (Creation × Except Failure ProjectOrder)

def State.empty : State := ⟨.empty, .empty, fun _ => none, fun _ => none, []⟩

def validateProjectOrderRequest (formats : Formats) (creation : Creation) : Bool :=
  formats.validSHA256 creation.irSHA256 && 0 < creation.buyerCeilingNanos &&
    formats.settlementCurrency creation.currency

def State.orderOf (s : State) (creation : Creation) : Option Order :=
  s.orders.rows.find? fun order =>
    order.buyer = creation.buyer && order.idempotencyKey = creation.idempotencyKey

def State.reservedNanos (s : State) (order : Nat) : Int :=
  s.steps.total fun row => if row.order = order then row.acceptedCeilingNanos else 0

def fillProjectOrderReservation (s : State) (order : Order) : Except Failure ProjectOrder :=
  let reserved := s.reservedNanos order.id
  if reserved < 0 ∨ order.buyerCeilingNanos < reserved then .error .invalidLedger
  else .ok ⟨order, reserved, order.buyerCeilingNanos - reserved⟩

/-- `CreateProjectOrder` up to the row it looks for, which is locked until the
commit, so an existing order is answered in one step. -/
def lookupOrder (formats : Formats) (s : State) (call : Nat) (creation : Creation) :
    Except Failure State :=
  if !validateProjectOrderRequest formats creation then .error .invalidRequest
  else if !formats.idempotencyKey creation.idempotencyKey ||
      !formats.validSHA256 creation.requestSHA then .error .invalidRequest
  else
    match s.orderOf creation with
    | none => .ok { s with inserting := Function.update s.inserting call (some creation) }
    | some order =>
      if (s.locks order.id).isSome then .error .locked
      else
        let answer :=
          if order.requestSHA ≠ creation.requestSHA then .error .keyReused
          else fillProjectOrderReservation s order
        .ok { s with answers := (creation, answer) :: s.answers }

def Creation.order (creation : Creation) (id : Nat) : Order :=
  { creation with currency := creation.currency.toLower, id, status := .isOpen }

/-- The insert of `CreateProjectOrder`, which waits for other inserts of its
key, and the commit. -/
def insertOrder (s : State) (call id : Nat) : Except Failure State :=
  match s.inserting call with
  | none => .error .notFound
  | some creation =>
    let inserting := Function.update s.inserting call none
    if (s.orderOf creation).isSome then
      .ok { s with inserting, answers := (creation, .error .uniqueViolation) :: s.answers }
    else
      match s.orders.insertNew (creation.order id) with
      | none => .error .uniqueViolation
      | some orders =>
        let answer := .ok ⟨creation.order id, 0, creation.buyerCeilingNanos⟩
        .ok { s with orders, inserting, answers := (creation, answer) :: s.answers }

def reserveProjectStepTx (formats : Formats) (s : State) (job : Submission) :
    Except Failure State :=
  if !formats.projectStepID job.step then .error .invalidRequest
  else if !job.firmQuote || job.acceptedCeilingNanos ≤ 0 then .error .notFirm
  else
    match s.orders.find? job.order with
    | none => .error .notFound
    | some order =>
      let reserved := s.reservedNanos job.order
      if (s.locks job.order).isSome then .error .locked
      else if order.buyer ≠ job.buyer then .error .notOwner
      else if order.currency ≠ job.currency then .error .otherCurrency
      else if order.status ≠ .isOpen then .error .notOpen
      else if (s.steps.find? job.key).isSome then .error .projectStepReserved
      else if reserved < 0 ∨ order.buyerCeilingNanos < reserved ∨
          order.buyerCeilingNanos - reserved < job.acceptedCeilingNanos then .error .projectBudget
      else .ok { s with locks := Function.update s.locks job.order (some job) }

/-- `SubmitJobTx` from the insert of the step to the commit.  A row that is not
unique rolls the transaction back. -/
def recordStep (s : State) (order : Nat) : Except Failure State :=
  match s.locks order with
  | none => .error .notFound
  | some job =>
    let locks := Function.update s.locks order none
    if s.steps.rows.any (·.job == job.job) then .ok { s with locks }
    else
      match s.steps.insertNew job.toProjectOrderStep with
      | none => .ok { s with locks }
      | some steps => .ok { s with steps, locks }

inductive Event
  | lookup (call : Nat) (creation : Creation)
  | insert (call id : Nat)
  /-- The call ends without an answer. -/
  | dropCall (call : Nat)
  | reserve (job : Submission)
  | record (order : Nat)
  | rollback (order : Nat)

def step (formats : Formats) (s : State) : Event → Except Failure State
  | .lookup call creation => lookupOrder formats s call creation
  | .insert call id => insertOrder s call id
  | .dropCall call => .ok { s with inserting := Function.update s.inserting call none }
  | .reserve job => reserveProjectStepTx formats s job
  | .record order => recordStep s order
  | .rollback order => .ok { s with locks := Function.update s.locks order none }

def Shows (order : Order) (answer : Except Failure ProjectOrder) : Prop :=
  ∃ view, answer = .ok view ∧ view.toOrder = order ∧
    view.reservedNanos + view.remainingNanos = order.buyerCeilingNanos

/-- The answer that a creation is to get: the order of its key, or a refusal of
another request. -/
def Answered (s : State) (answered : Creation × Except Failure ProjectOrder) : Prop :=
  ∃ order, s.orderOf answered.1 = some order ∧
    if order.requestSHA = answered.1.requestSHA then Shows order answered.2
    else answered.2 = .error .keyReused

structure OrdersKept (s : State) : Prop where
  answers : ∀ answered ∈ s.answers, Answered s answered
  oneJob : ∀ row ∈ s.steps.rows, ∀ other ∈ s.steps.rows,
    row.order = other.order → row.step = other.step → row.job = other.job
  within : ∀ order ∈ s.orders.rows, s.reservedNanos order.id ≤ order.buyerCeilingNanos
  reads : ∀ order ∈ s.orders.rows, Shows order (fillProjectOrderReservation s order)

/-- A creation inserts before another one has committed under its key. -/
def insertsFirst (s : State) : Event → Bool
  | .insert call _ => ((s.inserting call).bind s.orderOf).isNone
  | _ => true

structure Sound (s : State) : Prop where
  answers : ∀ answered ∈ s.answers, Answered s answered
  inserting : ∀ call creation, s.inserting call = some creation → 0 < creation.buyerCeilingNanos
  steps : ∀ row ∈ s.steps.rows,
    0 < row.acceptedCeilingNanos ∧ (s.orders.find? row.order).isSome = true
  within : ∀ order ∈ s.orders.rows, s.reservedNanos order.id ≤ order.buyerCeilingNanos
  locked : ∀ id job, s.locks id = some job → job.order = id ∧ 0 < job.acceptedCeilingNanos ∧
    ∃ order, s.orders.find? id = some order ∧
      s.reservedNanos id + job.acceptedCeilingNanos ≤ order.buyerCeilingNanos

section

variable {formats : Formats} {s next : State} {order : Order} {creation : Creation} {event : Event}

theorem orderOf_insert (fresh : s.orders.find? order.id = none) :
    { s with orders := s.orders.insert order fresh }.orderOf creation =
      (s.orderOf creation).or (if order.buyer = creation.buyer &&
        order.idempotencyKey = creation.idempotencyKey then some order else none) := by
  simp [State.orderOf, Table.insert, List.find?_append, List.find?_singleton]

variable (sound : Sound s)

include sound

theorem Sound.reads (mem : order ∈ s.orders.rows) :
    Shows order (fillProjectOrderReservation s order) := by
  have within := sound.within order mem
  have nonneg : 0 ≤ s.reservedNanos order.id := by
    refine total_nonneg fun row isRow => ?_
    have pos := (sound.steps row isRow).1
    split <;> omega
  rw [fillProjectOrderReservation, if_neg (by omega)]
  exact ⟨_, rfl, rfl, by simp⟩

theorem Sound.lookup {call : Nat}
    (ran : lookupOrder formats s call creation = .ok next) : Sound next := by
  simp only [lookupOrder, ite_error_eq_ok] at ran
  obtain ⟨valid, _, ran⟩ := ran
  split at ran
  · cases ran
    refine { sound with inserting := forall_update sound.inserting ?_ }
    rintro _ ⟨⟩
    simp only [validateProjectOrderRequest, Bool.not_eq_true', Bool.not_eq_false, Bool.and_eq_true,
      decide_eq_true_eq] at valid
    exact valid.1.2
  · rename_i order found
    simp only [ite_error_eq_ok, Except.ok.injEq] at ran
    rw [← ran.2]
    refine { sound with answers := List.forall_mem_cons.mpr ⟨⟨order, found, ?_⟩, sound.answers⟩ }
    by_cases same : order.requestSHA = creation.requestSHA
    · rw [if_pos same, if_neg (not_not.mpr same)]
      exact sound.reads (List.mem_of_find?_eq_some found)
    · rw [if_neg same, if_pos same]

theorem Sound.insert {call id : Nat} (first : insertsFirst s (.insert call id) = true)
    (ran : insertOrder s call id = .ok next) : Sound next := by
  unfold insertOrder at ran
  split at ran
  · cases ran
  rename_i creation found
  simp only [insertsFirst, found, Option.bind_some, Option.isNone_iff_eq_none] at first
  simp only [first, Option.isSome_none, Bool.false_eq_true, if_false] at ran
  split at ran
  · cases ran
  rename_i orders inserted
  obtain ⟨fresh, rfl⟩ := insertNew_eq_some.mp inserted
  cases ran
  constructor
  case answers =>
    refine List.forall_mem_cons.mpr ⟨⟨creation.order id, ?_, ?_⟩, ?_⟩
    · refine (orderOf_insert fresh).trans ?_
      simp [first, Creation.order]
    · exact (if_pos rfl).mpr ⟨_, rfl, rfl, Int.zero_add _⟩
    · intro answered mem
      obtain ⟨order, isOrder, answer⟩ := sound.answers answered mem
      exact ⟨order, (orderOf_insert fresh).trans (by rw [isOrder]; rfl), answer⟩
  case inserting => exact forall_update sound.inserting nofun
  case steps =>
    intro row mem
    obtain ⟨pos, known⟩ := sound.steps row mem
    obtain ⟨order, isOrder⟩ := Option.isSome_iff_exists.mp known
    exact ⟨pos, by rw [find?_insert_of_some fresh isOrder]; rfl⟩
  case within =>
    refine forall_insert fresh sound.within ?_
    have pos := sound.inserting call creation found
    have unused : s.reservedNanos (creation.order id).id = 0 := by
      refine total_eq_zero fun row mem => if_neg ?_
      intro same
      have known := (sound.steps row mem).2
      rw [same, fresh] at known
      cases known
    exact unused.trans_le pos.le
  case locked =>
    intro order job holds
    obtain ⟨own, pos, row, isRow, room⟩ := sound.locked order job holds
    exact ⟨own, pos, row, find?_insert_of_some fresh isRow, room⟩

theorem Sound.reserve {job : Submission}
    (ran : reserveProjectStepTx formats s job = .ok next) : Sound next := by
  simp only [reserveProjectStepTx, ite_error_eq_ok] at ran
  obtain ⟨_, firm, ran⟩ := ran
  split at ran
  · cases ran
  rename_i order found
  simp only [ite_error_eq_ok, Except.ok.injEq] at ran
  obtain ⟨_, _, _, _, _, _, rfl⟩ := ran
  refine { sound with locked := forall_update sound.locked ?_ }
  rintro _ ⟨⟩
  simp only [Bool.or_eq_true, decide_eq_true_eq, not_or] at firm
  refine ⟨rfl, by omega, order, found, ?_⟩
  show s.reservedNanos job.order + _ ≤ _
  omega

theorem Sound.release (id : Nat) : Sound { s with locks := Function.update s.locks id none } :=
  { sound with locked := forall_update sound.locked nofun }

theorem Sound.record {id : Nat} (ran : recordStep s id = .ok next) : Sound next := by
  unfold recordStep at ran
  split at ran
  · cases ran
  rename_i job holds
  split_ifs at ran
  · cases ran
    exact sound.release id
  split at ran
  · cases ran
    exact sound.release id
  rename_i steps inserted
  obtain ⟨fresh, rfl⟩ := insertNew_eq_some.mp inserted
  cases ran
  obtain ⟨rfl, pos, _, isOrder, room⟩ := sound.locked id job holds
  have reserved : ∀ other, (s.steps.insert _ fresh).total
      (fun row => if row.order = other then row.acceptedCeilingNanos else 0) =
        s.reservedNanos other + if job.order = other then job.acceptedCeilingNanos else 0 :=
    fun _ => total_insert fresh
  refine { sound.release job.order with steps := ?_, within := ?_, locked := ?_ }
  · exact forall_insert fresh sound.steps ⟨pos, by rw [isOrder]; rfl⟩
  · intro row mem
    refine (reserved row.id).trans_le ?_
    split_ifs with same
    · obtain rfl := eq_of_find? isOrder mem same.symm
      rw [← same]
      exact room
    · exact (Int.add_zero _).trans_le (sound.within row mem)
  · intro other held isHeld
    obtain ⟨own, heldPos, row, isRow, left⟩ := (sound.release job.order).locked other held isHeld
    have ne : job.order ≠ other := by
      rintro rfl
      simp at isHeld
    refine ⟨own, heldPos, row, isRow, ?_⟩
    refine (congrArg (· + _) ((reserved other).trans ?_)).trans_le left
    rw [if_neg ne, Int.add_zero]
    rfl

theorem Sound.step (first : insertsFirst s event = true)
    (ran : Projects.step formats s event = .ok next) : Sound next := by
  cases event with
  | lookup => exact sound.lookup ran
  | insert => exact sound.insert first ran
  | dropCall =>
    cases ran
    exact { sound with inserting := forall_update sound.inserting nofun }
  | reserve => exact sound.reserve ran
  | record => exact sound.record ran
  | rollback id =>
    cases ran
    exact sound.release id

theorem Sound.kept : OrdersKept s where
  answers := sound.answers
  oneJob := by
    intro row mem other otherMem sameOrder sameStep
    rw [eq_of_find? (find?_of_mem mem) otherMem (Prod.ext sameOrder.symm sameStep.symm)]
  within := sound.within
  reads := fun _ => sound.reads

end

end MercControl.Projects
