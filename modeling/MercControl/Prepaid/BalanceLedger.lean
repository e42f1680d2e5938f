import MercControl.Library.Table
import MercControl.Prepaid.TopupSafety

/-!
# The prepaid balance and its ledger rows

Each transaction that moves the balance writes a `prepaid_*` row, unique for
its kind and its reference.  A transaction that finds its row there leaves the
balance as it was, some of them by putting back what they have just taken.
-/

namespace MercControl.Prepaid

open Library Machine Table Rows

/-- What a `prepaid_debit` pays for. -/
inductive Charge
  | task (id : Nat)
  | slaPremium (job : Nat)
  | serviceLease (id : Nat)
  | executionContract (id : Nat)
  deriving DecidableEq

/-- The kind of a ledger row with its reference or its task.  A restored SLA
premium and a failed refund are of one kind, `prepaid_balance_return`. -/
inductive LedgerRef
  | topup (intent : PaymentIntent)
  | debit (charge : Charge)
  | restore (charge : Charge)
  | refund (key : Nat)
  | refundFailed (key : Nat) (intent : PaymentIntent)
  deriving DecidableEq

structure LedgerEntry where
  ref : LedgerRef
  micros : Int
  deriving DecidableEq

/-- The balance of a buyer with the rows about it. -/
structure Account where
  books : State
  ledger : Table LedgerEntry.ref

def Account.empty : Account := ⟨State.empty, Table.empty⟩

def creditPrepaidBalance (account : Account) (micros : Int) : Except Failure Account :=
  if micros ≤ 0 then .error .invalidArguments
  else
    .ok { account with
      books := { account.books with balanceMicros := account.books.balanceMicros + micros } }

def insertLedgerEntryIfAbsentByRef (account : Account) (entry : LedgerEntry) : Account :=
  { account with ledger := (account.ledger.insertNew entry).getD account.ledger }

def creditOnce (account : Account) (entry : LedgerEntry) : Except Failure Account :=
  match account.ledger.insertNew entry with
  | none => .ok account
  | some ledger => creditPrepaidBalance { account with ledger } entry.micros

def creditTopup (factor : Nat) (account : Account) (intent : PaymentIntent) (cents : Int) :
    Except Failure Account :=
  (creditPrepaidTopup factor account.books intent cents).bind fun books =>
  match account.books.topups.find? fun row => decide (row.paymentIntent = intent) with
  | some _ => .ok { account with books }
  | none =>
    .ok (insertLedgerEntryIfAbsentByRef { account with books } ⟨.topup intent, cents * factor⟩)

/-- `debitPrepaidForTaskTx` and `debitPrepaidForSLAPremiumTx`: the debit is put
back if its row was there. -/
def debitPrepaid (account : Account) (charge : Charge) (micros : Int) : Except Failure Account :=
  if micros ≤ 0 then .error .invalidArguments
  else if account.books.balanceMicros < micros then .error .insufficientPrepaid
  else
    let debited := account.books.balanceMicros - micros
    match account.ledger.insertNew ⟨.debit charge, -micros⟩ with
    | some ledger => .ok ⟨{ account.books with balanceMicros := debited }, ledger⟩
    | none => .ok { account with books := { account.books with balanceMicros := debited + micros } }

/-- `debitPrepaidByRefTx` looks for its row before it touches the balance. -/
def debitPrepaidByRef (account : Account) (charge : Charge) (micros : Int) :
    Except Failure Account :=
  if micros ≤ 0 then .error .invalidArguments
  else
    match account.ledger.find? (.debit charge) with
    | some entry => if entry.micros ≠ -micros then .error .conflictingIdentity else .ok account
    | none => debitPrepaid account charge micros

def debit (account : Account) (charge : Charge) (micros : Int) : Except Failure Account :=
  match charge with
  | .task _ | .slaPremium _ => debitPrepaid account charge micros
  | .serviceLease _ | .executionContract _ => debitPrepaidByRef account charge micros

def restorePrepaidForExecutionContractRefund (account : Account) (contract : Nat) :
    Except Failure Account :=
  match account.ledger.find? (.debit (.executionContract contract)) with
  | none => .ok account
  | some entry =>
    if 0 ≤ entry.micros then .ok account
    else creditOnce account ⟨.restore (.executionContract contract), -entry.micros⟩

def restorePrepaidForSLAPremiumRefund (account : Account) (job : Nat) (refundMicros : Int) :
    Except Failure Account :=
  if refundMicros ≤ 0 then .ok account
  else
    match account.ledger.find? (.debit (.slaPremium job)) with
    | none => .ok account
    | some entry =>
      if 0 ≤ entry.micros then .ok account
      else creditOnce account ⟨.restore (.slaPremium job), min refundMicros (-entry.micros)⟩

/-- The net spent of the task is the sum of its charges and refunds. -/
def restorePrepaidForTaskDebit (account : Account) (task : Nat) (netSpentMicros : Int) :
    Except Failure Account :=
  match account.ledger.find? (.debit (.task task)) with
  | none => .error .conflictingIdentity
  | some entry =>
    if 0 ≤ entry.micros ∨ netSpentMicros ≠ 0 then .error .conflictingIdentity
    else creditOnce account ⟨.restore (.task task), -entry.micros⟩

def beginRefund (factor : Nat) (account : Account) (key held : Nat) : Except Failure Account :=
  (beginPrepaidRefund factor account.books key held).bind fun books =>
  if account.books.slices.any fun slice => decide (slice.refundKey = key) then
    .ok { account with books }
  else
    .ok (insertLedgerEntryIfAbsentByRef { account with books }
      ⟨.refund key, -(refundCents factor account.books held * factor)⟩)

/-- `FailPrepaidRefund`, where the credit of a pending slice depends on its
row. -/
def failRefund (factor : Nat) (account : Account) (key : Nat) (intent : PaymentIntent)
    (refundId : Nat) : Except Failure Account :=
  (failPrepaidRefund factor account.books key intent refundId).bind fun books =>
  let failed := { books with balanceMicros := account.books.balanceMicros }
  match account.books.slices.find? (RefundSlice.isOf key intent) with
  | some slice =>
    if slice.status = .pending then
      creditOnce ⟨failed, account.ledger⟩ ⟨.refundFailed key intent, slice.cents * factor⟩
    else .ok { account with books }
  | none => .ok { account with books }

inductive AccountEvent
  | topup (intent : PaymentIntent) (cents : Int)
  | debit (charge : Charge) (micros : Int)
  | restoreContract (contract : Nat)
  | restoreSLAPremium (job : Nat) (refundMicros : Int)
  | restoreTask (task : Nat) (netSpentMicros : Int)
  | beginRefund (key held : Nat)
  | recordProviderId (key : Nat) (intent : PaymentIntent) (refundId : Nat)
  | failRefund (key : Nat) (intent : PaymentIntent) (refundId : Nat)
  | completeRefund (key : Nat) (intent : PaymentIntent) (refundId : Nat)

def accountStep (factor : Nat) (account : Account) : AccountEvent → Except Failure Account
  | .topup intent cents => creditTopup factor account intent cents
  | .debit charge micros => debit account charge micros
  | .restoreContract contract => restorePrepaidForExecutionContractRefund account contract
  | .restoreSLAPremium job refundMicros =>
    restorePrepaidForSLAPremiumRefund account job refundMicros
  | .restoreTask task netSpentMicros => restorePrepaidForTaskDebit account task netSpentMicros
  | .beginRefund key held => beginRefund factor account key held
  | .recordProviderId key intent refundId =>
    (recordPrepaidRefundProviderId account.books key intent refundId).bind fun books =>
    .ok { account with books }
  | .failRefund key intent refundId => failRefund factor account key intent refundId
  | .completeRefund key intent refundId =>
    (completePrepaidRefund account.books key intent refundId).bind fun books =>
    .ok { account with books }

def topupRow (factor : Nat) (topups : List Topup) (intent : PaymentIntent) : Option LedgerEntry :=
  (topups.find? fun row => decide (row.paymentIntent = intent)).map fun row =>
    ⟨.topup intent, row.receivedCents * factor⟩

def refundSlices (slices : List RefundSlice) (key : Nat) : List RefundSlice :=
  slices.filter fun slice => decide (slice.refundKey = key)

def refundRow (factor : Nat) (slices : List RefundSlice) (key : Nat) : Option LedgerEntry :=
  if refundSlices slices key = [] then none
  else some ⟨.refund key, -(((refundSlices slices key).map RefundSlice.cents).sum * factor)⟩

def returnRow (factor : Nat) (slices : List RefundSlice) (key : Nat) (intent : PaymentIntent) :
    Option LedgerEntry :=
  (slices.find? (RefundSlice.isOf key intent)).bind fun slice =>
  if slice.status = .failed then some ⟨.refundFailed key intent, slice.cents * factor⟩ else none

def bookRow (factor : Nat) (books : State) : LedgerRef → Option LedgerEntry
  | .topup intent => topupRow factor books.topups intent
  | .refund key => refundRow factor books.slices key
  | .refundFailed key intent => returnRow factor books.slices key intent
  | .debit _ | .restore _ => none

def LedgerRef.isOfCharge : LedgerRef → Bool
  | .debit _ | .restore _ => true
  | .topup _ | .refund _ | .refundFailed _ _ => false

def Account.Balanced (account : Account) : Prop :=
  account.books.balanceMicros = account.ledger.total LedgerEntry.micros ∧
    0 ≤ account.books.balanceMicros

structure Account.Sound (factor : Nat) (account : Account) : Prop where
  wellFormed : WellFormed account.books
  backed : Backed account.books
  unfunded : account.books.funding = []
  operations : (account.books.slices.map RefundSlice.operation).Nodup
  rows : ∀ ref, ref.isOfCharge = false → account.ledger.find? ref = bookRow factor account.books ref
  balanced : account.Balanced

variable {s books : State} {account next : Account} {topups : List Topup}
  {slices : List RefundSlice} {intent : PaymentIntent} {factor key refundId : Nat}
  {entry : LedgerEntry} {charge : Charge} {micros cents : Int}

theorem Account.Sound.insert (sound : account.Sound factor)
    (fresh : account.ledger.find? entry.ref = none)
    (safe : WellFormed books ∧ (Backed account.books → Backed books))
    (unfunded : books.funding = account.books.funding)
    (operations : (books.slices.map RefundSlice.operation).Nodup)
    (rows : ∀ ref, ref.isOfCharge = false → bookRow factor books ref =
        if entry.ref = ref then some entry else bookRow factor account.books ref)
    (moved : books.balanceMicros = account.books.balanceMicros + entry.micros)
    (nonneg : 0 ≤ account.books.balanceMicros + entry.micros) :
    Account.Sound factor ⟨books, account.ledger.insert entry fresh⟩ where
  wellFormed := safe.1
  backed := safe.2 sound.backed
  unfunded := unfunded.trans sound.unfunded
  operations
  rows := by
    intro ref ofBooks
    rw [find?_insert, rows ref ofBooks, sound.rows ref ofBooks]
  balanced := by
    refine ⟨?_, moved ▸ nonneg⟩
    rw [total_insert, moved, sound.balanced.1]

theorem insertLedgerEntryIfAbsentByRef_of_fresh (fresh : account.ledger.find? entry.ref = none) :
    insertLedgerEntryIfAbsentByRef account entry =
      { account with ledger := account.ledger.insert entry fresh } := by
  simp [insertLedgerEntryIfAbsentByRef, insertNew, fresh]

/-- The balance moves by the amount of a new row. -/
def Posts (account next : Account) (entry : LedgerEntry) : Prop :=
  ∃ fresh : account.ledger.find? entry.ref = none,
    0 ≤ account.books.balanceMicros + entry.micros ∧
    next =
      ⟨{ account.books with balanceMicros := account.books.balanceMicros + entry.micros },
        account.ledger.insert entry fresh⟩

theorem creditOnce_posts (nonneg : 0 ≤ account.books.balanceMicros)
    (ran : creditOnce account entry = .ok next) :
    next = account ∧ account.ledger.find? entry.ref ≠ none ∨ Posts account next entry := by
  rw [creditOnce, insertNew] at ran
  by_cases fresh : account.ledger.find? entry.ref = none
  · simp only [fresh, dite_true, creditPrepaidBalance, ite_error_eq_ok, not_le,
      Except.ok.injEq] at ran
    obtain ⟨_, rfl⟩ := ran
    exact .inr ⟨fresh, by omega, rfl⟩
  · simp only [fresh, dite_false, Except.ok.injEq] at ran
    exact .inl ⟨ran.symm, fresh⟩

theorem debitPrepaid_posts (ran : debitPrepaid account charge micros = .ok next) :
    next = account ∨ Posts account next ⟨.debit charge, -micros⟩ := by
  simp only [debitPrepaid, ite_error_eq_ok, not_le, not_lt] at ran
  obtain ⟨_, _, ran⟩ := ran
  split at ran
  next ledger inserted =>
    obtain ⟨fresh, rfl⟩ := insertNew_eq_some.mp inserted
    cases ran
    exact .inr ⟨fresh, by simp only; omega, rfl⟩
  next =>
    cases ran
    left
    simp

theorem debitPrepaidByRef_posts (ran : debitPrepaidByRef account charge micros = .ok next) :
    next = account ∨ Posts account next ⟨.debit charge, -micros⟩ := by
  simp only [debitPrepaidByRef, ite_error_eq_ok] at ran
  obtain ⟨-, ran⟩ := ran
  split at ran
  · simp only [ite_error_eq_ok, Except.ok.injEq] at ran
    exact .inl ran.2.symm
  · exact debitPrepaid_posts ran

namespace Account.Sound

variable (sound : account.Sound factor)

include sound

theorem post (ofCharge : entry.ref.isOfCharge = true)
    (posts : next = account ∨ Posts account next entry) : next.Sound factor := by
  rcases posts with rfl | ⟨fresh, nonneg, rfl⟩
  · exact sound
  have wellFormed := sound.wellFormed
  refine sound.insert fresh ⟨{ wellFormed with }, id⟩ rfl sound.operations ?_ rfl nonneg
  intro ref ofBooks
  have ne : entry.ref ≠ ref := by
    rintro rfl
    rw [ofCharge] at ofBooks
    cases ofBooks
  rw [if_neg ne]
  cases ref <;> rfl

theorem debit (ran : debit account charge micros = .ok next) : next.Sound factor := by
  have posts : next = account ∨ Posts account next ⟨.debit charge, -micros⟩ := by
    cases charge with
    | task | slaPremium => exact debitPrepaid_posts ran
    | serviceLease | executionContract => exact debitPrepaidByRef_posts ran
  exact sound.post rfl posts

theorem restore (ran : creditOnce account ⟨.restore charge, micros⟩ = .ok next) :
    next.Sound factor :=
  sound.post rfl ((creditOnce_posts sound.balanced.2 ran).imp_left And.left)

theorem restoreContract {contract : Nat}
    (ran : restorePrepaidForExecutionContractRefund account contract = .ok next) :
    next.Sound factor := by
  rw [restorePrepaidForExecutionContractRefund] at ran
  split at ran
  · exact Except.ok.inj ran ▸ sound
  · split_ifs at ran
    · exact Except.ok.inj ran ▸ sound
    · exact sound.restore ran

theorem restoreSLAPremium {job : Nat}
    (ran : restorePrepaidForSLAPremiumRefund account job micros = .ok next) :
    next.Sound factor := by
  rw [restorePrepaidForSLAPremiumRefund] at ran
  split_ifs at ran
  · exact Except.ok.inj ran ▸ sound
  · split at ran
    · exact Except.ok.inj ran ▸ sound
    · split_ifs at ran
      · exact Except.ok.inj ran ▸ sound
      · exact sound.restore ran

theorem restoreTask {task : Nat}
    (ran : restorePrepaidForTaskDebit account task micros = .ok next) : next.Sound factor := by
  rw [restorePrepaidForTaskDebit] at ran
  split at ran
  · cases ran
  · rw [ite_error_eq_ok] at ran
    exact sound.restore ran.2

theorem creditTopup (ran : creditTopup factor account intent cents = .ok next) :
    next.Sound factor := by
  obtain ⟨_, credited, ran⟩ := bind_eq_ok.mp ran
  have safe := creditPrepaidTopup_safe sound.wellFormed credited
  simp only [creditPrepaidTopup, ite_error_eq_ok, not_le] at credited
  obtain ⟨positive, credited⟩ := credited
  cases known : account.books.topups.find? fun row => decide (row.paymentIntent = intent) with
  | some =>
    simp only [known, ite_error_eq_ok, Except.ok.injEq] at credited ran
    obtain ⟨-, rfl⟩ := credited
    exact ran ▸ sound
  | none =>
    simp only [known, Except.ok.injEq] at credited ran
    have fresh : account.ledger.find? (.topup intent) = none := by
      rw [sound.rows _ rfl, bookRow, topupRow, known]
      rfl
    rw [insertLedgerEntryIfAbsentByRef_of_fresh fresh] at ran
    subst credited ran
    have amount : 0 ≤ cents * factor :=
      Int.mul_nonneg (Int.le_of_lt positive) (Int.natCast_nonneg _)
    refine sound.insert fresh safe rfl sound.operations ?_ rfl
      (Int.add_nonneg sound.balanced.2 amount)
    intro ref ofBooks
    cases ref with
    | topup other =>
      simp only [bookRow, topupRow, List.find?_append, LedgerRef.topup.injEq]
      by_cases same : intent = other
      · subst same
        simp [known]
      · simp [same]
    | refund | refundFailed => simp [bookRow]
    | debit | restore => cases ofBooks

end Account.Sound

/-- The loop goes through the top-ups once, and what it plans and what it leaves
make up the refund. -/
theorem planPrepaidRefundSlices_spec (s : State) (key : Nat) (topups : List Topup)
    {remaining : Int} (nonneg : 0 ≤ remaining) :
    let planned := planPrepaidRefundSlices s key topups remaining
    0 ≤ planned.2 ∧ (planned.1.map RefundSlice.cents).sum + planned.2 = remaining ∧
      (planned.1.map RefundSlice.paymentIntent).Sublist (topups.map Topup.paymentIntent) ∧
      ∀ slice ∈ planned.1, slice.refundKey = key ∧ slice.status = .pending := by
  induction topups generalizing remaining with
  | nil => simpa [planPrepaidRefundSlices] using nonneg
  | cons topup rest ih =>
    rw [planPrepaidRefundSlices]
    split
    next =>
      obtain ⟨left, total, order, slices⟩ := ih nonneg
      exact ⟨left, total, order.cons _, slices⟩
    next =>
      have less : 0 ≤ remaining - min (refundable s topup) remaining := by omega
      obtain ⟨left, total, order, slices⟩ := ih less
      refine ⟨left, ?_, order.cons_cons _, ?_⟩
      · simp only [List.map_cons, List.sum_cons]
        omega
      · exact List.forall_mem_cons.mpr ⟨⟨rfl, rfl⟩, slices⟩

theorem coversReservations_of_unfunded (unfunded : s.funding = []) (cents newer : Int) :
    CoversReservations s cents newer topups := by
  induction topups generalizing newer with
  | nil => trivial
  | cons topup older ih => exact ⟨.inl (by simp [reservedCents, unfunded]), ih _⟩

theorem returnRow_append {planned : List RefundSlice}
    (pending : ∀ slice ∈ planned, slice.status = .pending) :
    returnRow factor (slices ++ planned) key intent = returnRow factor slices key intent := by
  rw [returnRow, returnRow, List.find?_append]
  cases slices.find? (RefundSlice.isOf key intent) with
  | some => rfl
  | none =>
    cases found : planned.find? (RefundSlice.isOf key intent) with
    | none => rfl
    | some slice => simp [pending slice (List.mem_of_find?_eq_some found)]

theorem refundSlices_eq_nil
    (isNew : (slices.any fun slice => decide (slice.refundKey = key)) = false) :
    refundSlices slices key = [] :=
  List.filter_eq_nil_iff.mpr (List.any_eq_false.mp isNew)

theorem refundSlices_append {planned : List RefundSlice} (other : Nat)
    (isNew : refundSlices slices key = []) (ofKey : ∀ slice ∈ planned, slice.refundKey = key) :
    refundSlices (slices ++ planned) other =
      if key = other then planned else refundSlices slices other := by
  have both : refundSlices (slices ++ planned) other =
      refundSlices slices other ++ refundSlices planned other := List.filter_append _ _
  rw [both]
  split_ifs with same
  · have whole : refundSlices planned key = planned :=
      List.filter_eq_self.mpr (by simpa using ofKey)
    rw [← same, isNew, whole, List.nil_append]
  · have none_ : refundSlices planned other = [] :=
      List.filter_eq_nil_iff.mpr fun slice mem => by simp [ofKey slice mem, same]
    rw [none_, List.append_nil]

theorem Account.Sound.beginRefund (sound : account.Sound factor) {held : Nat}
    (ran : beginRefund factor account key held = .ok next) : next.Sound factor := by
  obtain ⟨books, begun, ran⟩ := bind_eq_ok.mp ran
  have backed : Backed books := by
    have covered : KeepsCashApart factor account.books (.beginRefund key held) :=
      fun _ _ _ => coversReservations_of_unfunded sound.unfunded _ _
    rw [← beginPrepaidRefund_backed_iff sound.wellFormed sound.backed] at covered
    rwa [apply_of_ok begun] at covered
  have safe := beginPrepaidRefund_wellFormed sound.wellFormed begun
  rcases beginPrepaidRefund_cases begun with ⟨replayed, rfl⟩ | ⟨isNew, positive, traced, rfl⟩
  · rw [if_pos replayed] at ran
    exact Except.ok.inj ran ▸ sound
  have fresh : account.ledger.find? (.refund key) = none := by
    rw [sound.rows _ rfl, bookRow, refundRow, if_pos (refundSlices_eq_nil isNew)]
  rw [if_neg (by simpa using isNew), insertLedgerEntryIfAbsentByRef_of_fresh fresh,
    Except.ok.injEq] at ran
  subst ran
  have spec := planPrepaidRefundSlices_spec account.books key account.books.topups.reverse
    (Int.le_of_lt positive)
  set planned := planPrepaidRefundSlices account.books key account.books.topups.reverse
    (refundCents factor account.books held)
  obtain ⟨_, _, order, slices⟩ := spec
  have sum : (planned.1.map RefundSlice.cents).sum = refundCents factor account.books held := by
    omega
  refine sound.insert fresh ⟨safe, fun _ => backed⟩ rfl ?_ ?_ Int.sub_eq_add_neg ?_
  · rw [List.map_append]
    refine List.Nodup.append sound.operations ?_ ?_
    · have distinct : (account.books.topups.reverse.map Topup.paymentIntent).Nodup := by
        rw [List.map_reverse]
        exact List.nodup_reverse.mpr sound.wellFormed.distinct
      have intents := distinct.sublist order
      exact List.Nodup.of_map Prod.snd (by rwa [List.map_map])
    · intro operation old new
      obtain ⟨before, isBefore, rfl⟩ := List.mem_map.mp old
      obtain ⟨slice, isSlice, same⟩ := List.mem_map.mp new
      have sameKey : slice.refundKey = before.refundKey := congrArg Prod.fst same
      have ne := List.any_eq_false.mp isNew before isBefore
      simp [← sameKey, (slices slice isSlice).1] at ne
  · intro ref ofBooks
    cases ref with
    | refund other =>
      have some_ : planned.1 ≠ [] := by
        intro isNil
        rw [isNil, List.map_nil, List.sum_nil] at sum
        omega
      have plan := refundSlices_append other (refundSlices_eq_nil isNew) fun slice mem =>
        (slices slice mem).1
      simp only [bookRow, LedgerRef.refund.injEq, refundRow, plan]
      split_ifs with same
      · rw [same, sum]
      · rfl
      · rfl
    | refundFailed =>
      exact returnRow_append fun slice mem => (slices slice mem).2
    | topup => simp [bookRow]
    | debit | restore => cases ofBooks
  · have unheld : refundCents factor account.books held * factor ≤
        account.books.balanceMicros - held := by
      apply Int.ediv_mul_le
      intro isZero
      rw [refundCents, isZero, Int.ediv_zero] at positive
      exact Int.lt_irrefl 0 positive
    simp only
    omega

section

variable {change : RefundSlice → RefundSlice} {changed : RefundSlice → Bool}

theorem operations_updateWhere (kept : KeepsSlice change)
    (distinct : (slices.map RefundSlice.operation).Nodup) :
    ((updateWhere changed change slices).map RefundSlice.operation).Nodup := by
  rwa [map_updateWhere fun slice _ _ => (kept slice).1]

theorem refundRow_updateWhere (kept : KeepsSlice change) :
    refundRow factor (updateWhere changed change slices) key = refundRow factor slices key := by
  have ofKey (slice : RefundSlice) :
      decide ((change slice).refundKey = key) = decide (slice.refundKey = key) := by
    rw [show (change slice).refundKey = slice.refundKey from congrArg Prod.fst (kept slice).1]
  have slicesEq : refundSlices (updateWhere changed change slices) key =
      updateWhere changed change (refundSlices slices key) := by
    rw [refundSlices, updateWhere, List.filter_map, test_updated ofKey]
    rfl
  rw [refundRow, slicesEq, map_updateWhere fun slice _ _ => (kept slice).2, refundRow, updateWhere]
  simp

theorem find?_isOf_updateWhere (kept : KeepsSlice change) :
    (updateWhere changed change slices).find? (RefundSlice.isOf key intent) =
      (slices.find? (RefundSlice.isOf key intent)).map fun slice =>
        if changed slice then change slice else slice := by
  rw [updateWhere, List.find?_map, test_updated]
  intro slice
  have same := (kept slice).1
  simp only [RefundSlice.operation, Prod.mk.injEq] at same
  rw [RefundSlice.isOf, RefundSlice.isOf, same.1, same.2]

theorem bookRow_marked (ref : LedgerRef) (kept : KeepsSlice change)
    (notFailed : ∀ slice, slice.status = .pending → (change slice).status ≠ .failed) :
    bookRow factor { s with
      slices := updateWhere (RefundSlice.isPendingOf key intent) change s.slices } ref =
      bookRow factor s ref := by
  cases ref with
  | refund => exact refundRow_updateWhere kept
  | refundFailed =>
    rw [bookRow, bookRow, returnRow, find?_isOf_updateWhere kept, Option.bind_map, returnRow]
    congr 1
    funext slice
    by_cases touched : RefundSlice.isPendingOf key intent slice = true
    · have pending : slice.status = .pending := by
        simp only [RefundSlice.isPendingOf, Bool.and_eq_true, decide_eq_true_eq] at touched
        exact touched.2
      simp [touched, pending, notFailed slice pending]
    · simp [touched]
  | topup | debit | restore => rfl

theorem Account.Sound.mark (sound : account.Sound factor)
    (marks : Marks key intent account.books books) :
    Account.Sound factor { account with books } := by
  have safe := marks.safe sound.wellFormed
  rcases marks with rfl | ⟨change, kept, notFailed, rfl⟩
  · exact sound
  refine ⟨safe.1, safe.2 sound.backed, sound.unfunded,
    operations_updateWhere kept sound.operations, ?_, sound.balanced⟩
  intro ref ofBooks
  exact (sound.rows ref ofBooks).trans (bookRow_marked ref kept notFailed).symm

end

theorem bookRow_failed {slice : RefundSlice} {balance : Int} (ref : LedgerRef)
    (found : s.slices.find? (RefundSlice.isOf key intent) = some slice)
    (pending : slice.status = .pending) :
    bookRow factor { s with
      balanceMicros := balance
      slices := updateWhere (RefundSlice.isPendingOf key intent)
        (fun row => { row with status := .failed }) s.slices } ref =
      if .refundFailed key intent = ref then some ⟨.refundFailed key intent, slice.cents * factor⟩
      else bookRow factor s ref := by
  have kept : KeepsSlice fun row => { row with status := .failed } := fun _ => ⟨rfl, rfl⟩
  cases ref with
  | refund => exact refundRow_updateWhere kept
  | refundFailed other otherIntent =>
    rw [bookRow, bookRow, returnRow, find?_isOf_updateWhere kept, returnRow]
    split_ifs with same
    · cases same
      have isSlice := List.find?_some found
      simp [found, RefundSlice.isPendingOf, isSlice, pending]
    · cases isOther : s.slices.find? (RefundSlice.isOf other otherIntent) with
      | none => rfl
      | some older =>
        have isOlder := List.find?_some isOther
        simp only [RefundSlice.isOf, Bool.and_eq_true, decide_eq_true_eq] at isOlder
        have untouched : RefundSlice.isPendingOf key intent older = false := by
          by_contra touched
          simp only [RefundSlice.isPendingOf, RefundSlice.isOf, isOlder, Bool.not_eq_false,
            Bool.and_eq_true, decide_eq_true_eq] at touched
          exact same (by rw [touched.1.1, touched.1.2])
        simp [untouched]
  | topup | debit | restore => rfl

namespace Account.Sound

variable (sound : account.Sound factor)

include sound

theorem failRefund (ran : failRefund factor account key intent refundId = .ok next) :
    next.Sound factor := by
  obtain ⟨_, failed, ran⟩ := bind_eq_ok.mp ran
  have safe := failPrepaidRefund_safe sound.wellFormed failed
  rw [failPrepaidRefund] at failed
  rcases found : account.books.slices.find? (RefundSlice.isOf key intent) with _ | slice
  · simp [found] at failed
  simp only [found, ite_error_eq_ok] at failed ran
  obtain ⟨-, failed⟩ := failed
  cases status : slice.status with
  | succeeded => simp [status] at failed
  | failed =>
    simp only [status, Except.ok.injEq, reduceCtorEq, if_false] at failed ran
    exact ran ▸ failed ▸ sound
  | pending =>
    simp only [status, Except.ok.injEq, if_true] at failed ran
    subst failed
    have fresh : account.ledger.find? (.refundFailed key intent) = none := by
      rw [sound.rows _ rfl, bookRow, returnRow, found]
      simp [status]
    rcases creditOnce_posts (by exact sound.balanced.2) ran with ⟨-, known⟩ | ⟨_, nonneg, rfl⟩
    · exact absurd fresh known
    exact sound.insert fresh safe rfl (operations_updateWhere (fun _ => ⟨rfl, rfl⟩)
      sound.operations) (fun ref _ => bookRow_failed ref found status) rfl nonneg

end Account.Sound

theorem accountStep_sound (account : Account) (event : AccountEvent) (next : Account)
    (sound : account.Sound factor) (ran : accountStep factor account event = .ok next) :
    next.Sound factor := by
  cases event with
  | topup => exact sound.creditTopup ran
  | debit => exact sound.debit ran
  | restoreContract => exact sound.restoreContract ran
  | restoreSLAPremium => exact sound.restoreSLAPremium ran
  | restoreTask => exact sound.restoreTask ran
  | beginRefund => exact sound.beginRefund ran
  | failRefund => exact sound.failRefund ran
  | recordProviderId =>
    obtain ⟨books, recorded, ran⟩ := bind_eq_ok.mp ran
    exact Except.ok.inj ran ▸ sound.mark (recordPrepaidRefundProviderId_marks recorded)
  | completeRefund =>
    obtain ⟨books, completed, ran⟩ := bind_eq_ok.mp ran
    exact Except.ok.inj ran ▸ sound.mark (completePrepaidRefund_marks completed)

theorem Account.Sound.empty : Account.empty.Sound factor where
  wellFormed := WellFormed.empty
  backed := by simp [Backed, Account.empty, State.empty]
  unfunded := rfl
  operations := List.nodup_nil
  rows := by
    intro ref _
    cases ref <;> rfl
  balanced := ⟨rfl, Int.le_refl 0⟩

/-- In every state of every run the balance is the sum of the ledger rows. -/
theorem prepaid_balance_is_ledger (factor : Nat) (events : List AccountEvent) :
    Always (accountStep factor) Account.Balanced Account.empty events :=
  always_of_invariant accountStep_sound (fun _ sound => sound.balanced) events Account.Sound.empty

/-- Each slice has its own operation key.  The slices of a refund make up its
row of the ledger, those that hold cash of a top-up stay within it, and just a
failed slice has its row that gives it back. -/
structure RefundsExact (factor : Nat) (account : Account) : Prop where
  operations : (account.books.slices.map RefundSlice.operation).Nodup
  refunds : ∀ key, account.ledger.find? (.refund key) = refundRow factor account.books.slices key
  within : ∀ topup ∈ account.books.topups,
    slicedCents account.books topup.paymentIntent ≤ topup.receivedCents
  returns : ∀ key intent,
    account.ledger.find? (.refundFailed key intent) =
      returnRow factor account.books.slices key intent
  balanced : account.Balanced

theorem Account.Sound.refundsExact (account : Account) (sound : account.Sound factor) :
    RefundsExact factor account where
  operations := sound.operations
  refunds _ := sound.rows _ rfl
  within := by simpa [Backed, reservedCents, sound.unfunded] using sound.backed
  returns _ _ := sound.rows _ rfl
  balanced := sound.balanced

/-- In every state of every run the refunds account for their cash. -/
theorem prepaid_refunds_exact (factor : Nat) (events : List AccountEvent) :
    Always (accountStep factor) (RefundsExact factor) Account.empty events :=
  always_of_invariant accountStep_sound Account.Sound.refundsExact events Account.Sound.empty

/-- The debits that `debitPrepaidByRefTx` makes. -/
def Charge.byRef : Charge → Bool
  | .task _ | .slaPremium _ => false
  | .serviceLease _ | .executionContract _ => true

section

variable (positive : 0 < micros)
  (recorded : account.ledger.find? (.debit charge) = some ⟨.debit charge, -micros⟩)
include positive recorded

theorem debitPrepaid_again :
    debitPrepaid account charge micros = .ok account ↔ micros ≤ account.books.balanceMicros := by
  have known : account.ledger.insertNew ⟨.debit charge, -micros⟩ = none := by
    simp [insertNew, recorded]
  rw [debitPrepaid, if_neg (not_le.mpr positive), known]
  split_ifs with short
  · exact iff_of_false nofun short.not_ge
  · simp only [Int.sub_add_cancel]
    exact iff_of_true trivial (not_lt.mp short)

/-- A recorded debit is a no-op when it comes again, except that those for a
task or an SLA premium want the balance to cover it once more. -/
theorem debit_again_iff :
    debit account charge micros = .ok account ↔
      charge.byRef = true ∨ micros ≤ account.books.balanceMicros := by
  have byRef : debitPrepaidByRef account charge micros = .ok account := by
    rw [debitPrepaidByRef, if_neg (not_le.mpr positive), recorded]
    exact if_neg (not_not.mpr rfl)
  cases charge with
  | task | slaPremium =>
    rw [debit, debitPrepaid_again positive recorded]
    exact (or_iff_right nofun).symm
  | serviceLease | executionContract => exact iff_of_true byRef (.inl rfl)

end

def spentAccount (charge : Charge) : Account :=
  run (accountStep 10000) Account.empty [.topup 1 10, .debit charge 80000]

theorem spentLease_debit_again :
    debit (spentAccount (.serviceLease 1)) (.serviceLease 1) 80000 =
      .ok (spentAccount (.serviceLease 1)) :=
  (debit_again_iff (by decide) (by decide)).mpr (.inl rfl)

theorem spentTask_debit_refused :
    (spentAccount (.task 1)).ledger.find? (.debit (.task 1)) = some ⟨.debit (.task 1), -80000⟩ ∧
      debit (spentAccount (.task 1)) (.task 1) 80000 = .error .insufficientPrepaid :=
  ⟨by decide, rfl⟩

end MercControl.Prepaid
