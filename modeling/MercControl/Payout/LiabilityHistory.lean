import MercControl.Library.Table
import MercControl.Payout.Settlements
import MercControl.Pricing.ExactMoney

/-!
# The history of a supplier's accrual

Calls of `accrueSupplierLiability` for any suppliers and ledger entries: the
row lock on the accrual serialises the calls of a supplier, and of two
overlapping calls for one entry the second is refused.
-/

namespace MercControl.Payout.LiabilityHistory

open Library Machine Table
open Pricing (Currency)

def microsPerMinorUnit : Currency → Int
  | .usd | .cad => 10000
  | .jpy => 1000000

structure Account where
  currency : Currency
  accrual : Accrual

/-- A `supplier_minor_unit_settlements` row, with the supplier whose call wrote
it. -/
structure Claimed where
  entry : EntryId
  supplier : SupplierId
  settlement : Settlement

structure Call where
  settlementCurrency : Currency
  supplier : SupplierId
  entry : EntryId
  liabilityMicros : Int
  refused : Bool

structure Answer where
  entry : EntryId
  cashCents : Int
  carryOut : Int

structure Books where
  accounts : SupplierId → Option Account
  settlements : Table Claimed.entry
  answers : List Answer

def Books.empty : Books := ⟨fun _ => none, Table.empty, []⟩

/-- The row of the supplier, created on first use. -/
def lockSupplierAccrual (books : Books) (call : Call) : Account :=
  (books.accounts call.supplier).getD ⟨call.settlementCurrency, ⟨0, 0, 0⟩⟩

inductive Refusal
  | currencyMismatch
  | liability (failure : Failure)
  | refused

def Books.answer (books : Books) (call : Call) (account : Account)
    (settlement : Settlement) : Books :=
  { books with
    accounts := Function.update books.accounts call.supplier (some account)
    answers := books.answers ++ [⟨call.entry, settlement.cashCents, settlement.remainderMicros⟩] }

def Books.settle (books : Books) (row : Claimed)
    (fresh : books.settlements.find? row.entry = none) : Books :=
  { books with settlements := books.settlements.insert row fresh }

/-- `accrueSupplierLiability` with the rows it reads and writes. -/
def accrue (books : Books) (call : Call) : Except Refusal Books :=
  let account := lockSupplierAccrual books call
  if account.currency ≠ call.settlementCurrency then .error .currencyMismatch
  else
    let recorded := books.settlements.find? call.entry
    match accrueSupplierLiability (microsPerMinorUnit call.settlementCurrency)
        account.accrual (recorded.map (·.settlement)) call.liabilityMicros with
    | .error failure => .error (.liability failure)
    | .ok (settlement, accrual) =>
      if fresh : recorded = none then
        if call.refused then .error .refused
        else
          .ok ((books.settle ⟨call.entry, call.supplier, settlement⟩ fresh).answer
            call { account with accrual } settlement)
      else .ok (books.answer call { account with accrual } settlement)

def Books.accrual (books : Books) (supplier : SupplierId) : Accrual :=
  (books.accounts supplier).elim ⟨0, 0, 0⟩ (·.accrual)

def Books.claimed (books : Books) (supplier : SupplierId) (amount : Settlement → Int) : Int :=
  books.settlements.total fun row => if row.supplier = supplier then amount row.settlement else 0

structure Account.Exact (account : Account) : Prop where
  absorbed : account.accrual.lifetimeAbsorbed =
    account.accrual.lifetimePaidCents * microsPerMinorUnit account.currency +
      account.accrual.accruedMicros
  carry : 0 ≤ account.accrual.accruedMicros
  belowUnit : account.accrual.accruedMicros < microsPerMinorUnit account.currency

def Books.Answers (books : Books) (answer : Answer) : Prop :=
  ∃ row ∈ books.settlements.rows, row.entry = answer.entry ∧
    row.settlement.cashCents = answer.cashCents ∧
    row.settlement.remainderMicros = answer.carryOut

structure Replayed (books next : Books) (call : Call) (row : Claimed) : Prop where
  settlements : next.settlements = books.settlements
  accruals : ∀ supplier, next.accrual supplier = books.accrual supplier
  answers : next.answers = books.answers ++
    [⟨call.entry, row.settlement.cashCents, row.settlement.remainderMicros⟩]

/-- What a call for a new entry records: its own liability, under its own
supplier. -/
structure Absorbed (books next : Books) (call : Call) : Prop where
  settlement : ∃ row, next.settlements.find? call.entry = some row ∧
    row.supplier = call.supplier ∧ row.settlement.liabilityMicros = call.liabilityMicros ∧
    next.answers = books.answers ++
      [⟨call.entry, row.settlement.cashCents, row.settlement.remainderMicros⟩]
  others : ∀ entry, call.entry ≠ entry →
    next.settlements.find? entry = books.settlements.find? entry
  absorbed : ∀ supplier, (next.accrual supplier).lifetimeAbsorbed =
    (books.accrual supplier).lifetimeAbsorbed +
      if supplier = call.supplier then call.liabilityMicros else 0

structure Balanced (books : Books) : Prop where
  exact : ∀ supplier account, books.accounts supplier = some account → account.Exact
  absorbed : ∀ supplier, (books.accrual supplier).lifetimeAbsorbed =
    books.claimed supplier (·.liabilityMicros)
  paid : ∀ supplier, (books.accrual supplier).lifetimePaidCents =
    books.claimed supplier (·.cashCents)
  nonneg : ∀ row ∈ books.settlements.rows, 0 ≤ row.settlement.liabilityMicros
  answered : ∀ answer ∈ books.answers, books.Answers answer

variable {books next : Books} {call : Call} {account : Account}
variable {settlement : Settlement} {accrual : Accrual} {row : Claimed}

theorem microsPerMinorUnit_pos (currency : Currency) : 0 < microsPerMinorUnit currency := by
  cases currency <;> decide

theorem locked_accrual :
    (lockSupplierAccrual books call).accrual = books.accrual call.supplier := by
  unfold lockSupplierAccrual Books.accrual
  cases books.accounts call.supplier <;> rfl

theorem Balanced.locked (balanced : Balanced books) : (lockSupplierAccrual books call).Exact := by
  unfold lockSupplierAccrual
  cases found : books.accounts call.supplier with
  | none => exact ⟨by simp, le_rfl, microsPerMinorUnit_pos _⟩
  | some => exact balanced.exact _ _ found

theorem answer_accrual (supplier : SupplierId) :
    (books.answer call account settlement).accrual supplier =
      if supplier = call.supplier then account.accrual else books.accrual supplier := by
  by_cases same : supplier = call.supplier
  all_goals simp [Books.accrual, Books.answer, same]

theorem settle_claimed {fresh : books.settlements.find? row.entry = none}
    (supplier : SupplierId) (amount : Settlement → Int) :
    ((books.settle row fresh).answer call account settlement).claimed supplier amount =
      books.claimed supplier amount +
        if row.supplier = supplier then amount row.settlement else 0 :=
  total_insert fresh

/-- A call answers a replay from the settlement, or folds a new entry into the
accrual. -/
theorem accrue_ok (ran : accrue books call = .ok next) :
    (∃ row, books.settlements.find? call.entry = some row ∧
      next = books.answer call (lockSupplierAccrual books call) row.settlement) ∨
    ∃ (fresh : books.settlements.find? call.entry = none)
      (settlement : Settlement) (accrual : Accrual),
      (lockSupplierAccrual books call).currency = call.settlementCurrency ∧
      accrueSupplierLiability (microsPerMinorUnit call.settlementCurrency)
          (books.accrual call.supplier) none call.liabilityMicros =
        .ok (settlement, accrual) ∧
      next = (books.settle ⟨call.entry, call.supplier, settlement⟩ fresh).answer
          call ⟨call.settlementCurrency, accrual⟩ settlement := by
  simp only [accrue, ite_error_eq_ok, not_not] at ran
  obtain ⟨sameCurrency, ran⟩ := ran
  split at ran
  · cases ran
  rename_i settlement accrual accrued
  split at ran
  · rename_i fresh
    rw [fresh, locked_accrual] at accrued
    rw [ite_error_eq_ok, Except.ok.injEq, sameCurrency] at ran
    exact .inr ⟨fresh, settlement, accrual, sameCurrency, accrued, ran.2.symm⟩
  · rename_i found
    obtain ⟨row, isRow⟩ := Option.ne_none_iff_exists'.mp found
    rw [isRow] at accrued
    obtain ⟨rfl, rfl⟩ := accrueSupplierLiability_replay accrued
    exact .inl ⟨row, isRow, (Except.ok.inj ran).symm⟩

theorem replay_accrual (supplier : SupplierId) :
    (books.answer call (lockSupplierAccrual books call) settlement).accrual
      supplier = books.accrual supplier := by
  rw [answer_accrual]
  split_ifs with same
  · rw [same, locked_accrual]
  · rfl

theorem Balanced.replay (balanced : Balanced books)
    (found : books.settlements.find? call.entry = some row) :
    Balanced (books.answer call (lockSupplierAccrual books call) row.settlement) := by
  constructor
  · refine forall_update balanced.exact ?_
    rintro _ ⟨⟩
    exact balanced.locked
  · intro supplier
    rw [replay_accrual]
    exact balanced.absorbed supplier
  · intro supplier
    rw [replay_accrual]
    exact balanced.paid supplier
  · exact balanced.nonneg
  · refine Rows.forall_concat balanced.answered ?_
    exact ⟨row, mem_of_find? found, key_of_find? found, rfl, rfl⟩

theorem Balanced.claim (balanced : Balanced books)
    (fresh : books.settlements.find? call.entry = none)
    (sameCurrency : (lockSupplierAccrual books call).currency = call.settlementCurrency)
    (accrued : accrueSupplierLiability (microsPerMinorUnit call.settlementCurrency)
          (books.accrual call.supplier) none call.liabilityMicros =
        .ok (settlement, accrual)) :
    Balanced ((books.settle ⟨call.entry, call.supplier, settlement⟩ fresh).answer
        call ⟨call.settlementCurrency, accrual⟩ settlement) := by
  obtain ⟨exact, carry, belowUnit⟩ : (lockSupplierAccrual books call).Exact := balanced.locked
  rw [sameCurrency, locked_accrual] at exact belowUnit
  rw [locked_accrual] at carry
  obtain ⟨liability, equation, paid, absorbed⟩ := accrueSupplierLiability_fresh accrued
  obtain ⟨⟨recorded, _⟩, nonneg, below⟩ := accrueSupplierLiability_accounts
      (microsPerMinorUnit_pos call.settlementCurrency) carry belowUnit accrued
  have isExact : Account.Exact ⟨call.settlementCurrency, accrual⟩ := by
    refine ⟨?_, nonneg, below⟩
    rw [absorbed, paid, exact, Int.add_mul, Int.add_assoc, Int.add_assoc, equation]
  constructor
  · refine forall_update balanced.exact ?_
    rintro _ ⟨⟩
    exact isExact
  · intro supplier
    rw [answer_accrual, settle_claimed]
    have before := balanced.absorbed supplier
    split_ifs with same other <;> grind [Books.accrual, Books.settle]
  · intro supplier
    rw [answer_accrual, settle_claimed]
    have before := balanced.paid supplier
    split_ifs with same other <;> grind [Books.accrual, Books.settle]
  · exact forall_insert fresh balanced.nonneg (recorded ▸ liability)
  · refine Rows.forall_concat ?_ ?_
    · intro answer old
      obtain ⟨row, isRow, rest⟩ := balanced.answered answer old
      exact ⟨row, List.mem_append_left _ isRow, rest⟩
    · exact ⟨_, List.mem_append_right _ List.mem_cons_self, rfl, rfl, rfl⟩

theorem accrue_balanced (balanced : Balanced books)
    (ran : accrue books call = .ok next) : Balanced next := by
  rcases accrue_ok ran with
    ⟨row, found, rfl⟩ | ⟨fresh, settlement, accrual, same, accrued, rfl⟩
  · exact balanced.replay found
  · exact balanced.claim fresh same accrued

theorem balanced_empty : Balanced Books.empty where
  exact := by
    intro supplier account isAccount
    cases isAccount
  absorbed _ := rfl
  paid _ := rfl
  nonneg := nofun
  answered := nofun

/-- A call for a settled entry returns the recorded cash and carry, changes
nothing, and is refused only in another currency or for another liability. -/
theorem Balanced.accrue_replay (balanced : Balanced books)
    (found : books.settlements.find? call.entry = some row) :
    (∀ next, accrue books call = .ok next → Replayed books next call row) ∧
    ((lockSupplierAccrual books call).currency = call.settlementCurrency →
      row.settlement.liabilityMicros = call.liabilityMicros →
        ∃ next, accrue books call = .ok next) := by
  constructor
  · intro next ran
    rcases accrue_ok ran with ⟨other, isOther, rfl⟩ | ⟨fresh, _⟩
    · rw [found, Option.some.injEq] at isOther
      subst isOther
      exact ⟨rfl, replay_accrual, rfl⟩
    · rw [found] at fresh
      cases fresh
  · intro sameCurrency sameLiability
    have nonneg := balanced.nonneg row (mem_of_find? found)
    rw [sameLiability] at nonneg
    simp [accrue, accrueSupplierLiability, found, sameCurrency, sameLiability,
      Int.not_lt.mpr nonneg]

theorem accrue_fresh (fresh : books.settlements.find? call.entry = none) :
    (∀ next, accrue books call = .ok next → Absorbed books next call) ∧
    ((lockSupplierAccrual books call).currency = call.settlementCurrency →
      0 ≤ call.liabilityMicros → call.refused = false →
        ∃ next, accrue books call = .ok next) := by
  constructor
  · intro next ran
    rcases accrue_ok ran with ⟨row, found, _⟩ | ⟨_, settlement, accrual, _, accrued, rfl⟩
    · rw [fresh] at found
      cases found
    · simp only [accrueSupplierLiability, ite_error_eq_ok, Except.ok.injEq, Prod.mk.injEq]
        at accrued
      obtain ⟨_, rfl, rfl⟩ := accrued
      refine ⟨⟨_, find?_insert_self fresh, rfl, rfl, rfl⟩, ?_, ?_⟩
      · intro entry other
        exact (find?_insert fresh).trans (if_neg other)
      · intro supplier
        rw [answer_accrual]
        split_ifs with own
        · rw [own]
        · exact (Int.add_zero _).symm
  · intro sameCurrency nonneg allowed
    simp [accrue, accrueSupplierLiability, fresh, sameCurrency, allowed, Int.not_lt.mpr nonneg]

/-- After any calls every accrual is exact over the entries its supplier
claimed, every answer is that of the settlement of its entry, the first
successful call for an entry absorbs its own liability, and a replay changes no
accrual. -/
theorem accruals_exact (calls : List Call) :
    let books := run accrue Books.empty calls
    Balanced books ∧
      (∀ call, books.settlements.find? call.entry = none →
        (∀ next, accrue books call = .ok next → Absorbed books next call) ∧
        ((lockSupplierAccrual books call).currency = call.settlementCurrency →
          0 ≤ call.liabilityMicros → call.refused = false →
            ∃ next, accrue books call = .ok next)) ∧
      ∀ call row, books.settlements.find? call.entry = some row →
        (∀ next, accrue books call = .ok next → Replayed books next call row) ∧
        ((lockSupplierAccrual books call).currency = call.settlementCurrency →
          row.settlement.liabilityMicros = call.liabilityMicros →
            ∃ next, accrue books call = .ok next) := by
  intro books
  have balanced : Balanced books :=
    invariant_run_of_preserved (fun _ _ _ => accrue_balanced) calls balanced_empty
  exact ⟨balanced, fun _ => accrue_fresh, fun _ _ => balanced.accrue_replay⟩

end MercControl.Payout.LiabilityHistory
