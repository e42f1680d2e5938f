import MercControl.Pricing.ExactMoney

/-!
# Remainder carries

A carry posts whole micros and keeps the nanos that are left.  The sum with the
remainder is checked for a wrap, the posted total is not.
-/

namespace MercControl.Pricing

open Library Machine

structure RemainderCarry where
  currency : Currency
  remainderNanos : Int
  postedMicros : Int
  deriving DecidableEq

def newRemainderCarry (currency : Currency) (openingRemainderNanos : Int) :
    Option RemainderCarry :=
  if openingRemainderNanos < 0 ∨ nanosPerMicro ≤ openingRemainderNanos then none
  else some ⟨currency, openingRemainderNanos, 0⟩

def RemainderCarry.accrue (carry : RemainderCarry) (amount : MoneyNanos) :
    Except Failure (RemainderCarry × Int) :=
  let total := Int.bmod (carry.remainderNanos + amount.nanos) (2 ^ 64)
  let postMicros := total.tdiv nanosPerMicro
  if amount.currency ≠ carry.currency then .error .currencyMismatch
  else if amount.nanos < 0 then .error .negativeAmount
  else if total < carry.remainderNanos then .error .overflow
  else .ok ({ carry with
    remainderNanos := total.tmod nanosPerMicro
    postedMicros := Int.bmod (carry.postedMicros + postMicros) (2 ^ 64) }, postMicros)

def RemainderCarry.exact (carry : RemainderCarry) : Int :=
  carry.postedMicros * nanosPerMicro + carry.remainderNanos

/-- The remainder is less than a micro, and the posted total is an `int64`. -/
def RemainderCarry.Valid (carry : RemainderCarry) : Prop :=
  0 ≤ carry.remainderNanos ∧ carry.remainderNanos < nanosPerMicro ∧
    minInt64 ≤ carry.postedMicros ∧ carry.postedMicros ≤ maxInt64

theorem newRemainderCarry_valid {currency : Currency} {opening : Int} {carry : RemainderCarry}
    (opened : newRemainderCarry currency opening = some carry) : carry.Valid := by
  unfold newRemainderCarry at opened
  split_ifs at opened with outside
  cases opened
  rw [not_or, Int.not_lt, Int.not_le] at outside
  exact ⟨outside.1, outside.2, (by decide : minInt64 ≤ 0), (by decide : 0 ≤ maxInt64)⟩

structure Accrual where
  carry : RemainderCarry
  accepted : Int

def Accrual.step (accrual : Accrual) (amount : MoneyNanos) : Except Failure Accrual :=
  (accrual.carry.accrue amount).bind fun result => .ok ⟨result.1, accrual.accepted + amount.nanos⟩

/-- What was posted and is still held is what was there and what was accepted. -/
structure Exact (start : RemainderCarry) (accrual : Accrual) : Prop where
  exact : accrual.carry.exact = start.exact + accrual.accepted
  valid : accrual.carry.Valid

def KeepsPosted (accrual : Accrual) (amount : MoneyNanos) : Prop :=
  ∀ next, accrual.step amount = .ok next → accrual.carry.postedMicros ≤ next.carry.postedMicros

def PostsWithin (accrual : Accrual) (amount : MoneyNanos) : Prop :=
  amount.nanos ≤ maxInt64 ∧ accrual.carry.postedMicros +
    (accrual.carry.remainderNanos + amount.nanos) / nanosPerMicro ≤ maxInt64
  deriving Decidable

theorem Accrual.step_ok {accrual next : Accrual} {amount : MoneyNanos}
    (valid : accrual.carry.Valid) (within : PostsWithin accrual amount)
    (ran : accrual.step amount = .ok next) :
    0 ≤ amount.nanos ∧ next.accepted = accrual.accepted + amount.nanos ∧
      next.carry.remainderNanos =
        (accrual.carry.remainderNanos + amount.nanos) % nanosPerMicro ∧
      next.carry.postedMicros = accrual.carry.postedMicros +
        (accrual.carry.remainderNanos + amount.nanos) / nanosPerMicro := by
  obtain ⟨_, accrued, ⟨⟩⟩ := bind_eq_ok.mp ran
  simp only [RemainderCarry.accrue, ite_error_eq_ok, Except.ok.injEq] at accrued
  obtain ⟨_, _, noWrap, rfl⟩ := accrued
  unfold RemainderCarry.Valid PostsWithin minInt64 maxInt64 nanosPerMicro at *
  have whole : Int.bmod (accrual.carry.remainderNanos + amount.nanos) (2 ^ 64) =
      accrual.carry.remainderNanos + amount.nanos := by
    rw [Int.bmod_def] at noWrap ⊢
    omega
  have total : 0 ≤ accrual.carry.remainderNanos + amount.nanos := by omega
  rw [whole, Int.tdiv_eq_ediv_of_nonneg total, Int.tmod_eq_emod_of_nonneg total]
  exact ⟨by omega, rfl, rfl, Int.bmod_eq_of_le (by omega) (by omega)⟩

/-- While the posted total fits, nothing is lost and nothing is created. -/
theorem carry_exact (start : RemainderCarry) (amounts : List MoneyNanos) (valid : start.Valid)
    (within : Meets Accrual.step PostsWithin ⟨start, 0⟩ amounts) :
    Always Accrual.step (Exact start) ⟨start, 0⟩ amounts ∧
      Meets Accrual.step KeepsPosted ⟨start, 0⟩ amounts := by
  have opened : Exact start ⟨start, 0⟩ := ⟨(Int.add_zero _).symm, valid⟩
  have preserved (accrual : Accrual) (amount : MoneyNanos) (next : Accrual)
      (sound : Exact start accrual) (fits : PostsWithin accrual amount)
      (ran : accrual.step amount = .ok next) : Exact start next := by
    obtain ⟨_, valid⟩ := sound
    obtain ⟨nonneg, _, _, posted⟩ := Accrual.step_ok valid fits ran
    unfold RemainderCarry.exact PostsWithin RemainderCarry.Valid nanosPerMicro at *
    refine ⟨?_, ?_⟩
    · unfold RemainderCarry.exact nanosPerMicro
      omega
    · unfold RemainderCarry.Valid nanosPerMicro
      omega
  refine ⟨always_of_guarded preserved (fun _ => id) opened within,
    meets_of_guarded preserved ?_ opened within⟩
  intro accrual amount sound fits next ran
  obtain ⟨nonneg, _, _, posted⟩ := Accrual.step_ok sound.valid fits ran
  have held := sound.valid.1
  unfold nanosPerMicro at posted
  omega

theorem carried_exact :
    Always Accrual.step (Exact ⟨.usd, 400, 0⟩) ⟨⟨.usd, 400, 0⟩, 0⟩
        [⟨.usd, 700⟩, ⟨.cad, 1⟩, ⟨.usd, 2500⟩] ∧
      Meets Accrual.step KeepsPosted ⟨⟨.usd, 400, 0⟩, 0⟩ [⟨.usd, 700⟩, ⟨.cad, 1⟩, ⟨.usd, 2500⟩] :=
  carry_exact _ _ ⟨by decide, by decide, by decide, by decide⟩ (by decide)

/-- One micro more than an `int64` holds: the posted total wraps. -/
theorem posted_wraps : ¬ KeepsPosted ⟨⟨.usd, 0, maxInt64⟩, 0⟩ ⟨.usd, 1000⟩ := by
  intro keeps
  exact absurd (keeps ⟨⟨.usd, 0, minInt64⟩, 1000⟩ rfl) (by decide)

end MercControl.Pricing
