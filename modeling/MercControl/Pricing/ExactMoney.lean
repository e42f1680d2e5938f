import Mathlib.Tactic.Linarith
import MercControl.Library.Machine

/-!
# Exact money

Economic amounts are integers of nano-major-units, bound to a currency.  Every
rate conversion goes through `mulDiv`, which rounds in the direction that its
caller names.  Where the source relies on the range of an `int64`, the range is
written out.
-/

namespace MercControl.Pricing

open Library Machine

inductive Currency
  | usd
  | cad
  | jpy
  deriving DecidableEq

def Currency.code : Currency → String
  | .usd => "usd"
  | .cad => "cad"
  | .jpy => "jpy"

inductive Failure
  | dividedByZero
  | overflow
  | currencyMismatch
  | negativeAmount
  | invalidRate
  | unsupportedAuthority
  | invalidRevision
  | notIdentity
  | missingFXAuthority
  | missingIdentities
  | invalidTokenBounds
  | collapsedRate
  | offerRates
  | invalidCeiling
  | notConserved
  | ceilingExceeded
  | usageOutOfBounds
  deriving DecidableEq

def nanosPerMajorUnit : Int := 1000000000

def nanosPerMicro : Int := 1000

def maxInt64 : Int := 9223372036854775807

def minInt64 : Int := -9223372036854775808

structure MoneyNanos where
  currency : Currency
  nanos : Int
  deriving DecidableEq

/-- The sum wraps, and the wrap is looked for afterwards. -/
def MoneyNanos.add (amount other : MoneyNanos) : Except Failure MoneyNanos :=
  let sum := Int.bmod (amount.nanos + other.nanos) (2 ^ 64)
  if amount.currency ≠ other.currency then .error .currencyMismatch
  else if (0 < other.nanos ∧ sum < amount.nanos) ∨ (other.nanos < 0 ∧ amount.nanos < sum) then
    .error .overflow
  else .ok { amount with nanos := sum }

def MoneyNanos.sub (amount other : MoneyNanos) : Except Failure MoneyNanos :=
  let difference := Int.bmod (amount.nanos - other.nanos) (2 ^ 64)
  if amount.currency ≠ other.currency then .error .currencyMismatch
  else if (other.nanos < 0 ∧ difference < amount.nanos) ∨
      (0 < other.nanos ∧ amount.nanos < difference) then
    .error .overflow
  else .ok { amount with nanos := difference }

/-- In 128 bits where all arguments allow it, else in arbitrary precision. -/
def mulDiv (a b d : Int) (up : Bool) : Except Failure Int :=
  let product := a * b
  if d = 0 then .error .dividedByZero
  else if 0 ≤ a ∧ 0 ≤ b ∧ 0 < d then
    let quotient := product / d
    let remainder := product % d
    if d ≤ product / 2 ^ 64 then .error .overflow
    else if maxInt64 < quotient ∨ (up ∧ remainder ≠ 0 ∧ quotient = maxInt64) then .error .overflow
    else if up ∧ remainder ≠ 0 then .ok (quotient + 1)
    else .ok quotient
  else
    let remainder := product.tmod d
    let quotient :=
      if remainder ≠ 0 ∧ up = decide (product.sign = d.sign) then product.tdiv d + 1
      else product.tdiv d
    if quotient < minInt64 ∨ maxInt64 < quotient then .error .overflow else .ok quotient

/-- `int64(math.Round(value))`: halves go away from zero.  A value out of
range is what the conversion instruction of amd64 makes of it. -/
def roundToInt64 (value : Float) : Int :=
  match value.toModel.unpack with
  | .zero _ => 0
  | .finite sign mantissa exponent _ =>
    let magnitude : Int :=
      if 0 ≤ exponent then mantissa * 2 ^ exponent.toNat
      else (mantissa + 2 ^ ((-exponent).toNat - 1)) / 2 ^ (-exponent).toNat
    let rounded :=
      match sign with
      | .positive => magnitude
      | .negative => -magnitude
    if minInt64 ≤ rounded ∧ rounded ≤ maxInt64 then rounded else minInt64
  | .infinity _ => minInt64
  | .notANumber => minInt64

def finiteNonNegative (value : Float) : Bool := !value.isNaN && !value.isInf && decide (0 ≤ value)

/-- The bound `math.MaxInt64` is compared as a float, where it is `2 ^ 63`. -/
def nanoRatePerMillionFromFloat (rate : Float) : Except Failure Int :=
  if rate.isNaN || rate.isInf || decide (rate < 0) then .error .invalidRate
  else if 9223372036854775808 < rate * 1000000000 then .error .overflow
  else .ok (roundToInt64 (rate * 1000000000))

def moneyNanosFromUSDFloat (currency : Currency) (usd : Float) : Except Failure MoneyNanos :=
  let scaled := usd * 1000000000
  if !finiteNonNegative usd.abs then .error .invalidRate
  else if 9223372036854775808 < scaled ∨ scaled < -9223372036854775808 then .error .overflow
  else .ok { currency, nanos := roundToInt64 scaled }

/-- The products of the two token classes are rounded one by one. -/
def realtimeTokenChargeNanos (currency : Currency)
    (promptTokens completionTokens inputRate outputRate : Int)
    (roundSupplierUp : Bool) : Except Failure MoneyNanos :=
  if promptTokens < 0 ∨ completionTokens < 0 ∨ inputRate < 0 ∨ outputRate < 0 then
    .error .negativeAmount
  else
    (mulDiv inputRate promptTokens 1000000 roundSupplierUp).bind fun input =>
    (mulDiv outputRate completionTokens 1000000 roundSupplierUp).bind fun output =>
    MoneyNanos.add { currency, nanos := input } { currency, nanos := output }

def buyerRealtimeTokenChargeNanos (currency : Currency)
    (promptTokens completionTokens inputRate outputRate : Int) :
    Except Failure MoneyNanos :=
  realtimeTokenChargeNanos currency promptTokens completionTokens inputRate outputRate false

def supplierRealtimeTokenEntitlementNanos (currency : Currency)
    (promptTokens completionTokens inputRate outputRate : Int) :
    Except Failure MoneyNanos :=
  realtimeTokenChargeNanos currency promptTokens completionTokens inputRate outputRate true

/-- Halves go up, and a positive amount is at least one micro. -/
def ledgerMicrosFromNanos (amount : MoneyNanos) : Except Failure Int :=
  let whole := amount.nanos / nanosPerMicro
  let remainder := amount.nanos % nanosPerMicro
  let rounded := if nanosPerMicro ≤ remainder * 2 then whole + 1 else whole
  if amount.nanos < 0 then .error .negativeAmount
  else .ok (if rounded = 0 ∧ 0 < amount.nanos then 1 else rounded)

def roundedDiv (product d : Int) (up : Bool) : Int :=
  if up ∧ product % d ≠ 0 then product / d + 1 else product / d

variable {d : Int} {up : Bool} {currency : Currency}

theorem roundedDiv_up (product d : Int) :
    roundedDiv product d true = if product % d = 0 then product / d else product / d + 1 := by
  unfold roundedDiv
  by_cases exact : product % d = 0 <;> simp [exact]

theorem roundedDiv_down (product d : Int) : roundedDiv product d false = product / d := by
  simp [roundedDiv]

/-- A quotient rounded up is the least bound that covers the product. -/
theorem roundedDiv_up_le_iff {product bound : Int} (pos : 0 < d) :
    roundedDiv product d true ≤ bound ↔ product ≤ bound * d := by
  rw [roundedDiv_up]
  split_ifs with exact
  · rw [Int.ediv_le_iff_of_dvd_of_pos pos (Int.dvd_of_emod_eq_zero exact), mul_comm]
  · rw [Int.add_one_le_iff, Int.ediv_lt_iff_lt_mul pos, lt_iff_le_and_ne, and_iff_left]
    rintro rfl
    exact exact (Int.mul_emod_left bound d)

theorem le_roundedDiv_up_mul (product : Int) (pos : 0 < d) :
    product ≤ roundedDiv product d true * d :=
  (roundedDiv_up_le_iff pos).mp le_rfl

theorem roundedDiv_nonneg {product : Int} (nonneg : 0 ≤ product)
    (pos : 0 < d) : 0 ≤ roundedDiv product d up := by
  have quotient : 0 ≤ product / d := Int.ediv_nonneg nonneg pos.le
  unfold roundedDiv
  split_ifs
  · omega
  · exact quotient

theorem roundedDiv_mono {product other : Int} (up : Bool) (pos : 0 < d)
    (less : product ≤ other) : roundedDiv product d up ≤ roundedDiv other d up := by
  cases up with
  | false =>
    rw [roundedDiv_down, roundedDiv_down]
    exact Int.ediv_le_ediv pos less
  | true => exact (roundedDiv_up_le_iff pos).mpr (less.trans (le_roundedDiv_up_mul other pos))

theorem ite_overflow_eq_ok {tooLarge : Prop} [Decidable tooLarge]
    {value result : Int} (means : tooLarge ↔ maxInt64 < value) :
    (if tooLarge then Except.error Failure.overflow else Except.ok value) = .ok result ↔
      result = value ∧ result ≤ maxInt64 := by
  rw [ite_error_eq_ok, means, not_lt, Except.ok.injEq]
  constructor
  · rintro ⟨fits, rfl⟩
    exact ⟨rfl, fits⟩
  · rintro ⟨rfl, fits⟩
    exact ⟨fits, rfl⟩

/-- Where all arguments are non-negative, `mulDiv` rounds as it says, or the
result does not fit. -/
theorem mulDiv_eq_ok {a b result : Int} (first : 0 ≤ a) (second : 0 ≤ b) (pos : 0 < d) :
    mulDiv a b d up = .ok result ↔ result = roundedDiv (a * b) d up ∧ result ≤ maxInt64 := by
  have tooHigh : d ≤ a * b / 2 ^ 64 → maxInt64 < a * b / d := by
    intro high
    have bound : d * 2 ^ 64 ≤ a * b := (Int.le_ediv_iff_mul_le (by norm_num)).mp high
    have quotient : 2 ^ 64 ≤ a * b / d := by
      rw [Int.le_ediv_iff_mul_le pos, mul_comm]
      exact bound
    unfold maxInt64
    omega
  unfold mulDiv roundedDiv
  rw [if_neg pos.ne', if_pos ⟨first, second, pos⟩]
  by_cases high : d ≤ a * b / 2 ^ 64
  · simp only [if_pos high, reduceCtorEq, false_iff]
    rintro ⟨rfl, fits⟩
    split_ifs at fits <;> omega
  · rw [if_neg high]
    by_cases rounds : up = true ∧ a * b % d ≠ 0
    · simp only [rounds, if_true, true_and, ne_eq, not_false_eq_true]
      refine ite_overflow_eq_ok ?_
      omega
    · have exact : ¬ (up = true ∧ a * b % d ≠ 0 ∧ a * b / d = maxInt64) :=
        fun isLast => rounds ⟨isLast.1, isLast.2.1⟩
      simp only [exact, or_false, if_neg rounds]
      exact ite_overflow_eq_ok Iff.rfl

theorem MoneyNanos.add_eq_ok {first second : Int} {sum : MoneyNanos}
    (firstRange : 0 ≤ first ∧ first ≤ maxInt64) (secondRange : 0 ≤ second ∧ second ≤ maxInt64) :
    MoneyNanos.add { currency, nanos := first }
        { currency, nanos := second } = .ok sum ↔
      sum = { currency, nanos := first + second } ∧ first + second ≤ maxInt64 := by
  unfold maxInt64 at *
  unfold MoneyNanos.add
  dsimp only
  rw [if_neg (not_not.mpr rfl)]
  by_cases fits : first + second ≤ 9223372036854775807
  · have same : Int.bmod (first + second) (2 ^ 64) = first + second := by
      rw [Int.bmod_def]
      omega
    rw [same, if_neg (by omega)]
    simp only [Except.ok.injEq, fits, and_true]
    exact eq_comm
  · have wraps : Int.bmod (first + second) (2 ^ 64) < first := by
      rw [Int.bmod_def]
      omega
    rw [if_pos (.inl ⟨by omega, wraps⟩)]
    simp only [reduceCtorEq, false_iff, not_and]
    exact fun _ => fits

theorem MoneyNanos.sub_of_range {first second : Int} (firstRange : 0 ≤ first ∧ first ≤ maxInt64)
    (secondRange : 0 ≤ second ∧ second ≤ maxInt64) :
    MoneyNanos.sub { currency, nanos := first }
        { currency, nanos := second } =
      .ok { currency, nanos := first - second } := by
  unfold maxInt64 at *
  have same : Int.bmod (first - second) (2 ^ 64) = first - second := by
    rw [Int.bmod_def]
    omega
  unfold MoneyNanos.sub
  dsimp only
  rw [if_neg (not_not.mpr rfl), same, if_neg (by omega)]

def tokenCharge (promptTokens completionTokens inputRate outputRate : Int) (up : Bool) : Int :=
  roundedDiv (inputRate * promptTokens) 1000000 up +
    roundedDiv (outputRate * completionTokens) 1000000 up

section

variable {promptTokens completionTokens inputRate outputRate : Int}

theorem tokenCharge_nonneg (up : Bool) (prompt : 0 ≤ promptTokens)
    (completion : 0 ≤ completionTokens) (input : 0 ≤ inputRate) (output : 0 ≤ outputRate) :
    0 ≤ tokenCharge promptTokens completionTokens inputRate outputRate up :=
  add_nonneg (roundedDiv_nonneg (mul_nonneg input prompt) (by norm_num))
    (roundedDiv_nonneg (mul_nonneg output completion) (by norm_num))

theorem tokenCharge_mono (up : Bool) {maximumPrompt maximumCompletion : Int}
    (input : 0 ≤ inputRate) (output : 0 ≤ outputRate) (promptBound : promptTokens ≤ maximumPrompt)
    (completionBound : completionTokens ≤ maximumCompletion) :
    tokenCharge promptTokens completionTokens inputRate outputRate up ≤
      tokenCharge maximumPrompt maximumCompletion inputRate outputRate up :=
  add_le_add (roundedDiv_mono up (by norm_num) (mul_le_mul_of_nonneg_left promptBound input))
    (roundedDiv_mono up (by norm_num) (mul_le_mul_of_nonneg_left completionBound output))

theorem realtimeTokenChargeNanos_eq_ok {charge : MoneyNanos} (prompt : 0 ≤ promptTokens)
    (completion : 0 ≤ completionTokens) (input : 0 ≤ inputRate) (output : 0 ≤ outputRate) :
    realtimeTokenChargeNanos currency promptTokens completionTokens inputRate
        outputRate up = .ok charge ↔
      charge =
          { currency := currency
            nanos := tokenCharge promptTokens completionTokens inputRate outputRate up } ∧
        tokenCharge promptTokens completionTokens inputRate outputRate up ≤ maxInt64 := by
  have inputCharge : 0 ≤ roundedDiv (inputRate * promptTokens) 1000000 up :=
    roundedDiv_nonneg (mul_nonneg input prompt) (by norm_num)
  have outputCharge : 0 ≤ roundedDiv (outputRate * completionTokens) 1000000 up :=
    roundedDiv_nonneg (mul_nonneg output completion) (by norm_num)
  unfold realtimeTokenChargeNanos tokenCharge
  rw [if_neg (by omega)]
  constructor
  · intro charged
    obtain ⟨_, inputOk, charged⟩ := bind_eq_ok.mp charged
    obtain ⟨_, outputOk, charged⟩ := bind_eq_ok.mp charged
    obtain ⟨rfl, inputFits⟩ := (mulDiv_eq_ok input prompt (by norm_num)).mp inputOk
    obtain ⟨rfl, outputFits⟩ := (mulDiv_eq_ok output completion (by norm_num)).mp outputOk
    exact (MoneyNanos.add_eq_ok ⟨inputCharge, inputFits⟩ ⟨outputCharge, outputFits⟩).mp charged
  · rintro ⟨rfl, fits⟩
    have inputFits : roundedDiv (inputRate * promptTokens) 1000000 up ≤ maxInt64 := by
      omega
    have outputFits : roundedDiv (outputRate * completionTokens) 1000000 up ≤ maxInt64 := by
      omega
    refine bind_eq_ok.mpr ⟨_, (mulDiv_eq_ok input prompt (by norm_num)).mpr ⟨rfl, inputFits⟩, ?_⟩
    refine bind_eq_ok.mpr ⟨_,
      (mulDiv_eq_ok output completion (by norm_num)).mpr ⟨rfl, outputFits⟩, ?_⟩
    exact (MoneyNanos.add_eq_ok ⟨inputCharge, inputFits⟩ ⟨outputCharge, outputFits⟩).mpr ⟨rfl, fits⟩

end

theorem ledgerMicrosFromNanos_mono {smaller larger : MoneyNanos}
    (nonneg : 0 ≤ smaller.nanos) (less : smaller.nanos ≤ larger.nanos) :
    ∃ smallerMicros largerMicros, ledgerMicrosFromNanos smaller = .ok smallerMicros ∧
        ledgerMicrosFromNanos larger = .ok largerMicros ∧
        smallerMicros ≤ largerMicros := by
  have largerNonneg : 0 ≤ larger.nanos := nonneg.trans less
  unfold ledgerMicrosFromNanos nanosPerMicro
  rw [if_neg nonneg.not_gt, if_neg largerNonneg.not_gt]
  refine ⟨_, _, rfl, rfl, ?_⟩
  split_ifs <;> omega

/-- The big-integer path of `mulDiv` and `mul3Div`. -/
def bigDiv (product d : Int) (up : Bool) : Except Failure Int :=
  let remainder := product.tmod d
  let quotient :=
    if remainder ≠ 0 ∧ up = decide (product.sign = d.sign) then product.tdiv d + 1
    else product.tdiv d
  if quotient < minInt64 ∨ maxInt64 < quotient then .error .overflow else .ok quotient

def mul3Div (a b c d : Int) (up : Bool) : Except Failure Int :=
  if d = 0 then .error .dividedByZero else bigDiv (a * b * c) d up

/-- The outcome is the quotient in the direction that was asked for, and a
failure exactly when that is no `int64`. -/
def Rounds (outcome : Except Failure Int) (product d : Int) (up : Bool) : Prop :=
  ∀ result, outcome = .ok result ↔
    result = roundedDiv product d up ∧ minInt64 ≤ result ∧ result ≤ maxInt64

/-- Nothing negative is rounded down, unless its quotient is out of range. -/
def RoundsSafely (product d : Int) (up : Bool) : Prop :=
  up = true ∨ 0 ≤ product ∨ d ∣ product ∨ product / d + 2 < minInt64

/-- The big-integer path adds to a truncated quotient where it should take
away. -/
theorem bigDiv_eq_ok {product result : Int} (pos : 0 < d) :
    bigDiv product d up = .ok result ↔ result =
        (if up = true ∨ 0 ≤ product ∨ d ∣ product then roundedDiv product d up
          else product / d + 2) ∧
      minInt64 ≤ result ∧ result ≤ maxInt64 := by
  have quotient : (if product.tmod d ≠ 0 ∧ up = decide (product.sign = d.sign) then
        product.tdiv d + 1 else product.tdiv d) =
      if up = true ∨ 0 ≤ product ∨ d ∣ product then roundedDiv product d up
      else product / d + 2 := by
    simp only [roundedDiv, ne_eq, ← Int.dvd_iff_tmod_eq_zero, ← Int.dvd_iff_emod_eq_zero,
      Int.tdiv_eq_ediv, Int.sign_eq_one_of_pos pos, Int.sign_eq_one_iff_pos]
    by_cases divides : d ∣ product
    · simp [divides]
    · have notZero : product ≠ 0 := fun zero => divides (zero ▸ Int.dvd_zero d)
      by_cases nonneg : 0 ≤ product
      · cases up <;> simp [divides, nonneg, lt_of_le_of_ne nonneg notZero.symm]
      · cases up <;> simp [divides, nonneg, (not_le.mp nonneg).le, add_assoc]
  rw [bigDiv, quotient, ite_error_eq_ok, Except.ok.injEq, not_or, not_lt, not_lt]
  constructor
  · rintro ⟨range, rfl⟩
    exact ⟨rfl, range⟩
  · rintro ⟨rfl, range⟩
    exact ⟨range, rfl⟩

theorem bigDiv_rounds_iff {product : Int} (pos : 0 < d) :
    Rounds (bigDiv product d up) product d up ↔ RoundsSafely product d up := by
  by_cases safe : up = true ∨ 0 ≤ product ∨ d ∣ product
  · refine iff_of_true (fun result => ?_) ?_
    · rw [bigDiv_eq_ok pos, if_pos safe]
    · exact safe.imp_right (Or.imp_right .inl)
  · have negative : product / d < 0 := by
      refine Int.ediv_neg_of_neg_of_pos ?_ pos
      omega
    have isOut : RoundsSafely product d up ↔ product / d + 2 < minInt64 := by
      unfold RoundsSafely
      tauto
    have down : roundedDiv product d up = product / d := by
      rw [Bool.eq_false_of_not_eq_true fun isUp => safe (.inl isUp), roundedDiv_down]
    rw [isOut]
    constructor
    · intro rounds
      by_contra inRange
      have same := (rounds _).mp ((bigDiv_eq_ok pos).mpr ⟨rfl, ?_⟩)
      · rw [if_neg safe, down] at same
        omega
      · rw [if_neg safe]
        unfold maxInt64
        omega
    · intro out result
      rw [bigDiv_eq_ok pos, if_neg safe, down]
      omega

theorem mulDiv_of_nonneg {a b : Int} (first : 0 ≤ a) (second : 0 ≤ b) (pos : 0 < d) :
    Rounds (mulDiv a b d up) (a * b) d up := by
  intro result
  rw [mulDiv_eq_ok first second pos]
  have nonneg : 0 ≤ roundedDiv (a * b) d up := roundedDiv_nonneg (mul_nonneg first second) pos
  unfold minInt64
  omega

/-- Both divisions round as asked exactly where nothing negative is rounded
down, and the 128-bit path of `mulDiv` does what the big-integer path does. -/
theorem division_directed_iff (a b c : Int) {d : Int} (up : Bool) (positive : 0 < d) :
    (Rounds (mulDiv a b d up) (a * b) d up ↔ RoundsSafely (a * b) d up) ∧
      (Rounds (mul3Div a b c d up) (a * b * c) d up ↔ RoundsSafely (a * b * c) d up) ∧
      (0 ≤ a → 0 ≤ b → ∀ result,
        mulDiv a b d up = .ok result ↔ bigDiv (a * b) d up = .ok result) := by
  refine ⟨?_, ?_, ?_⟩
  · by_cases fast : 0 ≤ a ∧ 0 ≤ b ∧ 0 < d
    · refine iff_of_true (mulDiv_of_nonneg fast.1 fast.2.1 positive) ?_
      exact .inr (.inl (mul_nonneg fast.1 fast.2.1))
    · have slow : mulDiv a b d up = bigDiv (a * b) d up := by
        rw [mulDiv, if_neg positive.ne', if_neg fast, bigDiv]
      rw [slow]
      exact bigDiv_rounds_iff positive
  · rw [mul3Div, if_neg positive.ne']
    exact bigDiv_rounds_iff positive
  · intro first second result
    have safe : RoundsSafely (a * b) d up := .inr (.inl (mul_nonneg first second))
    rw [mulDiv_of_nonneg first second positive, (bigDiv_rounds_iff positive).mpr safe]

theorem halves_directed : Rounds (mulDiv 1 1 2 false) 1 2 false ∧
    Rounds (mul3Div (-1) 1 1 2 true) (-1) 2 true :=
  ⟨(division_directed_iff 1 1 0 false (by decide)).1.mpr (.inr (.inl (by decide))),
    (division_directed_iff (-1) 1 1 true (by decide)).2.1.mpr (.inl rfl)⟩

theorem minus_half_rounds_to_one : mulDiv (-1) 1 2 false = .ok 1 ∧
    mul3Div (-1) 1 1 2 false = .ok 1 ∧ roundedDiv (-1) 2 false = -1 := by
  decide

end MercControl.Pricing
