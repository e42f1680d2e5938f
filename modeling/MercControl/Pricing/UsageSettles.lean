import MercControl.Pricing.RealtimeDecision

/-!
# Settlement of realtime usage

The rates leave at least one nano of spread per token in the reference
currency.  Both amounts are then rounded up, and an exchange rate below one can
lose the spread of a small usage.
-/

namespace MercControl.Pricing

open Library Machine

variable {fx : RealtimeFXAuthority} {rates : TokenRates}
  {prompt completion : Int} {input : RealtimePricingInputs}
  {decision : PricingDecision} {settlement : Currency} {deployment : Deployment}

theorem validateRealtimeFXAuthority_positive
    (valid : validateRealtimeFXAuthority fx settlement = .ok ()) :
    0 < fx.referenceToSettlementNanos := by
  obtain ⟨_, valid⟩ := ite_error_eq_ok.mp valid
  obtain ⟨rates, _⟩ := ite_error_eq_ok.mp valid
  push Not at rates
  exact rates.2.2

def converted (fx : RealtimeFXAuthority) (referenceNanos : Int) : Int :=
  roundedDiv (referenceNanos * fx.referenceToSettlementNanos) nanosPerMajorUnit true

theorem convertRealtimeReferenceNanos_eq_ok {referenceNanos : Int} {amount : MoneyNanos}
    (nonneg : 0 ≤ referenceNanos) (valid : validateRealtimeFXAuthority fx settlement = .ok ()) :
    convertRealtimeReferenceNanos referenceNanos settlement fx true = .ok amount ↔
      amount = { currency := settlement, nanos := converted fx referenceNanos } ∧
        converted fx referenceNanos ≤ maxInt64 := by
  have pos : 0 < nanosPerMajorUnit := by decide
  have rate := (validateRealtimeFXAuthority_positive valid).le
  unfold convertRealtimeReferenceNanos
  rw [if_neg nonneg.not_gt, valid]
  constructor
  · intro run
    obtain ⟨_, _, run⟩ := bind_eq_ok.mp run
    obtain ⟨nanos, divided, run⟩ := bind_eq_ok.mp run
    cases run
    obtain ⟨rfl, fits⟩ := (mulDiv_eq_ok nonneg rate pos).mp divided
    exact ⟨rfl, fits⟩
  · rintro ⟨rfl, fits⟩
    have divided := (mulDiv_eq_ok nonneg rate pos).mpr ⟨rfl, fits⟩
    exact bind_eq_ok.mpr ⟨(), rfl, bind_eq_ok.mpr ⟨_, divided, rfl⟩⟩

section

variable {smaller larger : Int}

theorem converted_mono (rate : 0 < fx.referenceToSettlementNanos)
    (less : smaller ≤ larger) : converted fx smaller ≤ converted fx larger :=
  roundedDiv_mono true (by decide) (mul_le_mul_of_nonneg_right less rate.le)

/-- Rounding up adds what is missing to the next whole nano. -/
theorem converted_lt_converted_iff : converted fx smaller < converted fx larger ↔
      -(smaller * fx.referenceToSettlementNanos) % nanosPerMajorUnit <
        (larger - smaller) * fx.referenceToSettlementNanos := by
  rw [sub_mul]
  unfold converted nanosPerMajorUnit
  rw [roundedDiv_up, roundedDiv_up]
  split_ifs <;> omega

end

/-- One token class: the minimum distance of the rates leaves a nano for
every token. -/
theorem class_spread {buyerRate supplierRate tokens : Int} (tokensNonneg : 0 ≤ tokens)
    (spread : minimumRealtimeRateSpreadNanos ≤ buyerRate - supplierRate) :
    roundedDiv (supplierRate * tokens) 1000000 true + tokens ≤
      roundedDiv (buyerRate * tokens) 1000000 false := by
  have products :
      supplierRate * tokens + minimumRealtimeRateSpreadNanos * tokens ≤ buyerRate * tokens := by
    have scaled := mul_le_mul_of_nonneg_right spread tokensNonneg
    rw [sub_mul] at scaled
    omega
  unfold minimumRealtimeRateSpreadNanos at products
  rw [roundedDiv_up, roundedDiv_down]
  rcases tokensNonneg.eq_or_lt with isZero | pos
  · rw [← isZero]
    simp
  · split_ifs <;> omega

structure TokenRates.Accepted (rates : TokenRates) : Prop where
  buyerInput : 0 < rates.buyerInput
  buyerOutput : 0 < rates.buyerOutput
  supplierInput : 0 < rates.supplierInput
  supplierOutput : 0 < rates.supplierOutput
  inputSpread : minimumRealtimeRateSpreadNanos ≤ rates.buyerInput - rates.supplierInput
  outputSpread : minimumRealtimeRateSpreadNanos ≤ rates.buyerOutput - rates.supplierOutput

def TokenRates.buyerCharge (rates : TokenRates) (prompt completion : Int) : Int :=
  tokenCharge prompt completion rates.buyerInput rates.buyerOutput false

def TokenRates.supplierEntitlement (rates : TokenRates) (prompt completion : Int) : Int :=
  tokenCharge prompt completion rates.supplierInput rates.supplierOutput true

theorem TokenRates.Accepted.spread (accepted : rates.Accepted)
    (promptNonneg : 0 ≤ prompt) (completionNonneg : 0 ≤ completion) :
    rates.supplierEntitlement prompt completion + (prompt + completion) ≤
      rates.buyerCharge prompt completion := by
  have input := class_spread promptNonneg accepted.inputSpread
  have output := class_spread completionNonneg accepted.outputSpread
  unfold TokenRates.supplierEntitlement TokenRates.buyerCharge tokenCharge
  omega

theorem TokenRates.Accepted.ordered (accepted : rates.Accepted)
    (promptNonneg : 0 ≤ prompt) (completionNonneg : 0 ≤ completion) :
    0 ≤ rates.supplierEntitlement prompt completion ∧
      rates.supplierEntitlement prompt completion ≤ rates.buyerCharge prompt completion := by
  have spread := accepted.spread promptNonneg completionNonneg
  refine ⟨?_, by omega⟩
  exact tokenCharge_nonneg true promptNonneg completionNonneg
    accepted.supplierInput.le accepted.supplierOutput.le

theorem positiveRate_ok {rate : Float} {nanos : Int} (valid : positiveRate rate = .ok nanos) :
    nanoRatePerMillionFromFloat rate = .ok nanos ∧ 0 < nanos := by
  obtain ⟨exact, isExact, valid⟩ := bind_eq_ok.mp valid
  obtain ⟨pos, valid⟩ := ite_error_eq_ok.mp valid
  cases valid
  exact ⟨isExact, not_le.mp pos⟩

theorem referenceRates_accepted (read : input.referenceRates = .ok rates) : rates.Accepted := by
  obtain ⟨_, isBuyerInput, read⟩ := bind_eq_ok.mp read
  obtain ⟨_, isBuyerOutput, read⟩ := bind_eq_ok.mp read
  obtain ⟨_, isSupplierInput, read⟩ := bind_eq_ok.mp read
  obtain ⟨_, isSupplierOutput, read⟩ := bind_eq_ok.mp read
  obtain ⟨_, valid, read⟩ := bind_eq_ok.mp read
  cases read
  obtain ⟨_, first, valid⟩ := bind_eq_ok.mp valid
  obtain ⟨_, second, valid⟩ := bind_eq_ok.mp valid
  obtain ⟨_, third, valid⟩ := bind_eq_ok.mp valid
  obtain ⟨_, fourth, valid⟩ := bind_eq_ok.mp valid
  obtain ⟨spread, _⟩ := ite_error_eq_ok.mp valid
  push Not at spread
  obtain ⟨sameFirst, firstPositive⟩ := positiveRate_ok first
  obtain ⟨sameSecond, secondPositive⟩ := positiveRate_ok second
  obtain ⟨sameThird, thirdPositive⟩ := positiveRate_ok third
  obtain ⟨sameFourth, fourthPositive⟩ := positiveRate_ok fourth
  obtain rfl := Except.ok.inj (isBuyerInput.symm.trans sameFirst)
  obtain rfl := Except.ok.inj (isBuyerOutput.symm.trans sameSecond)
  obtain rfl := Except.ok.inj (isSupplierInput.symm.trans sameThird)
  obtain rfl := Except.ok.inj (isSupplierOutput.symm.trans sameFourth)
  exact ⟨firstPositive, secondPositive, thirdPositive, fourthPositive, spread.1, spread.2⟩

/-- What a frozen decision guarantees: the authority is valid, and the largest
charge fits and is the accepted ceiling. -/
structure FrozenRates (decision : PricingDecision) (fx : RealtimeFXAuthority)
    (rates : TokenRates) : Prop where
  version : decision.realtime.version = 2
  sameFX : decision.realtime.fx = some fx
  valid : validateRealtimePricingAuthority decision.realtime decision.realtime.currency = .ok ()
  validFX : validateRealtimeFXAuthority fx decision.realtime.currency = .ok ()
  accepted : rates.Accepted
  buyerInput : decision.realtime.buyerInputReferenceNanosPerMillion = rates.buyerInput
  buyerOutput : decision.realtime.buyerOutputReferenceNanosPerMillion = rates.buyerOutput
  supplierInput : decision.realtime.supplierInputReferenceNanosPerMillion = rates.supplierInput
  supplierOutput : decision.realtime.supplierOutputReferenceNanosPerMillion = rates.supplierOutput
  bounds : 0 < decision.realtime.maximumPromptTokens ∧ 0 < decision.realtime.maximumCompletionTokens
  maximum :
    rates.buyerCharge decision.realtime.maximumPromptTokens
      decision.realtime.maximumCompletionTokens ≤ maxInt64
  ceiling :
    decision.fixedPoint.acceptedCeilingNanos =
      converted fx
        (rates.buyerCharge decision.realtime.maximumPromptTokens
          decision.realtime.maximumCompletionTokens)
  ceilingFits : decision.fixedPoint.acceptedCeilingNanos ≤ maxInt64

theorem fxAuthority_valid (loaded : input.fxAuthority deployment = .ok fx) :
    validateRealtimeFXAuthority fx input.currency = .ok () := by
  unfold RealtimePricingInputs.fxAuthority at loaded
  split at loaded
  · obtain ⟨_, _, loaded⟩ := bind_eq_ok.mp loaded
    obtain ⟨_, _, loaded⟩ := bind_eq_ok.mp loaded
    obtain ⟨_, loaded⟩ := ite_error_eq_ok.mp loaded
    obtain ⟨valid, loaded⟩ := check_bind_eq_ok.mp loaded
    cases loaded
    exact valid
  · obtain ⟨valid, loaded⟩ := check_bind_eq_ok.mp loaded
    cases loaded
    exact valid

theorem validateRealtimePricingAuthority_bounds {authority : RealtimePricingAuthority}
    {currency : Currency} (valid : validateRealtimePricingAuthority authority currency = .ok ()) :
    0 < authority.maximumPromptTokens ∧ 0 < authority.maximumCompletionTokens := by
  obtain ⟨_, valid⟩ := ite_error_eq_ok.mp valid
  obtain ⟨_, _, valid⟩ := bind_eq_ok.mp valid
  obtain ⟨_, valid⟩ := ite_error_eq_ok.mp valid
  obtain ⟨bounds, _⟩ := ite_error_eq_ok.mp valid
  push Not at bounds
  exact ⟨bounds.1, bounds.2.1⟩

theorem newRealtimePricingDecision_ok
    (frozen : newRealtimePricingDecision deployment input = .ok decision) :
    ∃ fx rates, FrozenRates decision fx rates := by
  obtain ⟨_, frozen⟩ := ite_error_eq_ok.mp frozen
  obtain ⟨_, frozen⟩ := ite_error_eq_ok.mp frozen
  obtain ⟨fx, loaded, frozen⟩ := bind_eq_ok.mp frozen
  obtain ⟨rates, read, frozen⟩ := bind_eq_ok.mp frozen
  obtain ⟨_, _, frozen⟩ := bind_eq_ok.mp frozen
  obtain ⟨_, _, frozen⟩ := bind_eq_ok.mp frozen
  obtain ⟨_, isMaximum, frozen⟩ := bind_eq_ok.mp frozen
  obtain ⟨_, _, frozen⟩ := bind_eq_ok.mp frozen
  obtain ⟨_, _, frozen⟩ := bind_eq_ok.mp frozen
  obtain ⟨_, isBuyerMaximum, frozen⟩ := bind_eq_ok.mp frozen
  obtain ⟨_, _, frozen⟩ := bind_eq_ok.mp frozen
  obtain ⟨_, _, frozen⟩ := bind_eq_ok.mp frozen
  obtain ⟨_, _, frozen⟩ := bind_eq_ok.mp frozen
  obtain ⟨valid, frozen⟩ := check_bind_eq_ok.mp frozen
  obtain ⟨_, _, frozen⟩ := bind_eq_ok.mp frozen
  obtain ⟨_, frozen⟩ := ite_error_eq_ok.mp frozen
  obtain ⟨_, frozen⟩ := ite_error_eq_ok.mp frozen
  cases frozen
  have accepted := referenceRates_accepted read
  have validFX := fxAuthority_valid loaded
  obtain ⟨promptBound, completionBound⟩ := validateRealtimePricingAuthority_bounds valid
  have promptBound : 0 < input.maximumPromptTokens := promptBound
  have completionBound : 0 < input.maximumCompletionTokens := completionBound
  obtain ⟨rfl, maximumFits⟩ := (realtimeTokenChargeNanos_eq_ok promptBound.le completionBound.le
      accepted.buyerInput.le accepted.buyerOutput.le).mp isMaximum
  have maximumNonneg := tokenCharge_nonneg false promptBound.le completionBound.le
      accepted.buyerInput.le accepted.buyerOutput.le
  obtain ⟨rfl, ceilingFits⟩ :=
    (convertRealtimeReferenceNanos_eq_ok maximumNonneg validFX).mp isBuyerMaximum
  exact ⟨fx, rates, rfl, rfl, valid, validFX, accepted, rfl, rfl, rfl, rfl,
    ⟨promptBound, completionBound⟩, maximumFits, rfl, ceilingFits⟩

/-- The price of a usage, in the settlement currency. -/
abbrev buyerNanos (fx : RealtimeFXAuthority) (rates : TokenRates) (prompt completion : Int) : Int :=
  converted fx (rates.buyerCharge prompt completion)

@[inherit_doc buyerNanos]
abbrev supplierNanos (fx : RealtimeFXAuthority) (rates : TokenRates) (prompt completion : Int) :
    Int :=
  converted fx (rates.supplierEntitlement prompt completion)

theorem FrozenRates.rate (frozen : FrozenRates decision fx rates) :
    0 < fx.referenceToSettlementNanos :=
  validateRealtimeFXAuthority_positive frozen.validFX

section

variable (frozen : FrozenRates decision fx rates)
  (promptBounds : 0 ≤ prompt ∧ prompt ≤ decision.realtime.maximumPromptTokens)
  (completionBounds : 0 ≤ completion ∧ completion ≤ decision.realtime.maximumCompletionTokens)

include frozen promptBounds completionBounds

theorem FrozenRates.ordered : 0 ≤ supplierNanos fx rates prompt completion ∧
    supplierNanos fx rates prompt completion ≤ buyerNanos fx rates prompt completion := by
  obtain ⟨nonneg, less⟩ := frozen.accepted.ordered promptBounds.1 completionBounds.1
  refine ⟨?_, converted_mono frozen.rate less⟩
  exact roundedDiv_nonneg (mul_nonneg nonneg frozen.rate.le) (by decide)

theorem FrozenRates.money :
    realtimePhysicalMoneyFromAuthority decision.realtime prompt completion =
        .ok (⟨decision.realtime.currency, buyerNanos fx rates prompt completion⟩,
          ⟨decision.realtime.currency, supplierNanos fx rates prompt completion⟩) ∧
      buyerNanos fx rates prompt completion ≤ decision.fixedPoint.acceptedCeilingNanos := by
  have accepted := frozen.accepted
  obtain ⟨supplierNonneg, supplierLess⟩ := accepted.ordered promptBounds.1 completionBounds.1
  have buyerLess : rates.buyerCharge prompt completion ≤ _ :=
    tokenCharge_mono false accepted.buyerInput.le accepted.buyerOutput.le
      promptBounds.2 completionBounds.2
  have ceiling : buyerNanos fx rates prompt completion ≤
      decision.fixedPoint.acceptedCeilingNanos := by
    rw [frozen.ceiling]
    exact converted_mono frozen.rate buyerLess
  have buyerFits := ceiling.trans frozen.ceilingFits
  have supplierFits := (converted_mono frozen.rate supplierLess).trans buyerFits
  have buyer := (convertRealtimeReferenceNanos_eq_ok (supplierNonneg.trans supplierLess)
    frozen.validFX).mpr ⟨rfl, buyerFits⟩
  have supplier :=
    (convertRealtimeReferenceNanos_eq_ok supplierNonneg frozen.validFX).mpr ⟨rfl, supplierFits⟩
  refine ⟨?_, ceiling⟩
  unfold realtimePhysicalMoneyFromAuthority
  rw [frozen.valid, frozen.version, frozen.sameFX, frozen.buyerInput,
    frozen.buyerOutput, frozen.supplierInput, frozen.supplierOutput]
  refine bind_eq_ok.mpr ⟨(), rfl, ?_⟩
  refine bind_eq_ok.mpr ⟨_, (realtimeTokenChargeNanos_eq_ok promptBounds.1 completionBounds.1
    accepted.buyerInput.le accepted.buyerOutput.le).mpr ⟨rfl, buyerLess.trans frozen.maximum⟩, ?_⟩
  refine bind_eq_ok.mpr ⟨_, (realtimeTokenChargeNanos_eq_ok promptBounds.1 completionBounds.1
    accepted.supplierInput.le accepted.supplierOutput.le).mpr
      ⟨rfl, supplierLess.trans (buyerLess.trans frozen.maximum)⟩, ?_⟩
  refine bind_eq_ok.mpr ⟨_, buyer, ?_⟩
  exact bind_eq_ok.mpr ⟨_, supplier, rfl⟩

end

/-- Both amounts can be computed, are in order and keep to the ceiling, and
the ledger can book them. -/
def UsageSettles (decision : PricingDecision) (promptTokens completionTokens : Int) : Prop :=
  ∃ buyer supplier,
    realtimePhysicalMoneyFromAuthority decision.realtime promptTokens
        completionTokens = .ok (buyer, supplier) ∧
      0 < buyer.nanos ∧
      0 < buyer.nanos - supplier.nanos ∧
      buyer.nanos ≤ decision.fixedPoint.acceptedCeilingNanos ∧
      ∃ supplierMicros buyerMicros,
        ledgerMicrosFromNanos supplier = .ok supplierMicros ∧
          ledgerMicrosFromNanos buyer = .ok buyerMicros ∧
          supplierMicros ≤ buyerMicros

/-- The supplier's entitlement lacks less to the next whole settlement nano
than the spread is worth after the exchange. -/
def ConversionKeepsSpread (authority : RealtimePricingAuthority)
    (promptTokens completionTokens : Int) : Prop :=
  let supplier :=
    tokenCharge promptTokens completionTokens authority.supplierInputReferenceNanosPerMillion
      authority.supplierOutputReferenceNanosPerMillion true
  let buyer :=
    tokenCharge promptTokens completionTokens authority.buyerInputReferenceNanosPerMillion
      authority.buyerOutputReferenceNanosPerMillion false
  ∀ fx ∈ authority.fx,
    -(supplier * fx.referenceToSettlementNanos) % nanosPerMajorUnit <
      (buyer - supplier) * fx.referenceToSettlementNanos

theorem FrozenRates.keepsSpread (frozen : FrozenRates decision fx rates)
    (promptNonneg : 0 ≤ prompt) (completionNonneg : 0 ≤ completion)
    (large : nanosPerMajorUnit ≤ (prompt + completion) * fx.referenceToSettlementNanos) :
    supplierNanos fx rates prompt completion < buyerNanos fx rates prompt completion := by
  have spread := frozen.accepted.spread promptNonneg completionNonneg
  have scaled : (prompt + completion) * fx.referenceToSettlementNanos ≤
        (rates.buyerCharge prompt completion - rates.supplierEntitlement prompt completion) *
          fx.referenceToSettlementNanos :=
    mul_le_mul_of_nonneg_right (by omega) frozen.rate.le
  have missing := Int.emod_lt_of_pos
      (-(rates.supplierEntitlement prompt completion * fx.referenceToSettlementNanos))
      (show 0 < nanosPerMajorUnit by decide)
  exact converted_lt_converted_iff.mpr (missing.trans_le (large.trans scaled))

section

variable (frozen : FrozenRates decision fx rates)

include frozen

theorem FrozenRates.keeps_iff : ConversionKeepsSpread decision.realtime prompt completion ↔
    supplierNanos fx rates prompt completion < buyerNanos fx rates prompt completion := by
  rw [converted_lt_converted_iff]
  unfold ConversionKeepsSpread
  rw [frozen.sameFX, frozen.buyerInput, frozen.buyerOutput,
    frozen.supplierInput, frozen.supplierOutput]
  simp only [Option.mem_def, Option.some.injEq, forall_eq']
  rfl

variable (promptBounds : 0 ≤ prompt ∧ prompt ≤ decision.realtime.maximumPromptTokens)
  (completionBounds : 0 ≤ completion ∧ completion ≤ decision.realtime.maximumCompletionTokens)

include promptBounds completionBounds

theorem FrozenRates.settles_iff : UsageSettles decision prompt completion ↔
    supplierNanos fx rates prompt completion < buyerNanos fx rates prompt completion := by
  obtain ⟨money, ceiling⟩ := frozen.money promptBounds completionBounds
  obtain ⟨nonneg, ordered⟩ := frozen.ordered promptBounds completionBounds
  constructor
  · rintro ⟨_, _, computed, _, pos, _⟩
    obtain ⟨rfl, rfl⟩ := Prod.mk.inj (Except.ok.inj (money.symm.trans computed))
    exact sub_pos.mp pos
  · intro pos
    exact ⟨_, _, money, nonneg.trans_lt pos, sub_pos.mpr pos,
      ceiling, ledgerMicrosFromNanos_mono nonneg ordered⟩

theorem FrozenRates.finalizes_iff :
    (∃ settlement, finalizeRealtimeSuccess decision prompt completion = .ok settlement) ↔
      UsageSettles decision prompt completion := by
  obtain ⟨money, ceiling⟩ := frozen.money promptBounds completionBounds
  obtain ⟨nonneg, ordered⟩ := frozen.ordered promptBounds completionBounds
  have buyerFits := ceiling.trans frozen.ceilingFits
  let buyer : MoneyNanos := ⟨decision.realtime.currency, buyerNanos fx rates prompt completion⟩
  let supplier : MoneyNanos :=
    ⟨decision.realtime.currency, supplierNanos fx rates prompt completion⟩
  have subtracted : buyer.sub supplier = _ :=
    MoneyNanos.sub_of_range ⟨nonneg.trans ordered, buyerFits⟩ ⟨nonneg, ordered.trans buyerFits⟩
  obtain ⟨supplierMicros, buyerMicros, supplierBooked, buyerBooked, less⟩ :=
    @ledgerMicrosFromNanos_mono supplier buyer nonneg ordered
  rw [frozen.settles_iff promptBounds completionBounds]
  constructor
  · rintro ⟨settlement, ran⟩
    obtain ⟨_, ran⟩ := ite_error_eq_ok.mp ran
    obtain ⟨_, computed, ran⟩ := bind_eq_ok.mp ran
    obtain rfl := Except.ok.inj (money.symm.trans computed)
    obtain ⟨_, ran⟩ := ite_error_eq_ok.mp ran
    obtain ⟨_, ran⟩ := ite_error_eq_ok.mp ran
    obtain ⟨_, isContribution, ran⟩ := bind_eq_ok.mp ran
    obtain rfl := Except.ok.inj (subtracted.symm.trans isContribution)
    obtain ⟨pos, _⟩ := ite_error_eq_ok.mp ran
    exact sub_pos.mp (not_le.mp pos)
  · intro pos
    refine ⟨⟨buyer, supplier, buyerMicros, supplierMicros, buyerMicros - supplierMicros⟩, ?_⟩
    refine ite_error_eq_ok.mpr ⟨by omega, ?_⟩
    refine bind_eq_ok.mpr ⟨_, money, ?_⟩
    refine ite_error_eq_ok.mpr ⟨(nonneg.trans_lt pos).not_ge, ?_⟩
    refine ite_error_eq_ok.mpr ⟨ceiling.not_gt, ?_⟩
    refine bind_eq_ok.mpr ⟨_, subtracted, ?_⟩
    refine ite_error_eq_ok.mpr ⟨(sub_pos.mpr pos).not_ge, ?_⟩
    refine bind_eq_ok.mpr ⟨_, buyerBooked, ?_⟩
    refine bind_eq_ok.mpr ⟨_, supplierBooked, ?_⟩
    exact ite_error_eq_ok.mpr ⟨less.not_gt, rfl⟩

end

/-- For a frozen decision and a usage within its bounds: the usage settles
exactly when the conversion keeps the spread, and then the finalize transaction
commits.  For an exchange rate of at least one every usage settles. -/
theorem usage_settles_iff (deployment : Deployment)
    (input : RealtimePricingInputs) (decision : PricingDecision)
    (frozen : newRealtimePricingDecision deployment input = .ok decision)
    (promptTokens completionTokens : Int)
    (promptBounds : 0 ≤ promptTokens ∧ promptTokens ≤ decision.realtime.maximumPromptTokens)
    (completionBounds : 0 ≤ completionTokens ∧
      completionTokens ≤ decision.realtime.maximumCompletionTokens) :
    (UsageSettles decision promptTokens completionTokens ↔
      ConversionKeepsSpread decision.realtime promptTokens completionTokens) ∧
      (UsageSettles decision promptTokens completionTokens ↔
        ∃ settlement,
          finalizeRealtimeSuccess decision promptTokens completionTokens = .ok settlement) ∧
      ((∃ fx ∈ decision.realtime.fx,
          nanosPerMajorUnit ≤ (promptTokens + completionTokens) * fx.referenceToSettlementNanos) →
        UsageSettles decision promptTokens completionTokens) := by
  obtain ⟨fx, _, frozen⟩ := newRealtimePricingDecision_ok frozen
  have settles := frozen.settles_iff promptBounds completionBounds
  refine ⟨settles.trans frozen.keeps_iff.symm,
    (frozen.finalizes_iff promptBounds completionBounds).symm, ?_⟩
  rintro ⟨_, isOther, large⟩
  rw [frozen.sameFX] at isOther
  obtain rfl := Option.some.inj isOther
  exact settles.mpr (frozen.keepsSpread promptBounds.1 completionBounds.1 large)

def cadDeployment : Deployment where
  settlementCurrency := .cad
  priceFX := none

def cadOffer (rate : Float) (nanos : Int) : RealtimePricingInputs where
  buyerInputRate := 0.12451171875
  buyerOutputRate := 0.5
  supplierInputRate := 0.1220703125
  supplierOutputRate := 0.25
  identities := true
  maximumPromptTokens := 4096
  maximumCompletionTokens := 1024
  estimatedPromptTokens := 100
  estimatedCompletionTokens := 100
  buyerDeclaredCeiling := 0
  buyerDeclaredCeilingReferenceNanos := 0
  fx := some
    { version := 1
      referenceCurrency := .usd
      settlementCurrency := .cad
      referenceToSettlementRate := rate
      referenceToSettlementNanos := nanos
      fxRevision := "boc-noon-7"
      roundingPolicy := .referenceChargeThenFxNanosV1 }
  currency := .cad

structure OneToken where
  maximumPromptTokens : Int
  maximumCompletionTokens : Int
  fxNanos : Option Int
  money : Except Failure (MoneyNanos × MoneyNanos)
  deriving DecidableEq

def oneToken (decision : PricingDecision) : OneToken where
  maximumPromptTokens := decision.realtime.maximumPromptTokens
  maximumCompletionTokens := decision.realtime.maximumCompletionTokens
  fxNanos := decision.realtime.fx.map RealtimeFXAuthority.referenceToSettlementNanos
  money := realtimePhysicalMoneyFromAuthority decision.realtime 1 0

theorem exists_decision {facts : OneToken} (computed :
      (newRealtimePricingDecision cadDeployment input).toOption.map oneToken = some facts) :
    ∃ decision, newRealtimePricingDecision cadDeployment input =
      .ok decision ∧ oneToken decision = facts := by
  cases frozen : newRealtimePricingDecision cadDeployment input with
  | error =>
    rw [frozen] at computed
    cases computed
  | ok decision =>
    rw [frozen] at computed
    exact ⟨decision, rfl, Option.some.inj computed⟩

/-- At 1.25 Canadian dollars, one token settles. -/
theorem cadOffer_settles :
    ∃ decision,
      newRealtimePricingDecision cadDeployment (cadOffer 1.25 1250000000) = .ok decision ∧
        UsageSettles decision 1 0 := by
  obtain ⟨decision, frozen, facts⟩ := exists_decision (show
        (newRealtimePricingDecision cadDeployment
          (cadOffer 1.25 1250000000)).toOption.map oneToken =
            some ⟨4096, 1024, some 1250000000, .ok (⟨.cad, 155⟩, ⟨.cad, 154⟩)⟩ by
        decide +kernel)
  have prompt : decision.realtime.maximumPromptTokens = 4096 :=
    congrArg OneToken.maximumPromptTokens facts
  have completion : decision.realtime.maximumCompletionTokens = 1024 :=
    congrArg OneToken.maximumCompletionTokens facts
  obtain ⟨fx, isFX, nanos⟩ := Option.map_eq_some_iff.mp (congrArg OneToken.fxNanos facts)
  have settles := usage_settles_iff cadDeployment (cadOffer 1.25 1250000000) decision
      frozen 1 0 (by omega) (by omega)
  refine ⟨decision, frozen, settles.2.2 ⟨fx, isFX, ?_⟩⟩
  rw [nanos]
  decide

/-- At 0.75 Canadian dollars, 124 nanos for the buyer and 123 for the supplier
both become 93, and nothing is left of the spread. -/
theorem one_token_loses_spread :
    ∃ decision,
      newRealtimePricingDecision cadDeployment (cadOffer 0.75 750000000) = .ok decision ∧
        1 ≤ decision.realtime.maximumPromptTokens ∧
        realtimePhysicalMoneyFromAuthority decision.realtime 1 0 = .ok (⟨.cad, 93⟩, ⟨.cad, 93⟩) ∧
        ¬ UsageSettles decision 1 0 := by
  obtain ⟨decision, frozen, facts⟩ := exists_decision (show
        (newRealtimePricingDecision cadDeployment (cadOffer 0.75 750000000)).toOption.map oneToken =
            some ⟨4096, 1024, some 750000000, .ok (⟨.cad, 93⟩, ⟨.cad, 93⟩)⟩ by
        decide +kernel)
  have prompt : decision.realtime.maximumPromptTokens = 4096 :=
    congrArg OneToken.maximumPromptTokens facts
  have money :
      realtimePhysicalMoneyFromAuthority decision.realtime 1 0 = .ok (⟨.cad, 93⟩, ⟨.cad, 93⟩) :=
    congrArg OneToken.money facts
  refine ⟨decision, frozen, by omega, money, ?_⟩
  rintro ⟨_, _, computed, _, positive, _⟩
  obtain ⟨rfl, rfl⟩ := Prod.mk.inj (Except.ok.inj (money.symm.trans computed))
  exact lt_irrefl _ positive

end MercControl.Pricing
