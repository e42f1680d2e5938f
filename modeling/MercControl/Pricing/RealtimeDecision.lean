import MercControl.Pricing.ExactMoney

/-!
# Realtime pricing decisions

A realtime request freezes a pricing decision before it runs: the rates in the
reference currency, the exchange rate, the bounds on the tokens, and the
ceiling that the buyer accepts.

A runtime profile, an offer and a placement are represented by their rates.
Whether their digests bind each other is one flag of the inputs.
-/

namespace MercControl.Pricing

open Library

inductive RoundingPolicy
  | referenceChargeThenFxNanosV1
  | realtimeTokenReferenceFxNanosV2
  | realtimeTokenNanosV1
  deriving DecidableEq

def realtimeReferenceCurrency : Currency := .usd

structure RealtimeFXAuthority where
  version : Nat
  referenceCurrency : Currency
  settlementCurrency : Currency
  referenceToSettlementRate : Float
  referenceToSettlementNanos : Int
  fxRevision : String
  roundingPolicy : RoundingPolicy

def isSpace (char : Char) : Bool :=
  char.toNat ∈
    [0x09, 0x0a, 0x0b, 0x0c, 0x0d, 0x20, 0x85, 0xa0, 0x1680, 0x2000, 0x2001,
     0x2002, 0x2003, 0x2004, 0x2005, 0x2006, 0x2007, 0x2008, 0x2009, 0x200a,
     0x2028, 0x2029, 0x202f, 0x205f, 0x3000]

/-- One line of at most 128 bytes that is not blank. -/
def validFXRevision (revision : String) : Bool :=
  !revision.toList.all isSpace && decide (revision.utf8ByteSize ≤ 128) &&
    revision.toList.all (fun char => char ∉ ['\r', '\n', '\t'])

def identityPrefix : String := "identity-"

def validateRealtimeFXAuthority (authority : RealtimeFXAuthority)
    (settlement : Currency) : Except Failure Unit :=
  if authority.version ≠ 1 ∨ authority.referenceCurrency ≠ realtimeReferenceCurrency ∨
      authority.settlementCurrency ≠ settlement ∨
      authority.roundingPolicy ≠ .referenceChargeThenFxNanosV1 then
    .error .unsupportedAuthority
  else if !finiteNonNegative authority.referenceToSettlementRate ∨
      authority.referenceToSettlementRate ≤ 0 ∨
      authority.referenceToSettlementNanos ≤ 0 then
    .error .invalidRate
  else
    (nanoRatePerMillionFromFloat authority.referenceToSettlementRate).bind fun canonical =>
    if canonical ≠ authority.referenceToSettlementNanos then .error .invalidRate
    else if !validFXRevision authority.fxRevision then .error .invalidRevision
    else if authority.referenceCurrency = authority.settlementCurrency then
      if authority.referenceToSettlementNanos ≠ nanosPerMajorUnit ∨
          authority.referenceToSettlementRate != 1 ∨
          authority.fxRevision ≠ identityPrefix ++ authority.referenceCurrency.code then
        .error .notIdentity
      else .ok ()
    else if identityPrefix.toList.isPrefixOf authority.fxRevision.toList then
      .error .notIdentity
    else .ok ()

/-- What a deployment is configured with: its currency, and the exchange rate
and revision of an operator. -/
structure Deployment where
  settlementCurrency : Currency
  priceFX : Option (Float × String)

def catalogueFXAuthority (deployment : Deployment)
    (reference settlement : Currency) : Except Failure (Float × String) :=
  if reference = settlement then .ok (1, identityPrefix ++ reference.code)
  else
    match deployment.priceFX with
    | none => .error .missingFXAuthority
    | some (rate, revision) =>
      if rate ≤ 0 ∨ rate.isNaN ∨ rate.isInf then .error .invalidRate
      else if !validFXRevision revision then .error .invalidRevision
      else .ok (rate, revision)

def loadRealtimeFXAuthority (deployment : Deployment)
    (settlement : Currency) : Except Failure RealtimeFXAuthority :=
  (catalogueFXAuthority deployment realtimeReferenceCurrency settlement).bind fun governed =>
  (nanoRatePerMillionFromFloat governed.1).bind fun exact =>
  let authority : RealtimeFXAuthority :=
    { version := 1
      referenceCurrency := realtimeReferenceCurrency
      settlementCurrency := settlement
      referenceToSettlementRate := governed.1
      referenceToSettlementNanos := exact
      fxRevision := governed.2
      roundingPolicy := .referenceChargeThenFxNanosV1 }
  if exact ≤ 0 then .error .invalidRate
  else (validateRealtimeFXAuthority authority settlement).bind fun _ => .ok authority

def convertRealtimeReferenceNanos (referenceNanos : Int)
    (settlement : Currency) (fx : RealtimeFXAuthority) (roundUp : Bool) :
    Except Failure MoneyNanos :=
  if referenceNanos < 0 then .error .negativeAmount
  else
    (validateRealtimeFXAuthority fx settlement).bind fun _ =>
    (mulDiv referenceNanos fx.referenceToSettlementNanos nanosPerMajorUnit
      roundUp).bind fun nanos => .ok { currency := settlement, nanos }

def convertRealtimeReferenceRate (referenceRate : Int)
    (settlement : Currency) (fx : RealtimeFXAuthority) :
    Except Failure Int :=
  (convertRealtimeReferenceNanos referenceRate settlement fx true).bind fun converted =>
  if converted.nanos ≤ 0 then .error .collapsedRate else .ok converted.nanos

def realtimeReferenceTokenCharge (prompt completion inputRate outputRate : Int) (supplier : Bool) :
    Except Failure MoneyNanos :=
  if supplier then
    supplierRealtimeTokenEntitlementNanos realtimeReferenceCurrency prompt
      completion inputRate outputRate
  else
    buyerRealtimeTokenChargeNanos realtimeReferenceCurrency prompt completion inputRate outputRate

def minimumRealtimeRateSpreadNanos : Int := 2 * 1000000

def positiveRate (rate : Float) : Except Failure Int :=
  (nanoRatePerMillionFromFloat rate).bind fun nanos =>
  if nanos ≤ 0 then .error .offerRates else .ok nanos

def validateRealtimeOfferRates
    (buyerInputRate buyerOutputRate supplierInputRate
      supplierOutputRate : Float) : Except Failure Unit :=
  (positiveRate buyerInputRate).bind fun buyerInput =>
  (positiveRate buyerOutputRate).bind fun buyerOutput =>
  (positiveRate supplierInputRate).bind fun supplierInput =>
  (positiveRate supplierOutputRate).bind fun supplierOutput =>
  if buyerInput - supplierInput < minimumRealtimeRateSpreadNanos ∨
      buyerOutput - supplierOutput < minimumRealtimeRateSpreadNanos then
    .error .offerRates
  else .ok ()

/-- The profile, plan and request digests are the flag `identities`. -/
structure RealtimePricingAuthority where
  version : Nat
  currency : Currency
  referenceCurrency : Option Currency
  settlementCurrency : Option Currency
  fx : Option RealtimeFXAuthority
  identities : Bool
  maximumPromptTokens : Int
  maximumCompletionTokens : Int
  estimatedPromptTokens : Int
  estimatedCompletionTokens : Int
  buyerInputReferenceNanosPerMillion : Int
  buyerOutputReferenceNanosPerMillion : Int
  supplierInputReferenceNanosPerMillion : Int
  supplierOutputReferenceNanosPerMillion : Int
  buyerInputNanosPerMillion : Int
  buyerOutputNanosPerMillion : Int
  supplierInputNanosPerMillion : Int
  supplierOutputNanosPerMillion : Int
  referenceExpectedBuyerChargeNanos : Int
  referenceMaximumBuyerChargeNanos : Int
  buyerDeclaredCeilingReferenceNanos : Int
  buyerDeclaredCeilingNanos : Int
  roundingPolicy : RoundingPolicy

def validateConvertedRate (fx : RealtimeFXAuthority) (settlement : Currency)
    (reference converted : Int) : Except Failure Unit :=
  (convertRealtimeReferenceRate reference settlement fx).bind fun rate =>
  if rate ≠ converted then .error .invalidRate else .ok ()

def RealtimePricingAuthority.validateVersion
    (authority : RealtimePricingAuthority) (currency : Currency) :
    Except Failure Unit :=
  match authority.version with
  | 1 =>
    if authority.roundingPolicy ≠ .realtimeTokenNanosV1 ∨ authority.referenceCurrency.isSome ∨
        authority.settlementCurrency.isSome ∨ authority.fx.isSome ∨
        authority.buyerInputReferenceNanosPerMillion ≠ 0 ∨
        authority.buyerOutputReferenceNanosPerMillion ≠ 0 ∨
        authority.supplierInputReferenceNanosPerMillion ≠ 0 ∨
        authority.supplierOutputReferenceNanosPerMillion ≠ 0 ∨
        authority.referenceExpectedBuyerChargeNanos ≠ 0 ∨
        authority.referenceMaximumBuyerChargeNanos ≠ 0 ∨
        authority.buyerDeclaredCeilingReferenceNanos ≠ 0 then
      .error .unsupportedAuthority
    else .ok ()
  | 2 =>
    if authority.referenceCurrency ≠ some realtimeReferenceCurrency ∨
        authority.settlementCurrency ≠ some currency ∨
        authority.roundingPolicy ≠ .realtimeTokenReferenceFxNanosV2 then
      .error .unsupportedAuthority
    else
      match authority.fx with
      | none => .error .missingFXAuthority
      | some fx =>
        (validateRealtimeFXAuthority fx currency).bind fun _ =>
        if some fx.referenceCurrency ≠ authority.referenceCurrency ∨
            some fx.settlementCurrency ≠ authority.settlementCurrency then
          .error .unsupportedAuthority
        else .ok ()
  | _ => .error .unsupportedAuthority

def RealtimePricingAuthority.validateReference
    (authority : RealtimePricingAuthority) (currency : Currency) :
    Except Failure Unit :=
  match authority.fx with
  | none => .error .missingFXAuthority
  | some fx =>
    if authority.buyerInputReferenceNanosPerMillion ≤ 0 ∨
        authority.buyerOutputReferenceNanosPerMillion ≤ 0 ∨
        authority.supplierInputReferenceNanosPerMillion ≤ 0 ∨
        authority.supplierOutputReferenceNanosPerMillion ≤ 0 ∨
        authority.referenceExpectedBuyerChargeNanos ≤ 0 ∨
        authority.referenceMaximumBuyerChargeNanos <
          authority.referenceExpectedBuyerChargeNanos then
      .error .invalidRate
    else
      (validateConvertedRate fx currency authority.buyerInputReferenceNanosPerMillion
        authority.buyerInputNanosPerMillion).bind fun _ =>
      (validateConvertedRate fx currency authority.buyerOutputReferenceNanosPerMillion
        authority.buyerOutputNanosPerMillion).bind fun _ =>
      (validateConvertedRate fx currency authority.supplierInputReferenceNanosPerMillion
        authority.supplierInputNanosPerMillion).bind fun _ =>
      (validateConvertedRate fx currency authority.supplierOutputReferenceNanosPerMillion
        authority.supplierOutputNanosPerMillion).bind fun _ =>
      if (authority.buyerDeclaredCeilingReferenceNanos = 0) ≠
          (authority.buyerDeclaredCeilingNanos = 0) then
        .error .invalidCeiling
      else if 0 < authority.buyerDeclaredCeilingReferenceNanos then
        (convertRealtimeReferenceNanos authority.buyerDeclaredCeilingReferenceNanos currency fx
          false).bind fun converted =>
            if converted.nanos ≠ authority.buyerDeclaredCeilingNanos then .error .invalidCeiling
            else .ok ()
      else .ok ()

def validateRealtimePricingAuthority (authority : RealtimePricingAuthority)
    (currency : Currency) : Except Failure Unit :=
  if authority.currency ≠ currency then .error .currencyMismatch
  else
    (authority.validateVersion currency).bind fun _ =>
    if !authority.identities then .error .missingIdentities
    else if authority.maximumPromptTokens ≤ 0 ∨ authority.maximumCompletionTokens ≤ 0 ∨
        authority.estimatedPromptTokens ≤ 0 ∨
        authority.estimatedCompletionTokens ≤ 0 ∨
        authority.maximumPromptTokens < authority.estimatedPromptTokens ∨
        authority.maximumCompletionTokens < authority.estimatedCompletionTokens then
      .error .invalidTokenBounds
    else if authority.buyerInputNanosPerMillion ≤ 0 ∨ authority.buyerOutputNanosPerMillion ≤ 0 ∨
        authority.supplierInputNanosPerMillion ≤ 0 ∨
        authority.supplierOutputNanosPerMillion ≤ 0 then
      .error .invalidRate
    else if authority.buyerDeclaredCeilingNanos < 0 ∨
        authority.buyerDeclaredCeilingReferenceNanos < 0 then
      .error .invalidCeiling
    else if authority.version = 2 then authority.validateReference currency
    else .ok ()

/-- The first two rates come from the runtime profile, the other two from the
offer; an absent exchange authority is the zero value. -/
structure RealtimePricingInputs where
  buyerInputRate : Float
  buyerOutputRate : Float
  supplierInputRate : Float
  supplierOutputRate : Float
  identities : Bool
  maximumPromptTokens : Int
  maximumCompletionTokens : Int
  estimatedPromptTokens : Int
  estimatedCompletionTokens : Int
  buyerDeclaredCeiling : Float
  buyerDeclaredCeilingReferenceNanos : Int
  fx : Option RealtimeFXAuthority
  currency : Currency

structure FixedPointPricingDecision where
  currency : Currency
  buyerChargeNanos : Int
  acceptedCeilingNanos : Int
  supplierEntitlementsNanos : Int
  mercGrossSpreadNanos : Int

structure PricingDecision where
  currency : Currency
  realtime : RealtimePricingAuthority
  fixedPoint : FixedPointPricingDecision

def RealtimePricingInputs.fxAuthority (input : RealtimePricingInputs)
    (deployment : Deployment) : Except Failure RealtimeFXAuthority :=
  match input.fx with
  | none => loadRealtimeFXAuthority deployment input.currency
  | some fx => (validateRealtimeFXAuthority fx input.currency).bind fun _ => .ok fx

def referenceCeilingNanosFromLegacyFloat (value : Float) : Except Failure Int :=
  if value == 0 then .ok 0
  else if !finiteNonNegative value then .error .invalidCeiling
  else
    (moneyNanosFromUSDFloat realtimeReferenceCurrency value).bind fun reference =>
    if reference.nanos ≤ 0 then .error .invalidCeiling else .ok reference.nanos

def RealtimePricingInputs.referenceCeiling (input : RealtimePricingInputs) : Except Failure Int :=
  let ceiling := input.buyerDeclaredCeilingReferenceNanos
  if ceiling < 0 then .error .invalidCeiling
  else if ceiling = 0 then referenceCeilingNanosFromLegacyFloat input.buyerDeclaredCeiling
  else if input.buyerDeclaredCeiling != 0 ∧
      (!finiteNonNegative input.buyerDeclaredCeiling ∨
        input.buyerDeclaredCeiling != Float.ofInt ceiling / 1000000000) then
    .error .invalidCeiling
  else .ok ceiling

/-- The ceiling in the settlement currency; it is rounded down. -/
def convertCeiling (referenceCeiling : Int) (currency : Currency)
    (fx : RealtimeFXAuthority) : Except Failure Int :=
  if 0 < referenceCeiling then
    (convertRealtimeReferenceNanos referenceCeiling currency fx false).bind
      fun ceiling => .ok ceiling.nanos
  else .ok 0

structure TokenRates where
  buyerInput : Int
  buyerOutput : Int
  supplierInput : Int
  supplierOutput : Int

/-- The rates after `validateRealtimeOfferRates`. -/
def RealtimePricingInputs.referenceRates (input : RealtimePricingInputs) :
    Except Failure TokenRates :=
  (nanoRatePerMillionFromFloat input.buyerInputRate).bind fun buyerInput =>
  (nanoRatePerMillionFromFloat input.buyerOutputRate).bind fun buyerOutput =>
  (nanoRatePerMillionFromFloat input.supplierInputRate).bind fun supplierInput =>
  (nanoRatePerMillionFromFloat input.supplierOutputRate).bind fun supplierOutput =>
  (validateRealtimeOfferRates input.buyerInputRate input.buyerOutputRate
    input.supplierInputRate input.supplierOutputRate).bind fun _ =>
  .ok { buyerInput, buyerOutput, supplierInput, supplierOutput }

def TokenRates.convert (rates : TokenRates) (currency : Currency)
    (fx : RealtimeFXAuthority) : Except Failure TokenRates :=
  (convertRealtimeReferenceRate rates.buyerInput currency fx).bind fun buyerInput =>
  (convertRealtimeReferenceRate rates.buyerOutput currency fx).bind fun buyerOutput =>
  (convertRealtimeReferenceRate rates.supplierInput currency fx).bind fun supplierInput =>
  (convertRealtimeReferenceRate rates.supplierOutput currency fx).bind fun supplierOutput =>
  .ok { buyerInput, buyerOutput, supplierInput, supplierOutput }

def RealtimePricingInputs.authority (input : RealtimePricingInputs)
    (fx : RealtimeFXAuthority) (reference settlement : TokenRates)
    (referenceExpected referenceMaximum referenceCeiling ceiling : Int) :
    RealtimePricingAuthority where
  version := 2
  currency := input.currency
  referenceCurrency := some realtimeReferenceCurrency
  settlementCurrency := some input.currency
  fx := some fx
  identities := input.identities
  maximumPromptTokens := input.maximumPromptTokens
  maximumCompletionTokens := input.maximumCompletionTokens
  estimatedPromptTokens := input.estimatedPromptTokens
  estimatedCompletionTokens := input.estimatedCompletionTokens
  buyerInputReferenceNanosPerMillion := reference.buyerInput
  buyerOutputReferenceNanosPerMillion := reference.buyerOutput
  supplierInputReferenceNanosPerMillion := reference.supplierInput
  supplierOutputReferenceNanosPerMillion := reference.supplierOutput
  buyerInputNanosPerMillion := settlement.buyerInput
  buyerOutputNanosPerMillion := settlement.buyerOutput
  supplierInputNanosPerMillion := settlement.supplierInput
  supplierOutputNanosPerMillion := settlement.supplierOutput
  referenceExpectedBuyerChargeNanos := referenceExpected
  referenceMaximumBuyerChargeNanos := referenceMaximum
  buyerDeclaredCeilingReferenceNanos := referenceCeiling
  buyerDeclaredCeilingNanos := ceiling
  roundingPolicy := .realtimeTokenReferenceFxNanosV2

/-- The prices for display and the comparison of them are left out. -/
def newRealtimePricingDecision (deployment : Deployment)
    (input : RealtimePricingInputs) : Except Failure PricingDecision :=
  if input.currency ≠ deployment.settlementCurrency then .error .currencyMismatch
  else if !input.identities then .error .missingIdentities
  else
    (input.fxAuthority deployment).bind fun fx =>
    input.referenceRates.bind fun reference =>
    (reference.convert input.currency fx).bind fun settlement =>
    (realtimeReferenceTokenCharge input.estimatedPromptTokens
      input.estimatedCompletionTokens reference.buyerInput
      reference.buyerOutput false).bind fun referenceExpected =>
    (realtimeReferenceTokenCharge input.maximumPromptTokens
      input.maximumCompletionTokens reference.buyerInput
      reference.buyerOutput false).bind fun referenceMaximum =>
    (realtimeReferenceTokenCharge input.estimatedPromptTokens
      input.estimatedCompletionTokens reference.supplierInput
      reference.supplierOutput true).bind fun referenceSupplierExpected =>
    (convertRealtimeReferenceNanos referenceExpected.nanos input.currency fx
      true).bind fun buyerExpected =>
    (convertRealtimeReferenceNanos referenceMaximum.nanos input.currency fx
      true).bind fun buyerMaximum =>
    (convertRealtimeReferenceNanos referenceSupplierExpected.nanos
      input.currency fx true).bind fun supplierExpected =>
    input.referenceCeiling.bind fun referenceCeiling =>
    (convertCeiling referenceCeiling input.currency fx).bind fun ceiling =>
    let authority :=
      input.authority fx reference settlement referenceExpected.nanos
        referenceMaximum.nanos referenceCeiling ceiling
    (validateRealtimePricingAuthority authority input.currency).bind fun _ =>
    (buyerExpected.sub supplierExpected).bind fun contribution =>
    if contribution.nanos ≤ 0 ∨ buyerExpected.nanos ≤ 0 ∨ buyerMaximum.nanos < buyerExpected.nanos ∨
        supplierExpected.nanos ≤ 0 then
      .error .notConserved
    else if 0 < referenceCeiling ∧
        (referenceCeiling < referenceMaximum.nanos ∨ ceiling < buyerMaximum.nanos) then
      .error .ceilingExceeded
    else
      .ok
        { currency := input.currency
          realtime := authority
          fixedPoint :=
            { currency := input.currency
              buyerChargeNanos := buyerExpected.nanos
              acceptedCeilingNanos := buyerMaximum.nanos
              supplierEntitlementsNanos := supplierExpected.nanos
              mercGrossSpreadNanos := contribution.nanos } }

def realtimePhysicalMoneyFromAuthority (authority : RealtimePricingAuthority)
    (promptTokens completionTokens : Int) :
    Except Failure (MoneyNanos × MoneyNanos) :=
  (validateRealtimePricingAuthority authority authority.currency).bind fun _ =>
  match authority.version, authority.fx with
  | 1, _ =>
    (buyerRealtimeTokenChargeNanos authority.currency promptTokens
      completionTokens authority.buyerInputNanosPerMillion
      authority.buyerOutputNanosPerMillion).bind fun buyer =>
    (supplierRealtimeTokenEntitlementNanos authority.currency promptTokens completionTokens
      authority.supplierInputNanosPerMillion
      authority.supplierOutputNanosPerMillion).bind fun supplier =>
    .ok (buyer, supplier)
  | 2, some fx =>
    (realtimeReferenceTokenCharge promptTokens completionTokens
      authority.buyerInputReferenceNanosPerMillion
      authority.buyerOutputReferenceNanosPerMillion false).bind fun referenceBuyer =>
    (realtimeReferenceTokenCharge promptTokens completionTokens
      authority.supplierInputReferenceNanosPerMillion
      authority.supplierOutputReferenceNanosPerMillion true).bind fun referenceSupplier =>
    (convertRealtimeReferenceNanos referenceBuyer.nanos
      authority.currency fx true).bind fun buyer =>
    (convertRealtimeReferenceNanos referenceSupplier.nanos
      authority.currency fx true).bind fun supplier =>
    .ok (buyer, supplier)
  | _, _ => .error .unsupportedAuthority

/-- The amounts that `FinalizeRealtimeSuccess` books. -/
structure RealtimeSettlement where
  buyerExact : MoneyNanos
  supplierExact : MoneyNanos
  buyerMicros : Int
  supplierMicros : Int
  platformMicros : Int

/-- The arithmetic of `FinalizeRealtimeSuccess`, for verified usage under a
frozen decision. -/
def finalizeRealtimeSuccess (pricing : PricingDecision) (promptTokens completionTokens : Int) :
    Except Failure RealtimeSettlement :=
  if promptTokens < 0 ∨ completionTokens < 0 ∨ pricing.realtime.maximumPromptTokens < promptTokens ∨
      pricing.realtime.maximumCompletionTokens < completionTokens then
    .error .usageOutOfBounds
  else
    (realtimePhysicalMoneyFromAuthority pricing.realtime promptTokens
      completionTokens).bind fun (buyerExact, supplierExact) =>
    if buyerExact.nanos ≤ 0 then .error .notConserved
    else if pricing.fixedPoint.acceptedCeilingNanos < buyerExact.nanos then .error .ceilingExceeded
    else
      (buyerExact.sub supplierExact).bind fun contributionExact =>
      if contributionExact.nanos ≤ 0 then .error .notConserved
      else
        (ledgerMicrosFromNanos buyerExact).bind fun buyerMicros =>
        (ledgerMicrosFromNanos supplierExact).bind fun supplierMicros =>
        if buyerMicros < supplierMicros then .error .notConserved
        else
          .ok
            { buyerExact, supplierExact, buyerMicros, supplierMicros,
              platformMicros := buyerMicros - supplierMicros }

end MercControl.Pricing
