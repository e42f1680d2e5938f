import MercControl.Library.Machine
import MercControl.Verification.Planner

/-!
# The shape of a decision and its settlement

`PersistVerificationWorkPlan` and `applyVerificationDecision` accept a
decision only if `validateVerificationDecisionShape` does.  The settlement of a
payable decision is built from the frozen economics of the task.
-/

namespace MercControl.Verification

inductive Currency
  | usd
  | cad
  | jpy
  deriving DecidableEq

inductive LedgerKind
  | buyerCharge
  | supplierCredit
  | platformTake
  | clawback
  deriving DecidableEq

inductive PayoutStatus
  | held
  | released
  | clawedBack
  deriving DecidableEq

/-- A ledger row to be written.  Amounts are micro-units; a row without a
currency is one of a plan made before rows had one. -/
structure LedgerEntry where
  kind : LedgerKind
  supplierId : Option Uuid
  buyerId : Option Uuid
  taskId : Option Uuid
  amount : Int
  currency : Option Currency
  payoutStatus : PayoutStatus
  releaseAt : Option Nat
  deriving DecidableEq

/-! ### The settlement of a payable decision -/

structure SettledJob where
  buyerId : Uuid
  currency : Currency
  payoutHoldSecs : Nat

/-- The frozen charge and payout of a task, reduced by its unused output,
within the bounds that `loadObservedOutputSettlement` checks.  Newer tasks
carry the pair in nano-units as well. -/
structure ObservedSettlement where
  billedCharge : Int
  supplierPayout : Int
  nanos : Option (Int × Int)
  charge_pos : 0 < billedCharge
  payout_nonneg : 0 ≤ supplierPayout
  payout_le_charge : supplierPayout ≤ billedCharge

def nanosPerMicro : Int := 1000

/-- A positive amount is rounded half away from zero and is at least one
micro-unit. -/
def projectNanosToMicros (nanos : Int) : Int :=
  if nanos ≤ 0 then 0
  else
    let whole := nanos / nanosPerMicro
    let remainder := nanos % nanosPerMicro
    let rounded := if remainder * 2 ≥ nanosPerMicro then whole + 1 else whole
    if rounded = 0 then 1 else rounded

def minimumPayoutHold : Nat := 24 * 60 * 60

def payoutReleaseAt (now requestedSecs : Nat) : Nat := now + max requestedSecs minimumPayoutHold

def settlementRows (job : SettledJob) (info : CommitTaskInfo)
    (charge payout : Int) (now : Nat) : List LedgerEntry :=
  [{ kind := .buyerCharge
     supplierId := none
     buyerId := some job.buyerId
     taskId := some info.taskId
     amount := -charge
     currency := some job.currency
     payoutStatus := .released
     releaseAt := none },
   { kind := .supplierCredit
     supplierId := some info.supplierId
     buyerId := none
     taskId := some info.taskId
     amount := payout
     currency := some job.currency
     payoutStatus := .held
     releaseAt := some (payoutReleaseAt now job.payoutHoldSecs) },
   { kind := .platformTake
     supplierId := none
     buyerId := none
     taskId := some info.taskId
     amount := charge - payout
     currency := some job.currency
     payoutStatus := .released
     releaseAt := none }]

inductive SettlementError
  | currencyMismatch
  | chargeNotPositive (nanos : Int)
  | payoutNegative (nanos : Int)
  | payoutAboveCharge (payout charge : Int)

def splitFrozenCharge (job : SettledJob) (info : CommitTaskInfo)
    (charge payout : Int) (now : Nat) : List LedgerEntry :=
  settlementRows job info charge payout now

def splitFrozenChargeNanos (job : SettledJob) (info : CommitTaskInfo)
    (chargeNanos payoutNanos : Int) (now : Nat) :
    Except SettlementError (List LedgerEntry) :=
  if chargeNanos ≤ 0 then .error (.chargeNotPositive chargeNanos)
  else if payoutNanos < 0 then .error (.payoutNegative payoutNanos)
  else if payoutNanos > chargeNanos then .error (.payoutAboveCharge payoutNanos chargeNanos)
  else
    let buyerMicros := projectNanosToMicros chargeNanos
    let supplierMicros := projectNanosToMicros payoutNanos
    if supplierMicros > buyerMicros then .error (.payoutAboveCharge supplierMicros buyerMicros)
    else .ok (settlementRows job info buyerMicros supplierMicros now)

def taskPayoutEntriesAt (settlementCurrency : Currency) (job : SettledJob)
    (info : CommitTaskInfo) (settled : ObservedSettlement) (now : Nat) :
    Except SettlementError (List LedgerEntry) :=
  if job.currency ≠ settlementCurrency then .error .currencyMismatch
  else
    match settled.nanos with
    | some (chargeNanos, payoutNanos) => splitFrozenChargeNanos job info chargeNanos payoutNanos now
    | none => .ok (splitFrozenCharge job info settled.billedCharge settled.supplierPayout now)

def decisionSettlement (settlementCurrency : Currency) (job : SettledJob)
    (info : CommitTaskInfo) (settled : ObservedSettlement) (now : Nat)
    (outcome : VerifyOutcome) : Except SettlementError (List LedgerEntry) :=
  if outcome ≠ .fail ∧ outcome ≠ .lossNoPayout then
    taskPayoutEntriesAt settlementCurrency job info settled now
  else .ok []

/-! ### Validation -/

def verificationReputationEventAllowed : ReputationEvent → Bool
  | .taskSuccess => true
  | .honeypotPass => true
  | .redundancyMatch => true
  | .mismatch => true
  | .honeypotFail => true
  | .timeout => true
  | .resultCorrupt => true
  | .artifactOversize => true
  | _ => false

def verificationEventKindAllowed : VerificationEventKind → Bool
  | .honeypotPass => true
  | .honeypotFail => true
  | .redundancyMatch => true
  | .redundancyMismatch => true
  | .redundancyCrossClass => true
  | .redundancySameSupplier => true
  | .tiebreakWin => true
  | .tiebreakLoss => true
  | .tiebreakCrossClass => true
  | .artifactInvalid => true
  | .artifactOversize => true
  | .artifactUnavailable => true
  | _ => false

inductive ShapeError
  | invalidFailure (failure : VerificationFailure)
  | nonCanonicalId (ordinal : Nat)
  | duplicateId (id : Uuid)
  | invalidReputation (supplierId : Uuid) (event : ReputationEvent)
  | invalidEvent (effect : Effect)
  | invalidClawback (effect : Effect)
  | quarantineTarget (supplierId : Uuid)
  | requeueTarget (taskId : Uuid)
  | invalidTiebreak (effect : Effect)
  | failureWithoutEvent (kind : VerificationEventKind)
  | nonPayableEntries (outcome : VerifyOutcome) (count : Nat)
  | payableEntries (outcome : VerifyOutcome) (count : Nat)
  | unboundEntry (kind : LedgerKind)
  | mixedCurrency (first other : Currency)
  | duplicateKind (kind : LedgerKind)
  | invalidSettlement
  deriving DecidableEq

def checkFailure (info : CommitTaskInfo) (decision : VerificationDecision) :
    Except ShapeError Unit :=
  match decision.failure with
  | none => .ok ()
  | some failure =>
    if decision.outcome ≠ .fail ∨ failure.code = "" ∨ failure.jobType ≠ info.jobType ∨
        (failure.kind ≠ .artifactInvalid ∧ failure.kind ≠ .artifactOversize ∧
          failure.kind ≠ .artifactUnavailable) then
      .error (.invalidFailure failure)
    else .ok ()

def checkEffect (info : CommitTaskInfo) (id : Uuid) : Effect → Except ShapeError Unit
  | .dockReputation supplierId event =>
    if supplierId = uuidNil ∨ !verificationReputationEventAllowed event then
      .error (.invalidReputation supplierId event)
    else .ok ()
  | .recordEvent jobId taskId supplierId kind =>
    if jobId ≠ info.jobId ∨ taskId = uuidNil ∨ supplierId = uuidNil ∨
        !verificationEventKindAllowed kind then
      .error (.invalidEvent (.recordEvent jobId taskId supplierId kind))
    else .ok ()
  | .clawbackCredit supplierId taskId =>
    if taskId = uuidNil ∨ supplierId = uuidNil then
      .error (.invalidClawback (.clawbackCredit supplierId taskId))
    else .ok ()
  | .quarantine supplierId =>
    if supplierId ≠ info.supplierId then .error (.quarantineTarget supplierId) else .ok ()
  | .requeue taskId =>
    if taskId ≠ info.taskId then .error (.requeueTarget taskId) else .ok ()
  | .insertTiebreak taskId jobId primaryTaskId peerWorkerId inputRef chunkIndex =>
    if taskId ≠ id ∨ jobId ≠ info.jobId ∨ primaryTaskId ≠ info.taskId ∨
        peerWorkerId = uuidNil ∨ inputRef ≠ info.inputRef ∨
        chunkIndex ≠ info.chunkIndex then
      .error (.invalidTiebreak (.insertTiebreak taskId jobId primaryTaskId
        peerWorkerId inputRef chunkIndex))
    else .ok ()

/-- The loop over the effects, with the position of the next one and the
identifiers seen so far. -/
def checkEffects (ids : EffectIds) (info : CommitTaskInfo) :
    Nat → List Uuid → List VerificationEffect → Except ShapeError Unit
  | _, _, [] => .ok ()
  | ordinal, seen, effect :: rest =>
    if effect.id = uuidNil ∨
        effect.id ≠ ids.payloadId info.taskId info.attempt ordinal effect.effect.hashed then
      .error (.nonCanonicalId ordinal)
    else if effect.id ∈ seen then .error (.duplicateId effect.id)
    else
      (checkEffect info effect.id effect.effect).bind fun _ =>
      checkEffects ids info (ordinal + 1) (effect.id :: seen) rest

def Effect.recordsKind (kind : VerificationEventKind) : Effect → Bool
  | .recordEvent _ _ _ recorded => recorded = kind
  | _ => false

/-- The loop over the settlement rows, with the kinds seen so far and the
currency of the rows that have one. -/
def checkEntries (info : CommitTaskInfo) :
    List LedgerKind → Option Currency → List LedgerEntry → Except ShapeError Unit
  | _, _, [] => .ok ()
  | seen, currency, entry :: rest =>
    if entry.taskId ≠ some info.taskId then .error (.unboundEntry entry.kind)
    else
      match currency, entry.currency with
      | some first, some other =>
        if first ≠ other then .error (.mixedCurrency first other)
        else if entry.kind ∈ seen then .error (.duplicateKind entry.kind)
        else checkEntries info (entry.kind :: seen) (some first) rest
      | currency, own =>
        if entry.kind ∈ seen then .error (.duplicateKind entry.kind)
        else checkEntries info (entry.kind :: seen) (currency <|> own) rest

/-- The three rows by kind: who pays, who is paid, and what is held. -/
def threeRowShape (entries : List LedgerEntry) : Bool :=
  match entries.find? (·.kind = .buyerCharge), entries.find? (·.kind = .supplierCredit),
      entries.find? (·.kind = .platformTake) with
  | some buyer, some supplier, some platform =>
    buyer.buyerId.isSome && buyer.supplierId.isNone &&
      supplier.supplierId.isSome && supplier.buyerId.isNone &&
      platform.supplierId.isNone && platform.buyerId.isNone &&
      buyer.amount < 0 && 0 ≤ supplier.amount && 0 ≤ platform.amount &&
      buyer.payoutStatus = .released &&
      platform.payoutStatus = .released &&
      supplier.payoutStatus = .held && supplier.releaseAt.isSome
  | _, _, _ => false

def checkSettlement (info : CommitTaskInfo) (outcome : VerifyOutcome)
    (entries : List LedgerEntry) : Except ShapeError Unit :=
  if outcome = .fail ∨ outcome = .lossNoPayout then
    if entries.length ≠ 0 then .error (.nonPayableEntries outcome entries.length) else .ok ()
  else if entries.length ≠ 3 then .error (.payableEntries outcome entries.length)
  else
    (checkEntries info [] none entries).bind fun _ =>
    if !threeRowShape entries then .error .invalidSettlement else .ok ()

def checkFailureEvent (decision : VerificationDecision) : Except ShapeError Unit :=
  match decision.failure with
  | none => .ok ()
  | some failure =>
    if !decision.effects.any fun recorded => recorded.effect.recordsKind failure.kind then
      .error (.failureWithoutEvent failure.kind)
    else .ok ()

def validateVerificationDecisionShape (ids : EffectIds) (info : CommitTaskInfo)
    (decision : VerificationDecision) (entries : List LedgerEntry) : Except ShapeError Unit :=
  (checkFailure info decision).bind fun _ =>
  (checkEffects ids info 0 [] decision.effects).bind fun _ =>
  (checkFailureEvent decision).bind fun _ => checkSettlement info decision.outcome entries

end MercControl.Verification
