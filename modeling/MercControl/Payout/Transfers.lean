import MercControl.Library.Table
import MercControl.Payout.Clawbacks

/-!
# Payout funding, provider calls and workers

The payout machine with what surrounds a claim: the funding row, the subsidies
an administrator authorizes, and the workers that call the provider and record
its answer.

The provider moves cash at most once under an idempotency key, the ledger
entry, but it may do so after the caller has given up.
-/

namespace MercControl.Payout.Transfer

open Library

abbrev AttemptId := Nat
abbrev FundRef := Nat

structure Terms where
  fund : FundRef
  authorization : Nat
  reason : Nat
  deriving DecidableEq

inductive Source where
  /-- `buyer_collection`. -/
  | collection
  /-- `platform_subsidy`. -/
  | subsidy (terms : Terms)
  deriving DecidableEq

/-- A `supplier_payout_funding` row; the ledger entry is unique. -/
structure Funding where
  entry : EntryId
  source : Source
  amountCents : Int

/-- A `platform_subsidy_funds` row. -/
structure Fund where
  ref : FundRef
  authorizedCents : Int
  active : Bool

/-- What a worker hears from the provider. -/
inductive Answer where
  | sent (cents : Int) (ref : ProviderRef)
  | exported (ref : ProviderRef)
  /-- `errPayoutDefinitelyNotSent`. -/
  | refused
  | unclear
  deriving DecidableEq

structure Attempt where
  id : AttemptId
  entry : EntryId
  cents : Int
  /-- The row that backs the call. -/
  funding : Option Funding
  /-- Claimed by `ClaimOutcomeUnknownPayouts`. -/
  resolvingUnknown : Bool
  answer : Option Answer
  /-- The worker has recorded the answer, or it has died. -/
  done : Bool

/-- Cash that left under an idempotency key. -/
structure Movement where
  entry : EntryId
  cents : Int
  ref : ProviderRef

/-- The minor unit of the settlement currency and the payout rail. -/
structure Config where
  factor : Int
  positive : 0 < factor
  manualExport : Bool

structure State where
  books : Payout.State
  fundings : Table Funding.entry
  funds : Table Fund.ref
  /-- `supplier_payout_funding_state.status = 'compromised'`. -/
  compromised : EntryId → Bool
  /-- The credits with a ledger row of kind `clawback`. -/
  clawbacks : List EntryId
  attempts : Table Attempt.id
  moved : List Movement

def State.empty : State where
  books := .empty
  fundings := .empty
  funds := .empty
  compromised := fun _ => false
  clawbacks := []
  attempts := .empty
  moved := []

inductive Failure where
  | books (failure : Payout.Failure)
  | notFound
  | notAllowed
  | fundingMismatch
  | fundingBound
  | fundUnavailable
  | belowOneMinorUnit

def State.withBooks (s : State) (result : Except Payout.Failure Payout.State) :
    Except Failure State :=
  match result with
  | .error failure => .error (.books failure)
  | .ok books => .ok { s with books }

def splitSupplierLiabilityMicros (factor liabilityMicros : Int) : Except Failure (Int × Int) :=
  if liabilityMicros < 0 then .error (.books .negativeLiability)
  else .ok (liabilityMicros.tdiv factor, liabilityMicros.tmod factor)

def State.fundReserved (s : State) (fund : FundRef) : Int :=
  s.fundings.total fun funding =>
    match funding.source with
    | .collection => 0
    | .subsidy terms => if terms.fund = fund then funding.amountCents else 0

/-- `subsidy_authorization_ref` is unique. -/
def State.authorizationUsed (s : State) (authorization : Nat) : Bool :=
  s.fundings.rows.any fun funding =>
    match funding.source with
    | .collection => false
    | .subsidy terms => terms.authorization == authorization

def reserveSubsidy (s : State) (entry : EntryId) (terms : Terms)
    (amountCents : Int) : Except Failure State :=
  match s.funds.find? terms.fund with
  | none => .error .fundUnavailable
  | some fund =>
    let reserved := s.fundReserved terms.fund
    if !fund.active then .error .fundUnavailable
    else if reserved < 0 ∨ fund.authorizedCents < reserved ∨
        fund.authorizedCents - reserved < amountCents then
      .error .fundUnavailable
    else if s.authorizationUsed terms.authorization then .error .fundingBound
    else if fresh : s.fundings.find? entry = none then
      .ok { s with fundings := s.fundings.insert ⟨entry, .subsidy terms, amountCents⟩ fresh }
    else .error .fundingBound

def bindSubsidy (s : State) (entry : EntryId) (terms : Terms)
    (amountCents : Int) : Except Failure State :=
  match s.fundings.find? entry with
  | some funding =>
    if funding.source = .subsidy terms ∧ funding.amountCents = amountCents then .ok s
    else .error .fundingBound
  | none => reserveSubsidy s entry terms amountCents

def authorizePayoutSubsidy (config : Config) (s : State) (entry : EntryId)
    (terms : Terms) : Except Failure State :=
  match s.books.credit entry with
  | none => .error .notFound
  | some credit =>
    if credit.status ≠ .held ∧ credit.status ≠ .ready ∧ credit.status ≠ .awaitingFunding then
      .error (.books .notHeld)
    else
      match splitSupplierLiabilityMicros config.factor credit.liabilityMicros with
      | .error failure => .error failure
      | .ok (amountCents, _) =>
        if amountCents ≤ 0 then .error .belowOneMinorUnit
        else
          match bindSubsidy s entry terms amountCents with
          | .error failure => .error failure
          | .ok bound => bound.withBooks (changeCredit s.books entry authorizePayoutSubsidyCredit)

/-- `collected`: a collection of the buyer covers the requested cents. -/
def reservePayoutFunding (s : State) (entry : EntryId) (requestedCents : Int)
    (collected : Bool) : Except Failure (State × Bool) :=
  match found : s.fundings.find? entry with
  | some funding =>
    if funding.amountCents ≠ requestedCents then .error .fundingMismatch
    else .ok (s, !s.compromised entry)
  | none =>
    if collected then
      .ok
        ({ s with fundings := s.fundings.insert ⟨entry, .collection, requestedCents⟩ found }, true)
    else .ok (s, false)

structure ClaimContext where
  released : Bool
  approved : Bool
  collected : Bool

def State.startAttempt (s : State) (id : AttemptId) (entry : EntryId)
    (cents : Int) (resolvingUnknown : Bool) : Except Failure State :=
  if fresh : s.attempts.find? id = none then
    .ok { s with
      attempts := s.attempts.insert
        ⟨id, entry, cents, s.fundings.find? entry, resolvingUnknown, none, false⟩
        fresh }
  else .error .notAllowed

def claimPayout (config : Config) (s : State) (id : AttemptId)
    (entry : EntryId) (context : ClaimContext) : Except Failure State :=
  let claim (s : State) (funded : Bool) : Except Failure State :=
    s.withBooks
      (Payout.claimPayout config.factor s.books entry ⟨context.released, context.approved, funded⟩)
  match s.books.credit entry with
  | none => .error .notFound
  | some credit =>
    if credit.job.any s.books.activeDispute ||
        !credit.claimable ⟨context.released, context.approved, false⟩ then
      .ok s
    else
      match accrueSupplierLiability config.factor
          (s.books.accruals credit.supplier) credit.settlement
          credit.liabilityMicros with
      | .error failure => .error (.books failure)
      | .ok (settlement, _) =>
        if settlement.cashCents = 0 then claim s false
        else
          match reservePayoutFunding s entry settlement.cashCents context.collected with
          | .error failure => .error failure
          | .ok (reserved, false) => claim reserved false
          | .ok (reserved, true) =>
            match claim reserved true with
            | .error failure => .error failure
            | .ok claimed => claimed.startAttempt id entry settlement.cashCents false

/-- `ClaimOutcomeUnknownPayouts` on one operation. -/
def claimOutcomeUnknown (s : State) (id : AttemptId) (entry : EntryId) : Except Failure State :=
  match s.books.credit entry with
  | none => .error .notFound
  | some credit =>
    match credit.operation with
    | none => .error .notFound
    | some operation =>
      if operation.outcomeUnknown ∧ !operation.cashMoved ∧
          operation.transferRef.isNone ∧ !s.compromised entry ∧
          (operation.status = .outcomeUnknown ∨ operation.status = .reversalRequired) ∧
          (credit.status = .outcomeUnknown ∨ credit.status = .reversalRequired) then
        s.startAttempt id entry operation.requestedCents true
      else .error .notAllowed

def State.onAttempt (s : State) (id : AttemptId)
    (body : Attempt → Except Failure State) : Except Failure State :=
  match s.attempts.find? id with
  | none => .error .notFound
  | some attempt => body attempt

def State.setAttempt (s : State) (attempt : Attempt) : State :=
  { s with attempts := s.attempts.set attempt }

/-- The provider moves the cash, unless it has done so under this key. -/
def execute (config : Config) (s : State) (id : AttemptId)
    (ref : ProviderRef) : Except Failure State :=
  s.onAttempt id fun attempt =>
    if config.manualExport ∨ attempt.answer = some .refused then .error .notAllowed
    else
      match s.moved.find? (·.entry == attempt.entry) with
      | some movement =>
        if movement.cents ≠ attempt.cents then .error .notAllowed
        else
          .ok (s.setAttempt
            { attempt with answer := attempt.answer.or (some (.sent movement.cents movement.ref)) })
      | none =>
        .ok
          { s.setAttempt
              { attempt with answer := attempt.answer.or (some (.sent attempt.cents ref)) } with
            moved := s.moved ++ [⟨attempt.entry, attempt.cents, ref⟩] }

def refuse (s : State) (id : AttemptId) : Except Failure State :=
  s.onAttempt id fun attempt =>
    if attempt.answer.isNone ∧ !s.moved.any (·.entry == attempt.entry) then
      .ok (s.setAttempt { attempt with answer := some .refused })
    else .error .notAllowed

def exportPayout (config : Config) (s : State) (id : AttemptId)
    (ref : ProviderRef) : Except Failure State :=
  s.onAttempt id fun attempt =>
    if config.manualExport ∧ attempt.answer.isNone then
      .ok (s.setAttempt { attempt with answer := some (.exported ref) })
    else .error .notAllowed

def lose (s : State) (id : AttemptId) : Except Failure State :=
  s.onAttempt id fun attempt =>
    if attempt.answer.isNone then .ok (s.setAttempt { attempt with answer := some .unclear })
    else .error .notAllowed

/-- The transaction `finishAttempt` chooses. -/
def recordedBooks (config : Config) (books : Payout.State) (attempt : Attempt) (answer : Answer) :
    Except Payout.Failure Payout.State :=
  match answer with
  | .sent cents ref =>
    Payout.step config.factor books (.finalizePayout attempt.entry ⟨true, cents, ref⟩)
  | .exported ref => Payout.step config.factor books (.finalizePayout attempt.entry ⟨false, 0, ref⟩)
  | .refused =>
    if attempt.resolvingUnknown then Payout.step config.factor books (.outcomeUnknown attempt.entry)
    else Payout.step config.factor books (.deferPayout attempt.entry)
  | .unclear => Payout.step config.factor books (.outcomeUnknown attempt.entry)

def record (config : Config) (s : State) (id : AttemptId) : Except Failure State :=
  s.onAttempt id fun attempt =>
    match attempt.done, attempt.answer with
    | false, some answer =>
      (s.setAttempt { attempt with done := true }).withBooks
        (recordedBooks config s.books attempt answer)
    | _, _ => .error .notAllowed

def crash (s : State) (id : AttemptId) : Except Failure State :=
  s.onAttempt id fun attempt => .ok (s.setAttempt { attempt with done := true })

/-- The transactions that need nothing besides the credits. -/
def plain : Payout.Event → Bool
  | .insertCredit _ _ _ _ _ => true
  | .recoverStale _ => true
  | .releasePayout _ => true
  | .confirmCollection _ => true
  | .claimReversal _ _ => true
  | .finalizeReversal _ _ => true
  | .reversalFailed _ => true
  | .clawbackTaskCredit _ _ _ => true
  | .fileDispute _ _ => true
  | .refundRealtimeContract _ => true
  | _ => false

def takenBack (books : Payout.State) : Payout.Event → List EntryId
  | .clawbackTaskCredit supplier task _ => (books.taskCredit supplier task).toList.map Credit.entry
  | .resolveDispute dispute .upheld _ =>
    match books.disputes.find? (·.dispute == dispute) with
    | none => []
    | some filed =>
      if filed.resolution.isSome then []
      else (books.credits.filter (·.job == some filed.job)).map Credit.entry
  | .refundRealtimeContract contract =>
    (books.credits.find? (·.source == .contract contract)).toList.map Credit.entry
  | _ => []

def applyBooks (config : Config) (s : State) (event : Payout.Event) : Except Failure State :=
  { s with clawbacks := s.clawbacks ++ takenBack s.books event }.withBooks
    (Payout.step config.factor s.books event)

/-- `recomputeStripeCollectionFunding`: `exposed` gives the reservations and
whether they are now impaired. -/
def recomputeFunding (config : Config) (s : State)
    (exposed : EntryId → Option Bool) : Except Failure State :=
  let collections := (s.fundings.rows.filter (·.source == Source.collection)).map Funding.entry
  let impaired := collections.filter fun entry => exposed entry == some true
  { s with
    compromised := fun entry =>
      if collections.contains entry then (exposed entry).getD (s.compromised entry)
      else s.compromised entry }.withBooks
    (Payout.step config.factor s.books (.impairFunding impaired))

/-- The verification outcome of a credited task changes. -/
def setVerdict (s : State) (entry : EntryId) (verdict : Verdict) : Except Failure State :=
  s.withBooks (changeCredit s.books entry fun credit => .ok { credit with verdict })

def authorizeFund (s : State) (ref : FundRef) (authorizedCents : Int) : Except Failure State :=
  if fresh : s.funds.find? ref = none then
    .ok { s with funds := s.funds.insert ⟨ref, authorizedCents, true⟩ fresh }
  else .error .notAllowed

inductive Event where
  | plain (event : Payout.Event)
  | setVerdict (entry : EntryId) (verdict : Verdict)
  | resolveDispute (dispute : DisputeId) (resolution : Resolution)
  | recomputeFunding (exposed : EntryId → Option Bool)
  | authorizeFund (ref : FundRef) (authorizedCents : Int)
  | authorizeSubsidy (entry : EntryId) (terms : Terms)
  | claimPayout (id : AttemptId) (entry : EntryId) (context : ClaimContext)
  | claimOutcomeUnknown (id : AttemptId) (entry : EntryId)
  | execute (id : AttemptId) (ref : ProviderRef)
  | refuse (id : AttemptId)
  | exportPayout (id : AttemptId) (ref : ProviderRef)
  | lose (id : AttemptId)
  | record (id : AttemptId)
  | crash (id : AttemptId)

def step (config : Config) (s : State) : Event → Except Failure State
  | .plain event =>
    if plain event then applyBooks config s event else .error .notAllowed
  | .setVerdict entry verdict => setVerdict s entry verdict
  | .resolveDispute dispute resolution =>
    applyBooks config s (.resolveDispute dispute resolution s.compromised)
  | .recomputeFunding exposed => recomputeFunding config s exposed
  | .authorizeFund ref authorizedCents => authorizeFund s ref authorizedCents
  | .authorizeSubsidy entry terms => authorizePayoutSubsidy config s entry terms
  | .claimPayout id entry context => claimPayout config s id entry context
  | .claimOutcomeUnknown id entry => claimOutcomeUnknown s id entry
  | .execute id ref => execute config s id ref
  | .refuse id => refuse s id
  | .exportPayout id ref => exportPayout config s id ref
  | .lose id => lose s id
  | .record id => record config s id
  | .crash id => crash s id

end MercControl.Payout.Transfer
