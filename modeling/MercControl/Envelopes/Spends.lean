import MercControl.Library.Machine
import MercControl.Library.Joins

/-!
# Spends of execution envelopes

An envelope is a grant of a buyer's funds with a cap.  A request reserves its
ceiling against the cap, and the hold is later captured or released.  Each
transaction locks the envelope row.  A sum above the range of its column fails
the statement, as a refused check does.
-/

namespace MercControl.Envelopes

open Library

abbrev EnvelopeId := Nat
abbrev BuyerId := Nat
abbrev SpendId := Nat
abbrev ContractId := Nat

inductive EnvelopeState
  | active
  | expired
  | closed
  deriving DecidableEq

inductive SpendState
  | reserved
  | captured
  | released
  | voided
  deriving DecidableEq

structure Envelope where
  id : EnvelopeId
  buyer : BuyerId
  capNanos : Int
  spentNanos : Int
  reservedNanos : Int
  maxRequests : Int
  requestCount : Int
  maxTokens : Int
  tokenCount : Int
  perRequestCeilingNanos : Int
  runtimeProfile : Nat
  expiresAt : Nat
  state : EnvelopeState

structure Spend where
  id : SpendId
  envelope : EnvelopeId
  buyer : BuyerId
  idempotencyKey : Nat
  request : Option Nat
  contract : Option ContractId
  state : SpendState
  reservedNanos : Int
  capturedNanos : Int
  reservedTokens : Int
  capturedTokens : Int

structure State where
  now : Nat
  envelopes : Table Envelope.id
  spends : Table Spend.id

def State.empty : State := ⟨0, Table.empty, Table.empty⟩

inductive Failure
  | invalid
  | duplicate
  | notFound
  | idempotencyConflict
  | expired
  | scopeMismatch
  | ceilingExceeded
  | insufficient
  | cannotBind
  | capturedOtherwise
  | notReserved
  | exceedsReserved
  | capacityAccounting

def createExecutionEnvelope (s : State) (grant : Envelope) : Except Failure State :=
  if grant.capNanos ≤ 0 ∨ grant.perRequestCeilingNanos ≤ 0 ∨
      grant.capNanos < grant.perRequestCeilingNanos ∨ grant.maxRequests < 1 ∨
      grant.maxTokens < 0 then
    .error .invalid
  else
    match s.envelopes.insertNew
        { grant with
          spentNanos := 0, reservedNanos := 0, requestCount := 0, tokenCount := 0
          state := .active } with
    | none => .error .duplicate
    | some envelopes => .ok { s with envelopes }

structure Call where
  envelope : EnvelopeId
  buyer : BuyerId
  needNanos : Int
  reserveTokens : Int
  idempotencyKey : Nat
  request : Option Nat
  runtimeProfile : Nat

def Call.valid (call : Call) : Bool := 0 < call.needNanos && 0 ≤ call.reserveTokens

def State.spendOf (s : State) (envelope : EnvelopeId) (key : Nat) : Option Spend :=
  s.spends.rows.find? fun spend => spend.envelope = envelope ∧ spend.idempotencyKey = key

def Spend.answers (spend : Spend) (call : Call) : Bool :=
  spend.buyer = call.buyer && spend.reservedNanos = call.needNanos &&
    (call.request.isNone || spend.request.isNone || spend.request = call.request)

/-- The `WHERE` of the capacity claim. -/
def Envelope.admits (envelope : Envelope) (now : Nat) (call : Call) : Bool :=
  envelope.buyer = call.buyer && envelope.state = .active && now < envelope.expiresAt &&
    0 < call.needNanos && call.needNanos ≤ envelope.perRequestCeilingNanos &&
    envelope.spentNanos + envelope.reservedNanos + call.needNanos ≤ envelope.capNanos &&
    envelope.requestCount + 1 ≤ envelope.maxRequests &&
    (envelope.maxTokens = 0 || envelope.tokenCount + call.reserveTokens ≤ envelope.maxTokens) &&
    envelope.runtimeProfile = call.runtimeProfile

def Envelope.charged (envelope : Envelope) (call : Call) : Envelope :=
  { envelope with
    reservedNanos := envelope.reservedNanos + call.needNanos
    requestCount := envelope.requestCount + 1
    tokenCount := envelope.tokenCount + call.reserveTokens }

def Envelope.refusal (envelope : Envelope) (now : Nat) (call : Call) : Failure :=
  if envelope.buyer ≠ call.buyer then .notFound
  else if envelope.state ≠ .active ∨ envelope.expiresAt ≤ now then .expired
  else if envelope.runtimeProfile ≠ call.runtimeProfile then .scopeMismatch
  else if envelope.perRequestCeilingNanos < call.needNanos then .ceilingExceeded
  else .insufficient

def Call.spend (call : Call) (id : SpendId) : Spend :=
  { id, envelope := call.envelope, buyer := call.buyer, idempotencyKey := call.idempotencyKey
    request := call.request, contract := none, state := .reserved
    reservedNanos := call.needNanos, capturedNanos := 0
    reservedTokens := call.reserveTokens, capturedTokens := 0 }

/-- The unique violation that it compensates cannot arise in a transaction that
runs alone. -/
def reserveEnvelopeSpendTx (s : State) (id : SpendId) (call : Call) : Except Failure State :=
  if !call.valid then .error .invalid
  else
    match s.spendOf call.envelope call.idempotencyKey with
    | some existing => if existing.answers call then .ok s else .error .idempotencyConflict
    | none =>
      match s.envelopes.find? call.envelope with
      | none => .error .notFound
      | some envelope =>
        if envelope.admits s.now call then
          match s.spends.insertNew (call.spend id) with
          | none => .error .duplicate
          | some spends =>
            .ok { s with envelopes := s.envelopes.set (envelope.charged call), spends }
        else .error (envelope.refusal s.now call)

def State.spendOfContract (s : State) (contract : ContractId) : Option Spend :=
  s.spends.rows.find? fun spend => spend.contract = some contract

/-- `contract_id` is unique. -/
def bindEnvelopeSpendContractTx (s : State) (id : SpendId) (contract : ContractId) :
    Except Failure State :=
  match s.spends.find? id with
  | none => .error .cannotBind
  | some spend =>
    if spend.state ≠ .reserved ∨ spend.contract.isSome ∨ (s.spendOfContract contract).isSome then
      .error .cannotBind
    else .ok { s with spends := s.spends.set { spend with contract := some contract } }

def Envelope.capture (spend : Spend) (capturedNanos tokenRelease : Int) (envelope : Envelope) :
    Option Envelope :=
  if spend.reservedNanos ≤ envelope.reservedNanos ∧
      envelope.spentNanos + capturedNanos ≤ envelope.capNanos ∧
      tokenRelease ≤ envelope.tokenCount then
    some { envelope with
      reservedNanos := envelope.reservedNanos - spend.reservedNanos
      spentNanos := envelope.spentNanos + capturedNanos
      tokenCount := envelope.tokenCount - tokenRelease }
  else none

def Envelope.release (spend : Spend) (envelope : Envelope) : Option Envelope :=
  if spend.reservedNanos ≤ envelope.reservedNanos ∧ spend.reservedTokens ≤ envelope.tokenCount then
    some { envelope with
      reservedNanos := envelope.reservedNanos - spend.reservedNanos
      tokenCount := envelope.tokenCount - spend.reservedTokens }
  else none

/-- The two updates at the end of a hold; the first has to find its row. -/
def State.settle (s : State) (update : Envelope → Option Envelope) (settled : Spend) :
    Except Failure State :=
  match (s.envelopes.find? settled.envelope).bind update with
  | none => .error .capacityAccounting
  | some envelope =>
    .ok { s with envelopes := s.envelopes.set envelope, spends := s.spends.set settled }

def captureEnvelopeSpendTx (s : State) (contract : ContractId)
    (capturedNanos capturedTokens : Int) : Except Failure State :=
  if capturedNanos ≤ 0 ∨ capturedTokens < 0 then .error .invalid
  else
    match s.spendOfContract contract with
    | none => .ok s
    | some spend =>
      match spend.state with
      | .captured =>
        if spend.capturedNanos ≠ capturedNanos then .error .capturedOtherwise else .ok s
      | .released | .voided => .error .notReserved
      | .reserved =>
        if spend.reservedNanos < capturedNanos then .error .exceedsReserved
        else
          let capturedTokens := min capturedTokens spend.reservedTokens
          s.settle (Envelope.capture spend capturedNanos (spend.reservedTokens - capturedTokens))
            { spend with state := .captured, capturedNanos, capturedTokens }

def releaseEnvelopeSpendForContractTx (s : State) (contract : ContractId) : Except Failure State :=
  match s.spendOfContract contract with
  | none => .ok s
  | some spend =>
    match spend.state with
    | .released | .voided | .captured => .ok s
    | .reserved => s.settle (Envelope.release spend) { spend with state := .voided }

def releaseExpiredExecutionEnvelopes (s : State) (rows : List EnvelopeId) : State :=
  { s with
    envelopes := s.envelopes.update
      (fun envelope =>
        rows.contains envelope.id && envelope.state = .active && envelope.expiresAt ≤ s.now)
      ⟨fun envelope => { envelope with state := .expired }, fun _ => rfl⟩ }

/-- The states of a contract that the recovery tells apart. -/
inductive ContractState
  | executing
  | verified
  | failed
  | cancelled
  deriving DecidableEq

/-- The hold of a spend without a contract, or of one that ended. -/
def Spend.orphaned (spend : Spend) (contracts : ContractId → ContractState) : Bool :=
  spend.state = .reserved && spend.contract.all fun contract => contracts contract ≠ .executing

def recoverOrphan (contracts : ContractId → ContractState) (s : State) (spend : Spend) :
    Except Failure State :=
  if spend.contract.any fun contract => contracts contract = .verified then .ok s
  else s.settle (Envelope.release spend) { spend with state := .voided }

/-- `RecoverOrphanEnvelopeSpends` over the rows that are old enough and not
locked. -/
def recoverOrphanEnvelopeSpends (s : State) (rows : List SpendId)
    (contracts : ContractId → ContractState) : Except Failure State :=
  (s.spends.rows.filter fun spend =>
    rows.contains spend.id && spend.orphaned contracts).foldlM (recoverOrphan contracts) s

inductive Event
  | create (grant : Envelope)
  | reserve (id : SpendId) (call : Call)
  | bind (id : SpendId) (contract : ContractId)
  | capture (contract : ContractId) (nanos tokens : Int)
  | release (contract : ContractId)
  | expire (rows : List EnvelopeId)
  | recover (rows : List SpendId) (contracts : ContractId → ContractState)
  | tick (seconds : Nat)

def step (s : State) : Event → Except Failure State
  | .create grant => createExecutionEnvelope s grant
  | .reserve id call => reserveEnvelopeSpendTx s id call
  | .bind id contract => bindEnvelopeSpendContractTx s id contract
  | .capture contract nanos tokens => captureEnvelopeSpendTx s contract nanos tokens
  | .release contract => releaseEnvelopeSpendForContractTx s contract
  | .expire rows => .ok (releaseExpiredExecutionEnvelopes s rows)
  | .recover rows contracts => recoverOrphanEnvelopeSpends s rows contracts
  | .tick seconds => .ok { s with now := s.now + seconds }

end MercControl.Envelopes
