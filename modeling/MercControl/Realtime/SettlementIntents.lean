import MercControl.Library.Machine

/-!
# Realtime contracts and their settlement intents

A streamed realtime execution records an intent to settle before its first byte
is written.  The request path, the retry sweep and the recovery of stale
contracts move the contract and the intent in transactions of their own.

The sweep is three transactions per intent, so what it read and how the
finalize call ended live in a record of their own.
-/

namespace MercControl.Realtime

abbrev ContractId := Nat
abbrev ExecutionId := Nat

inductive ContractState where
  | executing
  | verified
  | failed
  | cancelled
  deriving DecidableEq

/-- The `state` column of `realtime_settlement_intents`. -/
inductive IntentState where
  | pending
  | settled
  | cancelled
  | escalated
  deriving DecidableEq

structure Contract where
  state : ContractState
  maximumPromptTokens : Int
  maximumCompletionTokens : Int
  deadlineAt : Nat

/-- `RealtimeExecutionEvidence`; an absent `id` is the nil UUID. -/
structure Evidence where
  id : Option ExecutionId
  httpStatus : Int
  streamRootSHA256 : String
  outputCommitment : String
  promptTokens : Int
  completionTokens : Int
  totalTokens : Int
  deriving DecidableEq

structure Intent where
  state : IntentState
  attemptCount : Nat
  evidence : Option Evidence
  deriving DecidableEq

/-- How a `FinalizeRealtimeSuccess` call inside the sweep ended. -/
inductive SettleResult where
  | settled
  | alreadyFinalized
  | failed

/-- One intent in the hands of a sweep: what it read, and the outcome of its
finalize call. -/
structure PendingIntent where
  contract : ContractId
  execution : ExecutionId
  attempts : Nat
  evidence : Evidence
  result : Option SettleResult

/-- An intent row is addressed by its unique pair of contract and execution; a
contract has at most one settlement, of which only the authoritative execution
is kept. -/
structure State where
  contracts : ContractId → Option Contract
  settlements : ContractId → Option ExecutionId
  intents : ContractId → ExecutionId → Option Intent
  sweeps : Nat → Option PendingIntent

def State.empty : State where
  contracts := fun _ => none
  settlements := fun _ => none
  intents := fun _ _ => none
  sweeps := fun _ => none

inductive Failure where
  | notFound
  | alreadyFinalized
  | incompleteEvidence
  | tokenBoundsExceeded
  | settlementRefused
  | invalidArguments

namespace State

def setContract (s : State) (contract : ContractId) (row : Contract) : State :=
  { s with contracts := Function.update s.contracts contract (some row) }

/-- The settlement row of an executing contract together with its move to
`VERIFIED`. -/
def verifyContract (s : State) (contractId : ContractId) (contract : Contract)
    (execution : ExecutionId) : State :=
  { s with
    contracts := Function.update s.contracts contractId (some { contract with state := .verified })
    settlements := Function.update s.settlements contractId (some execution) }

def setSweep (s : State) (sweep : Nat) (item : Option PendingIntent) : State :=
  { s with sweeps := Function.update s.sweeps sweep item }

/-- `UPDATE realtime_settlement_intents ... WHERE contract_id AND
execution_id`, with the row change given by `change`. -/
def updateIntent (s : State) (contract : ContractId) (execution : ExecutionId)
    (change : Intent → Intent) : State :=
  { s with
    intents := fun tested row =>
      if tested = contract ∧ row = execution then (s.intents tested row).map change
      else s.intents tested row }

end State

def Intent.settle (intent : Intent) : Intent :=
  if intent.state = .pending ∨ intent.state = .escalated then { intent with state := .settled }
  else intent

def Intent.cancel (intent : Intent) : Intent :=
  if intent.state = .pending then { intent with state := .cancelled } else intent

def realtimeSettlementIntentMaxAttempts : Nat := 20

/-- The bookkeeping of a failed attempt: the last allowed one escalates the
intent. -/
def Intent.countAttempt (attempts : Nat) (intent : Intent) : Intent :=
  if intent.state = .pending then
    if realtimeSettlementIntentMaxAttempts ≤ attempts + 1 then
      { intent with state := .escalated, attemptCount := attempts + 1 }
    else { intent with attemptCount := attempts + 1 }
  else intent

/-- The evidence check of `FinalizeRealtimeSuccess`. -/
def Evidence.complete (evidence : Evidence) : Bool :=
  evidence.id.isSome && decide (200 ≤ evidence.httpStatus ∧ evidence.httpStatus ≤ 299) &&
    decide (evidence.streamRootSHA256 ≠ "") &&
    decide (evidence.outputCommitment ≠ "") &&
    decide (0 ≤ evidence.promptTokens ∧ 0 ≤ evidence.completionTokens) &&
    decide (evidence.totalTokens = evidence.promptTokens + evidence.completionTokens)

/-- `settles` stands for the pricing, ledger and funding work of a contract
that passed the evidence checks, which goes through or is rolled back. -/
def finalizeRealtimeSuccess (s : State) (contractId : ContractId) (evidence : Evidence)
    (settles : Bool) : Except Failure State :=
  match s.contracts contractId with
  | none => .error .notFound
  | some contract =>
    match contract.state with
    | .verified =>
      match evidence.id with
      | none => .error .alreadyFinalized
      | some execution =>
        if s.settlements contractId ≠ some execution then .error .alreadyFinalized
        else .ok (s.updateIntent contractId execution Intent.settle)
    | .failed => .error .alreadyFinalized
    | .cancelled => .error .alreadyFinalized
    | .executing =>
      if evidence.complete = false then .error .incompleteEvidence
      else if
          contract.maximumPromptTokens < evidence.promptTokens ∨
            contract.maximumCompletionTokens < evidence.completionTokens then
        .error .tokenBoundsExceeded
      else if settles = false then .error .settlementRefused
      else
        match evidence.id with
        | none => .error .incompleteEvidence
        | some execution =>
          .ok ((s.verifyContract contractId contract execution).updateIntent
            contractId execution Intent.settle)

/-- A contract that is no longer executing is left alone. -/
def finalizeRealtimeFailure (s : State) (contractId : ContractId) (execution : ExecutionId)
    (cancelled : Bool) : Except Failure State :=
  match s.contracts contractId with
  | none => .error .notFound
  | some contract =>
    if contract.state = .executing then
      .ok ((s.setContract contractId
        { contract with state := if cancelled then .cancelled else .failed }).updateIntent
        contractId execution Intent.cancel)
    else .ok s

def insertRealtimeSettlementIntent (s : State) (contractId : ContractId) (execution : ExecutionId) :
    Except Failure State :=
  match s.contracts contractId with
  | none => .error .notFound
  | some _ =>
    match s.intents contractId execution with
    | some _ => .ok s
    | none =>
      .ok { s with
        intents := fun tested row =>
          if tested = contractId ∧ row = execution then some ⟨.pending, 0, none⟩
          else s.intents tested row }

/-- Only a pending intent takes the evidence. -/
def recordRealtimeSettlementIntentFailure (s : State) (contractId : ContractId)
    (execution : ExecutionId) (evidence : Evidence) : Except Failure State :=
  match s.intents contractId execution with
  | none => .error .notFound
  | some intent =>
    if intent.state ≠ .pending then .error .notFound
    else
      .ok (s.updateIntent contractId execution fun row => { row with evidence := some evidence })

/-- The read of `SettlePendingRealtimeIntents`: a pending intent with evidence
is taken; a nil evidence id becomes the intent's execution id. -/
def sweepRead (s : State) (sweep : Nat) (contractId : ContractId)
    (execution : ExecutionId) : Except Failure State :=
  match s.intents contractId execution with
  | none => .error .notFound
  | some intent =>
    match intent.evidence with
    | none => .error .notFound
    | some evidence =>
      if intent.state ≠ .pending then .error .notFound
      else
        .ok (s.setSweep sweep
          (some
            { contract := contractId
              execution
              attempts := intent.attemptCount
              evidence := { evidence with id := some (evidence.id.getD execution) }
              result := none }))

/-- The finalize call of the sweep, a transaction of its own: an error rolls it
back and is remembered. -/
def sweepFinalize (s : State) (sweep : Nat) (settles : Bool) : Except Failure State :=
  match s.sweeps sweep with
  | none => .error .invalidArguments
  | some item =>
    match finalizeRealtimeSuccess s item.contract item.evidence settles with
    | .ok next => .ok (next.setSweep sweep (some { item with result := some .settled }))
    | .error .alreadyFinalized =>
      .ok (s.setSweep sweep (some { item with result := some .alreadyFinalized }))
    | .error _ => .ok (s.setSweep sweep (some { item with result := some .failed }))

/-- The bookkeeping after the finalize call: success and
`errRealtimeAlreadyFinalized` mark the intent settled, every other error counts
an attempt. -/
def sweepMark (s : State) (sweep : Nat) : Except Failure State :=
  match s.sweeps sweep with
  | none => .error .invalidArguments
  | some item =>
    match item.result with
    | none => .error .invalidArguments
    | some .settled =>
      .ok ((s.updateIntent item.contract item.execution Intent.settle).setSweep sweep none)
    | some .alreadyFinalized =>
      .ok ((s.updateIntent item.contract item.execution Intent.settle).setSweep sweep none)
    | some .failed =>
      .ok ((s.updateIntent item.contract item.execution
        (Intent.countAttempt item.attempts)).setSweep sweep none)

/-- A contract past its deadline by more than the grace and still executing. -/
def Stale (now grace : Nat) (contract : Contract) : Prop :=
  contract.state = .executing ∧ contract.deadlineAt + grace < now
  deriving Decidable

/-- Every stale contract among the at most `limit` locked rows is failed.  Its
intents are not touched. -/
def recoverStaleRealtimeContracts (s : State) (now grace limit : Nat) (locked : List ContractId) :
    Except Failure State :=
  if limit < 1 ∨ 1000 < limit ∨ limit < locked.length then .error .invalidArguments
  else
    .ok { s with
      contracts := fun tested =>
        (s.contracts tested).map fun contract =>
          if tested ∈ locked ∧ Stale now grace contract then { contract with state := .failed }
          else contract }

def authorizeContract (s : State) (contractId : ContractId)
    (maximumPromptTokens maximumCompletionTokens : Int) (deadlineAt : Nat) :
    Except Failure State :=
  match s.contracts contractId with
  | some _ => .error .invalidArguments
  | none =>
    .ok (s.setContract contractId
      { state := .executing, maximumPromptTokens, maximumCompletionTokens, deadlineAt })

inductive Event where
  | authorize (contract : ContractId) (maximumPromptTokens : Int)
      (maximumCompletionTokens : Int) (deadlineAt : Nat)
  | insertIntent (contract : ContractId) (execution : ExecutionId)
  | recordFailure (contract : ContractId) (execution : ExecutionId) (evidence : Evidence)
  | finalizeSuccess (contract : ContractId) (evidence : Evidence) (settles : Bool)
  | finalizeFailure (contract : ContractId) (execution : ExecutionId) (cancelled : Bool)
  | sweepRead (sweep : Nat) (contract : ContractId) (execution : ExecutionId)
  | sweepFinalize (sweep : Nat) (settles : Bool)
  | sweepMark (sweep : Nat)
  | recoverStale (now grace limit : Nat) (locked : List ContractId)

def step (s : State) : Event → Except Failure State
  | .authorize contract prompt completion deadline =>
    authorizeContract s contract prompt completion deadline
  | .insertIntent contract execution => insertRealtimeSettlementIntent s contract execution
  | .recordFailure contract execution evidence =>
    recordRealtimeSettlementIntentFailure s contract execution evidence
  | .finalizeSuccess contract evidence settles =>
    finalizeRealtimeSuccess s contract evidence settles
  | .finalizeFailure contract execution cancelled =>
    finalizeRealtimeFailure s contract execution cancelled
  | .sweepRead sweep contract execution => sweepRead s sweep contract execution
  | .sweepFinalize sweep settles => sweepFinalize s sweep settles
  | .sweepMark sweep => sweepMark s sweep
  | .recoverStale now grace limit locked => recoverStaleRealtimeContracts s now grace limit locked

end MercControl.Realtime
