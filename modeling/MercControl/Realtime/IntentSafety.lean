import MercControl.Realtime.SettlementIntents

/-!
# Settled intents and billed streams

An intent should be settled only when its contract is verified and billed.  The
recovery of stale contracts fails a contract whose intent is still pending, and
the sweep then reads `errRealtimeAlreadyFinalized` as success.
-/

namespace MercControl.Realtime

open Library Machine

def Billed (s : State) (contract : ContractId) (execution : ExecutionId) : Prop :=
  (∃ row, s.contracts contract = some row ∧ row.state = .verified) ∧
    s.settlements contract = some execution

/-- No delivered stream is silently unbilled. -/
def SettledAreBilled (s : State) : Prop :=
  ∀ contract execution intent,
    s.intents contract execution = some intent →
      intent.state = .settled → Billed s contract execution

/-- The contract has left execution, and not by settling `execution`. -/
def EndedWithout (s : State) (contract : ContractId) (execution : ExecutionId) : Prop :=
  ∃ row ∈ s.contracts contract, row.state ≠ .executing ∧ s.settlements contract ≠ some execution
  deriving Decidable

/-- Evidence is recorded for the execution it names, and the sweep calls
finalize only while the contract can still be, or already is, settled for the
intent's execution. -/
def SweepsOpenContracts (s : State) : Event → Prop
  | .recordFailure _ execution evidence => evidence.id = none ∨ evidence.id = some execution
  | .sweepFinalize sweep _ => ∀ item ∈ s.sweeps sweep, ¬ EndedWithout s item.contract item.execution
  | _ => True

instance (s : State) (event : Event) : Decidable (SweepsOpenContracts s event) := by
  cases event <;> unfold SweepsOpenContracts <;> infer_instance

structure IntentSound (s : State) (contract : ContractId) (execution : ExecutionId)
    (intent : Intent) : Prop where
  billed : intent.state = .settled → Billed s contract execution
  evidence : ∀ recorded, intent.evidence = some recorded →
    recorded.id = none ∨ recorded.id = some execution

structure ItemSound (s : State) (item : PendingIntent) : Prop where
  evidence : item.evidence.id = some item.execution
  billed :
    item.result = some .settled ∨ item.result = some .alreadyFinalized →
      Billed s item.contract item.execution

/-- The invariant of guarded runs: only verified contracts have a settlement,
and every intent is sound. -/
structure Sound (s : State) : Prop where
  settlements : ∀ contract execution,
    s.settlements contract = some execution → Billed s contract execution
  intents : ∀ contract execution intent,
    s.intents contract execution = some intent → IntentSound s contract execution intent
  sweeps : ∀ sweep item, s.sweeps sweep = some item → ItemSound s item

def KeepsBilled (s next : State) : Prop :=
  ∀ contract execution, Billed s contract execution → Billed next contract execution

variable {s next : State} {contract contractId : ContractId}
  {execution : ExecutionId} {intent : Intent} {sweep : Nat}
  {evidence : Evidence} {settles : Bool}

theorem IntentSound.mono (kept : KeepsBilled s next)
    (sound : IntentSound s contract execution intent) :
    IntentSound next contract execution intent :=
  ⟨fun settled => kept _ _ (sound.billed settled), sound.evidence⟩

theorem ItemSound.mono {item : PendingIntent} (kept : KeepsBilled s next)
    (sound : ItemSound s item) : ItemSound next item :=
  ⟨sound.evidence, fun ended => kept _ _ (sound.billed ended)⟩

theorem Sound.settledAreBilled (sound : Sound s) : SettledAreBilled s :=
  fun contract execution intent found settled =>
    (sound.intents contract execution intent found).billed settled

theorem Sound.empty : Sound State.empty := by
  constructor <;> simp [State.empty]

theorem Sound.withContracts (sound : Sound s) {contracts : ContractId → Option Contract}
    (verifiedKept : ∀ contract row,
      s.contracts contract = some row → row.state = .verified → contracts contract = some row) :
    Sound { s with contracts } := by
  have kept : KeepsBilled s { s with contracts } := by
    rintro contract execution ⟨⟨row, found, verified⟩, settlement⟩
    exact ⟨⟨row, verifiedKept contract row found verified, verified⟩, settlement⟩
  exact
    { settlements := fun contract execution settlement =>
        kept _ _ (sound.settlements contract execution settlement)
      intents := fun contract execution intent found =>
        (sound.intents contract execution intent found).mono kept
      sweeps := fun sweep item found => (sound.sweeps sweep item found).mono kept }

theorem Sound.updateIntent (sound : Sound s) {change : Intent → Intent}
    (kept : ∀ intent, IntentSound s contract execution intent →
      IntentSound s contract execution (change intent)) :
    Sound (s.updateIntent contract execution change) where
  settlements := sound.settlements
  intents := by
    intro tested row intent found
    simp only [State.updateIntent] at found
    split at found
    · next same =>
        obtain ⟨rfl, rfl⟩ := same
        obtain ⟨before, beforeFound, rfl⟩ := Option.map_eq_some_iff.mp found
        exact { kept before (sound.intents _ _ before beforeFound) with }
    · exact { sound.intents tested row intent found with }
  sweeps := fun sweep item found => { sound.sweeps sweep item found with }

theorem Sound.setSweep (sound : Sound s) {item : Option PendingIntent}
    (itemSound : ∀ held, item = some held → ItemSound s held) : Sound (s.setSweep sweep item) where
  settlements := sound.settlements
  intents := fun contract execution intent found =>
    { sound.intents contract execution intent found with }
  sweeps := by
    intro tested held found
    simp only [State.setSweep, Function.update_apply] at found
    split at found
    · exact { itemSound held found with }
    · exact { sound.sweeps tested held found with }

theorem keepsBilled_verifyContract {contract : Contract}
    (found : s.contracts contractId = some contract) (executing : contract.state = .executing) :
    KeepsBilled s (s.verifyContract contractId contract execution) := by
  rintro tested row ⟨⟨before, beforeFound, verified⟩, settlement⟩
  have ne : tested ≠ contractId := by
    rintro rfl
    rw [Option.mem_unique beforeFound found, executing] at verified
    cases verified
  refine ⟨⟨before, ?_, verified⟩, ?_⟩
  · simpa [State.verifyContract, ne] using beforeFound
  · simpa [State.verifyContract, ne] using settlement

theorem billed_verifyContract (s : State) (contractId : ContractId) (contract : Contract)
    (execution : ExecutionId) :
    Billed (s.verifyContract contractId contract execution) contractId execution :=
  ⟨⟨{ contract with state := .verified }, by simp [State.verifyContract]⟩,
    by simp [State.verifyContract]⟩

theorem Sound.verifyContract (sound : Sound s) {contract : Contract}
    (found : s.contracts contractId = some contract) (executing : contract.state = .executing) :
    Sound (s.verifyContract contractId contract execution) := by
  have kept : KeepsBilled s (s.verifyContract contractId contract execution) :=
    keepsBilled_verifyContract found executing
  refine
    { settlements := ?_
      intents := fun tested row intent intentFound =>
        (sound.intents tested row intent intentFound).mono kept
      sweeps := fun sweep item itemFound => (sound.sweeps sweep item itemFound).mono kept }
  intro tested row settlement
  by_cases same : tested = contractId
  · subst same
    have named : execution = row := by
      simpa [State.verifyContract] using settlement
    subst named
    exact billed_verifyContract s tested contract execution
  · have before : s.settlements tested = some row := by
      simpa [State.verifyContract, same] using settlement
    exact kept tested row (sound.settlements tested row before)

theorem intentSound_settle (billed : Billed s contract execution) (intent : Intent)
    (sound : IntentSound s contract execution intent) :
    IntentSound s contract execution intent.settle := by
  refine ⟨fun _ => billed, ?_⟩
  unfold Intent.settle
  split <;> exact sound.evidence

theorem intentSound_cancel (intent : Intent) (sound : IntentSound s contract execution intent) :
    IntentSound s contract execution intent.cancel := by
  unfold Intent.cancel
  split
  · exact ⟨by simp, sound.evidence⟩
  · exact sound

theorem intentSound_countAttempt (attempts : Nat) (intent : Intent)
    (sound : IntentSound s contract execution intent) :
    IntentSound s contract execution (intent.countAttempt attempts) := by
  unfold Intent.countAttempt
  split
  · next pending =>
      split
      · exact ⟨by simp, sound.evidence⟩
      · exact ⟨by simp [pending], sound.evidence⟩
  · exact sound

section

variable (sound : Sound s)

include sound

/-- What a committed `FinalizeRealtimeSuccess` leaves: the invariant, and the
execution billed. -/
theorem finalizeRealtimeSuccess_sound
    (ran : finalizeRealtimeSuccess s contractId evidence settles = .ok next) :
    Sound next ∧ ∃ execution, evidence.id = some execution ∧ Billed next contractId execution := by
  unfold finalizeRealtimeSuccess at ran
  rcases foundContract : s.contracts contractId with _ | contract
  · simp [foundContract] at ran
  simp only [foundContract] at ran
  cases contractState : contract.state with
  | failed | cancelled => simp [contractState] at ran
  | verified =>
    simp only [contractState] at ran
    rcases named : evidence.id with _ | execution
    · simp [named] at ran
    simp only [named, ite_error_eq_ok, ne_eq, not_not, Except.ok.injEq] at ran
    obtain ⟨settlement, rfl⟩ := ran
    have billed : Billed s contractId execution :=
      sound.settlements contractId execution settlement
    exact ⟨sound.updateIntent (intentSound_settle billed), execution, rfl, billed⟩
  | executing =>
    simp only [contractState, ite_error_eq_ok] at ran
    obtain ⟨-, -, -, ran⟩ := ran
    rcases named : evidence.id with _ | execution
    · simp [named] at ran
    simp only [named, Except.ok.injEq] at ran
    subst ran
    have verified : Sound (s.verifyContract contractId contract execution) :=
      sound.verifyContract foundContract contractState
    have billed := billed_verifyContract s contractId contract execution
    exact ⟨verified.updateIntent (intentSound_settle billed), execution, rfl, billed⟩

/-- `errRealtimeAlreadyFinalized` is only returned for a contract that ended
without settling the execution named by the evidence. -/
theorem endedWithout_of_alreadyFinalized (named : evidence.id = some execution)
    (refused : finalizeRealtimeSuccess s contractId evidence settles = .error .alreadyFinalized) :
    EndedWithout s contractId execution := by
  unfold finalizeRealtimeSuccess at refused
  rcases foundContract : s.contracts contractId with _ | contract
  · simp [foundContract] at refused
  have unsettled (ended : contract.state ≠ .verified) :
      s.settlements contractId ≠ some execution := by
    intro settlement
    obtain ⟨⟨_, found, verified⟩, -⟩ := sound.settlements contractId execution settlement
    rw [Option.mem_unique found foundContract] at verified
    exact ended verified
  refine ⟨contract, foundContract, ?_⟩
  simp only [foundContract] at refused
  cases contractState : contract.state with
  | failed | cancelled => exact ⟨by simp, unsettled (by simp [contractState])⟩
  | verified =>
    refine ⟨by simp, fun settlement => ?_⟩
    simp [contractState, named, settlement] at refused
  | executing =>
    simp only [contractState, named] at refused
    split at refused
    · cases refused
    · split at refused
      · cases refused
      · split at refused <;> cases refused

theorem finalizeRealtimeFailure_sound {cancelled : Bool}
    (ran : finalizeRealtimeFailure s contractId execution cancelled = .ok next) : Sound next := by
  unfold finalizeRealtimeFailure at ran
  rcases foundContract : s.contracts contractId with _ | contract
  · simp [foundContract] at ran
  simp only [foundContract] at ran
  split at ran
  · next executing =>
      cases ran
      have ended : Sound (s.setContract contractId
          { contract with state := if cancelled then .cancelled else .failed }) := by
        apply sound.withContracts
        intro tested row found verified
        have ne : tested ≠ contractId := by
          rintro rfl
          rw [Option.mem_unique found foundContract, executing] at verified
          cases verified
        simpa [ne] using found
      exact ended.updateIntent intentSound_cancel
  · cases ran
    exact sound

theorem insertRealtimeSettlementIntent_sound
    (ran : insertRealtimeSettlementIntent s contractId execution = .ok next) : Sound next := by
  unfold insertRealtimeSettlementIntent at ran
  split at ran
  · cases ran
  split at ran
  · cases ran
    exact sound
  cases ran
  refine ⟨sound.settlements, ?_, fun sweep item found =>
    { sound.sweeps sweep item found with }⟩
  intro tested row intent found
  simp only at found
  split at found
  · cases found
    exact ⟨by simp, by simp⟩
  · exact { sound.intents tested row intent found with }

theorem recordRealtimeSettlementIntentFailure_sound
    (named : evidence.id = none ∨ evidence.id = some execution)
    (ran : recordRealtimeSettlementIntentFailure s contractId execution evidence = .ok next) :
    Sound next := by
  unfold recordRealtimeSettlementIntentFailure at ran
  split at ran
  · cases ran
  next intent found =>
    simp only [ite_error_eq_ok, Except.ok.injEq] at ran
    obtain ⟨-, rfl⟩ := ran
    refine sound.updateIntent fun _ kept => ⟨kept.billed, ?_⟩
    rintro recorded ⟨⟩
    exact named

theorem sweepRead_sound (ran : sweepRead s sweep contractId execution = .ok next) : Sound next := by
  unfold sweepRead at ran
  split at ran
  · cases ran
  next intent found =>
    split at ran
    · cases ran
    next evidence recorded =>
      simp only [ite_error_eq_ok, Except.ok.injEq] at ran
      obtain ⟨-, rfl⟩ := ran
      refine sound.setSweep ?_
      rintro held ⟨⟩
      refine ⟨?_, by simp⟩
      rcases (sound.intents contractId execution intent found).evidence evidence recorded with
        absent | present
      · simp [absent]
      · simp [present]

/-- The finalize call of a guarded sweep never ends in
`errRealtimeAlreadyFinalized`. -/
theorem sweepFinalize_sound
    (guarded : ∀ item ∈ s.sweeps sweep, ¬ EndedWithout s item.contract item.execution)
    (ran : sweepFinalize s sweep settles = .ok next) : Sound next := by
  unfold sweepFinalize at ran
  rcases held : s.sweeps sweep with _ | item
  · simp [held] at ran
  simp only [held] at ran
  have itemSound := sound.sweeps sweep item held
  cases outcome : finalizeRealtimeSuccess s item.contract item.evidence settles with
  | ok =>
    simp only [outcome, Except.ok.injEq] at ran
    subst ran
    obtain ⟨settledSound, _, named, billed⟩ := finalizeRealtimeSuccess_sound sound outcome
    rw [itemSound.evidence, Option.some.injEq] at named
    refine settledSound.setSweep ?_
    rintro kept ⟨⟩
    exact ⟨itemSound.evidence, fun _ => named ▸ billed⟩
  | error failure =>
    have live : failure ≠ .alreadyFinalized := by
      rintro rfl
      exact guarded item held (endedWithout_of_alreadyFinalized sound itemSound.evidence outcome)
    have failed : next = s.setSweep sweep (some { item with result := some .failed }) := by
      cases failure <;> simp_all
    subst failed
    refine sound.setSweep ?_
    rintro kept ⟨⟩
    exact ⟨itemSound.evidence, by simp⟩

theorem sweepMark_sound (ran : sweepMark s sweep = .ok next) : Sound next := by
  unfold sweepMark at ran
  rcases held : s.sweeps sweep with _ | item
  · simp [held] at ran
  simp only [held] at ran
  have itemSound := sound.sweeps sweep item held
  rcases ended : item.result with _ | result
  · simp [ended] at ran
  cases result with
  | settled | alreadyFinalized =>
    simp only [ended, Except.ok.injEq] at ran
    subst ran
    have billed := itemSound.billed (by simp [ended])
    exact (sound.updateIntent (intentSound_settle billed)).setSweep (by simp)
  | failed =>
    simp only [ended, Except.ok.injEq] at ran
    subst ran
    exact (sound.updateIntent (intentSound_countAttempt _)).setSweep (by simp)

theorem recoverStaleRealtimeContracts_sound {now grace limit : Nat} {locked : List ContractId}
    (ran : recoverStaleRealtimeContracts s now grace limit locked = .ok next) : Sound next := by
  simp only [recoverStaleRealtimeContracts, ite_error_eq_ok, Except.ok.injEq] at ran
  obtain ⟨-, rfl⟩ := ran
  refine sound.withContracts fun tested row found verified => ?_
  have live : ¬ Stale now grace row := by
    rintro ⟨executing, -⟩
    rw [executing] at verified
    cases verified
  simp [found, live]

theorem authorizeContract_sound {prompt completion : Int} {deadline : Nat}
    (ran : authorizeContract s contractId prompt completion deadline = .ok next) : Sound next := by
  unfold authorizeContract at ran
  split at ran
  · cases ran
  next absent =>
    cases ran
    refine sound.withContracts fun tested row found verified => ?_
    have ne : tested ≠ contractId := by
      rintro rfl
      rw [absent] at found
      cases found
    simpa [ne] using found

end

theorem step_sound (s : State) (event : Event) (next : State) (sound : Sound s)
    (guarded : SweepsOpenContracts s event) (ran : step s event = .ok next) : Sound next := by
  cases event with
  | authorize => exact authorizeContract_sound sound ran
  | insertIntent => exact insertRealtimeSettlementIntent_sound sound ran
  | recordFailure => exact recordRealtimeSettlementIntentFailure_sound sound guarded ran
  | finalizeSuccess => exact (finalizeRealtimeSuccess_sound sound ran).1
  | finalizeFailure => exact finalizeRealtimeFailure_sound sound ran
  | sweepRead => exact sweepRead_sound sound ran
  | sweepFinalize => exact sweepFinalize_sound sound guarded ran
  | sweepMark => exact sweepMark_sound sound ran
  | recoverStale => exact recoverStaleRealtimeContracts_sound sound ran

/-- In every run whose sweeps only finalize open contracts, every settled
intent is billed in every state reached. -/
theorem settled_intents_are_billed (events : List Event)
    (guarded : Meets step SweepsOpenContracts State.empty events) :
    SettledAreBilled (run step State.empty events) :=
  (invariant_run step_sound Sound.empty guarded).settledAreBilled

def deliveredEvidence (execution : ExecutionId) : Evidence where
  id := some execution
  httpStatus := 200
  streamRootSHA256 := "root"
  outputCommitment := "output"
  promptTokens := 3
  completionTokens := 5
  totalTokens := 8

/-- The stream of execution 7 is delivered, its settlement fails once, and the
sweep settles it. -/
def retriedRun : List Event :=
  [.authorize 0 10 10 100, .insertIntent 0 7, .finalizeSuccess 0 (deliveredEvidence 7) false,
    .recordFailure 0 7 (deliveredEvidence 7),
    .sweepRead 0 0 7, .sweepFinalize 0 true, .sweepMark 0]

theorem retriedRun_settled_and_billed :
    Meets step SweepsOpenContracts State.empty retriedRun ∧
      ((run step State.empty retriedRun).intents 0 7).map Intent.state = some .settled ∧
      SettledAreBilled (run step State.empty retriedRun) :=
  ⟨by decide, by decide, settled_intents_are_billed retriedRun (by decide)⟩

/-- The contract of the same stream passes its deadline: recovery fails it, the
sweep is told that it is already finalized and marks the intent settled. -/
def recoveredRun : List Event :=
  [.authorize 0 10 10 100, .insertIntent 0 7, .finalizeSuccess 0 (deliveredEvidence 7) false,
    .recordFailure 0 7 (deliveredEvidence 7),
    .recoverStale 200 30 10 [0],
    .sweepRead 0 0 7, .sweepFinalize 0 true, .sweepMark 0]

theorem recoveredRun_settled_unbilled :
    ¬ SettledAreBilled (run step State.empty recoveredRun) := by
  intro billed
  have settlement := (billed 0 7 ⟨.settled, 0, some (deliveredEvidence 7)⟩ (by decide) rfl).2
  exact absurd settlement (by decide)

/-- The condition on a finalize call is also needed: on a contract that ended
without the execution it makes the sweep settle an unbilled intent. -/
theorem ended_contract_settles_unbilled {item : PendingIntent} (held : s.sweeps sweep = some item)
    (named : item.evidence.id = some item.execution)
    (found : s.intents item.contract item.execution = some intent)
    (open_ : intent.state = .pending ∨ intent.state = .escalated)
    (ended : EndedWithout s item.contract item.execution) :
    ¬ SettledAreBilled (run step s [.sweepFinalize sweep settles, .sweepMark sweep]) := by
  obtain ⟨row, rowFound, notExecuting, unsettled⟩ := ended
  have rowFound' : s.contracts item.contract = some row := rowFound
  have refused :
      finalizeRealtimeSuccess s item.contract item.evidence settles = .error .alreadyFinalized := by
    simp only [finalizeRealtimeSuccess, rowFound', named]
    cases contractState : row.state with
    | executing => exact absurd contractState notExecuting
    | verified => simp [unsettled]
    | failed | cancelled => rfl
  intro billed
  have settlement := (billed item.contract item.execution intent.settle (by
        simp [apply, step, sweepFinalize, held, refused, sweepMark,
          State.setSweep, State.updateIntent, found])
      (by simp [Intent.settle, open_])).2
  simp [apply, step, sweepFinalize, held, refused, sweepMark,
    State.setSweep, State.updateIntent, unsettled] at settlement

end MercControl.Realtime
