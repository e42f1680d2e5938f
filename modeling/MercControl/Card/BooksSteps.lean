import MercControl.Card.Collection

/-!
# What a step of the collection writes

Every step is at most one transaction on the books.  Most transactions only
move the charge status of some jobs, and `StatusMove` lists all those moves;
the ones that open, reject or confirm an operation are kept apart.
-/

namespace MercControl.Card

open Library Machine Table
open Money (JobId)

variable {selected : JobCharge → Bool} {change : Table.Change JobCharge.job} {job : JobId}

variable {batch : BatchId} {status : ChargeStatus} {related : JobCharge → JobCharge → Prop}
  {books : Except Failure Books} {phase : Option Phase} {config : Config}

section

variable {b next : Books}

theorem changeJobs_ok (ran : changeJobs b selected change = .ok next) :
    (∀ row ∈ b.jobs.rows, selected row = true →
      mayBecome chargeTransitions row.status (change.apply row).status = true) ∧
      next = { b with jobs := b.jobs.update selected change } := by
  rw [changeJobs] at ran
  split at ran
  · cases ran
  · rename_i jobs updated
    obtain ⟨legal, rfl⟩ := updateAllowed_eq_some.mp updated
    exact ⟨legal, (Except.ok.inj ran).symm⟩

theorem changeJobs_of_legal (legal : ∀ row ∈ b.jobs.rows, selected row = true →
      mayBecome chargeTransitions row.status (change.apply row).status = true) :
    changeJobs b selected change = .ok { b with jobs := b.jobs.update selected change } := by
  rw [changeJobs, updateAllowed_eq_some.mpr ⟨legal, rfl⟩]

theorem changeBatch_of_legal {change : Table.Change Batch.batch}
    (legal : ∀ row ∈ b.batches.rows, row.batch = batch →
      mayBecome batchTransitions row.status (change.apply row).status = true) :
    changeBatch b batch change = .ok
        { b with batches := b.batches.update (·.batch == batch) change } := by
  have allowed : ∀ row ∈ b.batches.rows, (row.batch == batch) = true →
      mayBecome batchTransitions row.status (change.apply row).status = true :=
    fun row mem chosen => legal row mem (beq_iff_eq.mp chosen)
  rw [changeBatch, updateAllowed_eq_some.mpr ⟨allowed, rfl⟩]

theorem changeBatch_ok {change : Table.Change Batch.batch}
    (ran : changeBatch b batch change = .ok next) :
    next = { b with batches := b.batches.update (·.batch == batch) change } := by
  rw [changeBatch] at ran
  split at ran
  · cases ran
  · rename_i batches updated
    obtain ⟨_, rfl⟩ := updateAllowed_eq_some.mp updated
    exact (Except.ok.inj ran).symm

end

/-- The moves of `charge_status` outside operations: `outcome_unknown` is left
for `failed` only, `charged` never. -/
inductive StatusMove : ChargeStatus → ChargeStatus → Prop where
  | same (status : ChargeStatus) : StatusMove status status
  | defer : StatusMove .notAttempted .deferred
  | reflip : StatusMove .noPaymentMethod .deferred
  | parkNew : StatusMove .notAttempted .noPaymentMethod
  | parkDeferred : StatusMove .deferred .noPaymentMethod
  | failNew : StatusMove .notAttempted .failed
  | failDeferred : StatusMove .deferred .failed
  | failUnknown : StatusMove .outcomeUnknown .failed
  | review : StatusMove .failed .manualReview

theorem StatusMove.parked {before : ChargeStatus}
    (legal : mayBecome chargeTransitions before .noPaymentMethod = true) :
    StatusMove before .noPaymentMethod := by
  cases before with
  | notAttempted => exact .parkNew
  | deferred => exact .parkDeferred
  | noPaymentMethod => exact .same _
  | _ => exact absurd legal (by decide)

theorem StatusMove.failed {before : ChargeStatus}
    (legal : mayBecome chargeTransitions before .failed = true) : StatusMove before .failed := by
  cases before with
  | notAttempted => exact .failNew
  | deferred => exact .failDeferred
  | outcomeUnknown => exact .failUnknown
  | failed => exact .same _
  | _ => exact absurd legal (by decide)

/-- What the transactions outside operations do to a row: its status moves, its
batch, its cash and a billed amount stay. -/
structure RowMove (before after : JobCharge) : Prop where
  job : after.job = before.job
  batch : after.batch = before.batch
  cash : after.cash = before.cash
  billed : before.billedMicros.isSome → after.billedMicros = before.billedMicros
  status : StatusMove before.status after.status

structure StatusChange (before after : JobCharge) : Prop where
  move : RowMove before after
  actual : after.actualMicros = before.actualMicros
  frozen : after.frozenMicros = before.frozenMicros
  billed : after.billedMicros = before.billedMicros

theorem RowMove.refl (row : JobCharge) : RowMove row row := ⟨rfl, rfl, rfl, fun _ => rfl, .same _⟩

theorem StatusChange.refl (row : JobCharge) : StatusChange row row := ⟨.refl row, rfl, rfl, rfl⟩

theorem StatusChange.setStatus {row : JobCharge} (move : StatusMove row.status status) :
    StatusChange row ((JobCharge.setStatus status).apply row) :=
  ⟨⟨rfl, rfl, rfl, fun _ => rfl, move⟩, rfl, rfl, rfl⟩

def ActualChange (before after : JobCharge) : Prop :=
  ∃ amount, after = (JobCharge.setActual amount).apply before

theorem ActualChange.refl (row : JobCharge) : ActualChange row row := ⟨row.actualMicros, rfl⟩

theorem ActualChange.move {before after : JobCharge}
    (change : ActualChange before after) : RowMove before after := by
  obtain ⟨_, rfl⟩ := change
  exact ⟨rfl, rfl, rfl, fun _ => rfl, .same _⟩

def ChangesJobs (related : JobCharge → JobCharge → Prop) (b next : Books) : Prop :=
  ∃ jobs, Table.Mapped related b.jobs jobs ∧ next = { b with jobs }

section

variable {b next : Books}

theorem ChangesJobs.mono {weaker : JobCharge → JobCharge → Prop}
    (changed : ChangesJobs related b next)
    (implies : ∀ before after, related before after → weaker before after) :
    ChangesJobs weaker b next := by
  obtain ⟨jobs, mapped, isNext⟩ := changed
  exact ⟨jobs, mapped.mono implies, isNext⟩

theorem ChangesJobs.moves (changed : ChangesJobs StatusChange b next) :
    ChangesJobs RowMove b next :=
  changed.mono fun _ _ change => change.move

theorem changesJobs_of_changeJobs (ran : changeJobs b selected change = .ok next)
    (reflexive : ∀ row, related row row)
    (changes : ∀ row, selected row = true →
      mayBecome chargeTransitions row.status (change.apply row).status = true →
        related row (change.apply row)) : ChangesJobs related b next := by
  obtain ⟨legal, rfl⟩ := changeJobs_ok ran
  exact ⟨_, .update reflexive fun row mem chosen =>
    changes row chosen (legal row mem chosen), rfl⟩

theorem setChargeStatus_changes (target : status = .noPaymentMethod ∨ status = .failed)
    (ran : setChargeStatus b job status = .ok next) : ChangesJobs StatusChange b next := by
  refine changesJobs_of_changeJobs ran .refl fun row _ legal => ?_
  rcases target with rfl | rfl
  · exact .setStatus (.parked legal)
  · exact .setStatus (.failed legal)

theorem markJobDeferred_changes (ran : markJobDeferred b job = .ok next) :
    ChangesJobs StatusChange b next := by
  refine changesJobs_of_changeJobs ran .refl fun row chosen _ => ?_
  simp only [Bool.and_eq_true, beq_iff_eq] at chosen
  apply StatusChange.setStatus
  rw [chosen.2]
  exact .defer

theorem reflipNoCardJobs_changes (ran : reflipNoCardJobs b = .ok next) :
    ChangesJobs StatusChange b next := by
  refine changesJobs_of_changeJobs ran .refl fun row chosen _ => ?_
  simp only [Bool.and_eq_true, beq_iff_eq] at chosen
  apply StatusChange.setStatus
  rw [chosen.1.1]
  exact .reflip

theorem markBuyerDeferredNoCard_changes (ran : markBuyerDeferredNoCard b = .ok next) :
    ChangesJobs StatusChange b next :=
  changesJobs_of_changeJobs ran .refl fun _ _ legal => .setStatus (.parked legal)

theorem advanceFailedChargeRetry_changes (ran : advanceFailedChargeRetry b job = .ok next) :
    ChangesJobs StatusChange b next := by
  rw [advanceFailedChargeRetry] at ran
  split_ifs at ran
  refine changesJobs_of_changeJobs ran .refl fun row chosen _ => ?_
  simp only [Bool.and_eq_true, beq_iff_eq] at chosen
  refine ⟨⟨rfl, rfl, rfl, fun _ => rfl, ?_⟩, rfl, rfl, rfl⟩
  show StatusMove row.status (if _ then .manualReview else row.status)
  split_ifs
  · rw [chosen.2]
    exact .review
  · exact .same _

theorem markChargeManualReview_changes (ran : markChargeManualReview b job = .ok next) :
    ChangesJobs StatusChange b next := by
  rw [markChargeManualReview] at ran
  split_ifs at ran
  refine changesJobs_of_changeJobs ran .refl fun row chosen _ => ?_
  simp only [Bool.and_eq_true, beq_iff_eq] at chosen
  apply StatusChange.setStatus
  rw [chosen.2]
  exact .review

theorem freezeChargeAmount_moves {amount : Int} (ran : freezeChargeAmount b job amount = .ok next) :
    ChangesJobs RowMove b next := by
  refine changesJobs_of_changeJobs ran .refl fun row _ _ => ?_
  refine ⟨rfl, rfl, rfl, ?_, .same _⟩
  intro billed
  obtain ⟨amount, isBilled⟩ := Option.isSome_iff_exists.mp billed
  simp [JobCharge.freeze, isBilled]

theorem setActual_changes (job : JobId) (amount : Money.Job → Int) :
    ChangesJobs ActualChange b (setActual b job amount) := by
  rw [setActual]
  split
  · exact ⟨b.jobs, .refl ActualChange.refl _, rfl⟩
  · exact ⟨_, .update ActualChange.refl fun _ _ _ => ⟨_, rfl⟩, rfl⟩

theorem applyLedger_ok {event : Money.Event} (ran : applyLedger b event = .ok next) :
    ∃ ledger, Money.step b.ledger event = .ok ledger ∧
      (ChangesJobs ActualChange { b with ledger } next ∨ ∃ job, ∃ fresh : b.jobs.find? job = none,
          next =
            { b with ledger, jobs := b.jobs.insert (.submitted job) fresh }) := by
  rw [applyLedger] at ran
  rcases outcome : Money.step b.ledger event with _ | ledger
  · simp [outcome] at ran
  simp only [outcome, Except.ok.injEq] at ran
  subst ran
  have unchanged : ChangesJobs ActualChange { b with ledger } { b with ledger } :=
    ⟨b.jobs, .refl ActualChange.refl _, rfl⟩
  refine ⟨ledger, rfl, ?_⟩
  cases event with
  | submitJob job =>
    rw [recordLedgerEvent]
    split_ifs with fresh
    · exact .inr ⟨job, fresh, rfl⟩
    · exact .inl unchanged
  | finalizeJob => exact .inl (setActual_changes _ _)
  | moveJob job status =>
    cases status with
    | failed => exact .inl (setActual_changes _ _)
    | _ => exact .inl unchanged
  | _ => exact .inl unchanged

theorem setJobActualUSD_changes (ran : setJobActualUSD b job = .ok next) :
    ChangesJobs ActualChange b next := by
  rw [setJobActualUSD] at ran
  split at ran
  · cases ran
  · split_ifs at ran
    rw [← Except.ok.inj ran]
    exact setActual_changes _ _

end

section

variable (begins bumps : Books → Source → Prop)

inductive Kind where
  | ledger
  | actual
  | freeze
  | form
  | collect

def Event.kind : Event → Kind
  | .ledger _ => .ledger
  | .setJobActualUSD _ => .actual
  | .freezeCharge _ => .freeze
  | .formChargeBatch _ => .form
  | _ => .collect

/-- The transactions, with a condition on the operations that are begun and the
batches whose retries are counted. -/
inductive Transaction (b : Books) : Kind → Books → Prop where
  | ledger {next : Books} (event : Money.Event) (committed : applyLedger b event = .ok next) :
      Transaction b .ledger next
  | actual {next : Books} (job : JobId) (committed : setJobActualUSD b job = .ok next) :
      Transaction b .actual next
  | freeze {next : Books} (job : JobId) (amountMicros : Int)
      (committed : freezeChargeAmount b job amountMicros = .ok next) :
      Transaction b .freeze next
  | form {next : Books} (batch : BatchId) (committed : formChargeBatch b batch = .ok next) :
      Transaction b .form next
  | status {next : Books} (changed : ChangesJobs StatusChange b next) : Transaction b .collect next
  | bump {next : Books} (batch : BatchId) (allowed : bumps b (.batch batch))
      (committed : bumpChargeBatchRetry b batch = .ok next) :
      Transaction b .collect next
  | begin {next : Books} (source : Source) (amountCents : Int)
      (paymentMethod : PaymentMethod) (allowed : begins b source)
      (committed :
        beginBuyerChargeOperation b source amountCents paymentMethod =
          .ok next) : Transaction b .collect next
  | reject {next : Books} (source : Source)
      (committed : markBuyerChargeDefinitelyFailed b source = .ok next) :
      Transaction b .collect next
  | confirm {next : Books} (source : Source) (cash : Cash) (cents : Int) (requireOperation : Bool)
      (committed :
        confirmCharge b source cash cents requireOperation = .ok next) : Transaction b .collect next

/-- The condition on the events: the calls that begin an operation and those
that count a retry of a batch. -/
def Conditions (s : State) : Event → Prop
  | .beginCharge process _ =>
    ∀ call ∈ s.calls process, call.phase = .charging → begins s.books call.source
  | .failCharge process =>
    ∀ call ∈ s.calls process, call.phase = .failing → bumps s.books call.source
  | _ => True

instance [∀ b source, Decidable (begins b source)]
    [∀ b source, Decidable (bumps b source)] (s : State) (event : Event) :
    Decidable (Conditions begins bumps s event) := by
  cases event <;> unfold Conditions <;> infer_instance

variable {begins bumps}

theorem conditions_trivial (s : State) (event : Event) :
    Conditions (fun _ _ => True) (fun _ _ => True) s event := by
  cases event with
  | beginCharge | failCharge => exact fun _ _ _ => trivial
  | _ => trivial

section

variable {s next : State} {process : ProcessId}

theorem advance_ok {current : Phase} {body : Call → Except Failure (Books × Option Phase)}
    (ran : s.advance process current body = .ok next) :
    ∃ call phase, s.calls process = some call ∧ call.phase = current ∧
      body call = .ok (next.books, phase) ∧
      next.calls =
        Function.update s.calls process (phase.map fun phase => { call with phase }) := by
  rw [State.advance] at ran
  rcases found : s.calls process with _ | call
  · simp [found] at ran
  simp only [found, ite_error_eq_ok, not_not] at ran
  obtain ⟨inPhase, ran⟩ := ran
  rcases outcome : body call with _ | pair
  · simp [outcome] at ran
  obtain ⟨_, phase⟩ := pair
  simp only [outcome, Except.ok.injEq] at ran
  subst ran
  exact ⟨call, phase, rfl, inPhase, outcome, rfl⟩

theorem thenPhase_ok {after : Option Phase} {written : Books}
    (ran : thenPhase books phase = .ok (written, after)) : books = .ok written ∧ after = phase := by
  cases books with
  | error => cases ran
  | ok =>
    cases ran
    exact ⟨rfl, rfl⟩

theorem begin_ok {call : Call} (ran : s.begin process call = .ok next) : s.calls process = none ∧
      next = { s with calls := Function.update s.calls process (some call) } := by
  simp only [State.begin, ite_error_eq_ok, Except.ok.injEq] at ran
  exact ⟨by simpa using ran.1, ran.2.symm⟩

theorem write_ok (ran : s.write books = .ok next) :
    books = .ok next.books ∧ next.calls = s.calls := by
  cases books with
  | error => cases ran
  | ok =>
    rw [← Except.ok.inj ran]
    exact ⟨rfl, rfl⟩

theorem decideCharge_ok {small : Bool} {write : JobId → Int → Except Failure Books} (ran :
      decideCharge config s process small write phase = .ok next) :
    ∃ call job, s.calls process = some call ∧ call.phase = .checked ∧ call.source = .job job ∧
      decide (call.amountMicros < config.thresholdMicros) = small ∧
      write job call.amountMicros = .ok next.books ∧
      next.calls =
        Function.update s.calls process (phase.map fun phase => { call with phase }) := by
  obtain ⟨call, _, found, inPhase, body, calls⟩ := advance_ok ran
  cases ofSource : call.source with
  | batch => simp [ofSource] at body
  | job job =>
    simp only [ofSource] at body
    split_ifs at body with size
    obtain ⟨written, rfl⟩ := thenPhase_ok body
    exact ⟨call, job, found, inPhase, ofSource, size, written, calls⟩

end

theorem step_transaction {s next : State} {event : Event}
    (guarded : Conditions begins bumps s event) (ran : step config s event = .ok next) :
    next.books = s.books ∨ Transaction begins bumps s.books event.kind next.books := by
  cases event with
  | ledger event => exact .inr (.ledger event (write_ok ran).1)
  | setJobActualUSD job => exact .inr (.actual job (write_ok ran).1)
  | startCharge =>
    rw [step, startCharge] at ran
    split at ran
    · simp only [ite_error_eq_ok] at ran
      rw [(begin_ok ran.2).2]
      exact .inl rfl
    · cases ran
  | checkStatus =>
    obtain ⟨call, _, _, _, body, _⟩ := advance_ok ran
    left
    cases ofSource : call.source with
    | batch => simp [ofSource] at body
    | job =>
      simp only [ofSource] at body
      split at body
      · cases body
      · split_ifs at body <;> exact (Prod.mk.inj (Except.ok.inj body)).1.symm
  | deferCharge =>
    rw [step, deferCharge] at ran
    obtain ⟨_, _, _, _, _, _, written, _⟩ := decideCharge_ok ran
    exact .inr (.status (markJobDeferred_changes written))
  | parkCharge =>
    rw [step, parkCharge] at ran
    obtain ⟨_, _, _, _, _, _, written, _⟩ := decideCharge_ok ran
    exact .inr (.status (setChargeStatus_changes (.inl rfl) written))
  | freezeCharge =>
    obtain ⟨_, _, _, _, _, _, written, _⟩ := decideCharge_ok ran
    exact .inr (.freeze _ _ written)
  | startRetry | startBatch =>
    simp only [step, startRetry, startBatch] at ran
    split at ran
    · cases ran
    · simp only [ite_error_eq_ok] at ran
      rw [(begin_ok ran.2).2]
      exact .inl rfl
  | refuseCharge =>
    rw [step, refuseCharge] at ran
    obtain ⟨_, _, _, _, body, _⟩ := advance_ok ran
    exact .inl (Prod.mk.inj (Except.ok.inj body)).1.symm
  | beginCharge process paymentMethod =>
    obtain ⟨call, _, found, inPhase, body, _⟩ := advance_ok ran
    exact
      .inr (.begin call.source _ paymentMethod (guarded call found inPhase) (thenPhase_ok body).1)
  | rejectCharge =>
    obtain ⟨call, _, _, _, body, _⟩ := advance_ok ran
    exact .inr (.reject call.source (thenPhase_ok body).1)
  | confirmSent process cash =>
    obtain ⟨call, _, _, _, body, _⟩ := advance_ok ran
    exact .inr (.confirm call.source cash _ false (thenPhase_ok body).1)
  | failCharge =>
    obtain ⟨call, _, found, inPhase, body, _⟩ := advance_ok ran
    have written := (thenPhase_ok body).1
    rw [failedCharge] at written
    split at written
    · exact .inr (.status (setChargeStatus_changes (.inr rfl) written))
    · exact .inr (.status (advanceFailedChargeRetry_changes written))
    · rename_i batch _ ofSource
      have allowed := guarded call found inPhase
      rw [ofSource] at allowed
      exact .inr (.bump batch allowed written)
    · cases written
  | dropCall =>
    rw [step, dropCall] at ran
    split at ran
    · cases ran
    · rw [← Except.ok.inj ran]
      exact .inl rfl
  | reconcile source cash cents => exact .inr (.confirm source cash cents true (write_ok ran).1)
  | markChargeManualReview =>
    exact .inr (.status (markChargeManualReview_changes (write_ok ran).1))
  | reflipNoCardJobs => exact .inr (.status (reflipNoCardJobs_changes (write_ok ran).1))
  | markBuyerDeferredNoCard =>
    exact .inr (.status (markBuyerDeferredNoCard_changes (write_ok ran).1))
  | formChargeBatch batch => exact .inr (.form batch (write_ok ran).1)

/-- What every transaction keeps, a guarded run keeps. -/
theorem books_run {good : Books → Prop} {s : State} {events : List Event}
    (keeps : ∀ b kind next, good b → Transaction begins bumps b kind next → good next)
    (holds : good s.books) (guarded : Meets (step config) (Conditions begins bumps) s events) :
    good (run (step config) s events).books := by
  have kept : ∀ s event next, good s.books → Conditions begins bumps s event →
      step config s event = .ok next → good next.books := by
    intro s event next sound guarded ran
    rcases step_transaction guarded ran with unchanged | made
    · rw [unchanged]
      exact sound
    · exact keeps s.books event.kind next.books sound made
  exact invariant_run kept holds guarded

end

end MercControl.Card
