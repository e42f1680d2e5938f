import MercControl.Card.OperationSteps

/-!
# Which steps touch an amount

Amounts of jobs are written in four places only: the ledger and
`SetJobActualUSD` write the actual charge, `FreezeChargeAmount` freezes what a
single job is charged, `FormChargeBatch` what the members of a batch are.
-/

namespace MercControl.Card

open Library Machine
open Money (JobId)

structure Kept (before after : JobCharge) : Prop where
  job : after.job = before.job
  actual : after.actualMicros = before.actualMicros
  frozen : after.frozenMicros = before.frozenMicros
  billed : after.billedMicros = before.billedMicros
  batch : after.batch = before.batch

variable {source : Source}

theorem Kept.refl (row : JobCharge) : Kept row row := ⟨rfl, rfl, rfl, rfl, rfl⟩

theorem StatusChange.kept {before after : JobCharge}
    (change : StatusChange before after) : Kept before after :=
  { change with job := change.move.job, batch := change.move.batch }

def Batch.SameAmount (before after : Batch) : Prop :=
  after.batch = before.batch ∧ after.amountMicros = before.amountMicros

theorem Batch.SameAmount.refl (row : Batch) : row.SameAmount row := ⟨rfl, rfl⟩

structure Keeps (b next : Books) : Prop where
  ledger : next.ledger = b.ledger
  jobs : Table.Mapped Kept b.jobs next.jobs
  batches : Table.Mapped Batch.SameAmount b.batches next.batches

variable {requireOperation : Bool} {event : Event}

section

variable {b middle next : Books}

theorem Keeps.refl (b : Books) : Keeps b b :=
  ⟨rfl, .refl Kept.refl _, .refl Batch.SameAmount.refl _⟩

theorem Frame.keeps (frame : Frame b middle) (keeps : Keeps middle next) : Keeps b next := by
  obtain ⟨sameLedger, jobs, batches⟩ := keeps
  rw [frame.ledger] at sameLedger
  rw [frame.jobs] at jobs
  rw [frame.batches] at batches
  exact ⟨sameLedger, jobs, batches⟩

theorem Keeps.update {selectedJobs : JobCharge → Bool}
    {changeJob : Table.Change JobCharge.job} {selectedBatches : Batch → Bool}
    {changeBatch : Table.Change Batch.batch} (keepsJob : ∀ row, Kept row (changeJob.apply row))
    (keepsBatch : ∀ row, Batch.SameAmount row (changeBatch.apply row)) :
    Keeps b
      { b with
        jobs := b.jobs.update selectedJobs changeJob
        batches := b.batches.update selectedBatches changeBatch } :=
  ⟨rfl, .update Kept.refl fun row _ _ => keepsJob row,
    .update Batch.SameAmount.refl fun row _ _ => keepsBatch row⟩

theorem Keeps.updateJobs {selected : JobCharge → Bool} {change : Table.Change JobCharge.job}
    (keepsJob : ∀ row, Kept row (change.apply row)) :
    Keeps b { b with jobs := b.jobs.update selected change } :=
  ⟨rfl, .update Kept.refl fun row _ _ => keepsJob row, .refl Batch.SameAmount.refl _⟩

theorem Keeps.updateBatches {selected : Batch → Bool} {change : Table.Change Batch.batch}
    (keepsBatch : ∀ row, Batch.SameAmount row (change.apply row)) :
    Keeps b { b with batches := b.batches.update selected change } :=
  ⟨rfl, .refl Kept.refl _, .update Batch.SameAmount.refl fun row _ _ => keepsBatch row⟩

theorem ChangesJobs.keeps (changed : ChangesJobs StatusChange b next) : Keeps b next := by
  obtain ⟨_, mapped, rfl⟩ := changed
  exact ⟨rfl, mapped.mono fun _ _ change => change.kept, .refl Batch.SameAmount.refl _⟩

theorem bumpChargeBatchRetry_keeps {batch : BatchId}
    (ran : bumpChargeBatchRetry b batch = .ok next) : Keeps b next := by
  obtain ⟨_, _, _, written⟩ := bumpChargeBatchRetry_ok ran
  rcases written with ⟨_, rfl⟩ | rfl
  · exact .update (fun _ => ⟨rfl, rfl, rfl, rfl, rfl⟩) fun _ => ⟨rfl, rfl⟩
  · exact .updateBatches fun _ => ⟨rfl, rfl⟩

theorem beginBuyerChargeOperation_keeps {amountCents : Int} {paymentMethod : PaymentMethod}
    (ran : beginBuyerChargeOperation b source amountCents paymentMethod = .ok next) :
    Keeps b next := by
  cases source with
  | job =>
    obtain ⟨_, _, _, _, arms, rfl⟩ := beginJobCharge_ok ran
    rw [← arms.frame.jobs]
    exact arms.frame.keeps (.updateJobs fun _ => ⟨rfl, rfl, rfl, rfl, rfl⟩)
  | batch =>
    obtain ⟨_, _, _, written⟩ := beginBatchCharge_ok ran
    rcases written with ⟨fresh, pos, rfl⟩ | ⟨_, found, failed, rfl⟩
    · have arms := Armed.insert (b := b) amountCents paymentMethod fresh pos
      exact arms.frame.keeps (.update (fun _ => ⟨rfl, rfl, rfl, rfl, rfl⟩) fun _ => ⟨rfl, rfl⟩)
    · have arms := Armed.rearm (b := b) _ paymentMethod found failed
      exact arms.frame.keeps (.updateBatches fun _ => ⟨rfl, rfl⟩)

theorem markBuyerChargeDefinitelyFailed_keeps
    (ran : markBuyerChargeDefinitelyFailed b source = .ok next) : Keeps b next := by
  rcases markBuyerChargeDefinitelyFailed_ok ran with rfl | ⟨operation, _, _, written⟩
  · exact .refl _
  · have frame : Frame b (rejectOperation b operation) := ⟨rfl, rfl, rfl, rfl⟩
    rcases written with ⟨job, _, failed⟩ | ⟨batch, row, _, _, _, rfl⟩
    · exact frame.keeps (setChargeStatus_changes (.inr rfl) failed).keeps
    · exact frame.keeps (.updateBatches fun _ => ⟨rfl, rfl⟩)

theorem recordCash_keeps {cash : Cash} {cents : Int}
    (ran : recordCash b source cash cents requireOperation = .ok next)
    {last : Books} (keeps : Keeps next last) : Keeps b last := by
  obtain ⟨collections, _, _, rfl⟩ := recordCash_ok ran
  have frame := settleOperation_frame (b := { b with collections }) (b.operations.find? source) cash
  obtain ⟨sameLedger, jobs, batches⟩ := frame.keeps keeps
  exact ⟨sameLedger, jobs, batches⟩

theorem confirmCharge_keeps {cash : Cash} {cents : Int}
    (ran : confirmCharge b source cash cents requireOperation = .ok next) : Keeps b next := by
  cases source with
  | job =>
    obtain ⟨_, recorded, _, isRecorded, written⟩ := confirmJobCharge_ok ran
    apply recordCash_keeps isRecorded
    rcases written with ⟨_, rfl⟩ | rfl
    · exact .refl _
    · exact .updateJobs fun _ => ⟨rfl, rfl, rfl, rfl, rfl⟩
  | batch =>
    obtain ⟨_, recorded, _, isRecorded, written⟩ := confirmBatchCharge_ok ran
    apply recordCash_keeps isRecorded
    rcases written with ⟨_, rfl⟩ | rfl
    · exact .refl _
    · exact .update (fun _ => ⟨rfl, rfl, rfl, rfl, rfl⟩) fun _ => ⟨rfl, rfl⟩

theorem Transaction.keeps {begins bumps : Books → Source → Prop}
    (made : Transaction begins bumps b .collect next) : Keeps b next := by
  cases made with
  | status changed => exact changed.keeps
  | bump batch allowed written => exact bumpChargeBatchRetry_keeps written
  | begin source cents paymentMethod allowed written =>
    exact beginBuyerChargeOperation_keeps written
  | reject source written => exact markBuyerChargeDefinitelyFailed_keeps written
  | confirm source cash cents requireOperation written => exact confirmCharge_keeps written

end

theorem step_keeps {config : Config} {s next : State} (collects : event.kind = .collect)
    (ran : step config s event = .ok next) : Keeps s.books next.books := by
  rcases step_transaction (conditions_trivial s event) ran with same | made
  · rw [same]
    exact .refl _
  · rw [collects] at made
    exact made.keeps

def Phase.early : Phase → Bool
  | .priced => true
  | .checked => true
  | _ => false

section

variable {config : Config} {s next : State} {process other : ProcessId}
variable {call : Call}

def Continues (s : State) (process : ProcessId) (call : Call) : Prop :=
  ∃ phase : Phase, phase.early = true ∧ s.calls process = some { call with phase }

theorem call_of_update {calls : ProcessId → Option Call} {changed : Option Call}
    (found : Function.update calls process changed other = some call) :
    (other = process ∧ changed = some call) ∨ calls other = some call := by
  by_cases same : other = process
  · rw [same, Function.update_self] at found
    exact .inl ⟨same, found⟩
  · rw [Function.update_of_ne same] at found
    exact .inr found

theorem advance_continues {current : Phase} {body : Call → Except Failure (Books × Option Phase)}
    (ran : s.advance process current body = .ok next)
    (goesOn : ∀ before books phase, body before = .ok (books, some phase) →
      phase.early = true → current.early = true)
    (found : next.calls other = some call) (early : call.phase.early = true) :
    Continues s other call := by
  obtain ⟨before, phase, isBefore, inPhase, body, calls⟩ := advance_ok ran
  rw [calls] at found
  rcases call_of_update found with ⟨rfl, advanced⟩ | untouched
  · cases phase with
    | none => cases advanced
    | some after =>
      obtain rfl := Option.some.inj advanced
      refine ⟨before.phase, ?_, isBefore⟩
      rw [inPhase]
      exact goesOn before _ after body early
  · exact ⟨call.phase, early, untouched⟩

theorem begin_continues {started : Call} (ran : s.begin process started = .ok next)
    (found : next.calls other = some call) (early : call.phase.early = true) :
    Continues s other call ∨ (other = process ∧ call = started) := by
  obtain ⟨_, rfl⟩ := begin_ok ran
  rcases call_of_update found with ⟨same, isStarted⟩ | untouched
  · exact .inr ⟨same, (Option.some.inj isStarted).symm⟩
  · exact .inl ⟨call.phase, early, untouched⟩

/-- The amount of an early call was read by `JobChargeInfo` in the state the
call started in. -/
theorem step_continues (ran : step config s event = .ok next)
    (found : next.calls process = some call) (early : call.phase.early = true) :
    Continues s process call ∨
      ∃ job row ledgerRow, event = .startCharge process job ∧ s.books.jobs.find? job = some row ∧
        s.books.ledger.jobs.find? job = some ledgerRow ∧
        0 < jobChargeInfo row ledgerRow ∧
        call =
          { caller := .chargeOrDeferJob, source := .job job,
            amountMicros := jobChargeInfo row ledgerRow,
            slaRefundMicros := Money.micros ledgerRow.slaRefund,
            phase := .priced } := by
  have unwritten : next.calls = s.calls → Continues s process call := by
    intro same
    rw [same] at found
    exact ⟨call.phase, early, found⟩
  cases event with
  | startCharge starting job =>
    rw [step, startCharge] at ran
    split at ran
    · rename_i row ledgerRow isRow isLedgerRow
      simp only [ite_error_eq_ok] at ran
      rcases begin_continues ran.2 found early with old | ⟨rfl, isCall⟩
      · exact .inl old
      · exact .inr ⟨job, row, ledgerRow, rfl, isRow, isLedgerRow, by omega, isCall⟩
    · cases ran
  | startRetry | startBatch =>
    simp only [step, startRetry, startBatch] at ran
    split at ran
    · cases ran
    simp only [ite_error_eq_ok] at ran
    rcases begin_continues ran.2 found early with old | ⟨_, rfl⟩
    · exact .inl old
    · cases early
  | checkStatus | deferCharge | parkCharge | freezeCharge =>
    exact .inl (advance_continues ran (fun _ _ _ _ _ => rfl) found early)
  | refuseCharge =>
    rw [step, refuseCharge] at ran
    refine .inl (advance_continues ran ?_ found early)
    intro before books phase outcome isEarly
    obtain ⟨_, isPhase⟩ := Prod.mk.inj (Except.ok.inj outcome)
    rw [← Option.some.inj isPhase] at isEarly
    cases isEarly
  | beginCharge | rejectCharge =>
    refine .inl (advance_continues ran ?_ found early)
    intro before books phase outcome isEarly
    obtain rfl := Option.some.inj (thenPhase_ok outcome).2
    cases isEarly
  | confirmSent | failCharge =>
    refine .inl (advance_continues ran ?_ found early)
    intro before books phase outcome _
    cases (thenPhase_ok outcome).2
  | dropCall =>
    rw [step, dropCall] at ran
    split at ran
    · cases ran
    rw [← Except.ok.inj ran] at found
    rcases call_of_update found with ⟨_, isNone⟩ | untouched
    · cases isNone
    · exact .inl ⟨call.phase, early, untouched⟩
  | ledger | setJobActualUSD | reconcile | markChargeManualReview | reflipNoCardJobs
  | markBuyerDeferredNoCard | formChargeBatch =>
    exact .inl (unwritten (write_ok ran).2)

end

end MercControl.Card
