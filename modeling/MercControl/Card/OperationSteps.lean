import MercControl.Card.BooksSteps

/-!
# What the operations write

One lemma for each transaction that begins, rejects, confirms or retries an
operation, and for the formation of a batch.
-/

namespace MercControl.Card

open Library Machine
open Money (JobId)

variable {b next : Books}

variable {amountCents cents : Int} {paymentMethod : PaymentMethod}
  {source : Source} {batch : BatchId} {cash : Cash} {requireOperation : Bool}

theorem checkRetry_ok {operation : Operation}
    (checked : checkRetry operation amountCents paymentMethod = .ok ()) :
    operation.status = .failed := by
  simp only [checkRetry, ite_error_eq_ok, not_not] at checked
  exact checked.2.1

/-- The operation of the source is new, or it had failed and is armed under
its next key. -/
inductive Armed (b : Books) (source : Source) : Books → Prop where
  | insert (amountCents : Int) (paymentMethod : PaymentMethod)
      (fresh : b.operations.find? source = none)
      (positive : 0 < amountCents) :
      Armed b source (insertOperation b source amountCents paymentMethod fresh)
  | rearm (operation : Operation) (paymentMethod : PaymentMethod)
      (found : b.operations.find? source = some operation)
      (failed : operation.status = .failed) :
      Armed b source (rearmOperation b operation paymentMethod)

structure Frame (b next : Books) : Prop where
  ledger : next.ledger = b.ledger
  jobs : next.jobs = b.jobs
  batches : next.batches = b.batches
  collections : next.collections = b.collections

theorem Armed.frame {armed : Books} (arms : Armed b source armed) : Frame b armed := by
  cases arms with
  | insert | rearm => exact ⟨rfl, rfl, rfl, rfl⟩

theorem settleOperation_frame (operation : Option Operation) (cash : Cash) :
    Frame b (settleOperation b operation cash) := by
  cases operation with
  | none => exact ⟨rfl, rfl, rfl, rfl⟩
  | some =>
    simp only [settleOperation]
    split_ifs
    all_goals exact ⟨rfl, rfl, rfl, rfl⟩

theorem beginJobCharge_ok {job : JobId}
    (ran : beginJobCharge b job amountCents paymentMethod = .ok next) :
    ∃ row armed, b.jobs.find? job = some row ∧ row.status ≠ .charged ∧ Armed b (.job job) armed ∧
      next =
        { armed with
          jobs := b.jobs.update (·.job == job) (JobCharge.setStatus .outcomeUnknown) } := by
  rw [beginJobCharge] at ran
  rcases found : b.jobs.find? job with _ | row
  · simp [found] at ran
  simp only [found, ite_error_eq_ok] at ran
  obtain ⟨_, uncharged, ran⟩ := ran
  by_cases fresh : b.operations.find? (.job job) = none
  · rw [dif_pos fresh] at ran
    exact ⟨row, _, rfl, uncharged, .insert amountCents paymentMethod fresh (by omega),
        (changeJobs_ok ran).2⟩
  · rw [dif_neg fresh] at ran
    split at ran
    · cases ran
    rename_i operation isOperation
    obtain ⟨_, checked, ran⟩ := bind_eq_ok.mp ran
    split_ifs at ran
    exact ⟨row, _, rfl, uncharged,
        .rearm operation paymentMethod isOperation (checkRetry_ok checked),
        (changeJobs_ok ran).2⟩

/-- A new operation marks its batch and the members; a retry leaves both alone. -/
theorem beginBatchCharge_ok (ran : beginBatchCharge b batch amountCents paymentMethod = .ok next) :
    ∃ row, b.batches.find? batch = some row ∧ row.status.isOpen = true ∧
      ((∃ fresh : b.operations.find? (.batch batch) = none, 0 < amountCents ∧ next =
            { insertOperation b (.batch batch) amountCents paymentMethod fresh with
              batches := b.batches.update (·.batch == batch) (Batch.setStatus .outcomeUnknown)
              jobs := b.jobs.update (fun row => row.batch == some batch && row.status != .charged)
                (JobCharge.setStatus .outcomeUnknown) }) ∨
        ∃ operation, b.operations.find? (.batch batch) = some operation ∧
          operation.status = .failed ∧
          next =
            { rearmOperation b operation paymentMethod with
              batches := b.batches.update (·.batch == batch) (Batch.setStatus .attempting) }) := by
  rw [beginBatchCharge] at ran
  rcases found : b.batches.find? batch with _ | row
  · simp [found] at ran
  simp only [found, ite_error_eq_ok] at ran
  obtain ⟨_, _, ran⟩ := ran
  refine ⟨row, rfl, ?_⟩
  by_cases fresh : b.operations.find? (.batch batch) = none
  · rw [dif_pos fresh, ite_error_eq_ok, not_not] at ran
    obtain ⟨attempting, ran⟩ := ran
    obtain ⟨_, markedEq, ran⟩ := bind_eq_ok.mp ran
    have isOpen : row.status.isOpen = true := by
      rw [attempting]
      rfl
    refine ⟨isOpen, .inl ⟨fresh, by omega, ?_⟩⟩
    rw [(changeJobs_ok ran).2, changeBatch_ok markedEq]
    rfl
  · rw [dif_neg fresh] at ran
    split at ran
    · cases ran
    rename_i operation isOperation
    obtain ⟨_, checked, ran⟩ := bind_eq_ok.mp ran
    split_ifs at ran with isOpen
    exact ⟨isOpen, .inr ⟨operation, isOperation, checkRetry_ok checked, changeBatch_ok ran⟩⟩

/-- A rejection is recorded once, for an unknown outcome and a source that is
waiting for it. -/
theorem markBuyerChargeDefinitelyFailed_ok
    (ran : markBuyerChargeDefinitelyFailed b source = .ok next) :
    next = b ∨
      ∃ operation, b.operations.find? source = some operation ∧ operation.status = .outcomeUnknown ∧
        ((∃ job, source = .job job ∧
            setChargeStatus (rejectOperation b operation) job .failed = .ok next) ∨
          ∃ batch row, source = .batch batch ∧
            b.batches.find? batch = some row ∧ row.status.isOpen = true ∧
            next =
              { rejectOperation b operation with
                batches := b.batches.update (·.batch == batch)
                  (Batch.setStatus .attempting) }) := by
  rw [markBuyerChargeDefinitelyFailed] at ran
  rcases found : b.operations.find? source with _ | operation
  · simp [found] at ran
  simp only [found] at ran
  split_ifs at ran with failed succeeded
  · exact .inl (Except.ok.inj ran).symm
  have unknown : operation.status = .outcomeUnknown := by
    cases status : operation.status with
    | outcomeUnknown => rfl
    | failed => exact absurd status failed
    | succeeded => exact absurd status succeeded
  refine .inr ⟨operation, rfl, unknown, ?_⟩
  cases source with
  | job job =>
    simp only at ran
    split at ran
    · cases ran
    · split_ifs at ran
      exact .inl ⟨job, rfl, ran⟩
  | batch batch =>
    simp only at ran
    split at ran
    · cases ran
    · rename_i row isRow
      split_ifs at ran with isOpen
      exact .inr ⟨batch, row, rfl, isRow, isOpen, changeBatch_ok ran⟩

theorem recordCollection_ok {collections recorded : List Collection} {row : Collection}
    (ran : recordCollection collections row = .ok recorded) :
    recorded = collections ∨ recorded = collections ++ [row] := by
  rw [recordCollection] at ran
  split at ran
  · split_ifs at ran
    exact .inl (Except.ok.inj ran).symm
  · split_ifs at ran
    exact .inr (Except.ok.inj ran).symm

theorem recordCash_ok (ran : recordCash b source cash cents requireOperation = .ok next) :
    ∃ collections, recordCollection b.collections ⟨cash, source, cents⟩ = .ok collections ∧
      operationAccepts (b.operations.find? source) cash cents = true ∧
      next = settleOperation { b with collections } (b.operations.find? source) cash := by
  simp only [recordCash, ite_error_eq_ok] at ran
  obtain ⟨_, _, accepted, ran⟩ := ran
  obtain ⟨collections, recorded, ran⟩ := bind_eq_ok.mp ran
  exact ⟨collections, recorded, by simpa using accepted, (Except.ok.inj ran).symm⟩

theorem confirmJobCharge_ok {job : JobId} (ran :
      confirmJobCharge b job cash cents requireOperation = .ok next) :
    ∃ row recorded, b.jobs.find? job = some row ∧
      recordCash b (.job job) cash cents requireOperation = .ok recorded ∧
      ((row.status = .charged ∧ next = recorded) ∨ next =
          { recorded with
            jobs := recorded.jobs.update (·.job == job)
              (JobCharge.collect ⟨cash.paymentIntent, cents⟩) }) := by
  rw [confirmJobCharge] at ran
  rcases found : b.jobs.find? job with _ | row
  · simp [found] at ran
  simp only [found, ite_error_eq_ok] at ran
  obtain ⟨recorded, isRecorded, ran⟩ := bind_eq_ok.mp ran.2
  refine ⟨row, recorded, rfl, isRecorded, ?_⟩
  split_ifs at ran with charged
  · exact .inl ⟨charged, (Except.ok.inj ran).symm⟩
  · exact .inr (changeJobs_ok ran).2

theorem confirmBatchCharge_ok (ran :
      confirmBatchCharge b batch cash cents requireOperation = .ok next) :
    ∃ row recorded, b.batches.find? batch = some row ∧
      recordCash b (.batch batch) cash cents requireOperation = .ok recorded ∧
      ((row.status = .charged ∧ next = recorded) ∨ next =
          { recorded with
            batches := recorded.batches.update (·.batch == batch)
              (Batch.collect ⟨cash.paymentIntent, cents⟩)
            jobs := recorded.jobs.update (·.batch == some batch)
              (JobCharge.setStatus .charged) }) := by
  rw [confirmBatchCharge] at ran
  rcases found : b.batches.find? batch with _ | row
  · simp [found] at ran
  simp only [found] at ran
  by_cases charged : row.status = .charged
  · rw [if_pos charged, ite_error_eq_ok] at ran
    exact ⟨row, next, rfl, ran.2, .inl ⟨charged, rfl⟩⟩
  · rw [if_neg charged, ite_error_eq_ok] at ran
    obtain ⟨recorded, isRecorded, ran⟩ := bind_eq_ok.mp ran.2
    obtain ⟨_, isSettled, ran⟩ := bind_eq_ok.mp ran
    refine ⟨row, recorded, rfl, isRecorded, .inr ?_⟩
    rw [(changeJobs_ok ran).2, changeBatch_ok isSettled]

theorem bumpChargeBatchRetry_ok (ran : bumpChargeBatchRetry b batch = .ok next) :
    ∃ row, b.batches.find? batch = some row ∧ row.status.isOpen = true ∧
      ((chargeMaxAttempts ≤ row.attempts + 1 ∧ next =
            { b with
              batches := b.batches.update (·.batch == batch) Batch.review
              jobs := b.jobs.update
                (fun row =>
                  row.batch == some batch &&
                    (row.status == .outcomeUnknown || row.status == .failed))
                (JobCharge.setStatus .manualReview) }) ∨
        next = { b with batches := b.batches.update (·.batch == batch) Batch.countAttempt }) := by
  rw [bumpChargeBatchRetry] at ran
  rcases found : b.batches.find? batch with _ | row
  · simp [found] at ran
  simp only [found, ite_error_eq_ok] at ran
  obtain ⟨isOpen, ran⟩ := ran
  refine ⟨row, rfl, by simpa using isOpen, ?_⟩
  split_ifs at ran with last
  · obtain ⟨_, isReviewed, ran⟩ := bind_eq_ok.mp ran
    refine .inl ⟨last, ?_⟩
    rw [(changeJobs_ok ran).2, changeBatch_ok isReviewed]
  · exact .inr (changeBatch_ok ran)

def Books.batchMicros (b : Books) : Int :=
  Rows.sumWhere (fun _ => true) b.dueMicros b.batchCandidates

theorem formChargeBatch_ok (ran : formChargeBatch b batch = .ok next) :
    ∃ fresh : b.batches.find? batch = none, stripeMinChargeMicros ≤ b.batchMicros ∧ next =
        { b with
          batches := b.batches.insert ⟨batch, b.batchMicros, .attempting, 0, none⟩ fresh
          jobs := b.jobs.update (fun row => b.batchCandidates.any (·.job == row.job))
            (JobCharge.joinBatch batch b.dueMicros) } := by
  simp only [formChargeBatch, ite_error_eq_ok] at ran
  obtain ⟨enough, ran⟩ := ran
  split_ifs at ran with fresh
  exact ⟨fresh, Int.not_lt.mp (not_or.mp enough).2, (changeJobs_ok ran).2⟩

theorem mem_batchCandidates {row : JobCharge} (mem : row ∈ b.batchCandidates) :
    row ∈ b.jobs.rows ∧ row.status = .deferred ∧ row.batch = none ∧ 0 < b.dueMicros row := by
  have chosen := List.mem_filter.mp (List.mem_of_mem_take mem)
  obtain ⟨inJobs, chosen⟩ := chosen
  simp only [Bool.and_eq_true, beq_iff_eq, Option.isNone_iff_eq_none, decide_eq_true_eq] at chosen
  exact ⟨inJobs, chosen.1.1, chosen.1.2, chosen.2⟩

theorem candidate_of_any {row : JobCharge} (mem : row ∈ b.jobs.rows)
    (chosen : b.batchCandidates.any (·.job == row.job) = true) : row ∈ b.batchCandidates := by
  obtain ⟨_, isCandidate, sameJob⟩ := List.any_eq_true.mp chosen
  have inJobs := (mem_batchCandidates isCandidate).1
  rw [← Table.eq_of_key inJobs mem (beq_iff_eq.mp sameJob)]
  exact isCandidate

end MercControl.Card
