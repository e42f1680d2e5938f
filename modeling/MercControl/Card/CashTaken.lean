import MercControl.Card.OneOperation

/-!
# Taking the cash of an operation

While the outcome of an operation is unknown the provider may still report its
payment.  A confirmation takes it if the source can become charged and has no
collection yet, and confirming it again changes nothing.
-/

namespace MercControl.Card

open Library Machine Table
open Money (JobId)

def Books.unused (b : Books) (cash : Cash) : Prop :=
  ∀ recorded ∈ b.collections,
    recorded.cash.paymentIntent ≠ cash.paymentIntent ∧ recorded.cash.chargeId ≠ cash.chargeId

def Books.charged (b : Books) : Source → Prop
  | .job job => b.jobs.Holds job fun row => row.status = .charged
  | .batch batch => b.batches.Holds batch fun row => row.status = .charged

def Books.membersCharged (b : Books) : Source → Prop
  | .job _ => True
  | .batch batch => ∀ row ∈ b.jobs.rows, row.batch = some batch → row.status = .charged

/-- The cash is accepted, is recorded once and charges the source; confirming
it again changes nothing. -/
def Books.Takes (b : Books) (operation : Operation) (cash : Cash)
    (requireOperation : Bool) : Prop :=
  ∃ next, confirmCharge b operation.source cash operation.amountCents requireOperation = .ok next ∧
    next.collections = b.collections ++ [⟨cash, operation.source, operation.amountCents⟩] ∧
    next.charged operation.source ∧ next.membersCharged operation.source ∧
    ∀ again, confirmCharge next operation.source cash operation.amountCents again = .ok next

/-- Unused cash of an operation with an unknown outcome is taken, by the caller
or the webhook, which insists on the operation. -/
def CashRecordable (b : Books) : Prop :=
  ∀ operation ∈ b.operations.rows, operation.status = .outcomeUnknown →
    ∀ cash, b.unused cash → ∀ requireOperation, b.Takes operation cash requireOperation

variable {job : JobId} {row : JobCharge} {cents : Int} {requireOperation : Bool} {batch : BatchId}

section

variable {b : Books} {operation : Operation} {cash : Cash}

def Books.recorded (b : Books) (operation : Operation) (cash : Cash) : Books :=
  { b with
    operations := b.operations.set { operation with status := .succeeded, cash := some cash }
    collections := b.collections ++ [⟨cash, operation.source, operation.amountCents⟩] }

theorem Books.unused.find?_eq_none (unused : b.unused cash) :
    b.collections.find? (·.cash.paymentIntent == cash.paymentIntent) = none := by
  apply List.find?_eq_none.mpr
  intro recorded mem same
  exact (unused recorded mem).1 (beq_iff_eq.mp same)

theorem recordCollection_unused {source : Source} (unused : b.unused cash)
    (uncollected : ∀ recorded ∈ b.collections, recorded.source ≠ source) :
    recordCollection b.collections ⟨cash, source, cents⟩ =
      .ok (b.collections ++ [⟨cash, source, cents⟩]) := by
  have noConflict :
      (b.collections.any fun recorded =>
        recorded.cash.chargeId == cash.chargeId || recorded.source == source) = false := by
    apply List.any_eq_false.mpr
    intro recorded mem conflict
    rcases Bool.or_eq_true_iff.mp conflict with sameCharge | sameSource
    · exact (unused recorded mem).2 (beq_iff_eq.mp sameCharge)
    · exact uncollected recorded mem (beq_iff_eq.mp sameSource)
  simp [recordCollection, unused.find?_eq_none, noConflict]

theorem recordCollection_again {source : Source} (unused : b.unused cash) :
    recordCollection (b.collections ++ [⟨cash, source, cents⟩]) ⟨cash, source, cents⟩ =
      .ok (b.collections ++ [⟨cash, source, cents⟩]) := by
  simp [recordCollection, List.find?_append, unused.find?_eq_none]

theorem recordCash_unknown (requireOperation : Bool)
    (found : b.operations.find? operation.source = some operation)
    (unknown : operation.status = .outcomeUnknown)
    (pos : 0 < operation.amountCents) (unused : b.unused cash)
    (uncollected : ∀ recorded ∈ b.collections, recorded.source ≠ operation.source) :
    recordCash b operation.source cash operation.amountCents
      requireOperation = .ok (b.recorded operation cash) := by
  have isPositive : ¬ operation.amountCents ≤ 0 := by omega
  have accepted : operationAccepts (some operation) cash operation.amountCents = true := by
    simp [operationAccepts, unknown]
  simp only [recordCash, found, isPositive, accepted, recordCollection_unused unused uncollected,
    if_false, Option.isNone_some, Bool.and_false, Bool.false_eq_true, Bool.not_true]
  simp [bind, Except.bind, settleOperation, unknown, Books.recorded]

/-- Once recorded, the same cash is accepted again and changes nothing,
whatever else was written. -/
theorem recordCash_again (requireOperation : Bool)
    (found : b.operations.find? operation.source = some operation) (pos : 0 < operation.amountCents)
    (unused : b.unused cash) (jobs : Table JobCharge.job) (batches : Table Batch.batch) :
    recordCash { b.recorded operation cash with jobs, batches }
        operation.source cash operation.amountCents requireOperation =
      .ok { b.recorded operation cash with jobs, batches } := by
  have isPositive : ¬ operation.amountCents ≤ 0 := by omega
  have settled : (b.operations.set { operation with status := .succeeded, cash := some cash }).find?
          operation.source =
        some { operation with status := .succeeded, cash := some cash } :=
    find?_set_self found
  have accepted : operationAccepts (some { operation with status := .succeeded, cash := some cash })
          cash operation.amountCents = true := by
    simp [operationAccepts]
  simp only [recordCash, Books.recorded, settled, isPositive, accepted,
    recordCollection_again unused, if_false, Option.isNone_some, Bool.and_false,
    Bool.false_eq_true, Bool.not_true]
  simp [bind, Except.bind, settleOperation]

theorem ChargeStatus.mayBecome_charged {status : ChargeStatus} (crossed : status.crossed = true) :
    mayBecome chargeTransitions status .charged = true := by
  cases status with
  | outcomeUnknown | failed | manualReview | charged => rfl
  | _ => cases crossed

theorem BatchStatus.mayBecome_charged {status : BatchStatus} (isOpen : status.isOpen = true) :
    mayBecome batchTransitions status .charged = true := by
  cases status with
  | attempting | outcomeUnknown => rfl
  | _ => cases isOpen

section

variable (found : b.operations.find? operation.source = some operation)
variable (unknown : operation.status = .outcomeUnknown)
variable (pos : 0 < operation.amountCents) (unused : b.unused cash)
variable (uncollected : ∀ recorded ∈ b.collections, recorded.source ≠ operation.source)

include found unknown pos unused uncollected

theorem takes_job (isJob : operation.source = .job job) (isRow : b.jobs.find? job = some row)
    (crossed : row.status.crossed = true) (uncharged : row.status ≠ .charged)
    (requireOperation : Bool) : b.Takes operation cash requireOperation := by
  have rowJob : row.job = job := key_of_find? isRow
  have recorded := recordCash_unknown requireOperation found unknown pos unused uncollected
  let jobs : Table JobCharge.job :=
    b.jobs.update (·.job == job) (JobCharge.collect ⟨cash.paymentIntent, operation.amountCents⟩)
  have written : jobs.find? job = _ := find?_update_of_selected isRow (beq_iff_eq.mpr rowJob)
  refine ⟨{ b.recorded operation cash with jobs }, ?_, rfl, ?_, ?_, ?_⟩
  · rw [isJob] at recorded ⊢
    simp only [confirmCharge, confirmJobCharge, isRow, uncharged, recorded, false_and, if_false]
    refine changeJobs_of_legal fun other mem chosen => ?_
    rw [eq_of_find? isRow mem (beq_iff_eq.mp chosen)]
    exact ChargeStatus.mayBecome_charged crossed
  · rw [isJob]
    exact ⟨_, written, rfl⟩
  · rw [isJob]
    trivial
  · intro again
    have repeated := recordCash_again again found pos unused jobs b.batches
    rw [isJob] at repeated ⊢
    simp only [confirmCharge, confirmJobCharge, written, JobCharge.collect, ne_eq,
      not_true_eq_false, and_false, if_false, if_true]
    exact bind_eq_ok.mpr ⟨_, repeated, rfl⟩

theorem takes_batch {row : Batch} (isBatch : operation.source = .batch batch)
    (isRow : b.batches.find? batch = some row) (isOpen : row.status.isOpen = true)
    (members : ∀ member ∈ b.jobs.rows, member.batch = some batch → member.status.crossed = true)
    (requireOperation : Bool) : b.Takes operation cash requireOperation := by
  have rowBatch : row.batch = batch := key_of_find? isRow
  have recorded := recordCash_unknown requireOperation found unknown pos unused uncollected
  have uncharged : row.status ≠ .charged := by
    intro charged
    rw [charged] at isOpen
    cases isOpen
  let jobs : Table JobCharge.job :=
    b.jobs.update (·.batch == some batch) (JobCharge.setStatus .charged)
  let batches : Table Batch.batch :=
    b.batches.update (·.batch == batch) (Batch.collect ⟨cash.paymentIntent, operation.amountCents⟩)
  have written : batches.find? batch = _ :=
    find?_update_of_selected isRow (beq_iff_eq.mpr rowBatch)
  refine ⟨{ b.recorded operation cash with jobs, batches }, ?_, rfl, ?_, ?_, ?_⟩
  · rw [isBatch] at recorded ⊢
    simp only [confirmCharge, confirmBatchCharge, isRow, uncharged, isOpen, recorded, if_false,
      Bool.not_true, Bool.false_eq_true]
    have settled : changeBatch (b.recorded operation cash) batch
        (Batch.collect ⟨cash.paymentIntent, operation.amountCents⟩) = _ :=
      changeBatch_of_legal fun other mem same => by
        rw [eq_of_find? isRow mem same]
        exact BatchStatus.mayBecome_charged isOpen
    refine bind_eq_ok.mpr ⟨_, rfl, bind_eq_ok.mpr ⟨_, settled, ?_⟩⟩
    exact changeJobs_of_legal fun member isMember chosen =>
      ChargeStatus.mayBecome_charged (members member isMember (beq_iff_eq.mp chosen))
  · rw [isBatch]
    exact ⟨_, written, rfl⟩
  · rw [isBatch]
    refine forall_update ?_ ?_
    · intro member _ _ _
      rfl
    · intro member _ notMember inBatch
      simp [inBatch] at notMember
  · intro again
    have repeated := recordCash_again again found pos unused jobs batches
    rw [isBatch] at repeated ⊢
    simp only [confirmCharge, confirmBatchCharge, written, Batch.collect, ne_eq,
      not_true_eq_false, if_false, if_true]
    exact repeated

end

end

end MercControl.Card
