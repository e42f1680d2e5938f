import MercControl.Card.CashTaken

/-!
# Collected cash can be recorded

For a batch the cash of an operation with an unknown outcome is only taken as
long as the batch stays open.  A rejected batch is retried as `attempting`, and
from there failed attempts of other callers can count it into manual review. -/

namespace MercControl.Card

open Library Machine Table
open Money (JobId)

/-- A failed attempt on a batch whose operation has an unknown outcome is not
its last. -/
def Unescalated (b : Books) (source : Source) : Prop :=
  match source with
  | .job _ => True
  | .batch batch =>
    ∀ operation ∈ b.operations.find? (.batch batch),
      operation.status = .outcomeUnknown →
        ∀ row ∈ b.batches.find? batch, row.attempts + 1 < chargeMaxAttempts

instance (b : Books) (source : Source) : Decidable (Unescalated b source) := by
  rcases source with ⟨⟩ <;> unfold Unescalated <;> infer_instance

/-- Single jobs are begun outside batches, and no batch goes to manual review
while its outcome is unknown. -/
abbrev KeepsBatchesOpen : State → Event → Prop := Conditions Unbatched Unescalated

variable {cents : Int} {source : Source} {batch : BatchId} {cash : Cash} {requireOperation : Bool}

section

variable {b armed : Books} {other : Source}

theorem Armed.find?_other (arms : Armed b source armed) (ne : source ≠ other) :
    armed.operations.find? other = b.operations.find? other := by
  cases arms with
  | insert =>
    simp [insertOperation, issueRequest, find?_insert, if_neg ne]
  | rearm operation paymentMethod found =>
    rw [← key_of_find? found] at ne
    exact find?_set_other ne

theorem Armed.amounts (arms : Armed b source armed)
    (pos : ∀ operation ∈ b.operations.rows, 0 < operation.amountCents) :
    ∀ operation ∈ armed.operations.rows, 0 < operation.amountCents := by
  cases arms with
  | insert amountCents paymentMethod fresh amountPositive =>
    exact forall_insert fresh pos amountPositive
  | rearm operation paymentMethod found =>
    exact forall_set pos (pos operation (mem_of_find? found))

theorem settleOperation_find?_other (ne : source ≠ other) :
    (settleOperation b (b.operations.find? source) cash).operations.find?
        other = b.operations.find? other := by
  cases found : b.operations.find? source with
  | none => rfl
  | some =>
    rw [← key_of_find? found] at ne
    simp only [settleOperation]
    split_ifs
    · exact find?_set_other ne
    · rfl

theorem settleOperation_find?_self (accepted :
      operationAccepts (b.operations.find? source) cash cents = true) :
    ∀ operation ∈ (settleOperation b (b.operations.find? source) cash).operations.find? source,
      operation.status = .succeeded := by
  intro settled isSettled
  cases found : b.operations.find? source with
  | none =>
    simp only [settleOperation, found] at isSettled
    cases isSettled
  | some operation =>
    have isSource : operation.source = source := key_of_find? found
    rw [found] at isSettled accepted
    simp only [settleOperation] at isSettled
    split_ifs at isSettled with unknown
    · rw [← isSource] at found isSettled
      rw [Option.mem_unique isSettled (find?_set_self found)]
    · rw [Option.mem_unique isSettled found]
      simp only [operationAccepts, Bool.and_eq_true, Bool.or_eq_true, beq_iff_eq] at accepted
      rcases accepted.2 with isUnknown | ⟨succeeded, _⟩
      · exact absurd isUnknown unknown
      · exact succeeded

theorem settleOperation_amounts (pos : ∀ operation ∈ b.operations.rows, 0 < operation.amountCents) :
    ∀ operation ∈ (settleOperation b (b.operations.find? source) cash).operations.rows,
      0 < operation.amountCents := by
  cases found : b.operations.find? source with
  | none => exact pos
  | some operation =>
    simp only [settleOperation]
    split_ifs
    · exact forall_set pos (pos operation (mem_of_find? found))
    · exact pos

end

/-- A charged job has no open operation of its own, and once its batch has one
it crossed the request boundary. -/
structure RowSettles (operations : Table Operation.source) (row : JobCharge) : Prop where
  own : row.status = .charged →
    ∀ operation ∈ operations.find? (.job row.job), operation.status = .succeeded
  member : ∀ batch, row.batch = some batch →
    (operations.find? (.batch batch)).isSome = true → row.status.crossed = true

section

variable {operations others : Table Operation.source} {row after : JobCharge}

theorem RowSettles.of_uncharged (crossed : row.status.crossed = true)
    (uncharged : row.status ≠ .charged) : RowSettles operations row :=
  ⟨fun charged => absurd charged uncharged, fun _ _ _ => crossed⟩

theorem RowSettles.congr (settles : RowSettles operations row) (sameOwn :
      others.find? (.job row.job) = operations.find? (.job row.job))
    (sameBatches : ∀ batch, (others.find? (.batch batch)).isSome = true →
        (operations.find? (.batch batch)).isSome = true) :
    RowSettles others row where
  own := by
    rw [sameOwn]
    exact settles.own
  member := fun batch inBatch has => settles.member batch inBatch (sameBatches batch has)

theorem StatusMove.eq_charged {before after : ChargeStatus} (moved : StatusMove before after) :
    after = .charged ↔ before = .charged := by
  cases moved with
  | same => exact Iff.rfl
  | _ => exact ⟨nofun, nofun⟩

theorem RowSettles.move (settles : RowSettles operations row)
    (move : RowMove row after) : RowSettles operations after where
  own := by
    intro charged
    rw [move.job]
    exact settles.own (move.status.eq_charged.mp charged)
  member := by
    intro batch inBatch has
    rw [move.batch] at inBatch
    exact move.status.crossed (settles.member batch inBatch has)

end

structure Recordable (b : Books) : Prop where
  exclusive : Exclusive b
  rows : ∀ row ∈ b.jobs.rows, RowSettles b.operations row
  batches : ∀ batch operation,
    b.operations.find? (.batch batch) = some operation →
      b.batches.Holds batch fun row => operation.status = .outcomeUnknown → row.status.isOpen = true
  collected : ∀ collection ∈ b.collections, b.charged collection.source
  amounts : ∀ operation ∈ b.operations.rows, 0 < operation.amountCents

theorem Recordable.opened (freeMicros : Int) : Recordable (.opened freeMicros) where
  exclusive := .opened freeMicros
  rows := nofun
  batches := nofun
  collected := nofun
  amounts := nofun

variable {operation : Operation} {amountCents : Int} {paymentMethod : PaymentMethod}

theorem Recordable.not_charged {b : Books} (sound : Recordable b)
    (found : b.operations.find? operation.source = some operation)
    (unknown : operation.status = .outcomeUnknown) : ¬ b.charged operation.source := by
  cases isSource : operation.source with
  | job job =>
    rintro ⟨row, isRow, charged⟩
    have rowJob : row.job = job := key_of_find? isRow
    rw [isSource, ← rowJob] at found
    have succeeded := (sound.rows row (mem_of_find? isRow)).own charged operation found
    rw [unknown] at succeeded
    cases succeeded
  | batch batch =>
    rintro ⟨row, isRow, charged⟩
    rw [isSource] at found
    obtain ⟨other, isOther, stillOpen⟩ := sound.batches batch operation found
    have same : other = row := Option.mem_unique isOther isRow
    have isOpen := stillOpen unknown
    rw [same, charged] at isOpen
    cases isOpen

theorem Recordable.cashRecordable {b : Books} (sound : Recordable b) : CashRecordable b := by
  intro operation member unknown cash unused requireOperation
  have found := find?_of_mem member
  have uncharged := sound.not_charged found unknown
  have uncollected : ∀ recorded ∈ b.collections, recorded.source ≠ operation.source := by
    intro recorded isRecorded same
    have charged := sound.collected recorded isRecorded
    rw [same] at charged
    exact uncharged charged
  have pos := sound.amounts operation member
  cases isSource : operation.source with
  | job job =>
    rw [isSource] at uncharged
    have has : (b.operations.find? (.job job)).isSome = true := by
      rw [← isSource, found]
      rfl
    obtain ⟨row, isRow, locked⟩ := sound.exclusive.locked job has
    exact takes_job found unknown pos unused uncollected isSource isRow
        locked.2 (fun charged => uncharged ⟨row, isRow, charged⟩)
        requireOperation
  | batch batch =>
    have isFound := found
    rw [isSource] at isFound
    obtain ⟨row, isRow, stillOpen⟩ := sound.batches batch operation isFound
    have members : ∀ member ∈ b.jobs.rows, member.batch = some batch →
        member.status.crossed = true := by
      intro row isRow inBatch
      refine (sound.rows row isRow).member batch inBatch ?_
      rw [isFound]
      rfl
    exact takes_batch found unknown pos unused uncollected isSource isRow
        (stillOpen unknown) members requireOperation

section

variable {b next : Books}

section

variable (sound : Recordable b)

include sound

theorem Recordable.collected_mono (jobs : ∀ job, b.charged (.job job) → next.charged (.job job))
    (batches : ∀ batch, b.charged (.batch batch) → next.charged (.batch batch)) :
    ∀ collection ∈ b.collections, next.charged collection.source := by
  intro collection mem
  have charged := sound.collected collection mem
  cases isSource : collection.source with
  | job job => exact jobs job (isSource ▸ charged)
  | batch batch => exact batches batch (isSource ▸ charged)

theorem Recordable.movesJobs (moved : ChangesJobs RowMove b next) : Recordable next := by
  have exclusive := sound.exclusive.movesJobs moved
  obtain ⟨_, mapped, rfl⟩ := moved
  refine ⟨exclusive, ?_, sound.batches, ?_, sound.amounts⟩
  · intro row mem
    obtain ⟨before, inJobs, move⟩ := mapped.exists_before mem
    exact (sound.rows before inJobs).move move
  · refine sound.collected_mono ?_ fun _ => id
    intro job charged
    exact mapped.holds charged fun _ _ move => move.status.eq_charged.mpr

theorem Recordable.applyLedger {event : Money.Event}
    (ran : applyLedger b event = .ok next) : Recordable next := by
  have exclusive := sound.exclusive.applyLedger ran
  obtain ⟨ledger, _, written⟩ := applyLedger_ok ran
  have soundLedger : Recordable { b with ledger } :=
    { sound with exclusive := { sound.exclusive with } }
  rcases written with moved | ⟨job, fresh, rfl⟩
  · exact soundLedger.movesJobs (moved.mono fun _ _ => ActualChange.move)
  · refine ⟨exclusive, ?_, sound.batches, ?_, sound.amounts⟩
    · exact forall_insert fresh sound.rows ⟨nofun, nofun⟩
    · exact sound.collected_mono (fun _ charged => charged.insert fresh) fun _ => id

theorem Recordable.formChargeBatch
    (ran : formChargeBatch b batch = .ok next) : Recordable next := by
  have exclusive := sound.exclusive.formChargeBatch ran
  obtain ⟨fresh, _, rfl⟩ := formChargeBatch_ok ran
  refine ⟨exclusive, ?_, ?_, ?_, sound.amounts⟩
  · refine forall_update ?_ ?_
    · intro row mem chosen
      refine ⟨(sound.rows row mem).own, ?_⟩
      intro other inBatch has
      obtain ⟨operation, found⟩ := Option.isSome_iff_exists.mp has
      obtain ⟨_, isOld, _⟩ := sound.batches other operation found
      rw [← Option.some.inj inBatch, fresh] at isOld
      cases isOld
    · intro row mem _
      exact sound.rows row mem
  · intro other operation found
    exact (sound.batches other operation found).insert fresh
  · refine sound.collected_mono ?_ fun _ charged => charged.insert fresh
    intro job charged
    exact charged.update fun _ _ _ => id

end

section

variable {row : Batch} {change : Table.Change Batch.batch}
  (isRow : b.batches.find? batch = some row)

include isRow

theorem charged_updateBatch (isOpen : row.status.isOpen = true) {other : BatchId}
    (charged : b.batches.Holds other fun row => row.status = .charged) :
    (b.batches.update (·.batch == batch) change).Holds other fun row => row.status = .charged := by
  refine charged.update_other isRow ?_
  intro isCharged
  rw [isCharged] at isOpen
  cases isOpen

theorem Recordable.updateBatch {operations : Table Operation.source} (sound : Recordable b)
    (lookups : ∀ other, batch ≠ other →
      operations.find? (.batch other) = b.operations.find? (.batch other))
    (self : ∀ operation, operations.find? (.batch batch) = some operation →
        operation.status = .outcomeUnknown → (change.apply row).status.isOpen = true) :
    ∀ other operation, operations.find? (.batch other) = some operation →
        (b.batches.update (·.batch == batch) change).Holds other
          fun row => operation.status = .outcomeUnknown → row.status.isOpen = true := by
  intro other operation found
  by_cases same : batch = other
  · subst same
    exact holds_update isRow (beq_iff_eq.mpr (key_of_find? isRow)) (self operation found)
  · rw [lookups other same] at found
    refine (sound.batches other operation found).update ?_
    intro otherRow isOther chosen
    rw [← key_of_find? isOther] at same
    exact absurd (beq_iff_eq.mp chosen).symm same

end

section

variable (sound : Recordable b)

include sound

/-- A batch with an operation of unknown outcome is not at its last attempt,
so it stays open. -/
theorem Recordable.bumpChargeBatchRetry (unescalated : Unescalated b (.batch batch))
    (ran : bumpChargeBatchRetry b batch = .ok next) : Recordable next := by
  have exclusive := sound.exclusive.bumpChargeBatchRetry ran
  obtain ⟨row, isRow, isOpen, written⟩ := bumpChargeBatchRetry_ok ran
  rcases written with ⟨last, rfl⟩ | rfl
  · refine ⟨exclusive, ?_, ?_, ?_, sound.amounts⟩
    · refine forall_update ?_ ?_
      · intro mem _ _
        exact .of_uncharged rfl nofun
      · intro mem isMem _
        exact sound.rows mem isMem
    · refine sound.updateBatch isRow (fun _ _ => rfl) ?_
      intro operation found unknown
      have notLast := unescalated operation found unknown row isRow
      omega
    · refine sound.collected_mono ?_ fun _ => charged_updateBatch isRow isOpen
      intro job charged
      refine charged.update ?_
      intro jobRow _ chosen isCharged
      simp [isCharged] at chosen
  · refine ⟨exclusive, sound.rows, ?_, ?_, sound.amounts⟩
    · refine sound.updateBatch isRow (fun _ _ => rfl) ?_
      intro _ _ _
      exact isOpen
    · exact sound.collected_mono (fun _ => id) fun _ => charged_updateBatch isRow isOpen

theorem Recordable.beginJobCharge {job : JobId} (unbatched : Unbatched b (.job job))
    (ran : beginJobCharge b job amountCents paymentMethod = .ok next) : Recordable next := by
  have exclusive := sound.exclusive.beginJobCharge unbatched ran
  obtain ⟨_, armed, isRow, uncharged, arms, rfl⟩ := beginJobCharge_ok ran
  obtain ⟨_, _, sameBatches, sameCollections⟩ := arms.frame
  have sameOperations : ∀ batch,
      armed.operations.find? (.batch batch) = b.operations.find? (.batch batch) :=
    fun batch => arms.find?_other nofun
  refine ⟨exclusive, ?_, ?_, ?_, arms.amounts sound.amounts⟩
  · refine forall_update ?_ ?_
    · intro other _ _
      exact .of_uncharged rfl nofun
    · intro other inJobs notJob
      refine (sound.rows other inJobs).congr (arms.find?_other ?_) ?_
      · intro same
        simp [← Source.job.inj same] at notJob
      · intro batch has
        rw [← sameOperations]
        exact has
  · intro batch operation found
    rw [sameBatches]
    exact sound.batches batch operation ((sameOperations batch).symm.trans found)
  · rw [sameCollections]
    refine sound.collected_mono (fun _ charged => charged.update_other isRow uncharged) ?_
    intro other charged
    rw [sameBatches]
    exact charged

theorem Recordable.beginBatchCharge
    (ran : beginBatchCharge b batch amountCents paymentMethod = .ok next) : Recordable next := by
  have exclusive := sound.exclusive.beginBatchCharge ran
  obtain ⟨_, isRow, isOpen, written⟩ := beginBatchCharge_ok ran
  rcases written with ⟨fresh, pos, rfl⟩ | ⟨operation, found, failed, rfl⟩
  · have arms := Armed.insert amountCents paymentMethod fresh pos
    have lookups : ∀ other, Source.batch batch ≠ other →
        (insertOperation b (.batch batch) amountCents paymentMethod
          fresh).operations.find? other = b.operations.find? other :=
      fun _ ne => arms.find?_other ne
    refine ⟨exclusive, ?_, ?_, ?_, arms.amounts sound.amounts⟩
    · refine forall_update ?_ ?_
      · intro member _ _
        exact .of_uncharged rfl nofun
      · intro member isMember notChosen
        refine ⟨?_, ?_⟩
        · intro charged operation isOperation
          exact (sound.rows member isMember).own charged operation
              ((lookups (.job member.job) nofun).symm.trans isOperation)
        · intro other inBatch has
          by_cases same : batch = other
          · -- the members that were not marked are charged already
            have charged : member.status = .charged := by simpa [inBatch, same] using notChosen
            rw [charged]
            rfl
          · have sameLookup := lookups (.batch other) fun equal => same (Source.batch.inj equal)
            refine (sound.rows member isMember).member other inBatch ?_
            rw [← sameLookup]
            exact has
    · refine sound.updateBatch isRow ?_ fun _ _ _ => rfl
      intro other ne
      exact lookups _ fun equal => ne (Source.batch.inj equal)
    · refine sound.collected_mono ?_ fun _ => charged_updateBatch isRow isOpen
      intro job charged
      refine charged.update ?_
      intro jobRow _ chosen isCharged
      simp [isCharged] at chosen
  · have arms := Armed.rearm operation paymentMethod found failed
    refine ⟨exclusive, ?_, ?_, ?_, arms.amounts sound.amounts⟩
    · intro member isMember
      refine (sound.rows member isMember).congr (arms.find?_other nofun) ?_
      intro other has
      rcases (arms.isSome_iff (.batch other)).mp has with same | before
      · rw [← same, found]
        rfl
      · exact before
    · refine sound.updateBatch isRow ?_ fun _ _ _ => rfl
      intro other ne
      exact arms.find?_other fun equal => ne (Source.batch.inj equal)
    · exact sound.collected_mono (fun _ => id) fun _ => charged_updateBatch isRow isOpen

theorem Recordable.rejectOperation (found : b.operations.find? operation.source = some operation)
    (unknown : operation.status = .outcomeUnknown) : Recordable (rejectOperation b operation) := by
  have uncharged := sound.not_charged found unknown
  have lookups : ∀ other, operation.source ≠ other →
      (Card.rejectOperation b operation).operations.find? other = b.operations.find? other :=
    fun other ne => find?_set_other ne
  have sameKeys : ∀ other, ((Card.rejectOperation b operation).operations.find? other).isSome =
        (b.operations.find? other).isSome :=
    fun other => isSome_find?_set found
  refine ⟨sound.exclusive.rejectOperation found, ?_, ?_, ?_, ?_⟩
  · intro row mem
    by_cases own : operation.source = .job row.job
    · refine ⟨?_, ?_⟩
      · intro charged
        rw [own] at uncharged
        exact absurd ⟨row, find?_of_mem mem, charged⟩ uncharged
      · intro batch inBatch has
        rw [sameKeys] at has
        exact (sound.rows row mem).member batch inBatch has
    · refine (sound.rows row mem).congr (lookups _ own) ?_
      intro batch has
      rw [← sameKeys]
      exact has
  · intro batch other isOther
    by_cases same : operation.source = .batch batch
    · rw [same] at found
      obtain ⟨row, isRow, _⟩ := sound.batches batch operation found
      refine ⟨row, isRow, ?_⟩
      intro stillUnknown
      rw [← same] at isOther found
      rw [Option.mem_unique isOther (find?_set_self found)] at stillUnknown
      cases stillUnknown
    · rw [lookups _ same] at isOther
      exact sound.batches batch other isOther
  · exact sound.collected_mono (fun _ => id) fun _ => id
  · exact forall_set sound.amounts (sound.amounts operation (mem_of_find? found))

theorem Recordable.markBuyerChargeDefinitelyFailed
    (ran : markBuyerChargeDefinitelyFailed b source = .ok next) : Recordable next := by
  have exclusive := sound.exclusive.markBuyerChargeDefinitelyFailed ran
  rcases markBuyerChargeDefinitelyFailed_ok ran with
    rfl | ⟨operation, found, unknown, written⟩
  · exact sound
  rw [← key_of_find? found] at found
  have rejected := sound.rejectOperation found unknown
  rcases written with ⟨job, _, failed⟩ | ⟨batch, row, _, isRow, isOpen, rfl⟩
  · exact rejected.movesJobs (setChargeStatus_changes (.inr rfl) failed).moves
  · have stillRow : (Card.rejectOperation b operation).batches.find? batch = some row := isRow
    refine ⟨exclusive, rejected.rows, ?_, ?_, rejected.amounts⟩
    · exact rejected.updateBatch stillRow (fun _ _ => rfl) fun _ _ _ => rfl
    · exact sound.collected_mono (fun _ => id) fun _ => charged_updateBatch isRow isOpen

end

/-- The books after the cash of a source was recorded and before the source
itself is charged. -/
structure Noted (b : Books) (source : Source) (noted : Books) : Prop where
  jobs : noted.jobs = b.jobs
  batches : noted.batches = b.batches
  succeeded : ∀ operation ∈ noted.operations.find? source, operation.status = .succeeded
  others : ∀ other, source ≠ other → noted.operations.find? other = b.operations.find? other
  sameKeys : ∀ other, (noted.operations.find? other).isSome = (b.operations.find? other).isSome
  amounts : ∀ operation ∈ noted.operations.rows, 0 < operation.amountCents
  collections : ∀ collection ∈ noted.collections,
    collection ∈ b.collections ∨ collection.source = source

theorem Recordable.noted (sound : Recordable b)
    (ran : recordCash b source cash cents requireOperation = .ok next) : Noted b source next := by
  obtain ⟨collections, recorded, accepted, rfl⟩ := recordCash_ok ran
  have frame : Frame { b with collections }
        (settleOperation { b with collections } (b.operations.find? source) cash) :=
    settleOperation_frame (b.operations.find? source) cash
  refine ⟨frame.jobs, frame.batches, settleOperation_find?_self accepted,
      fun _ ne => settleOperation_find?_other ne,
      fun other => settleOperation_isSome cash other,
      settleOperation_amounts sound.amounts, ?_⟩
  rw [frame.collections]
  rcases recordCollection_ok recorded with same | added
  · rw [same]
    exact fun _ mem => .inl mem
  · rw [added]
    exact Rows.forall_concat (fun _ => .inl) (.inr rfl)

section

variable {noted : Books}

section

variable (sound : Recordable b)

include sound

section

variable (notes : Noted b source noted)

include notes

theorem Recordable.noted_rows : ∀ row ∈ b.jobs.rows, RowSettles noted.operations row := by
  intro row mem
  by_cases own : source = .job row.job
  · refine ⟨?_, ?_⟩
    · intro _
      rw [← own]
      exact notes.succeeded
    · intro batch inBatch has
      rw [notes.sameKeys] at has
      exact (sound.rows row mem).member batch inBatch has
  · refine (sound.rows row mem).congr (notes.others _ own) ?_
    intro batch has
    rw [← notes.sameKeys]
    exact has

theorem Recordable.noted_batches :
    ∀ batch operation, noted.operations.find? (.batch batch) = some operation →
        b.batches.Holds batch fun row =>
          operation.status = .outcomeUnknown → row.status.isOpen = true := by
  intro batch operation found
  by_cases same : source = .batch batch
  · have has : (b.operations.find? (.batch batch)).isSome = true := by
      rw [← notes.sameKeys, found]
      rfl
    obtain ⟨before, isBefore⟩ := Option.isSome_iff_exists.mp has
    obtain ⟨row, isRow, _⟩ := sound.batches batch before isBefore
    refine ⟨row, isRow, ?_⟩
    intro unknown
    rw [← same] at found
    rw [notes.succeeded operation found] at unknown
    cases unknown
  · rw [notes.others _ same] at found
    exact sound.batches batch operation found

theorem Recordable.noted_collected
    (self : next.charged source) (jobs : ∀ job, b.charged (.job job) → next.charged (.job job))
    (batches : ∀ batch, b.charged (.batch batch) → next.charged (.batch batch))
    (collection : Collection) (mem : collection ∈ noted.collections) :
    next.charged collection.source := by
  rcases notes.collections collection mem with old | new
  · exact sound.collected_mono jobs batches collection old
  · rw [new]
    exact self

theorem Recordable.noted_charged (exclusive : Exclusive noted)
    (charged : b.charged source) : Recordable noted := by
  refine ⟨exclusive, ?_, ?_, ?_, notes.amounts⟩
  · rw [notes.jobs]
    exact sound.noted_rows notes
  · rw [notes.batches]
    exact sound.noted_batches notes
  · unfold Books.charged
    rw [notes.jobs, notes.batches]
    exact sound.noted_collected notes charged (fun _ => id) fun _ => id

end

theorem Recordable.confirmJobCharge {job : JobId} (exclusive : Exclusive next)
    (ran : confirmJobCharge b job cash cents requireOperation = .ok next) : Recordable next := by
  obtain ⟨row, _, isRow, isRecorded, written⟩ := confirmJobCharge_ok ran
  have notes := sound.noted isRecorded
  rcases written with ⟨charged, rfl⟩ | rfl
  · exact sound.noted_charged notes exclusive ⟨row, isRow, charged⟩
  · rw [notes.jobs] at exclusive ⊢
    refine ⟨exclusive, ?_, ?_, ?_, notes.amounts⟩
    · refine forall_update ?_ ?_
      · intro other _ chosen
        refine ⟨?_, fun _ _ _ => rfl⟩
        intro _ operation isOperation
        have isJob : other.job = job := beq_iff_eq.mp chosen
        rw [← isJob] at notes
        exact notes.succeeded operation isOperation
      · intro other mem _
        exact sound.noted_rows notes other mem
    · have stillHolds := sound.noted_batches notes
      rw [notes.batches]
      exact stillHolds
    · refine fun _ => sound.noted_collected notes ?_ ?_ ?_ _
      · exact holds_update isRow (beq_iff_eq.mpr (key_of_find? isRow)) rfl
      · intro other charged
        exact charged.update fun _ _ _ _ => rfl
      · intro other charged
        rw [notes.batches]
        exact charged

/-- A member of a charged batch has no operation of its own. -/
theorem Recordable.confirmBatchCharge (exclusive : Exclusive next)
    (ran : confirmBatchCharge b batch cash cents requireOperation = .ok next) :
    Recordable next := by
  obtain ⟨row, _, isRow, isRecorded, written⟩ := confirmBatchCharge_ok ran
  have notes := sound.noted isRecorded
  rcases written with ⟨charged, rfl⟩ | rfl
  · exact sound.noted_charged notes exclusive ⟨row, isRow, charged⟩
  · rw [notes.jobs, notes.batches] at exclusive ⊢
    refine ⟨exclusive, ?_, ?_, ?_, notes.amounts⟩
    · refine forall_update ?_ ?_
      · intro member isMember chosen
        refine ⟨?_, fun _ _ _ => rfl⟩
        intro _ operation isOperation
        have has : (b.operations.find? (.job member.job)).isSome = true := by
          rw [← notes.sameKeys]
          exact Option.isSome_iff_exists.mpr ⟨operation, isOperation⟩
        obtain ⟨locked, isLocked, rowLocked⟩ := sound.exclusive.locked member.job has
        have same : member = locked := eq_of_find? isLocked isMember rfl
        rw [← same] at rowLocked
        rw [rowLocked.not_member] at chosen
        cases chosen
      · intro member isMember _
        exact sound.noted_rows notes member isMember
    · refine sound.updateBatch isRow ?_ ?_
      · intro other ne
        exact notes.others _ fun same => ne (Source.batch.inj same)
      · intro operation found unknown
        rw [notes.succeeded operation found] at unknown
        cases unknown
    · refine fun _ => sound.noted_collected notes ?_ ?_ ?_ _
      · exact holds_update isRow (beq_iff_eq.mpr (key_of_find? isRow)) rfl
      · intro other charged
        exact charged.update fun _ _ _ _ => rfl
      · intro other charged
        exact charged.update fun _ _ _ _ => rfl

end

end

theorem Recordable.transaction {kind : Kind} (sound : Recordable b)
    (made : Transaction Unbatched Unescalated b kind next) : Recordable next := by
  have exclusive := sound.exclusive.transaction made
  cases made with
  | ledger event ran => exact sound.applyLedger ran
  | actual job ran =>
    exact sound.movesJobs ((setJobActualUSD_changes ran).mono fun _ _ => ActualChange.move)
  | freeze job amount ran => exact sound.movesJobs (freezeChargeAmount_moves ran)
  | status changed => exact sound.movesJobs changed.moves
  | form batch ran => exact sound.formChargeBatch ran
  | bump batch unescalated ran => exact sound.bumpChargeBatchRetry unescalated ran
  | begin source amountCents paymentMethod unbatched ran =>
    cases source with
    | job => exact sound.beginJobCharge unbatched ran
    | batch => exact sound.beginBatchCharge ran
  | reject source ran => exact sound.markBuyerChargeDefinitelyFailed ran
  | confirm source cash cents requireOperation ran =>
    cases source with
    | job => exact sound.confirmJobCharge exclusive ran
    | batch => exact sound.confirmBatchCharge exclusive ran

end

/-- **Collected cash is always recordable.**  If single jobs are begun outside
batches and no batch goes to manual review while the outcome of its operation
is unknown, the cash of every operation with an unknown outcome is taken, once. -/
theorem collected_cash_recordable (config : Config) (freeMicros : Int) (events : List Event)
    (guarded : Meets (step config) KeepsBatchesOpen (.opened freeMicros) events) :
    CashRecordable (run (step config) (.opened freeMicros) events).books := by
  have sound :=
    books_run (fun _ _ _ sound => sound.transaction) (Recordable.opened freeMicros) guarded
  exact sound.cashRecordable

/-- A job whose request was not answered, and a batch that was rejected once
and whose second request was not answered. -/
def unansweredRun : List Event :=
  completedCardJob 1 6000000 ++ completedCardJob 2 400000 ++
    completedCardJob 3 300000 ++ deferredBy 2 2 ++ deferredBy 2 3 ++
    [.startCharge 1 1, .checkStatus 1, .freezeCharge 1, .beginCharge 1 7, .dropCall 1,
     .formChargeBatch 1, .startBatch 2 1, .beginCharge 2 7, .rejectCharge 2,
     .failCharge 2, .startBatch 2 1, .beginCharge 2 7, .dropCall 2]

set_option maxRecDepth 1000 in
theorem unansweredRun_cash_recordable :
    Meets (step fiveDollars) KeepsBatchesOpen (.opened 0) unansweredRun ∧
      CashRecordable (run (step fiveDollars) (.opened 0) unansweredRun).books :=
  have guarded : Meets (step fiveDollars) KeepsBatchesOpen (.opened 0) unansweredRun := by
    decide
  ⟨guarded, collected_cash_recordable fiveDollars 0 unansweredRun guarded⟩

def refusedBatch (process : ProcessId) (batch : BatchId) : List Event :=
  [.startBatch process batch, .refuseCharge process, .failCharge process]

/-- After the unanswered second request seven sweeps find no saved card: the
batch goes to manual review. -/
def escalatedRun : List Event := unansweredRun ++ (List.replicate 7 (refusedBatch 2 1)).flatten

set_option maxRecDepth 2000 in
theorem escalatedRun_cash_not_recordable :
    ¬ CashRecordable (run (step fiveDollars) (.opened 0) escalatedRun).books := by
  intro recordable
  have waiting : ∃ operation ∈
      (run (step fiveDollars) (.opened 0) escalatedRun).books.operations.rows,
      operation.status = .outcomeUnknown ∧ operation.source = .batch 1 ∧
        operation.amountCents = 70 := by
    decide
  have unused : ∀ recorded ∈
      (run (step fiveDollars) (.opened 0) escalatedRun).books.collections,
      recorded.cash.paymentIntent ≠ 11 ∧ recorded.cash.chargeId ≠ 21 := by
    decide
  have refused : (confirmCharge (run (step fiveDollars) (.opened 0) escalatedRun).books
        (.batch 1) ⟨11, 21⟩ 70 true).isOk = false := by
    decide
  obtain ⟨operation, member, unknown, isSource, isAmount⟩ := waiting
  obtain ⟨_, accepted, _⟩ := recordable operation member unknown ⟨11, 21⟩ unused true
  rw [isSource, isAmount] at accepted
  rw [accepted] at refused
  cases refused

end MercControl.Card
