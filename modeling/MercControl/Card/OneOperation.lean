import MercControl.Card.OperationSteps

/-!
# One operation for each job

A job can be charged alone or as a member of a batch.  The two paths exclude
each other only if a job that is in a batch is never begun alone: the request
boundary of a job does not look at its batch.
-/

namespace MercControl.Card

open Library Machine Table
open Money (JobId)

def Books.outstanding (b : Books) (source : Source) : Bool :=
  b.requests.any fun request => request.source == source && !request.rejected

/-- No job is part of two requests that can both succeed, and a new key is
issued after every earlier attempt was rejected. -/
def OneOperation (b : Books) : Prop :=
  (∀ row ∈ b.jobs.rows, ∀ batch ∈ row.batch,
    ¬ (b.outstanding (.job row.job) = true ∧ b.outstanding (.batch batch) = true)) ∧
    ∀ earlier ∈ b.requests, ∀ later ∈ b.requests,
      earlier.source = later.source → earlier.attempt < later.attempt → earlier.rejected = true
  deriving Decidable

def Unbatched (b : Books) (source : Source) : Prop :=
  match source with
  | .job job => ∀ row ∈ b.jobs.find? job, row.batch = none
  | .batch _ => True

instance (b : Books) (source : Source) : Decidable (Unbatched b source) := by
  cases source with
  | job job => exact inferInstanceAs (Decidable (∀ row ∈ b.jobs.find? job, row.batch = none))
  | batch batch => exact isTrue trivial

/-- Every request for a single job is begun while the job is in no batch. -/
abbrev BeginsUnbatched : State → Event → Prop := Conditions Unbatched fun _ _ => True

/-- Every request belongs to an operation; one that was not rejected is its
last, and the operation has not failed. -/
def RequestsSound (operations : Table Operation.source) (requests : List Request) : Prop :=
  ∀ request ∈ requests, ∃ operation,
    operations.find? request.source = some operation ∧ request.attempt ≤ operation.attempt ∧
      (request.rejected = false → request.attempt = operation.attempt ∧ operation.status ≠ .failed)

variable {operation : Operation} {b : Books} {batch : BatchId} {source : Source}

section

variable {operations : Table Operation.source} {requests : List Request}

section

variable (sound : RequestsSound operations requests)

include sound

theorem RequestsSound.issue (found : operations.find? source = some operation)
    (armed : operation.status ≠ .failed) :
    RequestsSound operations (requests ++ [⟨source, operation.attempt, false⟩]) :=
  Rows.forall_concat sound ⟨operation, found, le_rfl, fun _ => ⟨rfl, armed⟩⟩

theorem RequestsSound.insert
    (fresh : operations.find? operation.source = none) (armed : operation.status ≠ .failed) :
    RequestsSound (operations.insert operation fresh)
      (requests ++ [⟨operation.source, operation.attempt, false⟩]) := by
  have kept : RequestsSound (operations.insert operation fresh) requests :=
    fun request mem => Holds.insert (sound request mem) fresh
  exact kept.issue (find?_insert_self fresh) armed

theorem RequestsSound.set {changed : Operation}
    (found : operations.find? changed.source = some operation)
    (bound : operation.attempt ≤ changed.attempt)
    (current : ∀ request ∈ requests, request.source = changed.source → request.rejected = false →
      request.attempt = operation.attempt → operation.status ≠ .failed →
        request.attempt = changed.attempt ∧ changed.status ≠ .failed) :
    RequestsSound (operations.set changed) requests := by
  intro request mem
  refine Holds.set (sound request mem) found fun same known => ?_
  refine ⟨Nat.le_trans known.1 bound, fun unrejected => ?_⟩
  obtain ⟨isLast, notFailed⟩ := known.2 unrejected
  exact current request mem same.symm unrejected isLast notFailed

theorem RequestsSound.rearm {rearmed : Operation}
    (found : operations.find? rearmed.source = some operation) (failed : operation.status = .failed)
    (next : rearmed.attempt = operation.attempt + 1) (armed : rearmed.status ≠ .failed) :
    RequestsSound (operations.set rearmed)
      (requests ++ [⟨rearmed.source, rearmed.attempt, false⟩]) := by
  refine (sound.set found (by omega) ?_).issue (find?_set_self found) armed
  intro _ _ _ _ _ notFailed
  exact absurd failed notFailed

end

theorem RequestsSound.reject (sound : RequestsSound b.operations b.requests)
    (found : b.operations.find? operation.source = some operation) :
    RequestsSound (rejectOperation b operation).operations
      (rejectOperation b operation).requests := by
  have marked : RequestsSound b.operations (rejectOperation b operation).requests := by
    intro request mem
    obtain ⟨before, inRequests, rfl⟩ := List.mem_map.mp mem
    obtain ⟨holder, isHolder, bound, current⟩ := sound before inRequests
    split_ifs
    · exact ⟨holder, isHolder, bound, by simp⟩
    · exact ⟨holder, isHolder, bound, current⟩
  have isFound : b.operations.find? (Operation.source { operation with status := .failed }) =
      some operation := found
  refine marked.set isFound le_rfl ?_
  intro request mem sameSource unrejected isLast
  obtain ⟨before, inRequests, rfl⟩ := List.mem_map.mp mem
  split_ifs at * with isMarked
  exact absurd ⟨sameSource, isLast⟩ isMarked

end

section

variable {armed : Books}

theorem Armed.requestsSound (arms : Armed b source armed)
    (sound : RequestsSound b.operations b.requests) :
    RequestsSound armed.operations armed.requests := by
  cases arms with
  | insert amountCents paymentMethod fresh => exact sound.insert fresh nofun
  | rearm operation paymentMethod found failed =>
    rw [← key_of_find? found] at found
    exact sound.rearm found failed rfl nofun

theorem Armed.isSome_iff (arms : Armed b source armed) (other : Source) :
    (armed.operations.find? other).isSome = true ↔
      source = other ∨ (b.operations.find? other).isSome = true := by
  cases arms with
  | insert =>
    simp only [insertOperation, issueRequest, find?_insert]
    by_cases same : source = other
    · simp [same]
    · simp [same]
  | rearm operation paymentMethod found =>
    have isSource : operation.source = source := key_of_find? found
    rw [← isSource] at found
    have sameKeys : ((rearmOperation b operation paymentMethod).operations.find?
          other).isSome = (b.operations.find? other).isSome :=
      isSome_find?_set found
    rw [sameKeys]
    constructor
    · exact .inr
    · rintro (same | has)
      · rw [← same, ← isSource, found]
        rfl
      · exact has

theorem settleOperation_sound (cash : Cash) (sound : RequestsSound b.operations b.requests) :
    RequestsSound (settleOperation b (b.operations.find? source) cash).operations
      (settleOperation b (b.operations.find? source) cash).requests := by
  cases found : b.operations.find? source with
  | none => exact sound
  | some =>
    rw [← key_of_find? found] at found
    simp only [settleOperation]
    split_ifs
    · exact sound.set found le_rfl fun _ _ _ _ isLast _ => ⟨isLast, by simp⟩
    · exact sound

theorem settleOperation_isSome (cash : Cash) (other : Source) :
    ((settleOperation b (b.operations.find? source) cash).operations.find?
        other).isSome = (b.operations.find? other).isSome := by
  cases found : b.operations.find? source with
  | none => rfl
  | some =>
    rw [← key_of_find? found] at found
    simp only [settleOperation]
    split_ifs
    · exact isSome_find?_set found
    · rfl

end

def ChargeStatus.crossed : ChargeStatus → Bool
  | .outcomeUnknown => true
  | .failed => true
  | .manualReview => true
  | .charged => true
  | _ => false

theorem StatusMove.crossed {before after : ChargeStatus}
    (moved : StatusMove before after) (crossed : before.crossed = true) : after.crossed = true := by
  cases moved with
  | same => exact crossed
  | failUnknown | review => rfl
  | _ => cases crossed

def JobCharge.locked (row : JobCharge) : Prop := row.batch = none ∧ row.status.crossed = true

/-- A job with an operation of its own is in no batch and cannot get into
one. -/
def JobsLocked (operations : Table Operation.source) (jobs : Table JobCharge.job) : Prop :=
  ∀ job, (operations.find? (.job job)).isSome = true → jobs.Holds job JobCharge.locked

variable {row : JobCharge} {amountCents : Int} {paymentMethod : PaymentMethod}
  {requireOperation : Bool} {bumps : Books → Source → Prop}

section

variable {operations : Table Operation.source} {jobs : Table JobCharge.job}

section

variable (locked : JobsLocked operations jobs)

include locked

theorem JobsLocked.update {selected : JobCharge → Bool} {change : Table.Change JobCharge.job}
    (keeps : ∀ row ∈ jobs.rows, selected row = true → row.locked → (change.apply row).locked) :
    JobsLocked operations (jobs.update selected change) :=
  fun job has => (locked job has).update fun row found => keeps row (mem_of_find? found)

theorem JobsLocked.move {after : Table JobCharge.job}
    (moved : Table.Mapped RowMove jobs after) : JobsLocked operations after := by
  intro job has
  refine moved.holds (locked job has) fun before row move rowLocked => ?_
  exact ⟨move.batch.trans rowLocked.1, move.status.crossed rowLocked.2⟩

theorem JobsLocked.insert
    (fresh : jobs.find? row.job = none) : JobsLocked operations (jobs.insert row fresh) :=
  fun job has => (locked job has).insert fresh

theorem JobsLocked.congr {others : Table Operation.source}
    (same : ∀ job, (others.find? (.job job)).isSome = true →
      (operations.find? (.job job)).isSome = true) :
    JobsLocked others jobs :=
  fun job has => locked job (same job has)

end

end

structure Exclusive (b : Books) : Prop where
  requests : RequestsSound b.operations b.requests
  locked : JobsLocked b.operations b.jobs

theorem Exclusive.opened (freeMicros : Int) : Exclusive (.opened freeMicros) where
  requests := nofun
  locked := nofun

section

variable {next : Books}

theorem Exclusive.movesJobs (sound : Exclusive b) (moved : ChangesJobs RowMove b next) :
    Exclusive next := by
  obtain ⟨_, moves, rfl⟩ := moved
  exact ⟨sound.requests, sound.locked.move moves⟩

theorem Exclusive.applyLedger {event : Money.Event} (sound : Exclusive b)
    (ran : applyLedger b event = .ok next) : Exclusive next := by
  obtain ⟨ledger, _, written⟩ := applyLedger_ok ran
  have soundLedger : Exclusive { b with ledger } := ⟨sound.requests, sound.locked⟩
  rcases written with moved | ⟨job, fresh, rfl⟩
  · exact soundLedger.movesJobs (moved.mono fun _ _ => ActualChange.move)
  · exact ⟨sound.requests, sound.locked.insert fresh⟩

theorem Exclusive.formChargeBatch (sound : Exclusive b)
    (ran : formChargeBatch b batch = .ok next) : Exclusive next := by
  obtain ⟨_, _, rfl⟩ := formChargeBatch_ok ran
  refine ⟨sound.requests, sound.locked.update ?_⟩
  intro row mem chosen rowLocked
  have deferred := (mem_batchCandidates (candidate_of_any mem chosen)).2.1
  have crossed := rowLocked.2
  rw [deferred] at crossed
  cases crossed

theorem JobCharge.locked.not_member (rowLocked : row.locked) :
    (row.batch == some batch) = false := by
  rw [rowLocked.1]
  rfl

section

variable (sound : Exclusive b)

include sound

theorem Exclusive.bumpChargeBatchRetry (ran : bumpChargeBatchRetry b batch = .ok next) :
    Exclusive next := by
  obtain ⟨_, _, _, written⟩ := bumpChargeBatchRetry_ok ran
  rcases written with ⟨_, rfl⟩ | rfl
  · refine ⟨sound.requests, sound.locked.update ?_⟩
    intro mem _ chosen memberLocked
    rw [memberLocked.not_member, Bool.false_and] at chosen
    cases chosen
  · exact ⟨sound.requests, sound.locked⟩

theorem Exclusive.beginJobCharge {job : JobId} (unbatched : Unbatched b (.job job))
    (ran : beginJobCharge b job amountCents paymentMethod = .ok next) : Exclusive next := by
  obtain ⟨row, _, found, _, arms, rfl⟩ := beginJobCharge_ok ran
  refine ⟨arms.requestsSound sound.requests, ?_⟩
  intro other has
  rcases (arms.isSome_iff (.job other)).mp has with same | before
  · obtain rfl := Source.job.inj same
    have isJob : row.job = job := key_of_find? found
    exact holds_update found (beq_iff_eq.mpr isJob) ⟨unbatched row found, rfl⟩
  · have keeps : JobsLocked b.operations
          (b.jobs.update (·.job == job) (JobCharge.setStatus .outcomeUnknown)) :=
      sound.locked.update fun _ _ _ rowLocked => ⟨rowLocked.1, rfl⟩
    exact keeps other before

theorem Exclusive.beginBatchCharge
    (ran : beginBatchCharge b batch amountCents paymentMethod = .ok next) : Exclusive next := by
  obtain ⟨_, _, _, written⟩ := beginBatchCharge_ok ran
  have keeps : ∀ {armed : Books}, Armed b (.batch batch) armed →
      JobsLocked armed.operations b.jobs := by
    intro armed arms
    refine sound.locked.congr fun job has => ?_
    rcases (arms.isSome_iff (.job job)).mp has with same | before
    · cases same
    · exact before
  rcases written with ⟨fresh, pos, rfl⟩ | ⟨operation, found, failed, rfl⟩
  · have arms := Armed.insert amountCents paymentMethod fresh pos
    refine ⟨arms.requestsSound sound.requests, (keeps arms).update ?_⟩
    intro mem _ chosen memberLocked
    rw [memberLocked.not_member, Bool.false_and] at chosen
    cases chosen
  · have arms := Armed.rearm operation paymentMethod found failed
    have locked := keeps arms
    exact ⟨arms.requestsSound sound.requests, locked⟩

theorem Exclusive.rejectOperation (found : b.operations.find? operation.source = some operation) :
    Exclusive (rejectOperation b operation) := by
  refine ⟨sound.requests.reject found, sound.locked.congr ?_⟩
  intro job has
  refine Eq.trans (Eq.symm ?_) has
  exact isSome_find?_set found

theorem Exclusive.markBuyerChargeDefinitelyFailed
    (ran : markBuyerChargeDefinitelyFailed b source = .ok next) : Exclusive next := by
  rcases markBuyerChargeDefinitelyFailed_ok ran with rfl | ⟨operation, found, _, written⟩
  · exact sound
  rw [← key_of_find? found] at found
  have rejected := sound.rejectOperation found
  rcases written with ⟨job, _, failed⟩ | ⟨batch, row, _, _, _, rfl⟩
  · exact rejected.movesJobs (setChargeStatus_changes (.inr rfl) failed).moves
  · exact ⟨rejected.requests, rejected.locked⟩

theorem Exclusive.recordCash {cash : Cash} {cents : Int}
    (ran : recordCash b source cash cents requireOperation = .ok next) : Exclusive next := by
  obtain ⟨_, _, _, rfl⟩ := recordCash_ok ran
  constructor
  · exact settleOperation_sound cash sound.requests
  · rw [(settleOperation_frame _ cash).jobs]
    refine sound.locked.congr fun job has => ?_
    rw [settleOperation_isSome cash] at has
    exact has

theorem Exclusive.confirmCharge {cash : Cash} {cents : Int}
    (ran : confirmCharge b source cash cents requireOperation = .ok next) : Exclusive next := by
  cases source with
  | job =>
    obtain ⟨row, recorded, _, isRecorded, written⟩ := confirmJobCharge_ok ran
    have soundRecorded := sound.recordCash isRecorded
    rcases written with ⟨_, rfl⟩ | rfl
    · exact soundRecorded
    · refine ⟨soundRecorded.requests, soundRecorded.locked.update ?_⟩
      intro _ _ _ rowLocked
      exact ⟨rowLocked.1, rfl⟩
  | batch =>
    obtain ⟨row, recorded, _, isRecorded, written⟩ := confirmBatchCharge_ok ran
    have soundRecorded := sound.recordCash isRecorded
    rcases written with ⟨_, rfl⟩ | rfl
    · exact soundRecorded
    · refine ⟨soundRecorded.requests, soundRecorded.locked.update ?_⟩
      intro _ _ _ rowLocked
      exact ⟨rowLocked.1, rfl⟩

theorem Exclusive.transaction {kind : Kind} (made : Transaction Unbatched bumps b kind next) :
    Exclusive next := by
  cases made with
  | ledger event ran => exact sound.applyLedger ran
  | actual job ran =>
    exact sound.movesJobs ((setJobActualUSD_changes ran).mono fun _ _ => ActualChange.move)
  | freeze job amount ran => exact sound.movesJobs (freezeChargeAmount_moves ran)
  | status changed => exact sound.movesJobs changed.moves
  | form batch ran => exact sound.formChargeBatch ran
  | bump batch _ ran => exact sound.bumpChargeBatchRetry ran
  | begin source amountCents paymentMethod unbatched ran =>
    cases source with
    | job => exact sound.beginJobCharge unbatched ran
    | batch => exact sound.beginBatchCharge ran
  | reject source ran => exact sound.markBuyerChargeDefinitelyFailed ran
  | confirm source cash cents requireOperation ran => exact sound.confirmCharge ran

end

end

theorem RequestsSound.isSome_of_outstanding (sound : RequestsSound b.operations b.requests)
    (outstanding : b.outstanding source = true) : (b.operations.find? source).isSome = true := by
  obtain ⟨request, mem, chosen⟩ := List.any_eq_true.mp outstanding
  simp only [Bool.and_eq_true, beq_iff_eq] at chosen
  obtain ⟨_, found, _, _⟩ := sound request mem
  rw [← chosen.1, found]
  rfl

theorem Exclusive.oneOperation (sound : Exclusive b) : OneOperation b := by
  constructor
  · intro row mem batch isMem both
    obtain ⟨found, isFound, foundLocked⟩ :=
      sound.locked row.job (sound.requests.isSome_of_outstanding both.1)
    have same : row = found := eq_of_find? isFound mem rfl
    rw [same, foundLocked.1] at isMem
    cases isMem
  · intro earlier isEarlier later isLater sameSource order
    by_contra unrejected
    obtain ⟨operation, found, _, current⟩ := sound.requests earlier isEarlier
    obtain ⟨other, isOther, _, _⟩ := sound.requests later isLater
    rw [← sameSource] at isOther
    have same : other = operation := Option.mem_unique isOther found
    have last := (current (by simpa using unrejected)).1
    subst same
    omega

/-- **One operation at a time.**  If every request for a single job is begun
while the job is in no batch, no job is ever part of two requests that can both
succeed, and a new key is issued after the attempts before it were rejected. -/
theorem charged_through_one_operation (config : Config) (freeMicros : Int) (events : List Event)
    (guarded : Meets (step config) BeginsUnbatched (.opened freeMicros) events) :
    OneOperation (run (step config) (.opened freeMicros) events).books := by
  have exclusive :=
    books_run (fun _ _ _ sound => sound.transaction) (Exclusive.opened freeMicros) guarded
  exact exclusive.oneOperation

/-- A job is rejected, retried and paid; two small ones are in a batch that is
rejected, retried and reconciled by the webhook. -/
def collectedRun : List Event :=
  completedCardJob 1 6000000 ++ completedCardJob 2 400000 ++
    completedCardJob 3 300000 ++ deferredBy 2 2 ++ deferredBy 2 3 ++
    [.startCharge 1 1, .checkStatus 1, .freezeCharge 1, .beginCharge 1 7,
     .rejectCharge 1, .failCharge 1,
     .formChargeBatch 1, .startBatch 2 1, .beginCharge 2 7, .rejectCharge 2,
     .failCharge 2,
     .startRetry 1 1, .beginCharge 1 8, .confirmSent 1 ⟨11, 21⟩,
     .startBatch 2 1, .beginCharge 2 8, .dropCall 2,
     .reconcile (.batch 1) ⟨12, 22⟩ 70]

set_option maxRecDepth 1000 in
theorem collectedRun_one_operation :
    Meets (step fiveDollars) BeginsUnbatched (.opened 0) collectedRun ∧
      OneOperation (run (step fiveDollars) (.opened 0) collectedRun).books :=
  have guarded : Meets (step fiveDollars) BeginsUnbatched (.opened 0) collectedRun := by
    decide
  ⟨guarded, charged_through_one_operation fiveDollars 0 collectedRun guarded⟩

/-- Two processes read `not_attempted`.  The first finds no card and parks the
job, the buyer saves one, the second freezes the amount; the sweep charges the
job in a batch, then the second process charges it alone. -/
def parkedRun : List Event :=
  completedCardJob 1 6000000 ++
    [.startCharge 1 1, .checkStatus 1, .startCharge 2 1, .checkStatus 2,
     .parkCharge 1, .freezeCharge 2, .reflipNoCardJobs, .formChargeBatch 1,
     .startBatch 3 1, .beginCharge 3 7, .beginCharge 2 7]

theorem parkedRun_charges_twice :
    ¬ OneOperation (run (step fiveDollars) (.opened 0) parkedRun).books := by
  decide

end MercControl.Card
