import MercControl.Verification.TaskFamilies

/-!
# Hedging

The settlement fence looks for the charge of another member of the family
before it lets a task be charged and counted.  A result that was accepted
without a payout has left no charge, so a family can be counted twice.

The cancellation of siblings follows every acceptance on the chunk, and loses
it when a redundancy or honeypot task is accepted first while a hedge is open.
-/

namespace MercControl.Verification

open Library Machine Table

def TaskRow.slot (task : TaskRow) : Uuid :=
  if task.isRedundancy then task.id else task.root

variable {job : JobRow} {sibling task : TaskRow} {env : Env}
  {s next : State} {plan : VerificationWorkPlan} {work : WorkRow}

section

variable {other : TaskRow}

theorem Hedged.slot_planned (hedged : Hedged s) (mem : task ∈ s.board.tasks.rows) :
    ∃ planned ∈ s.board.tasks.rows, planned.id = task.slot ∧
      planned.toTaskTerms.planned task.jobId = true ∧
      planned.isRedundancy = task.isRedundancy := by
  unfold TaskRow.slot
  split_ifs with redundant
  · refine ⟨task, mem, rfl, ?_, rfl⟩
    simp [TaskTerms.planned, redundant]
  rw [Bool.not_eq_true] at redundant
  cases hedge : task.hedgedFrom with
  | none =>
    refine ⟨task, mem, ?_, ?_, rfl⟩
    · simp [TaskTerms.root, hedge]
    · simp [TaskTerms.planned, hedge]
  | some primaryId =>
    obtain ⟨primary, primaryMem, sameId, sameJob, isPrimary, isRoot⟩ :=
      hedged.families task mem redundant primaryId hedge
    refine ⟨primary, primaryMem, ?_, ?_, ?_⟩
    · simp [TaskTerms.root, hedge, sameId]
    · simp [TaskTerms.planned, sameJob, isRoot]
    · rw [isPrimary, redundant]

theorem Hedged.slot_injective (hedged : Hedged s) (mem : task ∈ s.board.tasks.rows)
    (otherMem : other ∈ s.board.tasks.rows) (isCounted : task.id ∈ s.books.counted)
    (otherCounted : other.id ∈ s.books.counted)
    (sameSlot : task.slot = other.slot) : task.id = other.id := by
  obtain ⟨planned, plannedMem, isSlot, _, sameKind⟩ := hedged.slot_planned mem
  obtain ⟨plannedOther, plannedOtherMem, isOtherSlot, _, otherKind⟩ := hedged.slot_planned otherMem
  have samePlanned : planned = plannedOther :=
    eq_of_key plannedMem plannedOtherMem (by rw [isSlot, isOtherSlot, sameSlot])
  have kinds : task.isRedundancy = other.isRedundancy := by
    rw [← sameKind, ← otherKind, samePlanned]
  unfold TaskRow.slot at sameSlot
  cases redundant : task.isRedundancy with
  | true =>
    rw [← kinds, redundant] at sameSlot
    exact sameSlot
  | false =>
    rw [← kinds, redundant] at sameSlot
    exact hedged.oneCount task mem other otherMem
      ⟨redundant, kinds ▸ redundant, sameSlot⟩ isCounted otherCounted

theorem Hedged.countedFor_le (hedged : Hedged s) (jobId : Uuid) :
    s.countedFor jobId ≤ plannedTasks s.board.tasks.rows jobId := by
  let slotOf : Uuid → Uuid := fun taskId =>
    ((s.board.tasks.find? taskId).map TaskRow.slot).getD taskId
  have slotOf_eq : ∀ task ∈ s.board.tasks.rows, slotOf task.id = task.slot := by
    intro task mem
    have found := find?_of_mem mem
    simp [slotOf, found]
  let ofJob := s.books.counted.filter fun taskId => s.board.jobOfTask taskId = some jobId
  let plannedIds := (s.board.tasks.rows.filter fun task =>
    task.toTaskTerms.planned jobId).map fun task => task.id
  have distinct : (ofJob.map slotOf).Nodup := by
    refine List.Nodup.map_on ?_ (hedged.countedOnce.filter _)
    intro taskId isCounted otherId otherCounted sameSlot
    have isCounted := List.mem_of_mem_filter isCounted
    have otherCounted := List.mem_of_mem_filter otherCounted
    obtain ⟨task, mem, rfl, _⟩ := hedged.countedTask taskId isCounted
    obtain ⟨other, otherMem, rfl, _⟩ := hedged.countedTask otherId otherCounted
    rw [slotOf_eq task mem, slotOf_eq other otherMem] at sameSlot
    exact hedged.slot_injective mem otherMem isCounted otherCounted sameSlot
  have included : ofJob.map slotOf ⊆ plannedIds := by
    intro slot isSlot
    obtain ⟨taskId, inJob, rfl⟩ := List.mem_map.mp isSlot
    obtain ⟨isCounted, isOfJob⟩ := List.mem_filter.mp inJob
    obtain ⟨task, mem, rfl, _⟩ := hedged.countedTask taskId isCounted
    rw [decide_eq_true_eq, jobOfTask_eq mem] at isOfJob
    obtain ⟨planned, plannedMem, isSlot, isPlanned, _⟩ := hedged.slot_planned mem
    rw [slotOf_eq task mem, ← isSlot]
    rw [Option.some.inj isOfJob] at isPlanned
    exact List.mem_map.mpr ⟨planned, List.mem_filter.mpr ⟨plannedMem, isPlanned⟩, rfl⟩
  have lengths := (distinct.subperm included).length_le
  rw [List.length_map, List.length_map] at lengths
  rw [State.countedFor, plannedTasks, List.countP_eq_length_filter, List.countP_eq_length_filter]
  exact lengths

end

/-- The fence finds a charge if another member of the family is complete. -/
def FenceSees (state : State) (task : TaskRow) : Prop :=
  ∀ sibling ∈ state.board.tasks.rows, SameFamily sibling task →
    sibling.id ≠ task.id → sibling.status = .complete →
      ∃ other ∈ state.board.tasks.rows, SameFamily other task ∧
        other.id ≠ task.id ∧ state.books.charged other.id = true
  deriving Decidable

def TaskRow.deliversChunk (task row : TaskRow) : Prop :=
  row.jobId = task.jobId ∧ row.chunkIndex = task.chunkIndex ∧
    row.isRedundancy = false ∧ row.isHoneypot = false ∧
    row.status = .complete
  deriving Decidable

/-- A redundancy or honeypot task is accepted with no hedge to cancel, or
after a result of the chunk. -/
def ChunkKept (state : State) (task : TaskRow) : Prop :=
  task.isRedundancy = true ∨ task.isHoneypot = true →
    (∀ sibling ∈ state.board.tasks.rows, cancelledSibling task sibling = false) ∨
    ∃ accepted ∈ state.board.tasks.rows, task.deliversChunk accepted
  deriving Decidable

def HedgeGuard (state : State) : Event → Prop
  | .board event => KeepsComplete state event
  | .verify lease plan _ =>
    plan.decision.outcome ≠ .fail →
      ∀ work ∈ state.desk.works.find? lease.workId,
        ∀ task ∈ state.board.tasks.find? work.info.taskId,
          FenceSees state task ∧ ChunkKept state task
  | _ => True

instance (state : State) (event : Event) : Decidable (HedgeGuard state event) := by
  cases event <;> unfold HedgeGuard <;> infer_instance

variable {before after : TaskRow} {peerEligible : Bool}

theorem OutcomeOnly.terms (only : OutcomeOnly before after) :
    after.toTaskTerms = before.toTaskTerms := by
  rw [only]

theorem OutcomeOnly.status (only : OutcomeOnly before after) : after.status = before.status := by
  rw [only]

theorem inFamily_of_sameFamily (family : SameFamily sibling task) :
    sibling.inFamily task.root = true := by
  obtain ⟨isPrimary, _, sameRoot⟩ := family
  rw [← sameRoot, TaskTerms.root]
  cases hedge : sibling.hedgedFrom with
  | none | some => simp [TaskRow.inFamily, isPrimary, hedge]

section

variable {middle settled : State}
variable {lease : VerificationLease}
variable {row : TaskRow}
variable {written : List LedgerEntry} {counts : Bool}

theorem exists_before_effects {info : CommitTaskInfo} (effects : EffectsRun info s middle)
    (mem : sibling ∈ middle.board.tasks.rows) (isPrimary : sibling.isRedundancy = false) :
    ∃ old ∈ s.board.tasks.rows,
      sibling.toTaskTerms = old.toTaskTerms ∧ sibling.status = old.status := by
  rcases effects.tasks.mem_cases mem with ⟨old, oldMem, _, only⟩ | ⟨tiebreak, _⟩
  · exact ⟨old, oldMem, only.terms, only.status⟩
  · have redundant : sibling.isRedundancy = true := congrArg TaskTerms.isRedundancy tiebreak.terms
    rw [isPrimary] at redundant
    cases redundant

theorem alone_of_fence (hedged : Hedged middle) (effects : EffectsRun work.info s middle)
    (only : OutcomeOnly task row) (sees : FenceSees s task)
    (fence : fenceHedgeSettlement middle task plan.settlement =
      .ok (written, counts)) (itCounts : counts = true) :
    ∀ sibling ∈ middle.board.tasks.rows, SameFamily sibling row → sibling.id ≠ row.id →
        middle.books.charged sibling.id = false ∧ sibling.id ∉ middle.books.counted := by
  have uncharged : ∀ sibling ∈ middle.board.tasks.rows,
      SameFamily sibling task → sibling.id ≠ task.id → middle.books.charged sibling.id = false := by
    intro sibling mem family ne
    rcases fenceHedgeSettlement_ok fence with ⟨_, isFalse⟩ | ⟨_, _, redundant | none⟩
    · rw [itCounts] at isFalse
      cases isFalse
    · rw [family.2.1] at redundant
      cases redundant
    · exact none sibling mem ne (inFamily_of_sameFamily family)
  intro sibling mem family ne
  have family := family.of_terms rfl only.terms
  have sameId : row.id = task.id := congrArg TaskTerms.id only.terms
  rw [sameId] at ne
  refine ⟨uncharged sibling mem family ne, ?_⟩
  intro isCounted
  -- a counted sibling is complete, so the fence would have seen a charge
  obtain ⟨_, foundMem, foundId, complete⟩ := hedged.countedTask sibling.id isCounted
  obtain rfl := eq_of_key foundMem mem foundId
  obtain ⟨old, oldMem, terms, status⟩ := exists_before_effects effects mem family.1
  have oldFamily := family.of_terms terms rfl
  have oldDifferent : old.id ≠ task.id := by
    rw [← terms]
    exact ne
  obtain ⟨other, otherMem, otherFamily, otherDifferent, isCharged⟩ :=
    sees old oldMem oldFamily oldDifferent (status ▸ complete)
  obtain ⟨late, lateMem, _, lateOnly⟩ := effects.tasks.exists_after otherMem
  have lateId : late.id = other.id := congrArg TaskTerms.id lateOnly.terms
  have lateFamily : SameFamily late task := otherFamily.of_terms lateOnly.terms.symm rfl
  have noCharge := uncharged late lateMem lateFamily (by rw [lateId]; exact otherDifferent)
  rw [lateId, charged_of_evolves effects.ledger, isCharged] at noCharge
  cases noCharge

theorem charged_settled (applies : Applies env s lease plan work task job)
    (fence : fenceHedgeSettlement middle task plan.settlement = .ok (written, counts))
    (settles : SettlesTask middle lease job work.info plan written counts settled) (taskId : Uuid)
    (isCharged : settled.books.charged taskId = true) :
    middle.books.charged taskId = true ∨ (taskId = work.info.taskId ∧ counts = true) := by
  have rows := insertNewLedgerEntries_rows settles.ledger
  obtain ⟨entry, found⟩ := Option.isSome_iff_exists.mp isCharged
  have isKey := key_of_find? found
  have inRows := mem_of_find? found
  rw [rows] at inRows
  rcases List.mem_append.mp inRows with early | isNew
  · refine .inl (Option.isSome_iff_exists.mpr ⟨entry, ?_⟩)
    exact find?_eq_some.mpr ⟨early, isKey⟩
  · rcases fenceHedgeSettlement_ok fence with ⟨rfl, _⟩ | ⟨rfl, itCounts, _⟩
    · cases isNew
    refine .inr ⟨?_, itCounts⟩
    have bound := taskId_of_shape applies.shape entry isNew
    have ofTask : entry.taskId = some taskId := congrArg Prod.fst isKey
    rw [bound] at ofTask
    exact (Option.some.inj ofTask).symm

theorem Accepts.acceptsTask (applies : Applies env s lease plan work task job)
    (hedged : Hedged middle) (effects : EffectsRun work.info s middle)
    (found : middle.board.tasks.find? work.info.taskId = some row) (only : OutcomeOnly task row)
    (sees : FenceSees s task) (accepts : Accepts middle lease task job work.info plan next) :
    ∃ counts, AcceptsTask middle row counts next := by
  obtain ⟨_, counts, settled, fence, settles, _, resolve, rfl⟩ := accepts.settles
  have frame := recordChunkArtifactResolution_frame resolve
  have isTask := key_of_find? found
  have verifying : row.isVerifying work.info = true := by
    rw [only.isVerifying]
    exact applies.verifying
  have sameJob : row.jobId = work.info.jobId := by
    rw [only.terms]
    exact applies.sameJob
  have completed : Evolves
      (fun old after => after.toTaskTerms = old.toTaskTerms ∧
        (old.status = .complete → after.status = .complete))
      (fun _ => False) middle.board.tasks settled.board.tasks := by
    rw [settles.tasks]
    exact .update (fun _ => ⟨rfl, id⟩) fun _ _ _ => ⟨rfl, fun _ => rfl⟩
  have cancelled : Evolves
      (fun old after => after.toTaskTerms = old.toTaskTerms ∧
        (old.status = .complete → after.status = .complete))
      (fun _ => False) settled.board.tasks
      (settled.board.tasks.update (cancelledSibling task) failedSibling.toChange) := by
    refine .update (fun _ => ⟨rfl, id⟩) ?_
    intro sibling _ selected
    refine ⟨rfl, fun isComplete => ?_⟩
    simp [cancelledSibling, isComplete] at selected
  refine ⟨counts, ?_⟩
  rw [frame]
  constructor
  case member => exact mem_of_find? found
  case notComplete =>
    intro isComplete
    simp [TaskRow.isVerifying, isComplete] at verifying
  case tasks =>
    refine completed.trans cancelled ?_ (fun _ _ isFalse _ => isFalse.elim) fun _ => False.elim
    intro _ _ _ early late
    exact ⟨late.1.trans early.1, fun isComplete => late.2 (early.2 isComplete)⟩
  case completed =>
    have settledFound : settled.board.tasks.find? work.info.taskId =
        some ((completedTask middle.now plan.decision.outcome).apply row) := by
      rw [settles.tasks]
      exact find?_update_of_selected found verifying
    obtain ⟨after, afterFound, terms, kept⟩ := cancelled.find?_after settledFound
    exact ⟨after, mem_of_find? afterFound, congrArg TaskTerms.id terms, kept rfl⟩
  case jobs =>
    rw [settles.jobs]
    cases counts with
    | true =>
      refine .update_cases ?_ ?_
      · intro old _ selected
        have isJob : old.id = row.jobId := (of_decide_eq_true selected).trans sameJob.symm
        exact ⟨rfl, rfl, by simp [countedJob, isJob, JobChange.toChange]⟩
      · intro old _ selected
        have notJob : old.id ≠ row.jobId := by
          rw [sameJob]
          exact of_decide_eq_false selected
        exact ⟨rfl, rfl, by simp [notJob]⟩
    | false => exact .refl (fun _ => ⟨rfl, rfl, by simp⟩) _
  case charged =>
    intro taskId isCharged
    rw [isTask]
    exact charged_settled applies fence settles taskId isCharged
  case counted =>
    rw [isTask]
    exact settles.counted
  case alone => exact fun itCounts => alone_of_fence hedged effects only sees fence itCounts

end

theorem hedged_empty : Hedged State.empty := by
  constructor
  case chargedTask => exact nofun
  case countedOnce => exact List.nodup_nil
  all_goals exact List.forall_mem_nil _

section

variable {lease : VerificationLease} (hedged : Hedged s)
  (applies : Applies env s lease plan work task job)
  (ran : carryOut s lease task job work.info plan peerEligible = .ok next)

include hedged applies ran

theorem carryOut_hedged (sees : plan.decision.outcome ≠ .fail → FenceSees s task) :
    Hedged next := by
  obtain ⟨middle, effectsRan, effects, ends⟩ := carryOut_ok (checkEffect_of_shape applies.shape) ran
  have middleHedged : Hedged middle := hedged.calm effects.calm
      (Fits.runEffects planned_rule hedged.fits effectsRan)
  rcases ends with ⟨_, rejects⟩ | ⟨passes, accepts⟩
  · exact middleHedged.calm rejects.calm (Fits.reject planned_rule middleHedged.fits rejects)
  · obtain ⟨_, found, only⟩ := effects.tasks.find?_after applies.taskFound
    obtain ⟨_, accepted⟩ :=
      accepts.acceptsTask applies middleHedged effects found only (sees passes)
    exact accepted.hedged middleHedged (Fits.accept planned_rule middleHedged.fits accepts)

theorem carryOut_delivers (passes : plan.decision.outcome ≠ .fail) (sees : FenceSees s task)
    (isPrimary : task.isRedundancy = false) (isReal : task.isHoneypot = false) :
    ∃ row ∈ next.board.tasks.rows, task.deliversChunk row := by
  obtain ⟨middle, effectsRan, effects, ends⟩ := carryOut_ok (checkEffect_of_shape applies.shape) ran
  have middleHedged : Hedged middle := hedged.calm effects.calm
      (Fits.runEffects planned_rule hedged.fits effectsRan)
  rcases ends with ⟨isFail, _⟩ | ⟨_, accepts⟩
  · exact (passes isFail).elim
  obtain ⟨before, found, only⟩ := effects.tasks.find?_after applies.taskFound
  obtain ⟨_, accepted⟩ := accepts.acceptsTask applies middleHedged effects found only sees
  obtain ⟨row, mem, sameId, complete⟩ := accepted.completed
  obtain ⟨old, oldMem, _, terms, _⟩ := accepted.tasks.exists_before mem
  have oldId : old.id = before.id := by
    rw [← terms]
    exact sameId
  obtain rfl := accepted.eq_task oldMem oldId
  refine ⟨row, mem, ?_⟩
  rw [TaskRow.deliversChunk, terms, only.terms]
  exact ⟨rfl, rfl, isPrimary, isReal, complete⟩

end

theorem hedged_step (s : State) (event : Event) (next : State)
    (both : Hedged s ∧ TasksHaveJobs s.board) (guarded : HedgeGuard s event)
    (ran : step env s event = .ok next) : Hedged next ∧ TasksHaveJobs next.board := by
  obtain ⟨hedged, haveJobs⟩ := both
  refine ⟨?_, haveJobs.step ran⟩
  have fits : PlannedFits next.board := Fits.step planned_rule hedged.fits haveJobs ran
  cases step_steps ran with
  | rests _ board books => exact hedged.calm (.of_eq board books) fits
  | board moved => exact hedged.calm (boardStep_calm guarded moved) fits
  | commit commits => exact hedged.calm commits.calm fits
  | pin pins => exact hedged.calm pins.calm fits
  | apply applies carried =>
    refine carryOut_hedged hedged applies carried ?_
    intro passes
    exact (guarded passes _ applies.workFound _ applies.taskFound).1
  | finalize finalizes => exact hedged.calm finalizes.calm fits

/-- One charge and one count in every family, and no job is done more often
than it has tasks. -/
structure HedgeSafe (state : State) : Prop where
  oneCharge : ∀ left ∈ state.board.tasks.rows,
    ∀ right ∈ state.board.tasks.rows, SameFamily left right →
      state.books.charged left.id = true → state.books.charged right.id = true → left.id = right.id
  countedOnce : state.books.counted.Nodup
  oneCount : ∀ left ∈ state.board.tasks.rows,
    ∀ right ∈ state.board.tasks.rows, SameFamily left right →
      left.id ∈ state.books.counted → right.id ∈ state.books.counted → left.id = right.id
  doneLe : ∀ job ∈ state.board.jobs.rows, job.tasksDone ≤ job.taskCount

theorem Hedged.safe (hedged : Hedged s) : HedgeSafe s where
  oneCharge := hedged.oneCharge
  countedOnce := hedged.countedOnce
  oneCount := hedged.oneCount
  doneLe := fun job mem =>
    calc
      job.tasksDone ≤ s.countedFor job.id := hedged.done job mem
      _ ≤ plannedTasks s.board.tasks.rows job.id := hedged.countedFor_le job.id
      _ ≤ job.taskCount := hedged.fits job mem

/-- A task that an apply fails is a sibling of a chunk with an accepted
result. -/
def CancelsSafely (env : Env) (state : State) (event : Event) : Prop :=
  ∀ lease plan peerEligible, event = .verify lease plan peerEligible →
    ∀ task ∈ state.board.tasks.rows,
      ∀ row ∈ (apply (step env) state event).board.tasks.rows,
        row.id = task.id → task.status ≠ .failed → row.status = .failed →
          ∃ accepted ∈ (apply (step env) state event).board.tasks.rows,
            task.deliversChunk accepted

theorem Applied.delivers_kept (applied : Applied s plan work task next) {accepted : TaskRow}
    (mem : accepted ∈ s.board.tasks.rows) (delivers : sibling.deliversChunk accepted) :
    ∃ row ∈ next.board.tasks.rows, sibling.deliversChunk row := by
  obtain ⟨sameJob, sameChunk, isPrimary, isReal, complete⟩ := delivers
  obtain ⟨row, rowMem, _, move⟩ := applied.tasks.exists_after mem
  cases move with
  | outcome _ only =>
    refine ⟨row, rowMem, ?_⟩
    rw [TaskRow.deliversChunk, only.terms, only.status]
    exact ⟨sameJob, sameChunk, isPrimary, isReal, complete⟩
  | rejected _ verifying | completed _ verifying =>
    simp [TaskRow.isVerifying, complete] at verifying
  | cancelled _ cancelled => simp [cancelledSibling, complete] at cancelled

theorem cancels_safely {event : Event} (hedged : Hedged s) (guarded : HedgeGuard s event) :
    CancelsSafely env s event := by
  rintro lease plan peerEligible rfl task mem row rowMem sameId notFailed isFailed
  cases ran : step env s (.verify lease plan peerEligible) with
  | error =>
    rw [apply_of_error ran] at rowMem
    obtain rfl := eq_of_key rowMem mem sameId
    exact (notFailed isFailed).elim
  | ok =>
    rw [apply_of_ok ran] at rowMem ⊢
    obtain ⟨work, _, _, ⟨rfl, _⟩ | ⟨committed, _, applies, carried⟩⟩ := verifyJob_ok ran
    · obtain rfl := eq_of_key rowMem mem sameId
      exact (notFailed isFailed).elim
    have applied := carryOut_applied applies carried
    have move := applied.tasks.related_of_key mem rowMem sameId
    cases move with
    | outcome _ only =>
      rw [only.status] at isFailed
      exact (notFailed isFailed).elim
    | rejected _ _ requeues =>
      rcases requeues.status with status | status
      all_goals
        rw [status] at isFailed
        cases isFailed
    | completed _ _ same =>
      rw [same] at isFailed
      cases isFailed
    | cancelled passes sibling =>
      have facts := guarded passes work applies.workFound committed applies.taskFound
      have sameChunk : task.jobId = committed.jobId ∧ task.chunkIndex = committed.chunkIndex := by
        simp only [cancelledSibling, Bool.and_eq_true, decide_eq_true_eq] at sibling
        exact ⟨sibling.1.1.1.1.1.1, sibling.1.1.1.1.1.2⟩
      simp only [TaskRow.deliversChunk, sameChunk]
      by_cases special : committed.isRedundancy = true ∨ committed.isHoneypot = true
      · rcases facts.2 special with none | ⟨accepted, inRows, delivers⟩
        · rw [none task mem] at sibling
          cases sibling
        · exact applied.delivers_kept inRows delivers
      · simp only [not_or, Bool.not_eq_true] at special
        exact carryOut_delivers hedged applies carried passes facts.1 special.1 special.2

/-- In every run that keeps to the guard, each family is charged once and
counted once, and no chunk is lost to a cancellation. -/
theorem hedges_safe (env : Env) (events : List Event)
    (guarded : Meets (step env) HedgeGuard State.empty events) :
    Always (step env) HedgeSafe State.empty events ∧
      Meets (step env) (CancelsSafely env) State.empty events :=
  have start := ⟨hedged_empty, List.forall_mem_nil _⟩
  ⟨always_of_guarded hedged_step (fun _ both => both.1.safe) start guarded,
    meets_of_guarded hedged_step (fun _ _ both guard => cancels_safely both.1 guard) start
      guarded⟩

def leaseOn (workId : WorkId) (token : Nat) : VerificationLease where
  workId
  owner := "processor"
  token

def verifiedAs (workId : WorkId) (supplierId : Uuid) (token : Nat) (body : Bytes)
    (outcome : VerifyOutcome) (effects : List Effect) : List Event :=
  let lease := leaseOn workId token
  let plan :=
    planFor workId body outcome (recordEffects positionIds probe effects)
      (if outcome.payable then rowsFor workId.1 supplierId else [])
  plannedUnder lease plan ++ [.verify lease plan false]

/-- The result is the one that is there already. -/
def matching (taskId supplierId : Uuid) : List Effect :=
  [.dockReputation supplierId .redundancyMatch,
   .recordEvent 2 taskId supplierId .redundancyMatch, .dockReputation supplierId .taskSuccess]

/-- The primary runs, and a hedge is pinned to worker 13. -/
def hedgedPrimary (terms : JobTerms) : List Event :=
  [submitted terms, .board (.claim 1 (workerOf 3 4)), .board (.hedge 9 1 13)]

def commitPrimary : Event := .commit 1 3 0 { resultSha256 := "", settled := probeSettled }

def hedgedChunk : List Event :=
  hedgedPrimary usdJob ++ [commitPrimary] ++
    verifiedAs (1, 0) 4 0 [7] .pass [.dockReputation 4 .taskSuccess]

theorem hedgedChunk_safe :
    Meets (step usdEnv) HedgeGuard State.empty hedgedChunk ∧
      Always (step usdEnv) HedgeSafe State.empty hedgedChunk ∧
      Meets (step usdEnv) (CancelsSafely usdEnv) State.empty
        hedgedChunk :=
  have guarded : Meets (step usdEnv) HedgeGuard State.empty hedgedChunk := by decide +kernel
  ⟨guarded, hedges_safe usdEnv hedgedChunk guarded⟩

def voteAgainstPrimary : List Effect :=
  [.dockReputation 4 .mismatch, .recordEvent 2 1 4 .tiebreakLoss, .clawbackCredit 4 1,
   .dockReputation 16 .redundancyMatch,
   .recordEvent 2 5 16 .tiebreakWin,
   .dockReputation 18 .redundancyMatch,
   .recordEvent 2 6 18 .tiebreakWin]

/-- The clone and a tiebreak agree, the primary loses, and then its hedge
passes, which its first worker gave up and the supplier of the clone took. -/
def losingPrimary : List Event :=
  hedgedPrimary { usdJob with reserved := 2 } ++
    [.board (.claim 9 (workerOf 13 14)), .board (.failTask 9 13 0 true)] ++
    workedBy (workerOf 15 16) 5 0 ++ workedBy (workerOf 21 16) 9 1 ++ [commitPrimary] ++
    verifiedAs (5, 0) 16 0 [7] .passWithPenalty [.dockReputation 16 .taskSuccess] ++
    [.board (.tiebreak 6 1 17)] ++ workedBy (workerOf 17 18) 6 0 ++
    verifiedAs (6, 0) 18 1 [7] .pass (matching 6 18) ++
    verifiedAs (1, 0) 4 2 [8] .lossNoPayout voteAgainstPrimary ++
    verifiedAs (9, 1) 16 3 [7] .pass voteAgainstPrimary

def hastyRedundancy : List Event :=
  hedgedPrimary usdJob ++ workedBy (workerOf 15 16) 5 0 ++
    verifiedAs (5, 0) 16 0 [7] .passWithPenalty [.dockReputation 16 .taskSuccess]

/-- The primary and its hedge are both counted, so the job is done four times
with three tasks; and a hedge is failed on a chunk without a result. -/
theorem hedges_counted_twice_and_lost :
    (let state := run (step usdEnv) State.empty losingPrimary
     state.books.counted = [5, 6, 1, 9] ∧
       (state.board.jobs.find? 2).map (fun job => (job.tasksDone, job.taskCount)) = some (4, 3) ∧
       (state.board.tasks.find? 9).map (fun task => task.hedgedFrom) = some (some 1)) ∧
    (let state := run (step usdEnv) State.empty hastyRedundancy
     state.board.tasks.rows.map (fun task => (task.id, task.status)) =
        [(1, .running), (5, .complete), (9, .failed)]) := by
  decide +kernel

end MercControl.Verification
