import MercControl.Verification.BoardSteps

/-!
# What an apply does

The parts of `applyVerificationDecision` in the order in which they run: the
checks, the effects, and then either the rejection or the acceptance of the
attempt, each described by what it does to the tables.
-/

namespace MercControl.Verification

open Library Machine Table

/-! ## Checks -/

/-- What is checked before anything is written. -/
structure Applies (env : Env) (state : State) (lease : VerificationLease)
    (plan : VerificationWorkPlan) (work : WorkRow) (task : TaskRow) (job : JobRow) : Prop where
  planId : plan.workId = lease.workId
  workFound : state.desk.works.find? lease.workId = some work
  held : work.heldBy lease state.now = true
  stored : ∃ stored, state.desk.plans.find? lease.workId = some stored ∧
    stored.decision = plan.decision ∧ stored.settlement = plan.settlement
  artifact : work.artifact = some plan.artifact
  shape : validateVerificationDecisionShape env.ids work.info plan.decision plan.settlement = .ok ()
  taskFound : state.board.tasks.find? work.info.taskId = some task
  sameJob : task.jobId = work.info.jobId
  committed : task.matchesCommit work.info plan.artifact = true
  verifying : task.isVerifying work.info = true
  jobFound : state.board.jobs.find? work.info.jobId = some job
  jobLive : job.status.live = true
  settlement : validateVerificationSettlement env state task work.info
    plan.decision.outcome plan.settlement = .ok ()

variable {s next : State} {work : WorkRow} {lease : VerificationLease}
  {plan : VerificationWorkPlan} {env : Env} {peerEligible : Bool}
  {info : CommitTaskInfo} {entries : List LedgerEntry} {ids : EffectIds}
  {decision : VerificationDecision} {before after job : JobRow}
  {task : TaskRow}

theorem lockVerificationWorkFence_ok (ran : lockVerificationWorkFence s work lease plan = .ok ()) :
    work.heldBy lease s.now = true ∧ (∃ stored, s.desk.plans.find? lease.workId = some stored ∧
        stored.decision = plan.decision ∧
        stored.settlement = plan.settlement) ∧
      work.artifact = some plan.artifact := by
  unfold lockVerificationWorkFence at ran
  split at ran
  · cases ran
  next stored owner token expiresAt found isLeased =>
    obtain ⟨passes, _⟩ := ite_error_eq_ok.mp ran
    simp only [not_or, not_not, Bool.not_eq_true', Bool.not_eq_false] at passes
    exact ⟨passes.1, ⟨stored, found, passes.2.1, passes.2.2.1⟩, passes.2.2.2.1⟩
  · cases ran

/-- An apply replays a verdict that is there, or carries the decision out. -/
theorem verifyJob_ok (ran : verifyJob env s lease plan peerEligible = .ok next) :
    ∃ work, s.desk.works.find? lease.workId = some work ∧ work.heldBy lease s.now = true ∧
      ((next = s ∧ (s.books.verdicts.find? lease.workId).isSome = true) ∨
        ∃ task job, Applies env s lease plan work task job ∧
          carryOut s lease task job work.info plan peerEligible = .ok next) := by
  obtain ⟨planId, ran⟩ := ite_error_eq_ok.mp ran
  rw [not_not] at planId
  split at ran
  · cases ran
  next work workFound =>
    dsimp only at ran
    split at ran
    · cases ran
    next shape =>
      obtain ⟨fenced, ran⟩ := check_bind_eq_ok.mp ran
      obtain ⟨held, stored, artifact⟩ := lockVerificationWorkFence_ok fenced
      refine ⟨work, workFound, held, ?_⟩
      split at ran
      · cases ran
      next task taskFound =>
        obtain ⟨sameJob, ran⟩ := ite_error_eq_ok.mp ran
        obtain ⟨committed, ran⟩ := ite_error_eq_ok.mp ran
        obtain ⟨settlement, ran⟩ := check_bind_eq_ok.mp ran
        split at ran
        next replayed =>
          obtain ⟨verdict, ran⟩ := check_bind_eq_ok.mp ran
          refine .inl ⟨(Except.ok.inj ran).symm, ?_⟩
          have isWork : work.id = lease.workId := key_of_find? workFound
          unfold assertExactTaskVerdict at verdict
          rw [← WorkRow.id, isWork] at verdict
          split at verdict
          · cases verdict
          next row found =>
            rw [found]
            rfl
        next verifying =>
          split at ran
          · cases ran
          next job jobFound =>
            obtain ⟨jobLive, ran⟩ := ite_error_eq_ok.mp ran
            simp only [Bool.not_eq_true', Bool.not_eq_false,
              not_not] at sameJob committed verifying jobLive
            exact .inr ⟨task, job,
              { planId, workFound, held, stored, artifact, shape, taskFound, sameJob,
                committed, verifying, jobFound, jobLive, settlement }, ran⟩

theorem taskId_of_checkEntries {seen : List LedgerKind} {currency : Option Currency}
    (checked : checkEntries info seen currency entries = .ok ()) :
    ∀ entry ∈ entries, entry.taskId = some info.taskId := by
  induction entries generalizing seen currency with
  | nil => simp
  | cons entry rest restChecked =>
    obtain ⟨bound, checked⟩ := ite_error_eq_ok.mp checked
    rw [not_not] at bound
    have restBound : ∀ other ∈ rest, other.taskId = some info.taskId := by
      split at checked
      · obtain ⟨_, checked⟩ := ite_error_eq_ok.mp checked
        obtain ⟨_, checked⟩ := ite_error_eq_ok.mp checked
        exact restChecked checked
      · obtain ⟨_, checked⟩ := ite_error_eq_ok.mp checked
        exact restChecked checked
    exact List.forall_mem_cons.mpr ⟨bound, restBound⟩

theorem taskId_of_shape
    (shape : validateVerificationDecisionShape ids info decision entries = .ok ()) :
    ∀ entry ∈ entries, entry.taskId = some info.taskId := by
  obtain ⟨_, _, shape⟩ := bind_eq_ok.mp shape
  obtain ⟨_, _, shape⟩ := bind_eq_ok.mp shape
  obtain ⟨_, _, shape⟩ := bind_eq_ok.mp shape
  unfold checkSettlement at shape
  split at shape
  · obtain ⟨isEmpty, _⟩ := ite_error_eq_ok.mp shape
    rw [not_not, List.length_eq_zero_iff] at isEmpty
    simp [isEmpty]
  · obtain ⟨_, shape⟩ := ite_error_eq_ok.mp shape
    obtain ⟨_, checked, _⟩ := bind_eq_ok.mp shape
    exact taskId_of_checkEntries checked

theorem checkEffect_of_checkEffects {ordinal : Nat} {seen : List Uuid}
    {effects : List VerificationEffect}
    (checked : checkEffects ids info ordinal seen effects = .ok ()) :
    ∀ recorded ∈ effects, checkEffect info recorded.id recorded.effect = .ok () := by
  induction effects generalizing ordinal seen with
  | nil => simp
  | cons recorded rest restChecked =>
    obtain ⟨_, checked⟩ := ite_error_eq_ok.mp checked
    obtain ⟨_, checked⟩ := ite_error_eq_ok.mp checked
    obtain ⟨passes, checked⟩ := check_bind_eq_ok.mp checked
    exact List.forall_mem_cons.mpr ⟨passes, restChecked checked⟩

theorem checkEffect_of_shape
    (shape : validateVerificationDecisionShape ids info decision entries = .ok ()) :
    ∀ recorded ∈ decision.effects, checkEffect info recorded.id recorded.effect = .ok () := by
  obtain ⟨_, _, shape⟩ := bind_eq_ok.mp shape
  obtain ⟨_, checked, _⟩ := bind_eq_ok.mp shape
  exact checkEffect_of_checkEffects checked

/-! ## Effects -/

def OutcomeOnly (before after : TaskRow) : Prop := after = { before with outcome := after.outcome }

theorem OutcomeOnly.refl (task : TaskRow) : OutcomeOnly task task := rfl

def PayoutOnly (before after : LedgerEntry) : Prop :=
  after = { before with payoutStatus := after.payoutStatus }

theorem PayoutOnly.refl (entry : LedgerEntry) : PayoutOnly entry entry := rfl

structure IsTiebreak (info : CommitTaskInfo) (task : TaskRow) : Prop where
  terms : task.toTaskTerms =
    { id := task.id
      jobId := info.jobId
      chunkIndex := info.chunkIndex
      isHoneypot := false
      isRedundancy := true
      hedgedFrom := some info.taskId
      inputRef := info.inputRef }
  status : task.status = .queued
  attempt : task.attempt = 0
  idle : task.execution = none
  unsettled : task.settled = none

structure Obliged (before after : JobRow) : Prop where
  terms : after.toJobTerms = before.toJobTerms
  status : after.status = before.status ∨ (before.status = .verifying ∧ after.status = .running)
  actual : after.actual = before.actual
  tasksDone : after.tasksDone = before.tasksDone
  reserve : Reserves before after

theorem Obliged.refl (job : JobRow) : Obliged job job := ⟨rfl, .inl rfl, rfl, rfl, .of_eq rfl⟩

theorem Obliged.trans {middle : JobRow} (first : Obliged before middle)
    (second : Obliged middle after) : Obliged before after where
  terms := second.terms.trans first.terms
  status := by
    rcases first.status with same | ⟨verifying, running⟩
    · rw [← same]
      exact second.status
    · rcases second.status with same | ⟨again, _⟩
      · exact .inr ⟨verifying, same.trans running⟩
      · rw [running] at again
        cases again
  actual := second.actual.trans first.actual
  tasksDone := second.tasksDone.trans first.tasksDone
  reserve := first.reserve.trans second.terms second.reserve

structure EffectsRun (info : CommitTaskInfo) (before after : State) : Prop where
  desk : after.desk = before.desk
  now : after.now = before.now
  books : after.books = { before.books with ledger := after.books.ledger }
  ledger : Evolves PayoutOnly (fun entry => entry.kind = .clawback)
    before.books.ledger after.books.ledger
  tasks : Evolves OutcomeOnly (IsTiebreak info) before.board.tasks after.board.tasks
  jobs : Evolves Obliged (fun _ => False) before.board.jobs after.board.jobs

namespace EffectsRun

variable {before middle after : State}

variable {board : Board} {taskId : Uuid}

theorem refl (s : State) : EffectsRun info s s where
  desk := rfl
  now := rfl
  books := rfl
  ledger := .refl PayoutOnly.refl _
  tasks := .refl OutcomeOnly.refl _
  jobs := .refl Obliged.refl _

theorem verdicts (effects : EffectsRun info before after) :
    after.books.verdicts = before.books.verdicts := by
  rw [effects.books]

theorem trans (first : EffectsRun info before middle) (second : EffectsRun info middle after) :
    EffectsRun info before after where
  desk := second.desk.trans first.desk
  now := second.now.trans first.now
  books := by rw [second.books, first.books]
  ledger := by
    refine first.ledger.trans second.ledger ?_ ?_ (fun _ isNew => isNew)
    · intro old between row changed again
      rw [PayoutOnly] at changed again ⊢
      rw [again, changed]
    · intro between row isClawback changed
      rw [changed]
      exact isClawback
  tasks := by
    refine first.tasks.trans second.tasks ?_ ?_ (fun _ isNew => isNew)
    · intro old between row changed again
      rw [OutcomeOnly] at changed again ⊢
      rw [again, changed]
    · intro between row isTiebreak changed
      rw [changed]
      exact { isTiebreak with }
  jobs := first.jobs.trans second.jobs (fun _ _ _ early late => early.trans late)
      (fun _ _ isFalse _ => isFalse.elim) (fun _ => False.elim)

theorem setOutcome {outcome : TaskOutcome}
    (ran : before.board.setOutcome taskId outcome = .ok board) :
    EffectsRun info before { before with board } := by
  obtain ⟨_, rfl⟩ := Board.updateTasks_ok ran
  exact { @refl info before with tasks := .update OutcomeOnly.refl fun _ _ _ => rfl }

theorem promoteProvisionalWinner
    (ran : Verification.promoteProvisionalWinner before.board taskId = .ok board) :
    EffectsRun info before { before with board } := by
  unfold Verification.promoteProvisionalWinner at ran
  split at ran
  · cases ran
  next task found =>
    split_ifs at ran
    · exact setOutcome ran
    · cases ran
      exact refl before

theorem clawbackTaskCredit {ledger : Table LedgerEntry.taskKind} {supplierId : Uuid}
    (ran : Verification.clawbackTaskCredit before.books.ledger supplierId taskId = .ok ledger) :
    EffectsRun info before { before with books := { before.books with ledger } } := by
  refine { @refl info before with books := rfl, ledger := ?_ }
  unfold Verification.clawbackTaskCredit at ran
  split at ran
  · cases ran
    exact .refl PayoutOnly.refl _
  next credit found =>
    split at ran
    · cases ran
      exact .refl PayoutOnly.refl _
    have isCredit : credit.taskKind = (some taskId, .supplierCredit) := key_of_find? found
    have reversed : Evolves PayoutOnly
        (fun entry => entry.kind = .clawback) before.books.ledger
        (before.books.ledger.set { credit with payoutStatus := .clawedBack }) :=
      .set PayoutOnly.refl (isCredit ▸ found) rfl
    dsimp only at ran
    split at ran
    · split at ran
      · cases ran
      next inserted =>
        obtain ⟨fresh, rfl⟩ := insertNew_eq_some.mp inserted
        cases ran
        refine reversed.trans
          (Evolves.insert (fun _ => rfl) fresh rfl :
            Evolves Eq (fun entry => entry.kind = .clawback) _ _)
          ?_ ?_ (fun _ isNew => isNew)
        · rintro old between row changed rfl
          exact changed
        · rintro between row isNew rfl
          exact isNew
    · split at ran
      · cases ran
        exact reversed
      · cases ran

theorem insertPlannedTiebreak {peerWorkerId : Uuid}
    (ran : Verification.insertPlannedTiebreak before.board peerEligible taskId
      info.jobId info.taskId peerWorkerId info.inputRef info.chunkIndex = .ok board) :
    EffectsRun info before { before with board } := by
  rcases insertPlannedTiebreak_ok ran with rfl | ⟨middle, job, jobFound, _, left, inserted, obliged⟩
  · exact refl before
  · obtain ⟨fresh, rfl⟩ := Board.insertTask_ok inserted
    obtain ⟨_, rfl⟩ := Board.updateJobs_ok obliged
    refine { @refl info before with
      tasks := .insert OutcomeOnly.refl fresh ⟨rfl, rfl, rfl, rfl, rfl⟩
      jobs := .update Obliged.refl ?_ }
    intro row mem selected
    obtain rfl : row = job := eq_of_find? jobFound mem (of_decide_eq_true selected)
    refine ⟨rfl, ?_, rfl, rfl, .of_reserveLeft rfl rfl left⟩
    change (if _ then _ else _ : JobStatus) = _ ∨
      _ ∧ (if _ then _ else _ : JobStatus) = _
    split_ifs with verifying
    · exact .inr ⟨verifying, rfl⟩
    · exact .inl rfl

theorem runEffect {id : Uuid} {effect : Effect} (checked : checkEffect info id effect = .ok ())
    (ran : Verification.runEffect before info peerEligible effect = .ok after) :
    EffectsRun info before after := by
  cases effect with
  | dockReputation | quarantine | requeue =>
    cases ran
    exact refl before
  | recordEvent =>
    rw [Verification.runEffect] at ran
    split at ran
    · obtain ⟨board, promoted, ran⟩ := bind_eq_ok.mp ran
      cases ran
      exact promoteProvisionalWinner promoted
    · cases ran
      exact refl before
  | clawbackCredit =>
    obtain ⟨ledger, clawed, ran⟩ := bind_eq_ok.mp ran
    have reversed : EffectsRun info before
        { before with books := { before.books with ledger } } :=
      clawbackTaskCredit clawed
    split at ran
    · obtain ⟨board, written, ran⟩ := bind_eq_ok.mp ran
      cases ran
      exact reversed.trans (setOutcome written)
    · cases ran
      exact reversed
  | insertTiebreak =>
    obtain ⟨board, inserted, ran⟩ := bind_eq_ok.mp ran
    cases ran
    obtain ⟨bound, _⟩ := ite_error_eq_ok.mp checked
    simp only [not_or, not_not] at bound
    obtain ⟨_, rfl, rfl, _, rfl, rfl⟩ := bound
    exact insertPlannedTiebreak inserted

theorem runEffects {effects : List VerificationEffect}
    (checked : ∀ recorded ∈ effects, checkEffect info recorded.id recorded.effect = .ok ())
    (ran : Verification.runEffects info peerEligible before effects = .ok after) :
    EffectsRun info before after := by
  induction effects generalizing before with
  | nil =>
    obtain rfl := Except.ok.inj ran
    exact refl before
  | cons recorded rest restRun =>
    obtain ⟨_, ran⟩ := check_bind_eq_ok.mp ran
    obtain ⟨_, first, ran⟩ := bind_eq_ok.mp ran
    obtain ⟨passes, restPass⟩ := List.forall_mem_cons.mp checked
    exact (runEffect passes first).trans (restRun restPass ran)

end EffectsRun

/-! ## The verdict and the work -/

def verdictOf (info : CommitTaskInfo) (plan : VerificationWorkPlan) : VerdictRow where
  taskId := info.taskId
  attempt := info.attempt
  jobId := info.jobId
  supplierId := info.supplierId
  outcome := plan.decision.outcome
  decision := plan.decision
  settlement := plan.settlement
  artifact := plan.artifact

def WorkRow.terminated (work : WorkRow) (plan : VerificationWorkPlan) : WorkRow :=
  { work with status := .terminal plan.decision.outcome plan.decision plan.settlement }

def WritesVerdict (info : CommitTaskInfo) (plan : VerificationWorkPlan)
    (before after : Books) : Prop :=
  ∃ fresh : before.verdicts.find? (verdictOf info plan).workId = none,
    after.verdicts = before.verdicts.insert (verdictOf info plan) fresh

theorem WritesVerdict.of_eq {before other after : Books} (same : other.verdicts = before.verdicts)
    (writes : WritesVerdict info plan other after) : WritesVerdict info plan before after := by
  unfold WritesVerdict at writes ⊢
  rw [← same]
  exact writes

def Terminates (now : Nat) (lease : VerificationLease)
    (plan : VerificationWorkPlan) (before after : Desk) : Prop :=
  ∃ work, before.works.find? lease.workId = some work ∧ work.heldBy lease now = true ∧
    after = { before with works := before.works.set (work.terminated plan) }

theorem insertExactTaskVerdict_ok (ran : insertExactTaskVerdict s info plan = .ok next) :
    next = { s with books := { s.books with verdicts := next.books.verdicts } } ∧
      WritesVerdict info plan s.books next.books := by
  unfold insertExactTaskVerdict at ran
  split at ran
  · cases ran
  next verdicts inserted =>
    obtain ⟨fresh, rfl⟩ := insertNew_eq_some.mp inserted
    cases ran
    exact ⟨rfl, fresh, rfl⟩

theorem Desk.held_ok {desk : Desk} {now : Nat} (ran : desk.held now lease = .ok work) :
    desk.works.find? lease.workId = some work ∧ work.heldBy lease now = true := by
  unfold Desk.held at ran
  split at ran
  · cases ran
  next row found =>
    split_ifs at ran with isHeld
    cases ran
    exact ⟨found, isHeld⟩

theorem terminalizeVerificationWork_ok (ran : terminalizeVerificationWork s lease plan = .ok next) :
    next = { s with desk := next.desk } ∧ Terminates s.now lease plan s.desk next.desk := by
  obtain ⟨work, isHeld, ran⟩ := bind_eq_ok.mp ran
  obtain ⟨found, held⟩ := Desk.held_ok isHeld
  obtain ⟨_, ran⟩ := ite_error_eq_ok.mp ran
  cases ran
  exact ⟨rfl, work, found, held, rfl⟩

/-! ## Rejection -/

def rejectedTask : TaskChange where
  apply := fun task =>
    { task with
      status := .retrying
      claimedBy := none
      workerId := none
      attempt := task.attempt + 1 }
  kept := fun task => Eq.refl task.toTaskTerms

def resumedJob : JobChange where
  apply := fun job => { job with status := .running }
  kept := fun job => Eq.refl job.toJobTerms

structure Rejects (state : State) (lease : VerificationLease)
    (info : CommitTaskInfo) (plan : VerificationWorkPlan) (next : State) :
    Prop where
  tasks : next.board.tasks =
    state.board.tasks.update (TaskRow.isVerifying info) rejectedTask.toChange
  jobs : next.board.jobs =
    state.board.jobs.update (fun job => job.id = info.jobId && job.status = .verifying)
      resumedJob.toChange
  verdict : WritesVerdict info plan state.books next.books
  books : next.books = { state.books with verdicts := next.books.verdicts }
  desk : Terminates state.now lease plan state.desk next.desk
  now : next.now = state.now

theorem rejectDecision_ok (ran : rejectDecision s lease info plan = .ok next) :
    Rejects s lease info plan next := by
  obtain ⟨_, wrote, ran⟩ := bind_eq_ok.mp ran
  obtain ⟨_, ran⟩ := ite_error_eq_ok.mp ran
  obtain ⟨_, requeued, ran⟩ := bind_eq_ok.mp ran
  obtain ⟨_, resumed, ran⟩ := bind_eq_ok.mp ran
  obtain ⟨frame, verdict⟩ := insertExactTaskVerdict_ok wrote
  obtain ⟨_, rfl⟩ := Board.updateTasks_ok requeued
  obtain ⟨_, rfl⟩ := Board.updateJobs_ok resumed
  obtain ⟨deskFrame, desk⟩ := terminalizeVerificationWork_ok ran
  rw [frame] at deskFrame desk
  rw [deskFrame]
  exact { tasks := rfl, jobs := rfl, verdict, books := rfl, desk, now := rfl }

/-! ## Acceptance -/

def completedTask (now : Nat) (outcome : VerifyOutcome) : TaskChange where
  apply := fun task =>
    { task with status := .complete, completedAt := some now, outcome := some (.decided outcome) }
  kept := fun _ => rfl

def failedSibling : TaskChange where
  apply := fun sibling =>
    { sibling with status := .failed, claimedBy := none }
  kept := fun sibling => Eq.refl sibling.toTaskTerms

def countedJob : JobChange where
  apply := fun job => { job with tasksDone := job.tasksDone + 1 }
  kept := fun job => Eq.refl job.toJobTerms

/-- What an acceptance writes before the artifact of the chunk is looked for:
the task is complete and settled. -/
structure SettlesTask (state : State) (lease : VerificationLease)
    (job : JobRow) (info : CommitTaskInfo) (plan : VerificationWorkPlan)
    (written : List LedgerEntry) (counts : Bool) (next : State) : Prop where
  tasks : next.board.tasks =
    state.board.tasks.update (TaskRow.isVerifying info)
      (completedTask state.now plan.decision.outcome).toChange
  jobs : next.board.jobs =
    if counts then state.board.jobs.update (fun job => job.id = info.jobId) countedJob.toChange
    else state.board.jobs
  verdict : WritesVerdict info plan state.books next.books
  ledger : insertNewLedgerEntries state.books.ledger written = .ok next.books.ledger
  premiums : next.books.premiums = state.books.premiums
  debits : ∃ debits, debitPrepaidForTask job info.taskId written = .ok debits ∧
    next.books.debits = state.books.debits ++ debits
  resolutions : next.books.resolutions = state.books.resolutions
  counted : next.books.counted =
    if counts then state.books.counted ++ [info.taskId] else state.books.counted
  desk : Terminates state.now lease plan state.desk next.desk
  now : next.now = state.now

structure Accepts (state : State) (lease : VerificationLease) (task : TaskRow) (job : JobRow)
    (info : CommitTaskInfo) (plan : VerificationWorkPlan) (next : State) : Prop where
  settles : ∃ written counts settled,
    fenceHedgeSettlement state task plan.settlement = .ok (written, counts) ∧
    SettlesTask state lease job info plan written counts settled ∧
    ∃ resolved, recordChunkArtifactResolution settled task info plan counts = .ok resolved ∧
      next =
        { resolved with
          board := { resolved.board with
            tasks := resolved.board.tasks.update (cancelledSibling task) failedSibling.toChange } }

theorem completeTask_ok {outcome : VerifyOutcome} (ran : completeTask s info outcome = .ok next) :
    next =
      { s with
        board := { s.board with
          tasks := s.board.tasks.update (TaskRow.isVerifying info)
              (completedTask s.now outcome).toChange } } := by
  obtain ⟨_, ran⟩ := ite_error_eq_ok.mp ran
  obtain ⟨board, completed, ran⟩ := bind_eq_ok.mp ran
  obtain ⟨_, rfl⟩ := Board.updateTasks_ok completed
  exact (Except.ok.inj ran).symm

theorem settleTask_ok (ran : settleTask s job info entries = .ok next) :
    ∃ ledger debits, insertNewLedgerEntries s.books.ledger entries = .ok ledger ∧
      debitPrepaidForTask job info.taskId entries = .ok debits ∧
      next =
        { s with
          books := { s.books with ledger, debits := s.books.debits ++ debits } } := by
  obtain ⟨ledger, inserted, ran⟩ := bind_eq_ok.mp ran
  obtain ⟨debits, debited, ran⟩ := bind_eq_ok.mp ran
  exact ⟨ledger, debits, inserted, debited, (Except.ok.inj ran).symm⟩

theorem acceptDecision_ok (ran : acceptDecision s lease task job info plan = .ok next) :
    Accepts s lease task job info plan next := by
  obtain ⟨⟨written, counts⟩, fence, ran⟩ := bind_eq_ok.mp ran
  obtain ⟨_, complete, ran⟩ := bind_eq_ok.mp ran
  obtain ⟨_, wrote, ran⟩ := bind_eq_ok.mp ran
  obtain ⟨counted, count, ran⟩ := bind_eq_ok.mp ran
  obtain ⟨_, terminated, ran⟩ := bind_eq_ok.mp ran
  obtain ⟨settled, settle, ran⟩ := bind_eq_ok.mp ran
  obtain ⟨resolved, resolve, ran⟩ := bind_eq_ok.mp ran
  obtain ⟨board, cancelled, ran⟩ := bind_eq_ok.mp ran
  obtain ⟨_, rfl⟩ := Board.updateTasks_ok cancelled
  refine ⟨written, counts, settled, fence, ?_, resolved, resolve, (Except.ok.inj ran).symm⟩
  obtain rfl := completeTask_ok complete
  obtain ⟨frame, verdict⟩ := insertExactTaskVerdict_ok wrote
  obtain ⟨deskFrame, desk⟩ := terminalizeVerificationWork_ok terminated
  obtain ⟨ledger, debits, inserted, debited, rfl⟩ := settleTask_ok settle
  rw [deskFrame] at inserted
  cases counts
  case' true =>
    obtain ⟨board, counted, count⟩ := bind_eq_ok.mp count
    obtain ⟨_, rfl⟩ := Board.updateJobs_ok counted
    cases count
  case' false => cases count
  all_goals
    rw [frame] at deskFrame desk inserted
    rw [deskFrame]
    exact
      { tasks := rfl, jobs := rfl, verdict, ledger := inserted, premiums := rfl
        debits := ⟨debits, debited, rfl⟩
        resolutions := rfl, counted := rfl, desk, now := rfl }

theorem recordWinner_frame {basis : Basis} {winner : ChunkWinnerCandidate}
    (ran : recordWinner s info basis decision winner = .ok next) :
    next = { s with books := { s.books with resolutions := next.books.resolutions } } := by
  obtain ⟨_, ran⟩ := ite_error_eq_ok.mp ran
  split at ran
  · split at ran
    · cases ran
    · cases ran
      rfl
  · split at ran
    · cases ran
      rfl
    · cases ran

theorem recordChunkArtifactResolution_frame {counts : Bool}
    (ran : recordChunkArtifactResolution s task info plan counts = .ok next) :
    next = { s with books := { s.books with resolutions := next.books.resolutions } } := by
  unfold recordChunkArtifactResolution at ran
  split at ran
  · split at ran
    · cases ran
      rfl
    · obtain ⟨_, _, recorded⟩ := bind_eq_ok.mp ran
      exact recordWinner_frame recorded
  · obtain ⟨_, _, ran⟩ := bind_eq_ok.mp ran
    obtain ⟨_, _, recorded⟩ := bind_eq_ok.mp ran
    exact recordWinner_frame recorded

theorem insertNewLedgerEntries_rows {ledger next : Table LedgerEntry.taskKind}
    (ran : insertNewLedgerEntries ledger entries = .ok next) :
    next.rows = ledger.rows ++ entries := by
  induction entries generalizing ledger with
  | nil =>
    cases ran
    simp
  | cons entry rest restInserted =>
    unfold insertNewLedgerEntries at ran
    split at ran
    · cases ran
    next inserted =>
      obtain ⟨_, rfl⟩ := insertNew_eq_some.mp inserted
      rw [restInserted ran]
      simp [Table.insert]

theorem fenceHedgeSettlement_ok {written : List LedgerEntry} {counts : Bool}
    (ran : fenceHedgeSettlement s task entries = .ok (written, counts)) :
    (written = [] ∧ counts = false) ∨ (written = entries ∧ counts = true ∧
        (task.isRedundancy = true ∨ ∀ sibling ∈ s.board.tasks.rows, sibling.id ≠ task.id →
            sibling.inFamily task.root = true → s.books.charged sibling.id = false)) := by
  unfold fenceHedgeSettlement at ran
  split at ran
  next redundant =>
    cases ran
    exact .inr ⟨rfl, rfl, .inl redundant⟩
  · obtain ⟨_, ran⟩ := ite_error_eq_ok.mp ran
    split at ran
    · cases ran
      exact .inl ⟨rfl, rfl⟩
    next uncharged =>
      cases ran
      refine .inr ⟨rfl, rfl, .inr ?_⟩
      intro sibling mem ne inFamily
      by_contra charged
      apply uncharged
      rw [Bool.not_eq_false] at charged
      refine List.any_eq_true.mpr ⟨sibling, mem, ?_⟩
      simp [ne, inFamily, charged]

theorem debitPrepaidForTask_ok {taskId : Uuid} {debits : List Debit}
    (ran : debitPrepaidForTask job taskId entries = .ok debits) :
    ∀ debit ∈ debits, ∃ amount, debit = .task taskId amount := by
  unfold debitPrepaidForTask at ran
  split at ran
  · cases ran
    simp
  split at ran
  · split at ran
    · cases ran
      intro debit mem
      exact ⟨_, List.mem_singleton.mp mem⟩
    · cases ran
  · cases ran

/-! ## The whole apply -/

theorem carryOut_ok (checked : ∀ recorded ∈ plan.decision.effects,
      checkEffect info recorded.id recorded.effect = .ok ())
    (ran : carryOut s lease task job info plan peerEligible = .ok next) :
    ∃ middle, runEffects info peerEligible s plan.decision.effects = .ok middle ∧
      EffectsRun info s middle ∧
      ((plan.decision.outcome = .fail ∧ Rejects middle lease info plan next) ∨
        (plan.decision.outcome ≠ .fail ∧ Accepts middle lease task job info plan next)) := by
  obtain ⟨middle, effects, ran⟩ := bind_eq_ok.mp ran
  refine ⟨middle, effects, .runEffects checked effects, ?_⟩
  split at ran
  next isFail =>
    obtain ⟨_, ran⟩ := ite_error_eq_ok.mp ran
    exact .inl ⟨isFail, rejectDecision_ok ran⟩
  next passes =>
    obtain ⟨_, ran⟩ := ite_error_eq_ok.mp ran
    exact .inr ⟨passes, acceptDecision_ok ran⟩

/-- How an apply changes a task: its outcome, or the end of the attempt, or
the cancellation of a sibling. -/
inductive ApplyMove (now : Nat) (task : TaskRow) (info : CommitTaskInfo)
    (plan : VerificationWorkPlan) (before after : TaskRow) : Prop
  | outcome (other : before.isVerifying info = false) (same : OutcomeOnly before after)
  | rejected (isFail : plan.decision.outcome = .fail) (verifying : before.isVerifying info = true)
      (requeues : Requeues before after)
  | completed (passes : plan.decision.outcome ≠ .fail) (verifying : before.isVerifying info = true)
      (same : after = (completedTask now plan.decision.outcome).apply before)
  | cancelled (passes : plan.decision.outcome ≠ .fail)
      (sibling : cancelledSibling task before = true)
      (closes : Closes before after)

structure JobApplied (before after : JobRow) : Prop where
  terms : after.toJobTerms = before.toJobTerms
  status : after.status = before.status ∨ (before.status = .verifying ∧ after.status = .running)
  actual : after.actual = before.actual
  reserve : Reserves before after

theorem JobApplied.live (applied : JobApplied before after) :
    after.status.live = before.status.live := by
  rcases applied.status with same | ⟨verifying, running⟩
  · rw [same]
  · rw [verifying, running]
    rfl

structure Applied (state : State) (plan : VerificationWorkPlan)
    (work : WorkRow) (task : TaskRow) (next : State) : Prop where
  tasks : Evolves (ApplyMove state.now task work.info plan)
    (IsTiebreak work.info) state.board.tasks next.board.tasks
  jobs : Evolves JobApplied (fun _ => False) state.board.jobs next.board.jobs
  desk : next.desk = { state.desk with works := state.desk.works.set (work.terminated plan) }
  verdict : WritesVerdict work.info plan state.books next.books
  ledger : Evolves PayoutOnly (fun entry => entry.kind = .clawback ∨ entry ∈ plan.settlement)
    state.books.ledger next.books.ledger
  premiums : next.books.premiums = state.books.premiums
  debits : ∃ debits, next.books.debits = state.books.debits ++ debits ∧
    ∀ debit ∈ debits, ∃ amount, debit = .task work.info.taskId amount
  now : next.now = state.now

theorem OutcomeOnly.isVerifying {before after : TaskRow} (only : OutcomeOnly before after)
    (info : CommitTaskInfo) : after.isVerifying info = before.isVerifying info := by
  rw [only]
  rfl

theorem OutcomeOnly.cancelledSibling {before after : TaskRow} (only : OutcomeOnly before after) :
    Verification.cancelledSibling task after = Verification.cancelledSibling task before := by
  rw [only]
  rfl

theorem IsTiebreak.not_isVerifying (tiebreak : IsTiebreak info task) :
    task.isVerifying info = false := by
  simp [TaskRow.isVerifying, tiebreak.status]

theorem IsTiebreak.not_cancelledSibling {sibling : TaskRow} (tiebreak : IsTiebreak info sibling) :
    cancelledSibling task sibling = false := by
  have redundant : sibling.isRedundancy = true := congrArg TaskTerms.isRedundancy tiebreak.terms
  simp [cancelledSibling, redundant]

section

variable (applies : Applies env s lease plan work task job)

include applies

theorem Rejects.applied {middle : State}
    (effects : EffectsRun work.info s middle) (isFail : plan.decision.outcome = .fail)
    (rejects : Rejects middle lease work.info plan next) : Applied s plan work task next where
  tasks := by
    rw [rejects.tasks]
    refine effects.tasks.trans_update (fun _ tiebreak => tiebreak.not_isVerifying) ?_ ?_
    · intro old row only other
      rw [only.isVerifying] at other
      exact .outcome other only
    · intro old row only verifying
      rw [only.isVerifying] at verifying
      rw [only]
      exact .rejected isFail verifying
        { terms := rfl, status := .inr rfl, attempt := rfl, unclaimed := rfl
          execution := rfl, settled := .inl rfl }
  jobs := by
    rw [rejects.jobs]
    refine effects.jobs.trans_update (fun _ => False.elim) ?_ ?_
    · intro old row obliged _
      exact { obliged with }
    · intro old row obliged selected
      simp only [Bool.and_eq_true, decide_eq_true_eq] at selected
      refine ⟨obliged.terms, .inr ⟨?_, rfl⟩, obliged.actual,
        ⟨obliged.reserve.grows, fun more => (obliged.reserve.covered more).of_eq rfl rfl⟩⟩
      rcases obliged.status with same | ⟨wasVerifying, _⟩
      · rw [← same]
        exact selected.2
      · exact wasVerifying
  desk := by
    obtain ⟨row, found, _, same⟩ := rejects.desk
    rw [effects.desk] at found same
    obtain rfl := Option.mem_unique found applies.workFound
    exact same
  verdict := rejects.verdict.of_eq effects.verdicts
  ledger := by
    rw [rejects.books]
    exact effects.ledger.mono (fun _ _ _ related => related) (fun _ isClawback => .inl isClawback)
  premiums := by
    rw [rejects.books, effects.books]
  debits := by
    refine ⟨[], ?_, by simp⟩
    rw [rejects.books, effects.books, List.append_nil]
  now := rejects.now.trans effects.now

theorem Accepts.applied {middle : State}
    (effects : EffectsRun work.info s middle) (passes : plan.decision.outcome ≠ .fail)
    (accepts : Accepts middle lease task job work.info plan next) :
    Applied s plan work task next := by
  obtain ⟨written, _, settled, fence, settles, _, resolve, rfl⟩ := accepts.settles
  have frame := recordChunkArtifactResolution_frame resolve
  have isWritten : ∀ entry ∈ written, entry ∈ plan.settlement := by
    rcases fenceHedgeSettlement_ok fence with ⟨rfl, _⟩ | ⟨rfl, _⟩
    · simp
    · exact fun entry mem => mem
  rw [frame]
  constructor
  case tasks =>
    have accepted : Evolves
        (ApplyMove s.now task work.info plan) (IsTiebreak work.info)
        s.board.tasks settled.board.tasks := by
      rw [settles.tasks, effects.now]
      refine effects.tasks.trans_update (fun _ tiebreak => tiebreak.not_isVerifying) ?_ ?_
      · intro old row only other
        rw [only.isVerifying] at other
        exact .outcome other only
      · intro old row only verifying
        rw [only.isVerifying] at verifying
        refine .completed passes verifying ?_
        rw [only]
        rfl
    refine accepted.trans_update (fun _ tiebreak => tiebreak.not_cancelledSibling)
      (fun _ _ move _ => move) ?_
    intro old row move sibling
    cases move with
    | outcome _ only =>
      rw [only.cancelledSibling] at sibling
      rw [only]
      exact .cancelled passes sibling
        { terms := rfl, status := .inl rfl, attempt := rfl, holder := .inl rfl
          execution := rfl, settled := rfl }
    | rejected isFail => exact (passes isFail).elim
    | completed _ _ same =>
      simp [same, Verification.cancelledSibling, completedTask] at sibling
    | cancelled _ _ closes =>
      rcases closes.status with status | status
      all_goals simp [Verification.cancelledSibling, status] at sibling
  case jobs =>
    have goesOn : ∀ {old row}, Obliged old row → JobApplied old row := fun obliged =>
      { obliged with }
    rw [settles.jobs]
    split_ifs
    · refine effects.jobs.trans_update (fun _ => False.elim)
        (fun _ _ obliged _ => goesOn obliged) ?_
      intro old row obliged _
      exact { obliged with reserve := ⟨obliged.reserve.grows, fun more =>
        (obliged.reserve.covered more).of_eq rfl rfl⟩ }
    · exact effects.jobs.mono (fun _ _ _ => goesOn) (fun _ => id)
  case desk =>
    obtain ⟨row, found, _, same⟩ := settles.desk
    rw [effects.desk] at found same
    obtain rfl := Option.mem_unique found applies.workFound
    exact same
  case verdict => exact settles.verdict.of_eq effects.verdicts
  case ledger =>
    have rows := insertNewLedgerEntries_rows settles.ledger
    have added : Evolves Eq (fun entry => entry ∈ plan.settlement)
        middle.books.ledger settled.books.ledger :=
      ⟨⟨id, fun _ => rfl⟩, written, by simpa using rows, fun _ _ => rfl, isWritten⟩
    refine effects.ledger.trans added ?_ ?_ (fun _ isNew => .inr isNew)
    · rintro old between row only rfl
      exact only
    · rintro between row isClawback rfl
      exact .inl isClawback
  case premiums =>
    rw [settles.premiums, effects.books]
  case debits =>
    obtain ⟨debits, debited, same⟩ := settles.debits
    refine ⟨debits, ?_, debitPrepaidForTask_ok debited⟩
    rw [same, effects.books]
  case now => exact settles.now.trans effects.now

theorem carryOut_applied (ran : carryOut s lease task job work.info plan peerEligible = .ok next) :
    Applied s plan work task next := by
  obtain ⟨_, _, effects, ⟨isFail, rejects⟩ | ⟨passes, accepts⟩⟩ :=
    carryOut_ok (checkEffect_of_shape applies.shape) ran
  · exact rejects.applied applies effects isFail
  · exact accepts.applied applies effects passes

end

end MercControl.Verification
