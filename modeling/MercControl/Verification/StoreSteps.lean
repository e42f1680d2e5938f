import MercControl.Verification.ApplySteps

/-!
# What the other events do

The events of the verification work, the commit of a task and the completion of
a job.  Only an apply makes a work row terminal or writes a verdict, and only an
apply and a completion write to the books at all.
-/

namespace MercControl.Verification

open Library Machine Table

structure Reworked (before after : WorkRow) : Prop where
  info : after.info = before.info
  reportedSha256 : after.reportedSha256 = before.reportedSha256
  wasOpen : before.status.isTerminal = false
  isOpen : after.status.isTerminal = false
  artifact : before.artifact = none ∨ after.artifact = before.artifact

def WorkKept (before after : WorkRow) : Prop := after = before ∨ Reworked before after

variable {work : WorkRow} {lease : VerificationLease} {desk : Desk}
  {s next : State} {commit : TaskCommit}

theorem WorkKept.refl (work : WorkRow) : WorkKept work work := .inl rfl

structure DeskMoves (before after : Desk) : Prop where
  works : Evolves WorkKept
    (fun work => work.status.isTerminal = false) before.works after.works
  plans : Evolves Eq (fun _ => True) before.plans after.plans

theorem DeskMoves.refl (desk : Desk) : DeskMoves desk desk where
  works := .refl WorkKept.refl _
  plans := .refl (fun _ => rfl) _

theorem WorkRow.open_of_heldBy {now : Nat} (held : work.heldBy lease now = true) :
    work.status.isTerminal = false := by
  unfold WorkRow.heldBy at held
  split at held
  next isLeased =>
    rw [isLeased]
    rfl
  · cases held

theorem DeskMoves.set {workId : WorkId} {row : WorkRow} {issued : Nat}
    (found : desk.works.find? workId = some work) (reworked : Reworked work row) :
    DeskMoves desk { desk with works := desk.works.set row, issued } := by
  have isWork : row.id = workId := by
    have sameId : work.id = workId := key_of_find? found
    rw [← sameId, WorkRow.id, WorkRow.id, reworked.info]
  rw [← isWork] at found
  exact ⟨.set WorkKept.refl found (.inr reworked), .refl (fun _ => rfl) _⟩

variable {env : Env} {kind : ArtifactKind} {body : Bytes} {info : CommitTaskInfo}

section

variable {next : Desk} {now : Nat} {workId : WorkId} {owner : String}
variable {duration : Nat}

theorem Desk.lease_moves {expiresAt : Nat} (found : desk.works.find? workId = some work)
    (isOpen : work.status.isTerminal = false) : DeskMoves desk (desk.lease work owner expiresAt) :=
  .set found ⟨rfl, rfl, isOpen, rfl, .inr rfl⟩

theorem claimVerificationWork_moves
    (ran : desk.claimVerificationWork now workId owner duration = .ok next) :
    DeskMoves desk next := by
  obtain ⟨_, ran⟩ := ite_error_eq_ok.mp ran
  split at ran
  · cases ran
  next work found =>
    split at ran
    next isPending =>
      split_ifs at ran
      cases ran
      exact Desk.lease_moves found (by rw [isPending]; rfl)
    next isLeased =>
      split_ifs at ran
      cases ran
      exact Desk.lease_moves found (by rw [isLeased]; rfl)
    · cases ran

theorem claimVerificationWorkForAttempt_moves
    (ran : desk.claimVerificationWorkForAttempt now workId owner duration = .ok next) :
    DeskMoves desk next := by
  obtain ⟨_, ran⟩ := ite_error_eq_ok.mp ran
  split at ran
  · cases ran
  next work found =>
    split at ran
    next isPending =>
      cases ran
      exact Desk.lease_moves found (by rw [isPending]; rfl)
    next isLeased =>
      split_ifs at ran
      cases ran
      exact Desk.lease_moves found (by rw [isLeased]; rfl)
    · cases ran

theorem renewVerificationLease_moves {extension : Nat}
    (ran : desk.renewVerificationLease now lease extension = .ok next) : DeskMoves desk next := by
  obtain ⟨_, ran⟩ := ite_error_eq_ok.mp ran
  obtain ⟨_, isHeld, ran⟩ := bind_eq_ok.mp ran
  obtain ⟨found, held⟩ := Desk.held_ok isHeld
  cases ran
  exact .set found ⟨rfl, rfl, WorkRow.open_of_heldBy held, rfl, .inr rfl⟩

theorem releaseVerificationWork_moves {retryAt : Nat}
    (ran : desk.releaseVerificationWork now lease retryAt = .ok next) : DeskMoves desk next := by
  obtain ⟨_, isHeld, ran⟩ := bind_eq_ok.mp ran
  obtain ⟨found, held⟩ := Desk.held_ok isHeld
  cases ran
  exact .set found ⟨rfl, rfl, WorkRow.open_of_heldBy held, rfl, .inr rfl⟩

theorem pinVerificationSampling_moves {sampling : Sampling}
    (ran : desk.pinVerificationSampling now lease sampling = .ok next) : DeskMoves desk next := by
  obtain ⟨_, isHeld, ran⟩ := bind_eq_ok.mp ran
  obtain ⟨found, held⟩ := Desk.held_ok isHeld
  have isOpen := WorkRow.open_of_heldBy held
  split at ran
  · cases ran
    exact .set found ⟨rfl, rfl, isOpen, isOpen, .inr rfl⟩
  · split_ifs at ran
    cases ran
    exact .refl desk

theorem persistVerificationWorkPlan_moves {ids : EffectIds} {plan : VerificationWorkPlan}
    (ran : desk.persistVerificationWorkPlan ids now lease plan = .ok next) :
    DeskMoves desk next := by
  unfold Desk.persistVerificationWorkPlan at ran
  split at ran
  · cases ran
  obtain ⟨_, ran⟩ := ite_error_eq_ok.mp ran
  split at ran
  · cases ran
  split at ran
  · split_ifs at ran
    cases ran
    exact .refl desk
  · obtain ⟨_, ran⟩ := ite_error_eq_ok.mp ran
    split at ran
    · cases ran
    next inserted =>
      obtain ⟨fresh, rfl⟩ := insertNew_eq_some.mp inserted
      cases ran
      exact ⟨.refl WorkKept.refl _, .insert (fun _ => rfl) fresh trivial⟩

theorem workStep_moves {event : WorkEvent} (ran : workStep env s event = .ok next) :
    DeskMoves s.desk next := by
  cases event with
  | claim => exact claimVerificationWork_moves ran
  | claimForAttempt => exact claimVerificationWorkForAttempt_moves ran
  | renew => exact renewVerificationLease_moves ran
  | release => exact releaseVerificationWork_moves ran
  | pinSampling => exact pinVerificationSampling_moves ran
  | persistPlan => exact persistVerificationWorkPlan_moves ran

end

def sealedTask (artifact : VerificationArtifact) : TaskChange where
  apply := fun task => { task with result := some (.sealed artifact) }
  kept := fun _ => rfl

def WorkRow.sealing (work : WorkRow) (kind : ArtifactKind) (body : Bytes) :
    VerificationArtifact where
  taskId := work.info.taskId
  attempt := work.info.attempt
  kind
  body

structure Pins (state : State) (lease : VerificationLease) (kind : ArtifactKind) (body : Bytes)
    (work : WorkRow) (task : TaskRow) (next : State) : Prop where
  workFound : state.desk.works.find? lease.workId = some work
  held : work.heldBy lease state.now = true
  unpinned : work.artifact = none
  taskFound : state.board.tasks.find? work.info.taskId = some task
  verifying : task.status = .verifying
  sameAttempt : task.attempt = work.info.attempt
  tasks : next.board.tasks =
    state.board.tasks.update (fun other => other.id = task.id)
      (sealedTask (work.sealing kind body)).toChange
  jobs : next.board.jobs = state.board.jobs
  desk : next.desk =
    { state.desk with
      works := state.desk.works.set { work with artifact := some (work.sealing kind body) } }
  books : next.books = state.books
  now : next.now = state.now

theorem pinVerificationArtifact_ok (ran : pinVerificationArtifact s lease kind body = .ok next) :
    next = s ∨ ∃ work task, Pins s lease kind body work task next := by
  obtain ⟨work, isHeld, ran⟩ := bind_eq_ok.mp ran
  obtain ⟨found, held⟩ := Desk.held_ok isHeld
  dsimp only at ran
  split at ran
  · cases ran
  next task taskFound =>
    split at ran
    · split_ifs at ran
      exact .inl (Except.ok.inj ran).symm
    next unpinned =>
      obtain ⟨passes, ran⟩ := ite_error_eq_ok.mp ran
      obtain ⟨_, pinned, ran⟩ := bind_eq_ok.mp ran
      obtain ⟨_, rfl⟩ := Board.updateTasks_ok pinned
      cases ran
      simp only [not_or, not_not] at passes
      exact .inr ⟨work, task,
        { workFound := found, held, unpinned, taskFound, verifying := passes.1
          sameAttempt := passes.2, tasks := rfl, jobs := rfl, desk := rfl
          books := rfl, now := rfl }⟩

theorem Pins.desk_moves {task : TaskRow} (pins : Pins s lease kind body work task next) :
    DeskMoves s.desk next.desk := by
  have isOpen := WorkRow.open_of_heldBy pins.held
  rw [pins.desk]
  exact .set pins.workFound ⟨rfl, rfl, isOpen, isOpen, .inl pins.unpinned⟩

/-- The job of a commit may have nothing left to run. -/
def committedJob : JobChange where
  apply := fun job => { job with status := .verifying }
  kept := resumedJob.kept

structure Commits (state : State) (taskId workerId : Uuid) (attempt : Nat) (commit : TaskCommit)
    (task : TaskRow) (job : JobRow) (execution : Execution) (info : CommitTaskInfo) (next : State) :
    Prop where
  taskFound : state.board.tasks.find? taskId = some task
  executed : task.execution = some execution
  jobFound : state.board.jobs.find? task.jobId = some job
  jobLive : job.status.live = true
  claimed : task.claimedBy = some workerId
  worker : execution.workerId = workerId
  sameAttempt : task.attempt = attempt
  status : task.status = .running ∨ task.status = .verifying
  tasks : next.board.tasks =
    state.board.tasks.update (fun task => task.id = taskId)
      (TaskRow.committed workerId commit).toChange
  jobs : Evolves
    (fun old row => row = old ∨
      ((old.status = .queued ∨ old.status = .running) ∧ row = committedJob.apply old))
    (fun _ => False) state.board.jobs next.board.jobs
  snapshot : ∃ isTask isSupplier, info = commitInfo task job execution isTask isSupplier
  desk : createVerificationWork state info commit = .ok next.desk
  books : next.books = state.books
  now : next.now = state.now

theorem completeTaskTx_ok {taskId workerId : Uuid} {attempt : Nat}
    (ran : completeTaskTx s taskId workerId attempt commit = .ok next) :
    ∃ task job execution info,
      Commits s taskId workerId attempt commit task job execution info
        next := by
  unfold completeTaskTx at ran
  split at ran
  · cases ran
  next task taskFound =>
    split at ran
    next execution job executed jobFound =>
      split at ran
      next valid =>
        obtain ⟨passes, ran⟩ := ite_error_eq_ok.mp ran
        obtain ⟨_, wrote, ran⟩ := bind_eq_ok.mp ran
        obtain ⟨_, updated, ran⟩ := bind_eq_ok.mp ran
        obtain ⟨desk, created, ran⟩ := bind_eq_ok.mp ran
        obtain ⟨allowed, rfl⟩ := Board.updateTasks_ok wrote
        obtain ⟨_, rfl⟩ := Board.updateJobs_ok updated
        cases ran
        simp only [not_or, not_and, not_not, Bool.not_eq_true', Bool.not_eq_false] at passes
        obtain ⟨claimed, worker, sameAttempt, status, _, jobLive⟩ := passes
        refine ⟨task, job, execution, commitInfo task job execution valid.1 valid.2,
          { taskFound, executed, jobFound, jobLive, claimed, worker, sameAttempt
            status := ?_, tasks := rfl, jobs := ?_
            snapshot := ⟨valid.1, valid.2, rfl⟩
            desk := created, books := rfl, now := rfl }⟩
        · -- a queued task may not become verifying
          have isTask := key_of_find? taskFound
          have legal := allowed task (mem_of_find? taskFound) (decide_eq_true isTask)
          by_cases isRunning : task.status = .running
          · exact .inl isRunning
          · by_cases isQueued : task.status = .queued
            · simp [TaskRow.committed, isQueued, TaskStatus.mayBecome] at legal
            · exact .inr (status isRunning isQueued)
        · refine .update (fun _ => .inl rfl) ?_
          intro row _ selected
          simp only [Bool.and_eq_true, Bool.or_eq_true, decide_eq_true_eq] at selected
          exact .inr ⟨selected.1.2, rfl⟩
      · cases ran
    · cases ran

theorem createVerificationWork_ok (ran : createVerificationWork s info commit = .ok desk) :
    (desk = s.desk ∧
        ∃ work, s.desk.works.find? (info.taskId, info.attempt) = some work ∧ work.info = info) ∨
      ∃ (work : WorkRow) (fresh : s.desk.works.find? work.id = none),
        work.info = info ∧ work.artifact = none ∧
        work.status = .pending s.now ∧
        desk = { s.desk with works := s.desk.works.insert work fresh } := by
  unfold createVerificationWork at ran
  split at ran
  next work found =>
    split_ifs at ran with same
    exact .inl ⟨(Except.ok.inj ran).symm, work, found, same.1⟩
  · split at ran
    · cases ran
    next inserted =>
      obtain ⟨fresh, rfl⟩ := insertNew_eq_some.mp inserted
      exact .inr ⟨_, fresh, rfl, rfl, rfl, (Except.ok.inj ran).symm⟩

theorem createVerificationWork_moves (ran : createVerificationWork s info commit = .ok desk) :
    DeskMoves s.desk desk := by
  rcases createVerificationWork_ok ran with ⟨rfl, _⟩ | ⟨work, fresh, _, _, isPending, rfl⟩
  · exact .refl _
  · have isOpen : work.status.isTerminal = false := by
      rw [isPending]
      rfl
    exact ⟨.insert WorkKept.refl fresh isOpen, .refl (fun _ => rfl) _⟩

def finishedJob (actual : Int) : JobChange where
  apply := fun job =>
    { job with status := .complete, actual }
  kept := fun _ => rfl

structure Finalizes (state : State) (jobId : Uuid) (job : JobRow) (next : State) : Prop where
  jobFound : state.board.jobs.find? jobId = some job
  ready : job.status = .complete ∨
    ((job.status = .running ∨ job.status = .verifying) ∧ state.finalizable job = true)
  tasks : next.board.tasks = state.board.tasks
  books : next.books = chargePremium state.books job
  jobs : next.board.jobs =
    state.board.jobs.update (fun job => job.id = jobId)
      (finishedJob
        ({ state with books := next.books }.taskCharges jobId +
          { state with books := next.books }.premiumCharge jobId)).toChange
  desk : next.desk = state.desk
  now : next.now = state.now

theorem finalizeJob_ok {jobId : Uuid} (ran : finalizeJob env s jobId = .ok next) :
    ∃ job, Finalizes s jobId job next := by
  unfold finalizeJob at ran
  split at ran
  · cases ran
  next job jobFound =>
    obtain ⟨_, ran⟩ := ite_error_eq_ok.mp ran
    obtain ⟨ready, ran⟩ := ite_error_eq_ok.mp ran
    obtain ⟨_, updated, ran⟩ := bind_eq_ok.mp ran
    obtain ⟨_, rfl⟩ := Board.updateJobs_ok updated
    cases ran
    refine ⟨job,
      { jobFound, ready := ?_, tasks := rfl, books := rfl, jobs := rfl, desk := rfl, now := rfl }⟩
    simp only [not_and, not_or, not_not, Bool.not_eq_true', Bool.not_eq_false] at ready
    by_cases isComplete : job.status = .complete
    · exact .inl isComplete
    · obtain ⟨active, finalizable⟩ := ready isComplete
      exact .inr ⟨or_iff_not_imp_left.mpr active, finalizable⟩

/-- What a step that commits has done.  At rest the store leases or plans work,
or finds what it was asked for. -/
inductive Steps (env : Env) (state : State) : Event → State → Prop
  | rests {event : Event} {next : State} (desk : DeskMoves state.desk next.desk)
      (board : next.board = state.board) (books : next.books = state.books) :
      Steps env state event next
  | board {event : BoardEvent} {board : Board} (moved : boardStep state event = .ok board) :
      Steps env state (.board event) { state with board }
  | commit {taskId workerId : Uuid} {attempt : Nat} {commit : TaskCommit} {task : TaskRow}
      {job : JobRow} {execution : Execution} {info : CommitTaskInfo} {next : State}
      (commits : Commits state taskId workerId attempt commit task job execution info next) :
      Steps env state (.commit taskId workerId attempt commit) next
  | pin {lease : VerificationLease} {kind : ArtifactKind} {body : Bytes} {work : WorkRow}
      {task : TaskRow} {next : State} (pins : Pins state lease kind body work task next) :
      Steps env state (.pinArtifact lease kind body) next
  | apply {lease : VerificationLease} {plan : VerificationWorkPlan} {peerEligible : Bool}
      {work : WorkRow} {task : TaskRow} {job : JobRow} {next : State}
      (applies : Applies env state lease plan work task job)
      (carried : carryOut state lease task job work.info plan peerEligible = .ok next) :
      Steps env state (.verify lease plan peerEligible) next
  | finalize {jobId : Uuid} {job : JobRow} {next : State}
      (finalizes : Finalizes state jobId job next) : Steps env state (.finalize jobId) next

theorem step_steps {event : Event} (ran : step env s event = .ok next) :
    Steps env s event next := by
  cases event with
  | tick =>
    cases ran
    exact .rests (.refl _) rfl rfl
  | board =>
    obtain ⟨board, moved, ran⟩ := bind_eq_ok.mp ran
    cases ran
    exact .board moved
  | work =>
    obtain ⟨_, worked, ran⟩ := bind_eq_ok.mp ran
    cases ran
    exact .rests (workStep_moves worked) rfl rfl
  | commit =>
    obtain ⟨task, job, _, _, commits⟩ := completeTaskTx_ok ran
    exact .commit commits
  | pinArtifact =>
    rcases pinVerificationArtifact_ok ran with rfl | ⟨work, task, pins⟩
    · exact .rests (.refl _) rfl rfl
    · exact .pin pins
  | verify =>
    obtain ⟨work, _, _, ⟨rfl, _⟩ | ⟨task, job, applies, carried⟩⟩ := verifyJob_ok ran
    · exact .rests (.refl _) rfl rfl
    · exact .apply applies carried
  | finalize =>
    obtain ⟨job, finalizes⟩ := finalizeJob_ok ran
    exact .finalize finalizes

end MercControl.Verification
