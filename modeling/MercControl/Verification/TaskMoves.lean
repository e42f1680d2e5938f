import MercControl.Verification.StoreSteps

/-!
# What a step does to tasks and jobs

The moves of the board, of commits and of applies, put together for every
event of the store.  Neither a task nor a job ever loses its terms, and every
task belongs to a job.
-/

namespace MercControl.Verification

open Library Table

variable {s next : State} {jobId : Uuid} {event : Event} {env : Env} {task : TaskRow}
  {job : JobRow} {board : Board} {specs : List TaskSpec}

theorem Commits.tasks_evolve {taskId workerId : Uuid} {attempt : Nat} {commit : TaskCommit}
    {execution : Execution} {info : CommitTaskInfo}
    (commits : Commits s taskId workerId attempt commit task job execution info next) :
    Evolves (fun old row => row = old ∨
        (old = task ∧ row = (TaskRow.committed workerId commit).apply task))
      (fun _ => False) s.board.tasks next.board.tasks := by
  rw [commits.tasks]
  refine .update (fun _ => .inl rfl) ?_
  intro row mem selected
  obtain rfl := eq_of_find? commits.taskFound mem (of_decide_eq_true selected)
  exact .inr ⟨rfl, rfl⟩

theorem Pins.tasks_evolve {lease : VerificationLease} {kind : ArtifactKind}
    {body : Bytes} {work : WorkRow} (pins : Pins s lease kind body work task next) :
    Evolves (fun old row => row = old ∨
        (old = task ∧ row = (sealedTask (work.sealing kind body)).apply task))
      (fun _ => False) s.board.tasks next.board.tasks := by
  rw [pins.tasks]
  refine .update (fun _ => .inl rfl) ?_
  intro row mem selected
  have isTask := key_of_find? pins.taskFound
  obtain rfl := eq_of_find? pins.taskFound mem ((of_decide_eq_true selected).trans isTask)
  exact .inr ⟨rfl, rfl⟩

theorem Finalizes.jobs_evolve (finalizes : Finalizes s jobId job next) : Evolves
      (fun old row => row = old ∨ (old = job ∧ ∃ actual, row = (finishedJob actual).apply job))
      (fun _ => False) s.board.jobs next.board.jobs := by
  rw [finalizes.jobs]
  refine .update (fun _ => .inl rfl) ?_
  intro row mem selected
  obtain rfl : row = job := eq_of_find? finalizes.jobFound mem (of_decide_eq_true selected)
  exact .inr ⟨rfl, _, rfl⟩

theorem TaskMove.terms {event : BoardEvent} {before after : TaskRow}
    (move : TaskMove event before after) : after.toTaskTerms = before.toTaskTerms := by
  cases move with
  | kept same | repinned _ _ _ _ _ _ same => rw [same]
  | claimed _ _ _ _ same | started _ _ _ _ _ same =>
    rw [same]
    rfl
  | requeued _ requeues | reconciled _ _ requeues | reopened _ requeues => exact requeues.terms
  | closed _ closes => exact closes.terms

inductive StoreTaskMove (state : State) (event : Event) (before after : TaskRow) : Prop
  | kept (same : after = before)
  | onBoard (boardEvent : BoardEvent) (isEvent : event = .board boardEvent)
      (move : TaskMove boardEvent before after)
  | committed (workerId : Uuid) (commit : TaskCommit) (execution : Execution)
      (isEvent : event = .commit before.id workerId before.attempt commit)
      (held : before.claimedBy = some workerId)
      (executed : before.execution = some execution)
      (worker : execution.workerId = workerId)
      (status : before.status = .running ∨ before.status = .verifying)
      (same : after = (TaskRow.committed workerId commit).apply before)
  | sealed (artifact : VerificationArtifact) (verifying : before.status = .verifying)
      (same : after = (sealedTask artifact).apply before)
  | applied (lease : VerificationLease) (plan : VerificationWorkPlan)
      (peerEligible : Bool) (info : CommitTaskInfo) (task : TaskRow)
      (isEvent : event = .verify lease plan peerEligible)
      (move : ApplyMove state.now task info plan before after)

inductive StoreTaskOpened (state : State) (event : Event) (task : TaskRow) :
    Prop
  | onBoard (boardEvent : BoardEvent) (isEvent : event = .board boardEvent)
      (opened : TaskOpened state boardEvent task)
  | tiebreak (lease : VerificationLease) (plan : VerificationWorkPlan)
      (peerEligible : Bool) (info : CommitTaskInfo) (job : JobRow)
      (isEvent : event = .verify lease plan peerEligible)
      (jobFound : state.board.jobs.find? info.jobId = some job)
      (isTiebreak : IsTiebreak info task)

theorem StoreTaskMove.terms {before after : TaskRow}
    (move : StoreTaskMove s event before after) : after.toTaskTerms = before.toTaskTerms := by
  cases move with
  | kept same => rw [same]
  | onBoard _ _ move => exact move.terms
  | committed workerId commit _ _ _ _ _ _ same =>
    rw [same]
    exact (TaskRow.committed workerId commit).kept before
  | sealed artifact _ same =>
    rw [same]
    rfl
  | applied _ _ _ _ _ _ move =>
    cases move with
    | outcome _ only => rw [only]
    | rejected _ _ requeues => exact requeues.terms
    | completed _ _ same =>
      rw [same]
      rfl
    | cancelled _ _ closes => exact closes.terms

theorem step_tasks (ran : step env s event = .ok next) :
    Evolves (StoreTaskMove s event) (StoreTaskOpened s event) s.board.tasks next.board.tasks := by
  cases step_steps ran with
  | rests _ board =>
    rw [board]
    exact .refl (fun _ => .kept rfl) _
  | @board event board moved =>
    exact (boardStep_moves moved).tasks.mono (fun _ _ _ move => .onBoard event rfl move)
      (fun _ opened => .onBoard event rfl opened)
  | commit commits =>
    refine commits.tasks_evolve.relax ?_
    rintro old _ row (rfl | ⟨rfl, rfl⟩)
    · exact .kept rfl
    · obtain rfl := key_of_find? commits.taskFound
      obtain rfl := commits.sameAttempt
      exact .committed _ _ _ rfl commits.claimed commits.executed commits.worker commits.status rfl
  | pin pins =>
    refine pins.tasks_evolve.relax ?_
    rintro old _ row (rfl | ⟨rfl, rfl⟩)
    · exact .kept rfl
    · exact .sealed _ pins.verifying rfl
  | @apply lease plan peerEligible work task job _ applies carried =>
    exact (carryOut_applied applies carried).tasks.mono
      (fun _ _ _ move => .applied lease plan peerEligible work.info task rfl move)
      (fun _ isTiebreak => .tiebreak lease plan peerEligible work.info
        job rfl applies.jobFound isTiebreak)
  | finalize finalizes =>
    rw [finalizes.tasks]
    exact .refl (fun _ => .kept rfl) _

theorem JobMove.keeps {event : BoardEvent} {before after : JobRow}
    (move : JobMove s event before after) : after.toJobTerms = before.toJobTerms ∧
      after.tasksDone = before.tasksDone ∧ Reserves before after := by
  cases move with
  | kept same | failed _ same | cancelled _ same | stuck _ _ same | billed _ same =>
    rw [same]
    exact ⟨rfl, rfl, .of_eq rfl⟩
  | goesOn moves => exact ⟨moves.terms, moves.tasksDone, moves.reserve⟩

/-- The jobs after a step: their terms, and what was taken from their
reserves. -/
theorem step_jobs (ran : step env s event = .ok next) :
    Evolves (fun old row => row.toJobTerms = old.toJobTerms ∧ Reserves old row)
      (fun row => row.consumed = 0) s.board.jobs next.board.jobs := by
  cases step_steps ran with
  | rests _ board =>
    rw [board]
    exact .refl (fun _ => ⟨rfl, .of_eq rfl⟩) _
  | board moved =>
    refine (boardStep_moves moved).jobs.mono (fun _ _ _ move => ⟨move.keeps.1, move.keeps.2.2⟩) ?_
    rintro row ⟨_, _, _, rfl⟩
    rfl
  | commit commits =>
    refine commits.jobs.relax ?_
    rintro old _ row (rfl | ⟨_, rfl⟩)
    all_goals exact ⟨rfl, .of_eq rfl⟩
  | pin pins =>
    rw [pins.jobs]
    exact .refl (fun _ => ⟨rfl, .of_eq rfl⟩) _
  | apply applies carried =>
    exact (carryOut_applied applies carried).jobs.mono
      (fun _ _ _ moved => ⟨moved.terms, moved.reserve⟩) (fun _ => False.elim)
  | finalize finalizes =>
    rw [finalizes.jobs]
    exact .update (fun _ => ⟨rfl, .of_eq rfl⟩) fun _ _ _ => ⟨rfl, .of_eq rfl⟩

theorem insertTasks_rows {next : Board} (ran : board.insertTasks jobId specs = .ok next) :
    next.jobs = board.jobs ∧ next.tasks.rows =
        board.tasks.rows ++ specs.map fun spec => (spec.terms jobId).opened none := by
  induction specs generalizing board with
  | nil =>
    cases ran
    simp
  | cons spec rest restInserted =>
    obtain ⟨_, inserted, ran⟩ := Machine.bind_eq_ok.mp ran
    obtain ⟨_, rfl⟩ := Board.insertTask_ok inserted
    obtain ⟨jobs, rows⟩ := restInserted ran
    refine ⟨jobs, ?_⟩
    rw [rows]
    simp [Table.insert]

def TasksHaveJobs (board : Board) : Prop :=
  ∀ task ∈ board.tasks.rows, (board.jobs.find? task.jobId).isSome = true

theorem submitJob_job {next : Board} {terms : JobTerms}
    (ran : submitJob board terms specs = .ok next) : (next.jobs.find? terms.id).isSome = true := by
  obtain ⟨_, _, ran⟩ := submitJob_ok ran
  obtain ⟨jobs, _⟩ := insertTasks_rows ran
  rw [jobs, find?_insert_self]
  rfl

theorem step_hasJob (ran : step env s event = .ok next)
    (hasJob : (s.board.jobs.find? jobId).isSome = true) :
    (next.board.jobs.find? jobId).isSome = true := by
  obtain ⟨_, found⟩ := Option.isSome_iff_exists.mp hasJob
  obtain ⟨_, afterFound, _⟩ := (step_jobs ran).find?_after found
  rw [afterFound]
  rfl

theorem TasksHaveJobs.step (haveJobs : TasksHaveJobs s.board)
    (ran : step env s event = .ok next) : TasksHaveJobs next.board := by
  intro row mem
  rcases (step_tasks ran).mem_cases mem with ⟨old, oldMem, _, move⟩ | ⟨opened, _⟩
  · rw [move.terms]
    exact step_hasJob ran (haveJobs old oldMem)
  · cases opened with
    | onBoard boardEvent isEvent opened =>
      cases opened with
      | submitted terms tasks spec isSubmit _ same =>
        subst isEvent isSubmit
        obtain ⟨_, moved, ran⟩ := Machine.bind_eq_ok.mp ran
        cases ran
        rw [same]
        exact submitJob_job moved
      | hedge _ _ _ _ _ _ jobFound _ same | tiebreak _ _ _ _ _ jobFound _ same =>
        rw [same]
        exact step_hasJob ran (Option.isSome_of_mem jobFound)
    | tiebreak _ _ _ info job _ jobFound isTiebreak =>
      have ofJob : row.jobId = info.jobId := congrArg TaskTerms.jobId isTiebreak.terms
      rw [ofJob]
      exact step_hasJob ran (Option.isSome_of_mem jobFound)

end MercControl.Verification
