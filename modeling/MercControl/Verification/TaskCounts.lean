import MercControl.Verification.AppliedOnce
import MercControl.Verification.TaskMoves

/-!
# Counting the tasks of a job

A job counts the tasks it was planned with, those of `task_count`, and those
taken from its reserve.  The steps are gone through once here, for every such
count.
-/

namespace MercControl.Verification

open Library Machine

variable {s next : State} {jobId taskId : Uuid} {peerEligible : Bool}
  {task : TaskRow} {job : JobRow} {info : CommitTaskInfo}
  {lease : VerificationLease} {plan : VerificationWorkPlan}

theorem JobMove.taskCount {event : BoardEvent} {before after : JobRow}
    (noTiebreak : ∀ taskId anchorTaskId peerWorkerId,
      event ≠ .tiebreak taskId anchorTaskId peerWorkerId)
    (move : JobMove s event before after) : before.taskCount ≤ after.taskCount := by
  cases move with
  | kept same | failed _ same | cancelled _ same | stuck _ _ same | billed _ same => rw [same]
  | goesOn moves =>
    rcases moves.taskCount with same | ⟨_, _, _, isTiebreak⟩
    · exact same.ge
    · exact (noTiebreak _ _ _ isTiebreak).elim

def Fits (counts : TaskTerms → Uuid → Bool) (limit : JobRow → Nat) (board : Board) : Prop :=
  ∀ job ∈ board.jobs.rows,
    (board.tasks.rows.countP fun task => counts task.toTaskTerms job.id) ≤ limit job

structure CountRule (counts : TaskTerms → Uuid → Bool) (limit : JobRow → Nat) : Prop where
  ownJob : ∀ terms jobId, counts terms jobId = true → terms.jobId = jobId
  grows : ∀ old row : JobRow, row.toJobTerms = old.toJobTerms →
    old.consumed ≤ row.consumed → old.taskCount ≤ row.taskCount → limit old ≤ limit row
  submitted : ∀ (terms : JobTerms) (tasks : List TaskSpec),
    terms.planned tasks = true →
      (tasks.countP fun spec => counts (spec.terms terms.id) terms.id) ≤
        limit
          { toJobTerms := terms
            status := .queued
            taskCount := tasks.length
            tasksDone := 0
            actual := 0
            strikes := 0
            consumed := 0 }
  hedge : ∀ (terms : TaskTerms) (job : JobRow),
    terms.isRedundancy = false → terms.hedgedFrom.isSome = true →
      counts terms job.id = true → limit job + 1 ≤ limit { job with consumed := job.consumed + 1 }
  tiebreak : ∀ (terms : TaskTerms) (job : JobRow) (status : JobStatus),
    terms.isRedundancy = true → terms.hedgedFrom.isSome = true →
      counts terms job.id = true →
        limit job + 1 ≤
          limit
            { job with
              taskCount := job.taskCount + 1
              consumed := job.consumed + 1
              status := status }

variable {primaryTaskId peerWorkerId : Uuid} {board : Board} {work : WorkRow}

section

variable {counts : TaskTerms → Uuid → Bool} {limit : JobRow → Nat}
variable {before after : Board}

theorem countP_terms (tasks : List TaskRow) (jobId : Uuid) :
    (tasks.countP fun task => counts task.toTaskTerms jobId) =
      (tasks.map fun task => task.toTaskTerms).countP fun terms => counts terms jobId := by
  rw [List.countP_map]
  rfl

section

variable (fits : Fits counts limit before)

include fits

theorem Fits.of_moves {taskMove : TaskRow → TaskRow → Prop} {freshTask : TaskRow → Prop}
    {jobMove : JobRow → JobRow → Prop}
    (tasks : Table.Evolves taskMove freshTask before.tasks after.tasks)
    (terms : ∀ old row, taskMove old row → row.toTaskTerms = old.toTaskTerms)
    (uncounted : ∀ row, freshTask row → ∀ jobId, counts row.toTaskTerms jobId = false)
    (jobs : Table.Evolves jobMove (fun _ => False) before.jobs after.jobs)
    (grows : ∀ old row, jobMove old row → limit old ≤ limit row) : Fits counts limit after := by
  intro job mem
  obtain ⟨added, isFresh, mapped⟩ := tasks.map_rows terms
  have nothing : (added.countP fun task => counts task.toTaskTerms job.id) = 0 :=
    List.countP_eq_zero.mpr fun row inAdded => by
      simp [uncounted row (isFresh row inAdded) job.id]
  have same : (after.tasks.rows.countP fun task => counts task.toTaskTerms job.id) =
        before.tasks.rows.countP fun task => counts task.toTaskTerms job.id := by
    rw [countP_terms, mapped, List.countP_append, ← countP_terms,
      ← countP_terms, nothing, Nat.add_zero]
  obtain ⟨old, oldMem, sameId, moved⟩ := jobs.exists_before mem
  have fitsOld := fits old oldMem
  have growsOld := grows old job moved
  rw [same, sameId]
  omega

theorem Fits.updateTasks {selected : TaskRow → Bool} {change : TaskChange}
    (tasks : after.tasks = before.tasks.update selected change.toChange)
    (jobs : after.jobs = before.jobs) : Fits counts limit after := by
  have moved : Table.Evolves (fun old row : TaskRow => row.toTaskTerms = old.toTaskTerms)
      (fun _ => False) before.tasks after.tasks := by
    rw [tasks]
    exact .update (fun _ => rfl) fun row _ _ => change.kept row
  have same : Table.Evolves Eq (fun _ => False) before.jobs after.jobs := by
    rw [jobs]
    exact .refl (fun _ => rfl) _
  refine fits.of_moves moved (fun _ _ same => same) (fun _ => False.elim) same ?_
  rintro old _ rfl
  exact le_rfl

theorem Fits.updateJobs {selected : JobRow → Bool} {change : JobChange}
    (tasks : after.tasks = before.tasks)
    (jobs : after.jobs = before.jobs.update selected change.toChange)
    (grows : ∀ job, limit job ≤ limit (change.apply job)) : Fits counts limit after := by
  have same : Table.Evolves Eq (fun _ => False) before.tasks after.tasks := by
    rw [tasks]
    exact .refl (fun _ => rfl) _
  have moved : Table.Evolves (fun old row : JobRow => limit old ≤ limit row)
      (fun _ => False) before.jobs after.jobs := by
    rw [jobs]
    exact .update (fun _ => le_rfl) fun job _ _ => grows job
  refine fits.of_moves same ?_ (fun _ => False.elim) moved fun _ _ grows => grows
  rintro old _ rfl
  rfl

end

section

variable (rule : CountRule counts limit)

include rule

section

variable (fits : Fits counts limit before)

include fits

theorem Fits.insertTask {row : TaskRow} {middle : Board} {change : JobChange}
    (inserted : before.insertTask row = .ok middle)
    (updated : middle.updateJobs (fun job => job.id = jobId) change =
      .ok after) (ofJob : row.jobId = jobId)
    (grows : ∀ job, limit job ≤ limit (change.apply job))
    (rises : ∀ job, counts row.toTaskTerms job.id = true →
      limit job + 1 ≤ limit (change.apply job)) : Fits counts limit after := by
  obtain ⟨_, rfl⟩ := Board.insertTask_ok inserted
  obtain ⟨_, rfl⟩ := Board.updateJobs_ok updated
  subst ofJob
  intro job mem
  obtain ⟨old, oldMem, same⟩ := Table.mem_update.mp mem
  have fitsOld := fits old oldMem
  change (before.tasks.rows ++ [row]).countP _ ≤ limit job
  rw [List.countP_append, List.countP_singleton]
  by_cases isJob : old.id = row.jobId
  · rw [if_pos (decide_eq_true isJob)] at same
    have sameId : job.id = old.id := by
      rw [same]
      exact congrArg JobTerms.id (change.kept old)
    have sameLimit : limit job = limit (change.apply old) := by
      rw [same]
      rfl
    rw [sameId, sameLimit]
    have growsOld := grows old
    split_ifs with counted
    · have risesOld := rises old counted
      omega
    · omega
  · rw [if_neg (by simp [isJob])] at same
    have uncounted : ¬ counts row.toTaskTerms job.id = true := by
      intro counted
      have ofJob := rule.ownJob _ _ counted
      rw [same] at ofJob
      exact isJob ofJob.symm
    rw [if_neg uncounted, same]
    exact fitsOld

theorem Fits.insertPlannedTiebreak {inputRef : String} {chunkIndex : Nat}
    (ran : insertPlannedTiebreak before peerEligible taskId jobId
      primaryTaskId peerWorkerId inputRef chunkIndex = .ok after) : Fits counts limit after := by
  rcases insertPlannedTiebreak_ok ran with rfl | ⟨middle, job, _, _, _, inserted, obliged⟩
  · exact fits
  · refine fits.insertTask rule inserted obliged rfl ?_ ?_
    · intro job
      exact rule.grows _ _ rfl (Nat.le_succ _) (Nat.le_succ _)
    · intro job counted
      exact rule.tiebreak _ job _ rfl rfl counted

theorem Fits.insertHedgeTask
    (ran : insertHedgeTask before taskId primaryTaskId peerWorkerId = .ok after) :
    Fits counts limit after := by
  obtain ⟨_, _, ran⟩ := Board.onTask_ok ran
  obtain ⟨job, _, ran⟩ := Board.onJob_ok ran
  obtain ⟨_, ran⟩ := ite_error_eq_ok.mp ran
  split at ran
  · cases ran
    exact fits
  obtain ⟨_, ran⟩ := ite_error_eq_ok.mp ran
  obtain ⟨_, inserted, consumed⟩ := bind_eq_ok.mp ran
  refine fits.insertTask rule inserted consumed rfl ?_ ?_
  · intro job
    exact rule.grows _ _ rfl (Nat.le_succ _) le_rfl
  · intro job counted
    exact rule.hedge _ job rfl rfl counted

theorem Fits.submitJob {terms : JobTerms} {specs : List TaskSpec} (haveJobs : TasksHaveJobs before)
    (ran : submitJob before terms specs = .ok after) : Fits counts limit after := by
  obtain ⟨isPlanned, fresh, ran⟩ := submitJob_ok ran
  obtain ⟨jobs, rows⟩ := insertTasks_rows ran
  intro job mem
  rw [jobs] at mem
  change job ∈ (before.jobs.insert _ fresh).rows at mem
  rw [rows, List.countP_append, List.countP_map]
  rcases Table.mem_insert.mp mem with old | rfl
  · have fitsOld := fits job old
    have nothing : specs.countP ((fun task : TaskRow => counts task.toTaskTerms job.id) ∘
          fun spec => (spec.terms terms.id).opened none) = 0 := by
      refine List.countP_eq_zero.mpr ?_
      intro spec _ counted
      have ofJob : terms.id = job.id := rule.ownJob _ _ counted
      exact Table.key_ne_of_find?_none fresh old ofJob.symm
    rw [nothing]
    exact fitsOld
  · -- the identifier of the job was free, so no task could belong to it
    have nothing : (before.tasks.rows.countP fun task => counts task.toTaskTerms terms.id) = 0 := by
      refine List.countP_eq_zero.mpr ?_
      intro task inTasks counted
      have hasJob := haveJobs task inTasks
      rw [rule.ownJob _ _ counted, fresh] at hasJob
      cases hasJob
    rw [nothing, Nat.zero_add]
    exact rule.submitted terms specs isPlanned

end

end

end

section

variable {counts : TaskTerms → Uuid → Bool} {limit : JobRow → Nat}

section

variable (rule : CountRule counts limit) (fits : Fits counts limit s.board)

include rule fits

theorem Fits.boardStep {event : BoardEvent} (haveJobs : TasksHaveJobs s.board)
    (ran : boardStep s event = .ok board) : Fits counts limit board := by
  by_cases isSubmit : ∃ terms tasks, event = .submit terms tasks
  · obtain ⟨terms, tasks, rfl⟩ := isSubmit
    exact fits.submitJob rule haveJobs ran
  by_cases isTiebreak : ∃ taskId anchorTaskId peerWorkerId,
      event = .tiebreak taskId anchorTaskId peerWorkerId
  · obtain ⟨taskId, anchorTaskId, peerWorkerId, rfl⟩ := isTiebreak
    obtain ⟨_, _, ran⟩ := Board.onTask_ok ran
    exact fits.insertPlannedTiebreak rule ran
  by_cases isHedge : ∃ taskId primaryTaskId peerWorkerId,
      event = .hedge taskId primaryTaskId peerWorkerId
  · obtain ⟨taskId, primaryTaskId, peerWorkerId, rfl⟩ := isHedge
    exact fits.insertHedgeTask rule ran
  push Not at isSubmit isTiebreak isHedge
  have moves := boardStep_moves ran
  have noJob : Table.Evolves (JobMove s event) (fun _ => False) s.board.jobs board.jobs :=
    moves.jobs.mono (fun _ _ _ move => move)
      fun _ ⟨terms, tasks, isEvent, _⟩ => isSubmit terms tasks isEvent
  refine fits.of_moves moves.tasks (fun _ _ move => move.terms) ?_ noJob ?_
  · intro row opened jobId
    cases opened with
    | submitted terms tasks _ isEvent => exact (isSubmit terms tasks isEvent).elim
    | hedge _ _ _ isEvent => exact (isHedge _ _ _ isEvent).elim
    | tiebreak _ _ _ isEvent => exact (isTiebreak _ _ _ isEvent).elim
  · intro old row move
    obtain ⟨terms, _, reserve⟩ := move.keeps
    exact rule.grows old row terms reserve.grows (move.taskCount isTiebreak)

theorem Fits.commit {workerId : Uuid} {attempt : Nat} {commit : TaskCommit} {execution : Execution}
    (commits : Commits s taskId workerId attempt commit task job execution info next) :
    Fits counts limit next.board := by
  refine fits.of_moves commits.tasks_evolve ?_ (fun _ => False.elim) commits.jobs ?_
  · rintro old row (rfl | ⟨rfl, rfl⟩)
    · rfl
    · exact (TaskRow.committed workerId commit).kept _
  · rintro old row (rfl | ⟨_, rfl⟩)
    · exact le_rfl
    · exact rule.grows _ _ rfl le_rfl le_rfl

theorem Fits.finalize (finalizes : Finalizes s jobId job next) : Fits counts limit next.board := by
  refine fits.updateJobs finalizes.tasks finalizes.jobs ?_
  intro job
  exact rule.grows _ _ rfl le_rfl le_rfl

end

theorem Fits.setOutcome {next : Board} {outcome : TaskOutcome} (fits : Fits counts limit board)
    (ran : board.setOutcome taskId outcome = .ok next) : Fits counts limit next := by
  obtain ⟨_, rfl⟩ := Board.updateTasks_ok ran
  exact fits.updateTasks rfl rfl

section

variable (rule : CountRule counts limit)

include rule

section

variable (fits : Fits counts limit s.board)

include fits

theorem Fits.runEffect {effect : Effect}
    (ran : Verification.runEffect s info peerEligible effect = .ok next) :
    Fits counts limit next.board := by
  cases effect with
  | dockReputation | quarantine | requeue =>
    cases ran
    exact fits
  | recordEvent =>
    rw [Verification.runEffect] at ran
    split at ran
    · obtain ⟨board, promoted, ran⟩ := bind_eq_ok.mp ran
      cases ran
      unfold promoteProvisionalWinner at promoted
      split at promoted
      · cases promoted
      split_ifs at promoted
      · exact fits.setOutcome promoted
      · cases promoted
        exact fits
    · cases ran
      exact fits
  | clawbackCredit =>
    obtain ⟨_, _, ran⟩ := bind_eq_ok.mp ran
    split at ran
    · obtain ⟨board, written, ran⟩ := bind_eq_ok.mp ran
      cases ran
      exact fits.setOutcome written
    · cases ran
      exact fits
  | insertTiebreak =>
    obtain ⟨board, inserted, ran⟩ := bind_eq_ok.mp ran
    cases ran
    exact fits.insertPlannedTiebreak rule inserted

theorem Fits.runEffects {effects : List VerificationEffect}
    (ran : Verification.runEffects info peerEligible s effects = .ok next) :
    Fits counts limit next.board := by
  induction effects generalizing s with
  | nil =>
    cases ran
    exact fits
  | cons recorded rest restRun =>
    obtain ⟨_, ran⟩ := check_bind_eq_ok.mp ran
    obtain ⟨_, first, ran⟩ := bind_eq_ok.mp ran
    exact restRun (fits.runEffect rule first) ran

theorem Fits.reject (rejects : Rejects s lease info plan next) : Fits counts limit next.board := by
  have requeued : Fits counts limit { s.board with tasks := next.board.tasks } :=
    fits.updateTasks rejects.tasks rfl
  refine requeued.updateJobs rfl rejects.jobs ?_
  intro job
  exact rule.grows _ _ rfl le_rfl le_rfl

theorem Fits.accept
    (accepts : Accepts s lease task job info plan next) : Fits counts limit next.board := by
  obtain ⟨_, _, settled, _, settles, _, resolve, rfl⟩ := accepts.settles
  have frame := recordChunkArtifactResolution_frame resolve
  rw [frame]
  have completed : Fits counts limit { s.board with tasks := settled.board.tasks } :=
    fits.updateTasks settles.tasks rfl
  have counted : Fits counts limit settled.board := by
    have jobs := settles.jobs
    split_ifs at jobs
    · refine completed.updateJobs rfl jobs ?_
      intro job
      exact rule.grows _ _ rfl le_rfl le_rfl
    · rw [Fits, jobs]
      exact completed
  -- the siblings of the task are cancelled
  exact counted.updateTasks rfl rfl

theorem Fits.carryOut {env : Env} (applies : Applies env s lease plan work task job)
    (ran : Verification.carryOut s lease task job work.info plan peerEligible = .ok next) :
    Fits counts limit next.board := by
  obtain ⟨_, effectsRan, _, ends⟩ := carryOut_ok (checkEffect_of_shape applies.shape) ran
  have middleFits := fits.runEffects rule effectsRan
  rcases ends with ⟨_, rejects⟩ | ⟨_, accepts⟩
  · exact middleFits.reject rule rejects
  · exact middleFits.accept rule accepts

theorem Fits.step {env : Env} {event : Event} (haveJobs : TasksHaveJobs s.board)
    (ran : Verification.step env s event = .ok next) : Fits counts limit next.board := by
  cases step_steps ran with
  | rests _ board =>
    rw [board]
    exact fits
  | board moved => exact fits.boardStep rule haveJobs moved
  | commit commits => exact fits.commit rule commits
  | pin pins => exact fits.updateTasks pins.tasks pins.jobs
  | apply applies carried => exact fits.carryOut rule applies carried
  | finalize finalizes => exact fits.finalize rule finalizes

end

end

end

end MercControl.Verification
