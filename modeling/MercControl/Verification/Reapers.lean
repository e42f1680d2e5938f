import MercControl.Verification.AppliedOnce
import MercControl.Verification.TaskMoves

/-!
# Reapers

Two sweeps put back tasks whose worker is gone.  They select in one statement
and act later, by the identifier of the task and the status `running`: the
attempt that was selected is not part of the condition.
-/

namespace MercControl.Verification

open Library Machine Table

inductive Sweep
  /-- `requeueStaleTasks`. -/
  | staleTasks
  /-- `rescueDeadClaims`. -/
  | deadClaims
  deriving DecidableEq

/-- A row that a sweep has read: `StaleTask` or `DeadClaim`.  Only the former
carries the `retry_count`, for the retry limit alone. -/
structure Selection where
  sweep : Sweep
  taskId : Uuid
  attempt : Nat
  deriving DecidableEq

structure ReaperState where
  store : State
  selections : List Selection

def ReaperState.empty : ReaperState where
  store := .empty
  selections := []

inductive ReaperEvent
  /-- Any other transaction of the store. -/
  | other (event : Event)
  | select (sweep : Sweep) (taskId : Uuid)
  /-- The sweep comes to a row it has selected. -/
  | act (selection : Selection) (retryLimit : Nat)
  /-- The sweep is over, or its process is. -/
  | leave (selection : Selection)

/-- `StaleRunningTasks` and `DeadClaimedTasks`, for one row. -/
def Sweep.selects : Sweep → TaskRow → JobRow → Bool
  | .staleTasks, task, job => task.status = .running && job.status.live
  | .deadClaims, task, job =>
    task.status = .running && task.claimedBy.isSome &&
      task.execution.isSome && job.status = .running

def Selection.action (selection : Selection) (retryLimit : Nat) : BoardEvent :=
  match selection.sweep with
  | .staleTasks =>
    if retryLimit ≤ selection.attempt then .failTaskAndSettle selection.taskId
    else .requeueStale selection.taskId
  | .deadClaims => .rescueRunning selection.taskId

def Event.reaps : Event → Bool
  | .board (.requeueStale _) => true
  | .board (.rescueRunning _) => true
  | .board (.failTaskAndSettle _) => true
  | _ => false

def reaperStep (env : Env) (state : ReaperState) : ReaperEvent → Except Failure ReaperState
  | .other event =>
    if event.reaps then .error .invalidRequest
    else (step env state.store event).bind fun store => .ok { state with store }
  | .select sweep taskId =>
    match state.store.board.tasks.find? taskId with
    | none => .error .notFound
    | some task =>
      match state.store.board.jobs.find? task.jobId with
      | none => .error .notFound
      | some job =>
        if !sweep.selects task job then .error .notFound
        else
          .ok { state with
            selections := { sweep := sweep, taskId, attempt := task.attempt } :: state.selections }
  | .act selection retryLimit =>
    if selection ∉ state.selections then .error .notFound
    else
      -- a row that fails is left for a later sweep
      .ok
        { store := apply (step env) state.store (.board (selection.action retryLimit))
          selections := state.selections.erase selection }
  | .leave selection => .ok { state with selections := state.selections.erase selection }

variable {env : Env} {s : ReaperState} {taskId : Uuid}
  {before after : TaskRow} {event : Event} {board : Board}

theorem select_ok {next : ReaperState} {sweep : Sweep}
    (ran : reaperStep env s (.select sweep taskId) = .ok next) :
    ∃ task job, s.store.board.tasks.find? taskId = some task ∧
      s.store.board.jobs.find? task.jobId = some job ∧
      task.status = .running ∧
      next =
        { s with
          selections :=
            { sweep := sweep
              taskId
              attempt := task.attempt } :: s.selections } := by
  unfold reaperStep at ran
  dsimp only at ran
  split at ran
  · cases ran
  next task found =>
    split at ran
    · cases ran
    next job jobFound =>
      obtain ⟨selects, ran⟩ := ite_error_eq_ok.mp ran
      refine ⟨task, job, found, jobFound, ?_, (Except.ok.inj ran).symm⟩
      simp only [Bool.not_eq_true', Bool.not_eq_false] at selects
      cases sweep <;> simp only [Sweep.selects, Bool.and_eq_true, decide_eq_true_eq] at selects
      · exact selects.1
      · exact selects.1.1.1

/-- The attempt number of a task only rises, and an attempt that was
dispatched stays with its worker. -/
structure AttemptKept (before after : TaskRow) : Prop where
  rises : before.attempt ≤ after.attempt
  holder : after.attempt = before.attempt → before.status.waiting = false →
    after.status.waiting = false ∧ after.execution = before.execution

theorem AttemptKept.refl (task : TaskRow) : AttemptKept task task :=
  ⟨le_rfl, fun _ launched => ⟨launched, rfl⟩⟩

theorem AttemptKept.trans {middle : TaskRow} (first : AttemptKept before middle)
    (second : AttemptKept middle after) : AttemptKept before after where
  rises := Nat.le_trans first.rises second.rises
  holder := by
    intro same launched
    have lower := first.rises
    have upper := second.rises
    have sameFirst : middle.attempt = before.attempt := by omega
    have sameSecond : after.attempt = middle.attempt := by omega
    obtain ⟨stillLaunched, execution⟩ := first.holder sameFirst launched
    obtain ⟨isLaunched, sameExecution⟩ := second.holder sameSecond stillLaunched
    exact ⟨isLaunched, sameExecution.trans execution⟩

theorem AttemptKept.of_requeues (requeues : Requeues before after) : AttemptKept before after where
  rises := by
    rw [requeues.attempt]
    exact Nat.le_succ _
  holder := by
    intro same
    rw [requeues.attempt] at same
    omega

theorem AttemptKept.of_closes (closes : Closes before after) : AttemptKept before after where
  rises := closes.attempt.ge
  holder := by
    intro _ _
    refine ⟨?_, closes.execution⟩
    rcases closes.status with status | status
    all_goals
      rw [status]
      rfl

theorem AttemptKept.of_waiting (same : after.attempt = before.attempt)
    (waits : before.status.waiting = true) : AttemptKept before after where
  rises := same.ge
  holder := by
    intro _ launched
    rw [waits] at launched
    cases launched

theorem TaskMove.attemptKept {event : BoardEvent}
    (move : TaskMove event before after) : AttemptKept before after := by
  have waits : before.status = .queued ∨ before.status = .retrying →
      before.status.waiting = true := by
    rintro (status | status)
    all_goals
      rw [status]
      rfl
  cases move with
  | kept same =>
    rw [same]
    exact .refl before
  | claimed _ _ waiting _ same | repinned _ _ _ waiting _ _ same =>
    rw [same]
    exact .of_waiting rfl (waits waiting)
  | started execution _ waiting _ _ same =>
    rw [same]
    exact .of_waiting rfl (waits (.inl waiting))
  | requeued _ requeues | reconciled _ _ requeues | reopened _ requeues =>
    exact .of_requeues requeues
  | closed _ closes => exact .of_closes closes

theorem StoreTaskMove.attemptKept {s : State} (move : StoreTaskMove s event before after) :
    AttemptKept before after := by
  cases move with
  | kept same =>
    rw [same]
    exact .refl before
  | onBoard _ _ move => exact move.attemptKept
  | committed workerId commit _ _ _ _ _ _ same =>
    rw [same]
    unfold TaskRow.committed
    dsimp only
    split_ifs
    · exact .refl before
    · exact ⟨le_rfl, fun _ _ => ⟨rfl, rfl⟩⟩
  | sealed artifact _ same =>
    rw [same]
    exact ⟨le_rfl, fun _ launched => ⟨launched, rfl⟩⟩
  | applied _ _ _ _ _ _ move =>
    cases move with
    | outcome _ only =>
      rw [only]
      exact ⟨le_rfl, fun _ launched => ⟨launched, rfl⟩⟩
    | rejected _ _ requeues => exact .of_requeues requeues
    | completed _ _ same =>
      rw [same]
      exact ⟨le_rfl, fun _ _ => ⟨rfl, rfl⟩⟩
    | cancelled _ _ closes => exact .of_closes closes

def AttemptsKept (before after : State) : Prop :=
  Evolves AttemptKept (fun _ => True) before.board.tasks after.board.tasks

theorem AttemptsKept.refl (s : State) : AttemptsKept s s := Evolves.refl AttemptKept.refl _

theorem AttemptsKept.trans {before middle after : State} (first : AttemptsKept before middle)
    (second : AttemptsKept middle after) : AttemptsKept before after :=
  Evolves.trans first second (fun _ _ _ earlier later => earlier.trans later)
    (fun _ _ _ _ => trivial) (fun _ _ => trivial)

theorem step_attemptsKept {s next : State}
    (ran : step env s event = .ok next) : AttemptsKept s next :=
  (step_tasks ran).mono (fun _ _ _ move => move.attemptKept) (fun _ _ => trivial)

theorem reaperStep_attemptsKept {next : ReaperState} {event : ReaperEvent}
    (ran : reaperStep env s event = .ok next) : AttemptsKept s.store next.store := by
  cases event with
  | other =>
    obtain ⟨_, ran⟩ := ite_error_eq_ok.mp ran
    obtain ⟨_, moved, ran⟩ := bind_eq_ok.mp ran
    cases ran
    exact step_attemptsKept moved
  | select =>
    obtain ⟨_, _, _, _, _, rfl⟩ := select_ok ran
    exact .refl _
  | act =>
    obtain ⟨_, ran⟩ := ite_error_eq_ok.mp ran
    cases ran
    exact apply_of_committed (.refl _) fun _ => step_attemptsKept
  | leave =>
    cases ran
    exact .refl _

theorem run_attemptsKept (env : Env) (s : ReaperState) (events : List ReaperEvent) :
    AttemptsKept s.store (run (reaperStep env) s events).store := by
  have preserved : ∀ (middle : ReaperState) (event : ReaperEvent)
      (next : ReaperState), AttemptsKept s.store middle.store →
        reaperStep env middle event = .ok next → AttemptsKept s.store next.store :=
    fun _ _ _ kept ran => kept.trans (reaperStep_attemptsKept ran)
  exact invariant_run_of_preserved preserved events (AttemptsKept.refl s.store)

def Event.report? : Event → Option (Uuid × Uuid × Nat)
  | .commit taskId workerId attempt _ => some (taskId, workerId, attempt)
  | .board (.failTask taskId workerId attempt _) => some (taskId, workerId, attempt)
  | _ => none

/-- A report has an effect only if it is for the current attempt of its task
and comes from the worker that holds it. -/
def ReportsFenced (env : Env) (state : State) (event : Event) : Prop :=
  ∀ taskId workerId attempt,
    event.report? = some (taskId, workerId, attempt) →
      apply (step env) state event = state ∨
        ∃ task, state.board.tasks.find? taskId = some task ∧
          task.attempt = attempt ∧ task.claimedBy = some workerId

variable {workerId : Uuid} {attempt : Nat} {selection : Selection} {task : TaskRow}

theorem reports_fenced (env : Env) (s : State) (event : Event) : ReportsFenced env s event := by
  intro taskId workerId attempt isReport
  cases ran : step env s event with
  | error => exact .inl (apply_of_error ran)
  | ok =>
    refine .inr ?_
    cases event with
    | commit =>
      cases isReport
      obtain ⟨task, _, _, _, commits⟩ := completeTaskTx_ok ran
      exact ⟨task, commits.taskFound, commits.sameAttempt, commits.claimed⟩
    | board event =>
      obtain ⟨board, moved, _⟩ := bind_eq_ok.mp ran
      cases event with
      | failTask =>
        cases isReport
        obtain ⟨task, found, moved⟩ := Board.onTask_ok moved
        obtain ⟨owned, _⟩ := ite_error_eq_ok.mp moved
        simp only [not_or, not_not] at owned
        exact ⟨task, found, owned.2, owned.1⟩
      | _ => cases isReport
    | _ => cases isReport

/-- A sweep comes to rows that it selected, and at most ends or puts back the
attempt that it selected. -/
def ActsOnSelected (env : Env) (state : ReaperState) : ReaperEvent → Prop
  | .act selection retryLimit =>
    ∀ task ∈ state.store.board.tasks.rows,
      ∀ row ∈ (apply (reaperStep env) state
          (.act selection retryLimit)).store.board.tasks.rows,
        row.id = task.id → row = task ∨
          (task.id = selection.taskId ∧ task.attempt = selection.attempt)
  | _ => True

/-- No task is dispatched while a sweep has it selected. -/
def ReaperGuard (state : ReaperState) : ReaperEvent → Prop
  | .other (.board (.claim taskId _)) => ∀ selection ∈ state.selections, selection.taskId ≠ taskId
  | .other (.board (.start taskId attempt _)) =>
    ∀ task ∈ state.store.board.tasks.find? taskId,
      task.status = .queued → task.attempt = attempt →
        ∀ selection ∈ state.selections, selection.taskId ≠ taskId
  | _ => True

/-- A task that is selected runs under the attempt that was selected, or does
not run. -/
def Judged (state : ReaperState) : Prop :=
  ∀ selection ∈ state.selections,
    ∃ task ∈ state.store.board.tasks.rows, task.id = selection.taskId ∧
      (task.status = .running → task.attempt = selection.attempt)

theorem Requeues.ne_running (requeues : Requeues before after) : after.status ≠ .running := by
  rcases requeues.status with status | status
  all_goals
    rw [status]
    simp

theorem Closes.ne_running (closes : Closes before after) : after.status ≠ .running := by
  rcases closes.status with status | status
  all_goals
    rw [status]
    simp

theorem TaskMove.running {event : BoardEvent}
    (move : TaskMove event before after) (isRunning : after.status = .running) :
    after = before ∨ ∃ execution, event = .claim before.id execution ∨
        (before.status = .queued ∧ event = .start before.id before.attempt execution) := by
  cases move with
  | kept same => exact .inl same
  | claimed execution isEvent => exact .inr ⟨execution, .inl isEvent⟩
  | started execution isEvent waiting => exact .inr ⟨execution, .inr ⟨waiting, isEvent⟩⟩
  | repinned _ _ _ waiting _ _ same =>
    rw [same] at isRunning
    rw [isRunning] at waiting
    rcases waiting with status | status
    all_goals cases status
  | requeued _ requeues | reconciled _ _ requeues | reopened _ requeues =>
    exact (requeues.ne_running isRunning).elim
  | closed _ closes => exact (closes.ne_running isRunning).elim

theorem StoreTaskMove.running {s : State} (move : StoreTaskMove s event before after)
    (isRunning : after.status = .running) :
    (before.status = .running ∧ after.attempt = before.attempt) ∨
      ∃ execution, event = .board (.claim before.id execution) ∨
        (before.status = .queued ∧ event = .board (.start before.id before.attempt execution)) := by
  cases move with
  | kept same =>
    rw [same] at isRunning ⊢
    exact .inl ⟨isRunning, rfl⟩
  | onBoard boardEvent isEvent move =>
    rcases move.running isRunning with same | ⟨execution, isClaim | ⟨isQueued, isStart⟩⟩
    · rw [same] at isRunning ⊢
      exact .inl ⟨isRunning, rfl⟩
    · rw [isClaim] at isEvent
      exact .inr ⟨execution, .inl isEvent⟩
    · rw [isStart] at isEvent
      exact .inr ⟨execution, .inr ⟨isQueued, isEvent⟩⟩
  | committed workerId commit _ _ _ _ _ _ same =>
    rw [same] at isRunning
    unfold TaskRow.committed at isRunning
    dsimp only at isRunning
    split_ifs at isRunning with verifying
    rw [verifying] at isRunning
    cases isRunning
  | sealed artifact verifying same =>
    rw [same] at isRunning
    have isRunning : before.status = .running := isRunning
    rw [verifying] at isRunning
    cases isRunning
  | applied _ _ _ _ _ _ move =>
    cases move with
    | outcome _ only =>
      rw [only] at isRunning ⊢
      exact .inl ⟨isRunning, rfl⟩
    | rejected _ _ requeues => exact (requeues.ne_running isRunning).elim
    | completed _ _ same =>
      rw [same] at isRunning
      cases isRunning
    | cancelled _ _ closes => exact (closes.ne_running isRunning).elim

theorem Judged.step {store : State} (judged : Judged s) (undispatched : ∀ selection ∈ s.selections,
      ∀ task ∈ s.store.board.tasks.rows, task.id = selection.taskId →
        ∀ execution, event ≠ .board (.claim task.id execution) ∧
          (task.status = .queued → event ≠ .board (.start task.id task.attempt execution)))
    (ran : step env s.store event = .ok store) : Judged { s with store } := by
  intro selection selected
  obtain ⟨task, mem, isTask, current⟩ := judged selection selected
  obtain ⟨row, rowMem, _, move⟩ := (step_tasks ran).exists_after mem
  have sameId : row.id = task.id := congrArg TaskTerms.id move.terms
  refine ⟨row, rowMem, sameId.trans isTask, ?_⟩
  intro isRunning
  rcases move.running isRunning with
    ⟨wasRunning, sameAttempt⟩ | ⟨execution, isClaim | ⟨isQueued, isStart⟩⟩
  · rw [sameAttempt]
    exact current wasRunning
  · exact ((undispatched selection selected task mem isTask execution).1 isClaim).elim
  · exact ((undispatched selection selected task mem isTask execution).2 isQueued isStart).elim

theorem Judged.erase (judged : Judged s) (selection : Selection) :
    Judged { s with selections := s.selections.erase selection } :=
  fun other mem => judged other (List.mem_of_mem_erase mem)

theorem ReaperGuard.undispatched (guarded : ReaperGuard s (.other event))
    (selected : selection ∈ s.selections) (mem : task ∈ s.store.board.tasks.rows)
    (isTask : task.id = selection.taskId) (execution : Execution) :
    event ≠ .board (.claim task.id execution) ∧
      (task.status = .queued → event ≠ .board (.start task.id task.attempt execution)) := by
  constructor
  · rintro rfl
    exact guarded selection selected isTask.symm
  · rintro isQueued rfl
    have found := find?_of_mem mem
    exact guarded task found isQueued rfl selection selected isTask.symm

theorem judged_step (s : ReaperState) (event : ReaperEvent) (next : ReaperState) (judged : Judged s)
    (guarded : ReaperGuard s event) (ran : reaperStep env s event = .ok next) : Judged next := by
  cases event with
  | other =>
    obtain ⟨_, ran⟩ := ite_error_eq_ok.mp ran
    obtain ⟨_, moved, ran⟩ := bind_eq_ok.mp ran
    cases ran
    refine judged.step ?_ moved
    intro selection selected task mem isTask execution
    exact guarded.undispatched selected mem isTask execution
  | select =>
    obtain ⟨task, _, found, _, _, rfl⟩ := select_ok ran
    intro selection selected
    rcases List.mem_cons.mp selected with rfl | old
    · have isTask := key_of_find? found
      exact ⟨task, mem_of_find? found, isTask, fun _ => rfl⟩
    · exact judged selection old
  | act selection retryLimit =>
    obtain ⟨_, ran⟩ := ite_error_eq_ok.mp ran
    cases ran
    cases acted : step env s.store (.board (selection.action retryLimit)) with
    | error =>
      rw [apply_of_error acted]
      exact judged.erase selection
    | ok =>
      rw [apply_of_ok acted]
      refine (judged.step ?_ acted).erase selection
      intro other _ task _ _ execution
      unfold Selection.action
      cases selection.sweep with
      | staleTasks => split_ifs <;> simp
      | deadClaims => simp
  | leave selection =>
    cases ran
    exact judged.erase selection

theorem writeTask_running {next : Board} {change : TaskChange}
    (found : board.tasks.find? taskId = some task) (isRunning : task.status = .running)
    (ran : board.writeTask taskId change = .ok next) :
    Evolves (fun old row => row = old ∨ (old.id = taskId ∧ old.status = .running))
      (fun _ => False) board.tasks next.tasks := by
  obtain ⟨_, rfl⟩ := Board.updateTasks_ok ran
  refine .update (fun _ => .inl rfl) ?_
  intro row mem selected
  have isTask : row.id = taskId := of_decide_eq_true selected
  refine .inr ⟨isTask, ?_⟩
  rw [eq_of_find? found mem isTask]
  exact isRunning

theorem failJobAndSettleOnce_tasks {s : State} {jobId : Uuid}
    (ran : failJobAndSettleOnce s jobId = .ok board) : board.tasks = s.board.tasks := by
  obtain ⟨_, _, ran⟩ := Board.onJob_ok ran
  split_ifs at ran
  · cases ran
    rfl
  · obtain ⟨_, rfl⟩ := Board.updateJobs_ok ran
    rfl

theorem Selection.action_tasks {s : State} {retryLimit : Nat}
    (ran : boardStep s (selection.action retryLimit) = .ok board) :
    Evolves (fun old row => row = old ∨ (old.id = selection.taskId ∧ old.status = .running))
      (fun _ => False) s.board.tasks board.tasks := by
  unfold Selection.action at ran
  cases selected : selection.sweep with
  | staleTasks =>
    rw [selected] at ran
    split_ifs at ran
    · obtain ⟨task, found, ran⟩ := Board.onTask_ok ran
      split_ifs at ran with idle
      · cases ran
        exact .refl (fun _ => .inl rfl) _
      obtain ⟨middle, wrote, settled⟩ := bind_eq_ok.mp ran
      rw [not_not] at idle
      rw [failJobAndSettleOnce_tasks settled]
      exact writeTask_running found idle wrote
    · obtain ⟨task, found, ran⟩ := Board.onTask_ok ran
      obtain ⟨_, _, ran⟩ := Board.onJob_ok ran
      split_ifs at ran with idle
      · cases ran
        exact .refl (fun _ => .inl rfl) _
      obtain ⟨middle, wrote, moved⟩ := bind_eq_ok.mp ran
      simp only [not_or, not_not] at idle
      rw [moveJob_tasks moved]
      exact writeTask_running found idle.1 wrote
  | deadClaims =>
    rw [selected] at ran
    obtain ⟨task, found, ran⟩ := Board.onTask_ok ran
    split_ifs at ran with idle
    · cases ran
      exact .refl (fun _ => .inl rfl) _
    · rw [not_not] at idle
      exact writeTask_running found idle ran

theorem actsOnSelected_of_judged {event : ReaperEvent} (judged : Judged s) :
    ActsOnSelected env s event := by
  cases event with
  | act selection retryLimit =>
    intro task mem row rowMem sameId
    have unique : row ∈ s.store.board.tasks.rows → row = task := fun isOld =>
      eq_of_key isOld mem sameId
    cases ran : reaperStep env s (.act selection retryLimit) with
    | error =>
      rw [apply_of_error ran] at rowMem
      exact .inl (unique rowMem)
    | ok =>
      rw [apply_of_ok ran] at rowMem
      obtain ⟨selected, ran⟩ := ite_error_eq_ok.mp ran
      cases ran
      rw [not_not] at selected
      cases acted : step env s.store (.board (selection.action retryLimit)) with
      | error =>
        rw [apply_of_error acted] at rowMem
        exact .inl (unique rowMem)
      | ok =>
        rw [apply_of_ok acted] at rowMem
        obtain ⟨_, moved, acted⟩ := bind_eq_ok.mp acted
        cases acted
        obtain same | ⟨isSelected, isRunning⟩ :=
          (Selection.action_tasks moved).related_of_key mem rowMem sameId
        · exact .inl same
        · obtain ⟨known, knownMem, isKnown, current⟩ := judged selection selected
          have sameTask : known = task := eq_of_key knownMem mem (isKnown.trans isSelected.symm)
          rw [sameTask] at current
          exact .inr ⟨isSelected, current isRunning⟩
  | other | select | leave => exact trivial

/-- Attempts only rise and stay with their worker, and reports count for the
current attempt and its holder.  When no task is dispatched while a sweep has
it selected, the sweeps act on the attempts that they selected. -/
theorem attempts_fenced (env : Env) (events : List ReaperEvent) :
    (∀ earlier later, events = earlier ++ later →
      AttemptsKept (run (reaperStep env) ReaperState.empty earlier).store
        (run (reaperStep env) ReaperState.empty events).store) ∧
      (∀ earlier event later, events = earlier ++ .other event :: later →
        ReportsFenced env (run (reaperStep env) ReaperState.empty earlier).store event) ∧
      (Meets (reaperStep env) ReaperGuard ReaperState.empty events →
        Meets (reaperStep env) (ActsOnSelected env) ReaperState.empty events) := by
  refine ⟨?_, ?_, ?_⟩
  · rintro earlier later rfl
    rw [run_append]
    exact run_attemptsKept env _ later
  · intro earlier event later _
    exact reports_fenced env _ event
  · intro guarded
    have judged : Judged ReaperState.empty := List.forall_mem_nil _
    exact meets_of_guarded judged_step
      (fun _ _ judged _ => actsOnSelected_of_judged judged) judged guarded

instance (state : ReaperState) (event : ReaperEvent) : Decidable (ReaperGuard state event) := by
  unfold ReaperGuard
  split <;> infer_instance

/-- A worker is silent for 31 minutes, and the sweep selects its task. -/
def staleClaim : List ReaperEvent :=
  [.other (submitted usdJob), .other (.board (.claim 1 (workerOf 3 4))), .other (.tick 1860),
   .select .staleTasks 1]

def staleSelection : Selection where
  sweep := .staleTasks
  taskId := 1
  attempt := 0

theorem staleClaim_requeued :
    (let events :=
      staleClaim ++ [.act staleSelection 3, .other (.board (.claim 1 (workerOf 13 14)))]
     let state := run (reaperStep usdEnv) ReaperState.empty events
     state.store.board.tasks.rows.map (fun task => (task.status, task.attempt, task.claimedBy)) =
        [(.running, 1, some 13), (.queued, 0, none)] ∧
      Meets (reaperStep usdEnv) ReaperGuard ReaperState.empty events ∧
      Meets (reaperStep usdEnv) (ActsOnSelected usdEnv) ReaperState.empty events) :=
  have guarded : Meets (reaperStep usdEnv) ReaperGuard ReaperState.empty
        (staleClaim ++ [.act staleSelection 3, .other (.board (.claim 1 (workerOf 13 14)))]) := by
    decide +kernel
  ⟨by decide +kernel, guarded, (attempts_fenced usdEnv _).2.2 guarded⟩

/-- An operator puts the task back and another worker claims it; then the sweep
takes the new attempt from that worker. -/
theorem newer_attempt_reaped :
    let claimed :=
      run (reaperStep usdEnv) ReaperState.empty (staleClaim ++
          [.other (.board (.adminRequeue 1 3)), .other (.board (.claim 1 (workerOf 13 14)))])
    let swept := run (reaperStep usdEnv) claimed [.act staleSelection 3]
    claimed.selections = [staleSelection] ∧
      claimed.store.board.tasks.rows.map (fun task => (task.status, task.attempt, task.claimedBy)) =
        [(.running, 1, some 13), (.queued, 0, none)] ∧
      swept.store.board.tasks.rows.map (fun task => (task.status, task.attempt, task.claimedBy)) =
        [(.queued, 2, none), (.queued, 0, none)] := by
  decide +kernel

end MercControl.Verification
