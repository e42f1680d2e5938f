import MercControl.Library.Evolution
import MercControl.Verification.JobBoard

/-!
# What the events of the board do

A task is dispatched, requeued as its next attempt, or closed; a job stays
live, or ends in one of three ways, or has its bill written again.  The
invariants of the store are proved from these moves, not from the transactions.
-/

namespace MercControl.Verification

open Library Machine Table

def TaskStatus.beforeCommit : TaskStatus → Bool
  | queued => true
  | running => true
  | retrying => true
  | _ => false

def TaskStatus.waiting : TaskStatus → Bool
  | queued => true
  | retrying => true
  | _ => false

structure Requeues (before after : TaskRow) : Prop where
  terms : after.toTaskTerms = before.toTaskTerms
  status : after.status = .queued ∨ after.status = .retrying
  attempt : after.attempt = before.attempt + 1
  unclaimed : after.claimedBy = none
  execution : after.execution = before.execution
  settled : after.settled = before.settled ∨ after.settled = none

structure Closes (before after : TaskRow) : Prop where
  terms : after.toTaskTerms = before.toTaskTerms
  status : after.status = .failed ∨ after.status = .cancelled
  attempt : after.attempt = before.attempt
  holder : after.claimedBy = none ∨ after.claimedBy = before.claimedBy
  execution : after.execution = before.execution
  settled : after.settled = before.settled

def TaskRow.dispatchedTo (task : TaskRow) (execution : Execution) : TaskRow :=
  { task with
    status := .running
    claimedBy := some execution.workerId
    workerId := some execution.workerId
    execution := some execution }

inductive TaskMove (event : BoardEvent) (before after : TaskRow) : Prop
  | kept (same : after = before)
  | claimed (execution : Execution) (isEvent : event = .claim before.id execution)
      (waiting : before.status = .queued ∨ before.status = .retrying)
      (free : before.claimedBy = none ∨ before.claimedBy = some execution.workerId)
      (same : after = before.dispatchedTo execution)
  | started (execution : Execution) (isEvent : event = .start before.id before.attempt execution)
      (waiting : before.status = .queued)
      (held : before.claimedBy = some execution.workerId)
      (known : before.isTiebreak = true ∨ before.execution.isSome = true)
      (same : after = before.dispatchedTo execution)
  | repinned (pinnedWorkerId peerWorkerId : Uuid)
      (isEvent : event = .reassign before.id pinnedWorkerId peerWorkerId)
      (waiting : before.status = .queued ∨ before.status = .retrying)
      (tiebreak : before.isTiebreak = true)
      (held : before.claimedBy = some pinnedWorkerId)
      (same : after = { before with claimedBy := some peerWorkerId, workerId := none })
  | requeued (isOpen : before.status.beforeCommit = true) (requeues : Requeues before after)
  | reconciled (isEvent : event = .reconcile before.id) (verifying : before.status = .verifying)
      (requeues : Requeues before after)
  | reopened (isEvent : event = .requeue before.id) (requeues : Requeues before after)
  | closed (isOpen : before.status.beforeCommit = true) (closes : Closes before after)

inductive TaskOpened (state : State) (event : BoardEvent) (task : TaskRow) :
    Prop
  | submitted (terms : JobTerms) (tasks : List TaskSpec) (spec : TaskSpec)
      (isEvent : event = .submit terms tasks) (listed : spec ∈ tasks)
      (same : task = (spec.terms terms.id).opened none)
  | hedge (peerWorkerId : Uuid) (primary : TaskRow) (job : JobRow)
      (isEvent : event = .hedge task.id primary.id peerWorkerId)
      (found : state.board.tasks.find? primary.id = some primary)
      (isPrimary : primary.isHoneypot = false ∧
        primary.isRedundancy = false ∧ primary.hedgedFrom = none)
      (jobFound : state.board.jobs.find? primary.jobId = some job)
      (jobLive : job.status.live = true)
      (same : task =
        TaskTerms.opened
          { primary.toTaskTerms with
            id := task.id
            isHoneypot := false
            isRedundancy := false
            hedgedFrom := some primary.id }
          (some peerWorkerId))
  | tiebreak (peerWorkerId : Uuid) (anchor : TaskRow) (job : JobRow)
      (isEvent : event = .tiebreak task.id anchor.id peerWorkerId)
      (found : state.board.tasks.find? anchor.id = some anchor)
      (jobFound : state.board.jobs.find? anchor.jobId = some job)
      (jobLive : job.status.live = true)
      (same : task =
        TaskTerms.opened
          { anchor.toTaskTerms with
            id := task.id
            isHoneypot := false
            isRedundancy := true
            hedgedFrom := some anchor.id }
          (some peerWorkerId))

structure ReserveCovered (job : JobRow) : Prop where
  bounded : job.consumed ≤ job.reserved
  cap : ∀ cap ∈ job.maxCharge, job.cost (job.initialTasks + job.consumed) ≤ cap

/-- The reserve of a job is only used up, and within its cap. -/
structure Reserves (before after : JobRow) : Prop where
  grows : before.consumed ≤ after.consumed
  covered : before.consumed < after.consumed → ReserveCovered after

variable {before after : JobRow} {change : TaskChange} {board next : Board}
  {event : BoardEvent} {terms : JobTerms} {tasks : List TaskSpec}
  {task : TaskRow} {execution : Execution} {attempt : Nat}
  {peerWorkerId : Uuid}

theorem Reserves.of_eq (same : after.consumed = before.consumed) : Reserves before after where
  grows := same.ge
  covered := by
    intro more
    omega

theorem Reserves.of_reserveLeft (terms : after.toJobTerms = before.toJobTerms)
    (oneMore : after.consumed = before.consumed + 1)
    (left : before.reserveLeft = true) : Reserves before after where
  grows := by omega
  covered := by
    intro _
    simp only [JobRow.reserveLeft, Bool.and_eq_true, decide_eq_true_eq] at left
    obtain ⟨⟨isLeft, covers⟩, _⟩ := left
    constructor
    · rw [terms, oneMore]
      exact isLeft
    · intro cap isCap
      rw [terms] at isCap ⊢
      rw [Option.mem_def.mp isCap] at covers
      rw [oneMore]
      exact of_decide_eq_true covers

theorem ReserveCovered.of_eq (covered : ReserveCovered before)
    (terms : after.toJobTerms = before.toJobTerms)
    (same : after.consumed = before.consumed) : ReserveCovered after := by
  refine ⟨?_, ?_⟩
  · rw [terms, same]
    exact covered.bounded
  · rw [terms, same]
    exact covered.cap

theorem Reserves.trans {middle : JobRow} (terms : after.toJobTerms = middle.toJobTerms)
    (first : Reserves before middle) (second : Reserves middle after) : Reserves before after where
  grows := Nat.le_trans first.grows second.grows
  covered := by
    intro more
    by_cases later : middle.consumed < after.consumed
    · exact second.covered later
    · have same : after.consumed = middle.consumed := by
        have grows := second.grows
        omega
      rw [same] at more
      exact (first.covered more).of_eq terms same

structure GoesOn (event : BoardEvent) (before after : JobRow) : Prop where
  terms : after.toJobTerms = before.toJobTerms
  wasLive : before.status.live = true
  isLive : after.status.live = true
  leaves : before.status ≠ .queued → after.status ≠ .queued
  actual : after.actual = before.actual
  tasksDone : after.tasksDone = before.tasksDone
  taskCount : after.taskCount = before.taskCount ∨
    ∃ taskId anchorTaskId peerWorkerId, event = .tiebreak taskId anchorTaskId peerWorkerId
  reserve : Reserves before after

inductive JobMove (state : State) (event : BoardEvent) (before after : JobRow) : Prop
  | kept (same : after = before)
  | goesOn (moves : GoesOn event before after)
  | failed (wasLive : before.status.live = true)
      (same : after = { before with status := .failed, actual := state.taskCharges before.id })
  | cancelled (wasQueued : before.status = .queued)
      (same : after = { before with status := .cancelled })
  | stuck (isEvent : event = .cancelStuck before.id) (wasRunning : before.status = .running)
      (same : after = { before with status := .cancelled })
  | billed (isEvent : event = .setActual before.id)
      (same : after =
        { before with actual := state.taskCharges before.id + state.premiumCharge before.id })

def JobOpened (event : BoardEvent) (job : JobRow) : Prop :=
  ∃ terms tasks, event = .submit terms tasks ∧
    job =
      { toJobTerms := terms
        status := .queued
        taskCount := tasks.length
        tasksDone := 0
        actual := 0
        strikes := 0
        consumed := 0 }

structure BoardMoves (state : State) (event : BoardEvent) (board : Board) : Prop where
  tasks : Evolves (TaskMove event) (TaskOpened state event) state.board.tasks board.tasks
  jobs : Evolves (JobMove state event) (JobOpened event) state.board.jobs board.jobs

section

variable {s : State}
variable {taskId jobId : Uuid}

theorem Board.onTask_ok {body : TaskRow → Except Failure Board}
    (ran : board.onTask taskId body = .ok next) :
    ∃ task, board.tasks.find? taskId = some task ∧ body task = .ok next := by
  unfold Board.onTask at ran
  split at ran
  · cases ran
  · exact ⟨_, by assumption, ran⟩

theorem Board.onJob_ok {body : JobRow → Except Failure Board}
    (ran : board.onJob jobId body = .ok next) :
    ∃ job, board.jobs.find? jobId = some job ∧ body job = .ok next := by
  unfold Board.onJob at ran
  split at ran
  · cases ran
  · exact ⟨_, by assumption, ran⟩

theorem BoardMoves.refl (s : State) (event : BoardEvent) : BoardMoves s event s.board where
  tasks := .refl (fun _ => .kept rfl) _
  jobs := .refl (fun _ => .kept rfl) _

theorem BoardMoves.updateTasks {selected : TaskRow → Bool} (moves : BoardMoves s event board)
    (same : board.tasks = s.board.tasks) (ran : board.updateTasks selected change = .ok next)
    (changes : ∀ task ∈ s.board.tasks.rows, selected task = true →
      TaskMove event task (change.apply task)) : BoardMoves s event next := by
  obtain ⟨_, rfl⟩ := Board.updateTasks_ok ran
  refine ⟨?_, moves.jobs⟩
  rw [same]
  exact .update (fun _ => .kept rfl) changes

theorem BoardMoves.updateJobs {selected : JobRow → Bool}
    {change : JobChange} (moves : BoardMoves s event board)
    (same : board.jobs = s.board.jobs) (ran : board.updateJobs selected change = .ok next)
    (changes : ∀ job ∈ s.board.jobs.rows, selected job = true →
      JobMove s event job (change.apply job)) : BoardMoves s event next := by
  obtain ⟨_, rfl⟩ := Board.updateJobs_ok ran
  refine ⟨moves.tasks, ?_⟩
  rw [same]
  exact .update (fun _ => .kept rfl) changes

theorem BoardMoves.writeTask (found : s.board.tasks.find? taskId = some task)
    (ran : s.board.writeTask taskId change = .ok next)
    (moves : TaskMove event task (change.apply task)) : BoardMoves s event next := by
  refine (BoardMoves.refl s event).updateTasks rfl ran ?_
  intro row mem selected
  obtain rfl := eq_of_find? found mem (of_decide_eq_true selected)
  exact moves

theorem writeTask_jobs (ran : board.writeTask taskId change = .ok next) :
    next.jobs = board.jobs := by
  obtain ⟨_, rfl⟩ := Board.updateTasks_ok ran
  rfl

theorem BoardMoves.moveJob {before after : JobStatus} (moves : BoardMoves s event board)
    (same : board.jobs = s.board.jobs) (ran : board.moveJob jobId before after = .ok next)
    (changes : ∀ job ∈ s.board.jobs.rows, job.id = jobId →
      job.status = before → JobMove s event job { job with status := after }) :
    BoardMoves s event next := by
  refine moves.updateJobs same ran ?_
  intro job mem selected
  simp only [Bool.and_eq_true, decide_eq_true_eq] at selected
  exact changes job mem selected.1 selected.2

theorem moveJob_tasks {before after : JobStatus}
    (ran : board.moveJob jobId before after = .ok next) : next.tasks = board.tasks := by
  obtain ⟨_, rfl⟩ := Board.updateJobs_ok ran
  rfl

theorem JobMove.ofLive {job : JobRow} {status : JobStatus}
    (wasLive : job.status.live = true) (isLive : status.live = true) (leaves : status ≠ .queued) :
    JobMove s event job { job with status } :=
  .goesOn
    { terms := rfl, wasLive, isLive, leaves := fun _ => leaves, actual := rfl
      tasksDone := rfl, taskCount := .inl rfl, reserve := .of_eq rfl }

theorem BoardMoves.moveLive {before after : JobStatus} (moves : BoardMoves s event board)
    (same : board.jobs = s.board.jobs) (ran : board.moveJob jobId before after = .ok next)
    (wasLive : before.live = true) (isLive : after.live = true) (leaves : after ≠ .queued) :
    BoardMoves s event next := by
  refine moves.moveJob same ran ?_
  rintro job _ _ rfl
  exact .ofLive wasLive isLive leaves

end

theorem jobOfTask_update {selected : TaskRow → Bool}
    (ran : board.updateTasks selected change = .ok next) (taskId : Uuid) :
    next.jobOfTask taskId = board.jobOfTask taskId := by
  obtain ⟨_, rfl⟩ := Board.updateTasks_ok ran
  rw [Board.jobOfTask, Board.jobOfTask, find?_update, Option.map_map]
  congr 1
  funext task
  simp only [Function.comp_apply]
  split_ifs
  · exact congrArg TaskTerms.jobId (change.kept task)
  · rfl

section

variable {s : State} {taskId jobId : Uuid}

theorem insertTasks_ok {specs : List TaskSpec} (isEvent : event = .submit terms tasks)
    (listed : ∀ spec ∈ specs, spec ∈ tasks) (moves : BoardMoves s event board)
    (ran : board.insertTasks terms.id specs = .ok next) : BoardMoves s event next := by
  induction specs generalizing board with
  | nil =>
    cases ran
    exact moves
  | cons spec rest restInserted =>
    obtain ⟨_, inserted, ran⟩ := bind_eq_ok.mp ran
    obtain ⟨fresh, rfl⟩ := Board.insertTask_ok inserted
    have opened : TaskOpened s event ((spec.terms terms.id).opened none) :=
      .submitted terms tasks spec isEvent (listed spec List.mem_cons_self) rfl
    have added : Evolves Eq (TaskOpened s event) board.tasks (board.tasks.insert _ fresh) :=
      .insert (fun _ => rfl) fresh opened
    have moved : BoardMoves s event { board with tasks := board.tasks.insert _ fresh } := by
      refine ⟨moves.tasks.trans added ?_ ?_ (fun _ => id), moves.jobs⟩
      · rintro old between row moved rfl
        exact moved
      · rintro between row opened rfl
        exact opened
    exact restInserted (fun other mem => listed other (List.mem_cons_of_mem _ mem)) moved ran

theorem submitJob_ok (ran : submitJob board terms tasks = .ok next) :
    terms.planned tasks = true ∧
      ∃ fresh : board.jobs.find? terms.id = none,
        Board.insertTasks terms.id
          { board with
            jobs := board.jobs.insert
              { toJobTerms := terms
                status := .queued
                taskCount := tasks.length
                tasksDone := 0
                actual := 0
                strikes := 0
                consumed := 0 } fresh } tasks = .ok next := by
  obtain ⟨isPlanned, ran⟩ := ite_error_eq_ok.mp ran
  obtain ⟨_, inserted, ran⟩ := bind_eq_ok.mp ran
  unfold Board.insertJob at inserted
  split at inserted
  · cases inserted
  rename_i jobs found
  obtain ⟨fresh, rfl⟩ := insertNew_eq_some.mp found
  cases inserted
  simp only [Bool.not_eq_true', Bool.not_eq_false] at isPlanned
  exact ⟨isPlanned, fresh, ran⟩

theorem submitJob_moves (ran : submitJob s.board terms tasks = .ok board) :
    BoardMoves s (.submit terms tasks) board := by
  obtain ⟨_, fresh, ran⟩ := submitJob_ok ran
  refine insertTasks_ok rfl (fun spec mem => mem) ⟨?_, ?_⟩ ran
  · exact .refl (fun _ => .kept rfl) _
  · exact .insert (fun _ => .kept rfl) fresh ⟨terms, tasks, rfl, rfl⟩

/-- A task is written, and its job goes on with it. -/
theorem writeTask_moves {before after : JobStatus} (found : s.board.tasks.find? taskId = some task)
    (moves : TaskMove event task (change.apply task))
    (ran : (s.board.writeTask taskId change).bind (·.moveJob jobId before after) = .ok board)
    (wasLive : before.live = true) (isLive : after.live = true) (leaves : after ≠ .queued) :
    BoardMoves s event board := by
  obtain ⟨_, wrote, moved⟩ := bind_eq_ok.mp ran
  exact (BoardMoves.writeTask found wrote moves).moveLive (writeTask_jobs wrote) moved wasLive
    isLive leaves

theorem claimTask_ok (ran : claimTask s taskId execution = .ok board) :
    ∃ task job, s.board.tasks.find? taskId = some task ∧ s.board.jobs.find? task.jobId = some job ∧
      (task.status = .queued ∨ task.status = .retrying) ∧
      (task.claimedBy = none ∨ task.claimedBy = some execution.workerId) ∧
      job.status.live = true ∧
      s.board.dispatch task execution = .ok board ∧
      { s with board }.withinCap job = true := by
  obtain ⟨task, found, ran⟩ := Board.onTask_ok ran
  obtain ⟨job, jobFound, ran⟩ := Board.onJob_ok ran
  obtain ⟨passes, ran⟩ := ite_error_eq_ok.mp ran
  obtain ⟨_, dispatched, ran⟩ := bind_eq_ok.mp ran
  obtain ⟨covered, ran⟩ := ite_error_eq_ok.mp ran
  cases ran
  simp only [not_or, not_and, not_not, Bool.not_eq_true', Bool.not_eq_false] at passes covered
  exact ⟨task, job, found, jobFound, or_iff_not_imp_left.mpr passes.1,
    or_iff_not_imp_left.mpr passes.2.1, passes.2.2, dispatched, covered⟩

theorem claimTask_moves (ran : claimTask s taskId execution = .ok board) :
    BoardMoves s (.claim taskId execution) board := by
  obtain ⟨_, _, found, _, waiting, free, _, dispatched, _⟩ := claimTask_ok ran
  obtain rfl := key_of_find? found
  exact writeTask_moves found (.claimed execution rfl waiting free rfl) dispatched rfl rfl nofun

theorem startTask_ok (ran : startTask s taskId attempt execution = .ok board) :
    ∃ task job, s.board.tasks.find? taskId = some task ∧ s.board.jobs.find? task.jobId = some job ∧
      task.attempt = attempt ∧
      task.claimedBy = some execution.workerId ∧ job.status.live = true ∧
      ((task.status = .running ∧ s.board.moveJob task.jobId .queued .running = .ok board) ∨
        (task.status = .queued ∧ ((task.isTiebreak = true ∧ s.tiebreakEligible job = true) ∨
            task.execution.isSome = true) ∧
          s.board.dispatch task execution = .ok board)) := by
  obtain ⟨task, found, ran⟩ := Board.onTask_ok ran
  obtain ⟨job, jobFound, ran⟩ := Board.onJob_ok ran
  obtain ⟨passes, ran⟩ := ite_error_eq_ok.mp ran
  simp only [not_or, not_and, not_not, Bool.not_eq_true', Bool.not_eq_false] at passes
  obtain ⟨sameAttempt, held, startable, isLive⟩ := passes
  obtain ⟨frozen, ran⟩ := ite_error_eq_ok.mp ran
  refine ⟨task, job, found, jobFound, sameAttempt, held, isLive, ?_⟩
  split at ran
  next isRunning =>
    obtain ⟨_, ran⟩ := ite_error_eq_ok.mp ran
    exact .inl ⟨isRunning, ran⟩
  next notRunning =>
    have isQueued : task.status = .queued := by
      by_contra notQueued
      exact notRunning (startable notQueued)
    obtain ⟨_, ran⟩ := ite_error_eq_ok.mp ran
    obtain ⟨eligible, ran⟩ := ite_error_eq_ok.mp ran
    refine .inr ⟨isQueued, ?_, ran⟩
    by_cases tiebreak : task.isTiebreak = true
    · simp only [tiebreak, true_and, Bool.not_eq_true', Bool.not_eq_false] at eligible
      exact .inl ⟨tiebreak, eligible⟩
    · simp only [tiebreak, Bool.not_eq_true', not_and, Bool.not_eq_false,
        or_true, true_implies] at frozen
      exact .inr (Option.isSome_of_any frozen)

theorem startTask_moves (ran : startTask s taskId attempt execution = .ok board) :
    BoardMoves s (.start taskId attempt execution) board := by
  obtain ⟨_, _, found, _, rfl, held, _, started⟩ := startTask_ok ran
  obtain rfl := key_of_find? found
  rcases started with ⟨_, moved⟩ | ⟨isQueued, known, dispatched⟩
  · exact (BoardMoves.refl _ _).moveLive rfl moved rfl rfl nofun
  · have isKnown := known.imp_left fun eligible => eligible.1
    exact writeTask_moves found (.started execution rfl isQueued held isKnown rfl) dispatched
      rfl rfl nofun

theorem reassignPinnedTiebreak_moves {pinnedWorkerId : Uuid}
    (ran : reassignPinnedTiebreak s taskId pinnedWorkerId peerWorkerId = .ok board) :
    BoardMoves s (.reassign taskId pinnedWorkerId peerWorkerId) board := by
  obtain ⟨task, found, ran⟩ := Board.onTask_ok ran
  obtain ⟨_, _, ran⟩ := Board.onJob_ok ran
  split at ran
  · cases ran
    exact .refl _ _
  next selected =>
    obtain ⟨_, ran⟩ := ite_error_eq_ok.mp ran
    simp only [not_or, not_and, not_not, Bool.not_eq_true', Bool.not_eq_false] at selected
    obtain ⟨waiting, tiebreak, held, _⟩ := selected
    obtain rfl := key_of_find? found
    have isWaiting : task.status = .queued ∨ task.status = .retrying :=
      or_iff_not_imp_left.mpr waiting
    exact writeTask_moves found
      (.repinned pinnedWorkerId peerWorkerId rfl isWaiting tiebreak held rfl) ran rfl rfl nofun

theorem insertHedgeTask_moves {primaryTaskId : Uuid}
    (ran : insertHedgeTask s.board taskId primaryTaskId peerWorkerId = .ok board) :
    BoardMoves s (.hedge taskId primaryTaskId peerWorkerId) board := by
  obtain ⟨primary, found, ran⟩ := Board.onTask_ok ran
  obtain ⟨job, jobFound, ran⟩ := Board.onJob_ok ran
  obtain ⟨isPrimary, ran⟩ := ite_error_eq_ok.mp ran
  split_ifs at ran with exists_hedge refused
  · cases ran
    exact .refl _ _
  obtain ⟨_, inserted, consumed⟩ := bind_eq_ok.mp ran
  obtain ⟨fresh, rfl⟩ := Board.insertTask_ok inserted
  obtain ⟨_, rfl⟩ := Board.updateJobs_ok consumed
  simp only [not_or, not_and, not_not, Bool.not_eq_true', Bool.not_eq_true,
    Bool.not_eq_false, Option.isSome_eq_false_iff,
    Option.isNone_iff_eq_none] at isPrimary refused
  obtain rfl := key_of_find? found
  refine ⟨?_, ?_⟩
  · exact .insert (fun _ => .kept rfl) fresh
      (.hedge peerWorkerId primary job rfl found isPrimary jobFound refused.2.1 rfl)
  · refine .update (fun _ => .kept rfl) ?_
    intro row mem selected
    obtain rfl : row = job := eq_of_find? jobFound mem (of_decide_eq_true selected)
    exact .goesOn
      { terms := rfl, wasLive := refused.2.1, isLive := refused.2.1, leaves := id, actual := rfl
        tasksDone := rfl, taskCount := .inl rfl
        reserve := .of_reserveLeft rfl rfl refused.2.2 }

theorem insertPlannedTiebreak_ok {peerEligible : Bool} {primaryTaskId : Uuid}
    {inputRef : String} {chunkIndex : Nat}
    (ran : insertPlannedTiebreak board peerEligible taskId jobId primaryTaskId
      peerWorkerId inputRef chunkIndex = .ok next) :
    next = board ∨
      ∃ middle job, board.jobs.find? jobId = some job ∧
        job.status.live = true ∧ job.reserveLeft = true ∧
        board.insertTask
          (TaskTerms.opened
            { id := taskId
              jobId
              chunkIndex
              isHoneypot := false
              isRedundancy := true
              hedgedFrom := some primaryTaskId
              inputRef }
            (if peerEligible then some peerWorkerId else none)) =
          .ok middle ∧
        middle.addObligation jobId = .ok next := by
  unfold insertPlannedTiebreak at ran
  split at ran
  · cases ran
  next job jobFound =>
    split at ran
    · exact .inl (Except.ok.inj ran).symm
    · obtain ⟨refused, ran⟩ := ite_error_eq_ok.mp ran
      obtain ⟨middle, inserted, obliged⟩ := bind_eq_ok.mp ran
      simp only [not_or, Bool.not_eq_true', Bool.not_eq_false] at refused
      exact .inr ⟨middle, job, jobFound, refused.2, refused.1, inserted, obliged⟩

theorem insertTiebreakTask_moves {anchorTaskId : Uuid}
    (ran : insertTiebreakTask s.board taskId anchorTaskId peerWorkerId = .ok board) :
    BoardMoves s (.tiebreak taskId anchorTaskId peerWorkerId) board := by
  obtain ⟨anchor, found, ran⟩ := Board.onTask_ok ran
  rcases insertPlannedTiebreak_ok ran with
    rfl | ⟨middle, job, jobFound, jobLive, left, inserted, obliged⟩
  · exact .refl _ _
  · obtain ⟨fresh, rfl⟩ := Board.insertTask_ok inserted
    obtain ⟨_, rfl⟩ := Board.updateJobs_ok obliged
    obtain rfl := key_of_find? found
    refine ⟨?_, ?_⟩
    · exact .insert (fun _ => .kept rfl) fresh
        (.tiebreak peerWorkerId anchor job rfl found jobFound jobLive rfl)
    · refine .update (fun _ => .kept rfl) ?_
      intro row mem selected
      obtain rfl : row = job := eq_of_find? jobFound mem (of_decide_eq_true selected)
      refine .goesOn
        { terms := rfl, wasLive := jobLive, isLive := ?_, leaves := ?_, actual := rfl
          tasksDone := rfl, taskCount := .inr ⟨_, _, _, rfl⟩
          reserve := .of_reserveLeft rfl rfl left }
      · change (if _ then _ else _ : JobStatus).live = true
        split_ifs
        · rfl
        · exact jobLive
      · intro notQueued
        change (if _ then _ else _ : JobStatus) ≠ .queued
        split_ifs
        · simp
        · exact notQueued

theorem requeued_requeues {status : TaskStatus} (waiting : status = .queued ∨ status = .retrying) :
    Requeues task ((TaskRow.requeued status).apply task) where
  terms := rfl
  status := waiting
  attempt := rfl
  unclaimed := rfl
  execution := rfl
  settled := .inl rfl

theorem closed_closes {status : TaskStatus} (ended : status = .failed ∨ status = .cancelled) :
    Closes task ((TaskRow.closed status).apply task) where
  terms := rfl
  status := ended
  attempt := rfl
  holder := .inl rfl
  execution := rfl
  settled := rfl

theorem requeueStaleTask_moves (ran : requeueStaleTask s.board taskId = .ok board) :
    BoardMoves s (.requeueStale taskId) board := by
  obtain ⟨_, found, ran⟩ := Board.onTask_ok ran
  obtain ⟨_, _, ran⟩ := Board.onJob_ok ran
  split_ifs at ran with idle
  · cases ran
    exact .refl _ _
  · simp only [not_or, not_not] at idle
    exact writeTask_moves found
      (.requeued (by rw [idle.1]; rfl) (requeued_requeues (.inl rfl))) ran rfl rfl nofun

theorem rescueRunningTask_moves (ran : rescueRunningTask s.board taskId = .ok board) :
    BoardMoves s (.rescueRunning taskId) board := by
  obtain ⟨_, found, ran⟩ := Board.onTask_ok ran
  split_ifs at ran with idle
  · cases ran
    exact .refl _ _
  · rw [not_not] at idle
    exact .writeTask found ran (.requeued (by rw [idle]; rfl) (requeued_requeues (.inl rfl)))

theorem rescueStuckJob_moves (ran : rescueStuckJob s.board jobId = .ok board) :
    BoardMoves s (.rescueStuck jobId) board := by
  obtain ⟨job, jobFound, ran⟩ := Board.onJob_ok ran
  split_ifs at ran with idle
  · cases ran
    exact .refl _ _
  obtain ⟨middle, struck, requeued⟩ := bind_eq_ok.mp ran
  simp only [not_or, not_not] at idle
  have moves : BoardMoves s (.rescueStuck jobId) middle := by
    refine (BoardMoves.refl s (.rescueStuck jobId)).updateJobs rfl struck ?_
    intro row mem selected
    obtain rfl : row = job := eq_of_find? jobFound mem (of_decide_eq_true selected)
    have isLive : row.status.live = true := by
      rw [idle.1]
      rfl
    exact .goesOn
      { terms := rfl, wasLive := isLive, isLive, leaves := id, actual := rfl
        tasksDone := rfl, taskCount := .inl rfl, reserve := .of_eq rfl }
  have sameTasks : middle.tasks = s.board.tasks := by
    obtain ⟨_, rfl⟩ := Board.updateJobs_ok struck
    rfl
  refine moves.updateTasks sameTasks requeued ?_
  intro task _ selected
  simp only [Bool.and_eq_true, Bool.or_eq_true, decide_eq_true_eq] at selected
  refine .requeued ?_ (requeued_requeues (.inl rfl))
  rcases selected.2 with status | status
  all_goals
    rw [status]
    rfl

theorem adminForceRequeueTask_moves {retryLimit : Nat}
    (ran : adminForceRequeueTask s.board taskId retryLimit = .ok board) :
    BoardMoves s (.adminRequeue taskId retryLimit) board := by
  obtain ⟨task, found, ran⟩ := Board.onTask_ok ran
  obtain ⟨passes, ran⟩ := ite_error_eq_ok.mp ran
  simp only [not_or, not_and, not_not] at passes
  refine .writeTask found ran (.requeued ?_ (requeued_requeues (.inl rfl)))
  by_cases isRunning : task.status = .running
  · rw [isRunning]
    rfl
  · rw [passes.1 isRunning]
    rfl

theorem requeueTask_moves (ran : requeueTask s.board taskId = .ok board) :
    BoardMoves s (.requeue taskId) board := by
  obtain ⟨task, found, ran⟩ := Board.onTask_ok ran
  obtain rfl := key_of_find? found
  exact writeTask_moves found (.reopened rfl (requeued_requeues (.inr rfl))) ran rfl rfl nofun

theorem reconcileVerifyingTask_moves (ran : reconcileVerifyingTask s taskId = .ok board) :
    BoardMoves s (.reconcile taskId) board := by
  obtain ⟨task, found, ran⟩ := Board.onTask_ok ran
  obtain ⟨job, _, ran⟩ := Board.onJob_ok ran
  split_ifs at ran with idle
  · cases ran
    exact .refl _ _
  obtain ⟨middle, wrote, moved⟩ := bind_eq_ok.mp ran
  simp only [not_or, not_not] at idle
  obtain rfl := key_of_find? found
  have moves : BoardMoves s (.reconcile task.id) middle := .writeTask found wrote
    (.reconciled rfl idle.1
      { terms := rfl, status := .inr rfl, attempt := rfl, unclaimed := rfl
        execution := rfl, settled := .inr rfl })
  refine moves.updateJobs (writeTask_jobs wrote) moved ?_
  intro job _ selected
  simp only [Bool.and_eq_true, Bool.or_eq_true, decide_eq_true_eq] at selected
  refine .ofLive ?_ rfl (by simp)
  rcases selected.2 with status | status
  all_goals
    rw [status]
    rfl

theorem failJobAndSettleOnce_moves {middle : Board} (moves : BoardMoves s event middle)
    (same : middle.jobs = s.board.jobs)
    (jobOf : ∀ taskId, middle.jobOfTask taskId = s.board.jobOfTask taskId)
    (ran : failJobAndSettleOnce { s with board := middle } jobId = .ok board) :
    BoardMoves s event board := by
  obtain ⟨job, jobFound, ran⟩ := Board.onJob_ok ran
  split_ifs at ran with ended
  · cases ran
    exact moves
  refine moves.updateJobs same ran ?_
  intro row mem selected
  simp only [Bool.not_eq_true', Bool.not_eq_false] at ended
  have isJob : row.id = jobId := of_decide_eq_true selected
  have sameRow : row = job := eq_of_find? (same ▸ jobFound) mem isJob
  refine .failed (sameRow ▸ ended) ?_
  rw [State.taskCharges, State.taskCharges, funext jobOf, isJob]

theorem failTask_moves {workerId : Uuid} {retryable : Bool}
    (ran : failTask s taskId workerId attempt retryable = .ok board) :
    BoardMoves s (.failTask taskId workerId attempt retryable) board := by
  obtain ⟨task, found, ran⟩ := Board.onTask_ok ran
  split_ifs at ran
  · cases ran
    exact .refl _ _
  all_goals
    have isOpen : task.status.beforeCommit = true := by
      cases status : task.status <;> simp_all [TaskStatus.beforeCommit]
  · obtain ⟨_, wrote, settled⟩ := bind_eq_ok.mp ran
    exact failJobAndSettleOnce_moves
      (.writeTask found wrote (.closed isOpen (closed_closes (.inl rfl))))
      (writeTask_jobs wrote) (jobOfTask_update wrote) settled
  · exact .writeTask found ran (.requeued isOpen (requeued_requeues (.inr rfl)))

theorem failTaskAndSettleJob_moves (ran : failTaskAndSettleJob s taskId = .ok board) :
    BoardMoves s (.failTaskAndSettle taskId) board := by
  obtain ⟨_, found, ran⟩ := Board.onTask_ok ran
  split_ifs at ran with idle
  · cases ran
    exact .refl _ _
  · obtain ⟨_, wrote, settled⟩ := bind_eq_ok.mp ran
    rw [not_not] at idle
    exact failJobAndSettleOnce_moves
      (.writeTask found wrote (.closed (by rw [idle]; rfl) (closed_closes (.inl rfl))))
      (writeTask_jobs wrote) (jobOfTask_update wrote) settled

theorem cancelJob_moves {buyerId : Uuid} (ran : cancelJob s jobId buyerId = .ok board) :
    BoardMoves s (.cancel jobId buyerId) board := by
  obtain ⟨job, _, ran⟩ := Board.onJob_ok ran
  split_ifs at ran
  · cases ran
    exact .refl _ _
  obtain ⟨middle, moved, closed⟩ := bind_eq_ok.mp ran
  have moves : BoardMoves s (.cancel jobId buyerId) middle := by
    refine (BoardMoves.refl _ _).moveJob rfl moved ?_
    intro job _ _ wasQueued
    exact .cancelled wasQueued rfl
  refine moves.updateTasks (moveJob_tasks moved) closed ?_
  intro task _ selected
  simp only [Bool.and_eq_true, decide_eq_true_eq] at selected
  exact .closed (by rw [selected.2]; rfl)
    { terms := rfl, status := .inl rfl, attempt := rfl, holder := .inr rfl
      execution := rfl, settled := rfl }

theorem ne_verifying_of_not_pending (notPending : s.verificationPending jobId = false)
    (mem : task ∈ s.board.tasks.rows) (ofJob : task.jobId = jobId) : task.status ≠ .verifying := by
  intro isVerifying
  simp only [State.verificationPending, Bool.or_eq_false_iff, List.any_eq_false] at notPending
  exact notPending.1 task mem (by simp [ofJob, isVerifying])

theorem cancelStuckJob_moves (ran : cancelStuckJob s jobId = .ok board) :
    BoardMoves s (.cancelStuck jobId) board := by
  obtain ⟨job, _, ran⟩ := Board.onJob_ok ran
  split_ifs at ran with idle
  · cases ran
    exact .refl _ _
  obtain ⟨middle, moved, closed⟩ := bind_eq_ok.mp ran
  simp only [not_or, not_not, Bool.not_eq_true] at idle
  have moves : BoardMoves s (.cancelStuck jobId) middle := by
    refine (BoardMoves.refl _ _).moveJob rfl moved ?_
    rintro job _ rfl wasRunning
    exact .stuck rfl wasRunning rfl
  refine moves.updateTasks (moveJob_tasks moved) closed ?_
  intro task mem selected
  simp only [Bool.and_eq_true, decide_eq_true_eq, Bool.not_eq_true'] at selected
  have notVerifying := ne_verifying_of_not_pending idle.2 mem selected.1
  have isOpen : task.status.beforeCommit = true := by
    cases status : task.status <;> simp_all [TaskStatus.beforeCommit, TaskStatus.finished]
  exact .closed isOpen
    { terms := rfl, status := .inr rfl, attempt := rfl, holder := .inr rfl
      execution := rfl, settled := rfl }

theorem setJobActual_moves (ran : setJobActual s jobId = .ok board) :
    BoardMoves s (.setActual jobId) board := by
  refine (BoardMoves.refl _ _).updateJobs rfl ran ?_
  intro job _ selected
  obtain rfl : job.id = jobId := of_decide_eq_true selected
  exact .billed rfl rfl

theorem detachUnfinishedTasks_moves (ran : detachUnfinishedTasks s.board jobId = .ok board) :
    BoardMoves s (.detach jobId) board := by
  obtain ⟨_, _, ran⟩ := Board.onJob_ok ran
  split at ran
  · cases ran
    exact .refl _ _
  refine (BoardMoves.refl _ _).updateTasks rfl ran ?_
  intro task _ selected
  simp only [Bool.and_eq_true, Bool.or_eq_true, decide_eq_true_eq] at selected
  have isOpen : task.status.beforeCommit = true := by
    rcases selected.2 with (status | status) | status
    all_goals
      rw [status]
      rfl
  refine .closed isOpen (closed_closes ?_)
  split_ifs
  · exact .inr rfl
  · exact .inl rfl

theorem boardStep_moves (ran : boardStep s event = .ok board) : BoardMoves s event board := by
  cases event with
  | submit => exact submitJob_moves ran
  | claim => exact claimTask_moves ran
  | start => exact startTask_moves ran
  | hedge => exact insertHedgeTask_moves ran
  | tiebreak => exact insertTiebreakTask_moves ran
  | reassign => exact reassignPinnedTiebreak_moves ran
  | requeueStale => exact requeueStaleTask_moves ran
  | rescueRunning => exact rescueRunningTask_moves ran
  | rescueStuck => exact rescueStuckJob_moves ran
  | adminRequeue => exact adminForceRequeueTask_moves ran
  | requeue => exact requeueTask_moves ran
  | reconcile => exact reconcileVerifyingTask_moves ran
  | failTask => exact failTask_moves ran
  | failTaskAndSettle => exact failTaskAndSettleJob_moves ran
  | cancel => exact cancelJob_moves ran
  | cancelStuck => exact cancelStuckJob_moves ran
  | setActual => exact setJobActual_moves ran
  | detach => exact detachUnfinishedTasks_moves ran

end

end MercControl.Verification
