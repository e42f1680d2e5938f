import MercControl.Verification.TaskCounts

/-!
# Families of tasks and what a job counts

A primary and its hedges are a family.  `task_count` counts primaries,
redundancy tasks and tiebreaks; `tasks_done` one accepted task of each family.
Every step but an acceptance keeps the invariant `Hedged`.
-/

namespace MercControl.Verification

open Library Table

/-- A task that `task_count` counts: a primary, a redundancy task or a
tiebreak, but no hedge. -/
def TaskTerms.planned (terms : TaskTerms) (jobId : Uuid) : Bool :=
  terms.jobId = jobId && (terms.isRedundancy || terms.hedgedFrom.isNone)

def plannedTasks (tasks : List TaskRow) (jobId : Uuid) : Nat :=
  tasks.countP fun task => task.toTaskTerms.planned jobId

def PlannedFits (board : Board) : Prop :=
  ∀ job ∈ board.jobs.rows, plannedTasks board.tasks.rows job.id ≤ job.taskCount

variable {task left right : TaskRow} {s next : State} {event : BoardEvent}
  {job : JobRow} {info : CommitTaskInfo}

/-- Only a submission and a tiebreak plan tasks, and both count them. -/
theorem planned_rule : CountRule TaskTerms.planned JobRow.taskCount where
  ownJob := by
    intro terms jobId isPlanned
    simp only [TaskTerms.planned, Bool.and_eq_true, decide_eq_true_eq] at isPlanned
    exact isPlanned.1
  grows := fun _ _ _ _ more => more
  submitted := fun _ _ _ => List.countP_le_length
  hedge := by
    intro terms job isPrimary isHedge isPlanned
    simp only [TaskTerms.planned, isPrimary, Bool.false_or,
      Bool.and_eq_true, Option.isNone_iff_eq_none] at isPlanned
    rw [isPlanned.2] at isHedge
    cases isHedge
  tiebreak := fun _ _ _ _ _ _ => le_rfl

/-- A step that neither charges nor counts a task. -/
structure Calm (before after : State) : Prop where
  tasks : Evolves
    (fun old row => row.toTaskTerms = old.toTaskTerms ∧
      (old.status = .complete → row.status = .complete))
    (fun row => row.isRedundancy = false → ∀ primaryId, row.hedgedFrom = some primaryId →
      ∃ primary ∈ before.board.tasks.rows, primary.id = primaryId ∧
        primary.jobId = row.jobId ∧ primary.isRedundancy = false ∧ primary.hedgedFrom = none)
    before.board.tasks after.board.tasks
  jobs : Evolves
    (fun old row => row.toJobTerms = old.toJobTerms ∧ row.tasksDone = old.tasksDone)
    (fun row => row.tasksDone = 0) before.board.jobs after.board.jobs
  charged : ∀ taskId, after.books.charged taskId = before.books.charged taskId
  counted : after.books.counted = before.books.counted

theorem Calm.of_eq {before after : State} (board : after.board = before.board)
    (books : after.books = before.books) : Calm before after where
  tasks := by
    rw [board]
    exact .refl (fun _ => ⟨rfl, id⟩) _
  jobs := by
    rw [board]
    exact .refl (fun _ => ⟨rfl, rfl⟩) _
  charged := by
    rw [books]
    exact fun _ => rfl
  counted := by rw [books]

theorem jobOfTask_eq {board : Board} (mem : task ∈ board.tasks.rows) :
    board.jobOfTask task.id = some task.jobId := by
  have found := find?_of_mem mem
  rw [Board.jobOfTask, found]
  rfl

theorem jobOfTask_evolves {related : TaskRow → TaskRow → Prop} {fresh : TaskRow → Prop}
    {before after : Board} (tasks : Evolves related fresh before.tasks after.tasks)
    (kept : ∀ old row, related old row → row.toTaskTerms = old.toTaskTerms)
    (mem : task ∈ before.tasks.rows) : after.jobOfTask task.id = some task.jobId := by
  obtain ⟨row, rowMem, _, moved⟩ := tasks.exists_after mem
  have terms := kept task row moved
  have sameId : row.id = task.id := congrArg TaskTerms.id terms
  have sameJob : row.jobId = task.jobId := congrArg TaskTerms.jobId terms
  rw [← sameId, jobOfTask_eq rowMem, sameJob]

def State.countedFor (state : State) (jobId : Uuid) : Nat :=
  state.books.counted.countP fun taskId => state.board.jobOfTask taskId = some jobId

def SameFamily (left right : TaskRow) : Prop :=
  left.isRedundancy = false ∧ right.isRedundancy = false ∧ left.root = right.root
  deriving Decidable

abbrev OneMarked (state : State) (marked : Uuid → Prop) : Prop :=
  ∀ left ∈ state.board.tasks.rows, ∀ right ∈ state.board.tasks.rows,
    SameFamily left right → marked left.id → marked right.id → left.id = right.id

/-- What holds of hedges in every run that keeps to the guard. -/
structure Hedged (state : State) : Prop where
  families : ∀ task ∈ state.board.tasks.rows, task.isRedundancy = false →
    ∀ primaryId, task.hedgedFrom = some primaryId →
      ∃ primary ∈ state.board.tasks.rows, primary.id = primaryId ∧
        primary.jobId = task.jobId ∧ primary.isRedundancy = false ∧
        primary.hedgedFrom = none
  chargedTask : ∀ taskId, state.books.charged taskId = true →
    ∃ task ∈ state.board.tasks.rows, task.id = taskId
  countedTask : ∀ taskId ∈ state.books.counted,
    ∃ task ∈ state.board.tasks.rows, task.id = taskId ∧ task.status = .complete
  countedOnce : state.books.counted.Nodup
  oneCharge : OneMarked state fun taskId => state.books.charged taskId = true
  oneCount : OneMarked state fun taskId => taskId ∈ state.books.counted
  done : ∀ job ∈ state.board.jobs.rows, job.tasksDone ≤ state.countedFor job.id
  fits : PlannedFits state.board

variable {row : TaskRow} {workerId taskId : Uuid} {commit : TaskCommit} {lease : VerificationLease}

section

variable {before after : State}

theorem Calm.exists_before (calm : Calm before after) (mem : row ∈ after.board.tasks.rows)
    (known : ∃ task ∈ before.board.tasks.rows, task.id = row.id) :
    ∃ task ∈ before.board.tasks.rows, row.toTaskTerms = task.toTaskTerms := by
  obtain ⟨task, taskMem, same⟩ := known
  exact ⟨task, taskMem, (calm.tasks.related_of_key taskMem mem same.symm).1⟩

theorem SameFamily.symm (family : SameFamily left right) : SameFamily right left :=
  ⟨family.2.1, family.1, family.2.2.symm⟩

theorem SameFamily.of_terms {leftOld rightOld : TaskRow} (family : SameFamily left right)
    (leftTerms : left.toTaskTerms = leftOld.toTaskTerms)
    (rightTerms : right.toTaskTerms = rightOld.toTaskTerms) : SameFamily leftOld rightOld := by
  obtain ⟨leftPrimary, rightPrimary, sameRoot⟩ := family
  rw [leftTerms] at leftPrimary sameRoot
  rw [rightTerms] at rightPrimary sameRoot
  exact ⟨leftPrimary, rightPrimary, sameRoot⟩

theorem Calm.one_marked {marked : Uuid → Prop} (calm : Calm before after)
    (known : ∀ taskId, marked taskId → ∃ task ∈ before.board.tasks.rows, task.id = taskId)
    (one : OneMarked before marked) : OneMarked after marked := by
  intro left leftMem right rightMem family leftMarked rightMarked
  obtain ⟨leftOld, leftOldMem, leftTerms⟩ := calm.exists_before leftMem (known _ leftMarked)
  obtain ⟨rightOld, rightOldMem, rightTerms⟩ := calm.exists_before rightMem (known _ rightMarked)
  have familyOld := family.of_terms leftTerms rightTerms
  rw [leftTerms] at leftMarked ⊢
  rw [rightTerms] at rightMarked ⊢
  exact one leftOld leftOldMem rightOld rightOldMem familyOld leftMarked rightMarked

theorem Calm.countedFor (calm : Calm before after) (hedged : Hedged before)
    (jobId : Uuid) : after.countedFor jobId = before.countedFor jobId := by
  rw [State.countedFor, State.countedFor, calm.counted]
  refine List.countP_congr ?_
  intro taskId isCounted
  obtain ⟨_, mem, rfl, _⟩ := hedged.countedTask taskId isCounted
  rw [jobOfTask_eq mem, jobOfTask_evolves calm.tasks (fun _ _ => And.left) mem]

theorem Hedged.calm (hedged : Hedged before) (calm : Calm before after)
    (fits : PlannedFits after.board) : Hedged after where
  families := by
    intro row mem isPrimary primaryId isHedge
    obtain ⟨primary, primaryMem, facts⟩ : ∃ primary ∈ before.board.tasks.rows,
        primary.id = primaryId ∧ primary.jobId = row.jobId ∧ primary.isRedundancy = false ∧
          primary.hedgedFrom = none := by
      rcases calm.tasks.mem_cases mem with ⟨task, taskMem, _, terms, _⟩ | ⟨family, _⟩
      · rw [terms] at isPrimary isHedge ⊢
        exact hedged.families task taskMem isPrimary primaryId isHedge
      · exact family isPrimary primaryId isHedge
    obtain ⟨next, nextMem, _, nextTerms, _⟩ := calm.tasks.exists_after primaryMem
    rw [← nextTerms] at facts
    exact ⟨next, nextMem, facts⟩
  chargedTask := by
    intro taskId isCharged
    rw [calm.charged] at isCharged
    obtain ⟨task, mem, rfl⟩ := hedged.chargedTask taskId isCharged
    obtain ⟨row, rowMem, _, terms, _⟩ := calm.tasks.exists_after mem
    exact ⟨row, rowMem, congrArg TaskTerms.id terms⟩
  countedTask := by
    intro taskId isCounted
    rw [calm.counted] at isCounted
    obtain ⟨task, mem, rfl, complete⟩ := hedged.countedTask taskId isCounted
    obtain ⟨row, rowMem, _, terms, kept⟩ := calm.tasks.exists_after mem
    exact ⟨row, rowMem, congrArg TaskTerms.id terms, kept complete⟩
  countedOnce := by
    rw [calm.counted]
    exact hedged.countedOnce
  oneCharge := by
    simp only [calm.charged]
    exact calm.one_marked hedged.chargedTask hedged.oneCharge
  oneCount := by
    rw [calm.counted]
    refine calm.one_marked (fun taskId isCounted => ?_) hedged.oneCount
    obtain ⟨task, mem, same, _⟩ := hedged.countedTask taskId isCounted
    exact ⟨task, mem, same⟩
  done := by
    intro job mem
    rw [calm.countedFor hedged]
    rcases calm.jobs.mem_cases mem with ⟨old, oldMem, _, terms, sameDone⟩ | ⟨none, _⟩
    · rw [terms, sameDone]
      exact hedged.done old oldMem
    · rw [none]
      exact Nat.zero_le _
  fits

end

def KeepsComplete (state : State) : BoardEvent → Prop
  | .requeue taskId => ∀ task ∈ state.board.tasks.rows, task.id = taskId → task.status ≠ .complete
  | _ => True

instance (state : State) (event : BoardEvent) : Decidable (KeepsComplete state event) := by
  cases event <;> unfold KeepsComplete <;> infer_instance

theorem TaskMove.calm {before after : TaskRow} (keeps : KeepsComplete s event)
    (mem : before ∈ s.board.tasks.rows) (move : TaskMove event before after) :
    after.toTaskTerms = before.toTaskTerms ∧
      (before.status = .complete → after.status = .complete) := by
  refine ⟨move.terms, fun isComplete => ?_⟩
  cases move with
  | kept same | repinned _ _ _ _ _ _ same =>
    rw [same]
    exact isComplete
  | claimed _ _ waiting =>
    rw [isComplete] at waiting
    rcases waiting with status | status
    all_goals cases status
  | started _ _ status | requeued status | reconciled _ status | closed status =>
    rw [isComplete] at status
    cases status
  | reopened isEvent =>
    subst isEvent
    exact (keeps before mem rfl isComplete).elim

theorem boardStep_calm {board : Board} (keeps : KeepsComplete s event)
    (ran : boardStep s event = .ok board) : Calm s { s with board } := by
  have moves := boardStep_moves ran
  refine ⟨?_, ?_, fun _ => rfl, rfl⟩
  · refine moves.tasks.mono (fun old mem row move => move.calm keeps mem) ?_
    intro row opened
    cases opened with
    | submitted terms tasks spec isEvent _ same =>
      rw [same]
      intro _ primaryId isHedge
      cases isHedge
    | hedge peerWorkerId primary job _ found isPrimary jobFound _ same =>
      rw [same]
      intro _ primaryId isHedge
      obtain rfl := Option.some.inj isHedge
      exact ⟨primary, mem_of_find? found, rfl, rfl, isPrimary.2⟩
    | tiebreak peerWorkerId anchor job _ _ jobFound _ same =>
      rw [same]
      intro isRedundant
      cases isRedundant
  · refine moves.jobs.mono (fun _ _ _ move => ⟨move.keeps.1, move.keeps.2.1⟩) ?_
    rintro row ⟨terms, tasks, _, rfl⟩
    rfl

theorem Commits.calm {attempt : Nat} {execution : Execution}
    (commits : Commits s taskId workerId attempt commit task job execution info next) :
    Calm s next where
  tasks := by
    refine commits.tasks_evolve.relax ?_
    rintro old _ row (rfl | ⟨rfl, rfl⟩)
    · exact ⟨rfl, id⟩
    · refine ⟨(TaskRow.committed workerId commit).kept old, ?_⟩
      intro isComplete
      have status := commits.status
      rw [isComplete] at status
      rcases status with status | status
      all_goals cases status
  jobs := by
    refine commits.jobs.relax ?_
    rintro old _ row (rfl | ⟨_, rfl⟩)
    all_goals exact ⟨rfl, rfl⟩
  charged := by
    rw [commits.books]
    exact fun _ => rfl
  counted := by rw [commits.books]

theorem Pins.calm {kind : ArtifactKind} {body : Bytes} {work : WorkRow}
    (pins : Pins s lease kind body work task next) : Calm s next where
  tasks := by
    rw [pins.tasks]
    exact .update (fun _ => ⟨rfl, id⟩) fun _ _ _ => ⟨rfl, id⟩
  jobs := by
    rw [pins.jobs]
    exact .refl (fun _ => ⟨rfl, rfl⟩) _
  charged := by
    rw [pins.books]
    exact fun _ => rfl
  counted := by rw [pins.books]

theorem Finalizes.calm {jobId : Uuid} (finalizes : Finalizes s jobId job next) : Calm s next where
  tasks := by
    rw [finalizes.tasks]
    exact .refl (fun _ => ⟨rfl, id⟩) _
  jobs := by
    rw [finalizes.jobs]
    exact .update (fun _ => ⟨rfl, rfl⟩) fun _ _ _ => ⟨rfl, rfl⟩
  charged := by
    rw [finalizes.books, chargePremium_frame]
    exact fun _ => rfl
  counted := by rw [finalizes.books, chargePremium_frame]

theorem charged_of_evolves {before after : Books}
    (ledger : Evolves PayoutOnly (fun entry => entry.kind = .clawback) before.ledger after.ledger)
    (taskId : Uuid) : after.charged taskId = before.charged taskId := by
  unfold Books.charged
  cases found : before.ledger.find? (some taskId, .buyerCharge) with
  | some =>
    obtain ⟨row, rowFound, _⟩ := ledger.find?_after found
    rw [rowFound]
    rfl
  | none =>
    cases late : after.ledger.find? (some taskId, .buyerCharge) with
    | none => rfl
    | some row =>
      rcases ledger.find?_cases late with ⟨old, oldFound, _⟩ | ⟨_, isClawback⟩
      · rw [found] at oldFound
        cases oldFound
      · have isCharge := congrArg Prod.snd (key_of_find? late)
        change row.kind = .buyerCharge at isCharge
        rw [isClawback] at isCharge
        cases isCharge

theorem EffectsRun.calm {before after : State}
    (effects : EffectsRun info before after) : Calm before after where
  tasks := by
    refine effects.tasks.mono ?_ ?_
    · intro old _ row only
      rw [only]
      exact ⟨rfl, id⟩
    · intro row tiebreak
      have redundant : row.isRedundancy = true := congrArg TaskTerms.isRedundancy tiebreak.terms
      rw [redundant]
      intro isPrimary
      cases isPrimary
  jobs := effects.jobs.relax (fun _ _ _ obliged => ⟨obliged.terms, obliged.tasksDone⟩)
  charged := charged_of_evolves effects.ledger
  counted := by rw [effects.books]

theorem Rejects.calm {plan : VerificationWorkPlan}
    (rejects : Rejects s lease info plan next) : Calm s next where
  tasks := by
    rw [rejects.tasks]
    refine .update (fun _ => ⟨rfl, id⟩) ?_
    intro row _ selected
    refine ⟨rfl, ?_⟩
    intro isComplete
    simp [TaskRow.isVerifying, isComplete] at selected
  jobs := by
    rw [rejects.jobs]
    exact .update (fun _ => ⟨rfl, rfl⟩) fun _ _ _ => ⟨rfl, rfl⟩
  charged := by
    rw [rejects.books]
    exact fun _ => rfl
  counted := by rw [rejects.books]

/-- An acceptance, as far as families are concerned. -/
structure AcceptsTask (before : State) (task : TaskRow) (counts : Bool) (after : State) : Prop where
  member : task ∈ before.board.tasks.rows
  notComplete : task.status ≠ .complete
  tasks : Evolves
    (fun old row => row.toTaskTerms = old.toTaskTerms ∧
      (old.status = .complete → row.status = .complete))
    (fun _ => False) before.board.tasks after.board.tasks
  completed : ∃ row ∈ after.board.tasks.rows, row.id = task.id ∧ row.status = .complete
  jobs : Evolves
    (fun old row => row.toJobTerms = old.toJobTerms ∧ row.taskCount = old.taskCount ∧
      row.tasksDone =
        old.tasksDone +
          if counts = true ∧ old.id = task.jobId then 1 else 0)
    (fun _ => False) before.board.jobs after.board.jobs
  charged : ∀ taskId, after.books.charged taskId = true →
    before.books.charged taskId = true ∨ (taskId = task.id ∧ counts = true)
  counted : after.books.counted =
    if counts then before.books.counted ++ [task.id] else before.books.counted
  alone : counts = true → ∀ sibling ∈ before.board.tasks.rows,
    SameFamily sibling task → sibling.id ≠ task.id →
      before.books.charged sibling.id = false ∧ sibling.id ∉ before.books.counted

namespace AcceptsTask

variable {before after : State} {counts : Bool}

variable {old : TaskRow}

section

variable (accepted : AcceptsTask before task counts after)

include accepted

theorem eq_task (mem : old ∈ before.board.tasks.rows) (sameId : old.id = task.id) : old = task :=
  eq_of_key mem accepted.member sameId

theorem not_counted (hedged : Hedged before) : task.id ∉ before.books.counted := by
  intro isCounted
  obtain ⟨_, mem, sameId, complete⟩ := hedged.countedTask task.id isCounted
  obtain rfl := accepted.eq_task mem sameId
  exact accepted.notComplete complete

theorem mem_counted (isCounted : taskId ∈ after.books.counted) :
    taskId ∈ before.books.counted ∨ (taskId = task.id ∧ counts = true) := by
  rw [accepted.counted] at isCounted
  split_ifs at isCounted with itCounts
  · rcases List.mem_append.mp isCounted with old | isNew
    · exact .inl old
    · exact .inr ⟨List.mem_singleton.mp isNew, itCounts⟩
  · exact .inl isCounted

theorem countedFor (hedged : Hedged before) (jobId : Uuid) : after.countedFor jobId =
      before.countedFor jobId + if counts = true ∧ jobId = task.jobId then 1 else 0 := by
  have earlier : before.books.counted.countP
      (fun taskId => decide (after.board.jobOfTask taskId = some jobId)) =
        before.countedFor jobId := by
    refine List.countP_congr ?_
    intro taskId isCounted
    obtain ⟨_, mem, rfl, _⟩ := hedged.countedTask taskId isCounted
    rw [jobOfTask_eq mem, jobOfTask_evolves accepted.tasks (fun _ _ => And.left) mem]
  rw [State.countedFor, accepted.counted]
  cases counts with
  | false => simpa using earlier
  | true =>
    have ofTask : after.board.jobOfTask task.id = some task.jobId :=
      jobOfTask_evolves accepted.tasks (fun _ _ => And.left) accepted.member
    rw [if_pos rfl, List.countP_append, earlier]
    simp [List.countP_cons, ofTask, eq_comm]

/-- A mark that was on one member of each family and that the acceptance puts
on the task, if it does, when no other member has it. -/
theorem one_marked {early late : Uuid → Prop}
    (marks : ∀ taskId, late taskId → early taskId ∨ (taskId = task.id ∧ counts = true))
    (alone : counts = true → ∀ sibling ∈ before.board.tasks.rows,
      SameFamily sibling task → sibling.id ≠ task.id → ¬ early sibling.id)
    (one : OneMarked before early) : OneMarked after late := by
  intro left leftMem right rightMem family leftMark rightMark
  obtain ⟨leftOld, leftOldMem, _, leftTerms, _⟩ := accepted.tasks.exists_before leftMem
  obtain ⟨rightOld, rightOldMem, _, rightTerms, _⟩ := accepted.tasks.exists_before rightMem
  have familyOld := family.of_terms leftTerms rightTerms
  have leftCases := marks _ leftMark
  have rightCases := marks _ rightMark
  rw [leftTerms] at leftCases ⊢
  rw [rightTerms] at rightCases ⊢
  rcases leftCases with leftEarly | ⟨leftIsTask, itCounts⟩
  · rcases rightCases with rightEarly | ⟨rightIsTask, itCounts⟩
    · exact one leftOld leftOldMem rightOld rightOldMem familyOld leftEarly rightEarly
    · obtain rfl := accepted.eq_task rightOldMem rightIsTask
      by_contra ne
      exact alone itCounts leftOld leftOldMem familyOld ne leftEarly
  · obtain rfl := accepted.eq_task leftOldMem leftIsTask
    rcases rightCases with rightEarly | ⟨rightIsTask, _⟩
    · by_contra ne
      exact alone itCounts rightOld rightOldMem familyOld.symm (Ne.symm ne) rightEarly
    · exact rightIsTask.symm

theorem hedged (hedged : Hedged before) (fits : PlannedFits after.board) : Hedged after where
  families := by
    intro row mem isPrimary primaryId isHedge
    obtain ⟨old, oldMem, _, terms, _⟩ := accepted.tasks.exists_before mem
    rw [terms] at isPrimary isHedge ⊢
    obtain ⟨_, primaryMem, facts⟩ := hedged.families old oldMem isPrimary primaryId isHedge
    obtain ⟨next, nextMem, _, nextTerms, _⟩ := accepted.tasks.exists_after primaryMem
    rw [← nextTerms] at facts
    exact ⟨next, nextMem, facts⟩
  chargedTask := by
    intro taskId isCharged
    obtain ⟨old, oldMem, rfl⟩ : ∃ old ∈ before.board.tasks.rows, old.id = taskId := by
      rcases accepted.charged taskId isCharged with early | ⟨rfl, _⟩
      · exact hedged.chargedTask taskId early
      · exact ⟨task, accepted.member, rfl⟩
    obtain ⟨row, rowMem, _, terms, _⟩ := accepted.tasks.exists_after oldMem
    exact ⟨row, rowMem, congrArg TaskTerms.id terms⟩
  countedTask := by
    intro taskId isCounted
    rcases accepted.mem_counted isCounted with early | ⟨rfl, _⟩
    · obtain ⟨old, oldMem, rfl, complete⟩ := hedged.countedTask taskId early
      obtain ⟨row, rowMem, _, terms, kept⟩ := accepted.tasks.exists_after oldMem
      exact ⟨row, rowMem, congrArg TaskTerms.id terms, kept complete⟩
    · exact accepted.completed
  countedOnce := by
    rw [accepted.counted]
    split_ifs
    · refine List.nodup_append.mpr ⟨hedged.countedOnce, List.nodup_singleton _, ?_⟩
      rintro left isCounted right isNew rfl
      rw [List.mem_singleton.mp isNew] at isCounted
      exact accepted.not_counted hedged isCounted
    · exact hedged.countedOnce
  oneCharge := by
    refine accepted.one_marked accepted.charged ?_ hedged.oneCharge
    intro itCounts sibling mem family ne isCharged
    have uncharged := (accepted.alone itCounts sibling mem family ne).1
    rw [uncharged] at isCharged
    cases isCharged
  oneCount := by
    refine accepted.one_marked (fun _ => accepted.mem_counted) ?_ hedged.oneCount
    intro itCounts sibling mem family ne
    exact (accepted.alone itCounts sibling mem family ne).2
  done := by
    intro job mem
    rw [accepted.countedFor hedged]
    obtain ⟨old, oldMem, _, terms, _, done⟩ := accepted.jobs.exists_before mem
    have bound := hedged.done old oldMem
    rw [terms, done]
    omega
  fits

end

end AcceptsTask

end MercControl.Verification
