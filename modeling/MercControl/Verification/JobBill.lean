import MercControl.Verification.HedgeSafety

/-!
# The bill of a job that has ended

`actual_usd` of a job is the sum of its `buyer_charge` rows.  Charges are
written for live jobs only, and the transaction that ends a job writes its
amount, except that `CancelStuckJob` leaves it to a later `SetJobActualUSD`.
-/

namespace MercControl.Verification

open Library Machine Table

/-! ## The invariant -/

def TaskStatus.started : TaskStatus → Bool
  | running => true
  | verifying => true
  | complete => true
  | _ => false

def Debit.isPremiumOf (jobId : Uuid) : Debit → Bool
  | .premium other _ => other = jobId
  | .task _ _ => false

structure Billed (state : State) : Prop where
  haveJobs : TasksHaveJobs state.board
  charges : ∀ entry ∈ state.books.ledger.rows, entry.kind = .buyerCharge →
    ∃ task ∈ state.board.tasks.rows, entry.taskId = some task.id ∧
      ∀ job ∈ state.board.jobs.rows, job.id = task.jobId → job.status ≠ .queued
  started : ∀ task ∈ state.board.tasks.rows, task.status.started = true →
    ∀ job ∈ state.board.jobs.rows, job.id = task.jobId → job.status ≠ .queued
  unbilled : ∀ job ∈ state.board.jobs.rows, job.status = .queued → job.actual = 0
  finished : ∀ job ∈ state.board.jobs.rows, job.status = .complete →
    ∀ task ∈ state.board.tasks.rows, task.jobId = job.id → task.status.finished = true
  premiumRow : ∀ row ∈ state.books.premiums.rows,
    state.board.jobs.Holds row.jobId fun job => job.status = .complete
  premiumDebit : ∀ jobId,
    0 < state.books.debits.countP (Debit.isPremiumOf jobId) →
      (state.books.premiums.find? jobId).isSome = true
  premiumOnce : ∀ jobId, state.books.debits.countP (Debit.isPremiumOf jobId) ≤ 1
  premiumPaid : ∀ job ∈ state.board.jobs.rows, job.status = .complete →
    0 < job.premium → (state.books.premiums.find? job.id).isSome = true
  bill : ∀ job ∈ state.board.jobs.rows, job.status.live = false →
    job.actual = state.taskCharges job.id + state.premiumCharge job.id

variable {board : Board} {job : JobRow} {s next : State}
  {task before after : TaskRow} {jobId : Uuid} {event : BoardEvent}
  {execution : Execution} {env : Env}

theorem billed_empty : Billed State.empty := by
  constructor
  case premiumDebit => exact nofun
  case premiumOnce => exact fun _ => Nat.zero_le _
  all_goals exact List.forall_mem_nil _

theorem Billed.premiumCharge_zero (billed : Billed s) (mem : job ∈ s.board.jobs.rows)
    (isLive : job.status.live = true) : s.premiumCharge job.id = 0 := by
  unfold State.premiumCharge
  cases found : s.books.premiums.find? job.id with
  | none => rfl
  | some row =>
    obtain ⟨other, otherFound, isComplete⟩ := billed.premiumRow row (mem_of_find? found)
    have sameJob : row.jobId = job.id := key_of_find? found
    have sameId := key_of_find? otherFound
    have isJob : other = job := eq_of_key (mem_of_find? otherFound) mem (sameId.trans sameJob)
    rw [isJob] at isComplete
    exact (JobStatus.ne_complete isLive isComplete).elim

theorem Billed.taskCharges_zero (billed : Billed s) (mem : job ∈ s.board.jobs.rows)
    (isQueued : job.status = .queued) : s.taskCharges job.id = 0 := by
  refine total_eq_zero ?_
  intro entry inLedger
  split_ifs with counts
  · obtain ⟨_, taskMem, ofTask, left⟩ := billed.charges entry inLedger counts.1
    have ofJob := counts.2
    rw [ofTask, Option.bind_some, jobOfTask_eq taskMem] at ofJob
    exact (left job mem (Option.some.inj ofJob).symm isQueued).elim
  · rfl

/-! ## Steps that end no job -/

abbrev Board.OffQueue (board : Board) (jobId : Uuid) : Prop :=
  ∀ job ∈ board.jobs.rows, job.id = jobId → job.status ≠ .queued

structure TaskPaced (jobs : List JobRow) (before after : TaskRow) : Prop where
  terms : after.toTaskTerms = before.toTaskTerms
  started : after.status.started = true →
    before.status.started = true ∨ ∀ job ∈ jobs, job.id = after.jobId → job.status ≠ .queued
  finished : before.status.finished = true →
    after.status.finished = true ∨ ∀ job ∈ jobs, job.id = after.jobId → job.status ≠ .complete

structure TaskNew (board : Board) (task : TaskRow) : Prop where
  status : task.status = .queued
  hasJob : (board.jobs.find? task.jobId).isSome = true
  live : ∀ job ∈ board.jobs.rows, job.id = task.jobId → job.status ≠ .complete

/-- How a job moves when it is not completed.  If it ends, or has ended, its
amount is the old one or is written from the charges. -/
structure JobPaced (state : State) (before after : JobRow) : Prop where
  terms : after.toJobTerms = before.toJobTerms
  queued : after.status = .queued → before.status = .queued ∧
    (after.actual = before.actual ∨
      after.actual = state.taskCharges before.id + state.premiumCharge before.id)
  complete : after.status = .complete ↔ before.status = .complete
  bill : after.status.live = false →
    (before.status.live = false ∧ after.actual = before.actual) ∨
      after.actual = state.taskCharges before.id + state.premiumCharge before.id
  live : after.status.live = true → before.status.live = true

structure JobNew (job : JobRow) : Prop where
  status : job.status = .queued
  actual : job.actual = 0

structure Paced (before after : State) : Prop where
  tasks : Evolves (TaskPaced after.board.jobs.rows)
    (TaskNew after.board) before.board.tasks after.board.tasks
  jobs : Evolves (JobPaced before) JobNew before.board.jobs after.board.jobs
  ledger : Evolves PayoutOnly
    (fun entry => entry.kind = .buyerCharge →
      ∃ task ∈ before.board.tasks.rows, entry.taskId = some task.id ∧
        ∀ job ∈ after.board.jobs.rows, job.id = task.jobId →
          job.status.live = true ∧ job.status ≠ .queued)
    before.books.ledger after.books.ledger
  premiums : after.books.premiums = before.books.premiums
  debits : ∀ jobId,
    after.books.debits.countP (Debit.isPremiumOf jobId) =
      before.books.debits.countP (Debit.isPremiumOf jobId)

section

variable {before after : State}

section

variable (paced : Paced before after)

include paced

theorem Paced.jobOfTask (mem : task ∈ before.board.tasks.rows) :
    after.board.jobOfTask task.id = some task.jobId :=
  jobOfTask_evolves paced.tasks (fun _ _ moved => moved.terms) mem

theorem Paced.charged {entry : Option Uuid} (mem : task ∈ before.board.tasks.rows)
    (ofTask : entry = some task.id) (left : after.board.OffQueue task.jobId) :
    ∃ task ∈ after.board.tasks.rows, entry = some task.id ∧ after.board.OffQueue task.jobId := by
  obtain ⟨row, rowMem, _, moved⟩ := paced.tasks.exists_after mem
  have sameId : row.id = task.id := congrArg TaskTerms.id moved.terms
  refine ⟨row, rowMem, ?_, ?_⟩
  · rw [sameId]
    exact ofTask
  · rw [moved.terms]
    exact left

theorem Paced.taskCharges (billed : Billed before) (mem : job ∈ after.board.jobs.rows)
    (closed : job.status.live = false ∨ job.status = .queued) :
    after.taskCharges job.id = before.taskCharges job.id := by
  refine paced.ledger.total ?_ ?_
  · intro old oldMem row only
    rw [only]
    by_cases isCharge : old.kind = .buyerCharge
    · obtain ⟨task, taskMem, ofTask, _⟩ := billed.charges old oldMem isCharge
      simp [isCharge, ofTask, paced.jobOfTask taskMem, jobOfTask_eq taskMem]
    · simp [isCharge]
  · intro row isNew
    split_ifs with counts
    · obtain ⟨task, taskMem, ofTask, live⟩ := isNew counts.1
      have ofJob := counts.2
      rw [ofTask, Option.bind_some, paced.jobOfTask taskMem] at ofJob
      have facts := live job mem (Option.some.inj ofJob).symm
      rcases closed with notLive | isQueued
      · rw [notLive] at facts
        cases facts.1
      · exact (facts.2 isQueued).elim
    · rfl

theorem Paced.premiumCharge (jobId : Uuid) :
    after.premiumCharge jobId = before.premiumCharge jobId := by
  rw [State.premiumCharge, State.premiumCharge, paced.premiums]

theorem Paced.not_queued (known : (before.board.jobs.find? jobId).isSome = true)
    (left : before.board.OffQueue jobId) : after.board.OffQueue jobId := by
  intro job mem sameId isQueued
  rcases paced.jobs.mem_cases mem with ⟨old, oldMem, oldId, moved⟩ | ⟨_, unused⟩
  · have oldId : job.id = old.id := oldId
    exact left old oldMem (oldId.symm.trans sameId) (moved.queued isQueued).1
  · obtain ⟨old, found⟩ := Option.isSome_iff_exists.mp known
    have oldId := key_of_find? found
    exact unused old (mem_of_find? found) (oldId.trans sameId.symm)

end

theorem JobPaced.exists_old (jobs : Evolves (JobPaced before) JobNew before.board.jobs board.jobs)
    (mem : job ∈ board.jobs.rows) (left : job.status ≠ .queued) :
    ∃ old ∈ before.board.jobs.rows, job.id = old.id ∧ JobPaced before old job := by
  rcases jobs.mem_cases mem with ⟨old, oldMem, sameId, moved⟩ | ⟨isNew, _⟩
  · exact ⟨old, oldMem, sameId, moved⟩
  · exact (left isNew.status).elim

theorem Billed.paced (billed : Billed before) (paced : Paced before after)
    (haveJobs : TasksHaveJobs after.board) : Billed after where
  haveJobs
  charges := by
    intro row mem isCharge
    rcases paced.ledger.mem_cases mem with ⟨old, oldMem, _, only⟩ | ⟨isNew, _⟩
    · rw [PayoutOnly] at only
      rw [only] at isCharge ⊢
      obtain ⟨task, taskMem, ofTask, left⟩ := billed.charges old oldMem isCharge
      exact paced.charged taskMem ofTask
        (paced.not_queued (billed.haveJobs task taskMem) left)
    · obtain ⟨task, taskMem, ofTask, live⟩ := isNew isCharge
      exact paced.charged taskMem ofTask fun job jobMem sameJob =>
        (live job jobMem sameJob).2
  started := by
    intro row mem isStarted
    rcases paced.tasks.mem_cases mem with ⟨old, oldMem, _, moved⟩ | ⟨isNew, _⟩
    · rcases moved.started isStarted with wasStarted | left
      · rw [moved.terms]
        exact paced.not_queued (billed.haveJobs old oldMem)
          (billed.started old oldMem wasStarted)
      · exact left
    · rw [isNew.status] at isStarted
      cases isStarted
  unbilled := by
    intro job mem isQueued
    rcases paced.jobs.mem_cases mem with ⟨old, oldMem, _, moved⟩ | ⟨isNew, _⟩
    · obtain ⟨wasQueued, same | written⟩ := moved.queued isQueued
      · rw [same]
        exact billed.unbilled old oldMem wasQueued
      · rw [written, billed.taskCharges_zero oldMem wasQueued,
          billed.premiumCharge_zero oldMem (by rw [wasQueued]; rfl)]
        rfl
    · exact isNew.actual
  finished := by
    intro job mem isComplete row rowMem ofJob
    obtain ⟨oldJob, oldJobMem, oldId, jobMoved⟩ :=
      JobPaced.exists_old paced.jobs mem (by simp [isComplete])
    have wasComplete := jobMoved.complete.mp isComplete
    rcases paced.tasks.mem_cases rowMem with ⟨old, oldMem, _, moved⟩ | ⟨isNew, _⟩
    · have oldOfJob : old.jobId = oldJob.id := by rw [← oldId, ← ofJob, moved.terms]
      have wasFinished := billed.finished oldJob oldJobMem wasComplete old oldMem oldOfJob
      rcases moved.finished wasFinished with stays | notComplete
      · exact stays
      · exact (notComplete job mem ofJob.symm isComplete).elim
    · exact (isNew.live job mem ofJob.symm isComplete).elim
  premiumRow := by
    intro row mem
    rw [paced.premiums] at mem
    obtain ⟨job, found, isComplete⟩ := billed.premiumRow row mem
    obtain ⟨next, nextFound, moved⟩ := paced.jobs.find?_after found
    exact ⟨next, nextFound, moved.complete.mpr isComplete⟩
  premiumDebit := by
    intro jobId some
    rw [paced.debits] at some
    rw [paced.premiums]
    exact billed.premiumDebit jobId some
  premiumOnce := by
    intro jobId
    rw [paced.debits]
    exact billed.premiumOnce jobId
  premiumPaid := by
    intro job mem isComplete owed
    rw [paced.premiums]
    obtain ⟨old, oldMem, _, moved⟩ := JobPaced.exists_old paced.jobs mem (by simp [isComplete])
    rw [moved.terms] at owed ⊢
    exact billed.premiumPaid old oldMem (moved.complete.mp isComplete) owed
  bill := by
    intro job mem ended
    rw [paced.taskCharges billed mem (.inl ended), paced.premiumCharge]
    have left : job.status ≠ .queued := by
      intro isQueued
      rw [isQueued] at ended
      cases ended
    obtain ⟨old, oldMem, _, moved⟩ := JobPaced.exists_old paced.jobs mem left
    rw [moved.terms]
    rcases moved.bill ended with ⟨wasEnded, same⟩ | written
    · rw [same]
      exact billed.bill old oldMem wasEnded
    · exact written

end

/-! ## The guard -/

/-- A stuck job is cancelled with its amount up to date, and no task of a
complete job is put back. -/
def BillGuard (state : State) : Event → Prop
  | .board (.cancelStuck jobId) =>
    ∀ job ∈ state.board.jobs.find? jobId, job.status = .running →
      job.actual = state.taskCharges jobId
  | .board (.requeue taskId) =>
    ∀ task ∈ state.board.tasks.find? taskId,
      ∀ job ∈ state.board.jobs.find? task.jobId, job.status ≠ .complete
  | _ => True

/-! ## Events of the board -/

theorem JobPaced.refl (s : State) (job : JobRow) : JobPaced s job job :=
  ⟨rfl, fun isQueued => ⟨isQueued, .inl rfl⟩, Iff.rfl, fun ended => .inl ⟨ended, rfl⟩, id⟩

theorem TaskPaced.refl (jobs : List JobRow) (task : TaskRow) : TaskPaced jobs task task :=
  ⟨rfl, .inl, .inl⟩

theorem Paced.of_books {before after : State} (books : after.books = before.books)
    (tasks : Evolves (TaskPaced after.board.jobs.rows) (TaskNew after.board)
      before.board.tasks after.board.tasks)
    (jobs : Evolves (JobPaced before) JobNew before.board.jobs after.board.jobs) :
    Paced before after where
  tasks
  jobs
  ledger := by
    rw [books]
    exact .refl PayoutOnly.refl _
  premiums := by rw [books]
  debits := by
    rw [books]
    exact fun _ => rfl

theorem JobPaced.ofEnded {before after : JobRow} (terms : after.toJobTerms = before.toJobTerms)
    (ended : after.status = .failed ∨ after.status = .cancelled)
    (wasLive : before.status.live = true)
    (written : after.actual = s.taskCharges before.id + s.premiumCharge before.id) :
    JobPaced s before after := by
  refine ⟨terms, ?_, ?_, fun _ => .inr written, fun _ => wasLive⟩
  all_goals
    rcases ended with status | status
    all_goals simp [status, JobStatus.ne_complete wasLive]

theorem JobMove.paced {before after : JobRow} (billed : Billed s)
    (guarded : BillGuard s (.board event)) (mem : before ∈ s.board.jobs.rows)
    (move : JobMove s event before after) : JobPaced s before after := by
  have premiumZero : before.status.live = true → s.premiumCharge before.id = 0 :=
    billed.premiumCharge_zero mem
  cases move with
  | kept same =>
    rw [same]
    exact .refl s before
  | goesOn moves =>
    refine ⟨moves.terms, ?_, ?_, ?_, fun _ => moves.wasLive⟩
    · intro isQueued
      refine ⟨?_, .inl moves.actual⟩
      by_contra notQueued
      exact moves.leaves notQueued isQueued
    · exact iff_of_false (JobStatus.ne_complete moves.isLive) (JobStatus.ne_complete moves.wasLive)
    · intro ended
      rw [moves.isLive] at ended
      cases ended
  | failed wasLive same =>
    rw [same]
    refine .ofEnded rfl (.inl rfl) wasLive ?_
    rw [premiumZero wasLive]
    simp
  | cancelled wasQueued same =>
    have wasLive : before.status.live = true := by
      rw [wasQueued]
      rfl
    rw [same]
    refine .ofEnded rfl (.inr rfl) wasLive ?_
    rw [premiumZero wasLive, billed.taskCharges_zero mem wasQueued]
    exact billed.unbilled before mem wasQueued
  | stuck isEvent wasRunning same =>
    subst isEvent
    have wasLive : before.status.live = true := by
      rw [wasRunning]
      rfl
    have upToDate : before.actual = s.taskCharges before.id :=
      guarded before (find?_of_mem mem) wasRunning
    rw [same]
    refine .ofEnded rfl (.inr rfl) wasLive ?_
    rw [premiumZero wasLive]
    simp [upToDate]
  | billed _ same =>
    rw [same]
    exact ⟨rfl, fun isQueued => ⟨isQueued, .inr rfl⟩, Iff.rfl, fun _ => .inr rfl, id⟩

theorem moveJob_not_queued {next : Board} (ran : board.moveJob jobId .queued .running = .ok next) :
    next.OffQueue jobId := by
  obtain ⟨_, rfl⟩ := Board.updateJobs_ok ran
  intro job mem sameId isQueued
  obtain ⟨old, _, same⟩ := mem_update.mp mem
  by_cases selected : old.id = jobId ∧ old.status = .queued
  · rw [if_pos (by simp [selected])] at same
    rw [same] at isQueued
    cases isQueued
  · rw [if_neg (by simpa using selected)] at same
    subst same
    exact selected ⟨sameId, isQueued⟩

theorem dispatch_not_queued {next : Board} (ran : board.dispatch task execution = .ok next) :
    next.OffQueue task.jobId := by
  obtain ⟨_, _, moved⟩ := bind_eq_ok.mp ran
  exact moveJob_not_queued moved

theorem TaskMove.dispatched_not_queued (mem : before ∈ s.board.tasks.rows)
    (isEvent : event = .claim before.id execution ∨
      event = .start before.id before.attempt execution)
    (ran : boardStep s event = .ok board) : board.OffQueue before.jobId := by
  have isTask := find?_of_mem mem
  rcases isEvent with rfl | rfl
  · obtain ⟨task, job, found, _, _, _, _, dispatched, _⟩ := claimTask_ok ran
    obtain rfl := Option.mem_unique found isTask
    exact dispatch_not_queued dispatched
  · obtain ⟨task, job, found, _, _, _, _, started⟩ := startTask_ok ran
    obtain rfl := Option.mem_unique found isTask
    rcases started with ⟨_, moved⟩ | ⟨_, _, dispatched⟩
    · exact moveJob_not_queued moved
    · exact dispatch_not_queued dispatched

theorem Requeues.not_started (requeues : Requeues before after) : after.status.started = false := by
  rcases requeues.status with status | status
  all_goals
    rw [status]
    rfl

theorem Closes.not_started (closes : Closes before after) : after.status.started = false := by
  rcases closes.status with status | status
  all_goals
    rw [status]
    rfl

theorem TaskPaced.of_not_started {jobs : List JobRow}
    (terms : after.toTaskTerms = before.toTaskTerms) (notStarted : after.status.started = false)
    (finished : before.status.finished = true →
      after.status.finished = true ∨ ∀ job ∈ jobs, job.id = after.jobId → job.status ≠ .complete) :
    TaskPaced jobs before after := by
  refine ⟨terms, ?_, finished⟩
  intro isStarted
  rw [notStarted] at isStarted
  cases isStarted

theorem Closes.paced {jobs : List JobRow} (closes : Closes before after) :
    TaskPaced jobs before after := by
  refine .of_not_started closes.terms closes.not_started fun _ => .inl ?_
  rcases closes.status with status | status
  all_goals
    rw [status]
    rfl

theorem TaskMove.paced (guarded : BillGuard s (.board event))
    (jobs : Evolves (JobPaced s) JobNew s.board.jobs board.jobs)
    (ran : boardStep s event = .ok board) (mem : before ∈ s.board.tasks.rows)
    (move : TaskMove event before after) : TaskPaced board.jobs.rows before after := by
  cases move with
  | kept same | repinned _ _ _ _ _ _ same =>
    rw [same]
    exact ⟨rfl, .inl, .inl⟩
  | claimed execution isEvent waiting _ same =>
    rw [same]
    have left := TaskMove.dispatched_not_queued mem (.inl isEvent) ran
    refine ⟨rfl, fun _ => .inr left, fun isFinished => ?_⟩
    rcases waiting with status | status
    all_goals
      rw [status] at isFinished
      cases isFinished
  | started execution isEvent waiting _ _ same =>
    rw [same]
    have left := TaskMove.dispatched_not_queued mem (.inr isEvent) ran
    refine ⟨rfl, fun _ => .inr left, fun isFinished => ?_⟩
    rw [waiting] at isFinished
    cases isFinished
  | requeued isOpen requeues =>
    refine .of_not_started requeues.terms requeues.not_started fun isFinished => ?_
    cases status : before.status <;> simp_all [TaskStatus.beforeCommit, TaskStatus.finished]
  | reconciled _ verifying requeues =>
    refine .of_not_started requeues.terms requeues.not_started fun isFinished => ?_
    rw [verifying] at isFinished
    cases isFinished
  | reopened isEvent requeues =>
    refine .of_not_started requeues.terms requeues.not_started fun _ => .inr ?_
    subst isEvent
    intro job jobMem sameId isComplete
    rw [requeues.terms] at sameId
    obtain ⟨old, oldMem, oldId, moved⟩ := JobPaced.exists_old jobs jobMem (by simp [isComplete])
    have oldFound : s.board.jobs.find? before.jobId = some old :=
      find?_eq_some.mpr ⟨oldMem, oldId.symm.trans sameId⟩
    exact guarded before (find?_of_mem mem) old oldFound (moved.complete.mp isComplete)
  | closed _ closes => exact closes.paced

theorem boardStep_paced (billed : Billed s) (guarded : BillGuard s (.board event))
    (ran : boardStep s event = .ok board) : Paced s { s with board := board } := by
  have moves := boardStep_moves ran
  have jobs : Evolves (JobPaced s) JobNew s.board.jobs board.jobs := by
    refine moves.jobs.mono (fun old mem row move => move.paced billed guarded mem) ?_
    rintro row ⟨terms, tasks, _, rfl⟩
    exact ⟨rfl, rfl⟩
  refine .of_books rfl ?_ jobs
  refine moves.tasks.mono (fun old mem row move => move.paced guarded jobs ran mem) ?_
  intro row opened
  cases opened with
  | submitted terms tasks spec isEvent _ same =>
    subst isEvent
    have inserted : (board.jobs.find? terms.id).isSome = true := submitJob_job ran
    rw [same]
    refine ⟨rfl, inserted, ?_⟩
    intro job jobMem sameId isComplete
    obtain ⟨old, oldMem, oldId, _⟩ := JobPaced.exists_old jobs jobMem (by simp [isComplete])
    obtain ⟨_, fresh, _⟩ := submitJob_ok ran
    exact key_ne_of_find?_none fresh oldMem (oldId.symm.trans sameId)
  | hedge _ _ job _ _ _ jobFound jobLive same | tiebreak _ _ job _ _ jobFound jobLive same =>
    obtain ⟨next, nextFound, moved⟩ := jobs.find?_after jobFound
    rw [same]
    refine ⟨rfl, Option.isSome_iff_exists.mpr ⟨next, nextFound⟩, ?_⟩
    intro other otherMem sameId isComplete
    obtain rfl := Option.mem_unique (find?_eq_some.mpr ⟨otherMem, sameId⟩) nextFound
    exact JobStatus.ne_complete jobLive (moved.complete.mp isComplete)

/-! ## Commits, pins and applies -/

theorem Paced.of_eq {before after : State} (board : after.board = before.board)
    (books : after.books = before.books) : Paced before after := by
  refine .of_books books ?_ ?_
  · rw [board]
    exact .refl (TaskPaced.refl _) _
  · rw [board]
    exact .refl (JobPaced.refl before) _

variable {info : CommitTaskInfo} {lease : VerificationLease} {work : WorkRow}
  {plan : VerificationWorkPlan}

theorem Commits.paced {taskId workerId : Uuid} {attempt : Nat} {commit : TaskCommit}
    (commits : Commits s taskId workerId attempt commit task job execution info next) :
    Paced s next := by
  refine .of_books commits.books ?_ ?_
  · refine commits.tasks_evolve.relax ?_
    rintro old _ row (rfl | ⟨rfl, rfl⟩)
    · exact .refl _ _
    · refine ⟨(TaskRow.committed workerId commit).kept _, ?_, ?_⟩
      · intro _
        refine .inl ?_
        rcases commits.status with status | status
        all_goals
          rw [status]
          rfl
      · intro isFinished
        rcases commits.status with status | status
        all_goals
          rw [status] at isFinished
          cases isFinished
  · refine commits.jobs.relax ?_
    rintro old _ row (rfl | ⟨wasActive, rfl⟩)
    · exact .refl _ _
    · refine ⟨rfl, ?_, ?_, ?_, ?_⟩
      · intro isQueued
        cases isQueued
      · refine iff_of_false (by simp [committedJob]) ?_
        intro wasComplete
        rw [wasComplete] at wasActive
        simp at wasActive
      · intro ended
        cases ended
      intro _
      rcases wasActive with status | status
      all_goals
        rw [status]
        rfl

theorem Pins.paced {kind : ArtifactKind} {body : Bytes}
    (pins : Pins s lease kind body work task next) : Paced s next := by
  refine .of_books pins.books ?_ ?_
  · refine pins.tasks_evolve.relax ?_
    rintro old _ row (rfl | ⟨rfl, rfl⟩)
    · exact .refl _ _
    · exact ⟨rfl, .inl, .inl⟩
  · rw [pins.jobs]
    exact .refl (JobPaced.refl s) _

theorem JobApplied.paced {before after : JobRow}
    (applied : JobApplied before after) : JobPaced s before after := by
  refine ⟨applied.terms, ?_, ?_, ?_, fun isLive => applied.live ▸ isLive⟩
  · intro isQueued
    rcases applied.status with same | ⟨_, isRunning⟩
    · exact ⟨same ▸ isQueued, .inl applied.actual⟩
    · rw [isQueued] at isRunning
      cases isRunning
  · rcases applied.status with same | ⟨wasVerifying, isRunning⟩
    · rw [same]
    · rw [wasVerifying, isRunning]
      simp
  · intro ended
    rw [applied.live] at ended
    exact .inl ⟨ended, applied.actual⟩

theorem isVerifying_task {row : TaskRow} (verifying : row.isVerifying info = true) :
    row.id = info.taskId ∧ row.status = .verifying := by
  simp only [TaskRow.isVerifying, Bool.and_eq_true, decide_eq_true_eq] at verifying
  exact ⟨verifying.1.1.1, verifying.1.1.2⟩

theorem ApplyMove.paced {now : Nat} (jobs : List JobRow)
    (move : ApplyMove now task info plan before after) : TaskPaced jobs before after := by
  cases move with
  | outcome _ only =>
    refine ⟨only.terms, fun isStarted => .inl ?_, fun isFinished => .inl ?_⟩
    · rw [only.status] at isStarted
      exact isStarted
    · rw [only.status]
      exact isFinished
  | rejected _ verifying requeues =>
    refine .of_not_started requeues.terms requeues.not_started fun isFinished => ?_
    rw [(isVerifying_task verifying).2] at isFinished
    cases isFinished
  | completed _ verifying same =>
    rw [same]
    refine ⟨rfl, fun _ => .inl ?_, fun _ => .inl rfl⟩
    rw [(isVerifying_task verifying).2]
    rfl
  | cancelled _ _ closes => exact closes.paced

theorem Applied.paced (billed : Billed s) (applies : Applies env s lease plan work task job)
    (applied : Applied s plan work task next) : Paced s next := by
  have isVerifying := (isVerifying_task applies.verifying).2
  have taskMem := mem_of_find? applies.taskFound
  have jobId := key_of_find? applies.jobFound
  have wasStarted : job.status ≠ .queued :=
    billed.started task taskMem (by rw [isVerifying]; rfl) job (mem_of_find? applies.jobFound)
      (jobId.trans applies.sameJob.symm)
  have liveJob : ∀ row ∈ next.board.jobs.rows, row.id = work.info.jobId →
      row.status.live = true ∧ row.status ≠ .queued := by
    intro row mem sameId
    obtain ⟨after, afterFound, moved⟩ := applied.jobs.find?_after applies.jobFound
    have found : next.board.jobs.find? work.info.jobId = some row := find?_eq_some.mpr ⟨mem, sameId⟩
    obtain rfl := Option.mem_unique found afterFound
    refine ⟨by rw [moved.live]; exact applies.jobLive, ?_⟩
    intro isQueued
    rcases moved.status with same | ⟨_, isRunning⟩
    · exact wasStarted (same ▸ isQueued)
    · rw [isQueued] at isRunning
      cases isRunning
  refine
    { tasks := ?_
      jobs := applied.jobs.relax (fun _ _ _ moved => moved.paced)
      ledger := ?_
      premiums := applied.premiums
      debits := ?_ }
  · refine applied.tasks.mono (fun _ _ _ move => move.paced _) ?_
    intro row tiebreak
    have ofJob : row.jobId = work.info.jobId := congrArg TaskTerms.jobId tiebreak.terms
    obtain ⟨after, afterFound, _⟩ := applied.jobs.find?_after applies.jobFound
    refine ⟨tiebreak.status, ?_, ?_⟩
    · rw [ofJob, afterFound]
      rfl
    · intro other otherMem sameId
      exact JobStatus.ne_complete (liveJob other otherMem (sameId.trans ofJob)).1
  · refine applied.ledger.mono (fun _ _ _ only => only) ?_
    intro entry isNew isCharge
    rcases isNew with isClawback | settled
    · rw [isClawback] at isCharge
      cases isCharge
    have taskId := key_of_find? applies.taskFound
    refine ⟨task, taskMem, ?_, ?_⟩
    · rw [taskId_of_shape applies.shape entry settled, ← taskId]
    · rw [applies.sameJob]
      exact liveJob
  · intro jobId
    obtain ⟨debits, same, areTasks⟩ := applied.debits
    have none : debits.countP (Debit.isPremiumOf jobId) = 0 := by
      refine List.countP_eq_zero.mpr ?_
      intro debit mem
      obtain ⟨_, rfl⟩ := areTasks debit mem
      simp [Debit.isPremiumOf]
    rw [same, List.countP_append, none, Nat.add_zero]

/-! ## Completion -/

section

variable (finalizes : Finalizes s jobId job next)

include finalizes

theorem Finalizes.books_cases : (next.books = s.books ∧
        (0 < job.premium → (s.books.premiums.find? job.id).isSome = true)) ∨
      ∃ fresh : s.books.premiums.find? job.id = none, 0 < job.premium ∧ next.books =
            { s.books with
              premiums := s.books.premiums.insert { jobId := job.id, amount := job.premium } fresh
              debits := if job.prepaidRequired then s.books.debits ++ [.premium job.id job.premium]
                else s.books.debits } := by
  rw [finalizes.books, chargePremium]
  split
  next free => exact .inl ⟨rfl, fun owed => by omega⟩
  next owed =>
    split
    next refused =>
      refine .inl ⟨rfl, fun _ => ?_⟩
      by_contra absent
      rw [Bool.not_eq_true, Option.isSome_eq_false_iff, Option.isNone_iff_eq_none] at absent
      cases refused.symm.trans (insertNew_eq_some.mpr ⟨absent, rfl⟩)
    next inserted =>
      obtain ⟨fresh, rfl⟩ := insertNew_eq_some.mp inserted
      exact .inr ⟨fresh, by omega, rfl⟩

theorem Finalizes.mem_cases {row : JobRow} (mem : row ∈ next.board.jobs.rows) :
    (row ∈ s.board.jobs.rows ∧ row.id ≠ job.id) ∨
      (row.id = job.id ∧ row.status = .complete ∧ row.premium = job.premium ∧ row.actual =
          { s with books := next.books }.taskCharges job.id +
            { s with books := next.books }.premiumCharge job.id) := by
  have isJob := key_of_find? finalizes.jobFound
  rw [finalizes.jobs] at mem
  obtain ⟨old, oldMem, same⟩ := mem_update.mp mem
  by_cases selected : old.id = jobId
  · rw [if_pos (decide_eq_true selected)] at same
    have oldIsJob : old = job :=
      eq_of_key oldMem (mem_of_find? finalizes.jobFound) (selected.trans isJob.symm)
    rw [same, oldIsJob, isJob]
    exact .inr ⟨isJob, rfl, rfl, rfl⟩
  · rw [if_neg (by simp [selected])] at same
    rw [same]
    refine .inl ⟨oldMem, ?_⟩
    intro sameId
    exact selected (sameId.trans isJob)

theorem Finalizes.mem_of_queued {row : JobRow} (mem : row ∈ next.board.jobs.rows)
    (isQueued : row.status = .queued) : row ∈ s.board.jobs.rows := by
  rcases finalizes.mem_cases mem with ⟨old, _⟩ | ⟨_, isComplete, _⟩
  · exact old
  · rw [isQueued] at isComplete
    cases isComplete

theorem Finalizes.ledger : next.books.ledger = s.books.ledger := by
  rw [finalizes.books, chargePremium_frame]

theorem Finalizes.jobOfTask : next.board.jobOfTask = s.board.jobOfTask := by
  funext taskId
  rw [Board.jobOfTask, Board.jobOfTask, finalizes.tasks]

theorem Finalizes.taskCharges (other : Uuid) : next.taskCharges other = s.taskCharges other := by
  rw [State.taskCharges, State.taskCharges, finalizes.ledger, finalizes.jobOfTask]

theorem Finalizes.premiumCharge {other : Uuid} (ne : other ≠ job.id) :
    next.premiumCharge other = s.premiumCharge other := by
  rw [State.premiumCharge, State.premiumCharge]
  rcases finalizes.books_cases with ⟨same, _⟩ | ⟨fresh, _, same⟩
  · rw [same]
  · rw [same, find?_insert, if_neg (Ne.symm ne)]

theorem Finalizes.premiums_cases : ∀ row ∈ next.books.premiums.rows,
    row ∈ s.books.premiums.rows ∨ row = { jobId := job.id, amount := job.premium } := by
  rcases finalizes.books_cases with ⟨same, _⟩ | ⟨fresh, _, same⟩
  · rw [same]
    exact fun _ => .inl
  · rw [same]
    exact forall_insert fresh (fun _ => .inl) (.inr rfl)

theorem Finalizes.premium_known {other : Uuid}
    (known : (s.books.premiums.find? other).isSome = true) :
    (next.books.premiums.find? other).isSome = true := by
  rcases finalizes.books_cases with ⟨same, _⟩ | ⟨fresh, _, same⟩
  · rw [same]
    exact known
  · rw [same]
    exact (isSome_find?_insert fresh).mpr (.inr known)

/-- The completion debits the premium of the job at most, and only if it has
not been charged. -/
theorem Finalizes.debits (other : Uuid) : next.books.debits.countP (Debit.isPremiumOf other) =
        s.books.debits.countP (Debit.isPremiumOf other) ∨
      (other = job.id ∧ s.books.premiums.find? other = none ∧
        (next.books.premiums.find? other).isSome = true ∧
        next.books.debits.countP (Debit.isPremiumOf other) =
          s.books.debits.countP (Debit.isPremiumOf other) + 1) := by
  rcases finalizes.books_cases with ⟨same, _⟩ | ⟨fresh, _, same⟩
  · rw [same]
    exact .inl rfl
  · rw [same]
    by_cases prepaid : job.prepaidRequired = true
    · rw [if_pos prepaid, List.countP_append]
      by_cases isJob : other = job.id
      · subst isJob
        refine .inr ⟨rfl, fresh, ?_, ?_⟩
        · rw [find?_insert_self]
          rfl
        · simp [Debit.isPremiumOf]
      · left
        simp [Debit.isPremiumOf, Ne.symm isJob]
    · rw [if_neg prepaid]
      exact .inl rfl

theorem Finalizes.finished (billed : Billed s) (mem : task ∈ s.board.tasks.rows)
    (ofJob : task.jobId = job.id) : task.status.finished = true := by
  have jobMem := mem_of_find? finalizes.jobFound
  rcases finalizes.ready with isComplete | ⟨_, finalizable⟩
  · exact billed.finished job jobMem isComplete task mem ofJob
  · simp only [State.finalizable, Bool.and_eq_true, List.all_eq_true,
      Bool.or_eq_true, decide_eq_true_eq] at finalizable
    rcases finalizable.1.2 task mem with (notOfJob | isComplete) | isFailed
    · exact (notOfJob ofJob).elim
    · rw [isComplete]
      rfl
    · rw [isFailed]
      rfl

theorem Finalizes.billed (billed : Billed s) (haveJobs : TasksHaveJobs next.board) :
    Billed next where
  haveJobs
  charges := by
    intro entry mem isCharge
    rw [finalizes.ledger] at mem
    rw [finalizes.tasks]
    obtain ⟨task, taskMem, ofTask, left⟩ := billed.charges entry mem isCharge
    refine ⟨task, taskMem, ofTask, ?_⟩
    intro row rowMem sameId isQueued
    exact left row (finalizes.mem_of_queued rowMem isQueued) sameId isQueued
  started := by
    intro task mem isStarted row rowMem sameId isQueued
    rw [finalizes.tasks] at mem
    exact billed.started task mem isStarted row (finalizes.mem_of_queued rowMem isQueued)
      sameId isQueued
  unbilled := by
    intro row mem isQueued
    exact billed.unbilled row (finalizes.mem_of_queued mem isQueued) isQueued
  finished := by
    intro row mem isComplete task taskMem ofJob
    rw [finalizes.tasks] at taskMem
    rcases finalizes.mem_cases mem with ⟨old, _⟩ | ⟨isJob, _⟩
    · exact billed.finished row old isComplete task taskMem ofJob
    · exact finalizes.finished billed taskMem (ofJob.trans isJob)
  premiumRow := by
    intro row mem
    have completed : ∀ old, s.board.jobs.find? row.jobId = some old →
        (old.id = job.id ∨ old.status = .complete) →
          next.board.jobs.Holds row.jobId fun job => job.status = .complete := by
      intro old found ready
      obtain ⟨after, afterFound, _⟩ := finalizes.jobs_evolve.find?_after found
      refine ⟨after, afterFound, ?_⟩
      have afterId := key_of_find? afterFound
      have oldId := key_of_find? found
      rcases finalizes.mem_cases (mem_of_find? afterFound) with
        ⟨same, ne⟩ | ⟨_, isComplete, _⟩
      · have isOld : after = old := eq_of_key same (mem_of_find? found) (afterId.trans oldId.symm)
        rw [isOld] at ne ⊢
        rcases ready with isJob | isComplete
        · exact (ne isJob).elim
        · exact isComplete
      · exact isComplete
    rcases finalizes.premiums_cases row mem with old | rfl
    · obtain ⟨other, found, isComplete⟩ := billed.premiumRow row old
      exact completed other found (.inr isComplete)
    · have found : s.board.jobs.find? job.id = some job :=
        find?_eq_some.mpr ⟨mem_of_find? finalizes.jobFound, rfl⟩
      exact completed job found (.inl rfl)
  premiumDebit := by
    intro other some
    rcases finalizes.debits other with same | ⟨_, _, known, _⟩
    · rw [same] at some
      exact finalizes.premium_known (billed.premiumDebit other some)
    · exact known
  premiumOnce := by
    intro other
    have once := billed.premiumOnce other
    rcases finalizes.debits other with same | ⟨_, absent, _, oneMore⟩
    · rw [same]
      exact once
    · -- a debit would have come with a premium row
      have none : ¬ 0 < s.books.debits.countP (Debit.isPremiumOf other) := by
        intro some
        have known := billed.premiumDebit other some
        rw [absent] at known
        cases known
      omega
  premiumPaid := by
    intro row mem isComplete owed
    rcases finalizes.mem_cases mem with ⟨old, _⟩ | ⟨isJob, _, samePremium, _⟩
    · exact finalizes.premium_known (billed.premiumPaid row old isComplete owed)
    · rw [isJob]
      rw [samePremium] at owed
      rcases finalizes.books_cases with ⟨same, charged⟩ | ⟨fresh, _, same⟩
      · rw [same]
        exact charged owed
      · rw [same, find?_insert_self]
        rfl
  bill := by
    intro row mem ended
    rcases finalizes.mem_cases mem with ⟨old, ne⟩ | ⟨isJob, _, _, written⟩
    · rw [finalizes.taskCharges, finalizes.premiumCharge ne]
      exact billed.bill row old ended
    · have sameCharges :
          { s with books := next.books }.taskCharges job.id = next.taskCharges job.id := by
        rw [State.taskCharges, State.taskCharges, finalizes.jobOfTask]
      rw [written, sameCharges, isJob]
      rfl

theorem Finalizes.premiums_frozen (billed : Billed s) {ended : JobRow}
    (mem : ended ∈ s.board.jobs.rows) (notLive : ended.status.live = false) :
    next.books.premiums.find? ended.id = s.books.premiums.find? ended.id := by
  rcases finalizes.books_cases with ⟨same, _⟩ | ⟨fresh, owed, same⟩
  · rw [same]
  · have ne : job.id ≠ ended.id := by
      intro sameId
      have jobMem := mem_of_find? finalizes.jobFound
      have isJob := eq_of_key jobMem mem sameId
      subst isJob
      rcases finalizes.ready with isComplete | ⟨active, _⟩
      · have known := billed.premiumPaid job mem isComplete owed
        rw [fresh] at known
        cases known
      · rcases active with status | status
        all_goals
          rw [status] at notLive
          cases notLive
    rw [same, find?_insert, if_neg ne]

end

/-! ## Steps and runs -/

theorem step_paced {event : Event} (billed : Billed s)
    (guarded : BillGuard s event) (ran : step env s event = .ok next) :
    Paced s next ∨ ∃ jobId job, Finalizes s jobId job next := by
  cases step_steps ran with
  | rests _ board books => exact .inl (.of_eq board books)
  | board moved => exact .inl (boardStep_paced billed guarded moved)
  | commit commits => exact .inl commits.paced
  | pin pins => exact .inl pins.paced
  | apply applies carried => exact .inl ((carryOut_applied applies carried).paced billed applies)
  | finalize finalizes => exact .inr ⟨_, _, finalizes⟩

theorem billed_step (s : State) (event : Event) (next : State) (billed : Billed s)
    (guarded : BillGuard s event) (ran : step env s event = .ok next) : Billed next := by
  rcases step_paced billed guarded ran with paced | ⟨jobId, job, finalizes⟩
  · exact billed.paced paced (billed.haveJobs.step ran)
  · exact finalizes.billed billed (billed.haveJobs.step ran)

structure BillSound (state : State) : Prop where
  finished : ∀ job ∈ state.board.jobs.rows, job.status = .complete →
    ∀ task ∈ state.board.tasks.rows, task.jobId = job.id → task.status.finished = true
  chargedOnce : ∀ row ∈ state.books.premiums.rows,
    ∀ other ∈ state.books.premiums.rows, row.jobId = other.jobId → row = other
  charged : ∀ row ∈ state.books.premiums.rows,
    state.board.jobs.Holds row.jobId fun job => job.status = .complete
  debitedOnce : ∀ jobId, state.books.debits.countP (Debit.isPremiumOf jobId) ≤ 1
  debited : ∀ jobId,
    0 < state.books.debits.countP (Debit.isPremiumOf jobId) →
      state.board.jobs.Holds jobId fun job => job.status = .complete
  bill : ∀ job ∈ state.board.jobs.rows, job.status.live = false →
    job.actual = state.taskCharges job.id + state.premiumCharge job.id

theorem Billed.sound (billed : Billed s) : BillSound s where
  finished := billed.finished
  chargedOnce := by
    intro row mem other otherMem sameJob
    exact eq_of_key mem otherMem sameJob
  charged := billed.premiumRow
  debitedOnce := billed.premiumOnce
  debited := by
    intro jobId some
    obtain ⟨row, found⟩ := Option.isSome_iff_exists.mp (billed.premiumDebit jobId some)
    have ofJob : row.jobId = jobId := key_of_find? found
    rw [← ofJob]
    exact billed.premiumRow row (mem_of_find? found)
  bill := billed.bill

structure ChargesFrozen (state next : State) : Prop where
  tasks : ∀ job ∈ state.board.jobs.rows, job.status.live = false →
    ∀ entry ∈ next.books.ledger.rows, entry.kind = .buyerCharge →
      entry.taskId.bind next.board.jobOfTask = some job.id →
        ∃ old ∈ state.books.ledger.rows, PayoutOnly old entry
  premium : ∀ job ∈ state.board.jobs.rows, job.status.live = false →
    next.books.premiums.find? job.id = state.books.premiums.find? job.id

theorem Paced.frozen {before after : State} (paced : Paced before after) :
    ChargesFrozen before after where
  tasks := by
    intro job mem notLive entry inLedger isCharge ofJob
    rcases paced.ledger.mem_cases inLedger with ⟨old, oldMem, _, only⟩ | ⟨isNew, _⟩
    · exact ⟨old, oldMem, only⟩
    · obtain ⟨_, taskMem, ofTask, live⟩ := isNew isCharge
      rw [ofTask, Option.bind_some, paced.jobOfTask taskMem] at ofJob
      obtain ⟨row, rowMem, sameId, moved⟩ := paced.jobs.exists_after mem
      have sameId : row.id = job.id := sameId
      have isLive := moved.live (live row rowMem (sameId.trans (Option.some.inj ofJob).symm)).1
      rw [notLive] at isLive
      cases isLive
  premium := by
    intro job _ _
    rw [paced.premiums]

theorem Finalizes.frozen (finalizes : Finalizes s jobId job next) (billed : Billed s) :
    ChargesFrozen s next where
  tasks := by
    intro _ _ _ entry inLedger _ _
    rw [finalizes.ledger] at inLedger
    exact ⟨entry, inLedger, .refl entry⟩
  premium := fun _ mem notLive => finalizes.premiums_frozen billed mem notLive

theorem charges_frozen {event : Event} (billed : Billed s) (guarded : BillGuard s event) :
    ChargesFrozen s (apply (step env) s event) := by
  refine apply_of_committed (Paced.of_eq rfl rfl).frozen ?_
  intro next ran
  rcases step_paced billed guarded ran with paced | ⟨jobId, job, finalizes⟩
  · exact paced.frozen
  · exact finalizes.frozen billed

/-- In every run that keeps to the guard, the bill of a job that has ended is
its ledger, and stays it. -/
theorem ended_jobs_billed (env : Env) (events : List Event)
    (guarded : Meets (step env) BillGuard State.empty events) :
    Always (step env) BillSound State.empty events ∧
      Meets (step env)
        (fun state event => ChargesFrozen state (apply (step env) state event))
        State.empty events :=
  ⟨always_of_guarded billed_step (fun _ billed => billed.sound) billed_empty guarded,
    meets_of_guarded billed_step (fun _ _ billed guard => charges_frozen billed guard) billed_empty
      guarded⟩

/-! ## Runs -/

instance (state : State) (event : Event) : Decidable (BillGuard state event) := by
  unfold BillGuard
  split <;> infer_instance

def premiumJob : JobTerms := { usdJob with prepaidRequired := true, premium := 30 }

def oneAccepted (terms : JobTerms) : List Event :=
  submitted terms :: workedBy (workerOf 3 4) 1 0 ++
    verifiedAs (1, 0) 4 0 [7] .pass [.dockReputation 4 .taskSuccess]

def completed (terms : JobTerms) : List Event :=
  oneAccepted terms ++ workedBy (workerOf 15 16) 5 0 ++
    verifiedAs (5, 0) 16 1 [7] .pass (matching 5 16) ++ [.finalize 2]

def completedWithPremium : List Event := completed premiumJob ++ [.finalize 2]

theorem completedWithPremium_billed :
    (let state := run (step usdEnv) State.empty completedWithPremium
     (state.board.jobs.find? 2).map (fun job => (job.status, job.actual)) = some (.complete, 230)) ∧
      Meets (step usdEnv) BillGuard State.empty completedWithPremium ∧
      Always (step usdEnv) BillSound State.empty completedWithPremium ∧
      Meets (step usdEnv)
        (fun state event => ChargesFrozen state (apply (step usdEnv) state event))
        State.empty completedWithPremium :=
  have guarded : Meets (step usdEnv) BillGuard State.empty completedWithPremium := by
    decide +kernel
  ⟨by decide +kernel, guarded, ended_jobs_billed usdEnv completedWithPremium guarded⟩

/-- One of two tasks is charged, and the sweep that cancels the stuck job
stops before it writes the amount. -/
def stuckWithoutAmount : List Event :=
  oneAccepted usdJob ++ [.board (.cancelStuck 2)]

/-- A sweep has chosen task 1 while it ran, and puts it back once its job is
complete. -/
def requeuedTooLate : List Event :=
  completed usdJob ++ [.board (.requeue 1)]

/-- A cancelled job is charged 100 and its amount is 0; a complete job has a
task that waits to be retried. -/
theorem stuck_unbilled_and_complete_unfinished :
    (let state := run (step usdEnv) State.empty stuckWithoutAmount
     (state.board.jobs.find? 2).map (fun job => (job.status, job.actual)) = some (.cancelled, 0) ∧
        state.taskCharges 2 = 100) ∧
    (let state := run (step usdEnv) State.empty requeuedTooLate
     (state.board.jobs.find? 2).map (fun job => job.status) = some .complete ∧
        (state.board.tasks.find? 1).map (fun task => task.status) = some .retrying) := by
  decide +kernel

end MercControl.Verification
