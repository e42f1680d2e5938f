import MercControl.Library.Joins
import MercControl.Verification.JobBill

/-!
# The spending cap of a job

A task is dispatched by a claim, or by its worker if it is a tiebreak pinned to
it, and both are checked against the cap: what was charged, what is in flight
and the premium have to fit.  The charge of a task takes its place in flight.

A job whose premium is above its cap is accepted, and never runs.
-/

namespace MercControl.Verification

open Library Machine Table

/-! ## Exposure by tasks -/

def State.chargeOf (state : State) (taskId : Uuid) : Int :=
  (state.books.ledger.find? (some taskId, .buyerCharge)).elim 0 fun entry => -entry.amount

def TaskRow.inFlight (task : TaskRow) : Bool := task.status = .running || task.status = .verifying

def State.weight (state : State) (terms : JobTerms) (task : TaskRow) : Int :=
  if task.jobId = terms.id then state.chargeOf task.id + if task.inFlight then terms.perTask else 0
  else 0

variable {task before after : TaskRow} {s next : State} {jobId : Uuid}
  {row job old : JobRow} {event : BoardEvent} {board : Board}
  {execution : Execution} {info : CommitTaskInfo}

theorem taskCharges_eq (s : State) (jobId : Uuid) : s.taskCharges jobId =
      s.board.tasks.total fun task =>
        if task.jobId = jobId then s.chargeOf task.id else 0 := by
  have byTask : s.taskCharges jobId =
      s.books.ledger.total fun entry =>
        (entry.taskId.bind s.board.tasks.find?).elim 0 fun task =>
          if entry.kind = .buyerCharge ∧ task.jobId = jobId then -entry.amount else 0 := by
    refine total_congr fun entry _ => ?_
    cases entry.taskId with
    | none => simp
    | some taskId =>
      simp only [Option.bind_some, Board.jobOfTask]
      rcases Option.eq_none_or_eq_some (s.board.tasks.find? taskId) with absent | ⟨task, found⟩
      · simp [absent]
      · simp [found]
  rw [byTask, total_owned]
  refine total_congr fun task _ => ?_
  by_cases ofJob : task.jobId = jobId
  · rw [if_pos ofJob, State.chargeOf, ← total_of_key]
    refine total_congr fun entry _ => ?_
    simp only [LedgerEntry.taskKind, Prod.mk.injEq, ofJob, and_true]
    split_ifs <;> simp_all
  · rw [if_neg ofJob]
    exact total_eq_zero fun entry _ => by simp [ofJob]

theorem inFlight_eq (s : State) (terms : JobTerms) : s.inFlight terms.id * terms.perTask =
      s.board.tasks.total fun task =>
        if task.jobId = terms.id && task.inFlight then terms.perTask else 0 := by
  rw [total_if, Int.mul_comm]
  rfl

theorem exposure_eq (s : State) (job : JobRow) :
    s.exposure job = s.board.tasks.total (s.weight job.toJobTerms) + job.premium := by
  rw [State.exposure, taskCharges_eq, inFlight_eq, ← total_add]
  congr 1
  refine total_congr fun task _ => ?_
  by_cases ofJob : task.jobId = job.id
  all_goals simp [State.weight, ofJob]

/-! ## The invariant -/

structure Priced (terms : JobTerms) : Prop where
  perTask : 0 < terms.perTask
  premium : 0 ≤ terms.premium
  cap : ∀ cap ∈ terms.maxCharge, 0 < cap

def State.executed (state : State) (jobId : Uuid) : Prop :=
  ∃ task ∈ state.board.tasks.rows, task.jobId = jobId ∧ task.execution.isSome = true

/-- What holds of charges and of what is in flight, when no task settles above
the charge of its job's plan. -/
structure Capped (state : State) : Prop where
  haveJobs : TasksHaveJobs state.board
  priced : ∀ job ∈ state.board.jobs.rows, Priced job.toJobTerms
  pinned : ∀ task ∈ state.board.tasks.rows, task.status.waiting = true →
    task.claimedBy ≠ none → task.execution = none
  dispatched : ∀ task ∈ state.board.tasks.rows, task.status.started = true →
    task.execution.isSome = true
  settled : ∀ task ∈ state.board.tasks.rows, ∀ settled ∈ task.settled,
    ∀ job ∈ state.board.jobs.rows, job.id = task.jobId → settled.billedCharge ≤ job.perTask
  charged : ∀ entry ∈ state.books.ledger.rows, entry.kind = .buyerCharge →
    ∃ task ∈ state.board.tasks.rows, entry.taskId = some task.id ∧ task.execution.isSome = true
  complete : ∀ job ∈ state.board.jobs.rows, job.status = .complete → state.executed job.id
  premium : ∀ row ∈ state.books.premiums.rows,
    ∃ job ∈ state.board.jobs.rows, job.id = row.jobId ∧
      row.amount = job.premium ∧ state.executed job.id
  covered : ∀ job ∈ state.board.jobs.rows, state.executed job.id →
    ∀ cap ∈ job.maxCharge, state.exposure job ≤ cap

variable {taskId : Uuid} {related : TaskRow → TaskRow → Prop}

section

variable (capped : Capped s)

include capped

theorem Capped.uncharged
    (idle : ∀ task ∈ s.board.tasks.rows, task.id = taskId → task.execution = none) :
    s.chargeOf taskId = 0 := by
  unfold State.chargeOf
  cases found : s.books.ledger.find? (some taskId, .buyerCharge) with
  | none => rfl
  | some entry =>
    have isKey := key_of_find? found
    have isCharge : entry.kind = .buyerCharge := congrArg Prod.snd isKey
    have ofTask : entry.taskId = some taskId := congrArg Prod.fst isKey
    obtain ⟨task, mem, sameTask, executed⟩ := capped.charged entry (mem_of_find? found) isCharge
    rw [ofTask] at sameTask
    rw [idle task mem (Option.some.inj sameTask).symm] at executed
    cases executed

theorem Capped.premiumCharge_le (mem : job ∈ s.board.jobs.rows) :
    s.premiumCharge job.id ≤ job.premium := by
  unfold State.premiumCharge
  cases found : s.books.premiums.find? job.id with
  | none => exact (capped.priced job mem).premium
  | some row =>
    obtain ⟨other, otherMem, sameJob, amount, _⟩ := capped.premium row (mem_of_find? found)
    have ofJob : row.jobId = job.id := key_of_find? found
    have isJob : other = job := eq_of_key otherMem mem (sameJob.trans ofJob)
    rw [Option.elim_some, amount, isJob]

theorem Capped.premiumCharge_eq_zero (idle : ¬ s.executed job.id) : s.premiumCharge job.id = 0 := by
  unfold State.premiumCharge
  cases found : s.books.premiums.find? job.id with
  | none => rfl
  | some row =>
    obtain ⟨_, _, sameJob, _, executed⟩ := capped.premium row (mem_of_find? found)
    have ofJob : row.jobId = job.id := key_of_find? found
    rw [sameJob.trans ofJob] at executed
    exact (idle executed).elim

theorem Capped.exposure_of_idle (idle : ¬ s.executed job.id) :
    s.taskCharges job.id = 0 ∧ s.inFlight job.id = 0 ∧ s.exposure job = job.premium := by
  have taskIdle : ∀ task ∈ s.board.tasks.rows, task.jobId = job.id → task.execution = none := by
    intro task mem ofJob
    by_contra ran
    exact idle ⟨task, mem, ofJob, Option.isSome_iff_ne_none.mpr ran⟩
  have charges : s.taskCharges job.id = 0 := by
    rw [taskCharges_eq]
    refine total_eq_zero fun task mem => ?_
    split_ifs with ofJob
    · refine capped.uncharged fun other otherMem same => ?_
      rw [eq_of_key otherMem mem same]
      exact taskIdle task mem ofJob
    · rfl
  have grounded : s.inFlight job.id = 0 := by
    refine List.countP_eq_zero.mpr ?_
    intro task mem isFlying
    simp only [Bool.and_eq_true, Bool.or_eq_true, decide_eq_true_eq] at isFlying
    have ran : task.execution.isSome = true := by
      refine capped.dispatched task mem ?_
      rcases isFlying.2 with status | status
      all_goals
        rw [status]
        rfl
    rw [taskIdle task mem isFlying.1] at ran
    cases ran
  refine ⟨charges, grounded, ?_⟩
  rw [State.exposure, charges, grounded]
  simp

end

def ChargesCapped (state : State) : Prop :=
  ∀ job ∈ state.board.jobs.rows, ∀ cap ∈ job.maxCharge,
    state.taskCharges job.id + state.premiumCharge job.id ≤ cap

/-- The exposure of a job is within its cap once a task was dispatched; before,
nothing is charged or in flight, and it is the premium. -/
def ExposureCapped (state : State) : Prop :=
  ∀ job ∈ state.board.jobs.rows, ∀ cap ∈ job.maxCharge,
    (state.executed job.id → state.exposure job ≤ cap) ∧
      (¬ state.executed job.id → state.taskCharges job.id = 0 ∧ state.inFlight job.id = 0 ∧
        state.exposure job = job.premium)

theorem Capped.chargesCapped (capped : Capped s) : ChargesCapped s := by
  intro job mem cap isCap
  have priced := capped.priced job mem
  by_cases executed : s.executed job.id
  · have premium := capped.premiumCharge_le mem
    have exposed := capped.covered job mem executed cap isCap
    unfold State.exposure at exposed
    have inFlight : 0 ≤ (s.inFlight job.id : Int) * job.perTask :=
      Int.mul_nonneg (Int.natCast_nonneg _) (Int.le_of_lt priced.perTask)
    omega
  · have pos := priced.cap cap isCap
    have noPremium := capped.premiumCharge_eq_zero executed
    have noCharges := (capped.exposure_of_idle executed).1
    omega

theorem Capped.exposureCapped (capped : Capped s) : ExposureCapped s := by
  intro job mem cap isCap
  constructor
  · intro executed
    exact capped.covered job mem executed cap isCap
  · intro idle
    exact capped.exposure_of_idle idle

/-! ## Steps -/

structure TaskSpends (jobs : List JobRow) (before after : TaskRow) : Prop where
  terms : after.toTaskTerms = before.toTaskTerms
  executed : before.execution.isSome = true → after.execution.isSome = true
  dispatched : after.status.started = true →
    before.status.started = true ∨ after.execution.isSome = true
  pinned : after.status.waiting = true → after.claimedBy ≠ none →
    before.status.waiting = true ∧ before.claimedBy ≠ none ∧ after.execution = before.execution
  settled : ∀ settled ∈ after.settled, settled ∈ before.settled ∨
    ∀ job ∈ jobs, job.id = before.jobId → settled.billedCharge ≤ job.perTask

theorem TaskSpends.refl (jobs : List JobRow) (task : TaskRow) : TaskSpends jobs task task :=
  ⟨rfl, id, .inl, fun waits held => ⟨waits, held, rfl⟩, fun _ => .inl⟩

structure TaskFresh (task : TaskRow) : Prop where
  status : task.status = .queued
  idle : task.execution = none
  unsettled : task.settled = none

structure Spends (before after : State) : Prop where
  tasks : Evolves (TaskSpends before.board.jobs.rows) TaskFresh
    before.board.tasks after.board.tasks
  jobs : Evolves (fun old row => row.toJobTerms = old.toJobTerms)
    (fun row => Priced row.toJobTerms) before.board.jobs after.board.jobs
  ledger : Evolves PayoutOnly
    (fun entry => entry.kind = .buyerCharge →
      ∃ task ∈ before.board.tasks.rows, entry.taskId = some task.id ∧ task.execution.isSome = true)
    before.books.ledger after.books.ledger
  complete : ∀ row ∈ after.board.jobs.rows, row.status = .complete →
    ∃ old ∈ before.board.jobs.rows, old.id = row.id ∧
      (old.status = .complete ∨ before.executed old.id)
  premium : ∀ row ∈ after.books.premiums.rows,
    row ∈ before.books.premiums.rows ∨
      ∃ job ∈ before.board.jobs.rows, job.id = row.jobId ∧
        row.amount = job.premium ∧ before.executed job.id
  /-- Only a dispatch raises the exposure of a job, and it is checked. -/
  exposure : ∀ old ∈ before.board.jobs.rows,
    ∀ row ∈ after.board.jobs.rows, row.id = old.id →
      after.executed row.id →
        (before.executed old.id ∧ after.exposure row ≤ before.exposure old) ∨
          ∀ cap ∈ row.maxCharge, after.exposure row ≤ cap

section

variable {before after : State}

theorem Spends.executed (spends : Spends before after)
    (executed : before.executed jobId) : after.executed jobId := by
  obtain ⟨_, mem, ofJob, ran⟩ := executed
  obtain ⟨row, rowMem, _, moved⟩ := spends.tasks.exists_after mem
  refine ⟨row, rowMem, ?_, moved.executed ran⟩
  rw [moved.terms]
  exact ofJob

theorem Spends.exists_old (spends : Spends before after) (capped : Capped before)
    (mem : row ∈ after.board.jobs.rows) (executed : after.executed row.id) :
    ∃ old ∈ before.board.jobs.rows, row.id = old.id ∧ row.toJobTerms = old.toJobTerms := by
  obtain ⟨_, inTasks, ofJob, ran⟩ := executed
  rcases spends.tasks.mem_cases inTasks with ⟨oldTask, oldMem, _, moved⟩ | ⟨isFresh, _⟩
  · obtain ⟨job, found⟩ := Option.isSome_iff_exists.mp (capped.haveJobs oldTask oldMem)
    have sameId : row.id = job.id := by
      rw [← ofJob, moved.terms]
      exact (key_of_find? found).symm
    have jobMem := mem_of_find? found
    exact ⟨job, jobMem, sameId, spends.jobs.related_of_key jobMem mem sameId⟩
  · rw [isFresh.idle] at ran
    cases ran

theorem Capped.spends (capped : Capped before) (spends : Spends before after)
    (haveJobs : TasksHaveJobs after.board) : Capped after where
  haveJobs
  priced := by
    intro row mem
    rcases spends.jobs.mem_cases mem with ⟨old, oldMem, _, moved⟩ | ⟨isFresh, _⟩
    · rw [moved]
      exact capped.priced old oldMem
    · exact isFresh
  pinned := by
    intro row mem waits held
    rcases spends.tasks.mem_cases mem with ⟨old, oldMem, _, moved⟩ | ⟨isFresh, _⟩
    · obtain ⟨waited, wasHeld, same⟩ := moved.pinned waits held
      rw [same]
      exact capped.pinned old oldMem waited wasHeld
    · exact isFresh.idle
  dispatched := by
    intro row mem isStarted
    rcases spends.tasks.mem_cases mem with ⟨old, oldMem, _, moved⟩ | ⟨isFresh, _⟩
    · rcases moved.dispatched isStarted with wasStarted | ran
      · exact moved.executed (capped.dispatched old oldMem wasStarted)
      · exact ran
    · rw [isFresh.status] at isStarted
      cases isStarted
  settled := by
    intro row mem settled isSettled job jobMem ofJob
    rcases spends.tasks.mem_cases mem with ⟨old, oldMem, _, moved⟩ | ⟨isFresh, _⟩
    · rw [moved.terms] at ofJob
      obtain ⟨known, found⟩ := Option.isSome_iff_exists.mp (capped.haveJobs old oldMem)
      have isKnown := key_of_find? found
      have knownMem := mem_of_find? found
      rw [spends.jobs.related_of_key knownMem jobMem (ofJob.trans isKnown.symm)]
      rcases moved.settled settled isSettled with early | bounded
      · exact capped.settled old oldMem settled early known knownMem isKnown
      · exact bounded known knownMem isKnown
    · rw [isFresh.unsettled] at isSettled
      cases isSettled
  charged := by
    intro row mem isCharge
    obtain ⟨task, taskMem, ofTask, ran⟩ : ∃ task ∈ before.board.tasks.rows,
        row.taskId = some task.id ∧ task.execution.isSome = true := by
      rcases spends.ledger.mem_cases mem with ⟨old, oldMem, _, only⟩ | ⟨isNew, _⟩
      · rw [only] at isCharge ⊢
        exact capped.charged old oldMem isCharge
      · exact isNew isCharge
    obtain ⟨next, nextMem, _, moved⟩ := spends.tasks.exists_after taskMem
    have sameId : next.id = task.id := congrArg TaskTerms.id moved.terms
    refine ⟨next, nextMem, ?_, moved.executed ran⟩
    rw [sameId]
    exact ofTask
  complete := by
    intro row mem isComplete
    obtain ⟨old, oldMem, sameId, wasComplete | executed⟩ := spends.complete row mem isComplete
    · rw [← sameId]
      exact spends.executed (capped.complete old oldMem wasComplete)
    · rw [← sameId]
      exact spends.executed executed
  premium := by
    intro row mem
    obtain ⟨job, jobMem, ofJob, amount, executed⟩ : ∃ job ∈ before.board.jobs.rows,
        job.id = row.jobId ∧ row.amount = job.premium ∧ before.executed job.id := by
      rcases spends.premium row mem with early | isNew
      · exact capped.premium row early
      · exact isNew
    obtain ⟨next, nextMem, _, moved⟩ := spends.jobs.exists_after jobMem
    refine ⟨next, nextMem, ?_, ?_, ?_⟩
    · rw [moved]
      exact ofJob
    · rw [moved]
      exact amount
    · rw [moved]
      exact spends.executed executed
  covered := by
    intro row mem executed cap isCap
    obtain ⟨old, oldMem, sameId, terms⟩ := spends.exists_old capped mem executed
    rcases spends.exposure old oldMem row mem sameId executed with
      ⟨wasExecuted, less⟩ | covered
    · rw [terms] at isCap
      exact Int.le_trans less (capped.covered old oldMem wasExecuted cap isCap)
    · exact covered cap isCap

/-! ## Exposure through a step -/

theorem exposure_terms (s : State) (terms : row.toJobTerms = job.toJobTerms) :
    s.exposure row = s.exposure job := by
  unfold State.exposure
  rw [terms]

theorem weight_le {terms : JobTerms} {next : TaskRow}
    (pos : 0 < terms.perTask) (sameTerms : next.toTaskTerms = task.toTaskTerms)
    (charge : after.chargeOf task.id ≤ before.chargeOf task.id)
    (flight : next.inFlight = true → task.inFlight = true) :
    after.weight terms next ≤ before.weight terms task := by
  unfold State.weight
  rw [sameTerms]
  split_ifs with _ isFlying wasFlying wasFlying
  · omega
  · exact (wasFlying (flight isFlying)).elim
  · omega
  · omega
  · exact le_rfl

theorem exposure_falls {fresh : TaskRow → Prop} (capped : Capped before)
    (terms : row.toJobTerms = old.toJobTerms)
    (tasks : Evolves related fresh before.board.tasks after.board.tasks)
    (sameTerms : ∀ task next, related task next → next.toTaskTerms = task.toTaskTerms)
    (execution : ∀ task ∈ before.board.tasks.rows, ∀ next, related task next → task.jobId = old.id →
        next.execution.isSome = true → task.execution.isSome = true)
    (weights : ∀ task ∈ before.board.tasks.rows, ∀ next,
      related task next → after.weight old.toJobTerms next ≤ before.weight old.toJobTerms task)
    (isFresh : ∀ task, fresh task → TaskFresh task)
    (charges : ∀ taskId, (∀ task ∈ before.board.tasks.rows, task.id ≠ taskId) →
        after.chargeOf taskId = before.chargeOf taskId) (executed : after.executed row.id) :
    before.executed old.id ∧ after.exposure row ≤ before.exposure old := by
  constructor
  · obtain ⟨next, nextMem, ofJob, ran⟩ := executed
    rcases tasks.mem_cases nextMem with ⟨task, mem, _, moved⟩ | ⟨opened, _⟩
    · have ofOld : task.jobId = old.id := by rw [← sameTerms task next moved, ofJob, terms]
      exact ⟨task, mem, ofOld, execution task mem next moved ofOld ran⟩
    · rw [(isFresh next opened).idle] at ran
      cases ran
  · rw [exposure_terms after terms, exposure_eq, exposure_eq]
    have total := tasks.total_le weights (by
      intro next opened unused
      have uncharged : before.chargeOf next.id = 0 :=
        capped.uncharged fun task mem same => (unused task mem same).elim
      unfold State.weight
      rw [charges next.id unused, uncharged]
      simp [TaskRow.inFlight, (isFresh next opened).status])
    omega

theorem chargeOf_of_ledger (same : after.books.ledger = before.books.ledger)
    (taskId : Uuid) : after.chargeOf taskId = before.chargeOf taskId := by
  rw [State.chargeOf, State.chargeOf, same]

end

/-! ## Events of the board -/

theorem landed_of_not_started (notStarted : after.status.started = false) :
    after.inFlight = false := by
  cases status : after.status <;> simp_all [TaskRow.inFlight, TaskStatus.started]

/-- A task that no worker got, and that is in flight only if it was. -/
def Rests (before after : TaskRow) : Prop :=
  after.execution = before.execution ∧ (after.inFlight = true → before.inFlight = true)

theorem Rests.of_landed (execution : after.execution = before.execution)
    (landed : after.inFlight = false) : Rests before after := by
  refine ⟨execution, fun isFlying => ?_⟩
  rw [landed] at isFlying
  cases isFlying

theorem Requeues.rests (requeues : Requeues before after) : Rests before after :=
  .of_landed requeues.execution (landed_of_not_started requeues.not_started)

theorem Closes.rests (closes : Closes before after) : Rests before after :=
  .of_landed closes.execution (landed_of_not_started closes.not_started)

section

variable (jobs : List JobRow)

include jobs

theorem Requeues.spends (requeues : Requeues before after) : TaskSpends jobs before after where
  terms := requeues.terms
  executed := by
    rw [requeues.execution]
    exact id
  dispatched := by
    intro isStarted
    rw [requeues.not_started] at isStarted
    cases isStarted
  pinned := by
    intro _ held
    exact (held requeues.unclaimed).elim
  settled := by
    intro settled isSettled
    rcases requeues.settled with same | none
    · rw [same] at isSettled
      exact .inl isSettled
    · rw [none] at isSettled
      cases isSettled

theorem Closes.spends (closes : Closes before after) : TaskSpends jobs before after where
  terms := closes.terms
  executed := by
    rw [closes.execution]
    exact id
  dispatched := by
    intro isStarted
    rw [closes.not_started] at isStarted
    cases isStarted
  pinned := by
    intro waits _
    rcases closes.status with status | status
    all_goals
      rw [status] at waits
      cases waits
  settled := by
    rw [closes.settled]
    exact fun _ => .inl

theorem dispatchedTo_spends (task : TaskRow) (execution : Execution) :
    TaskSpends jobs task (task.dispatchedTo execution) where
  terms := rfl
  executed := fun _ => rfl
  dispatched := fun _ => .inr rfl
  pinned := by
    intro waits
    cases waits
  settled := fun _ => .inl

theorem TaskMove.spends (move : TaskMove event before after) : TaskSpends jobs before after := by
  cases move with
  | kept same =>
    rw [same]
    exact .refl jobs before
  | claimed execution _ _ _ same | started execution _ _ _ _ same =>
    rw [same]
    exact dispatchedTo_spends jobs before execution
  | repinned _ _ _ _ _ held same =>
    rw [same]
    refine ⟨rfl, id, .inl, fun waits _ => ⟨waits, ?_, rfl⟩, fun _ => .inl⟩
    rw [held]
    simp
  | requeued _ requeues | reconciled _ _ requeues | reopened _ requeues =>
    exact requeues.spends jobs
  | closed _ closes => exact closes.spends jobs

end

theorem TaskMove.rests (unclaimed : ∀ execution, event ≠ .claim before.id execution)
    (unstarted : ∀ execution, before.status = .queued →
      event ≠ .start before.id before.attempt execution)
    (move : TaskMove event before after) : Rests before after := by
  cases move with
  | kept same | repinned _ _ _ _ _ _ same =>
    rw [same]
    exact ⟨rfl, id⟩
  | claimed execution isEvent => exact (unclaimed _ isEvent).elim
  | started execution isEvent waiting => exact (unstarted _ waiting isEvent).elim
  | requeued _ requeues | reconciled _ _ requeues | reopened _ requeues => exact requeues.rests
  | closed _ closes => exact closes.rests

theorem TaskOpened.fresh (opened : TaskOpened s event task) : TaskFresh task := by
  cases opened with
  | submitted _ _ _ _ _ same | hedge _ _ _ _ _ _ _ _ same | tiebreak _ _ _ _ _ _ _ same =>
    rw [same]
    exact ⟨rfl, rfl, rfl⟩

theorem exposure_started (capped : Capped s)
    (moves : BoardMoves s (.start task.id task.attempt execution) board)
    (jobMem : job ∈ s.board.jobs.rows) (terms : row.toJobTerms = job.toJobTerms)
    (found : s.board.tasks.find? task.id = some task) :
    { s with board }.exposure row ≤ s.exposure job + job.perTask := by
  have pos := (capped.priced job jobMem).perTask
  have charges : ∀ taskId, { s with board }.chargeOf taskId = s.chargeOf taskId :=
    chargeOf_of_ledger rfl
  let bump (other : TaskRow) : Int := if other.id = task.id then job.perTask else 0
  have bumped : s.board.tasks.total bump = job.perTask := by
    have byKey := total_of_key s.board.tasks task.id fun _ => job.perTask
    rw [found] at byKey
    exact byKey
  have weights : board.tasks.total ({ s with board }.weight job.toJobTerms) ≤
        s.board.tasks.total fun other => s.weight job.toJobTerms other + bump other := by
    refine moves.tasks.total_le ?_ ?_
    · intro other mem next move
      by_cases isTask : other.id = task.id
      · simp only [bump, if_pos isTask, State.weight, move.terms, charges]
        split_ifs <;> omega
      have rests := move.rests (by simp)
        (fun _ _ isEvent => isTask (BoardEvent.start.inj isEvent).1.symm)
      have same : { s with board }.weight job.toJobTerms
          next ≤ s.weight job.toJobTerms other :=
        weight_le pos move.terms (Int.le_of_eq (charges _)) rests.2
      simpa [bump, isTask] using same
    · intro next opened
      cases opened with
      | submitted _ _ _ isEvent | hedge _ _ _ isEvent | tiebreak _ _ _ isEvent => cases isEvent
  rw [total_add, bumped] at weights
  rw [exposure_terms _ terms, exposure_eq, exposure_eq]
  have whole : { s with board }.board.tasks = board.tasks := rfl
  rw [whole]
  omega

theorem dispatch_covered (capped : Capped s) (ran : boardStep s event = .ok board)
    (mem : task ∈ s.board.tasks.rows) (ofJob : task.jobId = old.id)
    (oldMem : old ∈ s.board.jobs.rows) (terms : row.toJobTerms = old.toJobTerms)
    (isEvent : event = .claim task.id execution ∨
      (task.status = .queued ∧ event = .start task.id task.attempt execution)) :
    ∀ cap ∈ row.maxCharge, { s with board }.exposure row ≤ cap := by
  intro cap isCap
  have isFound := find?_of_mem mem
  rw [terms] at isCap
  rcases isEvent with rfl | ⟨isQueued, rfl⟩
  · obtain ⟨found, job, isTask, jobFound, _, _, _, _, covered⟩ := claimTask_ok ran
    obtain rfl := eq_of_find? isTask mem rfl
    rw [ofJob] at jobFound
    obtain rfl := eq_of_find? jobFound oldMem rfl
    rw [exposure_terms _ terms]
    rw [State.withinCap, Option.mem_def.mp isCap] at covered
    exact of_decide_eq_true covered
  · obtain ⟨found, job, isTask, jobFound, _, held, _, started⟩ := startTask_ok ran
    obtain rfl := eq_of_find? isTask mem rfl
    rw [ofJob] at jobFound
    obtain rfl := eq_of_find? jobFound oldMem rfl
    rcases started with ⟨isRunning, _⟩ | ⟨_, ⟨_, eligible⟩ | frozen, _⟩
    · rw [isQueued] at isRunning
      cases isRunning
    · simp only [State.tiebreakEligible, Bool.and_eq_true] at eligible
      have covered := eligible.2
      rw [Option.mem_def.mp isCap] at covered
      exact Int.le_trans (exposure_started capped (startTask_moves ran) oldMem terms isFound)
        (of_decide_eq_true covered)
    · -- what waits for its worker has no machine yet
      have waits : task.status.waiting = true := by
        rw [isQueued]
        rfl
      have isHeld : task.claimedBy ≠ none := by
        rw [held]
        simp
      have idle := capped.pinned task mem waits isHeld
      rw [idle] at frozen
      cases frozen

theorem boardStep_exposure (capped : Capped s) (ran : boardStep s event = .ok board)
    (oldMem : old ∈ s.board.jobs.rows) (terms : row.toJobTerms = old.toJobTerms)
    (executed : { s with board }.executed row.id) :
    (s.executed old.id ∧ { s with board }.exposure row ≤ s.exposure old) ∨
      ∀ cap ∈ row.maxCharge, { s with board }.exposure row ≤ cap := by
  by_cases dispatched : ∃ task ∈ s.board.tasks.rows, ∃ execution, task.jobId = old.id ∧
        (event = .claim task.id execution ∨
          (task.status = .queued ∧ event = .start task.id task.attempt execution))
  · obtain ⟨task, mem, execution, ofJob, isEvent⟩ := dispatched
    exact .inr (dispatch_covered capped ran mem ofJob oldMem terms isEvent)
  have rests : ∀ task ∈ s.board.tasks.rows, ∀ next,
      TaskMove event task next → task.jobId = old.id → Rests task next := by
    intro task mem next move ofJob
    refine move.rests ?_ ?_
    · intro execution isEvent
      exact dispatched ⟨task, mem, execution, ofJob, .inl isEvent⟩
    · intro execution isQueued isEvent
      exact dispatched ⟨task, mem, execution, ofJob, .inr ⟨isQueued, isEvent⟩⟩
  refine .inl (exposure_falls capped terms (boardStep_moves ran).tasks
    (fun _ _ move => move.terms) ?_ ?_ (fun _ opened => opened.fresh)
    (fun _ _ => chargeOf_of_ledger rfl _) executed)
  · intro task mem next move ofJob isSome
    rw [(rests task mem next move ofJob).1] at isSome
    exact isSome
  · intro task mem next move
    by_cases ofJob : task.jobId = old.id
    · exact weight_le (capped.priced old oldMem).perTask move.terms
        (Int.le_of_eq (chargeOf_of_ledger rfl _))
        (rests task mem next move ofJob).2
    · unfold State.weight
      rw [move.terms, if_neg ofJob, if_neg ofJob]

theorem JobMove.complete {before after : JobRow} (move : JobMove s event before after)
    (isComplete : after.status = .complete) : before.status = .complete := by
  cases move with
  | kept same | billed _ same =>
    rw [same] at isComplete
    exact isComplete
  | goesOn moves => exact (JobStatus.ne_complete moves.isLive isComplete).elim
  | failed _ same | cancelled _ same | stuck _ _ same =>
    rw [same] at isComplete
    cases isComplete

theorem priced_of_planned {terms : JobTerms} {tasks : List TaskSpec}
    (isPlanned : terms.planned tasks = true) : Priced terms := by
  simp only [JobTerms.planned, Bool.and_eq_true, decide_eq_true_eq] at isPlanned
  obtain ⟨⟨⟨⟨_, perTask⟩, premium⟩, cap⟩, _⟩ := isPlanned
  refine ⟨perTask, premium, ?_⟩
  intro bound isCap
  rw [Option.mem_def.mp isCap] at cap
  exact of_decide_eq_true cap

theorem boardStep_spends (capped : Capped s) (ran : boardStep s event = .ok board) :
    Spends s { s with board } := by
  have moves := boardStep_moves ran
  have jobs : Evolves (fun old row => row.toJobTerms = old.toJobTerms)
      (fun row => Priced row.toJobTerms) s.board.jobs board.jobs := by
    refine moves.jobs.mono (fun _ _ _ move => move.keeps.1) ?_
    rintro row ⟨terms, tasks, rfl, rfl⟩
    obtain ⟨isPlanned, _⟩ := submitJob_ok ran
    exact priced_of_planned isPlanned
  refine
    { tasks := ?_
      jobs
      ledger := .refl PayoutOnly.refl _
      complete := ?_
      premium := fun _ mem => .inl mem
      exposure := ?_ }
  · exact moves.tasks.mono (fun _ _ _ move => move.spends _) (fun _ opened => opened.fresh)
  · intro row mem isComplete
    rcases moves.jobs.mem_cases mem with
      ⟨old, oldMem, sameId, move⟩ | ⟨⟨terms, tasks, _, rfl⟩, _⟩
    · exact ⟨old, oldMem, sameId.symm, .inl (move.complete isComplete)⟩
    · cases isComplete
  · intro old oldMem row mem sameId executed
    exact boardStep_exposure capped ran oldMem (jobs.related_of_key oldMem mem sameId)
      executed

/-! ## Commits, pins and completion -/

/-- A task settles at no more than the charge of its job's plan. -/
def SettlesWithin (state : State) : Event → Prop
  | .commit taskId _ _ commit =>
    ∀ task ∈ state.board.tasks.find? taskId,
      ∀ job ∈ state.board.jobs.find? task.jobId, commit.settled.billedCharge ≤ job.perTask
  | _ => True

abbrev JobsRest (before after : State) : Prop :=
  Evolves (fun old row => row.toJobTerms = old.toJobTerms ∧
      (row.status = .complete → old.status = .complete))
    (fun _ => False) before.board.jobs after.board.jobs

theorem Spends.of_weights {before after : State} {fresh : TaskRow → Prop} (capped : Capped before)
    (tasks : Evolves related fresh before.board.tasks after.board.tasks)
    (spends : ∀ task ∈ before.board.tasks.rows, ∀ next, related task next →
      TaskSpends before.board.jobs.rows task next ∧ next.execution = task.execution)
    (isFresh : ∀ task, fresh task → TaskFresh task)
    (weights : ∀ old ∈ before.board.jobs.rows, ∀ task ∈ before.board.tasks.rows, ∀ next,
      related task next → after.weight old.toJobTerms next ≤ before.weight old.toJobTerms task)
    (charges : ∀ taskId, (∀ task ∈ before.board.tasks.rows, task.id ≠ taskId) →
      after.chargeOf taskId = before.chargeOf taskId)
    (jobs : JobsRest before after)
    (ledger : Evolves PayoutOnly (fun entry => entry.kind = .buyerCharge →
        ∃ task ∈ before.board.tasks.rows, entry.taskId = some task.id ∧
          task.execution.isSome = true)
      before.books.ledger after.books.ledger)
    (premiums : after.books.premiums = before.books.premiums) : Spends before after where
  tasks := tasks.mono (fun task mem next moved => (spends task mem next moved).1) isFresh
  jobs := jobs.relax (fun _ _ _ moved => moved.1)
  ledger
  complete := by
    intro row mem isComplete
    obtain ⟨old, oldMem, sameId, moved⟩ := jobs.exists_before mem
    exact ⟨old, oldMem, sameId.symm, .inl (moved.2 isComplete)⟩
  premium := by
    rw [premiums]
    exact fun _ mem => .inl mem
  exposure := by
    intro old oldMem row mem sameId executed
    have moved := jobs.related_of_key oldMem mem sameId
    have known : Evolves (fun task next => task ∈ before.board.tasks.rows ∧ related task next)
        fresh before.board.tasks after.board.tasks :=
      tasks.mono (fun task mem next moved => ⟨mem, moved⟩) (fun _ opened => opened)
    refine .inl (exposure_falls capped moved.1 known ?_ ?_ ?_ isFresh charges executed)
    · rintro task next ⟨inTasks, related⟩
      exact (spends task inTasks next related).1.terms
    · rintro task _ next ⟨inTasks, related⟩ _ isSome
      rw [(spends task inTasks next related).2] at isSome
      exact isSome
    · rintro task _ next ⟨inTasks, related⟩
      exact weights old oldMem task inTasks next related

theorem Spends.of_tasks {before after : State} (capped : Capped before)
    (tasks : Evolves related (fun _ => False) before.board.tasks after.board.tasks)
    (spends : ∀ task ∈ before.board.tasks.rows, ∀ next, related task next →
      TaskSpends before.board.jobs.rows task next ∧ Rests task next)
    (jobs : JobsRest before after)
    (books : after.books = before.books) : Spends before after := by
  have charges : ∀ taskId, after.chargeOf taskId = before.chargeOf taskId :=
    chargeOf_of_ledger (by rw [books])
  refine .of_weights capped tasks ?_ (fun _ => False.elim) ?_ (fun _ _ => charges _)
    jobs ?_ (by rw [books])
  · intro task mem next related
    obtain ⟨kept, rests⟩ := spends task mem next related
    exact ⟨kept, rests.1⟩
  · intro old oldMem task mem next related
    obtain ⟨kept, rests⟩ := spends task mem next related
    exact weight_le (capped.priced old oldMem).perTask kept.terms
      (Int.le_of_eq (charges _)) rests.2
  · rw [books]
    exact .refl PayoutOnly.refl _

theorem Spends.of_eq {before after : State} (capped : Capped before)
    (board : after.board = before.board) (books : after.books = before.books) :
    Spends before after := by
  have tasks : Evolves Eq (fun _ => False) before.board.tasks after.board.tasks := by
    rw [board]
    exact .refl (fun _ => rfl) _
  refine .of_tasks capped tasks ?_ ?_ books
  · rintro task _ next rfl
    exact ⟨.refl _ _, rfl, id⟩
  · rw [JobsRest, board]
    exact .refl (fun _ => ⟨rfl, id⟩) _

theorem Commits.spends {workerId : Uuid} {attempt : Nat} {commit : TaskCommit} (capped : Capped s)
    (within : SettlesWithin s (.commit taskId workerId attempt commit))
    (commits : Commits s taskId workerId attempt commit task job execution info next) :
    Spends s next := by
  refine .of_tasks capped commits.tasks_evolve ?_ ?_ commits.books
  · rintro old _ row (rfl | ⟨rfl, rfl⟩)
    · exact ⟨.refl _ _, rfl, id⟩
    · rcases commits.status with isRunning | isVerifying
      · have notVerifying : old.status ≠ .verifying := by
          rw [isRunning]
          simp
        have same : (TaskRow.committed workerId commit).apply old = _ := if_neg notVerifying
        rw [same]
        refine ⟨⟨rfl, id, ?_, ?_, ?_⟩, rfl, ?_⟩
        · intro _
          refine .inl ?_
          rw [isRunning]
          rfl
        · intro waits
          cases waits
        · intro settled isSettled
          obtain rfl := Option.some.inj isSettled
          refine .inr fun other mem ofJob => ?_
          have found : s.board.jobs.find? old.jobId = some other := find?_eq_some.mpr ⟨mem, ofJob⟩
          exact within old commits.taskFound other found
        · intro _
          simp [TaskRow.inFlight, isRunning]
      · have same : (TaskRow.committed workerId commit).apply old = old := if_pos isVerifying
        rw [same]
        exact ⟨.refl _ _, rfl, id⟩
  · refine commits.jobs.relax ?_
    rintro old _ row (rfl | ⟨_, rfl⟩)
    · exact ⟨rfl, id⟩
    · refine ⟨rfl, ?_⟩
      intro isComplete
      cases isComplete

theorem Pins.spends {lease : VerificationLease} {kind : ArtifactKind}
    {body : Bytes} {work : WorkRow} (capped : Capped s)
    (pins : Pins s lease kind body work task next) : Spends s next := by
  refine .of_tasks capped pins.tasks_evolve ?_ ?_ pins.books
  · rintro old _ row (rfl | ⟨rfl, rfl⟩)
    · exact ⟨.refl _ _, rfl, id⟩
    · exact ⟨⟨rfl, id, .inl, fun waits held => ⟨waits, held, rfl⟩, fun _ => .inl⟩, rfl, id⟩
  · rw [JobsRest, pins.jobs]
    exact .refl (fun _ => ⟨rfl, id⟩) _

theorem Finalizes.executed (capped : Capped s) (finalizes : Finalizes s jobId job next) :
    s.executed job.id := by
  have mem := mem_of_find? finalizes.jobFound
  rcases finalizes.ready with isComplete | ⟨_, finalizable⟩
  · exact capped.complete job mem isComplete
  · simp only [State.finalizable, Bool.and_eq_true, List.any_eq_true,
      decide_eq_true_eq] at finalizable
    obtain ⟨task, inTasks, ofJob, isComplete⟩ := finalizable.2
    refine ⟨task, inTasks, ofJob, ?_⟩
    exact capped.dispatched task inTasks (by rw [isComplete]; rfl)

theorem Finalizes.spends (capped : Capped s) (finalizes : Finalizes s jobId job next) :
    Spends s next := by
  have jobMem := mem_of_find? finalizes.jobFound
  have jobs : Evolves (fun old row => row.toJobTerms = old.toJobTerms)
      (fun _ => False) s.board.jobs next.board.jobs := by
    refine finalizes.jobs_evolve.mono ?_ (fun _ => id)
    rintro old _ row (rfl | ⟨rfl, actual, rfl⟩)
    · rfl
    · rfl
  have tasks : Evolves Eq (fun _ => False) s.board.tasks
      next.board.tasks := by
    rw [finalizes.tasks]
    exact .refl (fun _ => rfl) _
  refine
    { tasks := tasks.relax ?_
      jobs := jobs.relax (fun _ _ _ moved => moved)
      ledger := ?_
      complete := ?_
      premium := ?_
      exposure := ?_ }
  · rintro task _ row rfl
    exact .refl _ _
  · rw [finalizes.ledger]
    exact .refl PayoutOnly.refl _
  · intro row mem isComplete
    obtain ⟨old, oldMem, sameId, rfl | ⟨rfl, _, _⟩⟩ := finalizes.jobs_evolve.exists_before mem
    · exact ⟨row, oldMem, rfl, .inl isComplete⟩
    · exact ⟨old, oldMem, sameId.symm, .inr (finalizes.executed capped)⟩
  · intro row mem
    rcases finalizes.premiums_cases row mem with old | rfl
    · exact .inl old
    · exact .inr ⟨job, jobMem, rfl, rfl, finalizes.executed capped⟩
  · intro old oldMem row mem sameId executed
    have moved := jobs.related_of_key oldMem mem sameId
    refine .inl (exposure_falls capped moved tasks ?_ ?_ ?_ (fun _ => False.elim)
      (fun _ _ => chargeOf_of_ledger finalizes.ledger _) executed)
    · rintro task next rfl
      rfl
    · rintro task _ next rfl _ isSome
      exact isSome
    · rintro task _ next rfl
      exact weight_le (capped.priced old oldMem).perTask rfl
        (Int.le_of_eq (chargeOf_of_ledger finalizes.ledger _)) id

/-! ## Applies -/

section

variable {env : Env} {lease : VerificationLease}
variable {plan : VerificationWorkPlan} {work : WorkRow}

theorem settlement_eq_nil {ids : EffectIds} {decision : VerificationDecision}
    {entries : List LedgerEntry}
    (shape : validateVerificationDecisionShape ids info decision entries = .ok ())
    (nothing : decision.outcome = .fail ∨ decision.outcome = .lossNoPayout) : entries = [] := by
  obtain ⟨_, _, shape⟩ := bind_eq_ok.mp shape
  obtain ⟨_, _, shape⟩ := bind_eq_ok.mp shape
  obtain ⟨_, _, shape⟩ := bind_eq_ok.mp shape
  unfold checkSettlement at shape
  rw [if_pos nothing] at shape
  obtain ⟨isEmpty, _⟩ := ite_error_eq_ok.mp shape
  rw [not_not, List.length_eq_zero_iff] at isEmpty
  exact isEmpty

theorem ApplyMove.spends {now : Nat} (jobs : List JobRow)
    (move : ApplyMove now task info plan before after) :
    TaskSpends jobs before after ∧ Rests before after := by
  cases move with
  | outcome _ only =>
    rw [only]
    exact ⟨⟨rfl, id, .inl, fun waits held => ⟨waits, held, rfl⟩, fun _ => .inl⟩, rfl, id⟩
  | rejected _ _ requeues => exact ⟨requeues.spends jobs, requeues.rests⟩
  | completed _ verifying same =>
    obtain ⟨_, wasVerifying⟩ := isVerifying_task verifying
    rw [same]
    refine ⟨⟨rfl, id, ?_, ?_, fun _ => .inl⟩, .of_landed rfl rfl⟩
    · intro _
      refine .inl ?_
      rw [wasVerifying]
      rfl
    · intro waits
      cases waits
  | cancelled _ _ closes => exact ⟨closes.spends jobs, closes.rests⟩

variable (capped : Capped s) (applies : Applies env s lease plan work task job)

include capped applies

theorem Applies.charge_le {entry : LedgerEntry} (settled : entry ∈ plan.settlement)
    (isCharge : entry.kind = .buyerCharge) : -entry.amount ≤ job.perTask := by
  have jobId := key_of_find? applies.jobFound
  have validated := applies.settlement
  unfold validateVerificationSettlement at validated
  split at validated
  next nothing =>
    rw [settlement_eq_nil applies.shape nothing] at settled
    cases settled
  · split at validated
    next other settledAs otherFound isSettled =>
      obtain ⟨_, validated⟩ := ite_error_eq_ok.mp validated
      obtain ⟨allMatch, _⟩ := ite_error_eq_ok.mp validated
      simp only [not_or, Bool.not_eq_true', Bool.not_eq_false, List.all_eq_true] at allMatch
      have agrees := allMatch.2 entry settled
      simp only [settlementMatches, isCharge, Bool.and_eq_true, decide_eq_true_eq] at agrees
      have bound := capped.settled task (mem_of_find? applies.taskFound) settledAs isSettled job
        (mem_of_find? applies.jobFound)
        (jobId.trans applies.sameJob.symm)
      have amount : entry.amount = -settledAs.billedCharge := agrees.1.1.1
      omega
    · cases validated

variable (applied : Applied s plan work task next)

include applied

theorem Applied.chargeOf_cases (taskId : Uuid) :
    next.chargeOf taskId = s.chargeOf taskId ∨
      (taskId = task.id ∧ s.chargeOf taskId = 0 ∧ next.chargeOf taskId ≤ job.perTask) := by
  unfold State.chargeOf
  cases found : s.books.ledger.find? (some taskId, .buyerCharge) with
  | some =>
    obtain ⟨row, rowFound, only⟩ := applied.ledger.find?_after found
    rw [rowFound, Option.elim_some, Option.elim_some, only]
    exact .inl rfl
  | none =>
    cases late : next.books.ledger.find? (some taskId, .buyerCharge) with
    | none => exact .inl rfl
    | some row =>
      have isKey := key_of_find? late
      have isCharge : row.kind = .buyerCharge := congrArg Prod.snd isKey
      have ofTask : row.taskId = some taskId := congrArg Prod.fst isKey
      rcases applied.ledger.find?_cases late with ⟨old, oldFound, _⟩ | ⟨_, isClawback | settled⟩
      · rw [found] at oldFound
        cases oldFound
      · rw [isCharge] at isClawback
        cases isClawback
      · have isTask := key_of_find? applies.taskFound
        rw [taskId_of_shape applies.shape row settled] at ofTask
        refine .inr ⟨?_, rfl, applies.charge_le capped settled isCharge⟩
        exact (Option.some.inj ofTask).symm.trans isTask.symm

theorem Applied.weight_le (oldMem : old ∈ s.board.jobs.rows) (mem : before ∈ s.board.tasks.rows)
    (move : ApplyMove s.now task work.info plan before after) :
    next.weight old.toJobTerms after ≤ s.weight old.toJobTerms before := by
  have pos := (capped.priced old oldMem).perTask
  obtain ⟨spends, _, flight⟩ := move.spends s.board.jobs.rows
  rcases applied.chargeOf_cases capped applies before.id with same | ⟨isTask, uncharged, bound⟩
  · exact Verification.weight_le pos spends.terms (Int.le_of_eq same) flight
  · have taskMem := mem_of_find? applies.taskFound
    obtain rfl := eq_of_key mem taskMem isTask
    have wasVerifying := (isVerifying_task applies.verifying).2
    have wasFlying : before.inFlight = true := by simp [TaskRow.inFlight, wasVerifying]
    have landed : after.inFlight = false := by
      cases move with
      | outcome other =>
        rw [applies.verifying] at other
        cases other
      | rejected _ _ requeues => exact landed_of_not_started requeues.not_started
      | completed _ _ same =>
        rw [same]
        rfl
      | cancelled _ _ closes => exact landed_of_not_started closes.not_started
    unfold State.weight
    rw [spends.terms, landed, wasFlying]
    by_cases ofJob : before.jobId = old.id
    · have isJob := key_of_find? applies.jobFound
      have sameJob : job = old := eq_of_key (mem_of_find? applies.jobFound) oldMem
          (isJob.trans (applies.sameJob.symm.trans ofJob))
      rw [sameJob] at bound
      rw [if_pos ofJob, if_pos ofJob, if_neg Bool.false_ne_true, if_pos rfl]
      omega
    · rw [if_neg ofJob, if_neg ofJob]

theorem Applied.spends : Spends s next := by
  have taskId := key_of_find? applies.taskFound
  have taskMem := mem_of_find? applies.taskFound
  have isVerifying := (isVerifying_task applies.verifying).2
  have jobs : JobsRest s next := by
    refine applied.jobs.relax ?_
    intro old _ row moved
    refine ⟨moved.terms, fun isComplete => ?_⟩
    rcases moved.status with same | ⟨_, isRunning⟩
    · rw [← same]
      exact isComplete
    · rw [isComplete] at isRunning
      cases isRunning
  refine .of_weights capped applied.tasks ?_ ?_ ?_ ?_ jobs ?_ applied.premiums
  · intro before _ next move
    obtain ⟨spends, rests⟩ := move.spends s.board.jobs.rows
    exact ⟨spends, rests.1⟩
  · intro row tiebreak
    exact { tiebreak with }
  · intro old oldMem before inTasks next move
    exact applied.weight_le capped applies oldMem inTasks move
  · intro unknownId unknown
    rcases applied.chargeOf_cases capped applies unknownId with same | ⟨isTask, _⟩
    · exact same
    · exact (unknown task taskMem isTask.symm).elim
  refine applied.ledger.mono (fun _ _ _ only => only) ?_
  rintro entry (isClawback | settled) isCharge
  · rw [isClawback] at isCharge
    cases isCharge
  · refine ⟨task, taskMem, ?_, ?_⟩
    · rw [taskId_of_shape applies.shape entry settled, ← taskId]
    · exact capped.dispatched task taskMem (by rw [isVerifying]; rfl)

end

/-! ## Runs -/

theorem step_spends {env : Env} {event : Event} (capped : Capped s) (within : SettlesWithin s event)
    (ran : step env s event = .ok next) : Spends s next := by
  cases step_steps ran with
  | rests _ board books => exact .of_eq capped board books
  | board moved => exact boardStep_spends capped moved
  | commit commits => exact commits.spends capped within
  | pin pins => exact pins.spends capped
  | apply applies carried => exact (carryOut_applied applies carried).spends capped applies
  | finalize finalizes => exact finalizes.spends capped

theorem capped_empty : Capped State.empty := by
  constructor <;> exact List.forall_mem_nil _

theorem capped_step {env : Env} (s : State) (event : Event) (next : State) (capped : Capped s)
    (within : SettlesWithin s event) (ran : step env s event = .ok next) : Capped next :=
  capped.spends (step_spends capped within ran) (capped.haveJobs.step ran)

/-- When no task settles above the plan, what a job was charged is within its
cap in every state, and so is its exposure once a task was dispatched. -/
theorem spend_capped (env : Env) (events : List Event)
    (within : Meets (step env) SettlesWithin State.empty events) :
    Always (step env) (fun state => ChargesCapped state ∧ ExposureCapped state) State.empty
      events :=
  always_of_guarded capped_step (fun _ capped => ⟨capped.chargesCapped, capped.exposureCapped⟩)
    capped_empty within

instance (state : State) (event : Event) : Decidable (SettlesWithin state event) := by
  rcases event with ⟨⟩ <;> unfold SettlesWithin <;> infer_instance

/-- Two results of a chunk differ, and worker 19 is asked for a third, which
it begins. -/
def mismatchedChunk : List Event :=
  let lease := leaseOn (5, 0) 1
  let plan :=
    planFor (5, 0) [8] .passWithPenalty
      (recordEffects positionIds probe
        [.recordEvent 2 5 16 .redundancyMismatch, .insertTiebreak uuidNil 2 5 19 "chunk" 0])
      (rowsFor 5 16)
  oneAccepted { usdJob with maxCharge := some 300 } ++ workedBy (workerOf 15 16) 5 0 ++
    plannedUnder lease plan ++
    [.verify lease plan true, .board (.start 2 0 (workerOf 19 20))]

theorem mismatchedChunk_capped :
    (let state := run (step usdEnv) State.empty mismatchedChunk
     state.board.jobs.rows.map (fun job => (state.taskCharges job.id, state.exposure job)) =
      [(200, 300)]) ∧
      Meets (step usdEnv) SettlesWithin State.empty mismatchedChunk ∧
      Always (step usdEnv) (fun state => ChargesCapped state ∧ ExposureCapped state)
        State.empty mismatchedChunk :=
  have within : Meets (step usdEnv) SettlesWithin State.empty mismatchedChunk := by
    decide +kernel
  ⟨by decide +kernel, within, spend_capped usdEnv mismatchedChunk within⟩

theorem premium_above_cap :
    let events := [submitted { usdJob with premium := 30, maxCharge := some 20 }]
    let state := run (step usdEnv) State.empty events
    Meets (step usdEnv) SettlesWithin State.empty events ∧
      state.board.jobs.rows.map (fun job => (state.exposure job, job.maxCharge)) =
        [(30, some 20)] := by
  decide +kernel

end MercControl.Verification
