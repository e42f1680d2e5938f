import MercControl.Verification.TaskCounts

/-!
# The reserve of a job

Hedges and tiebreaks are taken from the reserve of a job.  No job has more
tasks than it was submitted with and its reserve together, so the trigger that
refuses a task above this number never does.
-/

namespace MercControl.Verification

open Library

def TaskTerms.initial (terms : TaskTerms) (jobId : Uuid) : Bool :=
  terms.jobId = jobId && terms.hedgedFrom.isNone

def TaskTerms.fromReserve (terms : TaskTerms) (jobId : Uuid) : Bool :=
  terms.jobId = jobId && terms.hedgedFrom.isSome

theorem initial_rule : CountRule TaskTerms.initial (fun job => job.initialTasks) where
  ownJob := by
    intro terms jobId isInitial
    simp only [TaskTerms.initial, Bool.and_eq_true, decide_eq_true_eq] at isInitial
    exact isInitial.1
  grows := by
    intro old row terms _ _
    rw [terms]
  submitted := by
    intro terms tasks isPlanned
    simp only [JobTerms.planned, Bool.and_eq_true, decide_eq_true_eq] at isPlanned
    have exactly : terms.initialTasks = tasks.length := isPlanned.1.1.1.1.1
    rw [exactly]
    exact List.countP_le_length
  hedge := by
    intro terms job _ isHedge isInitial
    simp only [TaskTerms.initial, Bool.and_eq_true, Option.isNone_iff_eq_none] at isInitial
    rw [isInitial.2] at isHedge
    cases isHedge
  tiebreak := by
    intro terms job status _ isTiebreak isInitial
    simp only [TaskTerms.initial, Bool.and_eq_true, Option.isNone_iff_eq_none] at isInitial
    rw [isInitial.2] at isTiebreak
    cases isTiebreak

theorem reserve_rule : CountRule TaskTerms.fromReserve JobRow.consumed where
  ownJob := by
    intro terms jobId isExtra
    simp only [TaskTerms.fromReserve, Bool.and_eq_true, decide_eq_true_eq] at isExtra
    exact isExtra.1
  grows := fun _ _ _ more _ => more
  submitted := by
    intro terms tasks _
    refine Nat.le_of_eq (List.countP_eq_zero.mpr ?_)
    intro spec _
    simp [TaskTerms.fromReserve, TaskSpec.terms]
  hedge := fun _ _ _ _ _ => le_rfl
  tiebreak := fun _ _ _ _ _ _ => le_rfl

theorem countP_ofJob (tasks : List TaskRow) (jobId : Uuid) :
    (tasks.countP fun task => decide (task.jobId = jobId)) =
      (tasks.countP fun task => task.toTaskTerms.initial jobId) +
        tasks.countP fun task => task.toTaskTerms.fromReserve jobId := by
  induction tasks with
  | nil => rfl
  | cons task rest restCounts =>
    rw [List.countP_cons, List.countP_cons, List.countP_cons, restCounts]
    by_cases ofJob : task.jobId = jobId
    · cases hedge : task.hedgedFrom with
      | none | some =>
        simp [TaskTerms.initial, TaskTerms.fromReserve, ofJob, hedge]
        omega
    · simp [TaskTerms.initial, TaskTerms.fromReserve, ofJob]

structure Reserved (board : Board) : Prop where
  haveJobs : TasksHaveJobs board
  initial : Fits TaskTerms.initial (fun job => job.initialTasks) board
  extra : Fits TaskTerms.fromReserve JobRow.consumed board
  covered : ∀ job ∈ board.jobs.rows, 0 < job.consumed → ReserveCovered job

theorem covered_step {env : Env} {s next : State} {event : Event}
    (ran : step env s event = .ok next)
    (covered : ∀ job ∈ s.board.jobs.rows, 0 < job.consumed → ReserveCovered job) :
    ∀ job ∈ next.board.jobs.rows, 0 < job.consumed → ReserveCovered job := by
  intro row mem used
  rcases (step_jobs ran).mem_cases mem with ⟨old, oldMem, _, terms, reserves⟩ | ⟨unused, _⟩
  · by_cases more : old.consumed < row.consumed
    · exact reserves.covered more
    · have same : row.consumed = old.consumed := by
        have grows := reserves.grows
        omega
      rw [same] at used
      exact (covered old oldMem used).of_eq terms same
  · rw [unused] at used
    cases used

theorem reserved_step {env : Env} (s : State) (event : Event) (next : State)
    (reserved : Reserved s.board) (ran : step env s event = .ok next) : Reserved next.board where
  haveJobs := reserved.haveJobs.step ran
  initial := Fits.step initial_rule reserved.initial reserved.haveJobs ran
  extra := Fits.step reserve_rule reserved.extra reserved.haveJobs ran
  covered := covered_step ran reserved.covered

theorem reserved_empty : Reserved State.empty.board := by
  constructor <;> exact List.forall_mem_nil _

/-- A job has the tasks of its plan and those taken from its reserve, which is
large enough, and its cap covers their cost. -/
structure WithinReserve (tasks : List TaskRow) (job : JobRow) : Prop where
  tasks : (tasks.countP fun task => decide (task.jobId = job.id)) ≤ job.initialTasks + job.consumed
  reserve : job.consumed ≤ job.reserved
  cap : 0 < job.consumed → ∀ cap ∈ job.maxCharge, job.cost (job.initialTasks + job.consumed) ≤ cap

theorem Reserved.within {board : Board} (reserved : Reserved board)
    {job : JobRow} (mem : job ∈ board.jobs.rows) : WithinReserve board.tasks.rows job where
  tasks := by
    have initial : _ ≤ job.initialTasks := reserved.initial job mem
    have extra := reserved.extra job mem
    rw [countP_ofJob]
    omega
  reserve := by
    by_cases used : 0 < job.consumed
    · exact (reserved.covered job mem used).bounded
    · omega
  cap := fun used => (reserved.covered job mem used).cap

/-- In every run, no job has more tasks than it planned for. -/
theorem tasks_reserved (env : Env) (events : List Event) : Machine.Always (step env)
      (fun s => ∀ job ∈ s.board.jobs.rows, WithinReserve s.board.tasks.rows job)
      State.empty events :=
  Machine.always_of_invariant reserved_step
    (fun _ reserved _ mem => reserved.within mem) events reserved_empty

end MercControl.Verification
