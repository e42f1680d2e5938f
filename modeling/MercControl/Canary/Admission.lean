import Mathlib.Data.Finset.Card
import MercControl.Library.Machine

/-!
# The limits of the private canary

`createJob` counts active buyers, queued jobs and the jobs of the day before it
admits a job.  A later transaction inserts it and counts nothing, so the limits
hold as long as no other job is inserted in between.
-/

namespace MercControl.Canary

open Library Machine

/-- `CanaryPolicy`, the limits that a submission is checked against. -/
structure CanaryPolicy where
  enabled : Bool
  maxActiveBuyers : Nat
  maxQueuedJobs : Nat
  maxDailyJobs : Nat
  maxHeldShadowPayout : Nat

inductive JobStatus
  | queued
  | running
  | verifying
  | complete
  | failed
  | cancelled
  deriving DecidableEq

/-- `lifecycle_transitions` of a job. -/
def JobStatus.canBecome : JobStatus → JobStatus → Bool
  | .queued, .running | .queued, .cancelled | .queued, .failed => true
  | .running, .verifying | .running, .complete | .running, .failed
  | .running, .cancelled => true
  | .verifying, .running | .verifying, .complete | .verifying, .failed => true
  | _, _ => false

structure JobRow where
  id : Nat
  buyerId : Nat
  /-- Microseconds; `now()` is when the transaction began. -/
  createdAt : Nat
  status : JobStatus

/-- How far `createJob` has come.  `seen` is the number of jobs when the buyers
were counted. -/
inductive Stage
  | arrived
  | buyerAllowed (seen : Nat)
  | counted (seen : Nat)
  | accepting (seen createdAt : Nat)

structure Submission where
  id : Nat
  buyerId : Nat
  stage : Stage

/-- The table of jobs, newest first, and the submissions that are under way in
all processes. -/
structure State where
  now : Nat
  jobs : List JobRow
  heldShadowPayout : Nat
  submissions : List Submission

def day : Nat := 86400000000

/-- `date_trunc('day', …)` in UTC. -/
def dayStart (time : Nat) : Nat := time - time % day

def jobsToday (jobs : List JobRow) (time : Nat) : Nat :=
  jobs.countP fun job => dayStart time ≤ job.createdAt

def queuedJobs (jobs : List JobRow) : Nat := jobs.countP fun job => job.status = .queued

def activeBuyers (jobs : List JobRow) (time : Nat) : Finset Nat :=
  ((jobs.filter fun job => time ≤ job.createdAt + day).map JobRow.buyerId).toFinset

structure CanaryAdmissionCounts where
  queuedJobs : Nat
  jobsToday : Nat
  heldShadowPayout : Nat

def canaryAdmissionCounts (state : State) : CanaryAdmissionCounts where
  queuedJobs := queuedJobs state.jobs
  jobsToday := jobsToday state.jobs state.now
  heldShadowPayout := state.heldShadowPayout

def canaryBuyerAdmissionAllowed (state : State) (buyerId max : Nat) : Bool :=
  decide (buyerId ∈ activeBuyers state.jobs state.now) ||
    decide ((activeBuyers state.jobs state.now).card < max)

structure HttpError where
  status : Nat
  message : String

def buyerRefusal (policy : CanaryPolicy) (state : State) (buyerId : Nat) : Option HttpError :=
  if policy.enabled && !canaryBuyerAdmissionAllowed state buyerId policy.maxActiveBuyers then
    some ⟨429, "private-canary active-buyer limit reached"⟩
  else none

def countRefusal (policy : CanaryPolicy) (counts : CanaryAdmissionCounts) : Option HttpError :=
  if !policy.enabled then none
  else if policy.maxQueuedJobs ≤ counts.queuedJobs then
    some ⟨429, "private-canary queued-job limit reached"⟩
  else if policy.maxDailyJobs ≤ counts.jobsToday then
    some ⟨429, "private-canary daily-job limit reached"⟩
  else if policy.maxHeldShadowPayout ≤ counts.heldShadowPayout then
    some ⟨429, "private-canary held-shadow-payout limit reached"⟩
  else none

inductive Event
  | arrive (id buyerId : Nat)
  | checkBuyer (id : Nat)
  | checkCounts (id : Nat)
  /-- The transaction of `SubmitJobTx` begins. -/
  | begin (id : Nat)
  | insert (id jobId : Nat)
  /-- The submission is refused for another reason, or its process is gone. -/
  | leave (id : Nat)
  | moveJob (jobId : Nat) (status : JobStatus)
  | payoutsBecome (held : Nat)
  | tick (elapsed : Nat)

inductive Failure
  | noSuchSubmission
  | alreadyExists
  | invalidTransition

def State.submission? (state : State) (id : Nat) : Option Submission :=
  state.submissions.find? fun submission => submission.id = id

def State.without (state : State) (id : Nat) : List Submission :=
  state.submissions.filter fun submission => submission.id ≠ id

def State.advance (state : State) (submission : Submission) (stage : Stage) : State :=
  { state with submissions := { submission with stage } :: state.without submission.id }

def State.answer (state : State) (submission : Submission) (stage : Stage) :
    Option HttpError → State
  | some _ => { state with submissions := state.without submission.id }
  | none => state.advance submission stage

def step (policy : CanaryPolicy) (state : State) : Event → Except Failure State
  | .arrive id buyerId =>
    if (state.submission? id).isSome then .error .alreadyExists
    else
      .ok { state with submissions := { id, buyerId, stage := .arrived } :: state.submissions }
  | .checkBuyer id =>
    match state.submission? id with
    | some ⟨id, buyerId, .arrived⟩ =>
      .ok (state.answer ⟨id, buyerId, .arrived⟩ (.buyerAllowed state.jobs.length)
        (buyerRefusal policy state buyerId))
    | _ => .error .noSuchSubmission
  | .checkCounts id =>
    match state.submission? id with
    | some ⟨id, buyerId, .buyerAllowed seen⟩ =>
      .ok (state.answer ⟨id, buyerId, .buyerAllowed seen⟩ (.counted seen)
        (countRefusal policy (canaryAdmissionCounts state)))
    | _ => .error .noSuchSubmission
  | .begin id =>
    match state.submission? id with
    | some ⟨id, buyerId, .counted seen⟩ =>
      .ok (state.advance ⟨id, buyerId, .counted seen⟩ (.accepting seen state.now))
    | _ => .error .noSuchSubmission
  | .insert id jobId =>
    match state.submission? id with
    | some ⟨id, buyerId, .accepting _ createdAt⟩ =>
      if state.jobs.any fun job => job.id = jobId then .error .alreadyExists
      else
        .ok { state with
          jobs := { id := jobId, buyerId, createdAt, status := .queued } :: state.jobs
          submissions := state.without id }
    | _ => .error .noSuchSubmission
  | .leave id => .ok { state with submissions := state.without id }
  | .moveJob jobId status =>
    if state.jobs.any fun job => job.id = jobId && !job.status.canBecome status then
      .error .invalidTransition
    else
      .ok { state with
        jobs := state.jobs.map fun job =>
          if job.id = jobId then { job with status } else job }
  | .payoutsBecome held => .ok { state with heldShadowPayout := held }
  | .tick elapsed => .ok { state with now := state.now + elapsed }

/-- The limits hold for the newest job, counted when it was created.  Later the
same jobs only count less. -/
def WithinLimits (policy : CanaryPolicy) (state : State) : Prop :=
  ∀ job ∈ state.jobs.head?,
    jobsToday state.jobs job.createdAt ≤ policy.maxDailyJobs ∧
      queuedJobs state.jobs ≤ policy.maxQueuedJobs ∧
      (activeBuyers state.jobs job.createdAt).card ≤ policy.maxActiveBuyers

def Stage.upToDate (jobs : Nat) : Stage → Bool
  | .accepting seen _ => seen = jobs
  | _ => true

/-- A job is inserted only if none was since its buyer was checked. -/
def Undisturbed (state : State) : Event → Prop
  | .insert id _ => ∀ submission ∈ state.submission? id, submission.stage.upToDate state.jobs.length
  | _ => True

variable {earlier later buyerId : Nat} {jobs before after : List JobRow}
  {job : JobRow} {policy : CanaryPolicy} {stage : Stage} {s next : State}

theorem dayStart_mono (ordered : earlier ≤ later) : dayStart earlier ≤ dayStart later := by
  unfold dayStart day
  omega

theorem jobsToday_anti (ordered : earlier ≤ later) :
    jobsToday jobs later ≤ jobsToday jobs earlier := by
  refine List.countP_mono_left ?_
  intro job _ isToday
  have started := of_decide_eq_true isToday
  exact decide_eq_true (Nat.le_trans (dayStart_mono ordered) started)

theorem activeBuyers_anti (ordered : earlier ≤ later) :
    activeBuyers jobs later ⊆ activeBuyers jobs earlier := by
  intro buyer isActive
  unfold activeBuyers at isActive ⊢
  rw [List.mem_toFinset, List.mem_map] at isActive ⊢
  obtain ⟨job, mem, isBuyer⟩ := isActive
  obtain ⟨isJob, isRecent⟩ := List.mem_filter.mp mem
  have recent := of_decide_eq_true isRecent
  exact ⟨job, List.mem_filter.mpr ⟨isJob, decide_eq_true (Nat.le_trans ordered recent)⟩, isBuyer⟩

theorem activeBuyers_cons : activeBuyers (job :: jobs) job.createdAt =
      insert job.buyerId (activeBuyers jobs job.createdAt) := by
  have recent : job.createdAt ≤ job.createdAt + day := Nat.le_add_right _ _
  unfold activeBuyers
  rw [List.filter_cons, if_pos (decide_eq_true recent), List.map_cons, List.toFinset_cons]

structure Calmer (before after : List JobRow) : Prop where
  length : after.length = before.length
  newest : after.head?.map JobRow.createdAt = before.head?.map JobRow.createdAt
  today : ∀ time, jobsToday after time = jobsToday before time
  queued : queuedJobs after ≤ queuedJobs before
  active : ∀ time, activeBuyers after time = activeBuyers before time

theorem Calmer.refl (jobs : List JobRow) : Calmer jobs jobs :=
  ⟨rfl, rfl, fun _ => rfl, le_rfl, fun _ => rfl⟩

theorem calmer_of_move {jobId : Nat} {status : JobStatus}
    (allowed : ∀ job ∈ jobs, job.id = jobId → job.status.canBecome status) :
    Calmer jobs
      (jobs.map fun job => if job.id = jobId then { job with status } else job) := by
  let move := fun job : JobRow => if job.id = jobId then { job with status } else job
  have reads : ∀ {Read : Type} (read : JobRow → Read),
      (∀ job, read { job with status } = read job) → read ∘ move = read := by
    intro Read read same
    funext job
    dsimp only [move, Function.comp_apply]
    split
    · exact same job
    · rfl
  have notQueued (earlier : JobStatus) : earlier.canBecome .queued = false := by
    cases earlier <;> rfl
  constructor
  · exact List.length_map _
  · rw [List.head?_map, Option.map_map]
    exact congrArg (fun read => jobs.head?.map read) (reads JobRow.createdAt fun _ => rfl)
  · intro time
    unfold jobsToday
    rw [List.countP_map]
    exact congrArg (fun counts => jobs.countP counts) (reads _ fun _ => rfl)
  · unfold queuedJobs
    rw [List.countP_map]
    refine List.countP_mono_left ?_
    intro job mem isQueued
    have isQueued : (move job).status = .queued := of_decide_eq_true isQueued
    dsimp only [move] at isQueued
    split at isQueued
    · next isJob =>
      have canMove := allowed job mem isJob
      rw [show status = .queued from isQueued, notQueued] at canMove
      cases canMove
    · exact decide_eq_true isQueued
  · intro time
    unfold activeBuyers
    rw [List.filter_map, List.map_map]
    rw [show (JobRow.buyerId ∘ fun job => _) = JobRow.buyerId from reads _ fun _ => rfl]
    exact congrArg (fun keep => ((jobs.filter keep).map JobRow.buyerId).toFinset)
      (reads _ fun _ => rfl)

def BuyerFits (policy : CanaryPolicy) (jobs : List JobRow) (buyerId time : Nat) : Prop :=
  (insert buyerId (activeBuyers jobs time)).card ≤ policy.maxActiveBuyers

def JobFits (policy : CanaryPolicy) (jobs : List JobRow) (buyerId time : Nat) : Prop :=
  BuyerFits policy jobs buyerId time ∧ jobsToday jobs time < policy.maxDailyJobs ∧
    queuedJobs jobs < policy.maxQueuedJobs

theorem BuyerFits.mono (fits : BuyerFits policy before buyerId earlier)
    (calmer : Calmer before after) (ordered : earlier ≤ later) :
    BuyerFits policy after buyerId later := by
  unfold BuyerFits at fits ⊢
  rw [calmer.active]
  refine (Finset.card_le_card ?_).trans fits
  exact Finset.insert_subset_insert buyerId (activeBuyers_anti ordered)

theorem JobFits.mono (fits : JobFits policy before buyerId earlier) (calmer : Calmer before after)
    (ordered : earlier ≤ later) : JobFits policy after buyerId later := by
  obtain ⟨buyer, today, queued⟩ := fits
  refine ⟨buyer.mono calmer ordered, ?_, ?_⟩
  · rw [calmer.today]
    exact Nat.lt_of_le_of_lt (jobsToday_anti ordered) today
  · exact Nat.lt_of_le_of_lt calmer.queued queued

/-- What the checks of a submission still say, unless a job was inserted. -/
def Stage.Holds (policy : CanaryPolicy) (jobs : List JobRow) (now buyerId : Nat) : Stage → Prop
  | .arrived => True
  | .buyerAllowed seen =>
    seen ≤ jobs.length ∧ (seen = jobs.length → BuyerFits policy jobs buyerId now)
  | .counted seen => seen ≤ jobs.length ∧ (seen = jobs.length → JobFits policy jobs buyerId now)
  | .accepting seen createdAt =>
    seen ≤ jobs.length ∧ createdAt ≤ now ∧
      (seen = jobs.length → JobFits policy jobs buyerId createdAt)

theorem Stage.Holds.mono (holds : stage.Holds policy before earlier buyerId)
    (calmer : Calmer before after) (ordered : earlier ≤ later) :
    stage.Holds policy after later buyerId := by
  cases stage with
  | arrived => trivial
  | buyerAllowed | counted =>
    obtain ⟨inside, fits⟩ := holds
    rw [← calmer.length] at inside fits
    exact ⟨inside, fun same => (fits same).mono calmer ordered⟩
  | accepting =>
    obtain ⟨inside, created, fits⟩ := holds
    rw [← calmer.length] at inside fits
    exact ⟨inside, Nat.le_trans created ordered,
      fun same => (fits same).mono calmer le_rfl⟩

theorem Stage.Holds.outdated {now : Nat} (holds : stage.Holds policy jobs now buyerId) :
    stage.Holds policy (job :: jobs) now buyerId := by
  have older : ∀ seen, seen ≤ jobs.length →
      seen ≤ (job :: jobs).length ∧ seen ≠ (job :: jobs).length := by
    intro seen inside
    rw [List.length_cons]
    omega
  cases stage with
  | arrived => trivial
  | buyerAllowed seen | counted seen =>
    obtain ⟨inside, outdated⟩ := older seen holds.1
    exact ⟨inside, fun same => (outdated same).elim⟩
  | accepting seen =>
    obtain ⟨inside, outdated⟩ := older seen holds.1
    exact ⟨inside, holds.2.1, fun same => (outdated same).elim⟩

structure Inv (policy : CanaryPolicy) (state : State) : Prop where
  active : (activeBuyers state.jobs state.now).card ≤ policy.maxActiveBuyers
  within : WithinLimits policy state
  told : ∀ submission ∈ state.submissions,
    submission.stage.Holds policy state.jobs state.now submission.buyerId

theorem Inv.submissions (inv : Inv policy s)
    (sameJobs : next.jobs = s.jobs) (sameTime : next.now = s.now)
    (told : ∀ submission ∈ next.submissions, submission ∈ s.submissions ∨
        submission.stage.Holds policy s.jobs s.now submission.buyerId) : Inv policy next := by
  constructor
  · rw [sameJobs, sameTime]
    exact inv.active
  · unfold WithinLimits
    rw [sameJobs]
    exact inv.within
  · intro submission mem
    rw [sameJobs, sameTime]
    rcases told submission mem with old | holds
    · exact inv.told submission old
    · exact holds

theorem Inv.calmer (inv : Inv policy s)
    (calmer : Calmer s.jobs next.jobs) (ordered : s.now ≤ next.now)
    (sameSubmissions : next.submissions = s.submissions) : Inv policy next := by
  constructor
  · rw [calmer.active]
    exact Nat.le_trans (Finset.card_le_card (activeBuyers_anti ordered)) inv.active
  · intro job newest
    have sameTime := calmer.newest
    rw [newest] at sameTime
    obtain ⟨older, wasNewest, sameTime⟩ := Option.map_eq_some_iff.mp sameTime.symm
    obtain ⟨today, queued, active⟩ := inv.within older wasNewest
    rw [sameTime] at today active
    rw [calmer.today, calmer.active]
    exact ⟨today, Nat.le_trans calmer.queued queued, active⟩
  · intro submission mem
    rw [sameSubmissions] at mem
    exact (inv.told submission mem).mono calmer ordered

theorem mem_of_submission? {id : Nat} {submission : Submission}
    (found : s.submission? id = some submission) : submission ∈ s.submissions :=
  List.mem_of_find?_eq_some found

theorem mem_of_mem_without {id : Nat} {submission : Submission}
    (mem : submission ∈ s.without id) : submission ∈ s.submissions :=
  (List.mem_filter.mp mem).1

theorem Inv.advance (inv : Inv policy s) (submission : Submission)
    (holds : stage.Holds policy s.jobs s.now submission.buyerId) :
    Inv policy (s.advance submission stage) := by
  refine inv.submissions rfl rfl ?_
  intro other mem
  rcases List.mem_cons.mp mem with rfl | mem
  · exact .inr holds
  · exact .inl (mem_of_mem_without mem)

theorem Inv.answer (inv : Inv policy s) (submission : Submission) {refusal : Option HttpError}
    (holds : refusal = none → stage.Holds policy s.jobs s.now submission.buyerId) :
    Inv policy (s.answer submission stage refusal) := by
  cases refusal with
  | some =>
    refine inv.submissions rfl rfl ?_
    exact fun other mem => .inl (mem_of_mem_without mem)
  | none => exact inv.advance submission (holds rfl)

theorem buyerFits_of_allowed (enabled : policy.enabled)
    (active : (activeBuyers s.jobs s.now).card ≤ policy.maxActiveBuyers)
    (allowed : buyerRefusal policy s buyerId = none) : BuyerFits policy s.jobs buyerId s.now := by
  unfold buyerRefusal at allowed
  rw [enabled, Bool.true_and] at allowed
  split at allowed
  · cases allowed
  next passed =>
    rw [Bool.not_eq_true', Bool.not_eq_false] at passed
    unfold BuyerFits
    rcases (Bool.or_eq_true _ _).mp passed with known | room
    · rw [Finset.insert_eq_of_mem (of_decide_eq_true known)]
      exact active
    · have room := of_decide_eq_true room
      exact Nat.le_trans (Finset.card_insert_le _ _) room

theorem counts_of_allowed (enabled : policy.enabled)
    (allowed : countRefusal policy (canaryAdmissionCounts s) = none) :
    jobsToday s.jobs s.now < policy.maxDailyJobs ∧ queuedJobs s.jobs < policy.maxQueuedJobs := by
  unfold countRefusal at allowed
  rw [enabled] at allowed
  split at allowed
  · next disabled => cases disabled
  split at allowed
  · cases allowed
  next queued =>
    split at allowed
    · cases allowed
    next today => exact ⟨Nat.lt_of_not_le today, Nat.lt_of_not_le queued⟩

theorem countP_cons_le {counts : JobRow → Bool} {limit : Nat} (room : jobs.countP counts < limit) :
    (job :: jobs).countP counts ≤ limit := by
  rw [List.countP_cons]
  split
  · exact room
  · exact Nat.le_of_lt room

theorem Inv.insert (inv : Inv policy s) (fits : JobFits policy s.jobs job.buyerId job.createdAt)
    (created : job.createdAt ≤ s.now)
    (isJobs : next.jobs = job :: s.jobs) (sameTime : next.now = s.now)
    (submissions : ∀ submission ∈ next.submissions, submission ∈ s.submissions) :
    Inv policy next := by
  obtain ⟨buyer, today, room⟩ := fits
  have active : (activeBuyers next.jobs job.createdAt).card ≤ policy.maxActiveBuyers := by
    rw [isJobs, activeBuyers_cons]
    exact buyer
  constructor
  · rw [sameTime]
    exact Nat.le_trans (Finset.card_le_card (activeBuyers_anti created)) active
  · intro newest isNewest
    rw [isJobs] at isNewest
    obtain rfl := Option.some.inj isNewest
    rw [isJobs]
    rw [isJobs] at active
    exact ⟨countP_cons_le today, countP_cons_le room, active⟩
  · intro submission mem
    rw [isJobs, sameTime]
    exact (inv.told submission (submissions submission mem)).outdated

theorem step_inv {event : Event} (enabled : policy.enabled)
    (inv : Inv policy s) (undisturbed : Undisturbed s event)
    (ran : step policy s event = .ok next) : Inv policy next := by
  cases event with
  | arrive =>
    obtain ⟨_, ran⟩ := ite_error_eq_ok.mp ran
    cases ran
    refine inv.submissions rfl rfl ?_
    intro submission mem
    rcases List.mem_cons.mp mem with rfl | mem
    · exact .inr trivial
    · exact .inl mem
  | checkBuyer id =>
    dsimp only [step] at ran
    split at ran
    next id buyerId found =>
      cases ran
      refine inv.answer _ ?_
      intro allowed
      exact ⟨le_rfl, fun _ => buyerFits_of_allowed enabled inv.active allowed⟩
    · cases ran
  | checkCounts id =>
    dsimp only [step] at ran
    split at ran
    next id buyerId seen found =>
      cases ran
      obtain ⟨inside, buyerFits⟩ := inv.told _ (mem_of_submission? found)
      refine inv.answer _ ?_
      intro allowed
      have counts := counts_of_allowed enabled allowed
      exact ⟨inside, fun same => ⟨buyerFits same, counts⟩⟩
    · cases ran
  | begin id =>
    dsimp only [step] at ran
    split at ran
    next id buyerId seen found =>
      cases ran
      obtain ⟨inside, fits⟩ := inv.told _ (mem_of_submission? found)
      exact inv.advance ⟨id, buyerId, .counted seen⟩ ⟨inside, le_rfl, fits⟩
    · cases ran
  | insert id =>
    dsimp only [step] at ran
    split at ran
    next id buyerId seen createdAt found =>
      obtain ⟨_, ran⟩ := ite_error_eq_ok.mp ran
      cases ran
      obtain ⟨_, created, fits⟩ := inv.told _ (mem_of_submission? found)
      have same : seen = s.jobs.length := of_decide_eq_true (undisturbed _ found)
      exact inv.insert (fits same) created rfl rfl fun _ mem => mem_of_mem_without mem
    · cases ran
  | leave =>
    cases ran
    exact inv.submissions rfl rfl fun _ mem => .inl (mem_of_mem_without mem)
  | moveJob =>
    obtain ⟨allowed, ran⟩ := ite_error_eq_ok.mp ran
    cases ran
    refine inv.calmer (calmer_of_move ?_) le_rfl rfl
    intro job mem isJob
    by_contra stuck
    refine allowed (List.any_eq_true.mpr ⟨job, mem, ?_⟩)
    rw [Bool.eq_false_iff.mpr stuck]
    exact (Bool.and_eq_true _ _).mpr ⟨decide_eq_true isJob, rfl⟩
  | payoutsBecome =>
    cases ran
    exact inv.calmer (Calmer.refl _) le_rfl rfl
  | tick =>
    cases ran
    exact inv.calmer (Calmer.refl _) (Nat.le_add_right _ _) rfl

structure Quiet (policy : CanaryPolicy) (state : State) : Prop where
  active : (activeBuyers state.jobs state.now).card ≤ policy.maxActiveBuyers
  within : WithinLimits policy state
  none_under_way : state.submissions = []

/-- The limits hold whenever a job is inserted, if no other job is between its
checks and its insertion. -/
theorem canary_limits_hold {policy : CanaryPolicy} {start : State} {events : List Event}
    (enabled : policy.enabled) (quiet : Quiet policy start)
    (undisturbed : Meets (step policy) Undisturbed start events) :
    Always (step policy) (WithinLimits policy) start events := by
  have begins : Inv policy start := by
    refine ⟨quiet.active, quiet.within, ?_⟩
    rw [quiet.none_under_way]
    exact List.forall_mem_nil _
  refine always_of_guarded ?_ (fun _ inv => inv.within) begins undisturbed
  intro state event next inv guarded ran
  exact step_inv enabled inv guarded ran

instance (policy : CanaryPolicy) : DecidablePred (WithinLimits policy) :=
  fun state => inferInstanceAs (Decidable (∀ job ∈ state.jobs.head?, _ ∧ _ ∧ _))

instance (state : State) (event : Event) : Decidable (Undisturbed state event) := by
  cases event <;> unfold Undisturbed <;> infer_instance

def smallPolicy : CanaryPolicy where
  enabled := true
  maxActiveBuyers := 2
  maxQueuedJobs := 2
  maxDailyJobs := 3
  maxHeldShadowPayout := 1000000

def State.empty : State where
  now := 5 * day
  jobs := []
  heldShadowPayout := 0
  submissions := []

def submits (id buyerId jobId : Nat) : List Event :=
  [.arrive id buyerId, .checkBuyer id, .checkCounts id, .begin id, .insert id jobId]

def oneByOne : List Event :=
  submits 1 10 100 ++ submits 2 11 101 ++ submits 3 12 102 ++
    [.moveJob 100 .running] ++ submits 4 10 103 ++ [.tick day] ++
    submits 5 11 104

theorem oneByOne_within :
    (run (step smallPolicy) State.empty oneByOne).jobs.length = 3 ∧
      Always (step smallPolicy) (WithinLimits smallPolicy) State.empty
        oneByOne :=
  ⟨by decide +kernel,
    canary_limits_hold rfl ⟨by decide, fun _ newest => (by cases newest), rfl⟩ (by decide +kernel)⟩

def atOnce : List Event :=
  [.arrive 1 10, .arrive 2 11, .arrive 3 12, .checkBuyer 1, .checkBuyer 2,
    .checkBuyer 3, .checkCounts 1, .checkCounts 2, .checkCounts 3, .begin 1,
    .begin 2, .begin 3, .insert 1 100, .insert 2 101, .insert 3 102]

theorem atOnce_exceeds :
    queuedJobs (run (step smallPolicy) State.empty atOnce).jobs = 3 ∧
      (activeBuyers (run (step smallPolicy) State.empty atOnce).jobs (5 * day)).card = 3 ∧
      ¬ Always (step smallPolicy) (WithinLimits smallPolicy) State.empty atOnce := by
  decide +kernel

end MercControl.Canary
