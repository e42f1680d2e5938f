import MercControl.Verification.PlanAccepted
import MercControl.Verification.StoreSteps

/-!
# A verdict is applied once

Work rows change only under their current lease until an apply makes them
terminal.  A work row is terminal exactly when its attempt has a verdict, and a
later claim of the attempt returns the recorded outcome.
-/

namespace MercControl.Verification

open Library Machine Table

/-- A step that is not an apply, as far as verdicts are concerned. -/
structure Quiet (before after : State) : Prop where
  desk : DeskMoves before.desk after.desk
  verdicts : after.books.verdicts = before.books.verdicts
  ledger : after.books.ledger = before.books.ledger

variable {env : Env} {s next : State} {event : Event} {lease : VerificationLease}
variable {plan : VerificationWorkPlan} {work : WorkRow} {task : TaskRow}

theorem Quiet.of_books (desk : DeskMoves s.desk next.desk) (books : next.books = s.books) :
    Quiet s next :=
  ⟨desk, congrArg Books.verdicts books, congrArg Books.ledger books⟩

theorem Quiet.refl (s : State) : Quiet s s := .of_books (.refl _) rfl

theorem chargePremium_frame (books : Books) (job : JobRow) : chargePremium books job =
      { books with
        premiums := (chargePremium books job).premiums
        debits := (chargePremium books job).debits } := by
  unfold chargePremium
  split
  · rfl
  · split <;> rfl

structure AppliesIn (env : Env) (state : State) (event : Event)
    (next : State) (lease : VerificationLease) (plan : VerificationWorkPlan)
    (work : WorkRow) (task : TaskRow) : Prop where
  isEvent : ∃ peerEligible, event = .verify lease plan peerEligible
  applies : ∃ job, Applies env state lease plan work task job
  applied : Applied state plan work task next

theorem step_cases (ran : step env s event = .ok next) :
    Quiet s next ∨ ∃ lease plan work task, AppliesIn env s event next lease plan work task := by
  cases step_steps ran with
  | rests desk _ books => exact .inl (.of_books desk books)
  | board => exact .inl (.of_books (.refl _) rfl)
  | commit commits =>
    exact .inl (.of_books (createVerificationWork_moves commits.desk) commits.books)
  | pin pins => exact .inl (.of_books pins.desk_moves pins.books)
  | apply applies carried =>
    exact .inr ⟨_, _, _, _, ⟨_, rfl⟩, ⟨_, applies⟩, carryOut_applied applies carried⟩
  | finalize finalizes =>
    refine .inl ⟨?_, ?_, ?_⟩
    · rw [finalizes.desk]
      exact .refl _
    · rw [finalizes.books, chargePremium_frame]
    · rw [finalizes.books, chargePremium_frame]

def VerdictRow.status (verdict : VerdictRow) : WorkStatus :=
  .terminal verdict.outcome verdict.decision verdict.settlement

/-- A work row is terminal exactly when its attempt has a verdict, and the two
agree. -/
structure Recorded (state : State) : Prop where
  verdictWork : ∀ verdict ∈ state.books.verdicts.rows,
    state.desk.works.Holds verdict.workId fun work => work.status = verdict.status
  workVerdict : ∀ work ∈ state.desk.works.rows,
    work.status.isTerminal = true →
      ∃ verdict ∈ state.books.verdicts.rows, verdict.workId = work.id ∧ work.status = verdict.status

theorem recorded_empty : Recorded State.empty where
  verdictWork := List.forall_mem_nil _
  workVerdict := List.forall_mem_nil _

theorem WorkKept.eq_of_terminal {before after : WorkRow} (kept : WorkKept before after)
    (terminal : before.status.isTerminal = true) : after = before := by
  rcases kept with same | reworked
  · exact same
  · rw [reworked.wasOpen] at terminal
    cases terminal

theorem Quiet.wasTerminal (isQuiet : Quiet s next) (mem : work ∈ next.desk.works.rows)
    (terminal : work.status.isTerminal = true) : work ∈ s.desk.works.rows := by
  rcases isQuiet.desk.works.mem_cases mem with ⟨old, oldMem, _, rfl | reworked⟩ | ⟨isOpen, _⟩
  · exact oldMem
  · rw [reworked.isOpen] at terminal
    cases terminal
  · rw [isOpen] at terminal
    cases terminal

theorem Recorded.quiet (recorded : Recorded s) (isQuiet : Quiet s next) : Recorded next where
  verdictWork := by
    intro verdict mem
    rw [isQuiet.verdicts] at mem
    obtain ⟨work, found, status⟩ := recorded.verdictWork verdict mem
    obtain ⟨after, foundAfter, kept⟩ := isQuiet.desk.works.find?_after found
    obtain rfl := kept.eq_of_terminal (by rw [status]; rfl)
    exact ⟨after, foundAfter, status⟩
  workVerdict := by
    intro work mem terminal
    rw [isQuiet.verdicts]
    exact recorded.workVerdict work (isQuiet.wasTerminal mem terminal) terminal

theorem AppliesIn.workFound (applying : AppliesIn env s event next lease plan work task) :
    s.desk.works.find? work.id = some work := by
  obtain ⟨_, applies⟩ := applying.applies
  have isWork : work.id = lease.workId := key_of_find? applies.workFound
  rw [isWork]
  exact applies.workFound

theorem Recorded.apply (recorded : Recorded s)
    (applying : AppliesIn env s event next lease plan work task) : Recorded next := by
  obtain ⟨fresh, verdicts⟩ := applying.applied.verdict
  have found : s.desk.works.find? (work.terminated plan).id = some work := applying.workFound
  have works : next.desk.works = s.desk.works.set (work.terminated plan) := by
    rw [applying.applied.desk]
  refine ⟨?_, ?_⟩
  · intro verdict mem
    rw [verdicts] at mem
    rw [works]
    rcases mem_insert.mp mem with old | rfl
    · refine (recorded.verdictWork verdict old).set found ?_
      intro sameWork
      exact (key_ne_of_find?_none fresh old sameWork.symm).elim
    · exact ⟨_, find?_set_self found, rfl⟩
  · intro row mem terminal
    rw [verdicts]
    rw [works] at mem
    rcases mem_set mem with rfl | ⟨old, _⟩
    · exact ⟨_, mem_insert.mpr (.inr rfl), rfl, rfl⟩
    · obtain ⟨verdict, oldVerdict, agrees⟩ := recorded.workVerdict row old terminal
      exact ⟨verdict, mem_insert.mpr (.inl oldVerdict), agrees⟩

theorem recorded_step (s : State) (event : Event) (next : State)
    (recorded : Recorded s) (ran : step env s event = .ok next) : Recorded next := by
  rcases step_cases ran with isQuiet | ⟨lease, plan, work, task, applying⟩
  · exact recorded.quiet isQuiet
  · exact recorded.apply applying

theorem recorded_run (env : Env) (events : List Event) :
    Recorded (run (step env) State.empty events) :=
  invariant_run_of_preserved recorded_step events recorded_empty

def AppliedUnderLease (state : State) (event : Event) (workId : WorkId)
    (decision : VerificationDecision) (settlement : List LedgerEntry) :
    Prop :=
  ∃ lease plan peerEligible work,
    event = .verify lease plan peerEligible ∧ lease.workId = workId ∧
      state.desk.works.find? workId = some work ∧
      work.heldBy lease state.now = true ∧
      (∃ stored, state.desk.plans.find? workId = some stored ∧
        stored.decision = decision ∧ stored.settlement = settlement)

/-- What one step does to verdicts, settlement rows and terminal work. -/
structure AppliedOnce (env : Env) (state : State) (event : Event) (next : State) : Prop where
  /-- A verdict stays, and its attempt never gets a second one. -/
  verdictsKept : ∀ verdict ∈ state.books.verdicts.rows,
    next.books.verdicts.find? verdict.workId = some verdict
  /-- A verdict is written by the holder of the current lease, on the stored
  plan, together with the end of the work. -/
  verdictWritten : ∀ verdict ∈ next.books.verdicts.rows,
    verdict ∈ state.books.verdicts.rows ∨
      (state.books.verdicts.find? verdict.workId = none ∧
        AppliedUnderLease state event verdict.workId verdict.decision verdict.settlement)
  /-- A settlement row is never taken back. -/
  settlementKept : ∀ entry ∈ state.books.ledger.rows,
    ∃ after ∈ next.books.ledger.rows, PayoutOnly entry after
  /-- A settlement row is written with the one verdict that it belongs to. -/
  settlementWritten : ∀ entry ∈ next.books.ledger.rows,
    entry.kind ≠ .clawback →
      (∃ old ∈ state.books.ledger.rows, PayoutOnly old entry) ∨
        ∃ verdict ∈ next.books.verdicts.rows,
          state.books.verdicts.find? verdict.workId = none ∧ entry ∈ verdict.settlement ∧
            entry.taskId = some verdict.taskId
  /-- A terminal work row never changes, and neither does a plan. -/
  terminalKept : ∀ work ∈ state.desk.works.rows,
    work.status.isTerminal = true → work ∈ next.desk.works.rows
  plansKept : ∀ plan ∈ state.desk.plans.rows, plan ∈ next.desk.plans.rows
  /-- Only the holder of the current lease makes a work row terminal. -/
  terminated : ∀ work ∈ next.desk.works.rows,
    work.status.isTerminal = true →
      work ∈ state.desk.works.rows ∨
        ∃ decision settlement, AppliedUnderLease state event work.id decision settlement
  /-- Applying again writes nothing: the fence refuses. -/
  applyAgain : ∀ lease plan peerEligible,
    (state.books.verdicts.find? lease.workId).isSome = true →
      ∃ failure, verifyJob env state lease plan peerEligible = .error failure
  /-- Claiming the attempt again returns the recorded outcome. -/
  claimAgain : ∀ verdict ∈ state.books.verdicts.rows, ∀ owner duration,
    Desk.validLeaseRequest owner duration = true →
      state.desk.claimVerificationWorkForAttempt state.now verdict.workId
        owner duration = .error (.workTerminal verdict.outcome)

theorem AppliesIn.underLease (applying : AppliesIn env s event next lease plan work task) :
    AppliedUnderLease s event work.id plan.decision plan.settlement := by
  obtain ⟨peerEligible, rfl⟩ := applying.isEvent
  obtain ⟨_, applies⟩ := applying.applies
  have isWork : work.id = lease.workId := key_of_find? applies.workFound
  rw [isWork]
  exact ⟨lease, plan, peerEligible, work, rfl, rfl, applies.workFound, applies.held, applies.stored⟩

section

variable (recorded : Recorded s)

include recorded

theorem Recorded.applyAgain (lease : VerificationLease) (plan : VerificationWorkPlan)
    (peerEligible : Bool) (decided : (s.books.verdicts.find? lease.workId).isSome = true) :
    ∃ failure, verifyJob env s lease plan peerEligible = .error failure := by
  cases ran : verifyJob env s lease plan peerEligible with
  | error failure => exact ⟨failure, rfl⟩
  | ok =>
    obtain ⟨_, found, held, _⟩ := verifyJob_ok ran
    obtain ⟨verdict, isVerdict⟩ := Option.isSome_iff_exists.mp decided
    obtain ⟨_, rowFound, status⟩ := recorded.verdictWork verdict (mem_of_find? isVerdict)
    have sameWork : verdict.workId = lease.workId := key_of_find? isVerdict
    rw [sameWork, found] at rowFound
    obtain rfl := Option.some.inj rowFound
    have isOpen := WorkRow.open_of_heldBy held
    rw [status] at isOpen
    cases isOpen

theorem Recorded.claimAgain {verdict : VerdictRow} (mem : verdict ∈ s.books.verdicts.rows)
    (owner : String) (duration : Nat) (valid : Desk.validLeaseRequest owner duration = true) :
    s.desk.claimVerificationWorkForAttempt s.now verdict.workId
      owner duration = .error (.workTerminal verdict.outcome) := by
  obtain ⟨_, found, status⟩ := recorded.verdictWork verdict mem
  simp [Desk.claimVerificationWorkForAttempt, valid, found, status, VerdictRow.status]

theorem Quiet.appliedOnce (isQuiet : Quiet s next) : AppliedOnce env s event next where
  verdictsKept := by
    intro verdict mem
    rw [isQuiet.verdicts]
    exact find?_of_mem mem
  verdictWritten := by
    intro verdict mem
    rw [isQuiet.verdicts] at mem
    exact .inl mem
  settlementKept := by
    intro entry mem
    rw [isQuiet.ledger]
    exact ⟨entry, mem, rfl⟩
  settlementWritten := by
    intro entry mem _
    rw [isQuiet.ledger] at mem
    exact .inl ⟨entry, mem, rfl⟩
  terminalKept := by
    intro work mem terminal
    obtain ⟨after, afterMem, _, kept⟩ := isQuiet.desk.works.exists_after mem
    rw [← kept.eq_of_terminal terminal]
    exact afterMem
  plansKept := by
    intro plan mem
    obtain ⟨after, afterMem, _, rfl⟩ := isQuiet.desk.plans.exists_after mem
    exact afterMem
  terminated := by
    intro work mem terminal
    exact .inl (isQuiet.wasTerminal mem terminal)
  applyAgain := recorded.applyAgain
  claimAgain := fun _ mem => recorded.claimAgain mem

theorem AppliesIn.appliedOnce (applying : AppliesIn env s event next lease plan work task) :
    AppliedOnce env s event next := by
  obtain ⟨fresh, verdicts⟩ := applying.applied.verdict
  have works : next.desk.works = s.desk.works.set (work.terminated plan) := by
    rw [applying.applied.desk]
  have isNew : verdictOf work.info plan ∈ next.books.verdicts.rows := by
    rw [verdicts]
    exact mem_insert.mpr (.inr rfl)
  constructor
  case verdictsKept =>
    intro verdict mem
    refine find?_eq_some.mpr ⟨?_, rfl⟩
    rw [verdicts]
    exact mem_insert.mpr (.inl mem)
  case verdictWritten =>
    intro verdict mem
    rw [verdicts] at mem
    rcases mem_insert.mp mem with old | rfl
    · exact .inl old
    · exact .inr ⟨fresh, applying.underLease⟩
  case settlementKept =>
    intro entry mem
    obtain ⟨after, afterMem, _, only⟩ := applying.applied.ledger.exists_after mem
    exact ⟨after, afterMem, only⟩
  case settlementWritten =>
    intro entry mem notClawback
    rcases applying.applied.ledger.mem_cases mem with
      ⟨old, oldMem, _, only⟩ | ⟨isClawback | settled, _⟩
    · exact .inl ⟨old, oldMem, only⟩
    · exact (notClawback isClawback).elim
    · obtain ⟨job, applies⟩ := applying.applies
      exact .inr ⟨_, isNew, fresh, settled, taskId_of_shape applies.shape entry settled⟩
  case terminalKept =>
    intro row mem terminal
    have found := find?_of_mem mem
    have ne : (work.terminated plan).id ≠ row.id := by
      intro same
      obtain ⟨job, applies⟩ := applying.applies
      have isRow := applying.workFound
      rw [show work.id = row.id from same, found] at isRow
      obtain rfl := Option.some.inj isRow
      rw [WorkRow.open_of_heldBy applies.held] at terminal
      cases terminal
    rw [works]
    refine mem_of_find? (k := row.id) ?_
    rw [find?_set_other ne]
    exact found
  case plansKept =>
    intro stored mem
    rw [applying.applied.desk]
    exact mem
  case terminated =>
    intro row mem terminal
    rw [works] at mem
    rcases mem_set mem with rfl | ⟨old, _⟩
    · exact .inr ⟨_, _, applying.underLease⟩
    · exact .inl old
  case applyAgain => exact recorded.applyAgain
  case claimAgain => exact fun _ mem => recorded.claimAgain mem

end

/-- In every reachable state, every step applies verdicts once. -/
theorem verdict_applied_once (env : Env) (events : List Event) (event : Event) :
    AppliedOnce env (run (step env) State.empty events) event
      (apply (step env) (run (step env) State.empty events) event) := by
  have recorded := recorded_run env events
  refine apply_of_committed ((Quiet.refl _).appliedOnce recorded) ?_
  intro next ran
  rcases step_cases ran with isQuiet | ⟨lease, plan, work, task, applying⟩
  · exact isQuiet.appliedOnce recorded
  · exact applying.appliedOnce recorded

def usdEnv : Env where
  ids := positionIds
  settlementCurrency := .usd

def usdJob : JobTerms where
  id := 2
  jobType := .batchInfer
  account := probeJob
  prepaidRequired := false
  premium := 0
  perTask := 100
  initialTasks := 2
  maxCharge := none
  firmQuoteMax := none
  reserved := 1

def primarySpec : TaskSpec where
  id := 1
  chunkIndex := 0
  isHoneypot := false
  isRedundancy := false
  inputRef := "chunk"

def cloneSpec : TaskSpec := { primarySpec with id := 5, isRedundancy := true }

def submitted (terms : JobTerms) : Event := .board (.submit terms [primarySpec, cloneSpec])

def workerOf (workerId supplierId : Uuid) : Execution where
  workerId
  supplierId
  engine := "llama"
  buildHash := "00112233445566aa"
  buildIdentityPolicy := currentEngineBuildIdentityPolicy

def rowsFor (taskId supplierId : Uuid) : List LedgerEntry :=
  [{ kind := .buyerCharge
     supplierId := none
     buyerId := some probeJob.buyerId
     taskId := some taskId
     amount := -100
     currency := some .usd
     payoutStatus := .released
     releaseAt := none },
   { kind := .supplierCredit
     supplierId := some supplierId
     buyerId := none
     taskId := some taskId
     amount := 80
     currency := some .usd
     payoutStatus := .held
     releaseAt := some minimumPayoutHold },
   { kind := .platformTake
     supplierId := none
     buyerId := none
     taskId := some taskId
     amount := 20
     currency := some .usd
     payoutStatus := .released
     releaseAt := none }]

def unsampled : Sampling where
  probability := "0"
  selected := false

def planFor (workId : WorkId) (body : Bytes) (outcome : VerifyOutcome)
    (effects : List VerificationEffect) (settlement : List LedgerEntry) :
    VerificationWorkPlan where
  workId
  artifact := { taskId := workId.1, attempt := workId.2, kind := .result, body }
  sampling := unsampled
  decision := { outcome := outcome, effects, failure := none }
  settlement

def workedBy (execution : Execution) (taskId : Uuid) (attempt : Nat) : List Event :=
  [.board (.claim taskId execution),
   .commit taskId execution.workerId attempt { resultSha256 := "", settled := probeSettled }]

def plannedUnder (lease : VerificationLease) (plan : VerificationWorkPlan) : List Event :=
  [.work (.claimForAttempt lease.workId lease.owner 60),
   .pinArtifact lease .result plan.artifact.body,
   .work (.pinSampling lease plan.sampling),
   .work (.persistPlan lease plan)]

def firstLease : VerificationLease where
  workId := (1, 0)
  owner := "processor"
  token := 0

def firstPlan : VerificationWorkPlan := planFor (1, 0) [7] .pass [] (rowsFor 1 4)

def verifiedOnce : List Event :=
  submitted usdJob :: workedBy (workerOf 3 4) 1 0 ++
    plannedUnder firstLease firstPlan ++ [.verify firstLease firstPlan false]

/-- The verdict is recorded, and applying the same plan under the same lease
is refused instead of returning it. -/
theorem reapply_refused :
    let state := run (step usdEnv) State.empty verifiedOnce
    state.books.verdicts.rows = [verdictOf { probe with isHoneypot := false } firstPlan] ∧
      state.now = 0 ∧
      Machine.failure? (verifyJob usdEnv state firstLease firstPlan false) = some .noLease := by
  decide +kernel

end MercControl.Verification
