import MercControl.Submission.CallSteps

/-!
# A repeated submission is one job

When the calls with one key keep apart, at most one of them creates the job,
what the job refers to stays in the store as it was written, and nothing else
is left behind.
-/

namespace MercControl.Submission

open Library Machine Table

variable {sub : Digest → Request} {s next : State}

section

variable {id : CallId} {call : Call} {terms : Terms} {answered : Bool}

theorem submitJobTx_ok (ran : submitJobTx sub s call terms = .ok next) :
    ∃ ledger, ∃ fresh : s.jobs.find? call.key = none, next =
        { s with
          ledger
          steps := s.steps ++ call.stepRows sub terms
          jobs := s.jobs.insert (call.job sub) fresh } ∧
      ∀ key, (ledger.jobs.find? key).isSome = true →
        call.key = key ∨ (s.ledger.jobs.find? key).isSome = true := by
  rw [submitJobTx] at ran
  split at ran
  · cases ran
  split at ran
  · cases ran
  split at ran
  · cases ran
  rename_i ledger submitted
  split_ifs at ran with fresh
  refine ⟨ledger, fresh, (Except.ok.inj ran).symm, ?_⟩
  intro key known
  obtain ⟨_, unused, rfl⟩ := Money.submitJob_ok submitted
  exact (isSome_find?_insert unused).mp known

theorem reserveProjectStep_ne {project : Option ProjectStep} {ceilingNanos : Int} :
    reserveProjectStep s project ceilingNanos ≠ .error .uniqueViolation := by
  cases project with
  | none => nofun
  | some =>
    simp only [reserveProjectStep]
    split
    · nofun
    · split_ifs <;> nofun

theorem submitJobTx_unique (refused : submitJobTx sub s call terms = .error .uniqueViolation) :
    s.Known call.key ∨ (s.ledger.jobs.find? call.key).isSome = true := by
  rw [submitJobTx] at refused
  split at refused
  · cases refused
  rename_i reserved
  split at refused
  · rename_i failure failed
    cases refused
    exact (reserveProjectStep_ne failed).elim
  split at refused
  · rename_i failed
    rw [Money.submitJob, reserved] at failed
    split_ifs at failed with fresh
    exact .inr (Option.isSome_iff_ne_none.mpr fresh)
  · split_ifs at refused with fresh
    exact .inl (Option.isSome_iff_ne_none.mpr fresh)

theorem submit_ok (ran : submit sub s id terms answered = .ok next) :
    ∃ call, s.calls.find? id = some call ∧ call.phase = .uploading ∧ call.uploaded sub = true ∧
      ((∃ created, submitJobTx sub s call terms = .ok created ∧ next = created.setCall
              { call with phase := if answered then .ended .created else .discarding }) ∨
        submitJobTx sub s call terms = .error .uniqueViolation ∨
        next = s.setCall { call with phase := .discarding }) := by
  obtain ⟨call, found, uploading, submits⟩ := inPhase_ok ran
  have uploaded : call.uploaded sub = true := by
    by_contra notUploaded
    simp [notUploaded] at submits
  refine ⟨call, found, uploading, uploaded, ?_⟩
  rw [uploaded] at submits
  cases outcome : submitJobTx sub s call terms with
  | ok created =>
    rw [outcome] at submits
    exact .inl ⟨created, rfl, (Except.ok.inj submits).symm⟩
  | error failure =>
    rw [outcome] at submits
    cases failure with
    | uniqueViolation => exact .inr (.inl rfl)
    | _ => exact .inr (.inr (Except.ok.inj submits).symm)

theorem CallSound.stored (sound : CallSound sub s call) (uploading : call.phase = .uploading)
    (uploaded : call.uploaded sub = true) {ref : Ref} (isRef : ref ∈ (call.job sub).refs) :
    (ref.key = call.key ∨ s.Known ref.key) ∧ (s.objects ref).isSome = true := by
  rw [Call.uploaded, Bool.and_eq_true, Bool.or_eq_true] at uploaded
  have ofInput : ∀ ref ∈ call.ownedInput sub, (s.objects ref).isSome = true := by
    intro ref owned
    obtain ⟨inline, rfl⟩ := Call.mem_ownedInput.mp owned
    rw [inline] at uploaded
    exact sound.inputStored uploading (uploaded.1.resolve_right Bool.false_ne_true)
  rcases List.mem_cons.mp isRef with isInput | isTask
  · have isInputRef : ref = call.inputRef sub := isInput
    rw [Call.inputRef] at isInputRef
    cases source : (sub call.digest).source with
    | none =>
      rw [source] at isInputRef
      have owned := Call.mem_ownedInput.mpr ⟨source, isInputRef⟩
      exact ⟨.inl (Call.key_of_mem_ownedInput owned), ofInput ref owned⟩
    | some given =>
      rw [source] at isInputRef
      have stored := sound.sourceStored uploading given source
      rw [isInputRef]
      exact ⟨.inr stored.1, stored.2⟩
  · refine ⟨.inl (sound.taskKeys ref isTask), ?_⟩
    rcases sound.tasksStored uploading ref isTask with owned | stored
    · exact ofInput ref owned
    · exact stored

/-- The creation of the job: the call stops holding its objects and the job
refers to all of them. -/
theorem Sound.commits (sound : Sound sub s) (found : s.calls.find? id = some call)
    (uploading : call.phase = .uploading) (uploaded : call.uploaded sub = true)
    (apart : Apart s id Phase.live) (fresh : s.jobs.find? call.key = none)
    (calls : next.calls = s.calls.set { call with phase := .ended .created })
    (jobs : next.jobs = s.jobs.insert (call.job sub) fresh) (objects : next.objects = s.objects)
    (steps : ∀ row ∈ next.steps, row ∈ s.steps ∨ row.job = call.key)
    (ledger : ∀ key, (next.ledger.jobs.find? key).isSome = true →
      call.key = key ∨ (s.ledger.jobs.find? key).isSome = true) : Sound sub next ∧ Kept s next := by
  obtain rfl : call.id = id := key_of_find? found
  have callSound := sound.ofCall found
  have isJob : call.job sub ∈ next.jobs.rows := by
    rw [jobs]
    exact mem_insert.mpr (.inr rfl)
  have oldJob : ∀ job ∈ s.jobs.rows, job ∈ next.jobs.rows := by
    intro job mem
    rw [jobs]
    exact mem_insert.mpr (.inl mem)
  have known {key} : next.Known key ↔ call.key = key ∨ s.Known key := by
    rw [State.Known, jobs]
    exact isSome_find?_insert fresh
  have others : ∀ other ∈ s.calls.rows, other.id ≠ call.id → CallSound sub next other := by
    intro other mem ne
    obtain ⟨unknown, notLost, nothingYet, taskKeys, inputStored, tasksStored,
      sourceStored, accepted⟩ := sound.calls other mem
    refine ⟨?_, notLost, nothingYet, taskKeys, ?_, ?_, ?_, ?_⟩
    · intro live isKnown
      rcases known.mp isKnown with sameKey | before
      · exact ne (apart call found other mem sameKey.symm live)
      · exact unknown live before
    · rw [objects]
      exact inputStored
    · rw [objects]
      exact tasksStored
    · intro active ref mem
      rw [objects]
      have stored := sourceStored active ref mem
      exact ⟨known.mpr (.inr stored.1), stored.2⟩
    · intro ended
      rw [jobs]
      exact (accepted ended).insert fresh
  have self : CallSound sub next { call with phase := .ended .created } := by
    constructor
    case taskKeys => exact callSound.taskKeys
    case accepted =>
      intro _
      rw [jobs]
      exact ⟨call.job sub, find?_insert_self fresh, rfl⟩
    all_goals rintro ⟨⟩
  refine ⟨⟨?_, ?_, ?_, ?_, ?_, ?_, ?_⟩, ?_⟩
  · rw [calls]
    intro other mem
    rcases mem_set mem with rfl | ⟨old, ne⟩
    · exact self
    · exact others other old ne
  · rw [calls]
    exact sound.holders.set (by rintro ⟨⟩)
  · rw [calls]
    apply sound.creators.set
    -- A creator with this key would have left a job under it.
    intro _ other mem sameKey created
    have isCreated : other.phase = .ended .created := by
      revert created
      cases other.phase with
      | ended outcome => cases outcome <;> simp [Phase.created]
      | _ => simp [Phase.created]
    obtain ⟨job, isJob, _⟩ := (sound.calls other mem).accepted (.inl isCreated)
    have sameCallKey : other.key = call.key := sameKey
    rw [sameCallKey, fresh] at isJob
    cases isJob
  · intro ref writer stored
    rw [objects] at stored
    rcases sound.written ref writer stored with
      ⟨holder, isHolder, holds, listed⟩ | ⟨job, mem, isRef⟩
    · by_cases isCall : writer = call.id
      · rw [isCall, found] at isHolder
        cases isHolder
        refine .inr ⟨call.job sub, isJob, ?_⟩
        rcases List.mem_append.mp listed with owned | task
        · obtain ⟨inline, rfl⟩ := Call.mem_ownedInput.mp owned
          rw [Job.refs, Call.job, Call.inputRef, inline]
          exact List.mem_cons_self
        · exact List.mem_cons_of_mem _ task
      · refine .inl ?_
        rw [State.Held, calls]
        refine ⟨holder, ?_, holds, listed⟩
        rw [← isHolder]
        exact find?_set_other (Ne.symm isCall)
    · exact .inr ⟨job, oldJob job mem, isRef⟩
  · rw [jobs, objects]
    refine forall_insert fresh (fun job mem ref isRef => ?_) ?_
    · have stored := sound.stored job mem ref isRef
      exact ⟨known.mpr (.inr stored.1), stored.2⟩
    · intro ref isRef
      have stored := callSound.stored uploading uploaded isRef
      exact ⟨known.mpr (stored.1.imp_left Eq.symm), stored.2⟩
  · intro key inLedger
    exact known.mpr ((ledger key inLedger).imp_right (sound.ledger key))
  · intro row mem
    rcases steps row mem with before | sameKey
    · exact known.mpr (.inr (sound.steps row before))
    · exact known.mpr (.inl sameKey.symm)
  · intro job mem
    rw [objects]
    exact ⟨oldJob job mem, fun _ _ => rfl⟩

theorem submit_sound (sound : Sound sub s) (apart : KeepsApart sub s (.submit id terms answered))
    (ran : submit sub s id terms answered = .ok next) : Sound sub next ∧ Kept s next := by
  obtain ⟨call, found, uploading, uploaded, outcome⟩ := submit_ok ran
  have live : call.phase.live = true := by
    rw [uploading]
    rfl
  have unknown := (sound.ofCall found).unknown live
  rcases outcome with ⟨created, creates, rfl⟩ | violates | rfl
  · obtain ⟨_, fresh, rfl, ledgerJobs⟩ := submitJobTx_ok creates
    rw [apart.2, if_pos rfl]
    refine sound.commits found uploading uploaded apart.1 fresh rfl rfl rfl
        (fun row mem => ?_) ledgerJobs
    refine (List.mem_append.mp mem).imp (fun old => old) fun new => ?_
    rw [Call.stepRows] at new
    split at new
    · cases new
    · rw [List.mem_singleton.mp new]
  · rcases submitJobTx_unique violates with known | known
    · exact (unknown known).elim
    · exact (unknown (sound.ledger call.key known)).elim
  · exact sound.fails found live rfl (by rw [uploading]; rfl)

end

theorem step_sound {event : Event} (sound : Sound sub s) (apart : KeepsApart sub s event)
    (ran : step sub s event = .ok next) : Sound sub next ∧ Kept s next := by
  cases event with
  | ledger => exact applyLedger_sound sound ran
  | setOrder =>
    cases ran
    refine ⟨{ sound with calls := ?_ }, Kept.refl s⟩
    exact fun call mem => (sound.calls call mem).congr rfl fun _ _ _ => rfl
  | createJob => exact createJob_sound sound ran
  | refuse => exact refuse_sound sound ran
  | checkFreeCredit => exact checkFreeCredit_sound sound ran
  | startUpload => exact startUpload_sound sound apart ran
  | putInput => exact putInput_sound sound ran
  | putTask => exact putTask_sound sound ran
  | shareTask => exact shareTask_sound sound ran
  | failHoneypot => exact apart.elim
  | fail => exact fail_sound sound apart ran
  | submit => exact submit_sound sound apart ran
  | discard => exact discard_sound sound apart ran
  | replayLost =>
    obtain ⟨call, found, lost, _⟩ := inPhase_ok ran
    exact ((sound.ofCall found).notLost lost).elim
  | crash => exact crash_sound sound apart ran

structure SubmissionsSound (s : State) : Prop where
  oneJob : ∀ left ∈ s.jobs.rows, ∀ right ∈ s.jobs.rows, left.key = right.key → left = right
  oneCreator : ∀ left ∈ s.calls.rows, ∀ right ∈ s.calls.rows,
    left.phase = .ended .created → right.phase = .ended .created →
      left.key = right.key → left = right
  intact : ∀ job ∈ s.jobs.rows, ∀ ref ∈ job.refs, (s.objects ref).isSome = true
  /-- What a call that ended without a job has written is gone. -/
  cleaned : ∀ call ∈ s.calls.rows, call.phase.live = false →
    call.phase ≠ .ended .created → ∀ ref, s.objects ref = some call.id → s.Referred ref
  /-- A call with another request than that of the job is not accepted. -/
  sameRequest : ∀ call ∈ s.calls.rows,
    call.phase = .ended .created ∨ call.phase = .ended .replayed →
      s.jobs.Holds call.key fun job => job.digest = call.digest

def State.without (s : State) (key : Key) : State :=
  { s with
    ledger := { s.ledger with jobs := s.ledger.jobs.remove key }
    steps := s.steps.filter fun row => !(row.job == key) }

/-- A call is not refused for funds or a project step because of what the same
submission has reserved. -/
def FairlyRefused (sub : Digest → Request) (s : State) : Event → Prop
  | .checkFreeCredit id =>
    ∀ call ∈ s.calls.find? id, call.phase = .admitted →
      freeCreditRemaining s.ledger ≤ 0 → freeCreditRemaining (s.without call.key).ledger ≤ 0
  | .submit id terms _ =>
    ∀ call ∈ s.calls.find? id, call.phase = .uploading →
      ((Money.reserveForJob (s.without call.key).ledger
          terms.prepaidRequired terms.hasPaymentMethod terms.plan).isOk →
        (Money.reserveForJob s.ledger terms.prepaidRequired
          terms.hasPaymentMethod terms.plan).isOk) ∧
      ((reserveProjectStep (s.without call.key) (sub call.digest).project terms.ceilingNanos).isOk →
        (reserveProjectStep s (sub call.digest).project terms.ceilingNanos).isOk)
  | _ => True

theorem Sound.submissions (sound : Sound sub s) : SubmissionsSound s where
  oneJob := fun _ leftMem _ rightMem => eq_of_key leftMem rightMem
  oneCreator := by
    intro left leftMem right rightMem leftCreated rightCreated sameKey
    exact sound.creators left leftMem right rightMem
        (by rw [leftCreated]; rfl) (by rw [rightCreated]; rfl) sameKey
  intact := fun job mem ref isRef => (sound.stored job mem ref isRef).2
  cleaned := by
    intro call mem ended _ ref own
    have found := find?_of_mem mem
    rcases sound.own found own with ⟨holds, _⟩ | referred
    · rw [Phase.live_of_holding holds] at ended
      cases ended
    · exact referred
  sameRequest := fun call mem => (sound.calls call mem).accepted

theorem Sound.without_eq (sound : Sound sub s) {key : Key}
    (unknown : ¬ s.Known key) : s.without key = s := by
  have noJob : s.ledger.jobs.find? key = none := by
    by_contra known
    exact unknown (sound.ledger key (Option.isSome_iff_ne_none.mpr known))
  have noSteps : (s.steps.filter fun row => !(row.job == key)) = s.steps := by
    apply List.filter_eq_self.mpr
    intro row mem
    have known := sound.steps row mem
    by_contra ofKey
    have sameKey : row.job = key := by simpa using ofKey
    rw [sameKey] at known
    exact unknown known
  rw [State.without, remove_of_none noJob, noSteps]

theorem Sound.fairlyRefused (sound : Sound sub s) (event : Event) : FairlyRefused sub s event := by
  have unreserved {id call} (found : s.calls.find? id = some call) (live : call.phase.live = true) :
      s.without call.key = s :=
    sound.without_eq ((sound.ofCall found).unknown live)
  cases event with
  | checkFreeCredit =>
    intro call found admitted spent
    rw [unreserved found (by rw [admitted]; rfl)]
    exact spent
  | submit =>
    intro call found uploading
    rw [unreserved found (by rw [uploading]; rfl)]
    exact ⟨fun same => same, fun same => same⟩
  | _ => trivial

/-- In every run whose calls keep apart, a repeated submission is one job with
its inputs intact. -/
theorem submissions_intact (sub : Digest → Request) (freeMicros : Int) (events : List Event)
    (apart : Meets (step sub) (KeepsApart sub) (.opened freeMicros) events) :
    Always (step sub) SubmissionsSound (.opened freeMicros) events ∧
      Meets (step sub)
        (fun s event => Kept s (apply (step sub) s event) ∧ FairlyRefused sub s event)
        (.opened freeMicros) events := by
  have preserved : ∀ s event next, Sound sub s → KeepsApart sub s event →
      step sub s event = .ok next → Sound sub next :=
    fun _ _ _ sound keepsApart committed => (step_sound sound keepsApart committed).1
  have opened : Sound sub (.opened freeMicros) := .opened freeMicros
  constructor
  · exact always_of_guarded preserved (fun _ sound => sound.submissions) opened apart
  · refine meets_of_guarded preserved ?_ opened apart
    intro s event sound keepsApart
    refine ⟨?_, sound.fairlyRefused event⟩
    cases outcome : step sub s event with
    | ok =>
      rw [apply_of_ok outcome]
      exact (step_sound sound keepsApart outcome).2
    | error =>
      rw [apply_of_error outcome]
      exact Kept.refl s

def inlineRequests : Digest → Request := fun _ => ⟨none, false, none⟩

def sixDollars : Terms where
  prepaidRequired := true
  hasPaymentMethod := false
  plan := ⟨3000000, 2, 0, 0, none, by decide, Int.zero_le_ofNat 0⟩
  ceilingNanos := 6000000000

def uploadedBy (id : CallId) : List Event := [.startUpload id, .putInput id, .putTask id]

/-- One of two concurrent calls creates the job and the other is cancelled
before its upload; then the submission is repeated, and a submission with
another key fails. -/
def repeatedSubmission : List Event :=
  [.ledger (.topup 10000000), .createJob 1 7 100, .createJob 2 7 100] ++
    uploadedBy 1 ++ [.refuse 2, .submit 1 sixDollars true] ++
    [.createJob 3 7 100, .createJob 4 7 200, .createJob 5 8 100] ++
    uploadedBy 5 ++ [.fail 5 true, .discard 5 fun _ => true]

set_option maxRecDepth 2000 in
theorem submissions_intact_repeated :
    ((run (step inlineRequests) (.opened 0) repeatedSubmission).calls.rows.map Call.phase =
      [.ended .created, .ended .refused, .ended .replayed, .ended .conflict, .ended .refused]) ∧
      Always (step inlineRequests) SubmissionsSound (.opened 0) repeatedSubmission ∧
      Meets (step inlineRequests)
        (fun s event =>
          Kept s (apply (step inlineRequests) s event) ∧
            FairlyRefused inlineRequests s event)
        (.opened 0) repeatedSubmission :=
  ⟨by decide, submissions_intact inlineRequests 0 repeatedSubmission (by decide)⟩

/-- Two calls with one key and one request, both past their uploads.  The
reservation of the first leaves too little for the second, which then removes
the input they share. -/
def doubleSubmission : List Event :=
  [.ledger (.topup 10000000), .createJob 1 7 100, .createJob 2 7 100] ++
    uploadedBy 1 ++ uploadedBy 2 ++
    [.submit 1 sixDollars true, .submit 2 sixDollars true, .discard 2 fun _ => true]

set_option maxRecDepth 2000 in
theorem doubleSubmission_removes_input :
    ¬ Always (step inlineRequests) SubmissionsSound (.opened 0) doubleSubmission := by
  intro always
  have sound := (always_iff_prefixes _ _).mp always doubleSubmission List.prefix_rfl
  have stored :=
    sound.intact ⟨7, 100, ⟨7, .input 100⟩, [⟨7, .task 0⟩]⟩ (by decide) ⟨7, .input 100⟩ (by decide)
  exact absurd stored (by decide)

end MercControl.Submission
