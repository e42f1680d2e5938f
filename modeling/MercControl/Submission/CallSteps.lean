import MercControl.Money.LedgerInvariant
import MercControl.Submission.Submissions

/-!
# Calls that keep apart

As long as no two calls with one key have objects in the store, and none is
left when the job is created, the objects under a key belong to one call or to
the job.  `Sound` says so for a state.
-/

namespace MercControl.Submission

open Library Table

variable {sub : Digest → Request}

def Apart (s : State) (id : CallId) (phases : Phase → Bool) : Prop :=
  ∀ call ∈ s.calls.find? id, ∀ other ∈ s.calls.rows,
    other.key = call.key → phases other.phase = true → other.id = id
  deriving Decidable

/-- An upload starts when no other call with the key has objects in the store,
and a submission is sent when no other call with the key is in flight.  No call
forgets objects it has stored. -/
def KeepsApart (sub : Digest → Request) (s : State) : Event → Prop
  | .startUpload id => Apart s id Phase.holding
  | .submit id _ answered => Apart s id Phase.live ∧ answered = true
  | .fail id keepsTasks => keepsTasks = true ∨ ∀ call ∈ s.calls.find? id, call.tasks = []
  | .failHoneypot _ => False
  | .discard id removed => ∀ call ∈ s.calls.find? id, ∀ ref ∈ call.orphans sub, removed ref = true
  | .crash id => ∀ call ∈ s.calls.find? id, call.phase.holding = false
  | _ => True

instance (sub : Digest → Request) (s : State) (event : Event) :
    Decidable (KeepsApart sub s event) := by
  cases event <;> unfold KeepsApart <;> infer_instance

def State.Known (s : State) (key : Key) : Prop := (s.jobs.find? key).isSome = true

structure CallSound (sub : Digest → Request) (s : State) (call : Call) : Prop where
  unknown : call.phase.live = true → ¬ s.Known call.key
  notLost : call.phase ≠ .lost
  nothingYet : call.phase = .admitted → call.inputPut = false ∧ call.tasks = []
  taskKeys : ∀ ref ∈ call.tasks, ref.key = call.key
  inputStored : call.phase = .uploading → call.inputPut = true →
    (s.objects call.canonicalInput).isSome = true
  tasksStored : call.phase = .uploading → ∀ ref ∈ call.tasks,
    ref ∈ call.ownedInput sub ∨ (s.objects ref).isSome = true
  sourceStored : call.phase = .uploading →
    ∀ ref ∈ (sub call.digest).source, s.Known ref.key ∧ (s.objects ref).isSome = true
  accepted : call.phase = .ended .created ∨ call.phase = .ended .replayed →
    s.jobs.Holds call.key fun job => job.digest = call.digest

def Phase.created : Phase → Bool
  | .ended .created => true
  | _ => false

def OnePerKey (phases : Phase → Bool) (calls : Table Call.id) : Prop :=
  ∀ left ∈ calls.rows, ∀ right ∈ calls.rows,
    phases left.phase = true → phases right.phase = true → left.key = right.key → left = right

/-- The object is one that the call removes if it fails. -/
def State.Held (sub : Digest → Request) (s : State) (ref : Ref) (id : CallId) : Prop :=
  s.calls.Holds id fun call => call.phase.holding = true ∧ ref ∈ call.orphans sub

def State.Referred (s : State) (ref : Ref) : Prop := ∃ job ∈ s.jobs.rows, ref ∈ job.refs

structure Sound (sub : Digest → Request) (s : State) : Prop where
  calls : ∀ call ∈ s.calls.rows, CallSound sub s call
  holders : OnePerKey Phase.holding s.calls
  creators : OnePerKey Phase.created s.calls
  written : ∀ ref id, s.objects ref = some id → s.Held sub ref id ∨ s.Referred ref
  stored : ∀ job ∈ s.jobs.rows, ∀ ref ∈ job.refs, s.Known ref.key ∧ (s.objects ref).isSome = true
  ledger : ∀ key, (s.ledger.jobs.find? key).isSome = true → s.Known key
  steps : ∀ row ∈ s.steps, s.Known row.job

/-- The jobs and the objects they refer to stay as they are. -/
def Kept (s next : State) : Prop :=
  ∀ job ∈ s.jobs.rows, job ∈ next.jobs.rows ∧ ∀ ref ∈ job.refs, next.objects ref = s.objects ref

variable {phase : Phase} {ref : Ref} {tasks : List Ref} {call : Call}

theorem Sound.opened (freeMicros : Int) : Sound sub (.opened freeMicros) := by
  constructor <;> exact nofun

section

variable {phases : Phase → Bool} {calls : Table Call.id}

theorem OnePerKey.set (one : OnePerKey phases calls)
    (alone : phases call.phase = true → ∀ other ∈ calls.rows,
      other.key = call.key → phases other.phase = true → other.id = call.id) :
    OnePerKey phases (calls.set call) := by
  intro left leftMem right rightMem leftIn rightIn sameKey
  rcases mem_set leftMem with rfl | ⟨leftOld, leftOther⟩ <;>
    rcases mem_set rightMem with rfl | ⟨rightOld, rightOther⟩
  · rfl
  · exact (rightOther (alone leftIn right rightOld sameKey.symm rightIn)).elim
  · exact (leftOther (alone rightIn left leftOld sameKey leftIn)).elim
  · exact one left leftOld right rightOld leftIn rightIn sameKey

theorem OnePerKey.insert (one : OnePerKey phases calls) (fresh : calls.find? call.id = none)
    (outside : phases call.phase = false) : OnePerKey phases (calls.insert call fresh) := by
  have notNew : ∀ other ∈ (calls.insert call fresh).rows,
      phases other.phase = true → other ∈ calls.rows := by
    intro other mem inside
    rcases mem_insert.mp mem with old | rfl
    · exact old
    · rw [outside] at inside
      cases inside
  intro left leftMem right rightMem leftIn rightIn sameKey
  exact one left (notNew left leftMem leftIn) right
      (notNew right rightMem rightIn) leftIn rightIn sameKey

end

section

variable {s next : State} {id : CallId} {changed : Call}

theorem inPhase_ok {body : Call → Except Failure State} (ran : s.inPhase id phase body = .ok next) :
    ∃ call, s.calls.find? id = some call ∧ call.phase = phase ∧ body call = .ok next := by
  rw [State.inPhase] at ran
  cases found : s.calls.find? id with
  | none =>
    rw [found] at ran
    cases ran
  | some call =>
    rw [found] at ran
    simp only at ran
    split_ifs at ran with inPhase
    exact ⟨call, rfl, inPhase, ran⟩

theorem Phase.live_of_holding (holding : phase.holding = true) : phase.live = true := by
  cases phase <;> first | rfl | cases holding

/-- What other calls and the jobs see of a call that moves on: only a call
with objects in the store touches objects, and only those under its key. -/
structure Rewrites (s next : State) (call changed : Call) : Prop where
  calls : next.calls = s.calls.set changed
  jobs : next.jobs = s.jobs
  ledger : next.ledger = s.ledger
  steps : next.steps = s.steps
  sameId : changed.id = call.id
  sameKey : changed.key = call.key
  objects : ∀ ref, next.objects ref = s.objects ref ∨
    (call.phase.holding = true ∧ ref.key = call.key ∧
      (next.objects ref = none ∨ next.objects ref = some call.id))

theorem CallSound.congr (sound : CallSound sub s call) (jobs : next.jobs = s.jobs)
    (objects : call.phase = .uploading → ∀ ref,
      ref.key = call.key ∨ s.Known ref.key → next.objects ref = s.objects ref) :
    CallSound sub next call := by
  obtain ⟨unknown, notLost, nothingYet, taskKeys, inputStored, tasksStored,
    sourceStored, accepted⟩ := sound
  refine ⟨?_, notLost, nothingYet, taskKeys, ?_, ?_, ?_, ?_⟩
  · rw [State.Known, jobs]
    exact unknown
  · intro uploading put
    rw [objects uploading _ (.inl rfl)]
    exact inputStored uploading put
  · intro uploading ref mem
    rw [objects uploading ref (.inl (taskKeys ref mem))]
    exact tasksStored uploading ref mem
  · intro uploading ref mem
    have stored := sourceStored uploading ref mem
    rw [State.Known, jobs, objects uploading ref (.inr stored.1)]
    exact stored
  · rw [jobs]
    exact accepted

section

variable (sound : Sound sub s) (found : s.calls.find? id = some call)

include sound found

theorem Sound.ofCall : CallSound sub s call :=
  sound.calls call (mem_of_find? found)

theorem Sound.own (own : s.objects ref = some id) :
    (call.phase.holding = true ∧ ref ∈ call.orphans sub) ∨ s.Referred ref := by
  rcases sound.written ref id own with ⟨holder, isHolder, held⟩ | referred
  · rw [found] at isHolder
    cases isHolder
    exact .inl held
  · exact .inr referred

theorem Sound.rewrite (live : call.phase.live = true) (rewrites : Rewrites s next call changed)
    (callSound : CallSound sub next changed) (notCreated : changed.phase.created = false)
    (alone : changed.phase.holding = true → call.phase.holding = true ∨ Apart s id Phase.holding)
    (own : ∀ ref, next.objects ref = some id →
      (changed.phase.holding = true ∧ ref ∈ changed.orphans sub) ∨ s.Referred ref) :
    Sound sub next ∧ Kept s next := by
  have mem := mem_of_find? found
  obtain rfl : changed.id = id := rewrites.sameId.trans (key_of_find? found)
  have unknown := (sound.ofCall found).unknown live
  have known {ref} (known : s.Known ref.key) : next.objects ref = s.objects ref := by
    rcases rewrites.objects ref with same | ⟨_, sameKey, _⟩
    · exact same
    · rw [sameKey] at known
      exact (unknown known).elim
  have notOther : ∀ other ∈ s.calls.rows, other.phase.holding = true →
      other.key = call.key → call.phase.holding = true → other.id = changed.id := by
    intro other otherMem otherHolds sameKey holds
    rw [sound.holders other otherMem call mem otherHolds holds sameKey]
    exact rewrites.sameId.symm
  refine ⟨⟨?_, ?_, ?_, ?_, ?_, ?_, ?_⟩, ?_⟩
  · rw [rewrites.calls]
    intro other otherMem
    rcases mem_set otherMem with rfl | ⟨old, ne⟩
    · exact callSound
    · apply (sound.calls other old).congr rewrites.jobs
      rintro uploading ref (sameKey | isKnown)
      · rcases rewrites.objects ref with same | ⟨holds, ofCall, _⟩
        · exact same
        · have isCall :=
            notOther other old (by rw [uploading]; rfl) (sameKey.symm.trans ofCall) holds
          exact (ne isCall).elim
      · exact known isKnown
  · rw [rewrites.calls]
    apply sound.holders.set
    intro holding other otherMem sameKey otherHolds
    rw [rewrites.sameKey] at sameKey
    rcases alone holding with before | apart
    · exact notOther other otherMem otherHolds sameKey before
    · exact apart call found other otherMem sameKey otherHolds
  · rw [rewrites.calls]
    apply sound.creators.set
    intro created
    rw [notCreated] at created
    cases created
  · intro ref writer stored
    rw [State.Referred, rewrites.jobs, State.Held, rewrites.calls]
    by_cases isCall : writer = changed.id
    · rw [isCall] at stored ⊢
      exact (own ref stored).imp_left fun held => ⟨changed, find?_set_self found, held⟩
    · have before : s.objects ref = some writer := by
        rcases rewrites.objects ref with same | ⟨_, _, none | new⟩
        · exact same.symm.trans stored
        · rw [none] at stored
          cases stored
        · rw [new, ← rewrites.sameId] at stored
          exact (isCall (Option.some.inj stored).symm).elim
      refine (sound.written ref writer before).imp_left fun held => ?_
      apply held.set found
      exact fun isWriter => (isCall isWriter.symm).elim
  · rw [rewrites.jobs]
    intro job jobMem ref isRef
    have stored := sound.stored job jobMem ref isRef
    rw [State.Known, rewrites.jobs, known stored.1]
    exact stored
  · intro key
    rw [rewrites.ledger, State.Known, rewrites.jobs]
    exact sound.ledger key
  · intro row
    rw [rewrites.steps, State.Known, rewrites.jobs]
    exact sound.steps row
  · intro job jobMem
    rw [rewrites.jobs]
    exact ⟨jobMem, fun ref isRef => known (sound.stored job jobMem ref isRef).1⟩

end

theorem rewrites_setCall (sameId : changed.id = call.id) (sameKey : changed.key = call.key) :
    Rewrites s (s.setCall changed) call changed where
  calls := rfl
  jobs := rfl
  ledger := rfl
  steps := rfl
  sameId
  sameKey
  objects := fun _ => .inl rfl

def Phase.failed : Phase → Bool
  | .discarding => true
  | .ended .refused => true
  | .ended .crashed => true
  | _ => false

theorem CallSound.fails (sound : CallSound sub s call)
    (live : call.phase.live = true) (jobs : next.jobs = s.jobs) (failed : phase.failed = true) :
    CallSound sub next { call with phase } := by
  have notUploading : phase ≠ .uploading := by
    rintro rfl
    cases failed
  constructor
  case unknown =>
    intro _
    rw [State.Known, jobs]
    exact sound.unknown live
  case notLost | nothingYet =>
    rintro rfl
    cases failed
  case taskKeys => exact sound.taskKeys
  case inputStored | tasksStored | sourceStored =>
    intro uploading
    exact (notUploading uploading).elim
  case accepted =>
    rintro (rfl | rfl)
    all_goals cases failed

theorem Phase.created_of_failed (failed : phase.failed = true) : phase.created = false := by
  cases phase with
  | ended outcome => cases outcome <;> first | rfl | cases failed
  | _ => rfl

theorem Sound.fails (sound : Sound sub s) (found : s.calls.find? id = some call)
    (live : call.phase.live = true) (failed : phase.failed = true)
    (holding : phase.holding = call.phase.holding) :
    Sound sub (s.setCall { call with phase }) ∧ Kept s (s.setCall { call with phase }) := by
  refine sound.rewrite found live (rewrites_setCall rfl rfl) ?_ ?_ ?_ ?_
  · exact (sound.ofCall found).fails live rfl failed
  · exact Phase.created_of_failed failed
  · intro holds
    exact .inl (holding.symm.trans holds)
  · intro ref own
    refine (sound.own found own).imp_left fun held => ?_
    exact ⟨holding.trans held.1, held.2⟩

end

variable {inputPut : Bool} {written : Ref} {digest : Digest}

section

variable {s next : State} {id : CallId}

theorem refuse_sound (sound : Sound sub s)
    (ran : refuse s id = .ok next) : Sound sub next ∧ Kept s next := by
  obtain ⟨_, found, admitted, ⟨⟩⟩ := inPhase_ok ran
  exact sound.fails found (by rw [admitted]; rfl) rfl (by rw [admitted]; rfl)

theorem Kept.refl (s : State) : Kept s s := fun _ mem => ⟨mem, fun _ _ => rfl⟩

theorem checkFreeCredit_sound (sound : Sound sub s) (ran : checkFreeCredit s id = .ok next) :
    Sound sub next ∧ Kept s next := by
  obtain ⟨_, found, admitted, ends⟩ := inPhase_ok ran
  split_ifs at ends
  · cases ends
    exact sound.fails found (by rw [admitted]; rfl) rfl (by rw [admitted]; rfl)
  · cases ends
    exact ⟨sound, Kept.refl s⟩

theorem crash_sound (sound : Sound sub s) (apart : KeepsApart sub s (.crash id))
    (ran : crash s id = .ok next) : Sound sub next ∧ Kept s next := by
  rw [crash] at ran
  cases found : s.calls.find? id with
  | none =>
    rw [found] at ran
    cases ran
  | some call =>
    rw [found] at ran
    simp only at ran
    split_ifs at ran with live
    cases ran
    exact sound.fails found live rfl (apart call found).symm

theorem startUpload_ok (ran : startUpload sub s id = .ok next) :
    ∃ call, s.calls.find? id = some call ∧ call.phase = .admitted ∧
      (∀ ref ∈ (sub call.digest).source, s.Known ref.key ∧ (s.objects ref).isSome = true) ∧
      next = s.setCall { call with phase := .uploading } := by
  obtain ⟨call, found, admitted, starts⟩ := inPhase_ok ran
  refine ⟨call, found, admitted, ?_⟩
  cases source : (sub call.digest).source with
  | none =>
    rw [source] at starts
    cases starts
    exact ⟨nofun, rfl⟩
  | some =>
    rw [source] at starts
    simp only at starts
    split_ifs at starts with readable
    cases starts
    refine ⟨?_, rfl⟩
    rintro ref ⟨⟩
    exact readable

theorem startUpload_sound (sound : Sound sub s) (apart : Apart s id Phase.holding)
    (ran : startUpload sub s id = .ok next) : Sound sub next ∧ Kept s next := by
  obtain ⟨call, found, admitted, source, rfl⟩ := startUpload_ok ran
  have live : call.phase.live = true := by
    rw [admitted]
    rfl
  have callSound := sound.ofCall found
  obtain ⟨noInput, noTasks⟩ := callSound.nothingYet admitted
  refine sound.rewrite found live (rewrites_setCall rfl rfl) ?_ ?_ ?_ ?_
  · refine ⟨fun _ => callSound.unknown live, nofun, nofun, callSound.taskKeys, ?_,
        ?_, fun _ => source, nofun⟩
    · intro _ put
      rw [noInput] at put
      cases put
    · intro _ ref mem
      rw [noTasks] at mem
      cases mem
  · rfl
  · exact fun _ => .inr apart
  · intro ref own
    rcases sound.own found own with ⟨holds, _⟩ | referred
    · rw [admitted] at holds
      cases holds
    · exact .inr referred

theorem Call.mem_ownedInput :
    ref ∈ call.ownedInput sub ↔ (sub call.digest).source = none ∧ ref = call.canonicalInput := by
  rw [Call.ownedInput]
  cases (sub call.digest).source <;> simp

theorem Call.key_of_mem_ownedInput (owned : ref ∈ call.ownedInput sub) : ref.key = call.key := by
  rw [(Call.mem_ownedInput.mp owned).2]
  rfl

theorem Sound.uploads (sound : Sound sub s)
    (found : s.calls.find? id = some call) (uploading : call.phase = .uploading)
    (rewrites : Rewrites s next call { call with inputPut, tasks })
    (grows : ∀ ref, (s.objects ref).isSome = true →
      (next.objects ref).isSome = true) (kept : ∀ ref ∈ call.tasks, ref ∈ tasks)
    (inputStored : inputPut = true → call.inputPut = true ∨
      (next.objects call.canonicalInput).isSome = true)
    (tasksStored : ∀ ref ∈ tasks, ref ∈ call.tasks ∨
      ref ∈ call.ownedInput sub ∨ (ref.key = call.key ∧ (next.objects ref).isSome = true))
    (own : ∀ ref, next.objects ref = some id → s.objects ref = some id ∨
      ref ∈ call.ownedInput sub ++ tasks) : Sound sub next ∧ Kept s next := by
  have callSound := sound.ofCall found
  have live : call.phase.live = true := by
    rw [uploading]
    rfl
  have holding : call.phase.holding = true := by
    rw [uploading]
    rfl
  have known {key} : next.Known key ↔ s.Known key := by
    rw [State.Known, State.Known, rewrites.jobs]
  apply sound.rewrite found live rewrites
  · refine ⟨?_, callSound.notLost, ?_, ?_, ?_, ?_, ?_, ?_⟩
    · intro _ isKnown
      exact callSound.unknown live (known.mp isKnown)
    · intro admitted
      cases uploading.symm.trans admitted
    · intro ref mem
      rcases tasksStored ref mem with old | owned | ⟨sameKey, _⟩
      · exact callSound.taskKeys ref old
      · exact Call.key_of_mem_ownedInput owned
      · exact sameKey
    · intro _ put
      rcases inputStored put with old | stored
      · exact grows _ (callSound.inputStored uploading old)
      · exact stored
    · intro _ ref mem
      rcases tasksStored ref mem with old | owned | ⟨_, stored⟩
      · exact (callSound.tasksStored uploading ref old).imp_right (grows ref)
      · exact .inl owned
      · exact .inr stored
    · intro _ ref mem
      have stored := callSound.sourceStored uploading ref mem
      exact ⟨known.mpr stored.1, grows ref stored.2⟩
    · rintro (created | replayed)
      · cases uploading.symm.trans created
      · cases uploading.symm.trans replayed
  · simp [uploading, Phase.created]
  · exact fun _ => .inl holding
  · intro ref mine
    rcases own ref mine with old | listed
    · refine (sound.own found old).imp_left fun held => ⟨held.1, ?_⟩
      rcases List.mem_append.mp held.2 with owned | task
      · exact List.mem_append_left _ owned
      · exact List.mem_append_right _ (kept ref task)
    · exact .inl ⟨holding, listed⟩

section

variable (sound : Sound sub s)

include sound

theorem Sound.puts (found : s.calls.find? id = some call)
    (uploading : call.phase = .uploading) (ofCall : written.key = call.key)
    (calls : next.calls = s.calls.set { call with inputPut, tasks })
    (jobs : next.jobs = s.jobs) (ledger : next.ledger = s.ledger) (steps : next.steps = s.steps)
    (objects : next.objects = Function.update s.objects written (some call.id))
    (listed : written ∈ call.ownedInput sub ++ tasks) (kept : ∀ ref ∈ call.tasks, ref ∈ tasks)
    (input : inputPut = true → call.inputPut = true ∨ written = call.canonicalInput)
    (new : ∀ ref ∈ tasks, ref ∈ call.tasks ∨ ref = written) : Sound sub next ∧ Kept s next := by
  have stored : next.objects written = some call.id := by rw [objects, Function.update_self]
  have others : ∀ ref, ref ≠ written → next.objects ref = s.objects ref := by
    intro ref ne
    rw [objects, Function.update_of_ne ne]
  have rewrites : Rewrites s next call { call with inputPut, tasks } := by
    refine ⟨calls, jobs, ledger, steps, rfl, rfl, ?_⟩
    intro ref
    by_cases isWritten : ref = written
    · rw [isWritten]
      exact .inr ⟨by rw [uploading]; rfl, ofCall, .inr stored⟩
    · exact .inl (others ref isWritten)
  apply sound.uploads found uploading rewrites
  · intro ref before
    rw [objects, Function.update_apply]
    split_ifs
    · rfl
    · exact before
  · exact kept
  · intro put
    refine (input put).imp_right fun isInput => ?_
    rw [← isInput, stored]
    rfl
  · intro ref mem
    rcases new ref mem with old | rfl
    · exact .inl old
    · refine .inr (.inr ⟨ofCall, ?_⟩)
      rw [stored]
      rfl
  · intro ref mine
    by_cases isWritten : ref = written
    · rw [isWritten]
      exact .inr listed
    · exact .inl ((others ref isWritten).symm.trans mine)

theorem putInput_sound (ran : putInput sub s id = .ok next) : Sound sub next ∧ Kept s next := by
  obtain ⟨call, found, uploading, puts⟩ := inPhase_ok ran
  split_ifs at puts with inline
  cases puts
  have owned : call.canonicalInput ∈ call.ownedInput sub :=
    Call.mem_ownedInput.mpr ⟨Option.isNone_iff_eq_none.mp inline, rfl⟩
  exact sound.puts found uploading rfl rfl rfl rfl rfl rfl
      (List.mem_append_left _ owned) (fun _ mem => mem)
      (fun _ => .inr rfl) fun _ mem => .inl mem

theorem putTask_sound (ran : putTask s id = .ok next) : Sound sub next ∧ Kept s next := by
  obtain ⟨_, found, uploading, ⟨⟩⟩ := inPhase_ok ran
  refine sound.puts found uploading rfl rfl rfl rfl rfl rfl ?_
      (fun _ mem => List.mem_append_left _ mem) .inl
      fun _ mem => (List.mem_append.mp mem).imp_right List.mem_singleton.mp
  exact List.mem_append_right _ (List.mem_append_right _ (List.mem_singleton_self _))

theorem shareTask_sound (ran : shareTask sub s id ref = .ok next) :
    Sound sub next ∧ Kept s next := by
  obtain ⟨_, found, uploading, shares⟩ := inPhase_ok ran
  split_ifs at shares with there
  cases shares
  refine sound.uploads found uploading (rewrites_setCall rfl rfl) ?_ ?_ ?_ ?_ ?_
  · exact fun _ stored => stored
  · exact fun _ mem => List.mem_append_left _ mem
  · exact .inl
  · intro other mem
    rcases List.mem_append.mp mem with old | new
    · exact .inl old
    · rw [List.mem_singleton.mp new]
      exact there.imp_right fun media => .inl media.2
  · exact fun _ mine => .inl mine

theorem fail_sound {keepsTasks : Bool} (apart : KeepsApart sub s (.fail id keepsTasks))
    (ran : fail s id keepsTasks = .ok next) : Sound sub next ∧ Kept s next := by
  obtain ⟨call, found, uploading, ⟨⟩⟩ := inPhase_ok ran
  have sameTasks : (if keepsTasks then call.tasks else []) = call.tasks := by
    rcases apart with keeps | empty
    · rw [keeps, if_pos rfl]
    · rw [empty call found, ite_self]
  rw [sameTasks]
  exact sound.fails found (by rw [uploading]; rfl) rfl (by rw [uploading]; rfl)

theorem discard_sound {removed : Ref → Bool} (apart : KeepsApart sub s (.discard id removed))
    (ran : discardOrphanedJobObjects sub s id removed = .ok next) :
    Sound sub next ∧ Kept s next := by
  obtain ⟨call, found, discarding, discards⟩ := inPhase_ok ran
  have live : call.phase.live = true := by
    rw [discarding]
    rfl
  have callSound := sound.ofCall found
  have objects : ∀ ref, next.objects ref =
      if ref ∈ call.orphans sub then none else s.objects ref := by
    intro ref
    cases discards
    by_cases orphan : ref ∈ call.orphans sub
    · simp [orphan, apart call found ref orphan]
    · simp [orphan]
  have rewrites : Rewrites s next call { call with phase := .ended .refused } := by
    refine ⟨?_, ?_, ?_, ?_, rfl, rfl, ?_⟩
    case refine_5 =>
      intro ref
      rw [objects]
      split_ifs with orphan
      · refine .inr ⟨by rw [discarding]; rfl, ?_, .inl rfl⟩
        rcases List.mem_append.mp orphan with owned | task
        · exact Call.key_of_mem_ownedInput owned
        · exact callSound.taskKeys ref task
      · exact .inl rfl
    all_goals
      cases discards
      rfl
  apply sound.rewrite found live rewrites
  · exact callSound.fails live rewrites.jobs rfl
  · rfl
  · exact nofun
  intro ref mine
  rw [objects] at mine
  split_ifs at mine with orphan
  rcases sound.own found mine with ⟨_, listed⟩ | referred
  · exact (orphan listed).elim
  · exact .inr referred

end

theorem createJob_ok {key : Key} (ran : createJob s id key digest = .ok next) :
    ∃ phase, ∃ fresh : s.calls.find? id = none,
      next = { s with calls := s.calls.insert ⟨id, key, digest, phase, false, []⟩ fresh } ∧
      ((phase = .admitted ∧ ¬ s.Known key) ∨
        (phase = .ended .replayed ∧ s.jobs.Holds key fun job => job.digest = digest) ∨
        phase = .ended .conflict) := by
  rw [createJob] at ran
  split_ifs at ran with fresh
  refine ⟨_, fresh, (Except.ok.inj ran).symm, ?_⟩
  rw [jobSubmissionReplay, State.Known]
  cases found : s.jobs.find? key with
  | none => exact .inl ⟨rfl, by simp⟩
  | some job =>
    by_cases same : job.digest = digest
    · exact .inr (.inl ⟨by simp [same], job, found, same⟩)
    · exact .inr (.inr (by simp [same]))

theorem createJob_sound {key : Key} (sound : Sound sub s)
    (ran : createJob s id key digest = .ok next) : Sound sub next ∧ Kept s next := by
  obtain ⟨phase, fresh, rfl, phases⟩ := createJob_ok ran
  have callSound : CallSound sub s ⟨id, key, digest, phase, false, []⟩ := by
    rcases phases with ⟨rfl, unknown⟩ | ⟨rfl, holds⟩ | rfl
    · exact ⟨fun _ => unknown, nofun, fun _ => ⟨rfl, rfl⟩, nofun, nofun, nofun, nofun, nofun⟩
    · exact ⟨nofun, nofun, nofun, nofun, nofun, nofun, nofun, fun _ => holds⟩
    · exact ⟨nofun, nofun, nofun, nofun, nofun, nofun, nofun, nofun⟩
  have newCall : ∀ call, CallSound sub s call → CallSound sub
        { s with calls := s.calls.insert ⟨id, key, digest, phase, false, []⟩ fresh }
        call := by
    intro call before
    exact before.congr rfl fun _ _ _ => rfl
  refine ⟨⟨?_, ?_, ?_, ?_, sound.stored, sound.ledger, sound.steps⟩, Kept.refl s⟩
  · exact forall_insert fresh (fun call mem => newCall call (sound.calls call mem))
        (newCall _ callSound)
  · apply sound.holders.insert fresh
    rcases phases with ⟨rfl, _⟩ | ⟨rfl, _⟩ | rfl <;> rfl
  · apply sound.creators.insert fresh
    rcases phases with ⟨rfl, _⟩ | ⟨rfl, _⟩ | rfl <;> rfl
  · intro ref writer stored
    exact (sound.written ref writer stored).imp_left fun held => held.insert fresh

theorem applyLedger_sound {event : Money.Event} (sound : Sound sub s)
    (ran : applyLedger s event = .ok next) : Sound sub next ∧ Kept s next := by
  rw [applyLedger] at ran
  split_ifs at ran with submits
  cases outcome : Money.step s.ledger event with
  | error =>
    rw [outcome] at ran
    cases ran
  | ok ledger =>
    rw [outcome] at ran
    cases ran
    refine ⟨{ sound with calls := ?_, ledger := ?_ }, Kept.refl s⟩
    · intro call mem
      exact (sound.calls call mem).congr rfl fun _ _ _ => rfl
    · intro key known
      have same := Money.step_isSome_find? (Bool.eq_false_iff.mpr submits) outcome key
      exact sound.ledger key (same.symm.trans known)

end

end MercControl.Submission
