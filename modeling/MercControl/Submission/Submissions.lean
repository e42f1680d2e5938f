import MercControl.Money.BuyerOperations

/-!
# Submissions of a buyer

`createJob` looks the idempotency key up, uploads the input, and only then runs
`SubmitJobTx`, which decides which of several calls with one key creates the
job.  A call that fails after its upload removes the objects it knows of.

The job id is derived from the buyer and the key, so the key stands for it.
`sub` gives the request with a digest.
-/

namespace MercControl.Submission

open Library
open Money (JobId)

/-- `Idempotency-Key`, and the job id that is derived from it. -/
abbrev Key := JobId
abbrev CallId := Nat
/-- `RequestSHA256`. -/
abbrev Digest := Nat

inductive Place where
  /-- `jobs/<key>/requests/<digest>/input.jsonl`. -/
  | input (digest : Digest)
  /-- `jobs/<key>/tasks/<uuid>/input.jsonl`. -/
  | task (uuid : Nat)
  deriving DecidableEq

structure Ref where
  key : Key
  place : Place
  deriving DecidableEq

structure ProjectStep where
  order : Nat
  step : Nat
  deriving DecidableEq

/-- The parts of a request that decide which objects and rows it writes. -/
structure Request where
  /-- `s3_key`; without one the input is in the request itself. -/
  source : Option Ref
  /-- A media job: its tasks read the whole input object. -/
  media : Bool
  project : Option ProjectStep

structure Job where
  key : Key
  /-- `submit_request_sha256`. -/
  digest : Digest
  inputRef : Ref
  /-- `tasks.input_ref`. -/
  tasks : List Ref
  deriving DecidableEq

def Job.refs (job : Job) : List Ref := job.inputRef :: job.tasks

structure ProjectOrder where
  ceilingNanos : Int
  isOpen : Bool

structure StepRow where
  project : ProjectStep
  job : Key
  ceilingNanos : Int

inductive Outcome where
  | created
  | replayed
  | conflict
  | refused
  /-- The process died. -/
  | crashed
  deriving DecidableEq

inductive Phase where
  /-- The key was not found. -/
  | admitted
  | uploading
  /-- The call failed and `discardOrphanedJobObjects` is due. -/
  | discarding
  /-- `SubmitJobTx` ended in a unique violation; the cleanup is disarmed. -/
  | lost
  | ended (outcome : Outcome)
  deriving DecidableEq

def Phase.live : Phase → Bool
  | .ended _ => false
  | _ => true

def Phase.holding : Phase → Bool
  | .uploading => true
  | .discarding => true
  | .lost => true
  | _ => false

structure Call where
  id : CallId
  key : Key
  digest : Digest
  phase : Phase
  /-- The upload of `ownedInputKey` is complete. -/
  inputPut : Bool
  /-- `InputRef` of the task rows built so far. -/
  tasks : List Ref

/-- `jobRequestObjectPrefix`. -/
def Call.canonicalInput (call : Call) : Ref := ⟨call.key, .input call.digest⟩

/-- `ownedInputKey`. -/
def Call.ownedInput (sub : Digest → Request) (call : Call) : List Ref :=
  match (sub call.digest).source with
  | none => [call.canonicalInput]
  | some _ => []

/-- What `discardOrphanedJobObjects` removes. -/
def Call.orphans (sub : Digest → Request) (call : Call) : List Ref :=
  call.ownedInput sub ++ call.tasks

/-- `inputKey`. -/
def Call.inputRef (sub : Digest → Request) (call : Call) : Ref :=
  ((sub call.digest).source).getD call.canonicalInput

structure State where
  ledger : Money.State
  jobs : Table Job.key
  steps : List StepRow
  orders : Nat → Option ProjectOrder
  /-- The call that wrote the object last. -/
  objects : Ref → Option CallId
  /-- The next `uuid.New()`. -/
  uuid : Nat
  calls : Table Call.id

def State.opened (freeMicros : Int) : State where
  ledger := .opened freeMicros
  jobs := .empty
  steps := []
  orders := fun _ => none
  objects := fun _ => none
  uuid := 0
  calls := .empty

inductive Failure where
  | noCall
  | notAllowed
  | funds (failure : Money.Failure)
  | projectOrderNotFound
  | projectOrderClosed
  | projectStepReserved
  | projectBudget
  | uniqueViolation

/-- How a call with the key ends, if the key is known. -/
def jobSubmissionReplay (s : State) (key : Key) (digest : Digest) : Option Outcome :=
  match s.jobs.find? key with
  | none => none
  | some job => some (if job.digest = digest then .replayed else .conflict)

def createJob (s : State) (id : CallId) (key : Key) (digest : Digest) : Except Failure State :=
  let phase :=
    match jobSubmissionReplay s key digest with
    | none => .admitted
    | some outcome => .ended outcome
  if fresh : s.calls.find? id = none then
    .ok { s with calls := s.calls.insert ⟨id, key, digest, phase, false, []⟩ fresh }
  else .error .noCall

/-- A transaction of a call that is in the given phase. -/
def State.inPhase (s : State) (id : CallId) (phase : Phase)
    (body : Call → Except Failure State) : Except Failure State :=
  match s.calls.find? id with
  | none => .error .noCall
  | some call => if call.phase = phase then body call else .error .noCall

def State.setCall (s : State) (call : Call) : State := { s with calls := s.calls.set call }

def refuse (s : State) (id : CallId) : Except Failure State :=
  s.inPhase id .admitted fun call => .ok (s.setCall { call with phase := .ended .refused })

def freeCreditRemaining (ledger : Money.State) : Int :=
  max 0 (ledger.freeMicros - ledger.spentMicros - ledger.committedMicros)

def checkFreeCredit (s : State) (id : CallId) : Except Failure State :=
  s.inPhase id .admitted fun call =>
    if freeCreditRemaining s.ledger ≤ 0 then .ok (s.setCall { call with phase := .ended .refused })
    else .ok s

/-- `resolveInput`: a source belongs to a job of the buyer and can be read. -/
def startUpload (sub : Digest → Request) (s : State) (id : CallId) : Except Failure State :=
  s.inPhase id .admitted fun call =>
    match (sub call.digest).source with
    | none => .ok (s.setCall { call with phase := .uploading })
    | some ref =>
      if (s.jobs.find? ref.key).isSome ∧ (s.objects ref).isSome then
        .ok (s.setCall { call with phase := .uploading })
      else .error .notAllowed

/-- `newStreamingPut` of the canonical input. -/
def putInput (sub : Digest → Request) (s : State) (id : CallId) : Except Failure State :=
  s.inPhase id .uploading fun call =>
    if (sub call.digest).source.isNone then
      .ok { s.setCall { call with inputPut := true } with
        objects := Function.update s.objects call.canonicalInput (some call.id) }
    else .error .notAllowed

def State.putTask (s : State) (call : Call) : State :=
  { s with
    objects := Function.update s.objects ⟨call.key, .task s.uuid⟩ (some call.id)
    uuid := s.uuid + 1 }

/-- A chunk of the input, the copy of a media source, or the copy of a
honeypot. -/
def putTask (s : State) (id : CallId) : Except Failure State :=
  s.inPhase id .uploading fun call =>
    .ok ((s.putTask call).setCall { call with tasks := call.tasks ++ [⟨call.key, .task s.uuid⟩] })

/-- A redundancy task, or a segment of a media job: it reads an object that is
there already. -/
def shareTask (sub : Digest → Request) (s : State) (id : CallId) (ref : Ref) :
    Except Failure State :=
  s.inPhase id .uploading fun call =>
    if ref ∈ call.tasks ∨ ((sub call.digest).media ∧ ref ∈ call.ownedInput sub) then
      .ok (s.setCall { call with tasks := call.tasks ++ [ref] })
    else .error .notAllowed

/-- `RegisterHoneypotAlias` fails after the honeypot was copied. -/
def failHoneypot (s : State) (id : CallId) : Except Failure State :=
  s.inPhase id .uploading fun call =>
    .ok ((s.putTask call).setCall { call with phase := .discarding })

/-- The call fails during or after the upload.  `streamSplitAndUpload` returns
its task rows only when a record is invalid. -/
def fail (s : State) (id : CallId) (keepsTasks : Bool) : Except Failure State :=
  s.inPhase id .uploading fun call =>
    .ok (s.setCall
      { call with phase := .discarding, tasks := if keepsTasks then call.tasks else [] })

def stepTaken (steps : List StepRow) (project : ProjectStep) : Bool :=
  steps.any (·.project == project)

def reserveProjectStep (s : State) (project : Option ProjectStep)
    (ceilingNanos : Int) : Except Failure Unit :=
  match project with
  | none => .ok ()
  | some project =>
    match s.orders project.order with
    | none => .error .projectOrderNotFound
    | some order =>
      let reserved := Rows.sumWhere (·.project.order == project.order) StepRow.ceilingNanos s.steps
      if !order.isOpen then .error .projectOrderClosed
      else if stepTaken s.steps project then .error .projectStepReserved
      else if reserved < 0 ∨ order.ceilingNanos < reserved ∨
          order.ceilingNanos - reserved < ceilingNanos then
        .error .projectBudget
      else .ok ()

/-- What a submission is accepted with: the funding of the buyer and the
frozen plan. -/
structure Terms where
  prepaidRequired : Bool
  hasPaymentMethod : Bool
  plan : Money.Plan
  ceilingNanos : Int

def Call.job (sub : Digest → Request) (call : Call) : Job :=
  ⟨call.key, call.digest, call.inputRef sub, call.tasks⟩

def Call.stepRows (sub : Digest → Request) (call : Call) (terms : Terms) : List StepRow :=
  match (sub call.digest).project with
  | none => []
  | some project => [⟨project, call.key, terms.ceilingNanos⟩]

/-- The reservations come first, the unique columns of `jobs` are checked by
the `INSERT`. -/
def submitJobTx (sub : Digest → Request) (s : State) (call : Call)
    (terms : Terms) : Except Failure State :=
  match Money.reserveForJob s.ledger terms.prepaidRequired terms.hasPaymentMethod terms.plan with
  | .error failure => .error (.funds failure)
  | .ok () =>
    match reserveProjectStep s (sub call.digest).project terms.ceilingNanos with
    | .error failure => .error failure
    | .ok () =>
      match Money.submitJob s.ledger call.key terms.prepaidRequired
          terms.hasPaymentMethod terms.plan with
      | .error _ => .error .uniqueViolation
      | .ok ledger =>
        if fresh : s.jobs.find? call.key = none then
          .ok { s with
            ledger
            steps := s.steps ++ call.stepRows sub terms
            jobs := s.jobs.insert (call.job sub) fresh }
        else .error .uniqueViolation

/-- The upload is complete: the input is stored and there is a task. -/
def Call.uploaded (sub : Digest → Request) (call : Call) : Bool :=
  (call.inputPut || (sub call.digest).source.isSome) && !call.tasks.isEmpty

/-- The end of `createJob`.  With `answered = false` the transaction commits
and its answer is lost. -/
def submit (sub : Digest → Request) (s : State) (id : CallId) (terms : Terms)
    (answered : Bool) : Except Failure State :=
  s.inPhase id .uploading fun call =>
    if !call.uploaded sub then .error .notAllowed
    else
      match submitJobTx sub s call terms with
      | .ok next =>
        .ok (next.setCall { call with phase := if answered then .ended .created else .discarding })
      | .error .uniqueViolation => .ok (s.setCall { call with phase := .lost })
      | .error _ => .ok (s.setCall { call with phase := .discarding })

/-- `removed` says which removals succeed. -/
def discardOrphanedJobObjects (sub : Digest → Request) (s : State)
    (id : CallId) (removed : Ref → Bool) : Except Failure State :=
  s.inPhase id .discarding fun call =>
    .ok { s.setCall { call with phase := .ended .refused } with
      objects := fun ref =>
        if ref ∈ call.orphans sub ∧ removed ref then none else s.objects ref }

/-- The second `JobSubmissionReplay`. -/
def replayLost (s : State) (id : CallId) : Except Failure State :=
  s.inPhase id .lost fun call =>
    let outcome := (jobSubmissionReplay s call.key call.digest).getD .refused
    .ok (s.setCall { call with phase := .ended outcome })

def crash (s : State) (id : CallId) : Except Failure State :=
  match s.calls.find? id with
  | none => .error .noCall
  | some call =>
    if call.phase.live then .ok (s.setCall { call with phase := .ended .crashed })
    else .error .noCall

inductive Event where
  /-- Any other transaction on the money of the buyer. -/
  | ledger (event : Money.Event)
  | setOrder (order : Nat) (row : Option ProjectOrder)
  | createJob (id : CallId) (key : Key) (digest : Digest)
  | refuse (id : CallId)
  | checkFreeCredit (id : CallId)
  | startUpload (id : CallId)
  | putInput (id : CallId)
  | putTask (id : CallId)
  | shareTask (id : CallId) (ref : Ref)
  | failHoneypot (id : CallId)
  | fail (id : CallId) (keepsTasks : Bool)
  | submit (id : CallId) (terms : Terms) (answered : Bool)
  | discard (id : CallId) (removed : Ref → Bool)
  | replayLost (id : CallId)
  | crash (id : CallId)

/-- Jobs are submitted by calls only. -/
def applyLedger (s : State) (event : Money.Event) : Except Failure State :=
  if event.submits then .error .notAllowed
  else
    match Money.step s.ledger event with
    | .error failure => .error (.funds failure)
    | .ok ledger => .ok { s with ledger }

def step (sub : Digest → Request) (s : State) : Event → Except Failure State
  | .ledger event => applyLedger s event
  | .setOrder order row => .ok { s with orders := Function.update s.orders order row }
  | .createJob id key digest => createJob s id key digest
  | .refuse id => refuse s id
  | .checkFreeCredit id => checkFreeCredit s id
  | .startUpload id => startUpload sub s id
  | .putInput id => putInput sub s id
  | .putTask id => putTask s id
  | .shareTask id ref => shareTask sub s id ref
  | .failHoneypot id => failHoneypot s id
  | .fail id keepsTasks => fail s id keepsTasks
  | .submit id terms answered => submit sub s id terms answered
  | .discard id removed => discardOrphanedJobObjects sub s id removed
  | .replayLost id => replayLost s id
  | .crash id => crash s id

end MercControl.Submission
