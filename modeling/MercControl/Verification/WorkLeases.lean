import MercControl.Verification.AttemptState

/-!
# Leases and plans of verification work

A processor claims a work row under a new token and may then, until the token
expires, renew or release the lease and pin the sampling, the artifact and the
plan of the attempt.  The same pin again changes nothing, another is refused.
-/

namespace MercControl.Verification

open Library

namespace Desk

def lease (desk : Desk) (work : WorkRow) (owner : String) (expiresAt : Nat) : Desk :=
  { desk with
    works := desk.works.set { work with status := .leased owner desk.issued expiresAt }
    issued := desk.issued + 1 }

def validLeaseRequest (owner : String) (duration : Nat) : Bool :=
  owner ≠ "" && owner.length ≤ 200 && 0 < duration

/-- `ClaimVerificationWork` on one row.  A batch claims as many rows as it
finds, each under a token of its own. -/
def claimVerificationWork (desk : Desk) (now : Nat) (workId : WorkId)
    (owner : String) (duration : Nat) : Except Failure Desk :=
  if !validLeaseRequest owner duration then .error .invalidRequest
  else
    match desk.works.find? workId with
    | none => .error .notFound
    | some work =>
      match work.status with
      | .pending nextAttemptAt =>
        if nextAttemptAt ≤ now then .ok (desk.lease work owner (now + duration))
        else .error .workBusy
      | .leased _ _ expiresAt =>
        if expiresAt ≤ now then .ok (desk.lease work owner (now + duration)) else .error .workBusy
      | .terminal outcome _ _ => .error (.workTerminal outcome)

/-- The commit does not wait for `next_attempt_at`. -/
def claimVerificationWorkForAttempt (desk : Desk) (now : Nat)
    (workId : WorkId) (owner : String) (duration : Nat) :
    Except Failure Desk :=
  if !validLeaseRequest owner duration then .error .invalidRequest
  else
    match desk.works.find? workId with
    | none => .error .notFound
    | some work =>
      match work.status with
      | .pending _ => .ok (desk.lease work owner (now + duration))
      | .leased _ _ expiresAt =>
        if expiresAt ≤ now then .ok (desk.lease work owner (now + duration)) else .error .workBusy
      | .terminal outcome _ _ => .error (.workTerminal outcome)

def held (desk : Desk) (now : Nat) (lease : VerificationLease) : Except Failure WorkRow :=
  match desk.works.find? lease.workId with
  | none => .error .leaseLost
  | some work =>
    if work.heldBy lease now then .ok work else .error .leaseLost

def renewVerificationLease (desk : Desk) (now : Nat)
    (lease : VerificationLease) (extension : Nat) : Except Failure Desk :=
  if extension = 0 then .error .invalidRequest
  else
    (desk.held now lease).bind fun work =>
    .ok { desk with
      works := desk.works.set
        { work with status := .leased lease.owner lease.token (now + extension) } }

def releaseVerificationWork (desk : Desk) (now : Nat)
    (lease : VerificationLease) (retryAt : Nat) : Except Failure Desk :=
  (desk.held now lease).bind fun work =>
  .ok { desk with works := desk.works.set { work with status := .pending retryAt } }

def pinVerificationSampling (desk : Desk) (now : Nat)
    (lease : VerificationLease) (sampling : Sampling) : Except Failure Desk :=
  (desk.held now lease).bind fun work =>
  match work.sampling with
  | none =>
    .ok { desk with works := desk.works.set { work with sampling := some sampling } }
  | some pinned =>
    if pinned = sampling then .ok desk else .error .workConflict

/-- The first plan of the work stays. -/
def persistVerificationWorkPlan (ids : EffectIds) (desk : Desk) (now : Nat)
    (lease : VerificationLease) (plan : VerificationWorkPlan) :
    Except Failure Desk :=
  match desk.works.find? lease.workId with
  | none => .error .leaseLost
  | some work =>
    if plan.workId ≠ lease.workId ∨ work.artifact ≠ some plan.artifact ∨
        work.sampling ≠ some plan.sampling then
      .error .workConflict
    else
      match validateVerificationDecisionShape ids work.info plan.decision plan.settlement with
      | .error error => .error (.shape error)
      | .ok _ =>
        match desk.plans.find? lease.workId with
        | some stored =>
          if stored = plan then .ok desk else .error .workConflict
        | none =>
          if !work.heldBy lease now then .error .leaseLost
          else
            match desk.plans.insertNew plan with
            | none => .error .workConflict
            | some plans => .ok { desk with plans }

end Desk

/-- The sealed artifact also becomes the result of the task, which must still
be verifying the same attempt. -/
def pinVerificationArtifact (state : State) (lease : VerificationLease)
    (kind : ArtifactKind) (body : Bytes) : Except Failure State :=
  (state.desk.held state.now lease).bind fun work =>
  let artifact : VerificationArtifact :=
    { taskId := work.info.taskId, attempt := work.info.attempt, kind, body }
  match state.board.tasks.find? work.info.taskId with
  | none => .error .workConflict
  | some task =>
    match work.artifact with
    | some pinned =>
      if pinned = artifact ∧ task.result = some (.sealed artifact) then .ok state
      else .error .workConflict
    | none =>
      if task.status ≠ .verifying ∨ task.attempt ≠ work.info.attempt then .error .workConflict
      else
        (state.board.updateTasks (fun other => other.id = task.id)
          { apply := fun other => { other with result := some (.sealed artifact) }
            kept := fun _ => rfl }).bind fun board =>
        .ok { state with
          board
          desk := { state.desk with
            works := state.desk.works.set { work with artifact := some artifact } } }

end MercControl.Verification
