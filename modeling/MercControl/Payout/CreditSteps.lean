import MercControl.Payout.AccrualSafety

/-!
# What the payout transactions do to a credit

The payout status of a credit and the status of its operation move together.
`Credit.Fits` lists the configurations of the two rows, and `Advance` says what
one transaction keeps of a credit.
-/

namespace MercControl.Payout

open Library

def Operation.Blank (operation : Operation) : Prop :=
  operation.cashMoved = false ∧ operation.outcomeUnknown = false ∧ operation.transferRef = none

def Credit.Evident (credit : Credit) (operation : Operation) : Prop :=
  credit.payoutRef.isSome = true ∧ operation.transferRef.isSome = true ∧
    operation.outcomeUnknown = false

/-- The references of the provider are in both rows or in neither. -/
def Credit.Evidence (credit : Credit) (operation : Operation) : Prop :=
  credit.Evident operation ∨
    (credit.payoutRef = none ∧ operation.cashMoved = false ∧ operation.transferRef = none)

/-- A status from which a payout is claimed, or the one the rest is carried
in. -/
def PayoutStatus.waiting : PayoutStatus → Bool
  | .pending | .held | .awaitingFunding | .ready | .carried => true
  | _ => false

/-- A status that is reached with the provider's reference only. -/
def PayoutStatus.evident : PayoutStatus → Bool
  | .released | .exported | .reversing | .reversed => true
  | _ => false

structure Credit.Fits (credit : Credit) : Prop where
  waiting : credit.status.waiting = true →
    credit.payoutRef = none ∧ ∀ operation ∈ credit.operation,
      operation.status = .ready ∧ operation.Blank
  clawedBack : credit.status = .clawedBack →
    credit.payoutRef = none ∧ ∀ operation ∈ credit.operation,
      operation.status = .clawedBack ∧ operation.Blank
  sending : credit.status = .sending →
    credit.payoutRef = none ∧ ∃ operation, credit.operation = some operation ∧
      operation.status = .sending ∧ operation.Blank
  unknown : credit.status = .outcomeUnknown →
    credit.payoutRef = none ∧ ∃ operation, credit.operation = some operation ∧
      operation.status = .outcomeUnknown ∧ operation.cashMoved = false ∧
      operation.outcomeUnknown = true ∧ operation.transferRef = none
  recovering : credit.status = .reversalRequired →
    ∃ operation, credit.operation = some operation ∧
      operation.status = .reversalRequired ∧ credit.Evidence operation
  evident : credit.status.evident = true →
    ∃ operation, credit.operation = some operation ∧
      operation.status = credit.status ∧ credit.Evident operation
  bound : ∀ operation, credit.operation = some operation → credit.fundingBound = true

/-- The provider may have been asked for the cash and has not refused. -/
def PayoutStatus.inFlight : PayoutStatus → Bool
  | .sending | .outcomeUnknown | .released | .exported | .reversalRequired
  | .reversing | .reversed => true
  | _ => false

/-- Where a credit may be once it is clawed back. -/
def PayoutStatus.recovering : PayoutStatus → Bool
  | .sending | .outcomeUnknown | .released | .exported => false
  | _ => true

/-- The operation says that the provider may have paid. -/
def Operation.Traced (operation : Operation) : Prop :=
  operation.outcomeUnknown = true ∨ operation.transferRef.isSome = true

def Credit.Marked (credit : Credit) : Prop :=
  ∃ operation, credit.operation = some operation ∧ operation.Traced

/-- What a transaction keeps of a credit: `asked` if a call for it is still
open, `clawed` if it is clawed back, `claimed` if it may be claimed now. -/
structure Advance (asked clawed claimed : Prop) (before after : Credit) : Prop where
  entry : after.entry = before.entry
  legal : before.status.mayBecome after.status = true
  fits : after.Fits
  inFlight : asked → before.status.inFlight = true → after.status.inFlight = true
  recovering : clawed → before.status.recovering = true → after.status.recovering = true
  requested : ∀ operation, before.operation = some operation →
    ∃ written, after.operation = some written ∧ written.requestedCents = operation.requestedCents
  marked : before.Marked → after.Marked
  created : after.operation.isSome = true → before.operation.isSome = true ∨ claimed

variable {asked clawed claimed : Prop} {credit changed : Credit} {operation : Operation}

@[grind .]
theorem payout_moves : (∀ status : PayoutStatus, status.mayBecome status = true) ∧
    (∀ status : PayoutStatus, status ≠ .reversed → status ≠ .clawedBack →
      status.mayBecome .reversalRequired = true) ∧
    (∀ status : PayoutStatus, status.waiting = true → status.mayBecome .clawedBack = true) ∧
    (∀ status : PayoutStatus, status = .held ∨ status = .ready ∨ status = .awaitingFunding →
        status.mayBecome .sending = true ∧ status.mayBecome .held = true ∧
          status.mayBecome .awaitingFunding = true) ∧
    (∀ status : PayoutStatus,
      status = .sending ∨ status = .outcomeUnknown ∨ status = .reversalRequired →
        status.mayBecome .ready = true ∧ status.mayBecome .released = true ∧
          status.mayBecome .outcomeUnknown = true) ∧
    (∀ status : PayoutStatus, status = .sending ∨ status = .outcomeUnknown →
      status.mayBecome .exported = true) ∧
    PayoutStatus.mayBecome .held .carried = true ∧
    PayoutStatus.mayBecome .reversalRequired .reversing = true ∧
    PayoutStatus.mayBecome .reversing .reversed = true := by
  refine ⟨?_, ?_, ?_, ?_, ?_, ?_, rfl, rfl, rfl⟩ <;> intro status <;> cases status <;> decide

theorem Advance.refl (fits : credit.Fits) : Advance asked clawed claimed credit credit where
  entry := rfl
  legal := payout_moves.1 credit.status
  fits
  inFlight := fun _ same => same
  recovering := fun _ same => same
  requested := fun operation isOperation => ⟨operation, isOperation, rfl⟩
  marked := id
  created := .inl

theorem Advance.trans_of_status {asked clawed claimed : EntryId → Prop}
    {before middle after : Credit}
    (first :
      Advance (asked before.entry) (clawed before.entry) (claimed before.entry) before middle)
    (second :
      Advance (asked middle.entry) (clawed middle.entry) (claimed middle.entry) middle after)
    (same : after.status = middle.status) :
    Advance (asked before.entry) (clawed before.entry) (claimed before.entry) before after := by
  obtain ⟨sameEntry, legal, _, inFlight, recovering, requested, marked, created⟩ := first
  refine ⟨second.entry.trans sameEntry, same ▸ legal, second.fits,
    same ▸ inFlight, same ▸ recovering, ?_,
    fun before => second.marked (marked before), ?_⟩
  · intro operation isOperation
    obtain ⟨written, isWritten, sameCents⟩ := requested operation isOperation
    obtain ⟨final, isFinal, finalCents⟩ := second.requested written isWritten
    exact ⟨final, isFinal, finalCents.trans sameCents⟩
  · intro written
    rcases second.created written with before | claim
    · exact created before
    · exact .inr (sameEntry ▸ claim)

attribute [grind] Operation.Blank Credit.Evident Credit.Evidence
  PayoutStatus.waiting PayoutStatus.evident PayoutStatus.inFlight
  PayoutStatus.recovering Operation.Traced Credit.Marked Operation.setStatus
  Credit.setStatus Credit.mapOperation Credit.cashEvidence
  Credit.operationUnknown Credit.cashLeft Credit.clawbackStatus

attribute [grind cases] Credit.Fits

theorem Credit.Fits.operation_of_inFlight (fits : credit.Fits)
    (inFlight : credit.status.inFlight = true) :
    ∃ operation, credit.operation = some operation ∧
      operation.status = credit.status ∧ credit.Evidence operation := by
  cases status : credit.status <;> grind

theorem Credit.Fits.rest_of_not_inFlight (fits : credit.Fits)
    (notInFlight : credit.status.inFlight = false) :
    credit.payoutRef = none ∧ ∀ operation ∈ credit.operation,
      (operation.status = .ready ∨ operation.status = .clawedBack) ∧ operation.Blank := by
  cases status : credit.status <;> grind

theorem Credit.Fits.cashLeft_eq (fits : credit.Fits) :
    credit.cashLeft = credit.status.inFlight := by
  cases inFlight : credit.status.inFlight with
  | true => cases status : credit.status <;> grind
  | false =>
    obtain ⟨_, rest⟩ := fits.rest_of_not_inFlight inFlight
    have notUnknown : credit.operationUnknown = false := by
      rw [Credit.operationUnknown]
      cases isOperation : credit.operation with
      | none => rfl
      | some operation => exact (rest operation isOperation).2.2.1
    cases status : credit.status <;> grind

/-- A transaction on a credit that advances it, or fails otherwise than at the
transition table. -/
def Advances (asked clawed claimed : Prop) (credit : Credit) : Except Failure Credit → Prop
  | .ok changed => Advance asked clawed claimed credit changed
  | .error failure => failure ≠ .illegalTransition

section

variable (fits : credit.Fits)

include fits

theorem deferPayoutCredit_advances {activeDispute : Bool} (marked : asked → credit.Marked) :
    Advances asked clawed claimed credit (deferPayoutCredit activeDispute credit) := by
  unfold deferPayoutCredit
  split_ifs
  all_goals simp only [Advances, ne_eq, reduceCtorEq, not_false_eq_true]
  all_goals first | exact Advance.refl fits | skip
  all_goals
    constructor
    case fits => constructor <;> grind
    all_goals grind

theorem outcomeUnknownCredit_advances :
    Advances asked clawed claimed credit (outcomeUnknownCredit credit) := by
  unfold outcomeUnknownCredit
  split
  · exact nofun
  split_ifs
  all_goals simp only [Advances, ne_eq, reduceCtorEq, not_false_eq_true]
  all_goals
    constructor
    case fits => constructor <;> grind
    all_goals grind

theorem finalizePayoutCredit_advances {factor : Int} {result : PayoutResult}
    (inFlight : credit.status.inFlight = true) :
    Advances asked clawed claimed credit (finalizePayoutCredit factor result credit) := by
  obtain ⟨_, _, _, _⟩ := fits.operation_of_inFlight inFlight
  unfold finalizePayoutCredit
  split
  · dsimp only
    split_ifs
    all_goals simp only [Advances, ne_eq, reduceCtorEq, not_false_eq_true]
    all_goals
      constructor
      case fits => constructor <;> grind
      all_goals grind
  · exact nofun

theorem claimReversalCredit_advances {activeDispute leaseExpired : Bool} :
    Advances asked clawed claimed credit
      (claimReversalCredit activeDispute leaseExpired credit) := by
  unfold claimReversalCredit
  split
  · exact nofun
  split_ifs
  · constructor
    case fits => constructor <;> grind
    all_goals grind
  · exact Advance.refl fits

theorem finalizeReversalCredit_advances {recoveredCents : Int} :
    Advances asked clawed claimed credit (finalizeReversalCredit recoveredCents credit) := by
  unfold finalizeReversalCredit
  split
  · exact nofun
  split_ifs
  · exact Advance.refl fits
  · exact nofun
  · exact nofun
  · constructor
    case fits => constructor <;> grind
    all_goals grind

theorem reversalFailedCredit_advances :
    Advances asked clawed claimed credit (reversalFailedCredit credit) := by
  unfold reversalFailedCredit
  split
  · exact nofun
  split_ifs
  · exact Advance.refl fits
  · exact nofun
  all_goals
    constructor
    case fits => constructor <;> grind
    all_goals grind

theorem releasePayoutCredit_advances :
    Advances asked clawed claimed credit (releasePayoutCredit credit) := by
  unfold releasePayoutCredit
  split_ifs
  · constructor
    case fits => constructor <;> grind
    all_goals grind
  · exact nofun

theorem authorizePayoutSubsidyCredit_advances :
    Advances asked clawed claimed credit (authorizePayoutSubsidyCredit credit) := by
  unfold authorizePayoutSubsidyCredit
  split_ifs
  case neg => exact nofun
  all_goals
    constructor
    case fits => constructor <;> grind
    all_goals grind

theorem Advance.of_clawback (notReversed : credit.status ≠ .reversed)
    (entry : changed.entry = credit.entry) (isStatus : changed.status = credit.clawbackStatus)
    (sameRef : changed.payoutRef = credit.payoutRef)
    (sameBound : changed.fundingBound = credit.fundingBound)
    (operations : changed.operation =
      credit.operation.map (Operation.setStatus · credit.clawbackStatus)) :
    Advance asked clawed claimed credit changed ∧ changed.status.recovering = true := by
  cases inFlight : credit.status.inFlight with
  | true =>
    obtain ⟨operation, isOperation, _, _⟩ := fits.operation_of_inFlight inFlight
    refine ⟨?_, by grind⟩
    constructor
    case fits => constructor <;> grind
    all_goals grind
  | false =>
    obtain ⟨_, rest⟩ := fits.rest_of_not_inFlight inFlight
    have blank : ∀ operation, credit.operation = some operation → operation.Blank :=
      fun operation found => (rest operation found).2
    have waits : credit.status.waiting = true ∨ credit.status = .clawedBack := by
      cases status : credit.status <;> grind
    cases isOperation : credit.operation <;> refine ⟨?_, by grind⟩
    all_goals
      constructor
      case fits => constructor <;> grind
      all_goals grind

theorem upheldCredit_advance (notReversed : credit.status ≠ .reversed) :
    Advance asked clawed claimed credit (upheldCredit credit) ∧
      (upheldCredit credit).status.recovering = true := by
  have left := fits.cashLeft_eq
  have status : (upheldCredit credit).status = credit.clawbackStatus := by
    grind [upheldCredit]
  refine Advance.of_clawback fits notReversed rfl status rfl rfl ?_
  rw [← status]
  rfl

section

variable (notClawed : ¬ clawed) (required : credit.status = .reversalRequired)
  (isOperation : credit.operation = some operation)

include notClawed required isOperation

theorem released_advance (evident : credit.Evident operation) :
    Advance asked clawed claimed credit
      { credit with
        status := .released
        payoutRef := credit.payoutRef.or operation.transferRef
        operation := some { operation with status := .released, outcomeUnknown := false } } := by
  have named : (credit.payoutRef.or operation.transferRef).isSome = true := by
    rw [Option.isSome_or, evident.1]
    rfl
  constructor
  case fits => constructor <;> grind
  all_goals grind

theorem unknown_advance (noRef : credit.payoutRef = none) (unmoved : operation.cashMoved = false)
    (untransferred : operation.transferRef = none) :
    Advance asked clawed claimed credit
      { credit with
        status := .outcomeUnknown
        operation := some
          { operation with status := .outcomeUnknown, outcomeUnknown := true } } := by
  constructor
  case fits => constructor <;> grind
  all_goals grind

end

theorem kept_advance (required : credit.status = .reversalRequired)
    (isOperation : credit.operation = some operation) (noEvidence : ¬ credit.Evident operation) :
    Advance asked clawed claimed credit
      { credit with operation := some { operation with outcomeUnknown := true } } := by
  constructor
  case fits => constructor <;> grind
  all_goals grind

theorem reconcileHold_advance {resolution : Resolution} {compromised : Bool}
    (spared : resolution = .rejected → clawed → credit.status = .reversalRequired →
      compromised = true ∧ credit.cashEvidence = true) :
    Advance asked clawed claimed credit (reconcileHold resolution compromised credit) := by
  cases isOperation : credit.operation with
  | none =>
    have same : reconcileHold resolution compromised credit = credit := by
      simp [reconcileHold, isOperation]
    rw [same]
    exact Advance.refl fits
  | some operation =>
    by_cases required : credit.status = .reversalRequired
    · obtain ⟨other, isOther, opRequired, evidence⟩ := fits.recovering required
      obtain rfl : operation = other := Option.mem_unique isOperation isOther
      have seen : credit.cashEvidence = true ↔ credit.Evident operation := by
        grind
      cases resolution with
      | rejected =>
        by_cases evident : credit.Evident operation
        · cases compromised with
          | true => simpa [reconcileHold, isOperation, seen.mpr evident] using Advance.refl fits
          | false =>
            have notClawed : ¬ clawed :=
              fun isClawed => Bool.false_ne_true (spared rfl isClawed required).1
            simpa [reconcileHold, isOperation, seen.mpr evident, required, opRequired] using
              released_advance fits notClawed required isOperation evident
        · obtain ⟨noRef, unmoved, untransferred⟩ := evidence.resolve_left evident
          have notClawed : ¬ clawed :=
            fun isClawed => evident (seen.mp (spared rfl isClawed required).2)
          simpa [reconcileHold, isOperation, mt seen.mp evident, required, opRequired] using
            unknown_advance fits notClawed required isOperation noRef unmoved untransferred
      | upheld =>
        by_cases evident : credit.Evident operation
        · simpa [reconcileHold, isOperation, seen.mpr evident] using Advance.refl fits
        · simpa [reconcileHold, isOperation, mt seen.mp evident, opRequired] using
            kept_advance fits required isOperation evident
    · have otherwise : operation.status ≠ .reversalRequired := by
        cases status : credit.status <;> grind
      have unchanged : { credit with operation := some operation } = credit := by rw [← isOperation]
      have same : reconcileHold resolution compromised credit = credit := by
        cases resolution <;> simp [reconcileHold, isOperation, required, otherwise, unchanged]
      rw [same]
      exact Advance.refl fits

end

variable {context : ClaimContext} {settlement : Settlement}

theorem Credit.claimable_status (claimable : credit.claimable context = true) :
    credit.status = .held ∨ credit.status = .ready ∨ credit.status = .awaitingFunding := by
  grind [Credit.claimable]

theorem sentCredit_advance (fits : credit.Fits) (notClawed : ¬ clawed) (isClaimed : claimed)
    (waits : credit.status = .held ∨ credit.status = .ready ∨ credit.status = .awaitingFunding)
    (sending : operation.status = .sending) (blank : operation.Blank)
    (sameCents : ∀ before ∈ credit.operation, operation.requestedCents = before.requestedCents) :
    Advance asked clawed claimed credit
      { credit with
        settlement := some settlement
        status := .sending
        fundingBound := true
        operation := some operation } := by
  have unmarked : ¬ credit.Marked := by
    rintro ⟨before, isBefore, _⟩
    have blankBefore := ((fits.waiting (by grind)).2 before isBefore).2
    grind
  constructor
  case fits => constructor <;> grind
  all_goals grind

theorem claimedCredit_advance {funded : Bool} (fits : credit.Fits)
    (claimable : credit.claimable context = true) (notClawed : ¬ clawed)
    (isClaimed : funded = true → claimed)
    (written : claimedCredit credit settlement funded = .ok (some changed)) :
    Advance asked clawed claimed credit changed := by
  have status := Credit.claimable_status claimable
  simp only [claimedCredit] at written
  split_ifs at written with nothing held unfunded
  · cases written
    constructor
    case fits => constructor <;> grind
    all_goals grind
  · cases written
  · cases written
    constructor
    case fits => constructor <;> grind
    all_goals grind
  have claimed := isClaimed (by simpa using unfunded)
  split at written
  next isOperation =>
    cases written
    exact sentCredit_advance fits notClawed claimed status rfl ⟨rfl, rfl, rfl⟩
      (by simp [isOperation])
  next operation isOperation =>
    split_ifs at written
    cases written
    have blank : operation.Blank := by grind
    exact sentCredit_advance fits notClawed claimed status rfl blank
      (by simp [isOperation, Operation.setStatus])

end MercControl.Payout
