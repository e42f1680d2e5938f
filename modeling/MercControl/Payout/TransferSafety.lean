import MercControl.Payout.TransferSteps
import MercControl.Payout.Transfers

/-!
# Payouts move cash once

The two records of a payout stay in one phase, its cash moves at most once, and
what is clawed back ends in recovery.

Two things break this.  A credit whose cash was already recovered can be taken
back once more, and the transition table refuses that.  A clawed back credit
that a second dispute holds is paid out again when that dispute is rejected.
-/

namespace MercControl.Payout.Transfer

open Library Machine Table Rows

/-! ## The property -/

/-- The operation of a waiting credit is ready, whatever the credit waits
for. -/
def phase (status : PayoutStatus) : PayoutStatus :=
  if status.waiting then .ready else status

structure TransfersSound (s : State) : Prop where
  samePhase : ∀ credit ∈ s.books.credits, ∀ operation ∈ credit.operation,
    phase operation.status = phase credit.status
  movedOnce : (s.moved.map Movement.entry).Nodup
  movedAsRequested : ∀ movement ∈ s.moved, ∃ credit ∈ s.books.credits,
    credit.entry = movement.entry ∧ ∃ operation ∈ credit.operation,
      operation.requestedCents = movement.cents
  sameRequest : ∀ left ∈ s.attempts.rows, ∀ right ∈ s.attempts.rows,
    left.entry = right.entry → left.cents = right.cents ∧ left.funding = right.funding
  unknownKept : ∀ credit ∈ s.books.credits, ∀ operation ∈ credit.operation,
    operation.outcomeUnknown = true → credit.status.waiting = false
  recovered : ∀ credit ∈ s.books.credits, credit.entry ∈ s.clawbacks →
    (credit.entry ∈ s.moved.map Movement.entry ∨
        ∃ operation ∈ credit.operation, operation.cashMoved = true) →
      credit.status = .reversalRequired ∨ credit.status = .reversing ∨ credit.status = .reversed

/-! ## The condition -/

def openDispute (s : State) (dispute : DisputeId) : Option Dispute :=
  (s.books.disputes.find? (·.dispute == dispute)).filter (·.resolution.isNone)

/-- The event takes back a credit whose cash was recovered, or brings a clawed
back credit back to the provider. -/
def endangers (s : State) (event : Event) (credit : Credit) : Bool :=
  match event with
  | .plain (.clawbackTaskCredit supplier task _) =>
    s.books.taskCredit supplier task == some credit && credit.status == .reversed
  | .resolveDispute dispute .upheld =>
    (openDispute s dispute).any (credit.job == some ·.job) && credit.status == .reversed
  | .resolveDispute dispute .rejected =>
    (openDispute s dispute).any (·.holds.contains credit.entry) &&
      s.clawbacks.contains credit.entry && credit.status == .reversalRequired &&
      !(s.compromised credit.entry && credit.cashEvidence)
  | .claimPayout _ entry context =>
    credit.entry == entry && s.clawbacks.contains entry && !credit.job.any s.books.activeDispute &&
      credit.claimable ⟨context.released, context.approved, false⟩
  | _ => false

def Recoverable (s : State) (event : Event) : Prop :=
  ∀ credit ∈ s.books.credits, endangers s event credit = false
  deriving Decidable

/-! ## The invariant -/

/-- The provider may still move cash for the call, or the worker may still
record it. -/
def Attempt.Live (attempt : Attempt) : Prop :=
  ¬ (attempt.answer = some .refused ∧ attempt.done = true)

def State.asked (s : State) (entry : EntryId) : Prop :=
  ∃ attempt ∈ s.attempts.rows, attempt.Live ∧ attempt.entry = entry

structure Sound (s : State) : Prop where
  legal : Legal s.books
  funded : ∀ credit ∈ s.books.credits, credit.operation.isSome = true →
    (s.fundings.find? credit.entry).isSome = true
  requested : ∀ attempt ∈ s.attempts.rows, ∃ credit ∈ s.books.credits,
    credit.entry = attempt.entry ∧ ∃ operation,
      credit.operation = some operation ∧ operation.requestedCents = attempt.cents
  backed : ∀ attempt ∈ s.attempts.rows, ∃ funding,
    s.fundings.find? attempt.entry = some funding ∧ attempt.funding = some funding
  inFlight : ∀ attempt ∈ s.attempts.rows, attempt.Live →
    ∀ credit ∈ s.books.credits, credit.entry = attempt.entry → credit.status.inFlight = true
  /-- A second call is made for an unknown outcome only. -/
  marked : ∀ left ∈ s.attempts.rows, ∀ right ∈ s.attempts.rows,
    left.Live → right.Live → left.id ≠ right.id →
      left.entry = right.entry →
        ∀ credit ∈ s.books.credits, credit.entry = left.entry → credit.Marked
  called : ∀ movement ∈ s.moved, ∃ attempt ∈ s.attempts.rows,
    attempt.entry = movement.entry ∧ attempt.cents = movement.cents ∧ attempt.answer ≠ some .refused
  movedOnce : (s.moved.map Movement.entry).Nodup
  recovering : ∀ credit ∈ s.books.credits, credit.entry ∈ s.clawbacks →
    credit.status.recovering = true

variable {credit : Credit} {entry : EntryId} {terms : Terms} {id : AttemptId}

variable {taken : EntryId → Prop} {result : Except Payout.Failure Payout.State} {collected : Bool}
  {attempt : Attempt} {ref : ProviderRef}

section

variable {config : Config} {s next : State}

theorem Sound.empty : Sound State.empty := by
  constructor
  case legal => exact ⟨List.nodup_nil, List.forall_mem_nil _⟩
  case movedOnce => exact List.nodup_nil
  all_goals exact List.forall_mem_nil _

theorem Sound.inFlight_of_moved (sound : Sound s) (mem : credit ∈ s.books.credits)
    (paid : credit.entry ∈ s.moved.map Movement.entry) : credit.status.inFlight = true := by
  obtain ⟨movement, isMovement, sameEntry⟩ := List.mem_map.mp paid
  obtain ⟨attempt, isAttempt, ofEntry, _, notRefused⟩ := sound.called movement isMovement
  refine sound.inFlight attempt isAttempt ?_ credit mem ?_
  · exact fun refused => notRefused refused.1
  · rw [← sameEntry, ofEntry]

theorem Sound.transfersSound (sound : Sound s) : TransfersSound s where
  samePhase := by
    intro credit mem operation isOperation
    have fits := sound.legal.fits credit mem
    cases inFlight : credit.status.inFlight with
    | true =>
      obtain ⟨other, isOther, same, _⟩ := fits.operation_of_inFlight inFlight
      rw [Option.mem_def.mp isOperation] at isOther
      cases isOther
      rw [same]
    | false =>
      by_cases taken : credit.status = .clawedBack
      · rw [((fits.clawedBack taken).2 operation isOperation).1, taken]
      · have waiting : credit.status.waiting = true := by
          revert inFlight taken
          cases credit.status <;> simp [PayoutStatus.inFlight, PayoutStatus.waiting]
        rw [((fits.waiting waiting).2 operation isOperation).1, phase, phase, if_pos waiting]
        rfl
  movedOnce := sound.movedOnce
  movedAsRequested := by
    intro movement isMovement
    obtain ⟨attempt, isAttempt, sameEntry, sameCents, _⟩ := sound.called movement isMovement
    obtain ⟨credit, mem, ofEntry, operation, isOperation, cents⟩ :=
      sound.requested attempt isAttempt
    exact ⟨credit, mem, ofEntry.trans sameEntry, operation, isOperation, cents.trans sameCents⟩
  sameRequest := by
    intro left isLeft right isRight sameEntry
    constructor
    · obtain ⟨credit, mem, ofLeft, operation, isOperation, leftCents⟩ :=
        sound.requested left isLeft
      obtain ⟨other, otherMem, ofRight, _, isWritten, rightCents⟩ :=
        sound.requested right isRight
      have same : credit = other :=
        sound.legal.eq_of_entry mem otherMem (ofLeft.trans (sameEntry.trans ofRight.symm))
      rw [← same, isOperation] at isWritten
      cases isWritten
      exact leftCents.symm.trans rightCents
    · obtain ⟨_, found, ofLeft⟩ := sound.backed left isLeft
      obtain ⟨other, otherFound, ofRight⟩ := sound.backed right isRight
      rw [sameEntry, otherFound] at found
      rw [ofLeft, ofRight, found]
  unknownKept := by
    intro credit mem operation isOperation unknown
    cases waiting : credit.status.waiting with
    | false => rfl
    | true =>
      have rest := (sound.legal.fits credit mem).waiting waiting
      exact unknown.symm.trans (rest.2 operation isOperation).2.2.1
  recovered := by
    intro credit mem clawed paid
    have fits := sound.legal.fits credit mem
    have recovering := sound.recovering credit mem clawed
    have inFlight : credit.status.inFlight = true := by
      rcases paid with moved | ⟨operation, isOperation, cashMoved⟩
      · exact sound.inFlight_of_moved mem moved
      · by_contra outside
        have rest := fits.rest_of_not_inFlight (Bool.not_eq_true _ ▸ outside)
        have noCash := (rest.2 operation isOperation).2.1
        rw [cashMoved] at noCash
        cases noCash
    revert recovering inFlight
    cases credit.status <;> simp [PayoutStatus.recovering, PayoutStatus.inFlight]

/-! ## Transactions on the credits -/

def Keeps (before after : Table Funding.entry) : Prop :=
  ∀ entry funding, before.find? entry = some funding → after.find? entry = some funding

theorem Sound.turned {claimed : EntryId → Prop} (sound : Sound s) (turns :
      Turns s.asked (· ∈ s.clawbacks) claimed taken s.books next.books)
    (attempts : next.attempts = s.attempts) (moved : next.moved = s.moved)
    (fundings : Keeps s.fundings next.fundings)
    (claims : ∀ entry, claimed entry → (next.fundings.find? entry).isSome = true)
    (clawbacks : ∀ entry ∈ next.clawbacks, entry ∈ s.clawbacks ∨ taken entry) : Sound next where
  legal := turns.legal sound.legal
  funded := by
    intro credit mem operated
    obtain ⟨old, oldMem, advance, _⟩ := exists_before turns mem
    rw [advance.entry]
    rcases advance.created operated with before | claim
    · obtain ⟨funding, found⟩ := Option.isSome_iff_exists.mp (sound.funded old oldMem before)
      rw [fundings old.entry funding found]
      rfl
    · exact claims old.entry claim
  requested := by
    intro attempt isAttempt
    rw [attempts] at isAttempt
    obtain ⟨credit, mem, ofEntry, operation, isOperation, cents⟩ :=
      sound.requested attempt isAttempt
    obtain ⟨changed, changedMem, advance, _⟩ := exists_after turns mem
    obtain ⟨written, isWritten, same⟩ := advance.requested operation isOperation
    exact ⟨changed, changedMem, advance.entry.trans ofEntry, written, isWritten, same.trans cents⟩
  backed := by
    intro attempt isAttempt
    rw [attempts] at isAttempt
    obtain ⟨funding, found, same⟩ := sound.backed attempt isAttempt
    exact ⟨funding, fundings attempt.entry funding found, same⟩
  inFlight := by
    intro attempt isAttempt live credit mem ofEntry
    rw [attempts] at isAttempt
    obtain ⟨old, oldMem, advance, _⟩ := exists_before turns mem
    have ofOld : old.entry = attempt.entry := advance.entry.symm.trans ofEntry
    apply advance.inFlight
    · exact ⟨attempt, isAttempt, live, ofOld.symm⟩
    · exact sound.inFlight attempt isAttempt live old oldMem ofOld
  marked := by
    intro left isLeft right isRight leftLive rightLive ne same credit mem ofEntry
    rw [attempts] at isLeft isRight
    obtain ⟨old, oldMem, advance, _⟩ := exists_before turns mem
    apply advance.marked
    exact sound.marked left isLeft right isRight leftLive rightLive ne same
        old oldMem (advance.entry.symm.trans ofEntry)
  called := by
    rw [moved, attempts]
    exact sound.called
  movedOnce := by
    rw [moved]
    exact sound.movedOnce
  recovering := by
    intro credit mem clawed
    obtain ⟨old, oldMem, advance, recovers⟩ := exists_before turns mem
    rw [advance.entry] at clawed
    rcases clawbacks old.entry clawed with before | taken
    · exact advance.recovering before (sound.recovering old oldMem before)
    · exact recovers taken

/-- The transition table does not refuse the step, and it keeps the
invariant. -/
def Continues (result : Except Failure State) : Prop :=
  result ≠ .error (.books .illegalTransition) ∧ ∀ next, result = .ok next → Sound next

@[simp]
theorem continues_error {failure : Failure} :
    Continues (.error failure) ↔ failure ≠ .books .illegalTransition := by
  simp [Continues]

theorem Continues.of_sound (sound : Sound next) : Continues (.ok next) := by
  simpa [Continues] using sound

theorem withBooks_continues {start : State} {good : Payout.State → Prop}
    (proceeds : Proceeds good result) (sound : ∀ books, good books → Sound { start with books }) :
    Continues (start.withBooks result) := by
  cases outcome : result with
  | error =>
    refine continues_error.mpr ?_
    rintro ⟨⟩
    exact proceeds.1 outcome
  | ok books => exact Continues.of_sound (sound books (proceeds.2 books outcome))

section

variable (sound : Sound s)

include sound

theorem Sound.withBooks (proceeds :
      Proceeds (Turns s.asked (· ∈ s.clawbacks) (fun _ => False) (fun _ => False) s.books) result) :
    Continues (s.withBooks result) :=
  withBooks_continues proceeds fun _ turns =>
    sound.turned turns rfl rfl (fun _ _ found => found) nofun fun _ clawed => .inl clawed

theorem applyBooks_continues {event : Payout.Event} (proceeds :
      Proceeds (Turns s.asked (· ∈ s.clawbacks) (fun _ => False) taken s.books)
        (Payout.step config.factor s.books event))
    (covers : ∀ entry ∈ takenBack s.books event, taken entry) :
    Continues (applyBooks config s event) := by
  apply withBooks_continues proceeds
  intro books turns
  refine sound.turned turns rfl rfl (fun _ _ found => found) nofun ?_
  intro entry clawed
  exact (List.mem_append.mp clawed).imp_right (covers entry)

theorem Sound.inserted {books : Payout.State} {clawbacks : List EntryId}
    (fresh : ∀ other ∈ s.books.credits, other.entry ≠ credit.entry)
    (held : credit.status = .held) (noRef : credit.payoutRef = none)
    (noOperation : credit.operation = none) (credits : books.credits = s.books.credits ++ [credit])
    (same : clawbacks = s.clawbacks) : Sound { s with books, clawbacks } := by
  have all {good : Credit → Prop} (before : ∀ other ∈ s.books.credits, good other)
      (new : good credit) : ∀ other ∈ books.credits, good other := by
    rw [credits]
    exact forall_concat before new
  have uncalled : ∀ attempt ∈ s.attempts.rows, credit.entry ≠ attempt.entry := by
    intro attempt isAttempt same
    obtain ⟨other, mem, ofEntry, _⟩ := sound.requested attempt isAttempt
    exact fresh other mem (ofEntry.trans same.symm)
  refine
    { sound with
      legal := ⟨?_, ?_⟩
      funded := ?_
      requested := ?_
      inFlight := ?_
      marked := ?_
      recovering := ?_ }
  · rw [credits]
    exact nodup_concat sound.legal.distinct fresh
  · apply all sound.legal.fits
    constructor
    · exact fun _ => ⟨noRef, by rw [noOperation]; nofun⟩
    case bound =>
      rw [noOperation]
      nofun
    all_goals
      rw [held]
      exact nofun
  · apply all sound.funded
    rw [noOperation]
    nofun
  · intro attempt isAttempt
    obtain ⟨other, mem, rest⟩ := sound.requested attempt isAttempt
    refine ⟨other, ?_, rest⟩
    rw [credits]
    exact List.mem_append_left _ mem
  · intro attempt isAttempt live
    apply all (sound.inFlight attempt isAttempt live)
    exact fun same => (uncalled attempt isAttempt same).elim
  · intro left isLeft right isRight leftLive rightLive ne same
    apply all (sound.marked left isLeft right isRight leftLive rightLive ne same)
    exact fun ofLeft => (uncalled left isLeft ofLeft).elim
  · rw [same]
    apply all sound.recovering
    rw [held]
    exact fun _ => rfl

theorem plain_continues {event : Payout.Event}
    (recoverable : Recoverable s (.plain event)) : Continues (step config s (.plain event)) := by
  have legal := sound.legal
  rw [step]
  split_ifs with isPlain
  · cases event with
    | insertCredit =>
      rw [applyBooks, Payout.step, insertCredit]
      split_ifs with taken
      · simp [State.withBooks]
      apply Continues.of_sound
      refine sound.inserted ?_ rfl rfl rfl rfl (List.append_nil _)
      intro other mem same
      apply taken
      apply List.any_eq_true.mpr
      refine ⟨other, mem, ?_⟩
      simp [same]
    | recoverStale =>
      exact applyBooks_continues sound (recoverStale_proceeds legal) (List.forall_mem_nil _)
    | releasePayout =>
      refine applyBooks_continues sound (changeFitting_proceeds legal ?_) (List.forall_mem_nil _)
      exact fun fits => releasePayoutCredit_advances fits
    | confirmCollection =>
      exact applyBooks_continues sound (confirmCollection_proceeds legal) (List.forall_mem_nil _)
    | claimReversal =>
      refine applyBooks_continues sound (changeFitting_proceeds legal ?_) (List.forall_mem_nil _)
      exact fun fits => claimReversalCredit_advances fits
    | finalizeReversal =>
      refine applyBooks_continues sound (changeFitting_proceeds legal ?_) (List.forall_mem_nil _)
      exact fun fits => finalizeReversalCredit_advances fits
    | reversalFailed =>
      refine applyBooks_continues sound (changeFitting_proceeds legal ?_) (List.forall_mem_nil _)
      exact fun fits => reversalFailedCredit_advances fits
    | fileDispute =>
      exact applyBooks_continues sound (fileDispute_proceeds legal) (List.forall_mem_nil _)
    | clawbackTaskCredit =>
      refine applyBooks_continues sound
        (clawbackTaskCredit_proceeds legal ?_ ?_) (fun _ => id)
      · intro credit found reversed
        have mem : credit ∈ s.books.credits := List.mem_of_find?_eq_some found
        have safe := recoverable credit mem
        simp [endangers, Option.mem_def.mp found, reversed] at safe
      · intro entry taken
        simpa [takenBack] using taken
    | refundRealtimeContract =>
      refine applyBooks_continues sound
        (refundRealtimeContract_proceeds legal ?_) (fun _ => id)
      intro entry taken
      simpa [takenBack] using taken
    | claimPayout | deferPayout | outcomeUnknown | finalizePayout
    | authorizeSubsidy | impairFunding | resolveDispute => cases isPlain
  · simp

theorem resolveDispute_continues {dispute : DisputeId} {resolution : Resolution}
    (recoverable : Recoverable s (.resolveDispute dispute resolution)) :
    Continues (step config s (.resolveDispute dispute resolution)) := by
  have isOpen : ∀ filed ∈ s.books.disputes.find? (·.dispute == dispute),
      filed.resolution = none → openDispute s dispute = some filed := by
    intro filed found unresolved
    rw [openDispute, Option.mem_def.mp found]
    simp [Option.filter, unresolved]
  refine applyBooks_continues sound
    (resolveDispute_proceeds sound.legal ?_ ?_ ?_) (fun _ => id)
  · rintro rfl filed found unresolved credit mem ofJob reversed
    have safe := recoverable credit mem
    simp [endangers, isOpen filed found unresolved, ofJob, reversed] at safe
  · rintro rfl filed found unresolved credit mem held clawed required
    have safe := recoverable credit mem
    rw [endangers, isOpen filed found unresolved, Option.any_some, held,
      required, List.contains_iff_mem.mpr clawed] at safe
    simpa using safe
  · intro credit mem taken
    cases resolution with
    | rejected => cases taken
    | upheld =>
      refine ⟨rfl, ?_⟩
      simp only [takenBack] at taken
      cases found : s.books.disputes.find? (·.dispute == dispute) with
      | none =>
        rw [found] at taken
        cases taken
      | some filed =>
        rw [found] at taken
        simp only at taken
        split_ifs at taken with settled
        · cases taken
        obtain ⟨other, chosen, same⟩ := List.mem_map.mp taken
        obtain ⟨otherMem, ofJob⟩ := List.mem_filter.mp chosen
        have sameCredit : other = credit := sound.legal.eq_of_entry otherMem mem same
        refine ⟨filed, rfl, by simpa using settled, ?_⟩
        rw [← sameCredit]
        exact beq_iff_eq.mp ofJob

end

/-! ## Funding and claims -/

theorem bindSubsidy_ok {amount : Int} {bound : State}
    (ran : bindSubsidy s entry terms amount = .ok bound) :
    ∃ fundings, bound = { s with fundings } ∧ Keeps s.fundings fundings ∧
      ∃ funding, fundings.find? entry = some funding ∧
        funding.source = .subsidy terms ∧ funding.amountCents = amount := by
  rw [bindSubsidy] at ran
  cases found : s.fundings.find? entry with
  | some funding =>
    rw [found] at ran
    simp only at ran
    split_ifs at ran with same
    cases ran
    exact ⟨s.fundings, rfl, fun _ _ known => known, funding, found, same⟩
  | none =>
    rw [found] at ran
    simp only [reserveSubsidy] at ran
    split at ran
    · cases ran
    · split_ifs at ran
      cases ran
      exact ⟨_, rfl, fun _ _ => find?_insert_of_some found, _, find?_insert_self found, rfl, rfl⟩

theorem bindSubsidy_error {amount : Int} {failure : Failure}
    (failed : bindSubsidy s entry terms amount = .error failure) :
    failure = .fundUnavailable ∨ failure = .fundingBound := by
  rw [bindSubsidy] at failed
  split at failed
  · split_ifs at failed
    cases failed
    exact .inr rfl
  · rw [reserveSubsidy] at failed
    split at failed
    · cases failed
      exact .inl rfl
    · simp only at failed
      split_ifs at failed <;> cases failed <;> simp

theorem authorizePayoutSubsidy_continues (sound : Sound s) :
    Continues (authorizePayoutSubsidy config s entry terms) := by
  rw [authorizePayoutSubsidy]
  cases found : s.books.credit entry with
  | none => simp
  | some credit =>
    simp only [splitSupplierLiabilityMicros]
    by_cases negative : credit.liabilityMicros < 0
    · split_ifs
      · simp
      · simp
    · simp only [if_neg negative]
      split_ifs
      · simp
      · simp
      cases outcome : bindSubsidy s entry terms (credit.liabilityMicros.tdiv config.factor) with
      | error =>
        rcases bindSubsidy_error outcome with rfl | rfl
        · simp
        · simp
      | ok =>
        obtain ⟨_, rfl, kept, _⟩ := bindSubsidy_ok outcome
        have proceeds :
            Proceeds (Turns s.asked (· ∈ s.clawbacks) (fun _ => False) (fun _ => False) s.books)
              (changeCredit s.books entry authorizePayoutSubsidyCredit) :=
          changeFitting_proceeds sound.legal authorizePayoutSubsidyCredit_advances
        apply withBooks_continues proceeds
        intro books turns
        exact sound.turned turns rfl rfl kept nofun fun _ clawed => .inl clawed

theorem recomputeFunding_continues {exposed : EntryId → Option Bool}
    (sound : Sound s) : Continues (recomputeFunding config s exposed) := by
  exact Sound.withBooks { sound with } (impairFunding_proceeds sound.legal)

variable {cents : Int}

theorem reservePayoutFunding_ok {funded : Bool} {reserved : State} (ran :
      reservePayoutFunding s entry cents collected = .ok (reserved, funded)) :
    ∃ fundings, reserved = { s with fundings } ∧ Keeps s.fundings fundings ∧
      (funded = true → (fundings.find? entry).isSome = true) := by
  rw [reservePayoutFunding] at ran
  split at ran
  · rename_i funding found
    split_ifs at ran
    cases ran
    exact ⟨s.fundings, rfl, fun _ _ same => same, fun _ => by rw [found]; rfl⟩
  · rename_i found
    split_ifs at ran
    · cases ran
      refine ⟨_, rfl, fun _ _ => find?_insert_of_some found, fun _ => ?_⟩
      rw [find?_insert_self]
      rfl
    · cases ran
      exact ⟨s.fundings, rfl, fun _ _ same => same, by simp⟩

theorem Sound.startAttempt {resolvingUnknown : Bool} {operation : Operation} (sound : Sound s)
    (mem : credit ∈ s.books.credits) (ofEntry : credit.entry = entry)
    (isOperation : credit.operation = some operation) (requested : operation.requestedCents = cents)
    (inFlight : credit.status.inFlight = true) (marked : s.asked entry → credit.Marked) :
    Continues (s.startAttempt id entry cents resolvingUnknown) := by
  obtain ⟨funding, found⟩ :=
    Option.isSome_iff_exists.mp (sound.funded credit mem (by rw [isOperation]; rfl))
  rw [ofEntry] at found
  have only : ∀ other ∈ s.books.credits, other.entry = entry → other = credit := by
    intro other otherMem same
    exact sound.legal.eq_of_entry otherMem mem (same.trans ofEntry.symm)
  rw [State.startAttempt]
  split_ifs with fresh
  · apply Continues.of_sound
    refine ⟨sound.legal, sound.funded, ?_, ?_, ?_, ?_, ?_, sound.movedOnce, sound.recovering⟩
    · refine forall_insert fresh sound.requested ?_
      exact ⟨credit, mem, ofEntry, operation, isOperation, requested⟩
    · refine forall_insert fresh sound.backed ?_
      exact ⟨funding, found, found⟩
    · refine forall_insert fresh sound.inFlight ?_
      intro _ other otherMem same
      rw [only other otherMem same]
      exact inFlight
    · intro left isLeft right isRight leftLive rightLive ne same other otherMem ofLeft
      have rightCases := List.mem_append.mp isRight
      rw [List.mem_singleton] at rightCases
      rcases List.mem_append.mp isLeft with leftOld | leftNew
      · rcases rightCases with rightOld | rfl
        · exact sound.marked left leftOld right rightOld leftLive rightLive
              ne same other otherMem ofLeft
        · rw [only other otherMem (ofLeft.trans same)]
          exact marked ⟨left, leftOld, leftLive, same⟩
      · cases List.mem_singleton.mp leftNew
        rw [only other otherMem ofLeft]
        rcases rightCases with rightOld | rfl
        · exact marked ⟨right, rightOld, rightLive, same.symm⟩
        · exact (ne rfl).elim
    · intro movement isMovement
      obtain ⟨attempt, isAttempt, rest⟩ := sound.called movement isMovement
      exact ⟨attempt, List.mem_append_left _ isAttempt, rest⟩
  · simp

theorem claimOutcomeUnknown_continues (sound : Sound s) :
    Continues (claimOutcomeUnknown s id entry) := by
  rw [claimOutcomeUnknown]
  cases found : s.books.credit entry with
  | none => simp
  | some credit =>
    obtain ⟨mem, isEntry⟩ := State.credit_some found
    cases isOperation : credit.operation with
    | none =>
      simp only [isOperation]
      simp
    | some operation =>
      simp only [isOperation]
      split_ifs with allowed
      · obtain ⟨unknown, _, _, _, _, status⟩ := allowed
        refine sound.startAttempt mem isEntry isOperation rfl ?_ ?_
        · rcases status with status | status
          all_goals
            rw [status]
            rfl
        · exact fun _ => ⟨operation, isOperation, .inl unknown⟩
      · simp

theorem claimPayout_continues {context : ClaimContext} (sound : Sound s)
    (recoverable : Recoverable s (.claimPayout id entry context)) :
    Continues (claimPayout config s id entry context) := by
  rw [claimPayout]
  cases found : s.books.credit entry with
  | none => simp
  | some credit =>
    obtain ⟨mem, isEntry⟩ := State.credit_some found
    simp only
    split_ifs with refused
    · exact Continues.of_sound sound
    simp only [Bool.or_eq_true, not_or, Bool.not_eq_true, Bool.not_eq_false'] at refused
    have notClawed : entry ∉ s.clawbacks := by
      have safe := recoverable credit mem
      simpa [endangers, isEntry, refused] using safe
    -- the claim itself, once the funding is reserved
    have claims {fundings : Table Funding.entry} {funded : Bool} (kept : Keeps s.fundings fundings)
        (row : funded = true → (fundings.find? entry).isSome = true) :
        Continues ({ s with fundings }.withBooks (Payout.claimPayout config.factor s.books entry
              ⟨context.released, context.approved, funded⟩)) := by
      have proceeds : Proceeds (Turns s.asked (· ∈ s.clawbacks)
              (fun other => other = entry ∧ funded = true) (fun _ => False)
              s.books)
            (Payout.claimPayout config.factor s.books entry
              ⟨context.released, context.approved, funded⟩) :=
        claimPayout_proceeds sound.legal notClawed fun isFunded => ⟨rfl, isFunded⟩
      apply withBooks_continues proceeds
      intro books turns
      refine sound.turned turns rfl rfl kept ?_ fun _ clawed => .inl clawed
      rintro other ⟨rfl, isFunded⟩
      exact row isFunded
    cases accrued :
        accrueSupplierLiability config.factor (s.books.accruals credit.supplier) credit.settlement
          credit.liabilityMicros with
    | error =>
      refine continues_error.mpr ?_
      rintro ⟨⟩
      exact accrueSupplierLiability_ne_illegal accrued
    | ok pair =>
      obtain ⟨settlement, _⟩ := pair
      simp only
      split_ifs with zero
      · exact claims (fun _ _ same => same) (by simp)
      cases reservation : reservePayoutFunding s entry settlement.cashCents context.collected with
      | error =>
        refine continues_error.mpr ?_
        rintro ⟨⟩
        rw [reservePayoutFunding] at reservation
        split at reservation
        all_goals split_ifs at reservation <;> cases reservation
      | ok pair =>
        obtain ⟨reserved, funded⟩ := pair
        obtain ⟨fundings, rfl, kept, row⟩ := reservePayoutFunding_ok reservation
        have claim := claims kept row
        cases funded with
        | false => exact claim
        | true =>
          simp only
          cases outcome : Payout.claimPayout config.factor s.books entry
                ⟨context.released, context.approved, true⟩ with
          | error =>
            rw [outcome] at claim
            exact claim
          | ok books =>
            rw [outcome] at claim
            have claimed : Sound { s with fundings, books } := claim.2 _ rfl
            have claimable : credit.claimable ⟨context.released, context.approved, true⟩ = true :=
              refused.2
            obtain ⟨_, changedMem, sameEntry, sending, _, isOperation, cents⟩ :=
              claimPayout_sends found refused.1 claimable accrued zero rfl outcome
            refine claimed.startAttempt changedMem sameEntry
              isOperation cents (by rw [sending]; rfl) ?_
            rintro ⟨attempt, isAttempt, live, ofEntry⟩
            have before :=
              sound.inFlight attempt isAttempt live credit mem (isEntry.trans ofEntry.symm)
            rcases Credit.claimable_status refused.2 with status | status | status
            all_goals
              rw [status] at before
              cases before

/-! ## The provider and the workers -/

structure SameCall (before after : Attempt) : Prop where
  id : after.id = before.id
  entry : after.entry = before.entry
  cents : after.cents = before.cents
  funding : after.funding = before.funding
  live : after.Live → before.Live

/-- A call goes on; the provider refuses it only while no cash has left. -/
theorem Sound.setAttempt {before after : Attempt} (sound : Sound s)
    (isBefore : before ∈ s.attempts.rows) (same : SameCall before after)
    (answer : after.answer = some .refused →
      before.answer = some .refused ∨ before.entry ∉ s.moved.map Movement.entry) :
    Sound (s.setAttempt after) := by
  have rows : ∀ attempt ∈ (s.attempts.set after).rows,
      ∃ old ∈ s.attempts.rows, SameCall old attempt := by
    intro attempt isAttempt
    rcases mem_set isAttempt with rfl | ⟨old, _⟩
    · exact ⟨before, isBefore, same⟩
    · exact ⟨attempt, old, rfl, rfl, rfl, rfl, id⟩
  refine ⟨sound.legal, sound.funded, ?_, ?_, ?_, ?_, ?_, sound.movedOnce, sound.recovering⟩
  · intro attempt isAttempt
    obtain ⟨old, isOld, call⟩ := rows attempt isAttempt
    rw [call.entry, call.cents]
    exact sound.requested old isOld
  · intro attempt isAttempt
    obtain ⟨old, isOld, call⟩ := rows attempt isAttempt
    rw [call.entry, call.funding]
    exact sound.backed old isOld
  · intro attempt isAttempt live
    obtain ⟨old, isOld, call⟩ := rows attempt isAttempt
    rw [call.entry]
    exact sound.inFlight old isOld (call.live live)
  · intro left isLeft right isRight leftLive rightLive ne sameEntry
    obtain ⟨oldLeft, isOldLeft, leftCall⟩ := rows left isLeft
    obtain ⟨oldRight, isOldRight, rightCall⟩ := rows right isRight
    rw [leftCall.id, rightCall.id] at ne
    rw [leftCall.entry, rightCall.entry] at sameEntry
    rw [leftCall.entry]
    exact sound.marked oldLeft isOldLeft oldRight isOldRight
        (leftCall.live leftLive) (rightCall.live rightLive) ne sameEntry
  · intro movement isMovement
    obtain ⟨attempt, isAttempt, ofEntry, cents, notRefused⟩ := sound.called movement isMovement
    by_cases isCall : attempt.id = after.id
    · have sameAttempt : attempt = before := eq_of_key isAttempt isBefore (isCall.trans same.id)
      subst sameAttempt
      refine ⟨after, ?_, same.entry.trans ofEntry, same.cents.trans cents, ?_⟩
      · exact mem_updateWhere.mpr ⟨attempt, isAttempt, by simp [isCall]⟩
      · intro refused
        rcases answer refused with already | unmoved
        · exact notRefused already
        · apply unmoved
          rw [ofEntry]
          exact List.mem_map_of_mem isMovement
    · refine ⟨attempt, ?_, ofEntry, cents, notRefused⟩
      exact mem_updateWhere.mpr ⟨attempt, isAttempt, by simp [isCall]⟩

theorem onAttempt_continues {body : Attempt → Except Failure State}
    (continues : ∀ attempt ∈ s.attempts.rows, attempt.id = id → Continues (body attempt)) :
    Continues (s.onAttempt id body) := by
  rw [State.onAttempt]
  cases found : s.attempts.find? id with
  | none => simp
  | some attempt =>
    obtain ⟨isAttempt, isId⟩ := find?_eq_some.mp found
    exact continues attempt isAttempt isId

theorem Attempt.live_of_answer (notRefused : attempt.answer ≠ some .refused) : attempt.Live :=
  fun refused => notRefused refused.1

section

variable (sound : Sound s)

include sound

theorem execute_continues : Continues (execute config s id ref) := by
  apply onAttempt_continues
  intro attempt isAttempt _
  split_ifs with refused
  · simp
  rw [not_or] at refused
  have live : attempt.Live := Attempt.live_of_answer refused.2
  have answered : ∀ cents other, attempt.answer.or (some (.sent cents other)) ≠ some .refused := by
    intro cents other
    cases isAnswer : attempt.answer with
    | none => nofun
    | some =>
      rw [isAnswer] at refused
      exact refused.2
  have sent : ∀ cents other, Sound (s.setAttempt
          { attempt with answer := attempt.answer.or (some (.sent cents other)) }) := by
    intro cents other
    apply sound.setAttempt isAttempt
    · exact ⟨rfl, rfl, rfl, rfl, fun _ => live⟩
    · exact fun isRefused => (answered cents other isRefused).elim
  cases found : s.moved.find? (·.entry == attempt.entry) with
  | some movement =>
    simp only
    split_ifs
    · simp
    · exact Continues.of_sound (sent movement.cents movement.ref)
  | none =>
    apply Continues.of_sound
    have before := sent attempt.cents ref
    refine { before with called := ?_, movedOnce := ?_ }
    · refine forall_concat before.called ?_
      refine ⟨{ attempt with answer := attempt.answer.or (some (.sent attempt.cents ref)) },
          ?_, rfl, rfl, answered attempt.cents ref⟩
      exact mem_updateWhere.mpr ⟨attempt, isAttempt, by simp⟩
    · refine nodup_concat sound.movedOnce ?_
      intro movement isMovement same
      have other := List.find?_eq_none.mp found movement isMovement
      rw [same] at other
      simp at other

theorem refuse_continues : Continues (refuse s id) := by
  apply onAttempt_continues
  intro attempt isAttempt _
  split_ifs with allowed
  · apply Continues.of_sound
    apply sound.setAttempt isAttempt
    · refine ⟨rfl, rfl, rfl, rfl, fun _ => Attempt.live_of_answer ?_⟩
      rw [Option.isNone_iff_eq_none.mp allowed.1]
      nofun
    · intro _
      right
      intro paid
      obtain ⟨movement, isMovement, same⟩ := List.mem_map.mp paid
      have unmoved := allowed.2
      rw [Bool.not_eq_true', List.any_eq_false] at unmoved
      exact unmoved movement isMovement (by simp [same])
  · simp

theorem Sound.answered {answer : Answer} (isAttempt : attempt ∈ s.attempts.rows)
    (unanswered : attempt.answer.isNone = true) (other : answer ≠ .refused) :
    Sound (s.setAttempt { attempt with answer := some answer }) := by
  apply sound.setAttempt isAttempt
  · refine ⟨rfl, rfl, rfl, rfl, fun _ => Attempt.live_of_answer ?_⟩
    rw [Option.isNone_iff_eq_none.mp unanswered]
    nofun
  · exact fun refused => (other (Option.some.inj refused)).elim

theorem exportPayout_continues : Continues (exportPayout config s id ref) := by
  apply onAttempt_continues
  intro attempt isAttempt _
  split_ifs with allowed
  · exact Continues.of_sound (sound.answered isAttempt allowed.2 nofun)
  · simp

theorem lose_continues : Continues (lose s id) := by
  apply onAttempt_continues
  intro attempt isAttempt _
  split_ifs with allowed
  · exact Continues.of_sound (sound.answered isAttempt allowed nofun)
  · simp

theorem crash_continues : Continues (crash s id) := by
  apply onAttempt_continues
  intro attempt isAttempt _
  apply Continues.of_sound
  apply sound.setAttempt isAttempt
  · refine ⟨rfl, rfl, rfl, rfl, ?_⟩
    exact fun live refused => live ⟨refused.1, rfl⟩
  · exact .inl

theorem record_continues : Continues (record config s id) := by
  apply onAttempt_continues
  intro attempt isAttempt _
  cases isDone : attempt.done with
  | true => simp
  | false =>
    cases isAnswer : attempt.answer with
    | none => simp
    | some answer =>
      have live : attempt.Live := by
        intro refused
        rw [isDone] at refused
        cases refused.2
      have recorded : Sound (s.setAttempt { attempt with done := true }) := by
        apply sound.setAttempt isAttempt
        · exact ⟨rfl, rfl, rfl, rfl, fun _ => live⟩
        · exact .inl
      have inFlight := sound.inFlight attempt isAttempt live
      rw [isAnswer] at recorded
      apply recorded.withBooks
      cases answer with
      | sent | exported =>
        refine changeCredit_proceeds sound.legal fun credit mem isEntry => ?_
        exact finalizePayoutCredit_advances (sound.legal.fits credit mem)
          (inFlight credit mem isEntry)
      | unclear =>
        exact changeFitting_proceeds sound.legal outcomeUnknownCredit_advances
      | refused =>
        simp only [recordedBooks]
        split_ifs
        · exact changeFitting_proceeds sound.legal outcomeUnknownCredit_advances
        · apply deferPayout_proceeds sound.legal
          rintro ⟨other, isOther, otherLive, sameEntry⟩
          rcases mem_set isOther with rfl | ⟨old, ne⟩
          · exact (otherLive ⟨rfl, rfl⟩).elim
          · exact sound.marked attempt isAttempt other old live otherLive ne.symm sameEntry.symm

end

/-! ## Steps and runs -/

theorem step_continues {event : Event} (sound : Sound s)
    (recoverable : Recoverable s event) : Continues (step config s event) := by
  cases event with
  | plain => exact plain_continues sound recoverable
  | setVerdict => exact sound.withBooks (setVerdict_proceeds sound.legal)
  | resolveDispute => exact resolveDispute_continues sound recoverable
  | recomputeFunding => exact recomputeFunding_continues sound
  | authorizeFund =>
    rw [step, authorizeFund]
    split_ifs
    · exact Continues.of_sound { sound with }
    · simp
  | authorizeSubsidy => exact authorizePayoutSubsidy_continues sound
  | claimPayout => exact claimPayout_continues sound recoverable
  | claimOutcomeUnknown => exact claimOutcomeUnknown_continues sound
  | execute => exact execute_continues sound
  | refuse => exact refuse_continues sound
  | exportPayout => exact exportPayout_continues sound
  | lose => exact lose_continues sound
  | record => exact record_continues sound
  | crash => exact crash_continues sound

end

def NotRefused (config : Config) (s : State) (event : Event) : Prop :=
  step config s event ≠ .error (.books .illegalTransition)

/-- In every run whose steps neither take back recovered cash nor bring a
clawed back credit back, payouts are sound throughout and the transition table
refuses nothing. -/
theorem transfers_sound (config : Config) (events : List Event)
    (recoverable : Meets (step config) Recoverable .empty events) :
    Always (step config) TransfersSound .empty events ∧
      Meets (step config) (NotRefused config) .empty events := by
  have preserved : ∀ s event next, Sound s → Recoverable s event →
      step config s event = .ok next → Sound next := by
    intro s event next sound safe committed
    exact (step_continues sound safe).2 next committed
  constructor
  · apply always_of_guarded preserved _ Sound.empty recoverable
    exact fun s sound => sound.transfersSound
  · apply meets_of_guarded preserved _ Sound.empty recoverable
    exact fun s event sound safe => (step_continues sound safe).1

/-! ## Runs -/

def cents : Config := ⟨10000, by decide, false⟩

/-- The first answer is lost and a second call resolves it, then the dispute is
upheld and the cash recovered. -/
def resolvedRun : List Event :=
  [.plain (.insertCredit 1 7 (.task 3 5) 25000 .pass), .claimPayout 0 1 ⟨true, true, true⟩,
   .execute 0 9,
   .crash 0,
   .plain (.recoverStale [1]),
   .claimOutcomeUnknown 1 1,
   .execute 1 11,
   .record 1,
   .plain (.fileDispute 4 5),
   .resolveDispute 4 .upheld,
   .plain (.claimReversal 1 false),
   .plain (.finalizeReversal 1 2)]

set_option maxRecDepth 4000 in
theorem resolvedRun_sound :
    Meets (step cents) Recoverable .empty resolvedRun ∧
      Always (step cents) TransfersSound .empty resolvedRun ∧
      Meets (step cents) (NotRefused cents) .empty
        resolvedRun := by
  have recoverable : Meets (step cents) Recoverable .empty resolvedRun := by decide
  exact ⟨recoverable, transfers_sound cents resolvedRun recoverable⟩

def releasedRun : List Event :=
  [.plain (.insertCredit 1 7 (.task 3 5) 25000 .pass), .claimPayout 0 1 ⟨true, true, true⟩,
   .execute 0 9,
   .record 0]

/-- The buyer's card payment is taken back and the payout recovered, then the
buyer disputes the job. -/
def recoveredRun : List Event :=
  releasedRun ++
    [.recomputeFunding fun _ => some true, .plain (.claimReversal 1 false),
     .plain (.finalizeReversal 1 2),
     .plain (.fileDispute 4 5)]

def disputedAgainRun : List Event :=
  releasedRun ++
    [.plain (.fileDispute 4 5), .resolveDispute 4 .upheld, .plain (.claimReversal 1 false),
     .plain (.fileDispute 6 5),
     .plain (.reversalFailed 1),
     .resolveDispute 6 .rejected]

set_option maxRecDepth 4000 in
/-- Upholding the dispute of a recovered payout is refused by the transition
table, and the rejected second dispute leaves the clawed back credit
released. -/
theorem disputes_break_transfers :
    step cents (run (step cents) .empty recoveredRun) (.resolveDispute 4 .upheld) =
      .error (.books .illegalTransition) ∧
    ¬ TransfersSound (run (step cents) .empty disputedAgainRun) := by
  constructor
  · rfl
  intro sound
  obtain ⟨credit, member, clawed, paid, isReleased⟩ :
      ∃ credit ∈ (run (step cents) .empty disputedAgainRun).books.credits,
        credit.entry ∈ (run (step cents) .empty disputedAgainRun).clawbacks ∧
          (∃ operation ∈ credit.operation, operation.cashMoved = true) ∧
          credit.status = .released := by
    decide
  have recovered := sound.recovered credit member clawed (.inr paid)
  rw [isReleased] at recovered
  simp at recovered

end MercControl.Payout.Transfer
