import MercControl.Payout.CreditSteps

/-!
# What the payout transactions do to the credits

A transaction advances every credit it writes and leaves the others alone.  The
transition table never refuses it, provided that a credit whose cash has come
back is not taken back once more.
-/

namespace MercControl.Payout

open Library Rows

variable {entry : EntryId} {factor : Int} {job : JobId}

variable {selected : Credit → Bool} {change : Credit → Credit} {next : State} {accrual : Accrual}
  {credit : Credit} {settlement : Settlement} {context : ClaimContext} {dispute : DisputeId}
  {compromised : EntryId → Bool}

section

variable {s : State} {asked clawed claimed taken : EntryId → Prop}

def Turns (asked clawed claimed taken : EntryId → Prop) (before after : State) : Prop :=
  List.Forall₂
    (fun credit changed =>
      Advance (asked credit.entry) (clawed credit.entry) (claimed credit.entry) credit changed ∧
        (taken credit.entry → changed.status.recovering = true))
    before.credits after.credits

/-- The transition table does not refuse the transaction, and it is good if it
commits. -/
def Proceeds (good : State → Prop) (result : Except Failure State) : Prop :=
  result ≠ .error .illegalTransition ∧ ∀ next, result = .ok next → good next

@[simp]
theorem proceeds_error {good : State → Prop} {failure : Failure} :
    Proceeds good (.error failure) ↔ failure ≠ .illegalTransition := by
  simp [Proceeds]

@[simp]
theorem proceeds_ok {good : State → Prop} {next : State} :
    Proceeds good (.ok next) ↔ good next := by
  simp [Proceeds]

theorem changeCredits_ne_illegal (legal : ∀ credit ∈ s.credits, selected credit = true →
      credit.status.mayBecome (change credit).status = true) :
    changeCredits s selected change ≠ .error .illegalTransition := by
  rw [changeCredits]
  split_ifs with refused
  · obtain ⟨credit, mem, both⟩ := List.any_eq_true.mp refused
    simp only [Bool.and_eq_true, Bool.not_eq_true'] at both
    rw [legal credit mem both.1] at both
    cases both.2
  · simp

theorem changeCredits_proceeds {start : State} (same : start.credits = s.credits)
    (fits : ∀ credit ∈ s.credits, credit.Fits)
    (advance : ∀ credit ∈ s.credits, selected credit = true →
      Advance (asked credit.entry) (clawed credit.entry)
          (claimed credit.entry) credit (change credit) ∧
        (taken credit.entry → (change credit).status.recovering = true))
    (others : ∀ credit ∈ s.credits, selected credit = false → ¬ taken credit.entry) :
    Proceeds (Turns asked clawed claimed taken s) (changeCredits start selected change) := by
  rw [← same] at fits advance others
  constructor
  · apply changeCredits_ne_illegal
    exact fun credit mem chosen => (advance credit mem chosen).1.legal
  · intro next ran
    rw [changeCredits_ok ran, Turns, ← same]
    apply forall₂_updateWhere advance
    intro credit mem notSelected
    exact ⟨Advance.refl (fits credit mem), fun isTaken =>
      (others credit mem notSelected isTaken).elim⟩

/-- The credits have different entries and legal configurations. -/
structure Legal (s : State) : Prop where
  distinct : (s.credits.map (·.entry)).Nodup
  fits : ∀ credit ∈ s.credits, credit.Fits

section

variable (legal : Legal s)

include legal

theorem Legal.eq_of_entry {left right : Credit} (leftMem : left ∈ s.credits)
    (rightMem : right ∈ s.credits) (same : left.entry = right.entry) : left = right :=
  List.inj_on_of_nodup_map legal.distinct leftMem rightMem same

theorem changeCredit_proceeds {body : Credit → Except Failure Credit}
    (advances : ∀ credit ∈ s.credits, credit.entry = entry →
      Advances (asked entry) (clawed entry) (claimed entry) credit (body credit)) :
    Proceeds (Turns asked clawed claimed (fun _ => False) s) (changeCredit s entry body) := by
  rw [changeCredit]
  cases found : s.credit entry with
  | none => exact ⟨by simp, by simp⟩
  | some credit =>
    obtain ⟨mem, isEntry⟩ := State.credit_some found
    have advance := advances credit mem isEntry
    cases outcome : body credit with
    | error =>
      rw [outcome] at advance
      simp only [outcome]
      exact ⟨by simpa [Advances] using advance, by simp⟩
    | ok =>
      rw [outcome] at advance
      simp only [outcome]
      refine changeCredits_proceeds rfl legal.fits ?_ fun _ _ _ => not_false
      intro other otherMem chosen
      have same : other = credit :=
        legal.eq_of_entry otherMem mem ((beq_iff_eq.mp chosen).trans isEntry.symm)
      rw [same, isEntry]
      exact ⟨advance, False.elim⟩

theorem changeFitting_proceeds {body : Credit → Except Failure Credit}
    (advances : ∀ {credit : Credit}, credit.Fits →
      Advances (asked entry) (clawed entry) (claimed entry) credit (body credit)) :
    Proceeds (Turns asked clawed claimed (fun _ => False) s) (changeCredit s entry body) :=
  changeCredit_proceeds legal fun credit mem _ => advances (legal.fits credit mem)

theorem deferPayout_proceeds
    (marked : asked entry → ∀ credit ∈ s.credits, credit.entry = entry → credit.Marked) :
    Proceeds (Turns asked clawed claimed (fun _ => False) s) (step factor s (.deferPayout entry)) :=
  changeCredit_proceeds legal fun credit mem isEntry =>
    deferPayoutCredit_advances (legal.fits credit mem)
      fun isAsked => marked isAsked credit mem isEntry

theorem setVerdict_proceeds {verdict : Verdict} :
    Proceeds (Turns asked clawed claimed (fun _ => False) s)
      (changeCredit s entry fun credit => .ok { credit with verdict }) := by
  refine changeCredit_proceeds legal fun credit mem _ => ?_
  have fits := legal.fits credit mem
  exact { Advance.refl fits with entry := rfl, fits := { fits with } }

theorem recoverStale_proceeds {expired : List EntryId} :
    Proceeds (Turns asked clawed claimed (fun _ => False) s)
      (step factor s (.recoverStale expired)) := by
  refine changeCredits_proceeds rfl legal.fits ?_ fun _ _ _ => not_false
  intro credit mem chosen
  refine ⟨?_, False.elim⟩
  simp only [Bool.and_eq_true, beq_iff_eq] at chosen
  have fits := legal.fits credit mem
  constructor
  case fits => constructor <;> grind
  all_goals grind

theorem confirmCollection_proceeds : Proceeds (Turns asked clawed claimed (fun _ => False) s)
      (step factor s (.confirmCollection job)) := by
  refine changeCredits_proceeds rfl legal.fits ?_ fun _ _ _ => not_false
  intro credit mem chosen
  refine ⟨?_, False.elim⟩
  simp only [Bool.and_eq_true, beq_iff_eq] at chosen
  have fits := legal.fits credit mem
  constructor
  case fits => constructor <;> grind
  all_goals grind

theorem impairFunding_proceeds {impaired : List EntryId} :
    Proceeds (Turns asked clawed claimed (fun _ => False) s)
      (step factor s (.impairFunding impaired)) := by
  refine changeCredits_proceeds rfl legal.fits ?_ fun _ _ _ => not_false
  intro credit mem chosen
  refine ⟨?_, False.elim⟩
  simp only [Bool.and_eq_true, Option.any_eq_true, Bool.or_eq_true,
    beq_iff_eq, bne_iff_ne] at chosen
  obtain ⟨_, _, _, _⟩ := chosen
  have fits := legal.fits credit mem
  have inFlight : credit.status.inFlight = true := by cases status : credit.status <;> grind
  obtain ⟨_, _, _, _⟩ := fits.operation_of_inFlight inFlight
  constructor
  case fits => constructor <;> grind
  all_goals grind

theorem Turns.refl (none : ∀ credit ∈ s.credits, ¬ taken credit.entry) :
    Turns asked clawed claimed taken s s := by
  rw [Turns, List.forall₂_same]
  intro credit mem
  exact ⟨Advance.refl (legal.fits credit mem), fun isTaken => (none credit mem isTaken).elim⟩

theorem clawbackTaskCredit_proceeds {supplier : SupplierId} {task : TaskId}
    {correctProjection : Bool}
    (notReversed : ∀ credit ∈ s.taskCredit supplier task, credit.status ≠ .reversed)
    (isTaken : ∀ entry, taken entry → ∃ credit ∈ s.taskCredit supplier task, credit.entry = entry) :
    Proceeds (Turns asked clawed claimed taken s)
      (step factor s (.clawbackTaskCredit supplier task correctProjection)) := by
  rw [step, clawbackTaskCredit]
  cases found : s.taskCredit supplier task with
  | none =>
    refine proceeds_ok.mpr ?_
    apply Turns.refl legal
    intro credit mem hit
    obtain ⟨other, isOther, _⟩ := isTaken credit.entry hit
    rw [found] at isOther
    cases isOther
  | some target =>
    have mem : target ∈ s.credits := List.mem_of_find?_eq_some found
    apply changeCredits_proceeds rfl legal.fits
    · intro credit creditMem chosen
      have same : credit = target := legal.eq_of_entry creditMem mem (beq_iff_eq.mp chosen)
      rw [same]
      refine (Advance.of_clawback (legal.fits target mem)
        (notReversed target found) ?_ ?_ ?_ ?_ ?_).imp_right fun recovering _ => recovering
      all_goals rfl
    · intro credit creditMem notChosen hit
      obtain ⟨other, isOther, sameEntry⟩ := isTaken credit.entry hit
      rw [found] at isOther
      cases isOther
      rw [sameEntry] at notChosen
      simp at notChosen

end

theorem Turns.legal (legal : Legal s)
    (turns : Turns asked clawed claimed taken s next) : Legal next where
  distinct := by
    have entries : next.credits.map (·.entry) = s.credits.map (·.entry) :=
      map_eq_of_forall₂ (fun _ _ both => both.1.entry) turns
    rw [entries]
    exact legal.distinct
  fits := by
    intro credit mem
    obtain ⟨_, _, both⟩ := exists_before turns mem
    exact both.1.fits

theorem accrueSupplierLiability_ne_illegal {settled : Option Settlement} {liability : Int} :
    accrueSupplierLiability factor accrual settled liability ≠ .error .illegalTransition := by
  unfold accrueSupplierLiability
  split_ifs
  · nofun
  · split
    · split_ifs <;> nofun
    · nofun

theorem claimedCredit_ne_illegal {funded : Bool} :
    claimedCredit credit settlement funded ≠ .error .illegalTransition := by
  simp only [claimedCredit]
  split_ifs
  · simp
  · simp
  · simp
  · split
    · simp
    · split_ifs <;> simp

theorem refundRealtimeContract_proceeds {contract : ContractId} (legal : Legal s)
    (isTaken : ∀ entry, taken entry →
      ∃ credit ∈ s.credits.find? (·.source == .contract contract), credit.entry = entry) :
    Proceeds (Turns asked clawed claimed taken s)
      (step factor s (.refundRealtimeContract contract)) := by
  rw [step, refundRealtimeContract]
  cases found : s.credits.find? (·.source == .contract contract) with
  | none => simp
  | some target =>
    rw [found] at isTaken
    have mem : target ∈ s.credits := List.mem_of_find?_eq_some found
    simp only
    split_ifs
    · simp
    · simp
    refine changeCredits_proceeds rfl legal.fits ?_ ?_
    · intro credit creditMem chosen
      have same : credit = target := legal.eq_of_entry creditMem mem (beq_iff_eq.mp chosen)
      rw [same]
      have fits := legal.fits target mem
      have noOperation : target.operation = none := by
        cases isOperation : target.operation <;> grind
      refine ⟨?_, fun _ => rfl⟩
      constructor
      case fits => constructor <;> grind
      all_goals grind
    · intro credit creditMem notChosen hit
      obtain ⟨_, isOther, sameEntry⟩ := isTaken credit.entry hit
      cases isOther
      rw [sameEntry] at notChosen
      simp at notChosen

theorem claimPayout_proceeds (legal : Legal s) (notClawed : ¬ clawed entry)
    (isClaimed : context.funded = true → claimed entry) :
    Proceeds (Turns asked clawed claimed (fun _ => False) s)
      (claimPayout factor s entry context) := by
  rw [claimPayout]
  cases found : s.credit entry with
  | none => simp
  | some credit =>
    obtain ⟨mem, isEntry⟩ := State.credit_some found
    simp only
    split_ifs with refused
    · refine proceeds_ok.mpr ?_
      exact Turns.refl legal fun _ _ => not_false
    · have claimable : credit.claimable context = true := by
        simp only [Bool.or_eq_true, not_or] at refused
        simpa using refused.2
      cases accrued : accrueSupplierLiability factor (s.accruals credit.supplier)
            credit.settlement credit.liabilityMicros with
      | error =>
        refine proceeds_error.mpr ?_
        rintro rfl
        exact accrueSupplierLiability_ne_illegal accrued
      | ok pair =>
        obtain ⟨settlement, _⟩ := pair
        simp only
        cases written : claimedCredit credit settlement context.funded with
        | error =>
          refine proceeds_error.mpr ?_
          rintro rfl
          exact claimedCredit_ne_illegal written
        | ok result =>
          cases result with
          | none =>
            refine proceeds_ok.mpr ?_
            exact Turns.refl legal fun _ _ => not_false
          | some =>
            refine changeCredits_proceeds rfl legal.fits ?_ fun _ _ _ => not_false
            intro other otherMem chosen
            have same : other = credit :=
              legal.eq_of_entry otherMem mem ((beq_iff_eq.mp chosen).trans isEntry.symm)
            rw [same, isEntry]
            exact ⟨claimedCredit_advance (legal.fits credit mem)
                  claimable notClawed isClaimed written,
                False.elim⟩

theorem claimPayout_sends (found : s.credit entry = some credit)
    (undisputed : credit.job.any s.activeDispute = false)
    (claimable : credit.claimable context = true)
    (accrued : accrueSupplierLiability factor (s.accruals credit.supplier)
        credit.settlement credit.liabilityMicros = .ok (settlement, accrual))
    (nonzero : settlement.cashCents ≠ 0) (funded : context.funded = true)
    (ran : claimPayout factor s entry context = .ok next) :
    ∃ changed ∈ next.credits, changed.entry = entry ∧ changed.status = .sending ∧
      ∃ operation, changed.operation = some operation ∧
        operation.requestedCents = settlement.cashCents := by
  obtain ⟨mem, isEntry⟩ := State.credit_some found
  have sends : ∀ result, claimedCredit credit settlement true = .ok result →
        ∃ claimed, result = some claimed ∧ claimed.entry = entry ∧ claimed.status = .sending ∧
          ∃ operation, claimed.operation = some operation ∧
            operation.requestedCents = settlement.cashCents := by
    intro result written
    simp only [claimedCredit, if_neg nonzero, Bool.not_true,
      Bool.false_eq_true, if_false] at written
    split at written
    · cases written
      exact ⟨_, rfl, isEntry, rfl, _, rfl, rfl⟩
    · split_ifs at written with same
      cases written
      exact ⟨_, rfl, isEntry, rfl, _, rfl, same.2⟩
  simp only [claimPayout, found, undisputed, claimable, Bool.not_true,
    Bool.or_self, Bool.false_eq_true, if_false, accrued, funded] at ran
  cases written : claimedCredit credit settlement true with
  | error =>
    rw [written] at ran
    cases ran
  | ok result =>
    obtain ⟨claimed, rfl, isSent⟩ := sends result written
    rw [written] at ran
    rw [changeCredits_ok ran]
    refine ⟨claimed, ?_, isSent⟩
    exact mem_updateWhere.mpr ⟨credit, mem, by simp [isEntry]⟩

theorem fileDispute_proceeds (legal : Legal s) :
    Proceeds (Turns asked clawed claimed (fun _ => False) s)
      (step factor s (.fileDispute dispute job)) := by
  rw [step, fileDispute]
  split_ifs
  · simp
  · simp
  refine changeCredits_proceeds rfl legal.fits ?_ fun _ _ _ => not_false
  intro credit mem chosen
  refine ⟨?_, False.elim⟩
  simp only [Bool.and_eq_true, Bool.or_eq_true, beq_iff_eq] at chosen
  have fits := legal.fits credit mem
  constructor
  case fits => constructor <;> grind
  all_goals grind

section

variable {holds : List EntryId} (legal : Legal s)
  (notReversed : ∀ credit ∈ s.credits, credit.job = some job → credit.status ≠ .reversed)
  (isTaken : ∀ credit ∈ s.credits, taken credit.entry → credit.job = some job)

include legal notReversed isTaken

theorem disputeClawbacks_proceeds :
    Proceeds (Turns asked clawed claimed taken s) (disputeClawbacks s job .upheld) := by
  apply changeCredits_proceeds rfl legal.fits
  · intro credit mem chosen
    have notReversed := notReversed credit mem (beq_iff_eq.mp chosen)
    exact (upheldCredit_advance (legal.fits credit mem) notReversed).imp_right
      fun recovering _ => recovering
  · intro credit mem notChosen hit
    rw [isTaken credit mem hit] at notChosen
    simp at notChosen

theorem upheldDispute_proceeds :
    Proceeds (Turns asked clawed claimed taken s) (match disputeClawbacks s job .upheld with
      | .error failure => .error failure
      | .ok clawed =>
        if clawed.credits.any fun credit =>
            holds.contains credit.entry && holdUnreconcilable .upheld credit then
          .error .recoveryInFlight
        else
          changeCredits clawed (fun credit => holds.contains credit.entry)
            fun credit => reconcileHold .upheld (compromised credit.entry) credit) := by
  have clawbacks : Proceeds (Turns asked clawed claimed taken s) (disputeClawbacks s job .upheld) :=
    disputeClawbacks_proceeds legal notReversed isTaken
  cases outcome : disputeClawbacks s job .upheld with
  | error =>
    refine proceeds_error.mpr ?_
    rintro rfl
    exact clawbacks.1 outcome
  | ok middle =>
    have turns := clawbacks.2 middle outcome
    have middleLegal := turns.legal legal
    simp only
    split_ifs
    · simp
    have reconciled : ∀ credit ∈ middle.credits,
        Advance (asked credit.entry) (clawed credit.entry) (claimed credit.entry) credit
          (reconcileHold .upheld (compromised credit.entry) credit) :=
      fun credit mem => reconcileHold_advance (middleLegal.fits credit mem) nofun
    constructor
    · apply changeCredits_ne_illegal
      exact fun credit mem _ => (reconciled credit mem).legal
    · intro next ran
      rw [changeCredits_ok ran]
      have marks : List.Forall₂
          (fun credit changed =>
            Advance (asked credit.entry) (clawed credit.entry)
                (claimed credit.entry) credit changed ∧
              changed.status = credit.status)
          middle.credits
          (updateWhere (fun credit => holds.contains credit.entry)
            (fun credit => reconcileHold .upheld (compromised credit.entry) credit)
            middle.credits) := by
        apply forall₂_updateWhere
        · intro credit mem _
          exact ⟨reconciled credit mem, reconcileHold_upheld_status _ credit⟩
        · intro credit mem _
          exact ⟨Advance.refl (middleLegal.fits credit mem), rfl⟩
      refine forall₂_comp ?_ turns marks
      intro credit changed final first second
      refine ⟨first.1.trans_of_status second.1 second.2, fun hit => ?_⟩
      rw [second.2]
      exact first.2 hit

end

theorem resolveDispute_proceeds {resolution : Resolution} (legal : Legal s)
    (notReversed : resolution = .upheld → ∀ filed ∈ s.disputes.find? (·.dispute == dispute),
        filed.resolution = none →
          ∀ credit ∈ s.credits, credit.job = some filed.job → credit.status ≠ .reversed)
    (spared : resolution = .rejected → ∀ filed ∈ s.disputes.find? (·.dispute == dispute),
        filed.resolution = none → ∀ credit ∈ s.credits, filed.holds.contains credit.entry = true →
          clawed credit.entry → credit.status = .reversalRequired →
            compromised credit.entry = true ∧ credit.cashEvidence = true)
    (isTaken : ∀ credit ∈ s.credits, taken credit.entry → resolution = .upheld ∧
        ∃ filed ∈ s.disputes.find? (·.dispute == dispute),
          filed.resolution = none ∧ credit.job = some filed.job) :
    Proceeds (Turns asked clawed claimed taken s)
      (step factor s (.resolveDispute dispute resolution compromised)) := by
  rw [step, resolveDispute]
  cases found : s.disputes.find? (·.dispute == dispute) with
  | none => simp
  | some filed =>
    rw [found] at notReversed spared isTaken
    simp only
    split_ifs with repeated settled
    · refine proceeds_ok.mpr ?_
      apply Turns.refl legal
      intro credit mem hit
      obtain ⟨_, other, ⟨⟩, open', _⟩ := isTaken credit mem hit
      rw [open'] at repeated
      cases repeated
    · simp
    · rw [Bool.not_eq_true, Option.isSome_eq_false_iff, Option.isNone_iff_eq_none] at settled
      cases resolution with
      | rejected =>
        have noneTaken : ∀ credit ∈ s.credits, ¬ taken credit.entry := by
          intro credit mem hit
          cases (isTaken credit mem hit).1
        simp only [disputeClawbacks]
        split_ifs
        · simp
        refine changeCredits_proceeds rfl legal.fits ?_
          fun credit mem _ => noneTaken credit mem
        intro credit mem held
        refine ⟨reconcileHold_advance (legal.fits credit mem) ?_,
          fun hit => (noneTaken credit mem hit).elim⟩
        intro _
        exact spared rfl filed rfl settled credit mem held
      | upheld =>
        exact upheldDispute_proceeds ⟨legal.distinct, legal.fits⟩
          (notReversed rfl filed rfl settled) fun credit mem hit => by
            obtain ⟨_, other, ⟨⟩, _, ofJob⟩ := isTaken credit mem hit
            exact ofJob

end

end MercControl.Payout
