import MercControl.Payout.Clawbacks

/-!
# What the accrual owes

The cash requested for a supplier and the carry together are the sum of all
credits ever absorbed.  They are the sum over the credits not clawed back
before their cash left as long as every clawback finds its credit outside the
accrual or its cash already gone.
-/

namespace MercControl.Payout

open Library Machine Rows

/-! ## The property -/

def Credit.requestedCents (credit : Credit) : Int :=
  match credit.settlement with
  | some settlement => settlement.cashCents
  | none => 0

def cashRequestedCents (s : State) (supplier : SupplierId) : Int :=
  sumWhere (·.supplier == supplier) Credit.requestedCents s.credits

def absorbedMicros (s : State) (supplier : SupplierId) : Int :=
  sumWhere (fun credit => credit.supplier == supplier && credit.absorbed)
    Credit.liabilityMicros s.credits

/-- The absorbed credits of the supplier without those clawed back before their
cash left. -/
def keptMicros (s : State) (supplier : SupplierId) : Int :=
  sumWhere
    (fun credit => (credit.supplier == supplier && credit.absorbed) && credit.status != .clawedBack)
    Credit.liabilityMicros s.credits

/-- Requested cash and carry are the absorbed credits that were not clawed back
before their cash left. -/
def Conserved (factor : Int) (s : State) : Prop :=
  ∀ supplier,
    cashRequestedCents s supplier * factor + (s.accruals supplier).accruedMicros =
      keptMicros s supplier

/-! ## The condition -/

/-- The credit's value is in the accrual and its cash has not been sent for. -/
def Credit.Pooled (credit : Credit) : Prop :=
  credit.absorbed = true ∧ 0 < credit.liabilityMicros ∧
    credit.cashLeft = false ∧ credit.status ≠ .clawedBack
  deriving Decidable

/-- A realtime refund takes the credit back without looking further. -/
def Credit.PooledRealtime (credit : Credit) : Prop :=
  credit.absorbed = true ∧ 0 < credit.liabilityMicros ∧ credit.fundingBound = false ∧
    (credit.status = .held ∨ credit.status = .awaitingFunding ∨ credit.status = .carried)
  deriving Decidable

/-- No credit of the disputed job is in the accrual. -/
def SparesJob (s : State) (filed : Dispute) : Prop :=
  filed.resolution = none → ∀ credit ∈ s.credits, credit.job = some filed.job → ¬ credit.Pooled
  deriving Decidable

/-- No clawback finds its credit in the accrual. -/
def SparesAccrual (s : State) : Event → Prop
  | .clawbackTaskCredit supplier task _ => ∀ credit ∈ s.taskCredit supplier task, ¬ credit.Pooled
  | .resolveDispute dispute .upheld _ =>
    ∀ filed ∈ s.disputes.find? (·.dispute == dispute), SparesJob s filed
  | .refundRealtimeContract contract =>
    ∀ credit ∈ s.credits.find? (·.source == .contract contract), ¬ credit.PooledRealtime
  | _ => True

instance (s : State) (event : Event) : Decidable (SparesAccrual s event) := by
  unfold SparesAccrual
  split <;> infer_instance

/-! ## The books -/

/-- What every run keeps: the accrual row agrees with the settlements and adds
up to the absorbed liability. -/
structure Books (factor : Int) (s : State) : Prop where
  distinct : (s.credits.map (·.entry)).Nodup
  nonneg : ∀ credit ∈ s.credits, credit.absorbed = true → 0 ≤ credit.liabilityMicros
  balanced : ∀ supplier,
    cashRequestedCents s supplier * factor + (s.accruals supplier).accruedMicros =
      absorbedMicros s supplier
  lifetimePaid : ∀ supplier, (s.accruals supplier).lifetimePaidCents = cashRequestedCents s supplier
  lifetimeAbsorbed : ∀ supplier, (s.accruals supplier).lifetimeAbsorbed = absorbedMicros s supplier

/-- Nothing clawed back before its cash left is in the accrual. -/
def NoneLeftBehind (s : State) : Prop :=
  ∀ credit ∈ s.credits,
    credit.status = .clawedBack → credit.absorbed = true → credit.liabilityMicros = 0

variable {before credit changed : Credit} {entry : EntryId} {factor : Int} {s next : State}
  {settlement : Settlement} {dispute : DisputeId}
  {compromised : EntryId → Bool}

theorem Books.conserved_iff {factor : Int} {s : State} (books : Books factor s) :
    Conserved factor s ↔ NoneLeftBehind s := by
  let behind (supplier : SupplierId) (credit : Credit) : Bool :=
    (credit.supplier == supplier && credit.absorbed) && !(credit.status != .clawedBack)
  have split supplier : absorbedMicros s supplier =
      keptMicros s supplier + sumWhere (behind supplier) Credit.liabilityMicros s.credits :=
    sumWhere_split (fun credit : Credit => credit.status != .clawedBack) s.credits
  have zero_iff supplier : sumWhere (behind supplier) Credit.liabilityMicros s.credits = 0 ↔
      ∀ credit ∈ s.credits, behind supplier credit = true → credit.liabilityMicros = 0 := by
    apply sumWhere_eq_zero_iff
    intro credit mem chosen
    simp only [behind, Bool.and_eq_true] at chosen
    exact books.nonneg credit mem chosen.1.2
  constructor
  · intro conserved credit mem clawed absorbed
    have balanced := books.balanced credit.supplier
    rw [conserved credit.supplier, split credit.supplier] at balanced
    exact (zero_iff credit.supplier).mp (by omega) credit mem (by simp [behind, clawed, absorbed])
  · intro rowwise supplier
    have none : _ = (0 : Int) := (zero_iff supplier).mpr (by
      intro credit mem chosen
      simp only [behind, Bool.and_eq_true, Bool.not_eq_true', bne_eq_false_iff_eq] at chosen
      exact rowwise credit mem chosen.2 chosen.1.2)
    rw [books.balanced supplier, split supplier, none, Int.add_zero]

theorem Books.empty (factor : Int) : Books factor State.empty where
  distinct := List.nodup_nil
  nonneg := List.forall_mem_nil _
  balanced := by
    intro supplier
    simp [State.empty, cashRequestedCents, absorbedMicros]
  lifetimePaid := fun _ => rfl
  lifetimeAbsorbed := fun _ => rfl

structure Sound (factor : Int) (s : State) : Prop where
  books : Books factor s
  noneLeftBehind : NoneLeftBehind s

/-! ## Updates of credits -/

/-- The update keeps what the accrual knows of the credit, and only a credit
that is in the accrual begins to wait for funding. -/
structure SameLiability (before after : Credit) : Prop where
  entry : after.entry = before.entry
  supplier : after.supplier = before.supplier
  liability : after.liabilityMicros = before.liabilityMicros
  settlement : after.settlement = before.settlement
  awaiting : after.status = .awaitingFunding →
    before.status = .awaitingFunding ∨ before.settlement.isSome = true

structure Quiet (before after : Credit) : Prop
    extends SameLiability before after where
  status : after.status = .clawedBack → before.status = .clawedBack

theorem SameLiability.absorbed {after : Credit} (same : SameLiability before after) :
    after.absorbed = before.absorbed := by
  rw [Credit.absorbed, same.settlement, Credit.absorbed]

theorem SameLiability.requestedCents {after : Credit} (same : SameLiability before after) :
    after.requestedCents = before.requestedCents := by
  rw [Credit.requestedCents, same.settlement, Credit.requestedCents]

def SettlementsKept (s next : State) : Prop :=
  List.Forall₂ SameLiability s.credits next.credits ∧ next.accruals = s.accruals

theorem SameLiability.trans {middle after : Credit} (first : SameLiability before middle)
    (second : SameLiability middle after) : SameLiability before after where
  entry := second.entry.trans first.entry
  supplier := second.supplier.trans first.supplier
  liability := second.liability.trans first.liability
  settlement := second.settlement.trans first.settlement
  awaiting := by
    intro awaiting
    rcases second.awaiting awaiting with middleAwaits | settled
    · exact first.awaiting middleAwaits
    · rw [first.settlement] at settled
      exact .inr settled

section

variable {selected : Credit → Bool} {change : Credit → Credit}

theorem SameLiability.refl (credit : Credit) : SameLiability credit credit :=
  ⟨rfl, rfl, rfl, rfl, .inl⟩

theorem SettlementsKept.of_eq (credits : next.credits = s.credits)
    (accruals : next.accruals = s.accruals) : SettlementsKept s next := by
  rw [SettlementsKept, credits]
  exact ⟨List.forall₂_same.mpr fun credit _ => .refl credit, accruals⟩

theorem Books.of_sums (books : Books factor s) (distinct : (next.credits.map (·.entry)).Nodup)
    (nonneg : ∀ credit ∈ next.credits, credit.absorbed = true → 0 ≤ credit.liabilityMicros)
    (cash : ∀ supplier, cashRequestedCents next supplier = cashRequestedCents s supplier)
    (absorbed : ∀ supplier, absorbedMicros next supplier = absorbedMicros s supplier)
    (accruals : next.accruals = s.accruals) : Books factor next where
  distinct
  nonneg
  balanced := by
    intro supplier
    rw [cash, absorbed, accruals]
    exact books.balanced supplier
  lifetimePaid := by
    intro supplier
    rw [cash, accruals]
    exact books.lifetimePaid supplier
  lifetimeAbsorbed := by
    intro supplier
    rw [absorbed, accruals]
    exact books.lifetimeAbsorbed supplier

theorem Books.kept (books : Books factor s) (kept : SettlementsKept s next) :
    Books factor next := by
  obtain ⟨credits, accruals⟩ := kept
  refine books.of_sums ?_ ?_ ?_ ?_ accruals
  · rw [map_eq_of_forall₂ (fun _ _ same => same.entry) credits]
    exact books.distinct
  · intro credit mem
    obtain ⟨old, oldMem, same⟩ := exists_before credits mem
    rw [same.absorbed, same.liability]
    exact books.nonneg old oldMem
  · intro supplier
    refine sumWhere_forall₂ ?_ credits
    intro before after same
    rw [same.supplier, same.requestedCents]
  · intro supplier
    refine sumWhere_forall₂ ?_ credits
    intro before after same
    rw [same.supplier, same.absorbed, same.liability]

theorem changeCredits_ok (ran : changeCredits s selected change = .ok next) :
    next = { s with credits := updateWhere selected change s.credits } := by
  simp only [changeCredits, ite_error_eq_ok, Except.ok.injEq] at ran
  exact ran.2.symm

section

variable {start : State} (ran : changeCredits start selected change = .ok next)
  (credits : start.credits = s.credits) (accruals : start.accruals = s.accruals)

include ran credits

section

variable (same : ∀ credit ∈ s.credits, selected credit = true →
  SameLiability credit (change credit))

include same

theorem changeCredits_behind (behind : NoneLeftBehind s)
    (spared : ∀ credit ∈ s.credits, selected credit = true →
      (change credit).status = .clawedBack → credit.absorbed = true → credit.liabilityMicros = 0) :
    NoneLeftBehind next := by
  rw [changeCredits_ok ran, NoneLeftBehind, credits]
  refine forall_updateWhere behind ?_
  intro credit mem chosen
  have kept := same credit mem chosen
  rw [kept.absorbed, kept.liability]
  exact spared credit mem chosen

include accruals

theorem changeCredits_same : SettlementsKept s next := by
  rw [changeCredits_ok ran, SettlementsKept, ← credits, ← accruals]
  rw [← credits] at same
  exact ⟨forall₂_updateWhere same fun credit _ _ => .refl credit, rfl⟩

/-- The step lemma of every operation that claws back: it is sound when what
it claws back was outside the accrual. -/
theorem changeCredits_spared {event : Event}
    (spared : Sound factor s → SparesAccrual s event → ∀ credit ∈ s.credits,
      selected credit = true → (change credit).status = .clawedBack → credit.absorbed = true →
        credit.liabilityMicros = 0) :
    SettlementsKept s next ∧ (Sound factor s → SparesAccrual s event → NoneLeftBehind next) := by
  refine ⟨changeCredits_same ran credits accruals same, fun sound spares => ?_⟩
  exact changeCredits_behind ran credits same sound.noneLeftBehind (spared sound spares)

end

include accruals

theorem changeCredits_quiet
    (quiet : ∀ credit ∈ s.credits, selected credit = true → Quiet credit (change credit)) :
    SettlementsKept s next ∧ (NoneLeftBehind s → NoneLeftBehind next) := by
  have same : ∀ credit ∈ s.credits, selected credit = true →
      SameLiability credit (change credit) :=
    fun credit mem chosen => (quiet credit mem chosen).toSameLiability
  refine ⟨changeCredits_same ran credits accruals same, fun behind => ?_⟩
  refine changeCredits_behind ran credits same behind ?_
  intro credit mem chosen clawed
  exact behind credit mem ((quiet credit mem chosen).status clawed)

end

theorem State.credit_some (found : s.credit entry = some credit) :
    credit ∈ s.credits ∧ credit.entry = entry := by
  refine ⟨List.mem_of_find?_eq_some found, ?_⟩
  simpa using List.find?_some found

theorem Books.eq_of_entry (books : Books factor s) {other : Credit}
    (mem : credit ∈ s.credits) (otherMem : other ∈ s.credits)
    (equal : (other.entry == credit.entry) = true) : other = credit :=
  List.inj_on_of_nodup_map books.distinct otherMem mem (by simpa using equal)

theorem changeCredit_quiet {body : Credit → Except Failure Credit}
    (distinct : (s.credits.map (·.entry)).Nodup)
    (quiet : ∀ credit changed, body credit = .ok changed → Quiet credit changed)
    (ran : changeCredit s entry body = .ok next) :
    SettlementsKept s next ∧ (NoneLeftBehind s → NoneLeftBehind next) := by
  rw [changeCredit] at ran
  rcases found : s.credit entry with _ | credit
  · simp [found] at ran
  obtain ⟨mem, entryEq⟩ := State.credit_some found
  rcases outcome : body credit with _ | changed
  · simp [found, outcome] at ran
  simp only [found, outcome] at ran
  refine changeCredits_quiet ran rfl rfl ?_
  intro other otherMem chosen
  have sameEntry := (beq_iff_eq.mp chosen).trans entryEq.symm
  rw [List.inj_on_of_nodup_map distinct otherMem mem sameEntry]
  exact quiet credit changed outcome

end

/-! ## Operations that claw nothing back -/

variable {verdict : Verdict} {activeDispute : Bool} {context : ClaimContext} {liability : Int}
  {supplier : SupplierId} {resolution : Resolution} {event : Event}

theorem quiet_of_status {status : PayoutStatus} {payoutRef : Option ProviderRef}
    {operation : Option Operation} {fundingBound : Bool}
    (notClawed : status = .clawedBack → before.status = .clawedBack)
    (notAwaiting : status = .awaitingFunding → before.status = .awaitingFunding) :
    Quiet before { before with status, payoutRef, verdict, operation, fundingBound } :=
  ⟨⟨rfl, rfl, rfl, rfl, fun awaiting => .inl (notAwaiting awaiting)⟩, notClawed⟩

theorem Quiet.refl (credit : Credit) : Quiet credit credit := quiet_of_status id id

theorem deferPayoutCredit_quiet (ran : deferPayoutCredit activeDispute credit = .ok changed) :
    Quiet credit changed := by
  simp only [deferPayoutCredit] at ran
  split_ifs at ran <;> cases ran
  · exact Quiet.refl credit
  · apply quiet_of_status <;> rintro ⟨⟩
  · exact Quiet.refl credit
  · apply quiet_of_status <;> rintro ⟨⟩
  · exact Quiet.refl credit

theorem outcomeUnknownCredit_quiet (ran : outcomeUnknownCredit credit = .ok changed) :
    Quiet credit changed := by
  rw [outcomeUnknownCredit] at ran
  split at ran
  · cases ran
  simp only [ite_error_eq_ok, Except.ok.injEq] at ran
  rw [← ran.2.2]
  apply quiet_of_status
  all_goals split_ifs <;> simp

theorem finalizePayoutCredit_quiet {factor : Int} {result : PayoutResult}
    (committed : finalizePayoutCredit factor result credit = .ok changed) :
    Quiet credit changed := by
  rw [finalizePayoutCredit] at committed
  split at committed
  · simp only [ite_error_eq_ok] at committed
    replace committed := committed.2
    split_ifs at committed <;> cases committed
    all_goals apply quiet_of_status <;> rintro ⟨⟩
  · cases committed

theorem releasePayoutCredit_quiet (ran : releasePayoutCredit credit = .ok changed) :
    Quiet credit changed := by
  simp only [releasePayoutCredit] at ran
  split_ifs at ran
  cases ran
  apply quiet_of_status <;> rintro ⟨⟩

theorem authorizePayoutSubsidyCredit_quiet
    (ran : authorizePayoutSubsidyCredit credit = .ok changed) : Quiet credit changed := by
  simp only [authorizePayoutSubsidyCredit] at ran
  split_ifs at ran <;> cases ran
  · apply quiet_of_status <;> rintro ⟨⟩
  · exact quiet_of_status id id

theorem claimReversalCredit_quiet {leaseExpired : Bool}
    (ran : claimReversalCredit activeDispute leaseExpired credit = .ok changed) :
    Quiet credit changed := by
  rw [claimReversalCredit] at ran
  split at ran
  · cases ran
  · split_ifs at ran <;> cases ran
    · apply quiet_of_status <;> rintro ⟨⟩
    · exact Quiet.refl credit

theorem finalizeReversalCredit_quiet {recoveredCents : Int}
    (ran : finalizeReversalCredit recoveredCents credit = .ok changed) : Quiet credit changed := by
  rw [finalizeReversalCredit] at ran
  split at ran
  · cases ran
  · split_ifs at ran <;> cases ran
    · exact Quiet.refl credit
    · apply quiet_of_status <;> rintro ⟨⟩

theorem reversalFailedCredit_quiet (ran : reversalFailedCredit credit = .ok changed) :
    Quiet credit changed := by
  rw [reversalFailedCredit] at ran
  split at ran
  · cases ran
  split_ifs at ran <;> cases ran
  · exact Quiet.refl credit
  · apply quiet_of_status <;> rintro ⟨⟩
  · apply quiet_of_status <;> rintro ⟨⟩

theorem reconcileHold_quiet (resolution : Resolution) (compromised : Bool) (credit : Credit) :
    Quiet credit (reconcileHold resolution compromised credit) := by
  cases found : credit.operation with
  | none =>
    simp only [reconcileHold, found]
    exact Quiet.refl credit
  | some =>
    cases resolution with
    | upheld =>
      simp only [reconcileHold, found]
      split_ifs
      · exact quiet_of_status id id
      · exact Quiet.refl credit
    | rejected =>
      simp only [reconcileHold, found]
      split_ifs
      all_goals first
        | exact Quiet.refl credit
        | exact quiet_of_status id id
        | (apply quiet_of_status <;> rintro ⟨⟩)

/-! ## Claims -/

structure Settles (settlement : Settlement) (credit claimed : Credit) : Prop where
  entry : claimed.entry = credit.entry
  supplier : claimed.supplier = credit.supplier
  liability : claimed.liabilityMicros = credit.liabilityMicros
  settled : claimed.settlement = some settlement
  notClawed : claimed.status ≠ .clawedBack

theorem Settles.entries {claimed : Credit} {credits : List Credit}
    (settles : Settles settlement credit claimed) :
    (updateWhere (·.entry == credit.entry) (fun _ => claimed) credits).map (·.entry) =
      credits.map (·.entry) := by
  apply map_updateWhere
  intro other _ chosen
  exact settles.entry.trans (beq_iff_eq.mp chosen).symm

theorem claimedCredit_settles {claimed : Credit} {funded : Bool}
    (written : claimedCredit credit settlement funded = .ok (some claimed)) :
    Settles settlement credit claimed := by
  simp only [claimedCredit] at written
  repeat' split at written
  all_goals cases written
  all_goals exact ⟨rfl, rfl, rfl, rfl, by rintro ⟨⟩⟩

/-- What a claim can do: nothing; write a settled credit again; or absorb a
credit that was outside the accrual. -/
theorem claimPayout_cases (ran : claimPayout factor s entry context = .ok next) : next = s ∨
      ∃ credit claimed settlement accrual, credit ∈ s.credits ∧
        accrueSupplierLiability factor (s.accruals credit.supplier)
            credit.settlement credit.liabilityMicros =
          .ok (settlement, accrual) ∧
        claimedCredit credit settlement context.funded = .ok (some claimed) ∧
        changeCredits { s with accruals := Function.update s.accruals credit.supplier accrual }
            (·.entry == credit.entry) (fun _ => claimed) =
          .ok next := by
  rw [claimPayout] at ran
  rcases found : s.credit entry with _ | credit
  · simp [found] at ran
  obtain ⟨mem, entryEq⟩ := State.credit_some found
  simp only [found] at ran
  split_ifs at ran
  · exact .inl (Except.ok.inj ran).symm
  cases accrued : accrueSupplierLiability factor (s.accruals credit.supplier)
        credit.settlement credit.liabilityMicros with
  | error => simp [accrued] at ran
  | ok pair =>
    obtain ⟨settlement, accrual⟩ := pair
    simp only [accrued] at ran
    rcases written : claimedCredit credit settlement context.funded with _ | result
    · simp [written] at ran
    cases result with
    | none =>
      simp only [written] at ran
      exact .inl (Except.ok.inj ran).symm
    | some claimed =>
      simp only [written, ← entryEq] at ran
      exact .inr ⟨credit, claimed, settlement, accrual, mem, accrued, written, ran⟩

theorem accrueSupplierLiability_fresh {accrual after : Accrual} (accrued :
      accrueSupplierLiability factor accrual none liability = .ok (settlement, after)) :
    0 ≤ liability ∧
      settlement.cashCents * factor + after.accruedMicros = accrual.accruedMicros + liability ∧
      after.lifetimePaidCents = accrual.lifetimePaidCents + settlement.cashCents ∧
      after.lifetimeAbsorbed = accrual.lifetimeAbsorbed + liability := by
  simp only [accrueSupplierLiability, ite_error_eq_ok, Except.ok.injEq, Prod.mk.injEq] at accrued
  obtain ⟨_, rfl, rfl⟩ := accrued
  refine ⟨by omega, ?_, rfl, rfl⟩
  have division := Int.mul_tdiv_add_tmod (accrual.accruedMicros + liability) factor
  rw [Int.mul_comm factor] at division
  exact division

theorem accrueSupplierLiability_replay {accrual after : Accrual} {recorded : Settlement} (accrued :
      accrueSupplierLiability factor accrual (some recorded) liability = .ok (settlement, after)) :
    settlement = recorded ∧ after = accrual := by
  simp only [accrueSupplierLiability, ite_error_eq_ok, Except.ok.injEq, Prod.mk.injEq] at accrued
  exact ⟨accrued.2.2.1.symm, accrued.2.2.2.symm⟩

section

variable {claimed : Credit}
variable {accrual : Accrual}

private def absorb (s : State) (credit claimed : Credit) (accrual : Accrual) : State :=
  { s with
    accruals := Function.update s.accruals credit.supplier accrual
    credits := updateWhere (·.entry == credit.entry) (fun _ => claimed) s.credits }

private theorem accruals_absorb (supplier : SupplierId) :
    (absorb s credit claimed accrual).accruals supplier =
      if credit.supplier = supplier then accrual else s.accruals supplier := by
  simp [absorb, Function.update_apply, eq_comm]

section

variable (books : Books factor s) (mem : credit ∈ s.credits) (fresh : credit.settlement = none)
  (settles : Settles settlement credit claimed)

include books mem fresh settles

private theorem cashRequestedCents_absorb (accrual : Accrual) (supplier : SupplierId) :
    cashRequestedCents (absorb s credit claimed accrual) supplier = cashRequestedCents s supplier +
        if credit.supplier = supplier then settlement.cashCents else 0 := by
  have moved := sumWhere_updateWhere_key (·.supplier == supplier)
      Credit.requestedCents (fun _ => claimed) books.distinct mem
  have before : credit.requestedCents = 0 := by simp [Credit.requestedCents, fresh]
  have after : claimed.requestedCents = settlement.cashCents := by
    simp [Credit.requestedCents, settles.settled]
  simp only [beq_iff_eq, settles.supplier, before, after, ite_self, Int.sub_zero] at moved
  exact moved

private theorem absorbedMicros_absorb (accrual : Accrual) (supplier : SupplierId) :
    absorbedMicros (absorb s credit claimed accrual) supplier = absorbedMicros s supplier +
        if credit.supplier = supplier then credit.liabilityMicros else 0 := by
  have moved := sumWhere_updateWhere_key (fun row => row.supplier == supplier && row.absorbed)
      Credit.liabilityMicros (fun _ => claimed) books.distinct mem
  have before : credit.absorbed = false := by simp [Credit.absorbed, fresh]
  have after : claimed.absorbed = true := by simp [Credit.absorbed, settles.settled]
  simp only [before, after, Bool.and_false, Bool.false_eq_true, if_false, Int.sub_zero,
    Bool.and_true, beq_iff_eq, settles.supplier, settles.liability] at moved
  exact moved

end

private theorem Sound.absorb (sound : Sound factor s) (mem : credit ∈ s.credits)
    (fresh : credit.settlement = none) (settles : Settles settlement credit claimed)
    (accrued :
      accrueSupplierLiability factor (s.accruals credit.supplier) none credit.liabilityMicros =
        .ok (settlement, accrual)) : Sound factor (absorb s credit claimed accrual) := by
  obtain ⟨nonneg, equation, paid, absorbed⟩ := accrueSupplierLiability_fresh accrued
  have books := sound.books
  have cash := cashRequestedCents_absorb books mem fresh settles accrual
  have liability := absorbedMicros_absorb books mem fresh settles accrual
  -- the supplier's own row moves by the accrual equation, the others stay
  refine ⟨⟨?_, ?_, ?_, ?_, ?_⟩, ?_⟩
  · rw [Payout.absorb, settles.entries]
    exact books.distinct
  · refine forall_updateWhere books.nonneg ?_
    intro _ _ _ _
    rw [settles.liability]
    exact nonneg
  · intro supplier
    rw [cash, liability, accruals_absorb, ← books.balanced supplier]
    split_ifs with own
    · rw [← own, Int.add_mul]
      omega
    · rw [Int.add_zero, Int.add_zero]
  · intro supplier
    rw [cash, accruals_absorb, ← books.lifetimePaid supplier]
    split_ifs with own
    · rw [← own, paid]
    · rw [Int.add_zero]
  · intro supplier
    rw [liability, accruals_absorb, ← books.lifetimeAbsorbed supplier]
    split_ifs with own
    · rw [← own, absorbed]
    · rw [Int.add_zero]
  · refine forall_updateWhere sound.noneLeftBehind ?_
    intro _ _ _ clawed
    exact absurd clawed settles.notClawed

end

theorem claimPayout_sound (sound : Sound factor s)
    (ran : claimPayout factor s entry context = .ok next) : Sound factor next := by
  rcases claimPayout_cases ran with
    rfl | ⟨credit, claimed, settlement, accrual, mem, accrued, written, changed⟩
  · exact sound
  have settles := claimedCredit_settles written
  cases fresh : credit.settlement with
  | none =>
    rw [fresh] at accrued
    rw [changeCredits_ok changed]
    exact sound.absorb mem fresh settles accrued
  | some =>
    rw [fresh] at accrued
    obtain ⟨rfl, rfl⟩ := accrueSupplierLiability_replay accrued
    rw [Function.update_eq_self] at changed
    have quiet : SettlementsKept s next ∧ (NoneLeftBehind s → NoneLeftBehind next) := by
      refine changeCredits_quiet changed rfl rfl ?_
      intro other otherMem chosen
      rw [sound.books.eq_of_entry mem otherMem chosen]
      exact ⟨⟨settles.entry, settles.supplier, settles.liability, settles.settled.trans fresh.symm,
        fun _ => .inr (by rw [fresh]; rfl)⟩, fun clawed => absurd clawed settles.notClawed⟩
    exact ⟨sound.books.kept quiet.1, quiet.2 sound.noneLeftBehind⟩

theorem Sound.inserted (sound : Sound factor s)
    (fresh : ∀ other ∈ s.credits, other.entry ≠ credit.entry) (held : credit.status = .held)
    (unsettled : credit.settlement = none) (credits : next.credits = s.credits ++ [credit])
    (accruals : next.accruals = s.accruals) : Sound factor next := by
  have outside : credit.absorbed = false := by simp [Credit.absorbed, unsettled]
  refine ⟨sound.books.of_sums ?_ ?_ ?_ ?_ accruals, ?_⟩
  · rw [credits]
    exact nodup_concat sound.books.distinct fresh
  · rw [credits]
    exact forall_concat sound.books.nonneg (by simp [outside])
  · intro supplier
    simp [cashRequestedCents, credits, Credit.requestedCents, unsettled]
  · intro supplier
    simp [absorbedMicros, credits, outside]
  · rw [NoneLeftBehind, credits]
    exact forall_concat sound.noneLeftBehind (by simp [held])

/-! ## Clawbacks -/

theorem Sound.spared (sound : Sound factor s) (mem : credit ∈ s.credits)
    (notPooled : ¬ credit.Pooled) (clawed : credit.clawbackStatus = .clawedBack)
    (absorbed : credit.absorbed = true) : credit.liabilityMicros = 0 := by
  have kept : credit.cashLeft = false := by
    by_contra left
    simp [Credit.clawbackStatus, left] at clawed
  have nonneg := sound.books.nonneg credit mem absorbed
  by_cases already : credit.status = .clawedBack
  · exact sound.noneLeftBehind credit mem already absorbed
  · by_contra nonzero
    exact notPooled ⟨absorbed, by omega, kept, already⟩

theorem Credit.clawbackStatus_ne (credit : Credit) : credit.clawbackStatus ≠ .awaitingFunding := by
  rw [Credit.clawbackStatus]
  split_ifs <;> simp

theorem upheldCredit_same (credit : Credit) : SameLiability credit (upheldCredit credit) := by
  refine ⟨rfl, rfl, rfl, rfl, fun awaiting => ?_⟩
  simp only [upheldCredit] at awaiting
  split_ifs at awaiting
  · exact .inl awaiting
  · exact (credit.clawbackStatus_ne awaiting).elim

/-- A resolution that commits: a repeated one, or the clawbacks of an upheld
dispute followed by the reconciliation of its holds. -/
theorem resolveDispute_cases (ran : resolveDispute s dispute resolution compromised = .ok next) :
    (next = s ∧
        ∃ filed ∈ s.disputes.find? (·.dispute == dispute), filed.resolution = some resolution) ∨
      ∃ filed ∈ s.disputes.find? (·.dispute == dispute),
        ∃ resolved clawed : State, filed.resolution = none ∧
          resolved.credits = s.credits ∧ resolved.accruals = s.accruals ∧
          disputeClawbacks resolved filed.job resolution = .ok clawed ∧
          changeCredits clawed (fun credit => filed.holds.contains credit.entry)
              (fun credit => reconcileHold resolution (compromised credit.entry) credit) =
            .ok next := by
  rw [resolveDispute] at ran
  rcases found : s.disputes.find? (·.dispute == dispute) with _ | filed
  · simp [found] at ran
  simp only [found] at ran
  split_ifs at ran with repeated settled
  · exact .inl ⟨(Except.ok.inj ran).symm, filed, found, repeated⟩
  split at ran
  · cases ran
  rename_i clawed uphold
  simp only [ite_error_eq_ok] at ran
  refine .inr ⟨filed, found, _, clawed, by simpa using settled, ?_, ?_, uphold, ran.2⟩
  · rfl
  · rfl

/-! ## Runs -/

/-- A transaction inserts a credit, claims one, or leaves the settlements and
the accruals alone; then it leaves nothing behind in an accrual it spares. -/
theorem step_settlements (distinct : (s.credits.map (·.entry)).Nodup)
    (ran : step factor s event = .ok next) :
    (SettlementsKept s next ∧ (Sound factor s → SparesAccrual s event → NoneLeftBehind next)) ∨
      (∃ entry context, claimPayout factor s entry context = .ok next) ∨
      ∃ credit, (∀ other ∈ s.credits, other.entry ≠ credit.entry) ∧ credit.status = .held ∧
        credit.settlement = none ∧ next.credits = s.credits ++ [credit] ∧
        next.accruals = s.accruals := by
  have quietly (quiet : SettlementsKept s next ∧ (NoneLeftBehind s → NoneLeftBehind next)) :
      SettlementsKept s next ∧ (Sound factor s → SparesAccrual s event → NoneLeftBehind next) :=
    ⟨quiet.1, fun sound _ => quiet.2 sound.noneLeftBehind⟩
  have single {entry : EntryId} {body : Credit → Except Failure Credit}
      (quiet : ∀ credit changed, body credit = .ok changed → Quiet credit changed)
      (written : changeCredit s entry body = .ok next) :=
    quietly (changeCredit_quiet distinct quiet written)
  have only {credit other : Credit} (mem : credit ∈ s.credits) (otherMem : other ∈ s.credits)
      (chosen : (other.entry == credit.entry) = true) : other = credit :=
    List.inj_on_of_nodup_map distinct otherMem mem (beq_iff_eq.mp chosen)
  cases event with
  | insertCredit =>
    right
    right
    simp only [step, insertCredit, ite_error_eq_ok, Except.ok.injEq] at ran
    obtain ⟨unused, rfl⟩ := ran
    refine ⟨_, ?_, rfl, rfl, rfl, rfl⟩
    intro other mem same
    exact unused (List.any_eq_true.mpr ⟨other, mem, by simp [same]⟩)
  | claimPayout => exact .inr (.inl ⟨_, _, ran⟩)
  | deferPayout => exact .inl (single (fun _ _ => deferPayoutCredit_quiet) ran)
  | outcomeUnknown => exact .inl (single (fun _ _ => outcomeUnknownCredit_quiet) ran)
  | finalizePayout => exact .inl (single (fun _ _ => finalizePayoutCredit_quiet) ran)
  | releasePayout => exact .inl (single (fun _ _ => releasePayoutCredit_quiet) ran)
  | authorizeSubsidy => exact .inl (single (fun _ _ => authorizePayoutSubsidyCredit_quiet) ran)
  | claimReversal => exact .inl (single (fun _ _ => claimReversalCredit_quiet) ran)
  | finalizeReversal => exact .inl (single (fun _ _ => finalizeReversalCredit_quiet) ran)
  | reversalFailed => exact .inl (single (fun _ _ => reversalFailedCredit_quiet) ran)
  | recoverStale | confirmCollection | impairFunding =>
    refine .inl (quietly (changeCredits_quiet ran rfl rfl ?_))
    intro credit _ _
    apply quiet_of_status <;> rintro ⟨⟩
  | clawbackTaskCredit supplier task =>
    left
    rw [step, clawbackTaskCredit] at ran
    cases found : s.taskCredit supplier task with
    | none =>
      simp only [found, Except.ok.injEq] at ran
      rw [← ran]
      exact ⟨.of_eq rfl rfl, fun sound _ => sound.noneLeftBehind⟩
    | some credit =>
      simp only [found] at ran
      have mem : credit ∈ s.credits := List.mem_of_find?_eq_some found
      refine changeCredits_spared ran rfl rfl ?_ ?_
      · intro other otherMem chosen
        rw [only mem otherMem chosen]
        exact ⟨rfl, rfl, rfl, rfl, fun awaiting => (credit.clawbackStatus_ne awaiting).elim⟩
      · intro sound spares other otherMem chosen clawed absorbed
        rw [only mem otherMem chosen] at absorbed ⊢
        exact sound.spared mem (spares credit found) clawed absorbed
  | fileDispute =>
    simp only [step, fileDispute, ite_error_eq_ok] at ran
    refine .inl (quietly (changeCredits_quiet ran.2.2 rfl rfl ?_))
    intro credit _ _
    apply quiet_of_status <;> rintro ⟨⟩
  | resolveDispute dispute resolution compromised =>
    left
    rcases resolveDispute_cases ran with
      ⟨rfl, _⟩ | ⟨filed, found, resolved, clawed, unresolved, credits, accruals, uphold, reconciled⟩
    · exact ⟨.of_eq rfl rfl, fun sound _ => sound.noneLeftBehind⟩
    have first : SettlementsKept s clawed ∧ (Sound factor s →
        SparesAccrual s (.resolveDispute dispute resolution compromised) →
          NoneLeftBehind clawed) := by
      cases resolution with
      | rejected =>
        cases uphold
        refine ⟨.of_eq credits accruals, fun sound _ => ?_⟩
        rw [NoneLeftBehind, credits]
        exact sound.noneLeftBehind
      | upheld =>
        refine changeCredits_spared uphold credits accruals
          (fun credit _ _ => upheldCredit_same credit) ?_
        intro sound spares credit mem chosen clawed absorbed
        simp only [upheldCredit] at clawed
        split_ifs at clawed
        · exact sound.noneLeftBehind credit mem clawed absorbed
        · have notPooled := spares filed found unresolved credit mem (beq_iff_eq.mp chosen)
          exact sound.spared mem notPooled clawed absorbed
    have second := changeCredits_quiet reconciled rfl rfl fun credit _ _ =>
      reconcileHold_quiet resolution _ credit
    refine ⟨⟨forall₂_comp ?_ first.1.1 second.1.1, second.1.2.trans first.1.2⟩, ?_⟩
    · exact fun _ _ _ one two => one.trans two
    · exact fun sound spares => second.2 (first.2 sound spares)
  | refundRealtimeContract contract =>
    left
    rw [step, refundRealtimeContract] at ran
    rcases found : s.credits.find? (·.source == .contract contract) with _ | credit
    · simp [found] at ran
    simp only [found, ite_error_eq_ok] at ran
    obtain ⟨_, refundable, changed⟩ := ran
    have mem : credit ∈ s.credits := List.mem_of_find?_eq_some found
    refine changeCredits_spared (s := s) changed rfl rfl ?_ ?_
    · intro other otherMem chosen
      rw [only mem otherMem chosen]
      exact ⟨rfl, rfl, rfl, rfl, by rintro ⟨⟩⟩
    · intro sound spares other otherMem chosen _ absorbed
      rw [only mem otherMem chosen] at absorbed ⊢
      have nonneg := sound.books.nonneg credit mem absorbed
      by_contra nonzero
      refine spares credit found ⟨absorbed, by omega, ?_, ?_⟩
      · by_contra bound
        exact refundable (.inl (by simpa using bound))
      · by_contra others
        refine refundable (.inr ?_)
        simpa only [not_or] using others

theorem step_sound (sound : Sound factor s) (spares : SparesAccrual s event)
    (ran : step factor s event = .ok next) : Sound factor next := by
  rcases step_settlements sound.books.distinct ran with
    ⟨kept, behind⟩ | ⟨entry, context, claim⟩ | ⟨credit, fresh, held, unsettled, credits, accruals⟩
  · exact ⟨sound.books.kept kept, behind sound spares⟩
  · exact claimPayout_sound sound claim
  · exact sound.inserted fresh held unsettled credits accruals

theorem Sound.empty (factor : Int) : Sound factor State.empty :=
  ⟨Books.empty factor, List.forall_mem_nil _⟩

/-- In every run whose clawbacks find their credits outside the accrual, the
cash requested for each supplier and its carry are the absorbed credits that
were not clawed back before their cash left. -/
theorem accrual_conserved (factor : Int) (events : List Event)
    (guarded :
      Meets (step factor) SparesAccrual State.empty events) :
    Conserved factor (run (step factor) State.empty events) := by
  have sound : Sound factor (run (step factor) State.empty events) :=
    invariant_run (fun _ _ _ holds spares committed => step_sound holds spares committed)
      (Sound.empty factor) guarded
  exact sound.books.conserved_iff.mpr sound.noneLeftBehind

/-! ## The condition is needed -/

theorem not_conserved_of_changes {selected : Credit → Bool} {change : Credit → Credit}
    (books : Books factor s)
    (same : ∀ credit ∈ s.credits, selected credit = true → SameLiability credit (change credit))
    (mem : credit ∈ s.credits) (chosen : selected credit = true)
    (clawed : (change credit).status = .clawedBack) (absorbed : credit.absorbed = true)
    (pos : 0 < credit.liabilityMicros) (ran : changeCredits s selected change = .ok next) :
    ¬ Conserved factor next := by
  rw [(books.kept (changeCredits_same ran rfl rfl same)).conserved_iff, changeCredits_ok ran]
  intro rowwise
  have kept := same credit mem chosen
  have zero := rowwise (change credit) (mem_updateWhere.mpr ⟨credit, mem, by simp [chosen]⟩) clawed
    (kept.absorbed.trans absorbed)
  rw [kept.liability] at zero
  omega

theorem Credit.Pooled.clawbackStatus (pooled : credit.Pooled) :
    credit.clawbackStatus = .clawedBack := by
  simp [Credit.clawbackStatus, pooled.2.2.1]

theorem reconcileHold_upheld_status (compromised : Bool) (credit : Credit) :
    (reconcileHold .upheld compromised credit).status = credit.status := by
  cases found : credit.operation with
  | none => simp [reconcileHold, found]
  | some =>
    simp only [reconcileHold, found]
    split_ifs <;> rfl

/-- Upholding a dispute over a pooled credit leaves it behind, and the
reconciliation of the holds does not repair that. -/
theorem upheld_not_conserved {filed : Dispute} {clawed : State} (books : Books factor s)
    (mem : credit ∈ s.credits) (ofJob : credit.job = some filed.job) (pooled : credit.Pooled)
    (uphold : changeCredits s (·.job == some filed.job) upheldCredit = .ok clawed)
    (reconciled : changeCredits clawed (fun credit => filed.holds.contains credit.entry)
          (fun credit => reconcileHold .upheld (compromised credit.entry) credit) =
        .ok next) :
    ¬ Conserved factor next := by
  have clawedBooks : Books factor clawed :=
    books.kept (changeCredits_same uphold rfl rfl fun row _ _ => upheldCredit_same row)
  have inClawed : upheldCredit credit ∈ clawed.credits := by
    rw [changeCredits_ok uphold]
    exact mem_updateWhere.mpr ⟨credit, mem, by simp [ofJob]⟩
  have taken : (upheldCredit credit).status = .clawedBack := by
    have notRecovering : credit.status ≠ .reversalRequired := by
      intro recovering
      have kept := pooled.2.2.1
      simp [Credit.cashLeft, recovering] at kept
    simp [upheldCredit, pooled.2.2.2, notRecovering, pooled.clawbackStatus]
  by_cases heldBack : filed.holds.contains credit.entry = true
  · apply not_conserved_of_changes clawedBooks _ inClawed heldBack _ _ _ reconciled
    · intro row _ _
      exact (reconcileHold_quiet .upheld _ row).toSameLiability
    · rw [reconcileHold_upheld_status]
      exact taken
    · exact pooled.1
    · exact pooled.2.1
  · have quiet := changeCredits_quiet reconciled rfl rfl fun row _ _ =>
      reconcileHold_quiet .upheld _ row
    rw [(clawedBooks.kept quiet.1).conserved_iff, changeCredits_ok reconciled]
    intro rowwise
    have zero := rowwise (upheldCredit credit) (mem_updateWhere.mpr
          ⟨upheldCredit credit, inClawed, by
            have unheld : filed.holds.contains (upheldCredit credit).entry = false := by
              exact Bool.eq_false_iff.mpr heldBack
            simp only [unheld, Bool.false_eq_true, if_false]⟩)
        taken pooled.1
    have pos : 0 < (upheldCredit credit).liabilityMicros := pooled.2.1
    omega

/-- A committed step that does not meet the condition breaks the equation, so
no weaker condition on the steps is enough. -/
theorem step_not_conserved (sound : Sound factor s) (notSpared : ¬ SparesAccrual s event)
    (ran : step factor s event = .ok next) : ¬ Conserved factor next := by
  have books := sound.books
  cases event with
  | clawbackTaskCredit =>
    simp only [SparesAccrual, not_forall, not_not] at notSpared
    obtain ⟨credit, found, pooled⟩ := notSpared
    have mem : credit ∈ s.credits := List.mem_of_find?_eq_some found
    simp only [step, clawbackTaskCredit, Option.mem_def.mp found] at ran
    refine not_conserved_of_changes books ?_ mem ?_ ?_ pooled.1 pooled.2.1 ran
    · intro other otherMem chosen
      rw [books.eq_of_entry mem otherMem chosen]
      exact ⟨rfl, rfl, rfl, rfl, fun awaiting => (credit.clawbackStatus_ne awaiting).elim⟩
    · simp
    · exact pooled.clawbackStatus
  | refundRealtimeContract contract =>
    simp only [SparesAccrual, not_forall, not_not] at notSpared
    obtain ⟨credit, found, pooled⟩ := notSpared
    have mem : credit ∈ s.credits := List.mem_of_find?_eq_some found
    simp only [step, refundRealtimeContract, Option.mem_def.mp found, ite_error_eq_ok] at ran
    have refunded : Books factor { s with refunded := s.refunded ++ [contract] } :=
      books.kept (.of_eq rfl rfl)
    refine not_conserved_of_changes refunded ?_ mem ?_ ?_ pooled.1 pooled.2.1 ran.2.2
    · intro other otherMem chosen
      rw [books.eq_of_entry mem otherMem chosen]
      exact ⟨rfl, rfl, rfl, rfl, by rintro ⟨⟩⟩
    · simp
    · rfl
  | resolveDispute dispute resolution =>
    cases resolution with
    | rejected => exact absurd trivial notSpared
    | upheld =>
      simp only [SparesAccrual, SparesJob, not_forall, not_not] at notSpared
      obtain ⟨filed, found, unresolved, credit, mem, ofJob, pooled⟩ := notSpared
      rcases resolveDispute_cases ran with
        ⟨_, other, otherFound, repeated⟩ |
          ⟨other, otherFound, resolved, clawed, _, credits, accruals, uphold, reconciled⟩
      · rw [Option.mem_unique otherFound found, unresolved] at repeated
        cases repeated
      have same : other = filed := Option.mem_unique otherFound found
      subst same
      rw [← credits] at mem
      exact upheld_not_conserved (books.kept (.of_eq credits accruals)) mem ofJob pooled uphold
        reconciled
  | _ => exact absurd trivial notSpared

/-- Requested cash and carry agree with the credits in every state of a run
exactly when no committed step takes back a credit that is in the accrual. -/
theorem accrual_conserved_iff (factor : Int) (events : List Event) :
    Always (step factor) (Conserved factor) State.empty events ↔
      Meets (step factor)
        (fun s event => ∀ next, step factor s event = .ok next → SparesAccrual s event)
        State.empty events := by
  have sound := Sound.empty factor
  revert sound
  generalize State.empty = s
  intro sound
  induction events generalizing s with
  | nil => exact iff_of_true (sound.books.conserved_iff.mpr sound.noneLeftBehind) trivial
  | cons event rest ih =>
    have conserved := sound.books.conserved_iff.mpr sound.noneLeftBehind
    cases ran : step factor s event with
    | error =>
      have same : apply (step factor) s event = s := by rw [apply, ran]
      simp [Always, Meets, same, conserved, ran, ih s sound]
    | ok next =>
      have same : apply (step factor) s event = next := by rw [apply, ran]
      simp only [Always, Meets, same, ran, conserved, true_and, Except.ok.injEq, forall_eq']
      constructor
      · intro always
        have spares : SparesAccrual s event := by
          by_contra notSpared
          refine step_not_conserved sound notSpared ran ?_
          cases rest with
          | nil => exact always
          | cons => exact always.1
        exact ⟨spares, (ih next (step_sound sound spares ran)).mp always⟩
      · rintro ⟨spares, meets⟩
        exact (ih next (step_sound sound spares ran)).mpr meets

/-! ## Runs that keep and runs that break the equation -/

private def dueAndFunded : ClaimContext := ⟨true, true, true⟩

/-- A credit taken back before its claim, one sent and taken back after, one
carried and left alone, and a contract refunded before its claim. -/
def recoveredRun : List Event :=
  [.insertCredit 1 7 (.task 1 1) 6000 .pass, .clawbackTaskCredit 7 1 true,
   .claimPayout 1 dueAndFunded,
   .insertCredit 2 7 (.task 2 2) 12000 .pass,
   .claimPayout 2 dueAndFunded,
   .finalizePayout 2 ⟨true, 1, 40⟩,
   .fileDispute 1 2,
   .resolveDispute 1 .upheld (fun _ => false),
   .insertCredit 3 7 (.task 3 3) 5000 .pass,
   .claimPayout 3 dueAndFunded,
   .insertCredit 4 7 (.contract 4) 9000 .none,
   .refundRealtimeContract 4]

theorem recoveredRun_conserved :
    Meets (step 10000) SparesAccrual State.empty recoveredRun ∧
      Conserved 10000 (run (step 10000) State.empty recoveredRun) :=
  have guarded : Meets (step 10000) SparesAccrual State.empty recoveredRun := by decide
  ⟨guarded, accrual_conserved 10000 recoveredRun guarded⟩

/-- A credit of 6000 micros is carried, then clawed back; the next one of 5000
is paid one whole cent from the carry. -/
def carriedRun : List Event :=
  [.insertCredit 1 7 (.task 1 1) 6000 .pass, .claimPayout 1 dueAndFunded,
   .clawbackTaskCredit 7 1 true,
   .insertCredit 2 7 (.task 2 2) 5000 .pass,
   .claimPayout 2 dueAndFunded]

theorem carriedRun_pays_clawed_back_credit :
    ¬ Conserved 10000 (run (step 10000) State.empty carriedRun) := by
  intro conserved
  have supplier := conserved 7
  revert supplier
  decide

end MercControl.Payout
