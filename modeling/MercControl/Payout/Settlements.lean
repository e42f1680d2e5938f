import MercControl.Payout.AccrualSafety

/-!
# The settlements of supplier credits

A transaction inserts a credit, claims one, or leaves the settlements and the
accruals alone.  The carry of a supplier stays below one minor unit, and a
credit waits for funding only once it is settled.
-/

namespace MercControl.Payout

open Library Machine Rows

variable {entry : EntryId} {event : Event}

section

variable {factor : Int} {s next : State}

/-- The settlement was made with a carry of less than a minor unit. -/
structure Settlement.Accounts (factor liability : Int) (settlement : Settlement) : Prop where
  recorded : settlement.liabilityMicros = liability
  nonneg : 0 ≤ liability
  carry : 0 ≤ settlement.carryInMicros
  belowUnit : settlement.carryInMicros < factor
  cash : settlement.cashCents = (settlement.carryInMicros + liability) / factor

structure Settled (factor : Int) (s : State) : Prop where
  distinct : (s.credits.map (·.entry)).Nodup
  recorded : ∀ credit ∈ s.credits, ∀ settlement,
    credit.settlement = some settlement → settlement.Accounts factor credit.liabilityMicros
  carry : ∀ supplier, 0 ≤ (s.accruals supplier).accruedMicros
  belowUnit : ∀ supplier, (s.accruals supplier).accruedMicros < factor
  awaiting : ∀ credit ∈ s.credits, credit.status = .awaitingFunding →
    credit.settlement.isSome = true

theorem Settled.credit_eq_some (settled : Settled factor s) {credit : Credit}
    (mem : credit ∈ s.credits) : s.credit credit.entry = some credit := by
  cases found : s.credit credit.entry with
  | none =>
    have unused := List.find?_eq_none.mp found credit mem
    simp at unused
  | some =>
    obtain ⟨otherMem, sameEntry⟩ := State.credit_some found
    rw [List.inj_on_of_nodup_map settled.distinct otherMem mem sameEntry]

theorem accrueSupplierLiability_accounts {accrual after : Accrual}
    {liability : Int} {settlement : Settlement} (pos : 0 < factor)
    (carry : 0 ≤ accrual.accruedMicros) (belowUnit : accrual.accruedMicros < factor)
    (accrued : accrueSupplierLiability factor accrual none liability = .ok (settlement, after)) :
    settlement.Accounts factor liability ∧ 0 ≤ after.accruedMicros ∧
      after.accruedMicros < factor := by
  simp only [accrueSupplierLiability, ite_error_eq_ok, Except.ok.injEq, Prod.mk.injEq] at accrued
  obtain ⟨_, rfl, rfl⟩ := accrued
  have nonneg : 0 ≤ liability := by omega
  have effective : 0 ≤ accrual.accruedMicros + liability := by omega
  refine ⟨⟨rfl, nonneg, carry, belowUnit, ?_⟩, ?_, ?_⟩
  · exact Int.tdiv_eq_ediv_of_nonneg effective
  · exact Int.tmod_nonneg factor effective
  · exact Int.tmod_lt_of_pos _ pos

variable (settled : Settled factor s)

include settled

theorem Settled.kept (kept : SettlementsKept s next) : Settled factor next where
  distinct := by
    rw [map_eq_of_forall₂ (fun _ _ same => same.entry) kept.1]
    exact settled.distinct
  recorded := by
    intro credit mem settlement isSettled
    obtain ⟨old, oldMem, same⟩ := exists_before kept.1 mem
    rw [same.settlement] at isSettled
    rw [same.liability]
    exact settled.recorded old oldMem settlement isSettled
  carry := by
    rw [kept.2]
    exact settled.carry
  belowUnit := by
    rw [kept.2]
    exact settled.belowUnit
  awaiting := by
    intro credit mem awaiting
    obtain ⟨old, oldMem, same⟩ := exists_before kept.1 mem
    rw [same.settlement]
    rcases same.awaiting awaiting with before | isSettled
    · exact settled.awaiting old oldMem before
    · exact isSettled

theorem Settled.claimed {context : ClaimContext} (pos : 0 < factor)
    (ran : claimPayout factor s entry context = .ok next) : Settled factor next := by
  rcases claimPayout_cases ran with
    rfl | ⟨credit, claimed, settlement, accrual, mem, accrued, written, changed⟩
  · exact settled
  · have settles := claimedCredit_settles written
    have accounts : settlement.Accounts factor credit.liabilityMicros ∧
        0 ≤ accrual.accruedMicros ∧ accrual.accruedMicros < factor := by
      cases fresh : credit.settlement with
      | none =>
        rw [fresh] at accrued
        exact accrueSupplierLiability_accounts pos (settled.carry credit.supplier)
            (settled.belowUnit credit.supplier) accrued
      | some =>
        rw [fresh] at accrued
        obtain ⟨rfl, rfl⟩ := accrueSupplierLiability_replay accrued
        exact ⟨settled.recorded credit mem settlement fresh, settled.carry credit.supplier,
            settled.belowUnit credit.supplier⟩
    rw [changeCredits_ok changed]
    constructor
    · rw [settles.entries]
      exact settled.distinct
    · refine forall_updateWhere settled.recorded ?_
      intro _ _ _ other isOther
      rw [settles.settled] at isOther
      cases isOther
      rw [settles.liability]
      exact accounts.1
    · intro supplier
      simp only [Function.update_apply]
      split_ifs
      · exact accounts.2.1
      · exact settled.carry supplier
    · intro supplier
      simp only [Function.update_apply]
      split_ifs
      · exact accounts.2.2
      · exact settled.belowUnit supplier
    · refine forall_updateWhere settled.awaiting ?_
      intro _ _ _ _
      rw [settles.settled]
      rfl

theorem Settled.step (pos : 0 < factor)
    (ran : Payout.step factor s event = .ok next) : Settled factor next := by
  rcases step_settlements settled.distinct ran with
    ⟨kept, _⟩ | ⟨entry, context, claim⟩ | ⟨credit, fresh, held, unsettled, credits, accruals⟩
  · exact settled.kept kept
  · exact settled.claimed pos claim
  · constructor
    · rw [credits]
      exact nodup_concat settled.distinct fresh
    · rw [credits]
      refine forall_concat settled.recorded ?_
      rw [unsettled]
      exact nofun
    · rw [accruals]
      exact settled.carry
    · rw [accruals]
      exact settled.belowUnit
    · rw [credits]
      refine forall_concat settled.awaiting ?_
      rw [held]
      exact nofun

end

end MercControl.Payout
