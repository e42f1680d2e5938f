import MercControl.Money.LedgerInvariant

/-!
# What the ledger still writes to a job that ended

A job that is complete, failed or cancelled is charged and debited no more.
Only credits are added to it: the SLA refund, once, and the refunds of its
disputes.
-/

namespace MercControl.Money

open Library Table

section

variable {row : Job}

theorem JobSound.debitedMicros_nonneg (sound : JobSound row) : 0 ≤ row.debitedMicros := by
  have tasks : 0 ≤ row.tasks.total fun task => micros task.debit := by
    apply total_nonneg
    intro task mem
    have taskSound := sound.tasks task mem
    have pos := taskSound.charge_pos
    rw [taskSound.debit_eq]
    split_ifs
    · rw [micros_some]
      omega
    · exact Int.le_refl 0
  have premium : 0 ≤ micros row.premiumDebit := by
    rw [sound.premiumDebit_eq]
    split_ifs
    · exact sound.premiumCharge_nonneg
    · exact Int.le_refl 0
  rw [Job.debitedMicros]
  omega

theorem JobSound.slaRefund_nonneg (sound : JobSound row) : 0 ≤ micros row.slaRefund := by
  cases refunded : row.slaRefund with
  | none => exact Int.le_refl 0
  | some refund =>
    have pos := (sound.slaRefund_le refund refunded).1
    rw [micros_some]
    omega

theorem JobSound.disputeRefundMicros_nonneg (sound : JobSound row) :
    0 ≤ row.disputeRefundMicros := by
  have tasks : 0 ≤ row.taskRefundMicros := by
    apply total_nonneg
    intro task mem
    have taskSound := sound.tasks task mem
    have pos := taskSound.charge_pos
    cases refunded : task.refund with
    | none => exact Int.le_refl 0
    | some refund =>
      rw [micros_some, taskSound.refund_eq refund refunded]
      omega
  have premiums : 0 ≤ totalMicros row.premiumRefunds := by
    apply Rows.sumWhere_nonneg
    intro refund mem _
    have nonneg := sound.premiumCharge_nonneg
    rw [sound.premiumRefunds_eq refund mem, micros_some] at nonneg
    exact nonneg
  rw [Job.disputeRefundMicros]
  omega

end

structure StaysEnded (before after : Job) : Prop where
  ended : after.status.live = false
  firm : after.plan.firmMicros = before.plan.firmMicros
  charged : after.chargedMicros = before.chargedMicros
  debited : after.debitedMicros = before.debitedMicros
  refund_le : micros before.slaRefund ≤ micros after.slaRefund

section

variable {before row changed : Job}

theorem StaysEnded.refl (ended : row.status.live = false) : StaysEnded row row :=
  ⟨ended, rfl, rfl, rfl, le_rfl⟩

theorem StaysEnded.slaMissed {refund : Int} {returned : Option Int} (stays : StaysEnded before row)
    (sound : JobSound row) (undecided : row.slaMet = none) (pos : 0 < refund) :
    StaysEnded before
      { row with slaMet := some false, slaRefund := some refund, balanceReturn := returned } := by
  have unrefunded := sound.slaRefund_decided undecided
  have refundBefore := stays.refund_le
  rw [unrefunded, micros_none] at refundBefore
  refine { stays with refund_le := ?_ }
  rw [micros_some]
  omega

theorem StaysEnded.uphold {dispute : DisputeId}
    (stays : StaysEnded before row) (sound : JobSound row)
    (outcome : upholdJob row dispute = .ok changed) : StaysEnded before changed := by
  rw [(upholdJob_ok outcome).1]
  have sameCharges : ∀ task ∈ row.tasks.rows, task.refunded.restored.charge = task.charge := by
    intro task mem
    rw [(sound.tasks task mem).upheld]
  have sameDebits : ∀ task ∈ row.tasks.rows,
      micros task.refunded.restored.debit = micros task.debit := by
    intro task mem
    rw [(sound.tasks task mem).upheld]
  refine { stays with charged := ?_, debited := ?_ }
  · rw [← stays.charged]
    simp only [Job.chargedMicros, total_map]
    rw [total_congr sameCharges]
  · rw [← stays.debited]
    simp only [Job.debitedMicros, total_map]
    rw [total_congr sameDebits]

end

theorem finalizeJob_complete {s next : State} {job : JobId} (ran : finalizeJob s job = .ok next) :
    next.jobs.Holds job fun row => row.status = .complete := by
  rcases finalizeJob_ok ran with ⟨rfl, complete⟩ | ⟨row, debit, found, _, _, _, rfl⟩
  · exact complete
  · obtain rfl := key_of_find? found
    exact ⟨_, find?_set_self found, rfl⟩

theorem step_ended {s next : State} {event : Event} {job : JobId}
    {before : Job} (sound : LedgerSound s) (holds : s.jobs.Holds job (StaysEnded before))
    (ran : step s event = .ok next) : next.jobs.Holds job (StaysEnded before) := by
  rcases step_writes ran with
    same | ⟨_, _, _, _, fresh, same⟩ | ⟨row, changed, found, write, same⟩
  · rw [same]
    exact holds
  · rw [same]
    exact holds.insert fresh
  · rw [same]
    refine holds.set found fun _ stays => ?_
    cases write with
    | steps stepped =>
      cases stepped with
      | settleTask _ _ _ _ live | finalize _ live | move _ live =>
        rw [stays.ended] at live
        cases live
      | decide => exact { stays with }
    | slaMissed _ _ _ _ _ undecided pos =>
      exact stays.slaMissed (sound.job found) undecided pos
    | upheld _ _ _ _ _ outcome => exact stays.uphold (sound.job found) outcome

end MercControl.Money
