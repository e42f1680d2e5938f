import MercControl.Money.LedgerInvariant

/-!
# Prepaid debits against net spend

The realtime capacity adds the prepaid debits back to the net spend, so a
refund has to take back spend and debit together.  The refund of a debited SLA
premium takes back the spend only.
-/

namespace MercControl.Money

open Library Machine

/-- The debits net of restores are within the net spend, and the capacity is
within what the buyer was given. -/
def NoPhantomCapacity (s : State) : Prop :=
  s.prepaidDebitedMicros ≤ s.spentMicros ∧
    s.realtimeCapacityMicros ≤ s.freeMicros + s.balanceMicros - s.committedMicros
  deriving Decidable

def Job.premiumCovered (job : Job) : Prop :=
  micros job.premiumDebit + totalMicros job.premiumRefunds ≤ micros job.premiumCharge

/-- The job has no premium charge, or one that was neither debited from
prepaid nor refunded yet. -/
def Job.premiumUndebited (job : Job) : Prop :=
  job.premiumCharge = none ∨ (job.premiumDebit = none ∧ job.premiumRefunds = [])
  deriving Decidable

/-- Disputes are upheld only for jobs whose premium, if any, never touched the
prepaid balance. -/
abbrev RefundsUndebitedPremium : State → Event → Prop :=
  RefundsMeet (fun _ => True) Job.premiumUndebited

section

variable {row changed : Job}

section

variable (sound : JobSound row) (covered : row.premiumCovered)

include sound covered

theorem JobSound.netDebit_le : row.netDebit ≤ row.netSpend := by
  have tasks : row.tasks.total TaskLedger.netDebit ≤ row.tasks.total TaskLedger.netSpend := by
    apply Table.total_le_total
    intro task mem
    have taskSound := sound.tasks task mem
    have nonneg := taskSound.netSpend_nonneg
    rw [taskSound.netDebit_eq]
    split_ifs <;> omega
  rw [Job.premiumCovered] at covered
  rw [Job.netDebit, Job.netSpend]
  omega

theorem JobStep.premiumCovered (stepped : JobStep row changed) : changed.premiumCovered := by
  cases stepped with
  | settleTask | move | decide => exact covered
  | finalize debit live debitEq =>
    have unrefunded : row.premiumRefunds = [] :=
      sound.no_premiumRefunds (sound.uncharged_of_live live)
    have nonneg := row.plan.premiumCharge_nonneg
    have within : micros debit ≤ micros row.plan.premiumCharge := by
      rw [debitEq]
      split_ifs
      · exact le_rfl
      · exact nonneg
    show micros debit + totalMicros row.premiumRefunds ≤ _
    rw [unrefunded]
    simpa [totalMicros] using within

theorem Job.premiumCovered_of_upheld {dispute : DisputeId} (undebited : row.premiumUndebited)
    (outcome : upholdJob row dispute = .ok changed) : changed.premiumCovered := by
  rw [(upholdJob_ok outcome).1, Job.premiumCovered]
  show micros row.premiumDebit + totalMicros (row.premiumRefunds ++ row.premiumRefundFor dispute) ≤
    micros row.premiumCharge
  rcases undebited with uncharged | ⟨noDebit, noRefund⟩
  · rw [Job.premiumRefundFor_uncharged uncharged, List.append_nil]
    exact covered
  · -- the one refund is the whole charge
    rw [sound.premiumRefundFor_first noRefund, noDebit, noRefund]
    cases row.premiumCharge <;> simp [totalMicros]

end

end

structure Covered (s : State) : Prop where
  sound : LedgerSound s
  premiums : ∀ job ∈ s.jobs.rows, job.premiumCovered

theorem step_covered (s : State) (event : Event) (next : State) (covered : Covered s)
    (guarded : RefundsUndebitedPremium s event) (ran : step s event = .ok next) : Covered next where
  sound := step_ledgerSound covered.sound ran
  premiums := by
    refine step_jobs ?_ ?_ ?_ ?_ covered.sound covered.premiums guarded ran
    · intro job prepaid plan
      exact Int.le_refl 0
    · intro row changed sound premium stepped
      exact stepped.premiumCovered sound premium
    · intro row refund returned _ premium _ _ _ _
      exact premium
    · intro row dispute changed sound premium _ undebited outcome
      exact Job.premiumCovered_of_upheld sound premium undebited outcome

theorem Covered.noPhantomCapacity {s : State} (covered : Covered s) : NoPhantomCapacity s := by
  have jobs : s.jobs.total Job.netDebit ≤ s.jobs.total Job.netSpend :=
    Table.total_le_total fun job mem =>
      (covered.sound.jobs job mem).netDebit_le (covered.premiums job mem)
  have contracts : s.contracts.total Contract.netDebit ≤ s.contracts.total Contract.netSpend :=
    Table.total_le_total fun contract mem =>
      (covered.sound.contracts contract mem).netDebit_le
  have debited : s.prepaidDebitedMicros ≤ s.spentMicros := by
    rw [State.prepaidDebitedMicros, State.spentMicros]
    omega
  refine ⟨debited, ?_⟩
  rw [State.realtimeCapacityMicros]
  omega

/-- In every run that upholds no dispute over a prepaid premium, no state has
phantom capacity. -/
theorem no_phantom_capacity (free : Int) (events : List Event)
    (guarded : Meets step RefundsUndebitedPremium (State.opened free) events) :
    NoPhantomCapacity (run step (State.opened free) events) := by
  have opened : Covered (State.opened free) :=
    { sound := LedgerSound.opened free
      premiums := by
        intro job member
        cases member }
  exact (invariant_run step_covered opened guarded).noPhantomCapacity

private def guaranteedPlan : Plan where
  perTaskMicros := 10
  taskLimit := 1
  premiumMicros := 5
  slaGuaranteeSecs := 60
  firmMicros := none
  perTask_pos := by decide
  premium_nonneg := by decide

private def plainPlan : Plan :=
  { guaranteedPlan with premiumMicros := 0, slaGuaranteeSecs := 0, premium_nonneg := le_rfl }

/-- A prepaid job without a premium and a card job with one are disputed, a
prepaid premium is returned by its SLA, a contract is refunded. -/
def coveredRun : List Event :=
  [.topup 100] ++ completedJob 1 true plainPlan 10 ++
    [.fileDispute 1 1, .resolveDispute 1 .upheld] ++
    completedJob 2 false guaranteedPlan 10 ++
    [.fileDispute 2 2, .resolveDispute 2 .upheld] ++
    completedJob 3 true guaranteedPlan 10 ++ [.settleJobSLA 3 (some 61)] ++
    [.authorizeRealtime 1 30500, .settleRealtime 1 28, .refundRealtime 1 true]

theorem coveredRun_no_phantom_capacity :
    Meets step RefundsUndebitedPremium (State.opened 20) coveredRun ∧
      NoPhantomCapacity (run step (State.opened 20) coveredRun) :=
  have guarded : Meets step RefundsUndebitedPremium (State.opened 20) coveredRun := by
    decide
  ⟨guarded, no_phantom_capacity 20 coveredRun guarded⟩

/-- A prepaid job with a premium is disputed: the refund takes back 15 micros
of spend, the restore only 10 of the 15 debited. -/
def disputedPremiumRun : List Event :=
  [.topup 100] ++ completedJob 1 true guaranteedPlan 10 ++
    [.fileDispute 1 1, .resolveDispute 1 .upheld]

theorem disputedPremiumRun_has_phantom_capacity :
    ¬ NoPhantomCapacity (run step (State.opened 20) disputedPremiumRun) := by
  decide

end MercControl.Money
