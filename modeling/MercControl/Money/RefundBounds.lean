import MercControl.Money.LedgerInvariant

/-!
# Refunds against charges of one job

Upheld disputes refund the task charges once, guarded by the task, but return
the SLA premium under the dispute's own reference; the SLA settlement returns
it under the job's.  Neither looks at the rows of the other.
-/

namespace MercControl.Money

open Library Machine Table

def Job.premiumReturns (job : Job) : Nat := job.premiumRefunds.length + job.slaRefund.toList.length

/-- The credits stay within the charges, the premium is returned at most once
and the receipts sum to what disputes credited. -/
def Job.refundsBounded (job : Job) : Prop :=
  job.creditedMicros ≤ job.chargedMicros ∧ job.premiumReturns ≤ 1 ∧
    totalMicros job.receipts = job.disputeRefundMicros
  deriving Decidable

def RefundsBounded (s : State) : Prop := ∀ job ∈ s.jobs.rows, job.refundsBounded

instance (s : State) : Decidable (RefundsBounded s) :=
  inferInstanceAs (Decidable (∀ job ∈ s.jobs.rows, job.refundsBounded))

def Job.premiumNotDisputed (job : Job) : Prop := job.premiumRefunds = []
  deriving Decidable

/-- There is no premium to return, or it was not returned in either way. -/
def Job.premiumUnreturned (job : Job) : Prop :=
  job.premiumCharge = none ∨ (job.slaRefund = none ∧ job.premiumRefunds = [])
  deriving Decidable

/-- An SLA refund is made only for a premium no dispute has returned, and a
dispute is upheld only if the premium was not returned yet. -/
abbrev ReturnsPremiumOnce : State → Event → Prop :=
  RefundsMeet Job.premiumNotDisputed Job.premiumUnreturned

def Job.undisputed (job : Job) : Prop :=
  (∀ task ∈ job.tasks.rows, task.refund = none) ∧ job.premiumRefunds = []

/-- The job ended and everything a dispute refunds was refunded. -/
def Job.refundedWhole (job : Job) : Prop :=
  job.status.live = false ∧ (∀ task ∈ job.tasks.rows, task.refund = some task.charge) ∧
    (job.premiumCharge = none ∨ job.premiumRefunds ≠ [])

structure RefundSound (job : Job) : Prop where
  once : job.premiumReturns ≤ 1
  receipts_eq : totalMicros job.receipts = job.disputeRefundMicros
  phase : job.undisputed ∨ job.refundedWhole

variable {prepaid : Bool} {task : TaskLedger} {refund : Int} {returned : Option Int}

section

variable {row changed : Job} {dispute : DisputeId}

theorem TaskSound.refund_le
    (sound : TaskSound prepaid task) : micros task.refund ≤ task.charge := by
  have nonneg := sound.netSpend_nonneg
  rw [TaskLedger.netSpend] at nonneg
  omega

theorem JobSound.premium_returned_le (sound : JobSound row) (once : row.premiumReturns ≤ 1) :
    totalMicros row.premiumRefunds + micros row.slaRefund ≤ micros row.premiumCharge := by
  have nonneg := sound.premiumCharge_nonneg
  rw [Job.premiumReturns] at once
  cases refunds : row.premiumRefunds with
  | nil =>
    cases returned : row.slaRefund with
    | none => simpa [totalMicros] using nonneg
    | some refund =>
      have within := (sound.slaRefund_le refund returned).2
      simpa [totalMicros] using within
  | cons first rest =>
    rw [refunds, List.length_cons] at once
    have noMore : rest = [] := List.eq_nil_of_length_eq_zero (by omega)
    have noSla : row.slaRefund = none :=
      Option.toList_eq_nil_iff.mp (List.eq_nil_of_length_eq_zero (by omega))
    have charged := sound.premiumRefunds_eq first (by simp [refunds])
    simp [totalMicros, noMore, noSla, charged]

section

variable (refunds : RefundSound row)

include refunds

theorem RefundSound.refundsBounded (sound : JobSound row) : row.refundsBounded := by
  have tasks : row.taskRefundMicros ≤ row.tasks.total TaskLedger.charge :=
    total_le_total fun task mem => (sound.tasks task mem).refund_le
  have premium := sound.premium_returned_le refunds.once
  refine ⟨?_, refunds.once, refunds.receipts_eq⟩
  rw [Job.creditedMicros, Job.disputeRefundMicros, Job.chargedMicros]
  omega

theorem RefundSound.undisputed_of_live (live : row.status.live = true) : row.undisputed := by
  rcases refunds.phase with undisputed | ⟨ended, _⟩
  · exact undisputed
  · rw [live] at ended
    cases ended

theorem RefundSound.step (stepped : JobStep row changed) : RefundSound changed := by
  cases stepped with
  | settleTask task charge debit fresh live =>
    have undisputed := refunds.undisputed_of_live live
    refine ⟨refunds.once, ?_, .inl ⟨?_, undisputed.2⟩⟩
    · have same := refunds.receipts_eq
      simp only [Job.disputeRefundMicros, Job.taskRefundMicros, total_insert, micros_none] at same ⊢
      omega
    · exact forall_insert fresh undisputed.1 rfl
  | finalize _ live | move _ live =>
    exact ⟨refunds.once, refunds.receipts_eq, .inl (refunds.undisputed_of_live live)⟩
  | decide => exact { refunds with }

theorem RefundSound.slaMissed (notDisputed : row.premiumNotDisputed) :
    RefundSound
      { row with slaMet := some false, slaRefund := some refund, balanceReturn := returned } := by
  refine ⟨?_, refunds.receipts_eq, refunds.phase⟩
  have noRefunds : row.premiumRefunds = [] := notDisputed
  simp [Job.premiumReturns, noRefunds]

end

theorem TaskLedger.restored_refund (task : TaskLedger) : task.restored.refund = task.refund := by
  rw [TaskLedger.restored]
  split <;> rfl

theorem JobSound.taskRefundMicros_written (sound : JobSound row) :
    (insertJobDisputeBuyerRefunds row dispute).taskRefundMicros =
      row.tasks.total TaskLedger.charge := by
  simp only [Job.taskRefundMicros, insertJobDisputeBuyerRefunds, total_map]
  apply total_congr
  intro task mem
  have taskSound := sound.tasks task mem
  rw [TaskLedger.refunded]
  split_ifs with fresh
  · rfl
  · cases refunded : task.refund with
    | none => exact absurd ⟨taskSound.charge_pos, refunded⟩ fresh
    | some refund => rw [taskSound.refund_eq refund refunded, micros_some]

theorem upholdJob_disputeRefundMicros (outcome : upholdJob row dispute = .ok changed) :
    changed.disputeRefundMicros =
      (insertJobDisputeBuyerRefunds row dispute).disputeRefundMicros := by
  rw [(upholdJob_ok outcome).1]
  simp only [Job.disputeRefundMicros, Job.taskRefundMicros, insertJobDisputeBuyerRefunds, total_map,
    TaskLedger.restored_refund]

theorem RefundSound.uphold_once (refunds : RefundSound row)
    (sound : JobSound row) (unreturned : row.premiumUnreturned) :
    (row.premiumRefunds ++ row.premiumRefundFor dispute).length +
      row.slaRefund.toList.length ≤ 1 := by
  rcases unreturned with uncharged | ⟨noSla, noRefund⟩
  · rw [Job.premiumRefundFor_uncharged uncharged, List.append_nil]
    exact refunds.once
  · rw [sound.premiumRefundFor_first noRefund, noRefund, noSla]
    cases row.premiumCharge <;> simp

theorem JobSound.first_dispute_credits (sound : JobSound row) (first : row.premiumRefunds = []) :
    (insertJobDisputeBuyerRefunds row dispute).disputeRefundMicros =
      row.tasks.total TaskLedger.charge + micros row.premiumCharge := by
  rw [Job.disputeRefundMicros, sound.taskRefundMicros_written]
  simp only [insertJobDisputeBuyerRefunds, first, List.nil_append]
  rw [sound.premiumRefundFor_first first]
  cases row.premiumCharge <;> simp [totalMicros]

section

variable (sound : JobSound row) (outcome : upholdJob row dispute = .ok changed)

include sound outcome

theorem RefundSound.uphold_whole (ended : row.status.live = false) : changed.refundedWhole := by
  rw [(upholdJob_ok outcome).1]
  refine ⟨ended, ?_, ?_⟩
  · intro task mem
    obtain ⟨_, _, rfl⟩ := sound.upheld_tasks mem
    rfl
  · show row.premiumCharge = none ∨ row.premiumRefunds ++ row.premiumRefundFor dispute ≠ []
    by_cases first : row.premiumRefunds = []
    · rw [sound.premiumRefundFor_first first]
      cases row.premiumCharge <;> simp
    · exact .inr (by simp [first])

theorem RefundSound.first_receipt (refunds : RefundSound row) (undisputed : row.undisputed) :
    totalMicros changed.receipts = changed.disputeRefundMicros := by
  have nothing : row.disputeRefundMicros = 0 := by
    have tasks : row.taskRefundMicros = 0 := by
      apply total_eq_zero
      intro task mem
      rw [undisputed.1 task mem, micros_none]
    rw [Job.disputeRefundMicros, tasks, undisputed.2]
    rfl
  have named : buyerRefundMicros (insertJobDisputeBuyerRefunds row dispute) dispute =
        (insertJobDisputeBuyerRefunds row dispute).disputeRefundMicros := by
    rw [buyerRefundMicros, Job.disputeRefundMicros]
    congr 1
    simp only [insertJobDisputeBuyerRefunds, undisputed.2, List.nil_append, totalMicros]
    rw [sound.premiumRefundFor_first undisputed.2]
    cases row.premiumCharge <;> simp
  have nonneg : 0 ≤ (insertJobDisputeBuyerRefunds row dispute).disputeRefundMicros := by
    have charges : 0 ≤ row.tasks.total TaskLedger.charge :=
      total_nonneg fun task mem => Int.le_of_lt (sound.tasks task mem).charge_pos
    have premium := sound.premiumCharge_nonneg
    rw [sound.first_dispute_credits undisputed.2]
    omega
  have before := refunds.receipts_eq
  rw [(upholdJob_ok outcome).2.2, totalMicros_append, before, nothing,
    upholdJob_disputeRefundMicros outcome, named]
  split_ifs
  · simp [totalMicros]
  · simp only [totalMicros, Rows.sumWhere_nil]
    omega

theorem RefundSound.later_receipt (refunds : RefundSound row)
    (whole : row.refundedWhole) (uncharged : row.premiumCharge = none) :
    totalMicros changed.receipts = changed.disputeRefundMicros := by
  have tasks : row.taskRefundMicros = row.tasks.total TaskLedger.charge := by
    apply total_congr
    intro task mem
    rw [whole.2.1 task mem, micros_some]
  have unchanged :
      (insertJobDisputeBuyerRefunds row dispute).disputeRefundMicros = row.disputeRefundMicros := by
    rw [Job.disputeRefundMicros, sound.taskRefundMicros_written, ← tasks, Job.disputeRefundMicros]
    simp [insertJobDisputeBuyerRefunds, Job.premiumRefundFor_uncharged uncharged]
  obtain ⟨_, _, receipts⟩ := upholdJob_ok outcome
  have nothing : ¬ 0 < buyerRefundMicros (insertJobDisputeBuyerRefunds row dispute) dispute := by
    intro pos
    omega
  rw [receipts, if_neg nothing, List.append_nil, refunds.receipts_eq,
    upholdJob_disputeRefundMicros outcome, unchanged]

theorem RefundSound.uphold (refunds : RefundSound row) (ended : row.status.live = false)
    (unreturned : row.premiumUnreturned) : RefundSound changed where
  once := by
    rw [(upholdJob_ok outcome).1]
    exact refunds.uphold_once sound unreturned
  receipts_eq := by
    rcases refunds.phase with undisputed | whole
    · exact refunds.first_receipt sound outcome undisputed
    · have uncharged : row.premiumCharge = none := by
        rcases unreturned with uncharged | ⟨_, noRefund⟩
        · exact uncharged
        · exact whole.2.2.resolve_right (absurd noRefund)
      exact refunds.later_receipt sound outcome whole uncharged
  phase := .inr (RefundSound.uphold_whole sound outcome ended)

theorem upheld_returns_again (again : ¬ row.premiumUnreturned)
    (newDispute : ∀ refund ∈ row.premiumRefunds, refund.dispute ≠ dispute) :
    ¬ changed.refundsBounded := by
  rw [Job.premiumUnreturned, not_or] at again
  obtain ⟨charged, returned⟩ := again
  obtain ⟨premium, isPremium⟩ := Option.ne_none_iff_exists'.mp charged
  have pos := sound.premium_pos isPremium
  have another : row.premiumRefundFor dispute = [⟨dispute, premium⟩] := by
    have unused : row.premiumRefunds.any (·.dispute == dispute) = false := by simpa using newDispute
    simp [Job.premiumRefundFor, isPremium, pos, unused]
  intro bounded
  have once := bounded.2.1
  rw [(upholdJob_ok outcome).1, Job.premiumReturns] at once
  simp only [another, List.length_append, List.length_singleton] at once
  apply returned
  constructor
  · exact Option.toList_eq_nil_iff.mp (List.eq_nil_of_length_eq_zero (by omega))
  · exact List.eq_nil_of_length_eq_zero (by omega)

end

theorem slaMissed_returns_again (again : ¬ row.premiumNotDisputed) : ¬ Job.refundsBounded
      { row with slaMet := some false, slaRefund := some refund, balanceReturn := returned } := by
  intro bounded
  have once := bounded.2.1
  simp only [Job.premiumReturns, Option.toList_some, List.length_singleton] at once
  exact again (List.eq_nil_of_length_eq_zero (by omega))

end

structure Refunds (s : State) : Prop where
  sound : LedgerSound s
  jobs : ∀ job ∈ s.jobs.rows, RefundSound job

theorem step_refunds (s : State) (event : Event) (next : State) (refunds : Refunds s)
    (guarded : ReturnsPremiumOnce s event) (ran : step s event = .ok next) : Refunds next where
  sound := step_ledgerSound refunds.sound ran
  jobs := by
    refine step_jobs ?_ ?_ ?_ ?_ refunds.sound refunds.jobs guarded ran
    · intro job prepaid plan
      exact ⟨Nat.zero_le 1, rfl, .inl ⟨List.forall_mem_nil _, rfl⟩⟩
    · intro row changed _ rowRefunds stepped
      exact rowRefunds.step stepped
    · intro row refund returned _ rowRefunds _ _ _ notDisputed
      exact rowRefunds.slaMissed notDisputed
    · intro row dispute changed sound rowRefunds ended unreturned outcome
      exact rowRefunds.uphold sound outcome ended unreturned

/-- In every run that returns a premium only once, every job's refunds are
within its charges and agree with its receipts. -/
theorem refunds_bounded (free : Int) (events : List Event)
    (guarded : Meets step ReturnsPremiumOnce (State.opened free) events) :
    RefundsBounded (run step (State.opened free) events) := by
  have opened : Refunds (State.opened free) :=
    ⟨LedgerSound.opened free, List.forall_mem_nil _⟩
  have refunds := invariant_run step_refunds opened guarded
  intro job member
  exact (refunds.jobs job member).refundsBounded (refunds.sound.jobs job member)

private def oneTaskPlan : Plan where
  perTaskMicros := 10
  taskLimit := 1
  premiumMicros := 5
  slaGuaranteeSecs := 60
  firmMicros := none
  perTask_pos := Int.natCast_succ_pos 9
  premium_nonneg := Int.natCast_nonneg 5

/-- One job's premium is returned by its dispute and one by its SLA.  A second
dispute over a job without a premium finds nothing to credit. -/
def premiumOnceRun : List Event :=
  [.topup 100] ++ completedJob 1 true oneTaskPlan 10 ++
    [.fileDispute 1 1, .resolveDispute 1 .upheld, .resolveDispute 1 .upheld] ++
    completedJob 2 true oneTaskPlan 10 ++
    [.settleJobSLA 2 (some 61), .settleJobSLA 2 (some 61)] ++
    [.submitJob 3 true false oneTaskPlan, .settleTask 3 1 8,
     .moveJob 3 .cancelled, .fileDispute 3 3, .resolveDispute 3 .upheld,
     .fileDispute 4 3, .resolveDispute 4 .upheld]

theorem premiumOnceRun_refunds_bounded :
    Meets step ReturnsPremiumOnce (State.opened 0) premiumOnceRun ∧
      RefundsBounded (run step (State.opened 0) premiumOnceRun) :=
  have guarded : Meets step ReturnsPremiumOnce (State.opened 0) premiumOnceRun := by decide
  ⟨guarded, refunds_bounded 0 premiumOnceRun guarded⟩

/-- The SLA returns the premium and then the dispute does: 20 micros are
credited for charges of 15. -/
def premiumTwiceRun : List Event :=
  [.topup 100] ++ completedJob 1 true oneTaskPlan 10 ++
    [.settleJobSLA 1 (some 61), .fileDispute 1 1, .resolveDispute 1 .upheld]

theorem premiumTwiceRun_refunds_exceed_charges :
    ¬ RefundsBounded (run step (State.opened 0) premiumTwiceRun) := by
  decide

end MercControl.Money
