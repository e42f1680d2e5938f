import MercControl.Money.BuyerOperations

/-!
# What every run keeps in a buyer's ledger

First what a committed transaction wrote, then the relations between the rows:
a refund equals its charge, a restore its debit, and the premium rows follow
the plan.
-/

namespace MercControl.Money

open Library Machine Table

/-! ## What a committed transaction wrote -/

variable {prepaid : Bool} {debit : Option Int} {balance charge : Int}
  {dispute : DisputeId} {task : TaskLedger} {row : Job} {event : Event}

variable {amount : Int} {jobs : Table Job.job} {disputes : Table Dispute.dispute} {filed : Dispute}

section

variable {s next : State}

theorem creditPrepaidTopup_ok (ran : creditPrepaidTopup s amount = .ok next) :
    0 < amount ∧ next = { s with balanceMicros := s.balanceMicros + amount } := by
  simp only [creditPrepaidTopup, ite_error_eq_ok, Except.ok.injEq] at ran
  exact ⟨by omega, ran.2.symm⟩

theorem debitPrepaid_ok (debited : debitPrepaid s prepaid amount = .ok (debit, balance)) :
    debit = (if prepaid then some amount else none) ∧ balance = s.balanceMicros - micros debit ∧
      (prepaid = true → amount ≤ s.balanceMicros) := by
  cases prepaid with
  | false =>
    obtain ⟨rfl, rfl⟩ := debited
    simp
  | true =>
    simp only [debitPrepaid, if_true, ite_error_eq_ok, Except.ok.injEq, Prod.mk.injEq] at debited
    obtain ⟨_, rfl, rfl⟩ := debited
    simp only [if_true, micros_some, true_and]
    intro _
    omega

variable {job : JobId}

theorem submitJob_ok {card : Bool} {plan : Plan}
    (ran : submitJob s job prepaid card plan = .ok next) :
    (prepaid = true → reservePrepaidForJob s plan.reservedMicros = .ok ()) ∧
      ∃ fresh : s.jobs.find? job = none,
        next = { s with jobs := s.jobs.insert (.submitted job prepaid plan) fresh } := by
  simp only [submitJob] at ran
  split at ran
  · cases ran
  rename_i reserved
  split_ifs at ran with fresh
  refine ⟨?_, fresh, (Except.ok.inj ran).symm⟩
  intro onPrepaid
  simpa [reserveForJob, onPrepaid] using reserved

theorem settleTask_ok {task : TaskId} (ran : settleTask s job task charge = .ok next) :
    ∃ row debit, ∃ fresh : row.tasks.find? task = none,
      s.jobs.find? job = some row ∧ row.status.live = true ∧ 0 < charge ∧
      charge ≤ row.plan.perTaskMicros ∧
      row.tasks.rows.length < row.plan.taskLimit ∧
      debit = (if row.prepaidRequired then some charge else none) ∧
      (row.prepaidRequired = true → charge ≤ s.balanceMicros) ∧
      next =
        { s with
          balanceMicros := s.balanceMicros - micros debit
          jobs := s.jobs.set
            { row with tasks := row.tasks.insert ⟨task, charge, debit, none, none⟩ fresh } } := by
  rw [settleTask] at ran
  rcases found : s.jobs.find? job with _ | row
  · simp [found] at ran
  simp only [found, ite_error_eq_ok] at ran
  obtain ⟨live, _, _, ran⟩ := ran
  rcases debited : debitPrepaid s row.prepaidRequired charge with _ | pair
  · simp [debited] at ran
  obtain ⟨debit, _⟩ := pair
  simp only [debited] at ran
  split_ifs at ran with fresh
  obtain ⟨debitEq, balanceEq, enough⟩ := debitPrepaid_ok debited
  refine ⟨row, debit, fresh, rfl, by simpa using live, by omega, by omega,
      by omega, debitEq, enough, ?_⟩
  rw [← balanceEq]
  exact (Except.ok.inj ran).symm

/-- The job was complete, or it completes and its premium is charged. -/
theorem finalizeJob_ok (ran : finalizeJob s job = .ok next) :
    (next = s ∧ s.jobs.Holds job fun row => row.status = .complete) ∨
      ∃ row debit, s.jobs.find? job = some row ∧ row.status.live = true ∧
        debit = (if row.prepaidRequired then row.plan.premiumCharge else none) ∧
        (∀ premium ∈ debit, premium ≤ s.balanceMicros) ∧
        next =
          { s with
            balanceMicros := s.balanceMicros - micros debit
            jobs := s.jobs.set
              { row with
                status := .complete
                premiumCharge := row.plan.premiumCharge
                premiumDebit := debit } } := by
  rw [finalizeJob] at ran
  rcases found : s.jobs.find? job with _ | row
  · simp [found] at ran
  simp only [found] at ran
  split_ifs at ran with done notLive
  · exact .inl ⟨(Except.ok.inj ran).symm, row, found, done⟩
  have live : row.status.live = true := by
    by_cases running : row.status = .running
    · rw [running]
      rfl
    · have verifying : row.status = .verifying := by
        by_contra other
        exact notLive ⟨running, other⟩
      rw [verifying]
      rfl
  refine .inr ⟨row, _, rfl, live, rfl, ?_⟩
  cases premium : row.plan.premiumCharge with
  | none =>
    simp only [premium] at ran
    rw [← Except.ok.inj ran]
    simp
  | some amount =>
    simp only [premium] at ran
    rcases debited : debitPrepaid s row.prepaidRequired amount with _ | pair
    · simp [debited] at ran
    obtain ⟨debit, _⟩ := pair
    obtain ⟨rfl, rfl, enough⟩ := debitPrepaid_ok debited
    simp only [debited] at ran
    rw [← Except.ok.inj ran]
    refine ⟨?_, rfl⟩
    intro part mem
    split_ifs at mem with onPrepaid
    · rw [← Option.some.inj mem]
      exact enough onPrepaid
    · cases mem

theorem moveJob_ok {status : JobStatus} (ran : moveJob s job status = .ok next) :
    ∃ row, s.jobs.find? job = some row ∧ row.status.live = true ∧ status ≠ .complete ∧
      next = { s with jobs := s.jobs.set { row with status } } := by
  rw [moveJob] at ran
  rcases found : s.jobs.find? job with _ | row
  · simp [found] at ran
  simp only [found, ite_error_eq_ok, Except.ok.injEq, Bool.or_eq_true, not_or] at ran
  obtain ⟨⟨live, notComplete⟩, rfl⟩ := ran
  exact ⟨row, rfl, by simpa using live, by simpa using notComplete, rfl⟩

def Job.slaRefundDue (job : Job) (span : Option Nat) : Prop :=
  job.plan.slaGuaranteeSecs ≠ 0 ∧ job.slaMet = none ∧ job.status = .complete ∧
    0 < slaRefundAmount job.plan.premiumMicros job.chargeableMicros ∧
    ∃ secs ∈ span, job.plan.slaGuaranteeSecs < secs
  deriving Decidable

/-- Nothing, a decision without a refund, or a missed guarantee whose refund is
credited. -/
theorem settleJobSLA_ok {span : Option Nat} (ran : settleJobSLA s job span = .ok next) :
    next = s ∨ ∃ row, s.jobs.find? job = some row ∧ row.status = .complete ∧ row.slaMet = none ∧
        ((∃ met, next = { s with jobs := s.jobs.set { row with slaMet := some met } }) ∨
          ∃ refund, refund = slaRefundAmount row.plan.premiumMicros row.chargeableMicros ∧
            0 < refund ∧ row.slaRefundDue span ∧
            next =
              { s with
                balanceMicros := s.balanceMicros + micros (slaBalanceReturn row refund)
                jobs := s.jobs.set
                  { row with
                    slaMet := some false
                    slaRefund := some refund
                    balanceReturn := slaBalanceReturn row refund } }) := by
  rcases found : s.jobs.find? job with _ | row
  · simp [settleJobSLA, found] at ran
  cases span with
  | none =>
    simp only [settleJobSLA, found] at ran
    exact .inl (Except.ok.inj ran).symm
  | some secs =>
    simp only [settleJobSLA, found] at ran
    split_ifs at ran with skip
    · exact .inl (Except.ok.inj ran).symm
    all_goals
      simp only [not_or, not_not] at skip
      refine .inr ⟨row, rfl, skip.2.2, by simpa using skip.2.1, ?_⟩
    · exact .inl ⟨true, (Except.ok.inj ran).symm⟩
    · exact .inl ⟨false, (Except.ok.inj ran).symm⟩
    · have due : row.slaRefundDue (some secs) :=
        ⟨skip.1, by simpa using skip.2.1, skip.2.2, by omega, secs, rfl, by omega⟩
      exact .inr ⟨_, rfl, by omega, due, (Except.ok.inj ran).symm⟩

theorem fileDispute_ok (ran : fileDispute s dispute job = .ok next) :
    ∃ row, s.jobs.find? job = some row ∧ row.status.live = false ∧
      ∃ fresh : s.disputes.find? dispute = none,
        next = { s with disputes := s.disputes.insert ⟨dispute, job, none⟩ fresh } := by
  rw [fileDispute] at ran
  rcases found : s.jobs.find? job with _ | row
  · simp [found] at ran
  simp only [found, ite_error_eq_ok] at ran
  obtain ⟨terminal, _, ran⟩ := ran
  split_ifs at ran with fresh
  exact ⟨row, rfl, by simpa using terminal, fresh, (Except.ok.inj ran).symm⟩

/-- A resolution that commits: repeated, rejected, or upheld with the rows of
`upholdJob`. -/
theorem resolveDispute_ok {resolution : Resolution}
    (ran : resolveDispute s dispute resolution = .ok next) :
    ∃ filed, s.disputes.find? dispute = some filed ∧ ∃ disputes, (disputes = s.disputes ∨
          disputes = s.disputes.set { filed with resolution := some resolution }) ∧
        (next = { s with disputes } ∨ ∃ row upheld, filed.resolution = none ∧ resolution = .upheld ∧
            s.jobs.find? filed.job = some row ∧
            upholdJob row dispute = .ok upheld ∧
            next =
              { s with
                disputes
                balanceMicros := s.balanceMicros + (row.netDebit - upheld.netDebit)
                jobs := s.jobs.set upheld }) := by
  rw [resolveDispute] at ran
  rcases found : s.disputes.find? dispute with _ | filed
  · simp [found] at ran
  simp only [found] at ran
  refine ⟨filed, rfl, ?_⟩
  split_ifs at ran with repeated resolved
  · exact ⟨s.disputes, .inl rfl, .inl (Except.ok.inj ran).symm⟩
  refine ⟨_, .inr rfl, ?_⟩
  cases resolution with
  | rejected =>
    exact .inl (Except.ok.inj ran).symm
  | upheld =>
    rcases ofJob : s.jobs.find? filed.job with _ | row
    · simp [ofJob] at ran
    simp only [ofJob] at ran
    rcases outcome : upholdJob row dispute with _ | upheld
    · simp [outcome] at ran
    simp only [outcome] at ran
    exact .inr
        ⟨row, upheld, by simpa using resolved, rfl, rfl, outcome, (Except.ok.inj ran).symm⟩

variable {contract : ContractId}

theorem authorizeRealtime_ok {need : Int} (ran : authorizeRealtime s contract need = .ok next) :
    0 ≤ need ∧ ceilNanosToMicros need ≤ s.realtimeCapacityMicros ∧
      ∃ fresh : s.contracts.find? contract = none, next =
          { s with
            contracts := s.contracts.insert
                ⟨contract, ceilNanosToMicros need, .executing, none, none, none, none⟩ fresh } := by
  rw [authorizeRealtime] at ran
  rcases funding : evaluateRealtimeBuyerFunding s need with _ | _
  · simp [funding] at ran
  simp only [funding] at ran
  simp only [evaluateRealtimeBuyerFunding, ite_error_eq_ok] at funding
  split_ifs at ran with fresh
  exact ⟨by omega, by omega, fresh, (Except.ok.inj ran).symm⟩

theorem maybeDebitPrepaidForRealtime_ok
    (debited : maybeDebitPrepaidForRealtime s charge = .ok (debit, balance)) :
    0 < charge ∧ micros debit = prepaidResidualMicros s.freeMicros (s.spentMicros + charge) charge ∧
      (micros debit = 0 ∨ micros debit ≤ s.balanceMicros) ∧
      balance = s.balanceMicros - micros debit := by
  simp only [maybeDebitPrepaidForRealtime, ite_error_eq_ok] at debited
  obtain ⟨_, debited⟩ := debited
  split_ifs at debited with covered
  · cases debited
    exact ⟨by omega, by simp [covered], by simp, by simp⟩
  · cases debited
    refine ⟨by omega, rfl, .inr ?_, rfl⟩
    rw [micros_some]
    omega

theorem settleRealtime_ok (ran : settleRealtime s contract charge = .ok next) :
    ∃ row debit balance, s.contracts.find? contract = some row ∧ row.state = .executing ∧
      charge ≤ row.holdMicros ∧
      maybeDebitPrepaidForRealtime s charge = .ok (debit, balance) ∧
      next =
        { s with
          balanceMicros := balance
          contracts := s.contracts.set
            { row with state := .verified, charge := some charge, debit } } := by
  rw [settleRealtime] at ran
  rcases found : s.contracts.find? contract with _ | row
  · simp [found] at ran
  simp only [found, ite_error_eq_ok, not_not] at ran
  obtain ⟨executing, _, ran⟩ := ran
  rcases debited : maybeDebitPrepaidForRealtime s charge with _ | pair
  · simp [debited] at ran
  obtain ⟨debit, balance⟩ := pair
  simp only [debited] at ran
  exact ⟨row, debit, balance, rfl, executing, by omega, rfl, (Except.ok.inj ran).symm⟩

theorem failRealtime_ok (ran : failRealtime s contract = .ok next) :
    ∃ row, s.contracts.find? contract = some row ∧ row.state = .executing ∧
      next = { s with contracts := s.contracts.set { row with state := .failed } } := by
  rw [failRealtime] at ran
  cases found : s.contracts.find? contract with
  | none => simp [found] at ran
  | some row =>
    simp only [found, ite_error_eq_ok, not_not, Except.ok.injEq] at ran
    exact ⟨row, rfl, ran.1, ran.2.symm⟩

theorem refundRealtime_ok {payoutHeld : Bool}
    (ran : refundRealtime s contract payoutHeld = .ok next) :
    ∃ row, s.contracts.find? contract = some row ∧ row.state = .verified ∧ row.refund = none ∧
      next =
        { s with
          balanceMicros := s.balanceMicros + micros row.debit
          contracts := s.contracts.set
            { row with refund := row.charge, restore := row.debit } } := by
  rw [refundRealtime] at ran
  rcases found : s.contracts.find? contract with _ | row
  · simp [found] at ran
  simp only [found, ite_error_eq_ok, not_or, not_not, Except.ok.injEq] at ran
  obtain ⟨⟨verified, unrefunded⟩, _, rfl⟩ := ran
  exact ⟨row, rfl, verified, by simpa using unrefunded, rfl⟩

end

/-! ## Rows that belong together -/

/-- The rows of a settled task: a refund is the whole charge, a restore the
whole debit, written with the refund. -/
structure TaskSound (prepaidRequired : Bool) (task : TaskLedger) : Prop where
  charge_pos : 0 < task.charge
  debit_eq : task.debit = if prepaidRequired then some task.charge else none
  refund_eq : ∀ refund ∈ task.refund, refund = task.charge
  restore_eq : task.restore = if task.refund.isSome then task.debit else none

section

variable (sound : TaskSound prepaid task)

include sound

theorem TaskSound.upheld :
    task.refunded.restored = { task with refund := some task.charge, restore := task.debit } := by
  obtain ⟨_, charge, debit, refund, restore⟩ := task
  obtain ⟨pos, _, refund_eq, restore_eq⟩ := sound
  simp only at pos refund_eq restore_eq
  subst restore_eq
  cases refund with
  | none => cases debit <;> simp [TaskLedger.refunded, TaskLedger.restored, pos]
  | some amount =>
    have whole : amount = charge := refund_eq amount rfl
    subst whole
    cases debit <;> simp [TaskLedger.refunded, TaskLedger.restored]

theorem TaskSound.netSpend_nonneg : 0 ≤ task.netSpend := by
  have pos := sound.charge_pos
  rw [TaskLedger.netSpend]
  cases refunded : task.refund with
  | none =>
    rw [micros_none]
    omega
  | some refund =>
    have whole := sound.refund_eq refund refunded
    rw [micros_some]
    omega

theorem TaskSound.netDebit_eq : task.netDebit = if prepaid then task.netSpend else 0 := by
  rw [TaskLedger.netDebit, TaskLedger.netSpend, sound.restore_eq, sound.debit_eq]
  cases prepaid with
  | false => cases task.refund <;> simp
  | true =>
    cases refunded : task.refund with
    | none => simp
    | some refund =>
      have whole := sound.refund_eq refund refunded
      simp [whole]

theorem TaskSound.netDebit_nonneg : 0 ≤ task.netDebit := by
  have nonneg := sound.netSpend_nonneg
  rw [sound.netDebit_eq]
  split_ifs <;> omega

end

structure JobSound (job : Job) : Prop where
  tasks : ∀ task ∈ job.tasks.rows, TaskSound job.prepaidRequired task
  priced : ∀ task ∈ job.tasks.rows, task.charge ≤ job.plan.perTaskMicros
  counted : job.tasks.rows.length ≤ job.plan.taskLimit
  premiumCharge_eq :
    job.premiumCharge = if job.status = .complete then job.plan.premiumCharge else none
  premiumDebit_eq : job.premiumDebit = if job.prepaidRequired then job.premiumCharge else none
  premiumRefunds_eq : ∀ row ∈ job.premiumRefunds, job.premiumCharge = some row.micros
  slaRefund_le : ∀ refund ∈ job.slaRefund, 0 < refund ∧ refund ≤ micros job.premiumCharge
  slaRefund_decided : job.slaMet = none → job.slaRefund = none

/-- A settled contract has a debit within its charge; a refund takes both
back. -/
structure ContractSound (contract : Contract) : Prop where
  hold_nonneg : 0 ≤ contract.holdMicros
  debit_nonneg : 0 ≤ micros contract.debit
  debit_le : micros contract.debit ≤ micros contract.charge
  unsettled : contract.state ≠ .verified → contract.charge = none ∧ contract.debit = none
  refund_eq :
    (contract.refund = none ∧ contract.restore = none) ∨
      (contract.refund = contract.charge ∧ contract.restore = contract.debit)

def DisputesTerminal (jobs : Table Job.job) (disputes : Table Dispute.dispute) : Prop :=
  ∀ dispute ∈ disputes.rows, ∃ row, jobs.find? dispute.job = some row ∧ row.status.live = false

structure LedgerSound (s : State) : Prop where
  jobs : ∀ job ∈ s.jobs.rows, JobSound job
  contracts : ∀ contract ∈ s.contracts.rows, ContractSound contract
  disputes : DisputesTerminal s.jobs s.disputes

theorem DisputesTerminal.set {job : JobId} {changed : Job}
    (terminal : DisputesTerminal jobs disputes)
    (found : jobs.find? job = some row) (sameJob : changed.job = row.job)
    (kept : row.status.live = false → changed.status.live = false) :
    DisputesTerminal (jobs.set changed) disputes := by
  intro dispute mem
  rw [← key_of_find? found, ← sameJob] at found
  exact Holds.set (terminal dispute mem) found fun _ => kept

theorem DisputesTerminal.insert (terminal : DisputesTerminal jobs disputes)
    (fresh : jobs.find? row.job = none) : DisputesTerminal (jobs.insert row fresh) disputes :=
  fun dispute mem => Holds.insert (terminal dispute mem) fresh

theorem ContractSound.netDebit_nonneg {contract : Contract}
    (sound : ContractSound contract) : 0 ≤ contract.netDebit := by
  have nonneg := sound.debit_nonneg
  rw [Contract.netDebit]
  rcases sound.refund_eq with ⟨_, none⟩ | ⟨_, whole⟩
  · rw [none, micros_none]
    omega
  · rw [whole]
    omega

theorem ContractSound.netDebit_le {contract : Contract} (sound : ContractSound contract) :
    contract.netDebit ≤ contract.netSpend := by
  have below := sound.debit_le
  rw [Contract.netDebit, Contract.netSpend]
  rcases sound.refund_eq with ⟨noRefund, noRestore⟩ | ⟨refund, restore⟩
  · rw [noRefund, noRestore, micros_none]
    omega
  · rw [refund, restore]
    omega

theorem prepaidResidualMicros_bounds (free spent charge : Int) (pos : 0 < charge) :
    0 ≤ prepaidResidualMicros free spent charge ∧
      prepaidResidualMicros free spent charge ≤ charge := by
  simp only [prepaidResidualMicros]
  split_ifs <;> omega

theorem Plan.premiumCharge_pos {plan : Plan} {premium : Int}
    (charged : plan.premiumCharge = some premium) : 0 < premium := by
  rw [Plan.premiumCharge] at charged
  split_ifs at charged with pos
  rw [← Option.some.inj charged]
  exact pos

theorem Plan.premiumCharge_nonneg (plan : Plan) : 0 ≤ micros plan.premiumCharge := by
  cases charged : plan.premiumCharge with
  | none => exact le_rfl
  | some =>
    have pos := Plan.premiumCharge_pos charged
    rw [micros_some]
    omega

theorem JobSound.premiumCharge_nonneg (sound : JobSound row) : 0 ≤ micros row.premiumCharge := by
  rw [sound.premiumCharge_eq]
  split_ifs
  · exact row.plan.premiumCharge_nonneg
  · exact le_rfl

theorem JobSound.premium_pos (sound : JobSound row) {premium : Int}
    (charged : row.premiumCharge = some premium) : 0 < premium := by
  rw [sound.premiumCharge_eq] at charged
  split_ifs at charged
  exact Plan.premiumCharge_pos charged

/-! ## Upheld disputes -/

theorem JobSound.premiumRefundFor_first (sound : JobSound row) (first : row.premiumRefunds = []) :
    row.premiumRefundFor dispute = match row.premiumCharge with
      | none => []
      | some premium => [⟨dispute, premium⟩] := by
  rw [Job.premiumRefundFor, first]
  cases charged : row.premiumCharge with
  | none => rfl
  | some =>
    simp [sound.premium_pos charged]

theorem Job.premiumRefundFor_uncharged (uncharged : row.premiumCharge = none) :
    row.premiumRefundFor dispute = [] := by
  rw [Job.premiumRefundFor, uncharged]

theorem upholdJob_ok {job upheld : Job} (ran : upholdJob job dispute = .ok upheld) : upheld =
        { job with
          tasks := (job.tasks.map ⟨TaskLedger.refunded, TaskLedger.refunded_task⟩).map
              ⟨TaskLedger.restored, TaskLedger.restored_task⟩
          premiumRefunds := job.premiumRefunds ++ job.premiumRefundFor dispute
          receipts := upheld.receipts } ∧
      (0 < buyerRefundMicros (insertJobDisputeBuyerRefunds job dispute) dispute →
        0 < (insertJobDisputeBuyerRefunds job dispute).disputeRefundMicros -
          job.disputeRefundMicros) ∧
      upheld.receipts = job.receipts ++
          if 0 < buyerRefundMicros (insertJobDisputeBuyerRefunds job dispute) dispute then
            [⟨dispute, buyerRefundMicros (insertJobDisputeBuyerRefunds job dispute) dispute⟩]
          else [] := by
  simp only [upholdJob, ite_error_eq_ok, Except.ok.injEq] at ran
  obtain ⟨_, _, _, _, rfl⟩ := ran
  split_ifs with refunds
  · exact ⟨rfl, fun _ => by omega, rfl⟩
  · refine ⟨rfl, fun pos => absurd pos refunds, ?_⟩
    rw [List.append_nil]
    rfl

theorem JobSound.upheld_tasks {job : Job} (sound : JobSound job) (mem : task ∈
        ((job.tasks.map ⟨TaskLedger.refunded, TaskLedger.refunded_task⟩).map
          ⟨TaskLedger.restored, TaskLedger.restored_task⟩).rows) :
    ∃ before ∈ job.tasks.rows,
      task = { before with refund := some before.charge, restore := before.debit } := by
  simp only [Table.map, List.map_map, List.mem_map, Function.comp_apply] at mem
  obtain ⟨before, beforeMem, rfl⟩ := mem
  exact ⟨before, beforeMem, (sound.tasks before beforeMem).upheld⟩

theorem premiumRefundFor_eq {job : Job} {row : DisputeRow}
    (mem : row ∈ job.premiumRefundFor dispute) :
    job.premiumCharge = some row.micros ∧ row.dispute = dispute := by
  rw [Job.premiumRefundFor] at mem
  split at mem
  · cases mem
  rename_i premium charged
  split_ifs at mem
  · rw [List.mem_singleton.mp mem]
    exact ⟨charged, rfl⟩
  · cases mem

theorem JobSound.uphold {job upheld : Job} (sound : JobSound job)
    (ran : upholdJob job dispute = .ok upheld) : JobSound upheld := by
  rw [(upholdJob_ok ran).1]
  refine { sound with tasks := ?_, priced := ?_, counted := ?_, premiumRefunds_eq := ?_ }
  · intro task mem
    obtain ⟨before, beforeMem, rfl⟩ := sound.upheld_tasks mem
    have kept := sound.tasks before beforeMem
    exact ⟨kept.charge_pos, kept.debit_eq, by simp, by simp⟩
  · intro task mem
    obtain ⟨before, beforeMem, rfl⟩ := sound.upheld_tasks mem
    exact sound.priced before beforeMem
  · simpa [Table.map] using sound.counted
  · intro row mem
    rcases List.mem_append.mp mem with old | new
    · exact sound.premiumRefunds_eq row old
    · exact (premiumRefundFor_eq new).1

/-! ## The invariant over a step -/

section

variable {s next : State}

section

variable (sound : LedgerSound s)

include sound

theorem LedgerSound.job {job : JobId} (found : s.jobs.find? job = some row) : JobSound row :=
  sound.jobs row (mem_of_find? found)

theorem LedgerSound.contract {contract : ContractId} {row : Contract}
    (found : s.contracts.find? contract = some row) : ContractSound row :=
  sound.contracts row (mem_of_find? found)

theorem LedgerSound.disputed_ended (ofDispute : s.disputes.find? dispute = some filed)
    (found : s.jobs.find? filed.job = some row) : row.status.live = false := by
  obtain ⟨_, disputedFound, ended⟩ := sound.disputes filed (mem_of_find? ofDispute)
  rw [Option.mem_unique found disputedFound]
  exact ended

omit sound in
theorem LedgerSound.opened (free : Int) : LedgerSound (State.opened free) := by
  constructor <;> exact List.forall_mem_nil _

theorem LedgerSound.setJob {job : JobId} {changed : Job} (found : s.jobs.find? job = some row)
    (changedSound : JobSound changed) (sameJob : changed.job = row.job)
    (kept : row.status.live = false → changed.status.live = false) :
    LedgerSound { s with balanceMicros := balance, jobs := s.jobs.set changed } where
  jobs := forall_set sound.jobs changedSound
  contracts := sound.contracts
  disputes := sound.disputes.set found sameJob kept

theorem LedgerSound.setContract {changed : Contract} (changedSound : ContractSound changed) :
    LedgerSound
      { s with balanceMicros := balance, contracts := s.contracts.set changed } where
  __ := sound
  contracts := forall_set sound.contracts changedSound

end

theorem JobSound.submitted (job : JobId) (prepaid : Bool) (plan : Plan) :
    JobSound (Job.submitted job prepaid plan) where
  tasks := List.forall_mem_nil _
  priced := List.forall_mem_nil _
  counted := Nat.zero_le _
  premiumCharge_eq := rfl
  premiumDebit_eq := by cases prepaid <;> rfl
  premiumRefunds_eq := List.forall_mem_nil _
  slaRefund_le := nofun
  slaRefund_decided := fun _ => rfl

section

variable (sound : JobSound row)

include sound

theorem JobSound.no_premiumRefunds
    (uncharged : row.premiumCharge = none) : row.premiumRefunds = [] := by
  apply List.eq_nil_iff_forall_not_mem.mpr
  intro refund mem
  have charged := sound.premiumRefunds_eq refund mem
  rw [uncharged] at charged
  cases charged

theorem JobSound.uncharged_of_live (live : row.status.live = true) : row.premiumCharge = none := by
  rw [sound.premiumCharge_eq, if_neg]
  intro complete
  rw [complete] at live
  cases live

theorem JobSound.settleTask {task : TaskId} (fresh : row.tasks.find? task = none) (pos : 0 < charge)
    (priced : charge ≤ row.plan.perTaskMicros) (room : row.tasks.rows.length < row.plan.taskLimit)
    (debitEq : debit = if row.prepaidRequired then some charge else none) :
    JobSound
      { row with tasks := row.tasks.insert ⟨task, charge, debit, none, none⟩ fresh } := by
  refine { sound with tasks := ?_, priced := ?_, counted := ?_ }
  · exact forall_insert fresh sound.tasks ⟨pos, debitEq, by simp, by simp⟩
  · exact forall_insert fresh sound.priced priced
  · simp only [Table.insert, List.length_append, List.length_singleton]
    omega

theorem JobSound.finalize (live : row.status.live = true)
    (debitEq :
      debit = if row.prepaidRequired then row.plan.premiumCharge else none) :
    JobSound
      { row with
        status := .complete
        premiumCharge := row.plan.premiumCharge
        premiumDebit := debit } := by
  have uncharged := sound.uncharged_of_live live
  refine { sound with
    premiumCharge_eq := (if_pos rfl).symm, premiumDebit_eq := debitEq,
    premiumRefunds_eq := ?_, slaRefund_le := ?_ }
  · intro refund mem
    rw [sound.no_premiumRefunds uncharged] at mem
    cases mem
  · intro refund mem
    have bounds := sound.slaRefund_le refund mem
    rw [uncharged, micros_none] at bounds
    omega

end

theorem JobSound.slaMissed {refund : Int} {returned : Option Int}
    (sound : JobSound row) (complete : row.status = .complete)
    (refundEq :
      refund = slaRefundAmount row.plan.premiumMicros row.chargeableMicros)
    (pos : 0 < refund) :
    JobSound
      { row with slaMet := some false, slaRefund := some refund, balanceReturn := returned } := by
  refine { sound with slaRefund_le := ?_, slaRefund_decided := nofun }
  intro amount mem
  rw [← Option.some.inj mem]
  refine ⟨pos, ?_⟩
  have bound : slaRefundAmount row.plan.premiumMicros row.chargeableMicros ≤
      max 0 row.plan.premiumMicros := by
    rw [slaRefundAmount]
    split_ifs <;> omega
  have charged : row.premiumCharge = some row.plan.premiumMicros := by
    rw [sound.premiumCharge_eq, if_pos complete, Plan.premiumCharge, if_pos (by omega)]
  rw [charged, micros_some]
  omega

theorem ContractSound.settle {row : Contract} (sound : ContractSound row)
    (executing : row.state = .executing)
    (debited : maybeDebitPrepaidForRealtime s charge = .ok (debit, balance)) :
    ContractSound { row with state := .verified, charge := some charge, debit } := by
  obtain ⟨pos, _, _, _⟩ := maybeDebitPrepaidForRealtime_ok debited
  have bounds := prepaidResidualMicros_bounds s.freeMicros (s.spentMicros + charge) charge pos
  have unsettled := sound.unsettled (by rw [executing]; decide)
  refine { sound with
    debit_nonneg := ?_, debit_le := ?_, unsettled := fun notVerified => absurd rfl notVerified,
    refund_eq := .inl ?_ }
  · show 0 ≤ micros debit
    omega
  · show micros debit ≤ micros (some charge)
    rw [micros_some]
    omega
  · rcases sound.refund_eq with noRefund | ⟨refund, restore⟩
    · exact noRefund
    · exact ⟨refund.trans unsettled.1, restore.trans unsettled.2⟩

theorem step_ledgerSound (sound : LedgerSound s)
    (ran : step s event = .ok next) : LedgerSound next := by
  have notEnded : ∀ {row : Job} {changed : Prop},
      row.status.live = true → row.status.live = false → changed := by
    intro row changed live ended
    rw [live] at ended
    cases ended
  cases event with
  | topup =>
    obtain ⟨_, rfl⟩ := creditPrepaidTopup_ok ran
    exact { sound with }
  | submitJob =>
    obtain ⟨_, fresh, rfl⟩ := submitJob_ok ran
    exact ⟨forall_insert fresh sound.jobs (JobSound.submitted _ _ _),
      sound.contracts, sound.disputes.insert fresh⟩
  | settleTask =>
    obtain ⟨row, debit, fresh, found, live, pos, priced, room, debitEq,
      _, rfl⟩ := settleTask_ok ran
    exact sound.setJob found ((sound.job found).settleTask fresh pos priced room debitEq) rfl
      (notEnded live)
  | finalizeJob =>
    rcases finalizeJob_ok ran with ⟨rfl, _⟩ | ⟨row, debit, found, live, debitEq, _, rfl⟩
    · exact sound
    · exact sound.setJob found ((sound.job found).finalize live debitEq) rfl (notEnded live)
  | moveJob job status =>
    obtain ⟨row, found, live, notComplete, rfl⟩ := moveJob_ok ran
    have kept := sound.job found
    have uncharged := kept.uncharged_of_live live
    have moved : JobSound { row with status } := { kept with
      premiumCharge_eq := by
        rw [if_neg notComplete]
        exact uncharged }
    exact sound.setJob found moved rfl (notEnded live)
  | settleJobSLA =>
    rcases settleJobSLA_ok ran with
      rfl | ⟨row, found, complete, undecided, ⟨met, rfl⟩ | ⟨refund, refundEq, pos, _, rfl⟩⟩
    · exact sound
    · have kept := sound.job found
      have decided : JobSound { row with slaMet := some met } :=
        { kept with slaRefund_decided := nofun }
      exact sound.setJob found decided rfl id
    · exact sound.setJob found ((sound.job found).slaMissed complete refundEq pos) rfl id
  | fileDispute =>
    obtain ⟨row, found, ended, fresh, rfl⟩ := fileDispute_ok ran
    exact ⟨sound.jobs, sound.contracts, forall_insert fresh sound.disputes ⟨row, found, ended⟩⟩
  | resolveDispute =>
    obtain ⟨filed, ofDispute, disputes, marked, written⟩ := resolveDispute_ok ran
    have resolved : LedgerSound { s with disputes } := by
      rcases marked with rfl | rfl
      · exact sound
      · have ofJob := sound.disputes filed (mem_of_find? ofDispute)
        exact { sound with disputes := forall_set sound.disputes ofJob }
    rcases written with rfl | ⟨row, upheld, _, _, found, outcome, rfl⟩
    · exact resolved
    · have upheldSound := (sound.job found).uphold outcome
      have sameRow := (upholdJob_ok outcome).1
      exact resolved.setJob found upheldSound (by rw [sameRow]) (by rw [sameRow]; exact id)
  | authorizeRealtime =>
    obtain ⟨_, _, fresh, rfl⟩ := authorizeRealtime_ok ran
    refine ⟨sound.jobs, forall_insert fresh sound.contracts ?_, sound.disputes⟩
    refine
      { hold_nonneg := ?_, debit_nonneg := le_rfl,
        debit_le := le_rfl, unsettled := fun _ => ⟨rfl, rfl⟩,
        refund_eq := .inl ⟨rfl, rfl⟩ }
    simp only [ceilNanosToMicros]
    omega
  | settleRealtime =>
    obtain ⟨row, debit, _, found, executing, _, debited, rfl⟩ := settleRealtime_ok ran
    exact sound.setContract ((sound.contract found).settle executing debited)
  | failRealtime =>
    obtain ⟨row, found, executing, rfl⟩ := failRealtime_ok ran
    have kept := sound.contract found
    have failed : ContractSound { row with state := .failed } :=
      { kept with unsettled := fun _ => kept.unsettled (by rw [executing]; decide) }
    exact sound.setContract failed
  | refundRealtime =>
    obtain ⟨row, found, _, _, rfl⟩ := refundRealtime_ok ran
    have kept := sound.contract found
    have refunded : ContractSound { row with refund := row.charge, restore := row.debit } :=
      { kept with refund_eq := .inr ⟨rfl, rfl⟩ }
    exact sound.setContract refunded

end

/-! ## What a step does to the jobs -/

/-- The changes of a job that no refund is part of. -/
inductive JobStep : Job → Job → Prop where
  | settleTask {row : Job} (task : TaskId) (charge : Int)
      (debit : Option Int) (fresh : row.tasks.find? task = none)
      (live : row.status.live = true) (positive : 0 < charge) :
      JobStep row { row with tasks := row.tasks.insert ⟨task, charge, debit, none, none⟩ fresh }
  | finalize {row : Job} (debit : Option Int) (live : row.status.live = true)
      (debitEq :
        debit = if row.prepaidRequired then row.plan.premiumCharge else none) :
      JobStep row
        { row with
          status := .complete
          premiumCharge := row.plan.premiumCharge
          premiumDebit := debit }
  | move {row : Job} (status : JobStatus) (live : row.status.live = true) :
      JobStep row { row with status }
  | decide {row : Job} (met : Bool) (terminal : row.status.live = false) :
      JobStep row { row with slaMet := some met }

inductive JobWrite (s : State) (event : Event) : Job → Job → Prop
  | steps {row changed : Job} (stepped : JobStep row changed) : JobWrite s event row changed
  | slaMissed {row : Job} {refund : Int} (job : JobId) (span : Option Nat)
      (isEvent : event = .settleJobSLA job span) (found : s.jobs.find? job = some row)
      (complete : row.status = .complete) (undecided : row.slaMet = none)
      (positive : 0 < refund) (due : row.slaRefundDue span) :
      JobWrite s event row
        { row with
          slaMet := some false
          slaRefund := some refund
          balanceReturn := slaBalanceReturn row refund }
  | upheld {row changed : Job} {filed : Dispute} (dispute : DisputeId)
      (isEvent : event = .resolveDispute dispute .upheld)
      (ofDispute : s.disputes.find? dispute = some filed) (unresolved : filed.resolution = none)
      (found : s.jobs.find? filed.job = some row) (outcome : upholdJob row dispute = .ok changed) :
      JobWrite s event row changed

variable {s next : State}

theorem step_writes (ran : step s event = .ok next) : next.jobs = s.jobs ∨
      (event.submits = true ∧ ∃ job prepaid plan fresh,
        next.jobs = s.jobs.insert (Job.submitted job prepaid plan) fresh) ∨
      ∃ row changed, s.jobs.find? changed.job = some row ∧ JobWrite s event row changed ∧
        next.jobs = s.jobs.set changed := by
  have known : ∀ {id : JobId} {row changed : Job}, s.jobs.find? id = some row →
      changed.job = row.job → s.jobs.find? changed.job = some row := by
    intro id row changed found sameJob
    rwa [sameJob, key_of_find? found]
  cases event with
  | topup =>
    obtain ⟨_, rfl⟩ := creditPrepaidTopup_ok ran
    exact .inl rfl
  | submitJob =>
    obtain ⟨_, fresh, rfl⟩ := submitJob_ok ran
    exact .inr (.inl ⟨rfl, _, _, _, fresh, rfl⟩)
  | settleTask =>
    obtain ⟨row, debit, fresh, found, live, pos, _, _, _, _, rfl⟩ := settleTask_ok ran
    refine .inr (.inr ⟨row, _, known found (by rfl), ?_, rfl⟩)
    exact .steps (.settleTask _ _ debit fresh live pos)
  | finalizeJob =>
    rcases finalizeJob_ok ran with ⟨rfl, _⟩ | ⟨row, debit, found, live, debitEq, _, rfl⟩
    · exact .inl rfl
    · refine .inr (.inr ⟨row, _, known found (by rfl), ?_, rfl⟩)
      exact .steps (.finalize debit live debitEq)
  | moveJob =>
    obtain ⟨row, found, live, _, rfl⟩ := moveJob_ok ran
    exact .inr (.inr ⟨row, _, known found (by rfl), .steps (.move _ live), rfl⟩)
  | settleJobSLA job span =>
    rcases settleJobSLA_ok ran with
      rfl | ⟨row, found, complete, undecided, ⟨met, rfl⟩ | ⟨refund, _, pos, due, rfl⟩⟩
    · exact .inl rfl
    · have terminal : row.status.live = false := by
        rw [complete]
        rfl
      exact .inr (.inr ⟨row, _, known found (by rfl), .steps (.decide met terminal), rfl⟩)
    · refine .inr (.inr ⟨row, _, known found (by rfl), ?_, rfl⟩)
      exact .slaMissed job span rfl found complete undecided pos due
  | fileDispute =>
    obtain ⟨_, _, _, _, rfl⟩ := fileDispute_ok ran
    exact .inl rfl
  | resolveDispute dispute =>
    obtain ⟨_, ofDispute, _, _, written⟩ := resolveDispute_ok ran
    rcases written with rfl | ⟨row, changed, unresolved, rfl, found, outcome, rfl⟩
    · exact .inl rfl
    · have sameJob : changed.job = row.job := by rw [(upholdJob_ok outcome).1]
      refine .inr (.inr ⟨row, changed, known found sameJob, ?_, rfl⟩)
      exact .upheld dispute rfl ofDispute unresolved found outcome
  | authorizeRealtime =>
    obtain ⟨_, _, _, rfl⟩ := authorizeRealtime_ok ran
    exact .inl rfl
  | settleRealtime =>
    obtain ⟨_, _, _, _, _, _, _, rfl⟩ := settleRealtime_ok ran
    exact .inl rfl
  | failRealtime =>
    obtain ⟨_, _, _, rfl⟩ := failRealtime_ok ran
    exact .inl rfl
  | refundRealtime =>
    obtain ⟨_, _, _, _, rfl⟩ := refundRealtime_ok ran
    exact .inl rfl

/-- Only a submission adds a job, and no step removes one. -/
theorem step_isSome_find? (submitsNone : event.submits = false) (ran : step s event = .ok next)
    (job : JobId) : (next.jobs.find? job).isSome = (s.jobs.find? job).isSome := by
  rcases step_writes ran with same | ⟨submits, _⟩ | ⟨row, changed, found, _, same⟩
  · rw [same]
  · rw [submits] at submitsNone
    cases submitsNone
  · rw [same]
    exact isSome_find?_set found

/-- Refunds are written only for jobs of which `sla` and `uphold` hold. -/
def RefundsMeet (sla uphold : Job → Prop) (s : State) : Event → Prop
  | .settleJobSLA job span => ∀ row ∈ s.jobs.find? job, row.slaRefundDue span → sla row
  | .resolveDispute dispute .upheld =>
    ∀ filed ∈ s.disputes.find? dispute, filed.resolution = none →
      ∀ row ∈ s.jobs.find? filed.job, uphold row
  | _ => True

instance (sla uphold : Job → Prop) [DecidablePred sla] [DecidablePred uphold]
    (s : State) (event : Event) : Decidable (RefundsMeet sla uphold s event) := by
  unfold RefundsMeet
  split <;> infer_instance

/-- The rule for a property of single jobs: every step keeps it when the
changes of a job do, refunds as far as the condition lets them through. -/
theorem step_jobs {sla uphold good : Job → Prop}
    (submitted : ∀ job prepaid plan, good (Job.submitted job prepaid plan))
    (kept : ∀ row changed, JobSound row → good row → JobStep row changed → good changed)
    (slaMissed : ∀ row refund returned,
      JobSound row → good row → row.status = .complete → row.slaMet = none → 0 < refund → sla row →
          good
            { row with slaMet := some false, slaRefund := some refund, balanceReturn := returned })
    (upheld : ∀ row dispute changed,
      JobSound row → good row → row.status.live = false → uphold row →
        upholdJob row dispute = .ok changed → good changed)
    (sound : LedgerSound s) (all : ∀ job ∈ s.jobs.rows, good job)
    (guarded : RefundsMeet sla uphold s event)
    (ran : step s event = .ok next) :
    ∀ job ∈ next.jobs.rows, good job := by
  rcases step_writes ran with
    same | ⟨_, _, _, _, fresh, same⟩ | ⟨row, changed, found, write, same⟩
  · rw [same]
    exact all
  · rw [same]
    exact forall_insert fresh all (submitted _ _ _)
  · rw [same]
    refine forall_set all ?_
    have rowSound := sound.job found
    have rowGood := all row (mem_of_find? found)
    cases write with
    | steps stepped => exact kept row changed rowSound rowGood stepped
    | slaMissed job span isEvent ofJob complete undecided pos due =>
      subst isEvent
      exact slaMissed row _ _ rowSound rowGood complete undecided pos (guarded row ofJob due)
    | upheld dispute isEvent ofDispute unresolved ofJob outcome =>
      subst isEvent
      have allowed := guarded _ ofDispute unresolved row ofJob
      have ended := sound.disputed_ended ofDispute ofJob
      exact upheld row _ changed rowSound rowGood ended allowed outcome

end MercControl.Money
