import MercControl.Money.LedgerInvariant

/-!
# Admission and settlement of realtime contracts

Admission pools the free grant and the prepaid balance and adds the prepaid
debits back to what was spent.  Settlement charges the grant with all spend.
The two agree when the debits lie within what was spent beyond the grant.
-/

namespace MercControl.Money

open Library Machine Table

/-- For any charge within the hold of an executing contract, the part assigned
to prepaid is within the balance. -/
def ContractsSettle (s : State) : Prop :=
  ∀ contract ∈ s.contracts.rows, contract.state = .executing →
    ∀ charge ≤ contract.holdMicros,
      maybeDebitPrepaidForRealtime s charge ≠ .error .insufficientPrepaid ∧
        (0 < charge →
          prepaidResidualMicros s.freeMicros (s.spentMicros + charge) charge ≤ s.balanceMicros)

/-- No prepaid debit is outstanding, or the grant is used up by spend that
prepaid did not pay for. -/
def DebitsBeyondGrant (s : State) : Prop :=
  s.prepaidDebitedMicros ≤ 0 ∨ s.freeMicros ≤ s.spentMicros - s.prepaidDebitedMicros
  deriving Decidable

/-- Batch jobs are submitted on the prepaid rail. -/
def OnPrepaidRail (_ : State) : Event → Prop
  | .submitJob _ prepaidRequired _ _ => prepaidRequired = true
  | _ => True

instance (s : State) (event : Event) : Decidable (OnPrepaidRail s event) := by
  rcases event with ⟨⟩ <;> unfold OnPrepaidRail <;> infer_instance

def Job.unfundedMicros (job : Job) : Int := job.netSpend - job.netDebit

def Contract.unfundedMicros (contract : Contract) : Int := contract.netSpend - contract.netDebit

variable {row : Job} {contract : ContractId} {charge : Int} {dispute : DisputeId}

theorem Job.residualMicros_nonneg (job : Job) : 0 ≤ job.residualMicros := by
  rw [Job.residualMicros]
  split_ifs
  · exact le_max_left _ _
  · exact le_rfl

theorem JobSound.charges_le (sound : JobSound row) :
    row.tasks.total TaskLedger.charge ≤ row.plan.perTaskMicros * row.plan.taskLimit := by
  have perTask := row.plan.perTask_pos
  have counted : (row.tasks.rows.length : Int) ≤ row.plan.taskLimit :=
    Int.ofNat_le.mpr sound.counted
  calc row.tasks.total TaskLedger.charge
      ≤ row.plan.perTaskMicros * row.tasks.rows.length := total_le_mul_length sound.priced
    _ ≤ row.plan.perTaskMicros * row.plan.taskLimit :=
        Int.mul_le_mul_of_nonneg_left counted (by omega)

section

variable (sound : JobSound row)

include sound

section

variable (prepaid : row.prepaidRequired = true)

include prepaid

theorem JobSound.debits_eq :
    (row.tasks.total fun task => micros task.debit) = row.tasks.total TaskLedger.charge := by
  apply total_congr
  intro task mem
  have debit := (sound.tasks task mem).debit_eq
  rw [prepaid, if_pos rfl] at debit
  rw [debit, micros_some]

theorem JobSound.residualMicros_eq (live : row.status.live = true) :
    row.residualMicros = row.plan.reservedMicros - row.tasks.total TaskLedger.charge ∧
      row.plan.premiumMicros ≤ row.residualMicros := by
  have charges := sound.charges_le
  have premium := row.plan.premium_nonneg
  have uncharged := sound.uncharged_of_live live
  have noDebit : row.premiumDebit = none := by
    rw [sound.premiumDebit_eq, prepaid, if_pos rfl, uncharged]
  have debited : row.debitedMicros = row.tasks.total TaskLedger.charge := by
    rw [Job.debitedMicros, sound.debits_eq prepaid, noDebit, micros_none]
    omega
  have reserved : row.plan.reservedMicros =
      row.plan.perTaskMicros * row.plan.taskLimit + row.plan.premiumMicros :=
    rfl
  have residual : row.residualMicros =
      row.plan.reservedMicros - row.tasks.total TaskLedger.charge := by
    rw [Job.residualMicros, if_pos live, debited]
    exact max_eq_right (by omega)
  exact ⟨residual, by omega⟩

/-- The tasks of a prepaid job are debited in full, so only the premium can
be spend without a debit. -/
theorem JobSound.unfundedMicros_eq : row.unfundedMicros = -totalMicros row.premiumRefunds := by
  have tasks : row.tasks.total TaskLedger.netDebit = row.tasks.total TaskLedger.netSpend := by
    apply total_congr
    intro task mem
    rw [(sound.tasks task mem).netDebit_eq, prepaid, if_pos rfl]
  have premium : row.premiumDebit = row.premiumCharge := by
    rw [sound.premiumDebit_eq, prepaid, if_pos rfl]
  rw [Job.unfundedMicros, Job.netSpend, Job.netDebit, tasks, premium]
  omega

end

theorem JobSound.netDebit_nonneg : 0 ≤ row.netDebit := by
  have tasks : 0 ≤ row.tasks.total TaskLedger.netDebit :=
    total_nonneg fun task mem => (sound.tasks task mem).netDebit_nonneg
  have premium : 0 ≤ micros row.premiumDebit := by
    have charge : 0 ≤ micros row.premiumCharge := sound.premiumCharge_nonneg
    rw [sound.premiumDebit_eq]
    split_ifs
    · exact charge
    · exact le_rfl
  rw [Job.netDebit]
  omega

end

def State.unfundedMicros (s : State) : Int :=
  s.jobs.total Job.unfundedMicros + s.contracts.total Contract.unfundedMicros

section

variable (s : State)

theorem State.unfundedMicros_eq : s.unfundedMicros = s.spentMicros - s.prepaidDebitedMicros := by
  have jobs : s.jobs.total Job.unfundedMicros =
      s.jobs.total Job.netSpend - s.jobs.total Job.netDebit :=
    total_sub _
  have contracts : s.contracts.total Contract.unfundedMicros =
      s.contracts.total Contract.netSpend - s.contracts.total Contract.netDebit :=
    total_sub _
  rw [State.unfundedMicros, State.spentMicros, State.prepaidDebitedMicros]
  omega

theorem State.committedMicros_eq : s.committedMicros =
      s.jobs.total Job.residualMicros + s.contracts.total Contract.heldMicros := by
  have split : s.openPrepaidJobResidualMicros + s.openNonPrepaidJobResidualMicros =
        s.jobs.total Job.residualMicros := by
    rw [State.openPrepaidJobResidualMicros, State.openNonPrepaidJobResidualMicros, ← total_add]
    apply total_congr
    intro job _
    split_ifs <;> omega
  rw [State.committedMicros, split, State.executingCeilingMicros]

theorem State.realtimeCapacityMicros_eq : s.realtimeCapacityMicros =
      s.freeMicros + s.balanceMicros -
        (s.jobs.total Job.unfundedMicros + s.contracts.total Contract.unfundedMicros) -
        (s.jobs.total Job.residualMicros + s.contracts.total Contract.heldMicros) := by
  rw [← State.unfundedMicros, ← State.committedMicros_eq, State.unfundedMicros_eq,
    State.realtimeCapacityMicros]
  omega

end

/-- What every run on the prepaid rail keeps: spend without a debit is within
the grant, commitments within the pooled funds. -/
structure Funded (s : State) : Prop where
  sound : LedgerSound s
  prepaid : ∀ job ∈ s.jobs.rows, job.prepaidRequired = true
  balance_nonneg : 0 ≤ s.balanceMicros
  unfunded_le : s.unfundedMicros ≤ s.freeMicros
  capacity_nonneg : 0 ≤ s.realtimeCapacityMicros

variable {balance : Int} {task : TaskId}

section

variable {s next : State}

theorem Funded.opened (free : Nat) : Funded (State.opened free) where
  sound := LedgerSound.opened free
  prepaid := List.forall_mem_nil _
  balance_nonneg := Int.le_refl 0
  unfunded_le := Int.natCast_nonneg free
  capacity_nonneg := by
    simp [State.realtimeCapacityMicros_eq, State.opened]

/-- A job may change when its spend without debit does not grow and what it
holds and spends moves with the balance. -/
theorem Funded.setJob {job : JobId} {changed : Job} {disputes : Table Dispute.dispute}
    (funded : Funded s) (found : s.jobs.find? job = some row) (sameJob : changed.job = row.job)
    (samePrepaid : changed.prepaidRequired = row.prepaidRequired)
    (sound : LedgerSound
      { s with
        balanceMicros := balance
        jobs := s.jobs.set changed
        disputes }) (nonneg : 0 ≤ balance)
    (unfunded : changed.unfundedMicros ≤ row.unfundedMicros)
    (held :
      changed.unfundedMicros + changed.residualMicros - balance ≤
        row.unfundedMicros + row.residualMicros - s.balanceMicros) :
    Funded
      { s with balanceMicros := balance, jobs := s.jobs.set changed, disputes } := by
  rw [← key_of_find? found, ← sameJob] at found
  have prepaid : row.prepaidRequired = true := funded.prepaid row (mem_of_find? found)
  have unfundedBefore := funded.unfunded_le
  have capacityBefore := funded.capacity_nonneg
  rw [State.realtimeCapacityMicros_eq] at capacityBefore
  rw [State.unfundedMicros] at unfundedBefore
  refine
    { sound, prepaid := forall_set funded.prepaid (samePrepaid.trans prepaid)
      balance_nonneg := nonneg, unfunded_le := ?_, capacity_nonneg := ?_ }
  · rw [State.unfundedMicros]
    simp only [total_set found]
    omega
  · rw [State.realtimeCapacityMicros_eq]
    simp only [total_set found]
    omega

theorem Funded.setContract {row changed : Contract} (funded : Funded s)
    (found : s.contracts.find? contract = some row) (sameContract : changed.contract = row.contract)
    (sound : LedgerSound
      { s with
        balanceMicros := balance
        contracts := s.contracts.set changed }) (nonneg : 0 ≤ balance)
    (unfunded :
      s.unfundedMicros - row.unfundedMicros + changed.unfundedMicros ≤ s.freeMicros)
    (held :
      changed.unfundedMicros + changed.heldMicros - balance ≤
        row.unfundedMicros + row.heldMicros - s.balanceMicros) :
    Funded
      { s with balanceMicros := balance, contracts := s.contracts.set changed } := by
  rw [← key_of_find? found, ← sameContract] at found
  have capacityBefore := funded.capacity_nonneg
  rw [State.realtimeCapacityMicros_eq] at capacityBefore
  rw [State.unfundedMicros] at unfunded
  refine { funded with sound, balance_nonneg := nonneg, unfunded_le := ?_, capacity_nonneg := ?_ }
  · rw [State.unfundedMicros]
    simp only [total_set found]
    omega
  · rw [State.realtimeCapacityMicros_eq]
    simp only [total_set found]
    omega

end

section

variable {s : State} {changed : Job}

theorem Job.residualMicros_of_ended (ended : row.status.live = false) : row.residualMicros = 0 := by
  rw [Job.residualMicros, ended]
  rfl

theorem JobSound.uphold_unfunded (sound : JobSound row) (prepaid : row.prepaidRequired = true)
    (outcome : upholdJob row dispute = .ok changed) :
    changed.unfundedMicros ≤ row.unfundedMicros := by
  have shape := (upholdJob_ok outcome).1
  have changedPrepaid : changed.prepaidRequired = true := by
    rw [shape]
    exact prepaid
  have refunds : changed.premiumRefunds = row.premiumRefunds ++ row.premiumRefundFor dispute := by
    rw [shape]
  have premium := sound.premiumCharge_nonneg
  have more : 0 ≤ totalMicros (row.premiumRefundFor dispute) := by
    apply Rows.sumWhere_nonneg
    intro refund mem _
    have charged := (premiumRefundFor_eq mem).1
    rw [charged, micros_some] at premium
    exact premium
  rw [(sound.uphold outcome).unfundedMicros_eq changedPrepaid,
    sound.unfundedMicros_eq prepaid, refunds, totalMicros_append]
  omega

theorem JobSound.uphold_netDebit (sound : JobSound row)
    (outcome : upholdJob row dispute = .ok changed) : changed.netDebit ≤ row.netDebit := by
  rw [(upholdJob_ok outcome).1]
  simp only [Job.netDebit, total_map]
  have tasks : (row.tasks.total fun task => task.refunded.restored.netDebit) ≤
        row.tasks.total TaskLedger.netDebit := by
    apply total_le_total
    intro task mem
    have taskSound := sound.tasks task mem
    have after : task.refunded.restored.netDebit = 0 := by
      rw [taskSound.upheld, TaskLedger.netDebit]
      exact Int.sub_self _
    rw [after]
    exact taskSound.netDebit_nonneg
  omega

theorem slaBalanceReturn_nonneg {refund : Int} (pos : 0 < refund) :
    0 ≤ micros (slaBalanceReturn row refund) := by
  rw [slaBalanceReturn]
  split
  · exact le_rfl
  · split_ifs
    · exact le_rfl
    · rw [micros_some]
      omega

end

section

variable {s next : State}

section

variable (funded : Funded s)

include funded

theorem Funded.job {job : JobId}
    (found : s.jobs.find? job = some row) : row.prepaidRequired = true :=
  funded.prepaid row (mem_of_find? found)

section

variable (sound : LedgerSound next)

include sound

variable {job : JobId}

theorem Funded.submitJob {card : Bool} {plan : Plan}
    (ran : submitJob s job true card plan = .ok next) : Funded next := by
  obtain ⟨reserved, fresh, rfl⟩ := submitJob_ok ran
  have reservation := reserved rfl
  simp only [reservePrepaidForJob, ite_error_eq_ok, and_true] at reservation
  have residual : (Job.submitted job true plan).residualMicros = plan.reservedMicros := by
    show max 0 (plan.reservedMicros - 0) = plan.reservedMicros
    omega
  have unfunded : (Job.submitted job true plan).unfundedMicros = 0 := rfl
  have noCards : s.openNonPrepaidJobResidualMicros = 0 := by
    apply total_eq_zero
    intro other mem
    rw [funded.prepaid other mem, if_pos rfl]
  have total (amount : Job → Int) :
      (s.jobs.insert (Job.submitted job true plan) fresh).total amount =
        s.jobs.total amount + amount (Job.submitted job true plan) :=
    total_insert fresh
  have unfundedBefore := funded.unfunded_le
  have committedBefore := s.committedMicros_eq
  rw [State.committedMicros, noCards] at committedBefore
  refine { funded with
    sound, prepaid := forall_insert fresh funded.prepaid rfl
    unfunded_le := ?_, capacity_nonneg := ?_ }
  · rw [State.unfundedMicros] at unfundedBefore ⊢
    simp only [total, unfunded]
    omega
  · rw [State.unfundedMicros] at unfundedBefore
    rw [State.realtimeCapacityMicros_eq]
    simp only [total, unfunded, residual]
    omega

theorem Funded.settleTask (ran : settleTask s job task charge = .ok next) : Funded next := by
  obtain ⟨row, debit, fresh, found, live, pos, priced, room, debitEq,
    enough, rfl⟩ := settleTask_ok ran
  have prepaid := funded.job found
  have rowSound := funded.sound.job found
  have changedSound := rowSound.settleTask fresh pos priced room debitEq
  have before := (rowSound.residualMicros_eq prepaid live).1
  have after := (changedSound.residualMicros_eq prepaid live).1
  simp only [total_insert] at after
  have debited : micros debit = charge := by rw [debitEq, prepaid, if_pos rfl, micros_some]
  have covered := enough prepaid
  have unfunded := (changedSound.unfundedMicros_eq prepaid).trans
    (rowSound.unfundedMicros_eq prepaid).symm
  exact funded.setJob found rfl rfl sound (by omega) (by omega) (by omega)

theorem Funded.finalizeJob (ran : finalizeJob s job = .ok next) : Funded next := by
  rcases finalizeJob_ok ran with ⟨rfl, _⟩ | ⟨row, debit, found, live, debitEq, enough, rfl⟩
  · exact funded
  · have prepaid := funded.job found
    have rowSound := funded.sound.job found
    have changedSound := rowSound.finalize live debitEq
    have unfunded := (changedSound.unfundedMicros_eq prepaid).trans
      (rowSound.unfundedMicros_eq prepaid).symm
    have residual := (rowSound.residualMicros_eq prepaid live).2
    have premium := row.plan.premium_nonneg
    have balance := funded.balance_nonneg
    have debited : micros debit ≤ row.plan.premiumMicros := by
      rw [debitEq, prepaid, if_pos rfl, Plan.premiumCharge]
      split_ifs
      · exact le_rfl
      · exact premium
    have covered : micros debit ≤ s.balanceMicros := by
      cases isDebit : debit with
      | none => exact balance
      | some part => exact enough part isDebit
    have released : Job.residualMicros
          { row with
            status := .complete
            premiumCharge := row.plan.premiumCharge
            premiumDebit := debit } = 0 :=
      Job.residualMicros_of_ended rfl
    exact funded.setJob found rfl rfl sound (by omega) (by omega) (by omega)

theorem Funded.moveJob {status : JobStatus}
    (ran : moveJob s job status = .ok next) : Funded next := by
  obtain ⟨row, found, live, _, rfl⟩ := moveJob_ok ran
  have nonneg := row.residualMicros_nonneg
  have residual : Job.residualMicros { row with status } ≤ row.residualMicros := by
    cases stillLive : status.live with
    | false =>
      have released : Job.residualMicros { row with status } = 0 :=
        Job.residualMicros_of_ended stillLive
      omega
    | true =>
      have same : Job.residualMicros { row with status } = row.residualMicros := by
        rw [Job.residualMicros, Job.residualMicros, if_pos stillLive, if_pos live]
        rfl
      omega
  have unfunded : Job.unfundedMicros { row with status } = row.unfundedMicros := rfl
  exact funded.setJob found rfl rfl sound funded.balance_nonneg (by omega) (by omega)

theorem Funded.settleJobSLA {span : Option Nat}
    (ran : settleJobSLA s job span = .ok next) : Funded next := by
  have balance := funded.balance_nonneg
  rcases settleJobSLA_ok ran with
    rfl | ⟨row, found, _, _, ⟨met, rfl⟩ | ⟨refund, _, pos, _, rfl⟩⟩
  · exact funded
  · exact funded.setJob found rfl rfl sound balance le_rfl le_rfl
  · have returned : 0 ≤ micros (slaBalanceReturn row refund) := slaBalanceReturn_nonneg pos
    refine funded.setJob found rfl rfl sound (by omega) le_rfl ?_
    show row.unfundedMicros + row.residualMicros -
        (s.balanceMicros + micros (slaBalanceReturn row refund)) ≤ _
    omega

theorem Funded.resolveDispute {resolution : Resolution}
    (ran : resolveDispute s dispute resolution = .ok next) : Funded next := by
  obtain ⟨_, ofDispute, _, _, written⟩ := resolveDispute_ok ran
  rcases written with rfl | ⟨row, changed, _, _, found, outcome, rfl⟩
  · exact { funded with sound }
  · have rowSound := funded.sound.job found
    have shape := (upholdJob_ok outcome).1
    have ended := funded.sound.disputed_ended ofDispute found
    have changedEnded : changed.status.live = false := by
      rw [shape]
      exact ended
    have before := Job.residualMicros_of_ended ended
    have after := Job.residualMicros_of_ended changedEnded
    have unfunded := rowSound.uphold_unfunded (funded.job found) outcome
    have restored := rowSound.uphold_netDebit outcome
    have balance := funded.balance_nonneg
    exact funded.setJob found (by rw [shape]) (by rw [shape]) sound (by omega) unfunded (by omega)

end

end

theorem LedgerSound.prepaidDebitedMicros_nonneg (sound : LedgerSound s) :
    0 ≤ s.prepaidDebitedMicros := by
  have jobs : 0 ≤ s.jobs.total Job.netDebit :=
    total_nonneg fun job mem => (sound.jobs job mem).netDebit_nonneg
  have contracts : 0 ≤ s.contracts.total Contract.netDebit :=
    total_nonneg fun contract mem => (sound.contracts contract mem).netDebit_nonneg
  rw [State.prepaidDebitedMicros]
  omega

theorem ContractSound.unsettled_rows {row : Contract}
    (sound : ContractSound row) (executing : row.state = .executing) :
    row.charge = none ∧ row.debit = none ∧ row.refund = none ∧ row.restore = none := by
  obtain ⟨noCharge, noDebit⟩ := sound.unsettled (by rw [executing]; decide)
  rcases sound.refund_eq with ⟨noRefund, noRestore⟩ | ⟨refund, restore⟩
  · exact ⟨noCharge, noDebit, noRefund, noRestore⟩
  · exact ⟨noCharge, noDebit, refund.trans noCharge, restore.trans noDebit⟩

theorem covered_le (free spent charge : Int) :
    charge - prepaidResidualMicros free (spent + charge) charge ≤ max 0 (free - spent) := by
  simp only [prepaidResidualMicros]
  split_ifs <;> omega

section

variable (funded : Funded s) (sound : LedgerSound next)

include funded sound

theorem Funded.authorizeRealtime {need : Int}
    (ran : authorizeRealtime s contract need = .ok next) : Funded next := by
  obtain ⟨_, admitted, fresh, rfl⟩ := authorizeRealtime_ok ran
  have total (amount : Contract → Int) :
      (s.contracts.insert
          ⟨contract, ceilNanosToMicros need, .executing, none, none, none,
            none⟩ fresh).total amount =
        s.contracts.total amount +
          amount ⟨contract, ceilNanosToMicros need, .executing, none, none, none, none⟩ :=
    total_insert fresh
  have unfunded := funded.unfunded_le
  rw [State.unfundedMicros] at unfunded
  rw [State.realtimeCapacityMicros_eq] at admitted
  refine { funded with sound, unfunded_le := ?_, capacity_nonneg := ?_ }
  · rw [State.unfundedMicros]
    simp only [total, Contract.unfundedMicros, Contract.netSpend, Contract.netDebit, micros_none]
    omega
  · rw [State.realtimeCapacityMicros_eq]
    simp only [total, Contract.unfundedMicros, Contract.netSpend,
      Contract.netDebit, Contract.heldMicros, micros_none, if_true]
    omega

theorem Funded.settleRealtime
    (ran : settleRealtime s contract charge = .ok next) : Funded next := by
  obtain ⟨row, debit, _, found, executing, _, debited, rfl⟩ := settleRealtime_ok ran
  obtain ⟨_, _, _, _⟩ := maybeDebitPrepaidForRealtime_ok debited
  obtain ⟨noCharge, noDebit, noRefund, noRestore⟩ :=
    (funded.sound.contract found).unsettled_rows executing
  have covered := covered_le s.freeMicros s.spentMicros charge
  have debits := funded.sound.prepaidDebitedMicros_nonneg
  have unfunded := funded.unfunded_le
  have nonneg := funded.balance_nonneg
  have sums := s.unfundedMicros_eq
  have before : row.unfundedMicros = 0 := by
    rw [Contract.unfundedMicros, Contract.netSpend, Contract.netDebit,
      noCharge, noDebit, noRefund, noRestore]
    rfl
  have after :
      Contract.unfundedMicros { row with state := .verified, charge := some charge, debit } =
        charge - micros debit := by
    simp only [Contract.unfundedMicros, Contract.netSpend, Contract.netDebit,
      noRefund, noRestore, micros_some, micros_none]
    omega
  have held : row.heldMicros = row.holdMicros := by rw [Contract.heldMicros, if_pos executing]
  have released :
      Contract.heldMicros { row with state := .verified, charge := some charge, debit } = 0 := rfl
  exact funded.setContract found rfl sound (by omega) (by omega) (by omega)

theorem Funded.failRealtime (ran : failRealtime s contract = .ok next) : Funded next := by
  obtain ⟨row, found, executing, rfl⟩ := failRealtime_ok ran
  have hold := (funded.sound.contract found).hold_nonneg
  have held : row.heldMicros = row.holdMicros := by rw [Contract.heldMicros, if_pos executing]
  have released : Contract.heldMicros { row with state := .failed } = 0 := rfl
  have unfunded := funded.unfunded_le
  have same : Contract.unfundedMicros { row with state := .failed } = row.unfundedMicros := rfl
  exact funded.setContract found rfl sound funded.balance_nonneg (by omega) (by omega)

theorem Funded.refundRealtime {payoutHeld : Bool}
    (ran : refundRealtime s contract payoutHeld = .ok next) : Funded next := by
  obtain ⟨row, found, _, _, rfl⟩ := refundRealtime_ok ran
  have rowSound := funded.sound.contract found
  have debit := rowSound.debit_nonneg
  have before : 0 ≤ row.unfundedMicros := by
    have within := rowSound.netDebit_le
    rw [Contract.unfundedMicros]
    omega
  have after :
      Contract.unfundedMicros { row with refund := row.charge, restore := row.debit } = 0 := by
    simp only [Contract.unfundedMicros, Contract.netSpend, Contract.netDebit]
    omega
  have held : Contract.heldMicros { row with refund := row.charge, restore := row.debit } =
        row.heldMicros := rfl
  have unfunded := funded.unfunded_le
  have nonneg := funded.balance_nonneg
  exact funded.setContract found rfl sound (by omega) (by omega) (by omega)

end

theorem step_funded (s : State) (event : Event) (next : State) (funded : Funded s)
    (onRail : OnPrepaidRail s event) (ran : step s event = .ok next) : Funded next := by
  have sound := step_ledgerSound funded.sound ran
  cases event with
  | topup amount =>
    obtain ⟨_, rfl⟩ := creditPrepaidTopup_ok ran
    have balance := funded.balance_nonneg
    have capacity := funded.capacity_nonneg
    rw [State.realtimeCapacityMicros_eq] at capacity
    refine ⟨sound, funded.prepaid, ?_, funded.unfunded_le, ?_⟩
    · show 0 ≤ s.balanceMicros + amount
      omega
    · rw [State.realtimeCapacityMicros_eq]
      dsimp only
      omega
  | submitJob job prepaid =>
    have isPrepaid : prepaid = true := onRail
    subst isPrepaid
    exact funded.submitJob sound ran
  | settleTask => exact funded.settleTask sound ran
  | finalizeJob => exact funded.finalizeJob sound ran
  | moveJob => exact funded.moveJob sound ran
  | settleJobSLA => exact funded.settleJobSLA sound ran
  | fileDispute =>
    obtain ⟨_, _, _, _, rfl⟩ := fileDispute_ok ran
    exact { funded with sound }
  | resolveDispute => exact funded.resolveDispute sound ran
  | authorizeRealtime => exact funded.authorizeRealtime sound ran
  | settleRealtime => exact funded.settleRealtime sound ran
  | failRealtime => exact funded.failRealtime sound ran
  | refundRealtime => exact funded.refundRealtime sound ran

end

section

variable {s : State}

/-- A charge within the pooled funds is covered when no debit was counted as
room the grant does not have. -/
theorem residual_le_of_debitsBeyondGrant (funded : Funded s) (beyond : DebitsBeyondGrant s)
    (within : charge ≤ s.realtimeCapacityMicros + s.committedMicros) :
    prepaidResidualMicros s.freeMicros (s.spentMicros + charge) charge ≤ s.balanceMicros := by
  have balance := funded.balance_nonneg
  rw [State.realtimeCapacityMicros] at within
  rw [DebitsBeyondGrant] at beyond
  simp only [prepaidResidualMicros]
  split_ifs <;> omega

theorem Funded.contractsSettle (funded : Funded s)
    (beyond : DebitsBeyondGrant s) : ContractsSettle s := by
  intro contract mem executing charge below
  have holds : contract.heldMicros ≤ s.contracts.total Contract.heldMicros := by
    apply total_le_of_mem _ mem
    intro other otherMem
    have nonneg := (funded.sound.contracts other otherMem).hold_nonneg
    rw [Contract.heldMicros]
    split_ifs
    · exact nonneg
    · exact le_rfl
  have residuals : 0 ≤ s.jobs.total Job.residualMicros :=
    total_nonneg fun job _ => job.residualMicros_nonneg
  have capacity := funded.capacity_nonneg
  have committed := s.committedMicros_eq
  rw [Contract.heldMicros, if_pos executing] at holds
  have enough : 0 < charge → prepaidResidualMicros s.freeMicros (s.spentMicros + charge) charge ≤
        s.balanceMicros := fun _ =>
    residual_le_of_debitsBeyondGrant funded beyond (by omega)
  refine ⟨?_, enough⟩
  simp only [maybeDebitPrepaidForRealtime]
  split_ifs
  · simp
  · simp
  · omega
  · simp

/-- The condition is exact: when nothing is committed, every hold that would
be admitted can be settled in full only under it. -/
theorem admitted_settle_iff (funded : Funded s)
    (idle : s.committedMicros = 0) (room : 0 < s.realtimeCapacityMicros) :
    (∀ hold ≤ s.realtimeCapacityMicros, ∀ charge ≤ hold, 0 < charge →
      prepaidResidualMicros s.freeMicros (s.spentMicros + charge) charge ≤
        s.balanceMicros) ↔ DebitsBeyondGrant s := by
  constructor
  · intro settles
    have whole := settles s.realtimeCapacityMicros le_rfl s.realtimeCapacityMicros le_rfl room
    have capacity : s.realtimeCapacityMicros = s.freeMicros + s.balanceMicros - s.spentMicros +
          s.prepaidDebitedMicros - s.committedMicros := rfl
    rw [DebitsBeyondGrant]
    simp only [prepaidResidualMicros] at whole
    split_ifs at whole <;> omega
  · intro beyond hold admitted charge below _
    exact residual_le_of_debitsBeyondGrant funded beyond (by omega)

end

/-- On the prepaid rail, in every state in which the debits lie beyond the
grant, every admitted contract settles. -/
theorem admitted_contracts_settle (free : Nat) (events : List Event)
    (onRail : Meets step OnPrepaidRail (State.opened free) events)
    (beyond : DebitsBeyondGrant (run step (State.opened free) events)) :
    ContractsSettle (run step (State.opened free) events) :=
  (invariant_run step_funded (Funded.opened free) onRail).contractsSettle beyond

private def fiftyPlan : Plan where
  perTaskMicros := 50
  taskLimit := 1
  premiumMicros := 0
  slaGuaranteeSecs := 0
  firmMicros := none
  perTask_pos := by decide
  premium_nonneg := Int.natCast_nonneg 0

/-- A first contract uses up the grant of 10 micros before a prepaid job is
charged; a second one then holds the 50 left. -/
def grantFirstRun : List Event :=
  [.topup 100, .authorizeRealtime 1 10000, .settleRealtime 1 10] ++
    completedJob 1 true fiftyPlan 50 ++ [.authorizeRealtime 2 50000]

theorem grantFirstRun_contracts_settle :
    Meets step OnPrepaidRail (State.opened (10 : Nat)) grantFirstRun ∧
      DebitsBeyondGrant (run step (State.opened (10 : Nat)) grantFirstRun) ∧
      ContractsSettle (run step (State.opened (10 : Nat)) grantFirstRun) :=
  have onRail : Meets step OnPrepaidRail (State.opened (10 : Nat)) grantFirstRun := by
    decide
  have beyond : DebitsBeyondGrant (run step (State.opened (10 : Nat)) grantFirstRun) := by
    decide
  ⟨onRail, beyond, admitted_contracts_settle 10 grantFirstRun onRail beyond⟩

/-- The prepaid job is charged first: admission counts the grant of 10 micros
and holds 60, settlement finds the grant spent and a balance of 50. -/
def prepaidFirstRun : List Event :=
  [.topup 100] ++ completedJob 1 true fiftyPlan 50 ++ [.authorizeRealtime 1 60000]

theorem prepaidFirstRun_contract_does_not_settle :
    ¬ ContractsSettle (run step (State.opened (10 : Nat)) prepaidFirstRun) := by
  intro settles
  have admitted : (⟨1, 60, .executing, none, none, none, none⟩ : Contract) ∈
        (run step (State.opened (10 : Nat)) prepaidFirstRun).contracts.rows := by
    decide
  have whole := (settles _ admitted rfl 60 (by decide)).2 (by decide)
  revert whole
  decide

end MercControl.Money
