import MercControl.Card.AmountSteps
import MercControl.Money.EndedJobs

/-!
# Where the amounts of a charge come from

An actual charge is the charge of a job that ended, the amount of a call is
such a charge without the refund and the debits it read, and a batch is the sum
of what its members are billed.
-/

namespace MercControl.Card

open Library Table
open Money (JobId micros)

/-- The amount is the final charge of the job without its debits and the part
`refunded` of its SLA refund. -/
def Priced (ledger : Money.State) (job : JobId) (amount refunded : Int) : Prop :=
  ledger.jobs.Holds job fun row =>
    row.status.live = false ∧ amount = row.chargeableMicros - refunded - row.debitedMicros ∧
      refunded ≤ micros row.slaRefund

/-- `actual_usd` is unset or the charge of the job, which ended. -/
def ActualSound (ledger : Money.State) (row : JobCharge) : Prop :=
  row.actualMicros = 0 ∨
    ledger.jobs.Holds row.job fun job =>
      job.status.live = false ∧ row.actualMicros = job.chargedMicros

variable {job : JobId} {batch : BatchId}

section

variable {row : JobCharge} {job : Money.Job} {ledger : Money.State}

theorem firmCapped_zero (firm : Option Int) : firmCapped firm 0 = 0 := by
  cases firm with
  | none => rfl
  | some =>
    rw [firmCapped, if_neg]
    omega

def netCharge (row : JobCharge) (job : Money.Job) : Int :=
  firmCapped job.plan.firmMicros row.actualMicros - micros job.slaRefund - job.debitedMicros

theorem jobChargeInfo_of_pos (sound : Money.JobSound job) (pos : 0 < jobChargeInfo row job) :
    jobChargeInfo row job = netCharge row job := by
  have refund := sound.slaRefund_nonneg
  have debits := sound.debitedMicros_nonneg
  rw [jobChargeInfo, netCharge] at *
  split_ifs at * <;> omega

theorem ActualSound.priced (actual : ActualSound ledger row)
    (found : ledger.jobs.find? row.job = some job)
    (sound : Money.JobSound job) (pos : 0 < netCharge row job) :
    Priced ledger row.job (netCharge row job) (micros job.slaRefund) := by
  rcases actual with unset | ⟨other, isOther, ended, isCharge⟩
  · have refund := sound.slaRefund_nonneg
    have debits := sound.debitedMicros_nonneg
    rw [netCharge, unset, firmCapped_zero] at pos
    omega
  · obtain rfl := Option.mem_unique found isOther
    refine ⟨job, found, ended, ?_, le_rfl⟩
    rw [netCharge, isCharge, Money.Job.chargeableMicros]
    cases job.plan.firmMicros with
    | none | some => rfl

theorem Books.dueMicros_of_pos {b : Books} (pos : 0 < b.dueMicros row) :
    ∃ job, b.ledger.jobs.find? row.job = some job ∧ b.dueMicros row = netCharge row job := by
  rw [Books.dueMicros] at pos ⊢
  rcases found : b.ledger.jobs.find? row.job with _ | job
  · simp [found] at pos
  simp only [found] at pos
  refine ⟨job, rfl, ?_⟩
  dsimp only
  rw [firmChargeAmount, netCharge] at *
  omega

end

def LedgerMoves (before after : Money.State) : Prop :=
  after = before ∨ ∃ event, Money.step before event = .ok after

section

variable {before after : Money.State}

variable (moves : LedgerMoves before after) (ledger : Money.LedgerSound before)

include moves ledger

theorem LedgerMoves.sound : Money.LedgerSound after := by
  rcases moves with rfl | ⟨event, ran⟩
  · exact ledger
  · exact Money.step_ledgerSound ledger ran

theorem LedgerMoves.holds {good : Money.Job → Prop}
    (stable : ∀ row next, Money.StaysEnded row next → good row → good next)
    (holds : before.jobs.Holds job fun row => row.status.live = false ∧ good row) :
    after.jobs.Holds job fun row => row.status.live = false ∧ good row := by
  rcases moves with rfl | ⟨event, ran⟩
  · exact holds
  · obtain ⟨row, found, ended, isGood⟩ := holds
    obtain ⟨next, isNext, stays⟩ := Money.step_ended ledger ⟨row, found, .refl ended⟩ ran
    exact ⟨next, isNext, stays.ended, stable row next stays isGood⟩

theorem LedgerMoves.priced {amount refunded : Int} (priced : Priced before job amount refunded) :
    Priced after job amount refunded := by
  refine moves.holds ledger ?_ priced
  intro row next stays isPriced
  rw [Money.Job.chargeableMicros, stays.firm, stays.charged, stays.debited]
  exact ⟨isPriced.1, Int.le_trans isPriced.2 stays.refund_le⟩

theorem LedgerMoves.actual {row : JobCharge} (actual : ActualSound before row) :
    ActualSound after row := by
  refine actual.imp_right (moves.holds ledger ?_)
  intro job next stays isCharge
  rw [stays.charged]
  exact isCharge

end

def SameActual (before after : JobCharge) : Prop :=
  after.job = before.job ∧ after.actualMicros = before.actualMicros

variable {begins bumps : Books → Source → Prop} {config : Config}

section

variable {b next : Books}

def ActualsSound (b : Books) : Prop := ∀ row ∈ b.jobs.rows, ActualSound b.ledger row

theorem ActualsSound.mapped (actuals : ActualsSound b) (sameLedger : next.ledger = b.ledger)
    (mapped : Table.Mapped SameActual b.jobs next.jobs) : ActualsSound next := by
  intro row mem
  obtain ⟨before, inJobs, sameJob, sameAmount⟩ := mapped.exists_before mem
  rw [ActualSound, sameLedger, sameJob, sameAmount]
  exact actuals before inJobs

theorem ActualsSound.setActual {amount : Money.Job → Int} (actuals : ActualsSound b)
    (isCharge : b.ledger.jobs.Holds job fun row =>
      row.status.live = false ∧ amount row = row.chargedMicros) :
    ActualsSound (setActual b job amount) := by
  obtain ⟨ledgerRow, found, ended, charged⟩ := isCharge
  simp only [Card.setActual, found]
  refine forall_update ?_ ?_
  · intro row mem chosen
    have isJob : row.job = job := beq_iff_eq.mp chosen
    refine .inr ⟨ledgerRow, ?_, ended, charged⟩
    show b.ledger.jobs.find? row.job = some ledgerRow
    rw [isJob]
    exact found
  · intro row mem _
    exact actuals row mem

theorem ActualsSound.setJobActualUSD (actuals : ActualsSound b)
    (ran : setJobActualUSD b job = .ok next) : ActualsSound next := by
  rw [Card.setJobActualUSD] at ran
  rcases found : b.ledger.jobs.find? job with _ | row
  · simp [found] at ran
  simp only [found] at ran
  split_ifs at ran with cancelled
  rw [← Except.ok.inj ran]
  refine actuals.setActual ⟨row, found, ?_, rfl⟩
  rw [cancelled]
  rfl

theorem moveJob_failed {s after : Money.State} (sound : Money.LedgerSound s)
    (ran : Money.moveJob s job .failed = .ok after) :
    after.jobs.Holds job fun row =>
      row.status.live = false ∧ row.tasks.total Money.TaskLedger.charge = row.chargedMicros := by
  obtain ⟨row, found, live, _, rfl⟩ := Money.moveJob_ok ran
  have isJob : row.job = job := key_of_find? found
  rw [← isJob] at found
  have unpremium := (sound.job found).uncharged_of_live live
  rw [← isJob]
  refine ⟨_, find?_set_self found, rfl, ?_⟩
  rw [Money.Job.chargedMicros, unpremium, micros, Option.getD_none, Int.add_zero]

theorem ActualsSound.applyLedger {event : Money.Event} (sound : Money.LedgerSound b.ledger)
    (actuals : ActualsSound b) (ran : applyLedger b event = .ok next) : ActualsSound next := by
  rw [Card.applyLedger] at ran
  rcases outcome : Money.step b.ledger event with _ | ledger
  · simp [outcome] at ran
  simp only [outcome, Except.ok.injEq] at ran
  subst ran
  have moves : LedgerMoves b.ledger ledger := .inr ⟨event, outcome⟩
  have kept : ActualsSound { b with ledger } :=
    fun row mem => moves.actual sound (actuals row mem)
  cases event with
  | submitJob =>
    rw [recordLedgerEvent]
    split_ifs with fresh
    · exact forall_insert fresh kept (.inl rfl)
    · exact kept
  | finalizeJob =>
    refine kept.setActual ?_
    obtain ⟨row, found, complete⟩ := Money.finalizeJob_complete outcome
    refine ⟨row, found, ?_, rfl⟩
    rw [complete]
    rfl
  | moveJob job status =>
    cases status with
    | failed => exact kept.setActual (moveJob_failed sound outcome)
    | _ => exact kept
  | _ => exact kept

theorem freezeChargeAmount_eq (b : Books) (job : JobId) (amount : Int) :
    freezeChargeAmount b job amount = .ok { b with
      jobs := b.jobs.update (fun row => row.job == job && row.frozenMicros.isNone)
        (JobCharge.freeze amount) } := by
  apply changeJobs_of_legal
  intro row _ _
  simp [JobCharge.freeze, mayBecome]

theorem ActualsSound.transaction {kind : Kind} (sound : Money.LedgerSound b.ledger)
    (actuals : ActualsSound b) (made : Transaction begins bumps b kind next) :
    LedgerMoves b.ledger next.ledger ∧ ActualsSound next := by
  have collects : kind = .collect → LedgerMoves b.ledger next.ledger ∧ ActualsSound next := by
    rintro rfl
    have keeps := made.keeps
    exact ⟨.inl keeps.ledger,
      actuals.mapped keeps.ledger (keeps.jobs.mono fun _ _ kept => ⟨kept.job, kept.actual⟩)⟩
  cases made with
  | ledger event ran =>
    refine ⟨?_, actuals.applyLedger sound ran⟩
    obtain ⟨ledger, outcome, written⟩ := applyLedger_ok ran
    have sameLedger : next.ledger = ledger := by
      rcases written with ⟨_, _, rfl⟩ | ⟨_, _, rfl⟩
      · rfl
      · rfl
    rw [sameLedger]
    exact .inr ⟨event, outcome⟩
  | actual job ran =>
    refine ⟨.inl ?_, actuals.setJobActualUSD ran⟩
    obtain ⟨_, _, rfl⟩ := setJobActualUSD_changes ran
    rfl
  | freeze job amount ran =>
    rw [freezeChargeAmount_eq] at ran
    cases ran
    refine ⟨.inl rfl, actuals.mapped rfl ?_⟩
    exact .update (fun _ => ⟨rfl, rfl⟩) fun _ _ _ => ⟨rfl, rfl⟩
  | form batch ran =>
    obtain ⟨_, _, rfl⟩ := formChargeBatch_ok ran
    refine ⟨.inl rfl, actuals.mapped rfl ?_⟩
    exact .update (fun _ => ⟨rfl, rfl⟩) fun _ _ _ => ⟨rfl, rfl⟩
  | _ => exact collects rfl

end

structure PricesSound (s : State) : Prop where
  ledger : Money.LedgerSound s.books.ledger
  actuals : ActualsSound s.books
  calls : ∀ process call, s.calls process = some call →
    call.phase.early = true →
      ∃ job, call.source = .job job ∧
        Priced s.books.ledger job call.amountMicros call.slaRefundMicros

theorem PricesSound.opened (free : Int) : PricesSound (.opened free) where
  ledger := Money.LedgerSound.opened free
  actuals := nofun
  calls := nofun

theorem PricesSound.step {s next : State} {event : Event}
    (sound : PricesSound s) (ran : step config s event = .ok next) : PricesSound next := by
  obtain ⟨moves, actuals⟩ :
      LedgerMoves s.books.ledger next.books.ledger ∧ ActualsSound next.books := by
    rcases step_transaction (conditions_trivial s event) ran with same | made
    · rw [same]
      exact ⟨.inl rfl, sound.actuals⟩
    · exact sound.actuals.transaction sound.ledger made
  refine ⟨moves.sound sound.ledger, actuals, ?_⟩
  intro process call found early
  rcases step_continues ran found early with
    ⟨phase, wasEarly, wasThere⟩ | ⟨job, row, ledgerRow, _, isRow, isLedgerRow, pos, rfl⟩
  · obtain ⟨job, ofSource, priced⟩ := sound.calls process _ wasThere wasEarly
    exact ⟨job, ofSource, moves.priced sound.ledger priced⟩
  · have rowSound := sound.ledger.job isLedgerRow
    have isJob : row.job = job := key_of_find? isRow
    have isNet := jobChargeInfo_of_pos rowSound pos
    rw [isNet] at pos ⊢
    have actual := sound.actuals row (mem_of_find? isRow)
    rw [← isJob] at isLedgerRow
    have priced := actual.priced isLedgerRow rowSound pos
    rw [isJob] at priced
    exact ⟨job, rfl, moves.priced sound.ledger priced⟩

def JobCharge.share (batch : BatchId) (row : JobCharge) : Int :=
  if row.batch = some batch then micros row.billedMicros else 0

def BatchesAddUp (b : Books) : Prop :=
  ∀ row ∈ b.batches.rows, row.amountMicros = b.jobs.total (JobCharge.share row.batch)

def MembersBilled (b : Books) : Prop :=
  ∀ row ∈ b.jobs.rows, ∀ batch ∈ row.batch,
    row.billedMicros.isSome = true ∧ b.batches.Holds batch fun _ => True

structure BatchesSound (b : Books) : Prop where
  members : MembersBilled b
  sums : BatchesAddUp b

def SameShare (before after : JobCharge) : Prop :=
  after.batch = before.batch ∧
    (before.billedMicros.isSome → after.billedMicros = before.billedMicros)

section

variable {b next : Books}

section

variable (sound : BatchesSound b)

include sound

theorem BatchesSound.mapped (jobs : Table.Mapped SameShare b.jobs next.jobs)
    (batches : Table.Mapped Batch.SameAmount b.batches next.batches) : BatchesSound next := by
  constructor
  · intro row mem batch joined
    obtain ⟨before, inJobs, sameBatch, sameBilled⟩ := jobs.exists_before mem
    rw [sameBatch] at joined
    obtain ⟨billed, isThere⟩ := sound.members before inJobs batch joined
    refine ⟨?_, batches.holds isThere fun _ _ _ => id⟩
    rw [sameBilled billed]
    exact billed
  · intro row mem
    obtain ⟨before, inBatches, sameBatch, sameAmount⟩ := batches.exists_before mem
    rw [sameBatch, sameAmount, sound.sums before inBatches]
    symm
    apply jobs.total
    intro old inJobs new ⟨sameMem, sameBilled⟩
    rw [JobCharge.share, JobCharge.share, sameMem]
    split_ifs with joined
    · rw [sameBilled (sound.members old inJobs before.batch joined).1]
    · rfl

theorem BatchesSound.moves (moved : ChangesJobs RowMove b next) : BatchesSound next := by
  obtain ⟨_, mapped, rfl⟩ := moved
  exact sound.mapped (mapped.mono fun _ _ move => ⟨move.batch, move.billed⟩)
      (.refl Batch.SameAmount.refl _)

theorem BatchesSound.applyLedger {event : Money.Event}
    (ran : applyLedger b event = .ok next) : BatchesSound next := by
  obtain ⟨ledger, _, written⟩ := applyLedger_ok ran
  have soundLedger : BatchesSound { b with ledger } := ⟨sound.members, sound.sums⟩
  rcases written with changed | ⟨job, fresh, rfl⟩
  · exact soundLedger.moves (changed.mono fun _ _ => ActualChange.move)
  · refine ⟨forall_insert fresh sound.members nofun, ?_⟩
    intro row mem
    refine (sound.sums row mem).trans (Eq.symm ?_)
    exact (total_insert fresh).trans (Int.add_zero _)

theorem total_share_formed (fresh : b.batches.find? batch = none) :
    (b.jobs.update (fun row => b.batchCandidates.any (·.job == row.job))
        (JobCharge.joinBatch batch b.dueMicros)).total
      (JobCharge.share batch) = b.batchMicros := by
  have taken : b.batchCandidates.Sublist b.jobs.rows :=
    (List.take_sublist _ _).trans List.filter_sublist
  rw [Books.batchMicros, ← Rows.sumWhere_sublist taken b.jobs.distinct,
    ← Rows.sumWhere_ite, Table.update, total_map]
  apply total_congr
  intro row mem
  simp only [Table.Change.where]
  split_ifs
  · simp [JobCharge.share, JobCharge.joinBatch]
  · rw [JobCharge.share, if_neg]
    intro joined
    obtain ⟨_, _, isOther, _⟩ := sound.members row mem batch joined
    rw [fresh] at isOther
    cases isOther

omit sound in
theorem total_share_others {other : BatchId} (ne : batch ≠ other) :
    (b.jobs.update (fun row => b.batchCandidates.any (·.job == row.job))
        (JobCharge.joinBatch batch b.dueMicros)).total
      (JobCharge.share other) = b.jobs.total (JobCharge.share other) := by
  rw [Table.update, total_map]
  apply total_congr
  intro row mem
  simp only [Table.Change.where]
  split_ifs with chosen
  · have unjoined := (mem_batchCandidates (candidate_of_any mem chosen)).2.2.1
    simp [JobCharge.share, JobCharge.joinBatch, unjoined, ne]
  · rfl

theorem BatchesSound.formChargeBatch
    (ran : formChargeBatch b batch = .ok next) : BatchesSound next := by
  obtain ⟨fresh, _, rfl⟩ := formChargeBatch_ok ran
  constructor
  · refine forall_update ?_ ?_
    · intro row mem chosen joined isJoined
      obtain rfl := Option.some.inj isJoined
      exact ⟨rfl, _, find?_insert_self fresh, trivial⟩
    · intro row mem _ joined isJoined
      obtain ⟨billed, isThere⟩ := sound.members row mem joined isJoined
      exact ⟨billed, isThere.insert fresh⟩
  · refine forall_insert fresh ?_ (total_share_formed sound fresh).symm
    intro row mem
    have ne : batch ≠ row.batch := by
      intro same
      have found := find?_of_mem mem
      rw [← same, fresh] at found
      cases found
    rw [total_share_others ne]
    exact sound.sums row mem

theorem BatchesSound.transaction {kind : Kind}
    (made : Transaction begins bumps b kind next) : BatchesSound next := by
  have collects : kind = .collect → BatchesSound next := by
    rintro rfl
    have keeps := made.keeps
    exact sound.mapped (keeps.jobs.mono fun _ _ same => ⟨same.batch, fun _ => same.billed⟩)
      keeps.batches
  cases made with
  | ledger event ran => exact sound.applyLedger ran
  | actual job ran =>
    exact sound.moves ((setJobActualUSD_changes ran).mono fun _ _ => ActualChange.move)
  | freeze job amount ran => exact sound.moves (freezeChargeAmount_moves ran)
  | form batch ran => exact sound.formChargeBatch ran
  | _ => exact collects rfl

end

theorem BatchesSound.step {s next : State} {event : Event} (sound : BatchesSound s.books)
    (ran : step config s event = .ok next) : BatchesSound next.books := by
  rcases step_transaction (conditions_trivial s event) ran with same | made
  · rw [same]
    exact sound
  · exact sound.transaction made

end

end MercControl.Card
