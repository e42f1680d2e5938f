import MercControl.Card.Prices

/-!
# No refunded amount is frozen for collection

An amount that is frozen for a job should leave out what was credited back by
then.  `JobChargeInfo` and `firmChargeAmountSQL` leave out the SLA refund only,
and a call freezes what it read some transactions before.
-/

namespace MercControl.Card

open Library Machine Table
open Money (JobId micros)

/-- The charge under the firm quote without credits and prepaid debits. -/
def collectibleMicros (job : Money.Job) : Int :=
  job.chargeableMicros - job.creditedMicros - job.debitedMicros

def Books.collectibleMicros (b : Books) (job : JobId) : Int :=
  match b.ledger.jobs.find? job with
  | none => 0
  | some row => Card.collectibleMicros row

def JobCharge.Frozen (row : JobCharge) (place : Option BatchId) (amount : Int) : Prop :=
  match place with
  | none => row.frozenMicros = some amount
  | some batch => row.batch = some batch ∧ row.billedMicros = some amount

instance (place : Option BatchId) (amount : Int) :
    DecidablePred fun row : JobCharge => row.Frozen place amount :=
  fun row =>
    match place with
    | none => inferInstanceAs (Decidable (row.frozenMicros = some amount))
    | some batch =>
      inferInstanceAs (Decidable (row.batch = some batch ∧ row.billedMicros = some amount))

def Books.Froze (b : Books) (job : JobId) (place : Option BatchId) (amount : Int) : Prop :=
  b.jobs.Holds job fun row => row.Frozen place amount
  deriving Decidable

/-- Every amount that was not frozen before is at most what the buyer still
owes for the job. -/
def FrozenWithin (b next : Books) : Prop :=
  ∀ job place amount, next.Froze job place amount →
    b.Froze job place amount ∨ amount ≤ b.collectibleMicros job

def FreezesWithin (config : Config) (s : State) (event : Event) : Prop :=
  FrozenWithin s.books (apply (step config) s event).books

/-- Everything credited back for the job is the SLA refund that the amount
leaves out, unless another amount is frozen. -/
def Call.Counted (b : Books) (call : Call) : Prop :=
  match call.source with
  | .batch _ => True
  | .job job =>
    ∀ row ∈ b.jobs.find? job, row.frozenMicros = none →
      ∀ ledgerRow ∈ b.ledger.jobs.find? job, ledgerRow.creditedMicros = call.slaRefundMicros

instance (b : Books) (call : Call) : Decidable (call.Counted b) :=
  match source : call.source with
  | .batch _ => isTrue (by simp [Call.Counted, source])
  | .job job =>
    decidable_of_iff
      (∀ row ∈ b.jobs.find? job, row.frozenMicros = none →
        ∀ ledgerRow ∈ b.ledger.jobs.find? job, ledgerRow.creditedMicros = call.slaRefundMicros)
      (by simp [Call.Counted, source])

def Books.CandidatesUndisputed (b : Books) : Prop :=
  ∀ row ∈ b.batchCandidates, ∀ job ∈ b.ledger.jobs.find? row.job, job.disputeRefundMicros = 0

/-- An amount is frozen only when it leaves out all credits of the job. -/
def CreditsCounted (config : Config) (s : State) : Event → Prop
  | .freezeCharge process =>
    ∀ call ∈ s.calls process, call.phase = .checked →
      config.thresholdMicros ≤ call.amountMicros → call.Counted s.books
  | .formChargeBatch batch =>
    s.books.batches.find? batch = none →
      stripeMinChargeMicros ≤ s.books.batchMicros → s.books.CandidatesUndisputed
  | _ => True

instance (config : Config) (s : State) (event : Event) :
    Decidable (CreditsCounted config s event) := by
  rcases event with ⟨⟩ <;> unfold CreditsCounted <;> unfold Books.CandidatesUndisputed <;>
    infer_instance

variable {job : JobId}

section

variable {ledger : Money.State} {row : Money.Job}
variable {amount refunded : Int}

theorem Priced.le_collectible_iff (sound : Money.LedgerSound ledger)
    (priced : Priced ledger job amount refunded) (found : ledger.jobs.find? job = some row) :
    amount ≤ collectibleMicros row ↔ row.creditedMicros = refunded := by
  obtain ⟨_, isOther, _, isAmount, _⟩ := priced
  obtain rfl := Option.mem_unique found isOther
  have disputed := (sound.job found).disputeRefundMicros_nonneg
  rw [isAmount, collectibleMicros, Money.Job.creditedMicros]
  omega

theorem Priced.found (priced : Priced ledger job amount refunded) :
    ∃ row, ledger.jobs.find? job = some row := by
  obtain ⟨row, found, _⟩ := priced
  exact ⟨row, found⟩

end

theorem Books.collectibleMicros_of_found {b : Books} {row : Money.Job}
    (found : b.ledger.jobs.find? job = some row) :
    b.collectibleMicros job = Card.collectibleMicros row := by
  rw [Books.collectibleMicros, found]

theorem PricesSound.due_le_iff {s : State} (sound : PricesSound s)
    {row : JobCharge} (candidate : row ∈ s.books.batchCandidates) :
    ∃ job, s.books.ledger.jobs.find? row.job = some job ∧
      (s.books.dueMicros row ≤ s.books.collectibleMicros row.job ↔
        job.disputeRefundMicros = 0) := by
  obtain ⟨mem, _, _, pos⟩ := mem_batchCandidates candidate
  obtain ⟨job, found, isNet⟩ := Books.dueMicros_of_pos pos
  rw [isNet] at pos ⊢
  have priced := (sound.actuals row mem).priced found (sound.ledger.job found) pos
  refine ⟨job, found, ?_⟩
  rw [Books.collectibleMicros_of_found found,
    priced.le_collectible_iff sound.ledger found, Money.Job.creditedMicros]
  omega

variable {before after : JobCharge} {place : Option BatchId} {batch : BatchId}

section

variable {b next : Books}

theorem FrozenWithin.refl (b : Books) : FrozenWithin b b := fun _ _ _ => .inl

def SameFrozen (before after : JobCharge) : Prop :=
  after.frozenMicros = before.frozenMicros ∧ after.batch = before.batch ∧
    after.billedMicros = before.billedMicros

theorem SameFrozen.frozen {amount : Int} (same : SameFrozen before after)
    (frozen : after.Frozen place amount) : before.Frozen place amount := by
  obtain ⟨sameFrozen, sameBatch, sameBilled⟩ := same
  cases place with
  | none => exact sameFrozen.symm.trans frozen
  | some => exact ⟨sameBatch.symm.trans frozen.1, sameBilled.symm.trans frozen.2⟩

theorem FrozenWithin.mapped (mapped : Table.Mapped SameFrozen b.jobs next.jobs) :
    FrozenWithin b next := by
  intro job place amount froze
  obtain ⟨_, isRow, frozen⟩ := froze
  obtain ⟨before, isBefore, same⟩ := mapped.find?_before isRow
  exact .inl ⟨before, isBefore, same.frozen frozen⟩

theorem ActualChange.sameFrozen (change : ActualChange before after) : SameFrozen before after := by
  obtain ⟨_, rfl⟩ := change
  exact ⟨rfl, rfl, rfl⟩

theorem applyLedger_frozenWithin {event : Money.Event}
    (ran : applyLedger b event = .ok next) : FrozenWithin b next := by
  obtain ⟨_, _, written⟩ := applyLedger_ok ran
  rcases written with ⟨jobs, mapped, rfl⟩ | ⟨submitted, fresh, rfl⟩
  · exact .mapped (mapped.mono fun _ _ => ActualChange.sameFrozen)
  · intro job place amount froze
    obtain ⟨row, isRow, frozen⟩ := froze
    have olds : ∀ row ∈ (b.jobs.insert (.submitted submitted) fresh).rows,
        row.Frozen place amount → row ∈ b.jobs.rows :=
      forall_insert fresh (fun _ mem _ => mem) (by cases place <;> exact nofun)
    have old := olds row (mem_of_find? isRow) frozen
    have isJob : row.job = job := key_of_find? isRow
    exact .inl ⟨row, find?_eq_some.mpr ⟨old, isJob⟩, frozen⟩

theorem frozenWithin_freeze_iff (members : MembersBilled b) (job : JobId) (amount : Int) :
    FrozenWithin b
        { b with
          jobs := b.jobs.update (fun row => row.job == job && row.frozenMicros.isNone)
            (JobCharge.freeze amount) } ↔
      ∀ row ∈ b.jobs.find? job, row.frozenMicros = none → amount ≤ b.collectibleMicros job := by
  constructor
  · intro within row isRow unfrozen
    have isJob : row.job = job := key_of_find? isRow
    obtain ⟨before, isBefore, wasFrozen⟩ | bound :=
      within job none amount (holds_update isRow (by simp [isJob, unfrozen]) rfl)
    · rw [Option.mem_unique isRow isBefore] at unfrozen
      exact absurd (unfrozen.symm.trans wasFrozen) nofun
    · exact bound
  · intro bound other place asked froze
    obtain ⟨row, isRow, frozen⟩ := froze
    rw [find?_update] at isRow
    obtain ⟨before, isBefore, rfl⟩ := Option.map_eq_some_iff.mp isRow
    split_ifs at frozen with chosen
    · simp only [Bool.and_eq_true, beq_iff_eq, Option.isNone_iff_eq_none] at chosen
      have isOther : before.job = other := key_of_find? isBefore
      cases place with
      | none =>
        right
        rw [← Option.some.inj frozen, ← isOther, chosen.1]
        rw [← isOther, chosen.1] at isBefore
        exact bound before isBefore chosen.2
      | some batch =>
        -- a mem keeps what it was billed
        left
        obtain ⟨joined, billedNow⟩ := frozen
        have wasBilled := (members before (mem_of_find? isBefore) batch joined).1
        obtain ⟨billed, isBilled⟩ := Option.isSome_iff_exists.mp wasBilled
        refine ⟨before, isBefore, joined, ?_⟩
        simpa [JobCharge.freeze, isBilled] using billedNow
    · exact .inl ⟨before, isBefore, frozen⟩

theorem frozenWithin_form_iff {batches : Table Batch.batch} : FrozenWithin b
        { b with
          batches
          jobs := b.jobs.update (fun row => b.batchCandidates.any (·.job == row.job))
            (JobCharge.joinBatch batch b.dueMicros) } ↔
      ∀ row ∈ b.batchCandidates, b.dueMicros row ≤ b.collectibleMicros row.job := by
  constructor
  · intro within row candidate
    obtain ⟨mem, _, unjoined, _⟩ := mem_batchCandidates candidate
    have isRow := find?_of_mem mem
    have chosen : b.batchCandidates.any (·.job == row.job) = true :=
      List.any_eq_true.mpr ⟨row, candidate, beq_self_eq_true _⟩
    obtain ⟨before, isBefore, joined, _⟩ | bound := within row.job (some batch) (b.dueMicros row)
      (holds_update isRow chosen ⟨rfl, rfl⟩)
    · rw [Option.mem_unique isRow isBefore] at unjoined
      exact absurd (unjoined.symm.trans joined) nofun
    · exact bound
  · intro bound other place asked froze
    obtain ⟨row, isRow, frozen⟩ := froze
    rw [find?_update] at isRow
    obtain ⟨before, isBefore, rfl⟩ := Option.map_eq_some_iff.mp isRow
    split_ifs at frozen with chosen
    · have candidate := candidate_of_any (mem_of_find? isBefore) chosen
      have isOther : before.job = other := key_of_find? isBefore
      cases place with
      | none => exact .inl ⟨before, isBefore, frozen⟩
      | some =>
        right
        rw [← Option.some.inj frozen.2, ← isOther]
        exact bound before candidate
    · exact .inl ⟨before, isBefore, frozen⟩

end

section

variable {config : Config} {s : State}

theorem freezesWithin_of_committed {event : Event}
    (ran : ∀ next, step config s event = .ok next → FrozenWithin s.books next.books) :
    FreezesWithin config s event := by
  exact apply_of_committed (.refl _) ran

theorem freezeCharge_of_call {process : ProcessId} {call : Call}
    (found : s.calls process = some call) (checked : call.phase = .checked)
    (ofSource : call.source = .job job) (large : config.thresholdMicros ≤ call.amountMicros) :
    step config s (.freezeCharge process) =
      .ok
        { books :=
            { s.books with
              jobs := s.books.jobs.update (fun row => row.job == job && row.frozenMicros.isNone)
                (JobCharge.freeze call.amountMicros) }
          calls := Function.update s.calls process (some { call with phase := .charging }) } := by
  have notSmall : ¬ call.amountMicros < config.thresholdMicros := by omega
  simp [step, freezeCharge, decideCharge, State.advance, found, checked,
    ofSource, notSmall, freezeChargeAmount_eq, thenPhase, Except.map]

theorem freezesWithin_freeze_iff (prices : PricesSound s)
    (batches : BatchesSound s.books) (process : ProcessId) :
    FreezesWithin config s (.freezeCharge process) ↔
      CreditsCounted config s (.freezeCharge process) := by
  have early : ∀ call ∈ s.calls process, call.phase = .checked → ∃ job, call.source = .job job ∧
        Priced s.books.ledger job call.amountMicros call.slaRefundMicros := by
    intro call found checked
    refine prices.calls process call found ?_
    rw [checked]
    rfl
  constructor
  · intro within call found checked large
    obtain ⟨job, ofSource, priced⟩ := early call found checked
    rw [FreezesWithin, apply_of_ok (freezeCharge_of_call found checked ofSource large),
      frozenWithin_freeze_iff batches.members] at within
    simp only [Call.Counted, ofSource]
    intro row isRow unfrozen ledgerRow isLedgerRow
    have bound := within row isRow unfrozen
    rw [Books.collectibleMicros_of_found isLedgerRow] at bound
    exact (priced.le_collectible_iff prices.ledger isLedgerRow).mp bound
  · intro counted
    apply freezesWithin_of_committed
    intro next ran
    obtain ⟨call, job, found, checked, ofSource, size, written, _⟩ := decideCharge_ok ran
    rw [freezeChargeAmount_eq] at written
    rw [← Except.ok.inj written, frozenWithin_freeze_iff batches.members]
    intro row isRow unfrozen
    have large : config.thresholdMicros ≤ call.amountMicros :=
      Int.not_lt.mp (of_decide_eq_false size)
    have credits := counted call found checked large
    simp only [Call.Counted, ofSource] at credits
    obtain ⟨_, ofOther, priced⟩ := early call found checked
    obtain rfl := Source.job.inj (ofSource.symm.trans ofOther)
    obtain ⟨ledgerRow, isLedgerRow⟩ := priced.found
    rw [Books.collectibleMicros_of_found isLedgerRow]
    exact (priced.le_collectible_iff prices.ledger isLedgerRow).mpr
        (credits row isRow unfrozen ledgerRow isLedgerRow)

theorem candidatesUndisputed_iff (prices : PricesSound s) : s.books.CandidatesUndisputed ↔
      ∀ row ∈ s.books.batchCandidates,
        s.books.dueMicros row ≤ s.books.collectibleMicros row.job := by
  constructor
  · intro undisputed row candidate
    obtain ⟨job, found, bound⟩ := prices.due_le_iff candidate
    exact bound.mpr (undisputed row candidate job found)
  · intro within row candidate job found
    obtain ⟨_, isOther, bound⟩ := prices.due_le_iff candidate
    obtain rfl := Option.mem_unique found isOther
    exact bound.mp (within row candidate)

theorem formChargeBatch_of_enough {b : Books}
    (fresh : b.batches.find? batch = none) (enough : stripeMinChargeMicros ≤ b.batchMicros) :
    formChargeBatch b batch = .ok { b with
      batches := b.batches.insert ⟨batch, b.batchMicros, .attempting, 0, none⟩ fresh
      jobs := b.jobs.update (fun row => b.batchCandidates.any (·.job == row.job))
        (JobCharge.joinBatch batch b.dueMicros) } := by
  have notEmpty : ¬ (b.batchCandidates.isEmpty ∨ b.batchMicros < stripeMinChargeMicros) := by
    rintro (isEmpty | small)
    · rw [Books.batchMicros, List.isEmpty_iff.mp isEmpty, Rows.sumWhere_nil] at enough
      exact absurd enough (by decide)
    · omega
  rw [formChargeBatch]
  rw [Books.batchMicros] at notEmpty
  simp only [if_neg notEmpty, dif_pos fresh]
  apply changeJobs_of_legal
  intro row _ _
  simp [JobCharge.joinBatch, mayBecome]

theorem freezesWithin_form_iff (prices : PricesSound s) (batch : BatchId) :
    FreezesWithin config s (.formChargeBatch batch) ↔
      CreditsCounted config s (.formChargeBatch batch) := by
  constructor
  · intro within fresh enough
    rw [FreezesWithin, apply, step, formChargeBatch_of_enough fresh enough] at within
    exact (candidatesUndisputed_iff prices).mpr (frozenWithin_form_iff.mp within)
  · intro counted
    apply freezesWithin_of_committed
    intro next ran
    obtain ⟨fresh, enough, isNext⟩ := formChargeBatch_ok (write_ok ran).1
    rw [isNext, frozenWithin_form_iff]
    exact (candidatesUndisputed_iff prices).mp (counted fresh enough)

theorem freezesWithin_iff (prices : PricesSound s)
    (batches : BatchesSound s.books) (event : Event) :
    FreezesWithin config s event ↔ CreditsCounted config s event := by
  have kept : event.kind = .collect → FreezesWithin config s event := by
    intro collects
    apply freezesWithin_of_committed
    intro next ran
    exact .mapped
        ((step_keeps collects ran).jobs.mono fun _ _ same => ⟨same.frozen, same.batch, same.billed⟩)
  cases event with
  | freezeCharge process => exact freezesWithin_freeze_iff prices batches process
  | formChargeBatch batch => exact freezesWithin_form_iff prices batch
  | ledger =>
    refine iff_of_true (freezesWithin_of_committed ?_) trivial
    intro next ran
    exact applyLedger_frozenWithin (write_ok ran).1
  | setJobActualUSD =>
    refine iff_of_true (freezesWithin_of_committed ?_) trivial
    intro next ran
    obtain ⟨_, mapped, isNext⟩ := setJobActualUSD_changes (write_ok ran).1
    rw [isNext]
    exact .mapped (mapped.mono fun _ _ => ActualChange.sameFrozen)
  | _ => exact iff_of_true (kept rfl) trivial

end

/-- **Frozen amounts.**  In a run every amount that is frozen is at most what
the buyer still owes exactly when all credits are counted; and a batch is the
sum of what its members are billed. -/
theorem frozen_amounts_within_iff (config : Config) (freeMicros : Int) (events : List Event) :
    (Meets (step config) (FreezesWithin config) (.opened freeMicros) events ↔
      Meets (step config) (CreditsCounted config) (.opened freeMicros) events) ∧
      Always (step config) (fun s => BatchesAddUp s.books) (.opened freeMicros) events := by
  have preserved : ∀ s event next,
      PricesSound s ∧ BatchesSound s.books → step config s event = .ok next →
        PricesSound next ∧ BatchesSound next.books :=
    fun s event next sound committed => ⟨sound.1.step committed, sound.2.step committed⟩
  have opened : PricesSound (.opened freeMicros) ∧ BatchesSound (State.opened freeMicros).books :=
    ⟨.opened freeMicros, nofun, nofun⟩
  constructor
  · exact meets_iff_meets preserved (fun s event sound => freezesWithin_iff sound.1 sound.2 event)
        events opened
  · exact always_of_invariant preserved (fun _ sound => sound.2.sums) events opened

/-- A job of six dollars is frozen alone and a small one in a batch; the
dispute about the second one is upheld afterwards. -/
def frozenRun : List Event :=
  completedCardJob 1 6000000 ++ completedCardJob 2 4000000 ++ deferredBy 2 2 ++
    [.startCharge 1 1, .checkStatus 1, .freezeCharge 1, .formChargeBatch 1,
     .ledger (.fileDispute 9 2), .ledger (.resolveDispute 9 .upheld)]

example :
    Meets (step fiveDollars) (CreditsCounted fiveDollars) (.opened 0)
      frozenRun := by
  decide

def deferredRefund : List Event :=
  completedCardJob 1 4000000 ++ completedCardJob 2 4000000 ++ deferredBy 1 1 ++ deferredBy 2 2 ++
    [.ledger (.fileDispute 9 1), .ledger (.resolveDispute 9 .upheld)]

/-- The batch of eight dollars asks for four that were credited back. -/
theorem deferredRefund_asked_again :
    ¬ Meets (step fiveDollars) (FreezesWithin fiveDollars) (.opened 0)
      (deferredRefund ++ [.formChargeBatch 1]) := by
  intro within
  have last := ((meets_append _ _ _).mp within).2.1
  obtain before | bound := last 1 (some 1) 4000000 (by decide)
  · exact absurd before (by decide)
  · exact absurd bound (by decide)

end MercControl.Card
