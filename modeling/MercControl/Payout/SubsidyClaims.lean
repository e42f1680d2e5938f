import MercControl.Payout.Settlements
import MercControl.Payout.TransferSafety

/-!
# Subsidies and the claims they are for

A subsidy is worth the whole minor units of its own credit.  A claim requests
those of the credit and the carry of the supplier together.  The two agree
exactly when the carry completes no further minor unit.
-/

namespace MercControl.Payout.Transfer

open Library Machine Rows

variable {id : AttemptId} {entry : EntryId} {terms : Terms}
  {after : Payout.State} {event : Event} {credit : Credit}

section

variable {config : Config} {s next : State}

theorem withBooks_ok {start : State} {result : Except Payout.Failure Payout.State}
    (ran : start.withBooks result = .ok next) :
    ∃ books, result = .ok books ∧ next = { start with books } := by
  cases result with
  | error => cases ran
  | ok books =>
    cases ran
    exact ⟨books, rfl, rfl⟩

/-- The credits change by a transaction of the payout machine or get a
verdict. -/
def BooksStep (config : Config) (before after : Payout.State) : Prop :=
  after = before ∨ (∃ event, Payout.step config.factor before event = .ok after) ∨
    ∃ entry verdict,
      changeCredit before entry (fun credit => .ok { credit with verdict }) = .ok after

structure FundingKept (s next : State) : Prop where
  row : ∀ entry funding, s.fundings.find? entry = some funding →
    next.fundings.find? entry = some funding
  compromised : ∀ entry, next.compromised entry = true →
    s.compromised entry = true ∨ ∃ funding,
      s.fundings.find? entry = some funding ∧ funding.source = .collection

theorem FundingKept.of_same (fundings : next.fundings = s.fundings)
    (compromised : next.compromised = s.compromised) : FundingKept s next := by
  constructor
  · rw [fundings]
    exact fun _ _ found => found
  · rw [compromised]
    exact fun _ => .inl

theorem onAttempt_ok {body : Attempt → Except Failure State}
    (ran : s.onAttempt id body = .ok next) : ∃ attempt, body attempt = .ok next := by
  rw [State.onAttempt] at ran
  cases found : s.attempts.find? id with
  | none =>
    rw [found] at ran
    cases ran
  | some attempt =>
    rw [found] at ran
    exact ⟨attempt, ran⟩

theorem authorizePayoutSubsidy_ok (ran : authorizePayoutSubsidy config s entry terms = .ok next) :
    ∃ credit, s.books.credit entry = some credit ∧ 0 ≤ credit.liabilityMicros ∧
      0 < credit.liabilityMicros.tdiv config.factor ∧
      ∃ bound, bindSubsidy s entry terms (credit.liabilityMicros.tdiv config.factor) = .ok bound ∧
          bound.withBooks (changeCredit s.books entry authorizePayoutSubsidyCredit) = .ok next := by
  rw [authorizePayoutSubsidy] at ran
  cases found : s.books.credit entry with
  | none =>
    rw [found] at ran
    cases ran
  | some credit =>
    simp only [found, splitSupplierLiabilityMicros, ite_error_eq_ok] at ran
    by_cases negative : credit.liabilityMicros < 0
    · rw [if_pos negative] at ran
      cases ran.2
    rw [if_neg negative] at ran
    obtain ⟨_, rest⟩ := ran
    simp only [ite_error_eq_ok] at rest
    obtain ⟨_, rest⟩ := rest
    cases isBound : bindSubsidy s entry terms (credit.liabilityMicros.tdiv config.factor) with
    | error =>
      rw [isBound] at rest
      cases rest
    | ok bound =>
      rw [isBound] at rest
      exact ⟨credit, rfl, by omega, by omega, bound, isBound, rest⟩

theorem startAttempt_ok {cents : Int} {resolvingUnknown : Bool}
    (ran : s.startAttempt id entry cents resolvingUnknown = .ok next) :
    ∃ attempts, next = { s with attempts } := by
  rw [State.startAttempt] at ran
  split_ifs at ran
  cases ran
  exact ⟨_, rfl⟩

theorem claimPayout_kept {context : ClaimContext}
    (ran : claimPayout config s id entry context = .ok next) :
    BooksStep config s.books next.books ∧ FundingKept s next := by
  simp only [claimPayout] at ran
  split at ran
  · cases ran
  split_ifs at ran
  · cases ran
    exact ⟨.inl rfl, .of_same rfl rfl⟩
  split at ran
  · cases ran
  split_ifs at ran
  · obtain ⟨books, stepped, rfl⟩ := withBooks_ok ran
    exact ⟨.inr (.inl ⟨.claimPayout entry _, stepped⟩), .of_same rfl rfl⟩
  split at ran
  · cases ran
  · rename_i reserved reservation
    obtain ⟨fundings, rfl, kept, _⟩ := reservePayoutFunding_ok reservation
    obtain ⟨books, stepped, rfl⟩ := withBooks_ok ran
    exact ⟨.inr (.inl ⟨.claimPayout entry _, stepped⟩), kept, fun _ => .inl⟩
  · rename_i reserved reservation
    obtain ⟨fundings, rfl, kept, _⟩ := reservePayoutFunding_ok reservation
    split at ran
    · cases ran
    rename_i claimed claim
    obtain ⟨books, stepped, rfl⟩ := withBooks_ok claim
    obtain ⟨_, rfl⟩ := startAttempt_ok ran
    exact ⟨.inr (.inl ⟨.claimPayout entry _, stepped⟩), kept, fun _ => .inl⟩

theorem recordedBooks_step {attempt : Attempt} {answer : Answer} {books : Payout.State}
    (ran : recordedBooks config books attempt answer = .ok after) :
    ∃ event, Payout.step config.factor books event = .ok after := by
  cases answer with
  | sent | exported | unclear =>
    rw [recordedBooks] at ran
    exact ⟨_, ran⟩
  | refused =>
    simp only [recordedBooks] at ran
    split_ifs at ran
    all_goals exact ⟨_, ran⟩

theorem step_kept (ran : step config s event = .ok next) :
    BooksStep config s.books next.books ∧ FundingKept s next := by
  cases event with
  | plain =>
    simp only [step] at ran
    split_ifs at ran
    obtain ⟨books, stepped, rfl⟩ := withBooks_ok ran
    exact ⟨.inr (.inl ⟨_, stepped⟩), .of_same rfl rfl⟩
  | setVerdict =>
    obtain ⟨books, stepped, rfl⟩ := withBooks_ok ran
    exact ⟨.inr (.inr ⟨_, _, stepped⟩), .of_same rfl rfl⟩
  | resolveDispute =>
    obtain ⟨books, stepped, rfl⟩ := withBooks_ok ran
    exact ⟨.inr (.inl ⟨_, stepped⟩), .of_same rfl rfl⟩
  | recomputeFunding =>
    obtain ⟨books, stepped, rfl⟩ := withBooks_ok ran
    refine ⟨.inr (.inl ⟨_, stepped⟩), fun _ _ found => found, ?_⟩
    intro entry compromised
    simp only at compromised
    split_ifs at compromised with isCollection
    · right
      rw [List.contains_iff_mem, List.mem_map] at isCollection
      obtain ⟨funding, chosen, rfl⟩ := isCollection
      obtain ⟨mem, source⟩ := List.mem_filter.mp chosen
      exact ⟨funding, Table.find?_of_mem mem, beq_iff_eq.mp source⟩
    · exact .inl compromised
  | authorizeFund =>
    simp only [step, authorizeFund] at ran
    split_ifs at ran
    cases ran
    exact ⟨.inl rfl, .of_same rfl rfl⟩
  | authorizeSubsidy entry =>
    obtain ⟨_, _, _, _, _, isBound, written⟩ := authorizePayoutSubsidy_ok ran
    obtain ⟨_, rfl, kept, _⟩ := bindSubsidy_ok isBound
    obtain ⟨books, stepped, rfl⟩ := withBooks_ok written
    exact ⟨.inr (.inl ⟨.authorizeSubsidy entry, stepped⟩), kept, fun _ => .inl⟩
  | claimPayout => exact claimPayout_kept ran
  | claimOutcomeUnknown =>
    simp only [step, claimOutcomeUnknown] at ran
    split at ran
    · cases ran
    split at ran
    · cases ran
    split_ifs at ran
    obtain ⟨_, rfl⟩ := startAttempt_ok ran
    exact ⟨.inl rfl, .of_same rfl rfl⟩
  | execute | refuse | exportPayout | lose | crash =>
    obtain ⟨attempt, written⟩ := onAttempt_ok ran
    repeat' split at written
    all_goals cases written
    all_goals exact ⟨.inl rfl, .of_same rfl rfl⟩
  | record =>
    obtain ⟨attempt, written⟩ := onAttempt_ok ran
    split at written
    · obtain ⟨books, stepped, rfl⟩ := withBooks_ok written
      exact ⟨.inr (.inl (recordedBooks_step stepped)), .of_same rfl rfl⟩
    · cases written

def claimSettlement (config : Config) (books : Payout.State)
    (credit : Credit) : Except Payout.Failure Settlement :=
  match accrueSupplierLiability config.factor (books.accruals credit.supplier)
      credit.settlement credit.liabilityMicros with
  | .ok (settlement, _) => .ok settlement
  | .error failure => .error failure

/-- A claim of the entry finds funding of exactly the cents it requests. -/
def FundedExactly (config : Config) (s : State) (entry : EntryId) : Prop :=
  ∃ credit settlement, s.books.credit entry = some credit ∧
    claimSettlement config s.books credit = .ok settlement ∧
    ∀ collected, reservePayoutFunding s entry settlement.cashCents collected = .ok (s, true)

/-- An accepted subsidy of a credit that waits for funding serves its claim; a
credit that can request a minor unit is not too small for a subsidy. -/
def SubsidyServes (config : Config) (s : State) (entry : EntryId) (terms : Terms) : Prop :=
  ∀ credit, s.books.credit entry = some credit →
    (credit.status = .awaitingFunding → ∀ next,
      step config s (.authorizeSubsidy entry terms) = .ok next →
        ∀ events, FundedExactly config (run (step config) next events) entry) ∧
    (∀ settlement, claimSettlement config s.books credit = .ok settlement →
      1 ≤ settlement.cashCents →
        step config s (.authorizeSubsidy entry terms) ≠ .error .belowOneMinorUnit)

/-- The statuses in which a subsidy may be authorized. -/
def subsidizable (status : PayoutStatus) : Bool :=
  status == .held || status == .ready || status == .awaitingFunding

/-- The carry completes no further minor unit, where the credit is below one
minor unit or waits for funding and is subsidized. -/
def CarryFits (config : Config) (s : State) (entry : EntryId) (terms : Terms) : Prop :=
  ∀ credit settlement, s.books.credit entry = some credit →
    claimSettlement config s.books credit = .ok settlement →
      subsidizable credit.status = true →
        (credit.liabilityMicros < config.factor ∨
          (credit.status = .awaitingFunding ∧
            (step config s (.authorizeSubsidy entry terms)).isOk = true)) →
          settlement.carryInMicros + credit.liabilityMicros % config.factor < config.factor

structure Ordered (config : Config) (s : State) : Prop where
  settled : Settled config.factor s.books
  collections : ∀ entry, s.compromised entry = true → ∃ funding,
    s.fundings.find? entry = some funding ∧ funding.source = .collection

theorem Ordered.empty (config : Config) : Ordered config .empty where
  settled :=
    { distinct := List.nodup_nil
      recorded := List.forall_mem_nil _
      carry := fun _ => le_refl 0
      belowUnit := fun _ => config.positive
      awaiting := List.forall_mem_nil _ }
  collections := nofun

theorem verdict_kept {before : Payout.State} {verdict : Verdict}
    (distinct : (before.credits.map (·.entry)).Nodup)
    (ran : changeCredit before entry (fun credit => .ok { credit with verdict }) =
        .ok after) : SettlementsKept before after := by
  refine (changeCredit_quiet distinct ?_ ran).1
  rintro credit changed ⟨⟩
  exact quiet_of_status id id

theorem Ordered.step (ordered : Ordered config s) (ran : Transfer.step config s event = .ok next) :
    Ordered config next := by
  obtain ⟨books, kept⟩ := step_kept ran
  constructor
  · rcases books with same | ⟨event, stepped⟩ | ⟨entry, verdict, written⟩
    · rw [same]
      exact ordered.settled
    · exact ordered.settled.step config.positive stepped
    · exact ordered.settled.kept (verdict_kept ordered.settled.distinct written)
  · intro entry compromised
    obtain ⟨funding, found, source⟩ :=
      (kept.compromised entry compromised).elim (ordered.collections entry) id
    exact ⟨funding, kept.row entry funding found, source⟩

theorem BooksStep.settlement {before : Payout.State} {settlement : Settlement}
    (settled : Settled config.factor before) (stepped : BooksStep config before after)
    (found : before.credit entry = some credit) (isSettled : credit.settlement = some settlement) :
    ∃ changed ∈ after.credits, changed.entry = entry ∧ changed.settlement = some settlement ∧
      changed.liabilityMicros = credit.liabilityMicros := by
  obtain ⟨mem, isEntry⟩ := State.credit_some found
  have ofKept : SettlementsKept before after →
      ∃ changed ∈ after.credits, changed.entry = entry ∧ changed.settlement = some settlement ∧
        changed.liabilityMicros = credit.liabilityMicros := by
    intro kept
    obtain ⟨changed, isChanged, same⟩ := exists_after kept.1 mem
    exact ⟨changed, isChanged, same.entry.trans isEntry,
        same.settlement.trans isSettled, same.liability⟩
  rcases stepped with rfl | ⟨event, stepped⟩ | ⟨other, verdict, written⟩
  · exact ⟨credit, mem, isEntry, isSettled, rfl⟩
  · rcases step_settlements settled.distinct stepped with
      ⟨kept, _⟩ | ⟨other, context, claim⟩ | ⟨new, _, _, _, credits, _⟩
    · exact ofKept kept
    · rcases claimPayout_cases claim with
        rfl | ⟨target, claimed, recorded, accrual, targetMem, accrued, written, changed⟩
      · exact ⟨credit, mem, isEntry, isSettled, rfl⟩
      · rw [changeCredits_ok changed]
        by_cases chosen : credit.entry = target.entry
        · obtain rfl := List.inj_on_of_nodup_map settled.distinct mem targetMem chosen
          rw [isSettled] at accrued
          obtain ⟨rfl, rfl⟩ := accrueSupplierLiability_replay accrued
          have settles := claimedCredit_settles written
          refine ⟨claimed, mem_updateWhere.mpr ⟨credit, mem, ?_⟩,
            settles.entry.trans isEntry, settles.settled, settles.liability⟩
          simp
        · refine ⟨credit, mem_updateWhere.mpr ⟨credit, mem, ?_⟩, isEntry, isSettled, rfl⟩
          simp [chosen]
    · rw [credits]
      exact ⟨credit, List.mem_append_left _ mem, isEntry, isSettled, rfl⟩
  · exact ofKept (verdict_kept settled.distinct written)

structure Subsidized (config : Config) (entry : EntryId)
    (settlement : Settlement) (s : State) : Prop where
  ordered : Ordered config s
  credit : ∃ credit, s.books.credit entry = some credit ∧ credit.settlement = some settlement
  row : ∃ funding terms, s.fundings.find? entry = some funding ∧ funding.source = .subsidy terms ∧
    funding.amountCents = settlement.cashCents

variable {settlement : Settlement}

theorem Subsidized.step (subsidized : Subsidized config entry settlement s)
    (ran : Transfer.step config s event = .ok next) : Subsidized config entry settlement next := by
  obtain ⟨books, kept⟩ := step_kept ran
  have ordered := subsidized.ordered.step ran
  obtain ⟨_, found, isSettled⟩ := subsidized.credit
  obtain ⟨changed, mem, sameEntry, changedSettled, _⟩ :=
    BooksStep.settlement subsidized.ordered.settled books found isSettled
  obtain ⟨funding, terms, isFunding, source, amount⟩ := subsidized.row
  refine ⟨ordered, ⟨changed, ?_, changedSettled⟩, funding, terms,
    kept.row entry funding isFunding, source, amount⟩
  rw [← sameEntry]
  exact ordered.settled.credit_eq_some mem

theorem claimSettlement_settled (ordered : Ordered config s) (mem : credit ∈ s.books.credits)
    (isSettled : credit.settlement = some settlement) :
    claimSettlement config s.books credit = .ok settlement := by
  have accounts := ordered.settled.recorded credit mem settlement isSettled
  have notNegative : ¬ credit.liabilityMicros < 0 := Int.not_lt.mpr accounts.nonneg
  simp [claimSettlement, accrueSupplierLiability, isSettled, notNegative, accounts.recorded]

theorem reservePayoutFunding_of_found {funding : Funding} {cents : Int} {collected : Bool}
    (isFunding : s.fundings.find? entry = some funding) :
    reservePayoutFunding s entry cents collected =
      if funding.amountCents ≠ cents then .error .fundingMismatch
      else .ok (s, !s.compromised entry) := by
  rw [reservePayoutFunding]
  split <;> simp_all

theorem Subsidized.fundedExactly
    (subsidized : Subsidized config entry settlement s) : FundedExactly config s entry := by
  obtain ⟨credit, found, isSettled⟩ := subsidized.credit
  obtain ⟨_, _, isFunding, source, amount⟩ := subsidized.row
  have mem := (State.credit_some found).1
  refine ⟨credit, settlement, found,
    claimSettlement_settled subsidized.ordered mem isSettled, ?_⟩
  have intact : s.compromised entry = false := by
    by_contra compromised
    rw [Bool.not_eq_false] at compromised
    obtain ⟨_, isOther, collection⟩ := subsidized.ordered.collections entry compromised
    rw [isFunding] at isOther
    cases isOther
    rw [source] at collection
    cases collection
  intro collected
  rw [reservePayoutFunding_of_found isFunding, if_neg (fun ne => ne amount), intact]
  rfl

theorem claimSettlement_accounts (ordered : Ordered config s) (mem : credit ∈ s.books.credits)
    (claim : claimSettlement config s.books credit = .ok settlement) :
    settlement.Accounts config.factor credit.liabilityMicros := by
  cases isSettled : credit.settlement with
  | some =>
    rw [claimSettlement_settled ordered mem isSettled] at claim
    cases claim
    exact ordered.settled.recorded credit mem settlement isSettled
  | none =>
    rw [claimSettlement, isSettled] at claim
    cases accrued : accrueSupplierLiability config.factor
          (s.books.accruals credit.supplier) none credit.liabilityMicros with
    | error =>
      rw [accrued] at claim
      cases claim
    | ok =>
      rw [accrued] at claim
      cases claim
      exact
        (accrueSupplierLiability_accounts config.positive (ordered.settled.carry credit.supplier)
          (ordered.settled.belowUnit credit.supplier) accrued).1

theorem carry_ediv_iff {factor carry liability : Int} (pos : 0 < factor) (nonneg : 0 ≤ carry) :
    (carry + liability) / factor = liability / factor ↔ carry + liability % factor < factor := by
  have split : (carry + liability) / factor =
      (carry + liability % factor) / factor + liability / factor := by
    rw [← Int.add_mul_ediv_left _ _ (Int.ne_of_gt pos), Int.add_assoc, Int.emod_add_mul_ediv]
  have rest : 0 ≤ (carry + liability % factor) / factor := by
    apply Int.ediv_nonneg _ (Int.le_of_lt pos)
    exact Int.add_nonneg nonneg (Int.emod_nonneg _ (Int.ne_of_gt pos))
  have lessThanOne :
      (carry + liability % factor) / factor < 1 ↔ carry + liability % factor < factor := by
    rw [Int.ediv_lt_iff_lt_mul pos, Int.one_mul]
  omega

theorem authorizePayoutSubsidy_below_iff (found : s.books.credit entry = some credit)
    (nonneg : 0 ≤ credit.liabilityMicros) :
    authorizePayoutSubsidy config s entry terms = .error .belowOneMinorUnit ↔
      subsidizable credit.status = true ∧ credit.liabilityMicros < config.factor := by
  have notNegative : ¬ credit.liabilityMicros < 0 := Int.not_lt.mpr nonneg
  have unit : credit.liabilityMicros.tdiv config.factor ≤ 0 ↔
      credit.liabilityMicros < config.factor := by
    rw [Int.tdiv_eq_ediv_of_nonneg nonneg, ← Int.lt_add_one_iff,
      Int.ediv_lt_iff_lt_mul config.positive, Int.zero_add, Int.one_mul]
  have status : subsidizable credit.status = true ↔
      ¬ (credit.status ≠ .held ∧ credit.status ≠ .ready ∧ credit.status ≠ .awaitingFunding) := by
    simp only [subsidizable, Bool.or_eq_true, beq_iff_eq]
    tauto
  simp only [authorizePayoutSubsidy, found, splitSupplierLiabilityMicros, if_neg notNegative]
  rw [status, ← unit]
  split_ifs with refused small
  · simp [refused]
  · simp [refused, small]
  -- whatever else happens, it is not refused for being small
  refine iff_of_false ?_ fun both => small both.2
  cases isBound : bindSubsidy s entry terms (credit.liabilityMicros.tdiv config.factor) with
  | error =>
    rcases bindSubsidy_error isBound with rfl | rfl
    · simp
    · simp
  | ok =>
    cases changeCredit s.books entry authorizePayoutSubsidyCredit with
    | error | ok => simp [State.withBooks]

/-- An accepted subsidy of a waiting credit: the settlement stays, and the row
is worth the credit alone. -/
theorem accepted_subsidy (ordered : Ordered config s) (found : s.books.credit entry = some credit)
    (awaiting : credit.status = .awaitingFunding)
    (accepted : step config s (.authorizeSubsidy entry terms) = .ok next) :
    ∃ settlement, credit.settlement = some settlement ∧
      (∃ changed, next.books.credit entry = some changed ∧ changed.settlement = some settlement) ∧
      ∃ funding, next.fundings.find? entry = some funding ∧ funding.source = .subsidy terms ∧
        funding.amountCents = credit.liabilityMicros / config.factor := by
  have mem := (State.credit_some found).1
  obtain ⟨settlement, isSettled⟩ :=
    Option.isSome_iff_exists.mp (ordered.settled.awaiting credit mem awaiting)
  obtain ⟨changed, changedMem, sameEntry, changedSettled, _⟩ :=
    BooksStep.settlement ordered.settled (step_kept accepted).1 found isSettled
  have changedFound := (ordered.step accepted).settled.credit_eq_some changedMem
  rw [sameEntry] at changedFound
  refine ⟨settlement, isSettled, ⟨changed, changedFound, changedSettled⟩, ?_⟩
  obtain ⟨_, otherFound, nonneg, _, _, isBound, written⟩ :=
    authorizePayoutSubsidy_ok accepted
  rw [found] at otherFound
  cases otherFound
  obtain ⟨_, rfl, _, funding, isFunding, source, amount⟩ := bindSubsidy_ok isBound
  obtain ⟨_, _, rfl⟩ := withBooks_ok written
  rw [Int.tdiv_eq_ediv_of_nonneg nonneg] at amount
  exact ⟨funding, isFunding, source, amount⟩

theorem FundedExactly.amount {funding : Funding}
    (exactly : FundedExactly config s entry) (ordered : Ordered config s)
    (found : s.books.credit entry = some credit) (isSettled : credit.settlement = some settlement)
    (isFunding : s.fundings.find? entry = some funding) :
    funding.amountCents = settlement.cashCents := by
  obtain ⟨_, _, otherFound, claim, reserves⟩ := exactly
  rw [found] at otherFound
  cases otherFound
  rw [claimSettlement_settled ordered (State.credit_some found).1 isSettled] at claim
  cases claim
  have reserved := reserves false
  rw [reservePayoutFunding_of_found isFunding, ite_error_eq_ok] at reserved
  exact not_not.mp reserved.1

/-- In every run a subsidy serves its claim exactly when the carry completes no
further minor unit. -/
theorem subsidy_serves_iff (config : Config) (events : List Event)
    (entry : EntryId) (terms : Terms) :
    SubsidyServes config (run (step config) .empty events) entry terms ↔
      CarryFits config (run (step config) .empty events) entry
        terms := by
  have ordered : Ordered config (run (step config) .empty events) :=
    invariant_run_of_preserved (fun _ _ _ before committed => before.step committed) events
      (Ordered.empty config)
  generalize run (step config) .empty events = s at ordered
  constructor
  · intro serves credit settlement found claim status which
    obtain ⟨funds, small⟩ := serves credit found
    have accounts := claimSettlement_accounts ordered (State.credit_some found).1 claim
    rw [← carry_ediv_iff config.positive accounts.carry, ← accounts.cash]
    rcases which with below | ⟨awaiting, accepted⟩
    · have refused : step config s (.authorizeSubsidy entry terms) = .error .belowOneMinorUnit :=
        (authorizePayoutSubsidy_below_iff found accounts.nonneg).mpr ⟨status, below⟩
      have notPositive : ¬ 1 ≤ settlement.cashCents := by
        intro positive
        exact small settlement claim positive refused
      have nonneg : 0 ≤ settlement.cashCents := by
        rw [accounts.cash]
        apply Int.ediv_nonneg _ (Int.le_of_lt config.positive)
        exact Int.add_nonneg accounts.carry accounts.nonneg
      rw [Int.ediv_eq_zero_of_lt accounts.nonneg below]
      omega
    · cases outcome : step config s (.authorizeSubsidy entry terms) with
      | error =>
        rw [outcome] at accepted
        cases accepted
      | ok next =>
        obtain ⟨recorded, isSettled, ⟨changed, changedFound,
          changedSettled⟩, funding, isFunding, _, amount⟩ :=
          accepted_subsidy ordered found awaiting outcome
        rw [claimSettlement_settled ordered (State.credit_some found).1 isSettled] at claim
        cases claim
        rw [← amount]
        exact ((funds awaiting next outcome []).amount (ordered.step outcome)
            changedFound changedSettled isFunding).symm
  · intro fits credit found
    have member := (State.credit_some found).1
    constructor
    · intro awaiting next accepted events
      obtain ⟨settlement, isSettled, changed, funding, isFunding, source,
        amount⟩ := accepted_subsidy ordered found awaiting accepted
      have claim := claimSettlement_settled ordered member isSettled
      have accounts := claimSettlement_accounts ordered member claim
      have completes := fits credit settlement found claim (by rw [awaiting]; rfl)
          (.inr ⟨awaiting, by rw [accepted]; rfl⟩)
      rw [← carry_ediv_iff config.positive accounts.carry, ← accounts.cash] at completes
      have subsidized : Subsidized config entry settlement next :=
        ⟨ordered.step accepted, changed, funding, terms, isFunding, source,
          amount.trans completes.symm⟩
      exact (invariant_run_of_preserved
          (fun _ _ _ before committed => Subsidized.step before committed)
          events subsidized).fundedExactly
    · intro settlement claim positive refused
      have accounts := claimSettlement_accounts ordered member claim
      obtain ⟨status, below⟩ := (authorizePayoutSubsidy_below_iff found accounts.nonneg).mp refused
      have completes := fits credit settlement found claim status (.inl below)
      rw [← carry_ediv_iff config.positive accounts.carry, ← accounts.cash,
        Int.ediv_eq_zero_of_lt accounts.nonneg below] at completes
      omega

end

/-- A first credit leaves a carry of half a cent, the second one waits for
funding with a request of two cents. -/
def carriedRun : List Event :=
  [.plain (.insertCredit 1 7 (.task 3 5) 5000 .pass),
   .plain (.insertCredit 2 7 (.task 4 5) 15000 .pass),
   .plain (.insertCredit 3 8 (.task 6 5) 5000 .pass),
   .plain (.insertCredit 4 8 (.task 7 5) 6000 .pass),
   .claimPayout 0 1 ⟨true, true, false⟩,
   .claimPayout 0 2 ⟨true, true, false⟩,
   .claimPayout 0 3 ⟨true, true, false⟩,
   .claimPayout 0 4 ⟨true, true, false⟩,
   .authorizeFund 1 100]

set_option maxRecDepth 4000 in
/-- The subsidy of the second credit is one cent, so its claim fails; the
fourth credit requests a cent and is refused a subsidy as below one cent. -/
theorem carry_breaks_subsidies :
    (∃ next,
      step cents (run (step cents) .empty carriedRun)
          (.authorizeSubsidy 2 ⟨1, 1, 1⟩) = .ok next ∧
        step cents next (.claimPayout 0 2 ⟨true, true, false⟩) = .error .fundingMismatch) ∧
    step cents (run (step cents) .empty carriedRun) (.authorizeSubsidy 4 ⟨1, 2, 1⟩) =
      .error .belowOneMinorUnit ∧
    ¬ SubsidyServes cents (run (step cents) .empty carriedRun) 2 ⟨1, 1, 1⟩ ∧
    ¬ SubsidyServes cents (run (step cents) .empty carriedRun) 4 ⟨1, 2, 1⟩ := by
  have ordered : Ordered cents (run (step cents) .empty carriedRun) :=
    invariant_run_of_preserved (fun _ _ _ before committed => before.step committed) carriedRun
      (Ordered.empty cents)
  refine ⟨⟨_, rfl, rfl⟩, rfl, ?_, ?_⟩
  · intro serves
    have accepted : step cents (run (step cents) .empty carriedRun)
          (.authorizeSubsidy 2 ⟨1, 1, 1⟩) = .ok _ := rfl
    have exactly := (serves _ rfl).1 rfl _ accepted []
    have amount := exactly.amount (ordered.step accepted) rfl rfl rfl
    exact absurd amount (by decide)
  · intro serves
    exact (serves _ rfl).2 _ rfl (by decide) rfl

end MercControl.Payout.Transfer
