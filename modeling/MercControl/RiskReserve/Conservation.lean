import MercControl.Library.Table
import MercControl.Pricing.ExactMoney

/-!
# The risk reserve of a job

A settled job holds back a part of its charge.  Refunds consume it, each for
its own cause, and the rest is released once no dispute can be filed.  The row
counts nanos; its projection to the ledger rounds the accrued micros up and the
consumed ones down.
-/

namespace MercControl.RiskReserve

open Library Machine Table Pricing

inductive Cause
  | slaRefund
  | disputeRefund (dispute : Nat)
  deriving DecidableEq

/-- The kind and the `payout_ref` of a ledger row.  `legacyConsume` is
`riskReserveConsumeRef`, from before causes were recorded. -/
inductive LedgerRef
  | accrual
  | consume (cause : Cause)
  | release
  | legacyConsume
  deriving DecidableEq

structure LedgerEntry where
  ref : LedgerRef
  micros : Int
  releaseAt : Option Int := none

inductive EventKind
  | accrued
  | consumed (cause : Cause)
  | released

/-- A row of `job_risk_reserve_events`. -/
structure ReserveEvent where
  kind : EventKind
  amountNanos : Int
  ledgerMicros : Int

/-- `RiskReserveSnapshot`. -/
structure Reserve where
  pricingDecision : Nat
  currency : Currency
  settledChargeNanos : Int
  accruedNanos : Int
  heldNanos : Int
  consumedNanos : Int := 0
  releasedNanos : Int := 0
  ledgerAccruedMicros : Int
  ledgerHeldMicros : Int
  ledgerConsumedMicros : Int := 0
  ledgerReleasedMicros : Int := 0
  releaseEligibleAt : Int

/-- The reserve of a job, its events with the newest first, and its ledger
rows. -/
structure JobReserve where
  reserve : Option Reserve
  events : List ReserveEvent
  ledger : Table LedgerEntry.ref

def JobReserve.empty : JobReserve := ⟨none, [], Table.empty⟩

inductive Failure
  | noTerminalTime
  | digestMismatch
  | currencyMismatch
  | amount (failure : Pricing.Failure)
  | conflictingAccrual
  | causalRefundRequired
  | windowOpen
  | releaseBlocked
  | projectionOutOfBounds

def maxMoneyAbsMicros : Int := 999999999999

/-- Seven days, in microseconds. -/
def disputeFilingWindow : Int := 7 * 24 * 3600 * 1000000

structure CostPolicy where
  /-- `validateFrozenCostPolicySnapshot` accepts it. -/
  valid : Bool
  riskReserveBasisPoints : Int

structure PricingDecision where
  digest : Nat
  currency : Currency
  costPolicy : Option CostPolicy
  /-- There is a cost schedule and the status of the reserve is modeled. -/
  modeled : Bool
  riskReserveAcceptedNanos : Int
  riskReserveMicros : Int
  buyerPriceMicros : Int
  /-- `FixedPoint.BuyerChargeNanos`, zero without `FixedPoint`. -/
  buyerChargeNanos : Int

structure JobRow where
  pricingDecision : Option Nat
  currency : Currency
  terminalAt : Option Int

def riskReserveLedgerMicrosForAccrual (nanos : Int) : Except Pricing.Failure Int :=
  let whole := nanos / nanosPerMicro
  let micros := if nanos % nanosPerMicro ≠ 0 then whole + 1 else whole
  if nanos ≤ 0 then .error .negativeAmount
  else if micros ≤ 0 ∨ maxMoneyAbsMicros < micros then .error .overflow
  else .ok micros

/-- The nanos to hold back of a settled charge: the basis points of the frozen
policy, or the accepted ratio of older decisions. -/
def accruedNanos (pricing : PricingDecision) (settledChargeNanos : Int) :
    Except Pricing.Failure Int :=
  match pricing.costPolicy with
  | some policy =>
    if policy.valid = false then .error .unsupportedAuthority
    else if policy.riskReserveBasisPoints = 0 then .ok 0
    else mulDiv settledChargeNanos policy.riskReserveBasisPoints 10000 true
  | none =>
    let acceptedRisk :=
      if pricing.riskReserveAcceptedNanos = 0 then pricing.riskReserveMicros * nanosPerMicro
      else pricing.riskReserveAcceptedNanos
    let acceptedBuyer :=
      if 0 < pricing.buyerChargeNanos then pricing.buyerChargeNanos
      else pricing.buyerPriceMicros * nanosPerMicro
    if pricing.modeled = false then .ok 0
    else if acceptedRisk ≤ 0 ∨ acceptedBuyer ≤ 0 ∨ acceptedBuyer ≤ acceptedRisk then
      .error .invalidRate
    else mulDiv settledChargeNanos acceptedRisk acceptedBuyer true

def Reserve.accrual (pricing : PricingDecision) (settled accrued micros terminalAt : Int) :
    Reserve where
  pricingDecision := pricing.digest
  currency := pricing.currency
  settledChargeNanos := settled
  accruedNanos := accrued
  heldNanos := accrued
  ledgerAccruedMicros := micros
  ledgerHeldMicros := micros
  releaseEligibleAt := terminalAt + disputeFilingWindow

/-- What a replay of the accrual is compared by. -/
def Reserve.authority (reserve : Reserve) : Nat × Currency × Int × Int × Int :=
  (reserve.pricingDecision, reserve.currency, reserve.settledChargeNanos, reserve.accruedNanos,
    reserve.ledgerAccruedMicros)

def insertLedgerEntryIfAbsentByRef (ledger : Table LedgerEntry.ref) (entry : LedgerEntry) :
    Table LedgerEntry.ref :=
  (ledger.insertNew entry).getD ledger

def accrueRiskReserveAtSettlement (job : JobReserve) (row : JobRow) (pricing : PricingDecision)
    (settledChargeNanos : Int) : Except Failure JobReserve :=
  match row.terminalAt with
  | none => .error .noTerminalTime
  | some terminalAt =>
    if row.pricingDecision ≠ some pricing.digest then .error .digestMismatch
    else if pricing.currency ≠ row.currency then .error .currencyMismatch
    else if settledChargeNanos ≤ 0 then .ok job
    else
      match accruedNanos pricing settledChargeNanos with
      | .error failure => .error (.amount failure)
      | .ok accrued =>
        if accrued ≤ 0 then .ok job
        else
          match riskReserveLedgerMicrosForAccrual accrued with
          | .error failure => .error (.amount failure)
          | .ok micros =>
            let fresh := Reserve.accrual pricing settledChargeNanos accrued micros terminalAt
            match job.reserve with
            | some existing =>
              if existing.authority ≠ fresh.authority then .error .conflictingAccrual else .ok job
            | none =>
              .ok
                { reserve := some fresh
                  events := ⟨.accrued, accrued, micros⟩ :: job.events
                  ledger := insertLedgerEntryIfAbsentByRef job.ledger
                    ⟨.accrual, micros, some fresh.releaseEligibleAt⟩ }

def ReserveEvent.cause? (event : ReserveEvent) : Option Cause :=
  match event.kind with
  | .consumed cause => some cause
  | .accrued | .released => none

def consumedCauses (events : List ReserveEvent) : List Cause := events.filterMap (·.cause?)

def Reserve.consume (reserve : Reserve) (nanos micros : Int) : Reserve :=
  { reserve with
    heldNanos := reserve.heldNanos - nanos
    consumedNanos := reserve.consumedNanos + nanos
    ledgerHeldMicros := reserve.ledgerHeldMicros - micros
    ledgerConsumedMicros := reserve.ledgerConsumedMicros + micros }

def Reserve.release (reserve : Reserve) : Reserve :=
  { reserve with
    heldNanos := 0
    releasedNanos := reserve.releasedNanos + reserve.heldNanos
    ledgerHeldMicros := 0
    ledgerReleasedMicros := reserve.ledgerReleasedMicros + reserve.ledgerHeldMicros }

/-- A consumption or a release writes a row unless it is below one micro. -/
def takeFromLedger (ledger : Table LedgerEntry.ref) (ref : LedgerRef) (micros : Int) :
    Table LedgerEntry.ref :=
  if 0 < micros then insertLedgerEntryIfAbsentByRef ledger { ref, micros := -micros }
  else ledger

/-- A legacy reserve has ledger rows only and is closed as a whole. -/
def JobReserve.closeLegacy (job : JobReserve) (ref : LedgerRef) (micros : Int) : JobReserve :=
  { job with ledger := insertLedgerEntryIfAbsentByRef job.ledger { ref, micros := -micros } }

def consumeLegacyRiskReserveForCause (job : JobReserve) : Except Failure JobReserve :=
  match job.ledger.find? .accrual with
  | none => .ok job
  | some accrual =>
    if (job.ledger.find? .release).isSome then .error .releaseBlocked
    else .ok (job.closeLegacy .legacyConsume accrual.micros)

def consumeRiskReserveForCause (job : JobReserve) (cause : Cause) (refundNanos : Int) :
    Except Failure JobReserve :=
  match job.reserve with
  | none => consumeLegacyRiskReserveForCause job
  | some reserve =>
    if cause ∈ consumedCauses job.events then .ok job
    else if reserve.heldNanos = 0 then
      if 0 < reserve.releasedNanos then .error .releaseBlocked else .ok job
    else
      let consumeNanos := min refundNanos reserve.heldNanos
      match mulDiv (reserve.consumedNanos + consumeNanos) reserve.ledgerAccruedMicros
        reserve.accruedNanos false with
      | .error failure => .error (.amount failure)
      | .ok ledgerConsumedTarget =>
        let ledgerDelta := ledgerConsumedTarget - reserve.ledgerConsumedMicros
        if ledgerDelta < 0 ∨ reserve.ledgerHeldMicros < ledgerDelta then
          .error .projectionOutOfBounds
        else
          .ok
            { reserve := some (reserve.consume consumeNanos ledgerDelta)
              events := ⟨.consumed cause, consumeNanos, ledgerDelta⟩ :: job.events
              ledger := takeFromLedger job.ledger (.consume cause) ledgerDelta }

/-- `consumeRiskReserveForSLARefundTx` and `consumeRiskReserveForDisputeRefundTx`,
where the refund is the sum of its ledger rows. -/
def consumeRiskReserveForRefund (job : JobReserve) (cause : Cause) (refundNanos : Int) :
    Except Failure JobReserve :=
  if refundNanos ≤ 0 then .error .causalRefundRequired
  else consumeRiskReserveForCause job cause refundNanos

def consumeEach (job : JobReserve) : List (Cause × Int) → Except Failure JobReserve
  | [] => .ok job
  | refund :: rest =>
    (consumeRiskReserveForCause job refund.1 refund.2).bind fun next => consumeEach next rest

/-- `ConsumeRiskReserveOnRefund`, with the sum for each cause of the job. -/
def consumeRiskReserveOnRefund (job : JobReserve) (refunds : List (Cause × Int)) :
    Except Failure JobReserve :=
  let causes := refunds.filter fun refund => decide (0 < refund.2)
  if causes = [] then .error .causalRefundRequired else consumeEach job causes

/-- What a release reads of the job: its disputes, its SLA, the causes with a
refund, and whether any refund row is there. -/
structure Settled where
  activeDispute : Bool
  slaUndecided : Bool
  refunds : List Cause
  refunded : Bool

def releaseLegacyRiskReserve (job : JobReserve) (now : Int) (settled : Settled) :
    Except Failure JobReserve :=
  match job.ledger.find? .accrual with
  | none => .ok job
  | some accrual =>
    if accrual.releaseAt.any fun releaseAt => decide (now ≤ releaseAt) then .error .windowOpen
    else if settled.activeDispute || settled.slaUndecided || settled.refunded then
      .error .releaseBlocked
    else if (job.ledger.find? .release).isSome || (job.ledger.find? .legacyConsume).isSome then
      .ok job
    else .ok (job.closeLegacy .release accrual.micros)

def releaseRiskReserve (job : JobReserve) (now : Int) (settled : Settled) :
    Except Failure JobReserve :=
  match job.reserve with
  | none => releaseLegacyRiskReserve job now settled
  | some reserve =>
    if reserve.heldNanos = 0 then .ok job
    else if now ≤ reserve.releaseEligibleAt then .error .windowOpen
    else if settled.activeDispute || settled.slaUndecided then .error .releaseBlocked
    else if settled.refunds.any fun cause => decide (cause ∉ consumedCauses job.events) then
      .error .releaseBlocked
    else
      .ok
        { reserve := some reserve.release
          events := ⟨.released, reserve.heldNanos, reserve.ledgerHeldMicros⟩ :: job.events
          ledger := takeFromLedger job.ledger .release reserve.ledgerHeldMicros }

inductive Action
  | accrue (row : JobRow) (pricing : PricingDecision) (settledChargeNanos : Int)
  | consume (cause : Cause) (refundNanos : Int)
  | consumeOnRefund (refunds : List (Cause × Int))
  | release (now : Int) (settled : Settled)

def jobStep (job : JobReserve) : Action → Except Failure JobReserve
  | .accrue row pricing settled => accrueRiskReserveAtSettlement job row pricing settled
  | .consume cause refundNanos => consumeRiskReserveForRefund job cause refundNanos
  | .consumeOnRefund refunds => consumeRiskReserveOnRefund job refunds
  | .release now settled => releaseRiskReserve job now settled

/-- The reserves of all jobs; a transaction is about one of them. -/
def step (jobs : Nat → JobReserve) (call : Nat × Action) : Except Failure (Nat → JobReserve) :=
  (jobStep (jobs call.1) call.2).map (Function.update jobs call.1)

def consumedSum (events : List ReserveEvent) : Int :=
  Rows.sumWhere (·.cause?.isSome) ReserveEvent.amountNanos events

/-- A release closes the reserve for every later consumption. -/
def NotAfterRelease (newer older : ReserveEvent) : Prop :=
  older.kind = .released → newer.cause? = none

def Reserve.Balanced (reserve : Reserve) : Prop :=
  reserve.accruedNanos = reserve.heldNanos + reserve.consumedNanos + reserve.releasedNanos ∧
    reserve.ledgerAccruedMicros =
      reserve.ledgerHeldMicros + reserve.ledgerConsumedMicros + reserve.ledgerReleasedMicros

structure Conserved (job : JobReserve) : Prop where
  balanced : ∀ reserve, job.reserve = some reserve → reserve.Balanced
  ledger : job.ledger.total LedgerEntry.micros = (job.reserve.map Reserve.ledgerHeldMicros).getD 0
  consumed : (job.reserve.map Reserve.consumedNanos).getD 0 = consumedSum job.events
  once : (consumedCauses job.events).Nodup
  closed : job.events.Pairwise NotAfterRelease

/-- A row whose ledger micros follow its nanos.  While something is held,
nothing has been released. -/
structure Reserve.Sound (reserve : Reserve) : Prop where
  positive : 0 < reserve.accruedNanos
  ledgerRange : 0 < reserve.ledgerAccruedMicros ∧ reserve.ledgerAccruedMicros ≤ maxMoneyAbsMicros
  held : 0 ≤ reserve.heldNanos
  consumed : 0 ≤ reserve.consumedNanos
  balanced : reserve.Balanced
  projected : reserve.ledgerConsumedMicros =
    reserve.consumedNanos * reserve.ledgerAccruedMicros / reserve.accruedNanos
  unreleased : reserve.heldNanos ≠ 0 → reserve.releasedNanos = 0 ∧ reserve.ledgerReleasedMicros = 0

structure Booked (reserve : Reserve) (events : List ReserveEvent)
    (ledger : Table LedgerEntry.ref) : Prop where
  row : reserve.Sound
  total : ledger.total LedgerEntry.micros = reserve.ledgerHeldMicros
  consumed : reserve.consumedNanos = consumedSum events
  once : (consumedCauses events).Nodup
  closed : events.Pairwise NotAfterRelease
  fresh : ∀ cause, cause ∉ consumedCauses events → ledger.find? (.consume cause) = none
  unreleased : reserve.heldNanos ≠ 0 →
    ledger.find? .release = none ∧ ∀ event ∈ events, event.kind ≠ .released

inductive Sound : JobReserve → Prop
  | new : Sound .empty
  | booked {reserve : Reserve} {events : List ReserveEvent} {ledger : Table LedgerEntry.ref}
      (books : Booked reserve events ledger) : Sound ⟨some reserve, events, ledger⟩

theorem Sound.conserved {job : JobReserve} (sound : Sound job) : Conserved job := by
  cases sound with
  | new =>
    refine ⟨?_, rfl, rfl, List.nodup_nil, .nil⟩
    intro reserve isThere
    cases isThere
  | booked books =>
    refine ⟨?_, books.total, books.consumed, books.once, books.closed⟩
    intro reserve isThere
    cases isThere
    exact books.row.balanced

variable {job : JobReserve} {reserve : Reserve} {events : List ReserveEvent}
  {ledger : Table LedgerEntry.ref} {ref other : LedgerRef} {micros more refundNanos : Int}
  {cause : Cause}

theorem total_takeFromLedger (fresh : ledger.find? ref = none) (nonneg : 0 ≤ micros) :
    (takeFromLedger ledger ref micros).total LedgerEntry.micros =
      ledger.total LedgerEntry.micros - micros := by
  unfold takeFromLedger insertLedgerEntryIfAbsentByRef
  split_ifs
  · have inserted : ledger.insertNew { ref, micros := -micros } = some (ledger.insert _ fresh) :=
      insertNew_eq_some.mpr ⟨fresh, rfl⟩
    rw [inserted, Option.getD_some, total_insert, sub_eq_add_neg]
  · omega

theorem find?_takeFromLedger (ne : ref ≠ other) :
    (takeFromLedger ledger ref micros).find? other = ledger.find? other := by
  unfold takeFromLedger insertLedgerEntryIfAbsentByRef
  split_ifs
  · cases inserted : ledger.insertNew { ref, micros := -micros } with
    | none => rfl
    | some =>
      obtain ⟨_, rfl⟩ := insertNew_eq_some.mp inserted
      rw [Option.getD_some, find?_insert, if_neg ne]
  · rfl

/-- The projection of a larger consumption is not smaller, and at most the
whole accrual. -/
theorem Reserve.Sound.projection (sound : reserve.Sound) (nonneg : 0 ≤ more)
    (within : more ≤ reserve.heldNanos) (isHeld : reserve.heldNanos ≠ 0) :
    let target :=
      (reserve.consumedNanos + more) * reserve.ledgerAccruedMicros / reserve.accruedNanos
    mulDiv (reserve.consumedNanos + more) reserve.ledgerAccruedMicros reserve.accruedNanos false =
        .ok target ∧
      reserve.ledgerConsumedMicros ≤ target ∧
        target - reserve.ledgerConsumedMicros ≤ reserve.ledgerHeldMicros := by
  intro target
  have consumed := sound.consumed
  obtain ⟨_, _⟩ := sound.balanced
  obtain ⟨ledgerPositive, ledgerFits⟩ := sound.ledgerRange
  obtain ⟨_, _⟩ := sound.unreleased isHeld
  have upper : target ≤ reserve.ledgerAccruedMicros := by
    refine Int.ediv_le_of_le_mul sound.positive ?_
    rw [mul_comm reserve.ledgerAccruedMicros]
    exact mul_le_mul_of_nonneg_right (by omega) ledgerPositive.le
  have lower : reserve.ledgerConsumedMicros ≤ target := by
    rw [sound.projected]
    exact Int.ediv_le_ediv sound.positive (mul_le_mul_of_nonneg_right (by omega) ledgerPositive.le)
  refine ⟨?_, lower, by omega⟩
  rw [mulDiv_eq_ok (by omega) ledgerPositive.le sound.positive, roundedDiv_down]
  refine ⟨rfl, upper.trans (ledgerFits.trans ?_)⟩
  decide

theorem Reserve.Sound.consume (sound : reserve.Sound) (nonneg : 0 ≤ more)
    (within : more ≤ reserve.heldNanos) (isHeld : reserve.heldNanos ≠ 0)
    (projects : reserve.ledgerConsumedMicros + micros =
      (reserve.consumedNanos + more) * reserve.ledgerAccruedMicros / reserve.accruedNanos) :
    (reserve.consume more micros).Sound where
  __ := sound
  held := Int.sub_nonneg_of_le within
  consumed := add_nonneg sound.consumed nonneg
  balanced := by
    obtain ⟨_, micros⟩ := sound.balanced
    dsimp only [Reserve.Balanced, Reserve.consume]
    omega
  projected := projects
  unreleased := fun _ => sound.unreleased isHeld

theorem Reserve.Sound.release (sound : reserve.Sound) : reserve.release.Sound where
  __ := sound
  held := le_rfl
  balanced := by
    obtain ⟨_, _⟩ := sound.balanced
    dsimp only [Reserve.Balanced, Reserve.release]
    omega
  unreleased := fun isHeld => absurd rfl isHeld

/-- What a transaction ends in: a sound reserve, or a failure that is not the
projection out of bounds. -/
def Kept : Except Failure JobReserve → Prop
  | .ok next => Sound next
  | .error failure => failure ≠ .projectionOutOfBounds

section

variable (books : Booked reserve events ledger)

include books

theorem Booked.closed_cons (isHeld : reserve.heldNanos ≠ 0)
    (event : ReserveEvent) : (event :: events).Pairwise NotAfterRelease := by
  refine List.pairwise_cons.mpr ⟨?_, books.closed⟩
  intro older mem isRelease
  exact absurd isRelease ((books.unreleased isHeld).2 older mem)

theorem Booked.consume (unconsumed : cause ∉ consumedCauses events) (isHeld : reserve.heldNanos ≠ 0)
    (sound : (reserve.consume more micros).Sound) (nonneg : 0 ≤ micros) :
    Booked (reserve.consume more micros) (⟨.consumed cause, more, micros⟩ :: events)
      (takeFromLedger ledger (.consume cause) micros) where
  row := sound
  total := by
    rw [total_takeFromLedger (books.fresh cause unconsumed) nonneg, books.total]
    rfl
  consumed := by
    dsimp only [Reserve.consume]
    rw [books.consumed, add_comm]
    rfl
  once := List.nodup_cons.mpr ⟨unconsumed, books.once⟩
  closed := books.closed_cons isHeld _
  fresh := by
    intro other notConsumed
    obtain ⟨ne, notConsumed⟩ := not_or.mp (mt List.mem_cons.mpr notConsumed)
    rw [find?_takeFromLedger (by simpa using Ne.symm ne)]
    exact books.fresh other notConsumed
  unreleased := by
    obtain ⟨noRow, noEvent⟩ := books.unreleased isHeld
    intro _
    constructor
    · rw [find?_takeFromLedger (by simp)]
      exact noRow
    · exact List.forall_mem_cons.mpr ⟨by simp, noEvent⟩

theorem Booked.release (isHeld : reserve.heldNanos ≠ 0) (nonneg : 0 ≤ reserve.ledgerHeldMicros) :
    Booked reserve.release (⟨.released, reserve.heldNanos, reserve.ledgerHeldMicros⟩ :: events)
      (takeFromLedger ledger .release reserve.ledgerHeldMicros) where
  row := books.row.release
  total := by
    rw [total_takeFromLedger (books.unreleased isHeld).1 nonneg, books.total]
    exact sub_self _
  consumed := books.consumed.trans (zero_add _).symm
  once := books.once
  closed := books.closed_cons isHeld _
  fresh := by
    intro cause unconsumed
    rw [find?_takeFromLedger (by simp)]
    exact books.fresh cause unconsumed
  unreleased := fun isHeld => absurd rfl isHeld

end

theorem consumeRiskReserveForCause_kept (sound : Sound job) (pos : 0 < refundNanos) :
    Kept (consumeRiskReserveForCause job cause refundNanos) := by
  cases sound with
  | new => exact .new
  | @booked reserve events ledger books =>
    have held := books.row.held
    unfold consumeRiskReserveForCause
    dsimp only
    split_ifs with replayed isEmpty
    · exact .booked books
    · simp [Kept]
    · exact .booked books
    generalize amount : min refundNanos reserve.heldNanos = more
    have nonneg : 0 ≤ more := by omega
    have within : more ≤ reserve.heldNanos := by omega
    obtain ⟨projects, lower, _⟩ := books.row.projection nonneg within isEmpty
    rw [projects]
    dsimp only
    rw [if_neg (by omega)]
    refine .booked (books.consume replayed isEmpty ?_ (Int.sub_nonneg_of_le lower))
    exact books.row.consume nonneg within isEmpty (by omega)

theorem consumeEach_kept {refunds : List (Cause × Int)} (sound : Sound job)
    (pos : ∀ refund ∈ refunds, 0 < refund.2) : Kept (consumeEach job refunds) := by
  induction refunds generalizing job with
  | nil => exact sound
  | cons refund rest ih =>
    have first : Kept (consumeRiskReserveForCause job refund.1 refund.2) :=
      consumeRiskReserveForCause_kept sound (pos refund List.mem_cons_self)
    rw [consumeEach]
    cases outcome : consumeRiskReserveForCause job refund.1 refund.2 with
    | error =>
      rw [outcome] at first
      exact first
    | ok =>
      rw [outcome] at first
      exact ih first fun other mem => pos other (List.mem_cons_of_mem _ mem)

theorem releaseRiskReserve_kept {now : Int} {settled : Settled} (sound : Sound job) :
    Kept (releaseRiskReserve job now settled) := by
  cases sound with
  | new => exact .new
  | @booked reserve events ledger books =>
    unfold releaseRiskReserve
    dsimp only
    split_ifs with isEmpty
    · exact .booked books
    · simp [Kept]
    · simp [Kept]
    · simp [Kept]
    · have held := (books.row.projection le_rfl books.row.held isEmpty).2
      exact .booked (books.release isEmpty (by omega))

theorem booked_accrual {pricing : PricingDecision} {settled accrued terminalAt : Int}
    (pos : 0 < accrued) (projected : riskReserveLedgerMicrosForAccrual accrued = .ok micros) :
    Sound
      { reserve := some (.accrual pricing settled accrued micros terminalAt)
        events := [⟨.accrued, accrued, micros⟩]
        ledger := insertLedgerEntryIfAbsentByRef Table.empty
          ⟨.accrual, micros, some (terminalAt + disputeFilingWindow)⟩ } := by
  have range : 0 < micros ∧ micros ≤ maxMoneyAbsMicros := by
    unfold riskReserveLedgerMicrosForAccrual at projected
    simp only [ite_error_eq_ok, Except.ok.injEq] at projected
    omega
  refine .booked ⟨⟨pos, range, pos.le, le_rfl, ?_, ?_, fun _ => ⟨rfl, rfl⟩⟩,
    add_zero micros, rfl, List.nodup_nil, List.pairwise_singleton _ _, fun _ _ => rfl, ?_⟩
  · simp [Reserve.accrual, Reserve.Balanced]
  · simp [Reserve.accrual]
  · intro _
    exact ⟨rfl, by simp⟩

theorem accrueRiskReserveAtSettlement_kept {row : JobRow} {pricing : PricingDecision}
    {settled : Int} (sound : Sound job) :
    Kept (accrueRiskReserveAtSettlement job row pricing settled) := by
  unfold accrueRiskReserveAtSettlement
  cases row.terminalAt with
  | none => simp [Kept]
  | some =>
    split_ifs
    · simp [Kept]
    · simp [Kept]
    · exact sound
    cases accruedNanos pricing settled with
    | error => simp [Kept]
    | ok accrued =>
      dsimp only
      split_ifs
      · exact sound
      cases projected : riskReserveLedgerMicrosForAccrual accrued with
      | error => simp [Kept]
      | ok =>
        cases sound with
        | new => exact booked_accrual (by omega) projected
        | booked books =>
          dsimp only
          split_ifs
          · simp [Kept]
          · exact .booked books

theorem jobStep_kept (sound : Sound job) (action : Action) : Kept (jobStep job action) := by
  cases action with
  | accrue => exact accrueRiskReserveAtSettlement_kept sound
  | consume =>
    simp only [jobStep, consumeRiskReserveForRefund]
    split_ifs
    · simp [Kept]
    · exact consumeRiskReserveForCause_kept sound (by omega)
  | consumeOnRefund =>
    simp only [jobStep, consumeRiskReserveOnRefund]
    split_ifs
    · simp [Kept]
    · refine consumeEach_kept sound ?_
      intro refund mem
      exact of_decide_eq_true (List.mem_filter.mp mem).2
  | release => exact releaseRiskReserve_kept sound

variable {jobs next : Nat → JobReserve} {call : Nat × Action}

theorem step_sound (sound : ∀ job, Sound (jobs job)) (ran : step jobs call = .ok next) :
    ∀ job, Sound (next job) := by
  have kept := jobStep_kept (sound call.1) call.2
  unfold step at ran
  rcases outcome : jobStep (jobs call.1) call.2 with _ | _
  · simp [outcome, Except.map] at ran
  rw [outcome] at ran kept
  cases ran
  intro job
  by_cases same : job = call.1
  · rw [same, Function.update_self]
    exact kept
  · rw [Function.update_of_ne same]
    exact sound job

theorem step_projects (sound : ∀ job, Sound (jobs job)) :
    step jobs call ≠ .error .projectionOutOfBounds := by
  have kept := jobStep_kept (sound call.1) call.2
  unfold step
  cases outcome : jobStep (jobs call.1) call.2 with
  | error =>
    rw [outcome] at kept
    exact fun failed => kept (Except.error.inj failed)
  | ok => simp [Except.map]

/-- In every run every reserve is conserved, and no transaction finds the
projection of a consumption out of bounds. -/
theorem risk_reserve_conserved (calls : List (Nat × Action)) :
    Always step (fun jobs => ∀ job, Conserved (jobs job)) (fun _ => .empty) calls ∧
      Meets step (fun jobs call => step jobs call ≠ .error .projectionOutOfBounds)
        (fun _ => .empty) calls := by
  have preserved : ∀ jobs call next, (∀ job, Sound (jobs job)) → step jobs call = .ok next →
      ∀ job, Sound (next job) := fun _ _ _ => step_sound
  constructor
  · exact always_of_invariant preserved (fun _ sound job => (sound job).conserved) calls
      fun _ => .new
  · exact meets_of_invariant preserved (fun _ _ => step_projects) calls fun _ => .new

end MercControl.RiskReserve
