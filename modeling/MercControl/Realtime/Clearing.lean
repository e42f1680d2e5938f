import MercControl.Pricing.ExactMoney

/-!
# Verified-outcome cost

Offers of the realtime market are ranked by what a verified outcome costs: the
ask, divided by the measured share of attempts that deliver and of settlements
that are not refunded.
-/

namespace MercControl.Realtime.Clearing

open Pricing

def minRealtimeOutcomeSamples : Int := 5

def undeliveredCost : Int := maxInt64 / 4

structure Outcomes where
  terminalAttempts : Int
  terminalFails : Int
  verifiedSettlements : Int
  refundCount : Int

def divRoundUp (num den : Int) : Int :=
  if den ≤ 0 then maxInt64
  else if num ≤ 0 then 0
  else if num % den ≠ 0 then
    if num / den = maxInt64 then maxInt64 else num / den + 1
  else num / den

/-- Both adjustments: `losses` of the `samples` gave no outcome.  `int64` is
what becomes of a product. -/
def adjust (int64 : Int → Int) (cost samples losses : Int) : Int :=
  if minRealtimeOutcomeSamples ≤ samples ∧ 0 ≤ losses then
    if samples ≤ losses then undeliveredCost
    else divRoundUp (int64 (cost * samples)) (samples - losses)
  else cost

/-- The cost of `realtimeVerifiedOutcomeCostNanos`, without the rates and flags
that a receipt shows beside it. -/
def verifiedOutcomeCost (int64 : Int → Int) (inputNanos outputNanos : Int)
    (outcomes : Outcomes) : Int :=
  let cost := int64 (inputNanos + outputNanos)
  if inputNanos < 0 ∨ outputNanos < 0 then 0
  else if cost < 0 then maxInt64
  else
    adjust int64 (adjust int64 cost outcomes.terminalAttempts outcomes.terminalFails)
      outcomes.verifiedSettlements outcomes.refundCount

def wrap (value : Int) : Int := Int.bmod value (2 ^ 64)

def realtimeVerifiedOutcomeCostNanos : Int → Int → Outcomes → Int := verifiedOutcomeCost wrap

def warmthRank : String → Nat
  | "HOT" => 0
  | "WARM" => 1
  | "CACHED" => 2
  | "COLD" => 3
  | _ => 4

/-- What `realtimeOfferBeats` compares after the costs. -/
structure Standing where
  warmth : String
  available : Int
  workerID : String

def realtimeOfferBeats (aCost bCost : Int) (a b : Standing) : Bool :=
  if aCost ≠ bCost then aCost < bCost
  else if warmthRank a.warmth ≠ warmthRank b.warmth then warmthRank a.warmth < warmthRank b.warmth
  else if a.available ≠ b.available then b.available < a.available
  else a.workerID < b.workerID

/-- Fails and verified settlements of different attempts, and an ask that the
attempts do not carry to `undeliveredCost`. -/
structure Outcomes.Fit (outcomes : Outcomes) (inputNanos outputNanos : Int) : Prop where
  asked : 0 ≤ inputNanos ∧ 0 ≤ outputNanos
  fails : 0 ≤ outcomes.terminalFails
  verified : 0 ≤ outcomes.verifiedSettlements
  refunds : 0 ≤ outcomes.refundCount
  attempts : outcomes.terminalFails + outcomes.verifiedSettlements ≤ outcomes.terminalAttempts
  fits : (inputNanos + outputNanos) * max outcomes.terminalAttempts 1 +
    outcomes.verifiedSettlements < undeliveredCost

theorem divRoundUp_le_iff {num den bound : Int} (range : 0 ≤ num ∧ num ≤ maxInt64) (pos : 0 < den)
    (nonneg : 0 ≤ bound) : divRoundUp num den ≤ bound ↔ num ≤ bound * den := by
  have division := Int.mul_ediv_add_emod num den
  unfold divRoundUp
  rw [if_neg pos.not_ge]
  split_ifs with zero inexact huge
  · exact iff_of_true nonneg (zero.trans (mul_nonneg nonneg pos.le))
  · have remainder := Int.emod_nonneg num pos.ne'
    have large : 1 * maxInt64 ≤ den * maxInt64 := mul_le_mul_of_nonneg_right pos (by decide)
    rw [huge] at division
    omega
  · rw [Int.add_one_le_iff, Int.ediv_lt_iff_lt_mul pos]
    refine ⟨le_of_lt, fun le => lt_of_le_of_ne le ?_⟩
    rintro rfl
    exact inexact (Int.mul_emod_left bound den)
  · rw [not_not.mp inexact, add_zero, mul_comm] at division
    nth_rewrite 2 [← division]
    exact (mul_le_mul_iff_left₀ pos).symm

theorem divRoundUp_nonneg {num den : Int} (nonneg : 0 ≤ num) : 0 ≤ divRoundUp num den := by
  unfold divRoundUp
  split_ifs with none
  · decide
  · exact le_rfl
  · decide
  · have quotient := Int.ediv_nonneg nonneg (not_le.mp none).le
    omega
  · exact Int.ediv_nonneg nonneg (not_le.mp none).le

theorem divRoundUp_mul_lt {num den part : Int} (range : 0 ≤ num ∧ num ≤ maxInt64)
    (pos : 0 < part) (le : part ≤ den) : divRoundUp num den * part < num + part := by
  have nonneg : 0 ≤ divRoundUp num den := divRoundUp_nonneg range.1
  rcases nonneg.eq_or_lt with zero | some
  · rw [← zero]
    omega
  · have bound : 0 ≤ divRoundUp num den - 1 := Int.le_sub_one_of_lt some
    have least := (divRoundUp_le_iff range (pos.trans_le le) bound).not.mp (by omega)
    have fewer := mul_le_mul_of_nonneg_left le bound
    rw [Int.sub_mul, Int.one_mul] at fewer
    omega

theorem wrap_of_range {value : Int} (range : 0 ≤ value ∧ value ≤ maxInt64) :
    wrap value = value := by
  unfold maxInt64 at range
  refine Int.bmod_eq_of_le ?_ ?_ <;> omega

def Within (cost samples : Int) : Prop := 0 ≤ cost ∧ cost * max samples 1 ≤ undeliveredCost

variable {cost other samples losses more : Int}

section

variable (within : Within cost samples)

include within

theorem Within.le : cost ≤ undeliveredCost :=
  (le_mul_of_one_le_right within.1 (le_max_right samples 1)).trans within.2

theorem Within.product (measured : minRealtimeOutcomeSamples ≤ samples) :
    max samples 1 = samples ∧ 0 ≤ cost * samples ∧ cost * samples ≤ maxInt64 := by
  obtain ⟨nonneg, fits⟩ := within
  have pos : 1 ≤ samples := le_trans (by decide) measured
  rw [max_eq_left pos] at fits ⊢
  exact ⟨rfl, mul_nonneg nonneg (by omega), fits.trans (by decide)⟩

theorem adjust_wrap : adjust wrap cost samples losses = adjust id cost samples losses := by
  unfold adjust
  split_ifs with measured
  · rfl
  · rw [wrap_of_range (within.product measured.1).2, id]
  · rfl

theorem le_adjust : cost ≤ adjust id cost samples losses := by
  unfold adjust
  split_ifs with measured
  · exact within.le
  · obtain ⟨-, range⟩ := within.product measured.1
    have kept : 0 < samples - losses := by omega
    have covers := (divRoundUp_le_iff range kept (divRoundUp_nonneg range.1)).mp le_rfl
    have less : cost * (samples - losses) ≤ cost * samples :=
      mul_le_mul_of_nonneg_left (by omega) within.1
    exact le_of_mul_le_mul_right (less.trans covers) kept
  · exact le_rfl

theorem adjust_le (kept : minRealtimeOutcomeSamples ≤ samples → losses < samples) :
    adjust id cost samples losses ≤ cost * max samples 1 := by
  unfold adjust
  split_ifs with measured lost
  · exact absurd (kept measured.1) lost.not_gt
  · obtain ⟨isMax, range⟩ := within.product measured.1
    rw [isMax]
    refine (divRoundUp_le_iff range (by omega) range.1).mpr ?_
    exact le_mul_of_one_le_right range.1 (by omega)
  · exact le_mul_of_one_le_right within.1 (le_max_right samples 1)

theorem adjust_le_undelivered : adjust id cost samples losses ≤ undeliveredCost := by
  by_cases kept : losses < samples
  · exact (adjust_le within fun _ => kept).trans within.2
  · unfold adjust
    split_ifs
    · exact le_rfl
    · omega
    · exact within.le

end

theorem adjust_mono (within : Within other samples) (nonneg : 0 ≤ cost) (lower : cost ≤ other)
    (lossesNonneg : 0 ≤ losses) (fewer : losses ≤ more) :
    adjust id cost samples losses ≤ adjust id other samples more := by
  have lowerWithin : Within cost samples :=
    ⟨nonneg, (mul_le_mul_of_nonneg_right lower (by omega)).trans within.2⟩
  by_cases measured : minRealtimeOutcomeSamples ≤ samples
  · by_cases lost : samples ≤ more
    · have isLost : adjust id other samples more = undeliveredCost := by
        rw [adjust, if_pos ⟨measured, by omega⟩, if_pos lost]
      rw [isLost]
      exact adjust_le_undelivered lowerWithin
    · obtain ⟨-, range⟩ := lowerWithin.product measured
      obtain ⟨-, otherRange⟩ := within.product measured
      unfold adjust
      rw [if_pos ⟨measured, lossesNonneg⟩, if_neg (by omega), if_pos ⟨measured, by omega⟩,
        if_neg lost]
      have rounded : 0 ≤ divRoundUp (other * samples) (samples - more) :=
        divRoundUp_nonneg otherRange.1
      refine (divRoundUp_le_iff range (by omega) rounded).mpr ?_
      calc cost * samples
        _ ≤ other * samples := mul_le_mul_of_nonneg_right lower (le_trans (by decide) measured)
        _ ≤ divRoundUp (other * samples) (samples - more) * (samples - more) :=
          (divRoundUp_le_iff otherRange (by omega) rounded).mp le_rfl
        _ ≤ divRoundUp (other * samples) (samples - more) * (samples - losses) :=
          mul_le_mul_of_nonneg_left (by omega) rounded
  · rw [adjust, if_neg (by simp [measured]), adjust, if_neg (by simp [measured])]
    exact lower

section

variable {input output : Int} {outcomes : Outcomes} (fit : outcomes.Fit input output)

include fit

theorem Outcomes.Fit.attempted : Within (input + output) outcomes.terminalAttempts := by
  have asked := fit.asked
  have verified := fit.verified
  have fits := fit.fits
  exact ⟨by omega, by omega⟩

/-- The settlements are among the attempts that did not fail, so the product of
the second adjustment exceeds that of the first by less than the rounding. -/
theorem Outcomes.Fit.product_lt (kept : outcomes.terminalFails < outcomes.terminalAttempts) :
    adjust id (input + output) outcomes.terminalAttempts outcomes.terminalFails *
      max outcomes.verifiedSettlements 1 < undeliveredCost := by
  have attempts := fit.attempts
  have verified := fit.verified
  have fits := fit.fits
  by_cases measured : minRealtimeOutcomeSamples ≤ outcomes.terminalAttempts
  · obtain ⟨isMax, range⟩ := fit.attempted.product measured
    rw [isMax] at fits
    rw [adjust, if_pos ⟨measured, fit.fails⟩, if_neg kept.not_ge]
    have rounded := divRoundUp_mul_lt range (show 0 < max outcomes.verifiedSettlements 1 by omega)
      (show _ ≤ outcomes.terminalAttempts - outcomes.terminalFails by omega)
    rw [id]
    omega
  · have ask := fit.attempted.1
    have unadjusted : adjust id (input + output) outcomes.terminalAttempts
        outcomes.terminalFails = input + output := if_neg fun both => measured both.1
    have fewer : (input + output) * max outcomes.verifiedSettlements 1 ≤
        (input + output) * max outcomes.terminalAttempts 1 :=
      mul_le_mul_of_nonneg_left (by have fails := fit.fails; omega) ask
    rw [unadjusted]
    omega

theorem Outcomes.Fit.delivered :
    Within (adjust id (input + output) outcomes.terminalAttempts outcomes.terminalFails)
      outcomes.verifiedSettlements := by
  refine ⟨fit.attempted.1.trans (le_adjust fit.attempted), ?_⟩
  have attempts := fit.attempts
  by_cases kept : outcomes.terminalFails < outcomes.terminalAttempts
  · exact (fit.product_lt kept).le
  · rw [max_eq_right (by omega), mul_one]
    exact adjust_le_undelivered fit.attempted

theorem Outcomes.Fit.cost_eq : realtimeVerifiedOutcomeCostNanos input output outcomes =
    adjust id (adjust id (input + output) outcomes.terminalAttempts outcomes.terminalFails)
      outcomes.verifiedSettlements outcomes.refundCount := by
  have asked := fit.asked
  have ask := wrap_of_range ⟨fit.attempted.1, fit.attempted.le.trans (by decide)⟩
  simp only [realtimeVerifiedOutcomeCostNanos, verifiedOutcomeCost, ask]
  rw [if_neg (by omega), if_neg (by omega), adjust_wrap fit.attempted, adjust_wrap fit.delivered]

theorem Outcomes.Fit.cost_lt (some : 0 < outcomes.verifiedSettlements)
    (kept : minRealtimeOutcomeSamples ≤ outcomes.verifiedSettlements →
      outcomes.refundCount < outcomes.verifiedSettlements) :
    realtimeVerifiedOutcomeCostNanos input output outcomes < undeliveredCost := by
  have attempts := fit.attempts
  rw [fit.cost_eq]
  exact (adjust_le fit.delivered kept).trans_lt (fit.product_lt (by omega))

theorem Outcomes.Fit.cost_undelivered
    (measured : minRealtimeOutcomeSamples ≤ outcomes.terminalAttempts)
    (failed : outcomes.terminalFails = outcomes.terminalAttempts) :
    realtimeVerifiedOutcomeCostNanos input output outcomes = undeliveredCost := by
  have attempts := fit.attempts
  have unmeasured : ¬ minRealtimeOutcomeSamples ≤ outcomes.verifiedSettlements := by
    unfold minRealtimeOutcomeSamples
    omega
  rw [fit.cost_eq, adjust, if_neg (by simp [unmeasured]), adjust, if_pos ⟨measured, fit.fails⟩,
    if_pos failed.ge]

end

/-- With fails and verified outcomes together within the attempts, and an ask
that the attempts do not carry to a quarter of the largest `int64`: nothing
wraps, the cost is at least the ask and rises with fails and refunds, and a
supplier that failed in all of five or more attempts does not beat one with a
verified outcome, unless five or more were verified and all of them
refunded. -/
theorem verified_outcome_cost_ranks {inputNanos outputNanos : Int} {outcomes : Outcomes}
    (fit : outcomes.Fit inputNanos outputNanos) :
    let cost := realtimeVerifiedOutcomeCostNanos inputNanos outputNanos
    cost outcomes = verifiedOutcomeCost id inputNanos outputNanos outcomes ∧
      inputNanos + outputNanos ≤ cost outcomes ∧
      (∀ worse : Outcomes, worse.Fit inputNanos outputNanos →
        worse.terminalAttempts = outcomes.terminalAttempts →
        worse.verifiedSettlements = outcomes.verifiedSettlements →
        outcomes.terminalFails ≤ worse.terminalFails →
        outcomes.refundCount ≤ worse.refundCount → cost outcomes ≤ cost worse) ∧
      ∀ failing : Outcomes, failing.Fit inputNanos outputNanos →
        minRealtimeOutcomeSamples ≤ failing.terminalAttempts →
        failing.terminalFails = failing.terminalAttempts →
        0 < outcomes.verifiedSettlements →
        (minRealtimeOutcomeSamples ≤ outcomes.verifiedSettlements →
          outcomes.refundCount < outcomes.verifiedSettlements) →
        ∀ a b, realtimeOfferBeats (cost failing) (cost outcomes) a b = false := by
  refine ⟨?_, ?_, ?_, ?_⟩
  · have asked := fit.asked
    simp only [fit.cost_eq, verifiedOutcomeCost, id]
    rw [if_neg (by omega), if_neg (by omega)]
  · rw [fit.cost_eq]
    exact (le_adjust fit.attempted).trans (le_adjust fit.delivered)
  · intro worse worseFit sameAttempts sameVerified moreFails moreRefunds
    have delivered := worseFit.delivered
    rw [fit.cost_eq, worseFit.cost_eq]
    rw [sameAttempts, sameVerified] at delivered ⊢
    refine adjust_mono delivered fit.delivered.1 ?_ fit.refunds moreRefunds
    exact adjust_mono fit.attempted fit.attempted.1 le_rfl fit.fails moreFails
  · intro failing failingFit measured failed some kept a b
    have less := fit.cost_lt some kept
    rw [← failingFit.cost_undelivered measured failed] at less
    rw [realtimeOfferBeats, if_pos less.ne', decide_eq_false less.not_gt]

theorem busy_supplier_not_beaten :
    6 * 10 ^ 8 ≤ realtimeVerifiedOutcomeCostNanos (6 * 10 ^ 8) 0 ⟨100000, 0, 100000, 9⟩ ∧
      ∀ a b, realtimeOfferBeats (realtimeVerifiedOutcomeCostNanos (6 * 10 ^ 8) 0 ⟨6, 6, 0, 0⟩)
        (realtimeVerifiedOutcomeCostNanos (6 * 10 ^ 8) 0 ⟨100000, 0, 100000, 9⟩) a b = false := by
  have fit : Outcomes.Fit ⟨100000, 0, 100000, 9⟩ (6 * 10 ^ 8) 0 := by constructor <;> decide
  have failingFit : Outcomes.Fit ⟨6, 6, 0, 0⟩ (6 * 10 ^ 8) 0 := by constructor <;> decide
  have ranks := verified_outcome_cost_ranks fit
  exact ⟨ranks.2.1, ranks.2.2.2 _ failingFit (by decide) rfl (by decide) fun _ => by decide⟩

/-- The cost of a supplier that never delivered and has five settlements wraps,
as does that of a large ask; four failed attempts are not counted; and five
refunded settlements cost what a supplier costs that never delivered. -/
theorem failed_supplier_costs_nothing :
    realtimeVerifiedOutcomeCostNanos 1 0 ⟨5, 5, 5, 0⟩ = 0 ∧
      realtimeVerifiedOutcomeCostNanos (2 ^ 62) 0 ⟨8, 0, 0, 0⟩ = 0 ∧
      realtimeVerifiedOutcomeCostNanos 1 0 ⟨4, 4, 0, 0⟩ <
        realtimeVerifiedOutcomeCostNanos 1 0 ⟨8, 4, 4, 0⟩ ∧
      realtimeOfferBeats (realtimeVerifiedOutcomeCostNanos 1 0 ⟨5, 5, 0, 0⟩)
        (realtimeVerifiedOutcomeCostNanos 1 0 ⟨5, 0, 5, 5⟩)
        ⟨"COLD", 1, "a"⟩ ⟨"COLD", 0, "b"⟩ = true := by
  decide

end MercControl.Realtime.Clearing
