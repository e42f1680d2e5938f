import MercControl.Pricing.ExactMoney

/-!
# Task floors

An hourly floor is turned into the least amount of a task, from a duration or
from a number of units and a throughput.  Both divisions round up.
-/

namespace MercControl.Pricing

open Library Machine

def nanosecondsPerHour : Int := 3600 * nanosPerMajorUnit

def requiredTaskNanosFromHourlyFloor (currency : Currency) (floor predicted : Int) :
    Except Failure MoneyNanos :=
  if floor < 0 then .error .negativeAmount
  else if predicted < 0 then .error .negativeAmount
  else (mulDiv floor predicted nanosecondsPerHour true).bind fun nanos => .ok ⟨currency, nanos⟩

def requiredTaskNanosFromThroughput (currency : Currency) (floor units throughput : Int) :
    Except Failure MoneyNanos :=
  if throughput ≤ 0 then .error .invalidRate
  else if units < 0 then .error .negativeAmount
  else (mulDiv units nanosPerMajorUnit throughput true).bind fun durationNanos =>
    requiredTaskNanosFromHourlyFloor currency floor durationNanos

/-- The amount is at least `floor * units / (throughput * 3600)`, and more by
less than one nano and the price of one nanosecond. -/
def CoversFloor (floor units throughput nanos : Int) : Prop :=
  floor * units ≤ nanos * (throughput * 3600) ∧
    nanos * (throughput * nanosecondsPerHour) <
      floor * units * nanosPerMajorUnit + throughput * (floor + nanosecondsPerHour)

variable {currency : Currency} {floor units throughput predicted d : Int} {result : MoneyNanos}

theorem roundedDiv_up_mul_lt (product : Int) (pos : 0 < d) :
    roundedDiv product d true * d < product + d := by
  have less : ¬ roundedDiv product d true ≤ roundedDiv product d true - 1 := by omega
  rw [roundedDiv_up_le_iff pos, sub_one_mul] at less
  omega

theorem hourlyFloor_ok
    (ran : requiredTaskNanosFromHourlyFloor currency floor predicted = .ok result) :
    0 ≤ floor ∧ 0 ≤ predicted ∧
      result.nanos = roundedDiv (floor * predicted) nanosecondsPerHour true := by
  simp only [requiredTaskNanosFromHourlyFloor, ite_error_eq_ok, bind_eq_ok, not_lt] at ran
  obtain ⟨floorNonneg, nonneg, _, divided, ran⟩ := ran
  cases ran
  exact ⟨floorNonneg, nonneg, ((mulDiv_eq_ok floorNonneg nonneg (by decide)).mp divided).1⟩

section

variable (ran : requiredTaskNanosFromThroughput currency floor units throughput = .ok result)

include ran

theorem throughput_ok : 0 < throughput ∧ 0 ≤ units ∧ 0 ≤ floor ∧ result.nanos = roundedDiv
      (floor * roundedDiv (units * nanosPerMajorUnit) throughput true) nanosecondsPerHour true := by
  simp only [requiredTaskNanosFromThroughput, ite_error_eq_ok, bind_eq_ok, not_lt, not_le] at ran
  obtain ⟨pos, nonneg, _, divided, ran⟩ := ran
  obtain ⟨rfl, _⟩ := (mulDiv_eq_ok nonneg (by decide) pos).mp divided
  obtain ⟨floorNonneg, _, same⟩ := hourlyFloor_ok ran
  exact ⟨pos, nonneg, floorNonneg, same⟩

theorem coversFloor (floorPos : 0 < floor) : CoversFloor floor units throughput result.nanos := by
  obtain ⟨pos, _, _, same⟩ := throughput_ok ran
  have long := le_roundedDiv_up_mul (units * nanosPerMajorUnit) pos
  have short := roundedDiv_up_mul_lt (units * nanosPerMajorUnit) pos
  generalize roundedDiv (units * nanosPerMajorUnit) throughput true = duration at *
  have hour : 0 < nanosecondsPerHour := by decide
  have high := le_roundedDiv_up_mul (floor * duration) hour
  have low := roundedDiv_up_mul_lt (floor * duration) hour
  rw [← same] at high low
  unfold CoversFloor nanosecondsPerHour nanosPerMajorUnit at *
  constructor
  · nlinarith
  · nlinarith

/-- More work, for a higher floor, at a lower throughput. -/
theorem taskFloor_mono {rise more slower : Int} {other : MoneyNanos} (floors : floor ≤ rise)
    (unitCounts : units ≤ more) (throughputs : slower ≤ throughput)
    (otherRan : requiredTaskNanosFromThroughput currency rise more slower = .ok other) :
    result.nanos ≤ other.nanos := by
  obtain ⟨pos, nonneg, floorNonneg, same⟩ := throughput_ok ran
  obtain ⟨slowerPos, moreNonneg, _, otherSame⟩ := throughput_ok otherRan
  have durations : roundedDiv (units * nanosPerMajorUnit) throughput true ≤
      roundedDiv (more * nanosPerMajorUnit) slower true := by
    rw [roundedDiv_up_le_iff pos]
    have covered := le_roundedDiv_up_mul (more * nanosPerMajorUnit) slowerPos
    have duration : 0 ≤ roundedDiv (more * nanosPerMajorUnit) slower true :=
      roundedDiv_nonneg (mul_nonneg moreNonneg (by decide)) slowerPos
    have work := mul_le_mul_of_nonneg_right unitCounts (show 0 ≤ nanosPerMajorUnit by decide)
    exact work.trans (covered.trans (mul_le_mul_of_nonneg_left throughputs duration))
  rw [same, otherSame]
  refine roundedDiv_mono true (by decide) (mul_le_mul floors durations ?_ ?_)
  · exact roundedDiv_nonneg (mul_nonneg nonneg (by decide)) pos
  · exact floorNonneg.trans floors

/-- The floor of a duration that is less than a nanosecond off. -/
theorem taskFloor_agrees {durationNanos : Int} {other : MoneyNanos}
    (off : |durationNanos * throughput - units * nanosPerMajorUnit| < throughput)
    (otherRan : requiredTaskNanosFromHourlyFloor currency floor durationNanos = .ok other) :
    other.nanos ≤ result.nanos ∧
      result.nanos ≤ other.nanos + roundedDiv floor nanosecondsPerHour true := by
  obtain ⟨pos, _, floorNonneg, same⟩ := throughput_ok ran
  obtain ⟨_, _, otherSame⟩ := hourlyFloor_ok otherRan
  rw [abs_lt] at off
  have above : roundedDiv (units * nanosPerMajorUnit) throughput true ≤ durationNanos + 1 := by
    rw [roundedDiv_up_le_iff pos]
    linarith
  have below : durationNanos ≤ roundedDiv (units * nanosPerMajorUnit) throughput true := by
    have long := le_roundedDiv_up_mul (units * nanosPerMajorUnit) pos
    by_contra more
    nlinarith
  have hour : 0 < nanosecondsPerHour := by decide
  rw [same, otherSame]
  refine ⟨roundedDiv_mono true hour (mul_le_mul_of_nonneg_left below floorNonneg), ?_⟩
  rw [roundedDiv_up_le_iff hour, add_mul]
  calc
    floor * roundedDiv (units * nanosPerMajorUnit) throughput true
    _ ≤ floor * (durationNanos + 1) := mul_le_mul_of_nonneg_left above floorNonneg
    _ = floor * durationNanos + floor := mul_add_one floor durationNanos
    _ ≤ _ := add_le_add (le_roundedDiv_up_mul _ hour) (le_roundedDiv_up_mul floor hour)

end

/-- A floor by throughput is never undercut, and follows the floor of the
duration. -/
theorem task_floor_kept (floorPos : 0 < floor)
    (ran : requiredTaskNanosFromThroughput currency floor units throughput = .ok result) :
    CoversFloor floor units throughput result.nanos ∧
      (∀ rise more slower other, floor ≤ rise → units ≤ more → slower ≤ throughput →
        requiredTaskNanosFromThroughput currency rise more slower = .ok other →
        result.nanos ≤ other.nanos) ∧
      ∀ durationNanos other,
        |durationNanos * throughput - units * nanosPerMajorUnit| < throughput →
        requiredTaskNanosFromHourlyFloor currency floor durationNanos = .ok other →
        other.nanos ≤ result.nanos ∧
          result.nanos ≤ other.nanos + roundedDiv floor nanosecondsPerHour true :=
  ⟨coversFloor ran floorPos, fun _ _ _ _ => taskFloor_mono ran, fun _ _ => taskFloor_agrees ran⟩

/-- A thousand units at 250 a second, for half a dollar an hour. -/
theorem fourSeconds_kept : CoversFloor 500000000 1000000000000 250000000000 555556 :=
  (@task_floor_kept .usd 500000000 1000000000000 250000000000 ⟨.usd, 555556⟩ (by decide)
    (by decide)).1

end MercControl.Pricing
