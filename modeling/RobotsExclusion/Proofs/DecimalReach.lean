import Mathlib.Algebra.Order.Field.Power
import RobotsExclusion.Number.Shortest
import RobotsExclusion.Proofs.Rounding

/-!
# Numbers within reach of a magnitude

The reach of a magnitude is meant to hold the numbers that are rounded to it.  It ends half-way
to the neighbouring magnitudes, and the ends belong to the even one.  Within reach the attempt
at a place finds the nearest decimal that ends there, if there is one.
-/

namespace RobotsExclusion

namespace Binary64

namespace Reach

variable {reach : Reach} {number other : ℚ} {place : Int}

/-- The quotient that the reach lies around. -/
def center (reach : Reach) : ℚ :=
  reach.value / reach.denominator

/-- A number lies within reach. -/
def Holds (reach : Reach) (number : ℚ) : Prop :=
  if reach.closed then
    reach.low ≤ number * reach.denominator ∧ number * reach.denominator ≤ reach.high
  else
    reach.low < number * reach.denominator ∧ number * reach.denominator < reach.high

/-- The center lies inside. -/
structure IsSound (reach : Reach) : Prop where
  positive : 0 < reach.denominator
  low : reach.low < reach.value
  high : reach.value < reach.high

theorem contains_iff {candidate : Nat} :
    reach.contains candidate = true ↔ reach.Holds candidate := by
  unfold contains Holds
  split <;> norm_cast <;> simp

theorem holds_atPlace : (reach.atPlace place).Holds number ↔ reach.Holds (number * 10 ^ place) := by
  cases place with
  | ofNat power =>
      have same : number * (reach.denominator * tenTo power : ℕ) =
          number * 10 ^ (Int.ofNat power) * reach.denominator := by
        rw [tenTo_eq_pow, Int.ofNat_eq_natCast, zpow_natCast]
        push_cast
        ring
      simp only [Holds, atPlace, same]
  | negSucc power =>
      have factor : (0 : ℚ) < 10 ^ (power + 1) := by positivity
      have same : number * 10 ^ (Int.negSucc power) * reach.denominator =
          number * reach.denominator / 10 ^ (power + 1) := by
        rw [zpow_negSucc]
        ring
      simp only [Holds, atPlace, same, tenTo_eq_pow, Nat.cast_mul, Nat.cast_pow, Nat.cast_ofNat,
        le_div_iff₀ factor, div_le_iff₀ factor, lt_div_iff₀ factor, div_lt_iff₀ factor]

theorem IsSound.atPlace (sound : reach.IsSound) (place : Int) : (reach.atPlace place).IsSound := by
  cases place with
  | ofNat power => exact ⟨Nat.mul_pos sound.positive (tenTo_pos power), sound.low, sound.high⟩
  | negSucc power =>
      have factor := tenTo_pos (power + 1)
      exact ⟨sound.positive, Nat.mul_lt_mul_of_pos_right sound.low factor,
        Nat.mul_lt_mul_of_pos_right sound.high factor⟩

theorem center_atPlace (reach : Reach) (place : Int) :
    (reach.atPlace place).center = reach.center / 10 ^ place := by
  cases place with
  | ofNat power =>
      rw [center, center, atPlace, tenTo_eq_pow, Int.ofNat_eq_natCast, zpow_natCast]
      push_cast
      rw [div_div]
  | negSucc power =>
      rw [center, center, atPlace, tenTo_eq_pow, zpow_negSucc]
      push_cast
      rw [div_inv_eq_mul]
      ring

theorem IsSound.center_mul (sound : reach.IsSound) :
    reach.center * reach.denominator = reach.value :=
  div_mul_cancel₀ _ (by exact_mod_cast sound.positive.ne')

/-- What lies between the center and a number within reach is within reach. -/
theorem Holds.of_le_center (holds : reach.Holds number) (sound : reach.IsSound)
    (above : number ≤ other) (below : other ≤ reach.center) : reach.Holds other := by
  have castNonneg : (0 : ℚ) ≤ reach.denominator := by positivity
  have first := mul_le_mul_of_nonneg_right above castNonneg
  have second := mul_le_mul_of_nonneg_right below castNonneg
  have high : (reach.value : ℚ) < reach.high := by exact_mod_cast sound.high
  rw [sound.center_mul] at second
  unfold Holds at holds ⊢
  split
  · next closed =>
    rw [if_pos closed] at holds
    exact ⟨holds.1.trans first, second.trans high.le⟩
  · next opened =>
    rw [if_neg opened] at holds
    exact ⟨holds.1.trans_le first, second.trans_lt high⟩

theorem Holds.of_center_le (holds : reach.Holds number) (sound : reach.IsSound)
    (above : reach.center ≤ other) (below : other ≤ number) : reach.Holds other := by
  have castNonneg : (0 : ℚ) ≤ reach.denominator := by positivity
  have first := mul_le_mul_of_nonneg_right above castNonneg
  have second := mul_le_mul_of_nonneg_right below castNonneg
  have low : (reach.low : ℚ) < reach.value := by exact_mod_cast sound.low
  rw [sound.center_mul] at first
  unfold Holds at holds ⊢
  split
  · next closed =>
    rw [if_pos closed] at holds
    exact ⟨low.le.trans first, second.trans holds.2⟩
  · next opened =>
    rw [if_neg opened] at holds
    exact ⟨low.trans_le first, second.trans_lt holds.2⟩

/-- A whole number within reach is beyond one of the two around the center, which then is
within reach, too. -/
theorem Holds.around_center {candidate : Nat} (holds : reach.Holds candidate)
    (sound : reach.IsSound) :
    (candidate ≤ reach.value / reach.denominator ∧
      reach.Holds (reach.value / reach.denominator : ℕ)) ∨
    (reach.value / reach.denominator + 1 ≤ candidate ∧
      reach.Holds (reach.value / reach.denominator + 1 : ℕ)) := by
  obtain ⟨fraction, split, atLeast, atMost, -⟩ :=
    exists_fraction reach.value sound.positive
  rcases Nat.lt_or_ge (reach.value / reach.denominator) candidate with above | below
  · right
    refine ⟨above, holds.of_center_le sound ?_ (by exact_mod_cast above)⟩
    rw [center, split, Nat.cast_add, Nat.cast_one]
    linarith
  · left
    refine ⟨below, holds.of_le_center sound (by exact_mod_cast below) ?_⟩
    rw [center, split]
    linarith

theorem not_holds_of_nearestWhole? (sound : reach.IsSound) (unfound : reach.nearestWhole? = none)
    (candidate : Nat) : ¬ reach.Holds candidate := by
  intro holds
  rw [nearestWhole?] at unfound
  cases low : reach.contains (reach.value / reach.denominator) <;>
    cases high : reach.contains (reach.value / reach.denominator + 1) <;>
    simp only [low, high, reduceCtorEq] at unfound
  rcases holds.around_center sound with ⟨-, within⟩ | ⟨-, within⟩
  · exact Bool.false_ne_true (low.symm.trans (contains_iff.mpr within))
  · exact Bool.false_ne_true (high.symm.trans (contains_iff.mpr within))

theorem holds_of_nearestWhole? {found : Nat} (sound : reach.IsSound)
    (chosen : reach.nearestWhole? = some found) : reach.Holds found ∧
      ∀ candidate : Nat, reach.Holds candidate →
        |found - reach.center| ≤ |candidate - reach.center| := by
  obtain ⟨fraction, split, atLeast, atMost, half, -⟩ :=
    exists_fraction reach.value sound.positive
  obtain ⟨lower, lowerEq⟩ : ∃ lower, reach.value / reach.denominator = lower := ⟨_, rfl⟩
  have center : reach.center = lower + fraction := lowerEq ▸ split
  have toLower : |(lower : ℚ) - reach.center| = fraction := by
    rw [center, sub_add_cancel_left, abs_neg, abs_of_nonneg atLeast]
  have toUpper : |((lower + 1 : ℕ) : ℚ) - reach.center| = 1 - fraction := by
    rw [center, Nat.cast_add, Nat.cast_one, add_sub_add_left_eq_sub,
      abs_of_nonneg (by linarith)]
  have beyond {candidate : ℕ} (holds : reach.Holds candidate) :
      (reach.Holds lower ∧ fraction ≤ |candidate - reach.center|) ∨
        (reach.Holds (lower + 1 : ℕ) ∧ 1 - fraction ≤ |candidate - reach.center|) := by
    have around := holds.around_center sound
    rw [lowerEq] at around
    rcases around with ⟨below, within⟩ | ⟨above, within⟩
    · left
      have : (candidate : ℚ) ≤ lower := by exact_mod_cast below
      exact ⟨within, by rw [center, le_abs]; right; linarith⟩
    · right
      have : (lower : ℚ) + 1 ≤ candidate := by exact_mod_cast above
      exact ⟨within, by rw [center, le_abs]; left; linarith⟩
  rw [nearestWhole?, lowerEq] at chosen
  cases low : reach.contains lower <;> cases high : reach.contains (lower + 1) <;>
    simp only [low, high, reduceCtorEq, Option.some.injEq] at chosen
  · obtain rfl := chosen
    refine ⟨contains_iff.mp high, fun candidate holds => ?_⟩
    rcases beyond holds with ⟨within, -⟩ | ⟨-, far⟩
    · exact absurd (low.symm.trans (contains_iff.mpr within)) Bool.false_ne_true
    · exact toUpper ▸ far
  · obtain rfl := chosen
    refine ⟨contains_iff.mp low, fun candidate holds => ?_⟩
    rcases beyond holds with ⟨-, far⟩ | ⟨within, -⟩
    · exact toLower ▸ far
    · exact absurd (high.symm.trans (contains_iff.mpr within)) Bool.false_ne_true
  · split at chosen
    · next down =>
      obtain rfl := chosen
      refine ⟨contains_iff.mp low, fun candidate holds => ?_⟩
      have := half.mpr down
      rcases beyond holds with ⟨-, far⟩ | ⟨-, far⟩ <;> linarith
    · next up =>
      obtain rfl := chosen
      refine ⟨contains_iff.mp high, fun candidate holds => ?_⟩
      have := not_lt.mp (half.not.mpr up)
      rcases beyond holds with ⟨-, far⟩ | ⟨-, far⟩ <;> linarith

section Units

variable {units count exponent lower finer : Nat} {number : ℚ}

theorem isSound_ofUnits (positive : 0 < units) : (ofUnits units).IsSound := by
  have step : 0 < spacing units := Nat.two_pow_pos _
  have one : 0 < unitsPerOne := twoTo_pos 1074
  constructor
  · exact Nat.mul_pos four_pos one
  · rw [ofUnits]
    split <;> dsimp only <;> omega
  · rw [ofUnits]
    dsimp only
    omega

theorem center_ofUnits (units : Nat) : (ofUnits units).center = magnitude units := by
  rw [center, ofUnits, magnitude, Nat.cast_mul, Nat.cast_mul, cast_unitsPerOne]
  exact mul_div_mul_left _ _ (by norm_num)

theorem closed_ofUnits (small : count < 2 ^ 53) (canonical : exponent = 0 ∨ 2 ^ 52 ≤ count)
    (step : spacing (count * 2 ^ exponent) = 2 ^ exponent) :
    (ofUnits (count * 2 ^ exponent)).closed = true ↔ IsEven (count * 2 ^ exponent) := by
  rw [isEven_iff canonical small, ofUnits, step, Nat.mul_div_cancel _ (by positivity),
    decide_eq_true_iff]

/-- A magnitude on the grid of the magnitudes right above it and on the grid right below, which
is finer at a power of two.  The reach ends half-way to the neighbours there. -/
structure Grids (units count exponent lower finer : Nat) : Prop where
  above : units = count * 2 ^ exponent
  below : units = (lower + 1) * 2 ^ finer
  small : count < 2 ^ 53
  lowerSmall : lower < 2 ^ 53
  canonical : exponent = 0 ∨ 2 ^ 52 ≤ count
  lowerCanonical : finer = 0 ∨ 2 ^ 52 ≤ lower
  even : IsEven units ↔ count % 2 = 0
  lowerEven : IsEven units ↔ (lower + 1) % 2 = 0
  high : (ofUnits units).high = 4 * units + 2 * 2 ^ exponent
  low : (ofUnits units).low + 2 * 2 ^ finer = 4 * units
  closed : (ofUnits units).closed = true ↔ IsEven units

theorem exists_grids (isMagnitude : IsMagnitude units) (positive : 0 < units) :
    ∃ count exponent lower finer, Grids units count exponent lower finer := by
  obtain ⟨count, exponent, rfl, step, small, canonical⟩ := isMagnitude.exists_count
  have present : 0 < count := Nat.pos_of_mul_pos_right positive
  have even := isEven_iff canonical small
  have high : (ofUnits (count * 2 ^ exponent)).high =
      4 * (count * 2 ^ exponent) + 2 * 2 ^ exponent := by rw [ofUnits, step]
  have closed := closed_ofUnits small canonical step
  by_cases border : count = 2 ^ 52 ∧ 0 < exponent
  · obtain ⟨rfl, wide⟩ := border
    obtain ⟨finer, rfl⟩ := Nat.exists_eq_succ_of_ne_zero wide.ne'
    have below : 2 ^ 52 * 2 ^ (finer + 1) = (2 ^ 53 - 1 + 1) * 2 ^ finer := by
      rw [pow_succ 2 finer]
      ring
    have low : (ofUnits (2 ^ 52 * 2 ^ (finer + 1))).low + 2 * 2 ^ finer =
        4 * (2 ^ 52 * 2 ^ (finer + 1)) := by
      have wider : 1 < 2 ^ (finer + 1) := Nat.one_lt_two_pow (by omega)
      rw [ofUnits, step, if_pos ⟨rfl, wider⟩]
      dsimp only
      rw [pow_succ]
      omega
    have lowerEven : IsEven (2 ^ 52 * 2 ^ (finer + 1)) ↔ (2 ^ 53 - 1 + 1) % 2 = 0 :=
      iff_of_true (even.mpr (by norm_num)) (by norm_num)
    exact ⟨_, _, _, _, rfl, below, small, by norm_num, canonical, .inr (by norm_num), even,
      lowerEven, high, low, closed⟩
  · obtain ⟨lower, rfl⟩ : ∃ lower, count = lower + 1 := ⟨count - 1, by omega⟩
    have inside : ¬ ((lower + 1) * 2 ^ exponent = twoTo 52 * 2 ^ exponent ∧ 1 < 2 ^ exponent) := by
      rintro ⟨same, wide⟩
      have least : lower + 1 = 2 ^ 52 := Nat.eq_of_mul_eq_mul_right (by positivity) same
      have : exponent ≠ 0 := by
        rintro rfl
        exact absurd wide (by norm_num)
      omega
    have low : (ofUnits ((lower + 1) * 2 ^ exponent)).low + 2 * 2 ^ exponent =
        4 * ((lower + 1) * 2 ^ exponent) := by
      have : 2 ^ exponent ≤ (lower + 1) * 2 ^ exponent := Nat.le_mul_of_pos_left _ (by omega)
      rw [ofUnits, step, if_neg inside]
      dsimp only
      omega
    exact ⟨_, _, _, _, rfl, rfl, small, by omega, canonical, by omega, even, even, high, low,
      closed⟩

namespace Grids

variable (grids : Grids units count exponent lower finer)
include grids

theorem cast_above : (units : ℚ) = count * 2 ^ exponent := by
  exact_mod_cast grids.above

theorem cast_below : (units : ℚ) = (lower + 1) * 2 ^ finer := by
  exact_mod_cast grids.below

/-- The reach ends half-way to the neighbours, and the ends belong to an even magnitude. -/
theorem holds_iff : (ofUnits units).Holds number ↔
    (units - 2 ^ finer / 2 ≤ inUnits number ∧ inUnits number ≤ units + 2 ^ exponent / 2) ∧
      (inUnits number = units - 2 ^ finer / 2 ∨ inUnits number = units + 2 ^ exponent / 2 →
        IsEven units) := by
  have counted : number * (ofUnits units).denominator = 4 * inUnits number := by
    rw [ofUnits, Nat.cast_mul, Nat.cast_ofNat, cast_unitsPerOne, inUnits]
    exact mul_left_comm number 4 _
  have high : ((ofUnits units).high : ℚ) = 4 * (units + 2 ^ exponent / 2) := by
    rw [grids.high]
    push_cast
    ring
  have low : ((ofUnits units).low : ℚ) = 4 * (units - 2 ^ finer / 2) := by
    have sum : ((ofUnits units).low : ℚ) + 2 * 2 ^ finer = 4 * units := by
      exact_mod_cast grids.low
    linarith
  have four : (0 : ℚ) < 4 := by norm_num
  rw [Holds, counted, high, low, mul_le_mul_iff_right₀ four, mul_le_mul_iff_right₀ four,
    mul_lt_mul_iff_right₀ four, mul_lt_mul_iff_right₀ four]
  split
  · next closed => exact (and_iff_left fun _ => grids.closed.mp closed).symm
  · next opened =>
    have odd := grids.closed.not.mp opened
    constructor
    · rintro ⟨below, above⟩
      exact ⟨⟨below.le, above.le⟩, fun border => (border.elim below.ne' above.ne).elim⟩
    · rintro ⟨⟨below, above⟩, inside⟩
      exact ⟨below.lt_of_ne fun same => odd (inside (.inl same.symm)),
        above.lt_of_ne fun same => odd (inside (.inr same))⟩

theorem rounds_of_above (up : units ≤ inUnits number)
    (near : inUnits number ≤ units + 2 ^ exponent / 2)
    (inside : inUnits number = units + 2 ^ exponent / 2 → IsEven units) :
    Rounds number units := by
  have distance : |inUnits number - (count * 2 ^ exponent : ℕ)| = inUnits number - units := by
    rw [← grids.above, abs_of_nonneg (sub_nonneg.mpr up)]
  have step : (0 : ℚ) < 2 ^ exponent := by positivity
  rw [grids.above]
  apply rounds_of_near
  · rw [distance]
    linarith
  · intro border
    rw [distance] at border
    exact grids.even.mp (inside (by linarith))
  · have : (count + 1 : ℚ) ≤ 2 ^ 53 := by exact_mod_cast grids.small
    nlinarith [grids.cast_above]
  · refine grids.canonical.imp_right fun large => le_trans ?_ up
    have : (2 ^ 52 : ℚ) ≤ count := by exact_mod_cast large
    rw [grids.cast_above]
    gcongr

theorem rounds_of_below (down : inUnits number < units)
    (near : units - 2 ^ finer / 2 ≤ inUnits number)
    (inside : inUnits number = units - 2 ^ finer / 2 → IsEven units) : Rounds number units := by
  have distance : |inUnits number - ((lower + 1) * 2 ^ finer : ℕ)| = units - inUnits number := by
    rw [← grids.below, abs_of_neg (sub_neg.mpr down), neg_sub]
  have step : (0 : ℚ) < 2 ^ finer := by positivity
  rw [grids.below]
  apply rounds_of_near
  · rw [distance]
    linarith
  · intro border
    rw [distance] at border
    exact grids.lowerEven.mp (inside (by linarith))
  · have : (lower + 1 : ℚ) ≤ 2 ^ 53 := by exact_mod_cast grids.lowerSmall
    refine down.trans_le ?_
    rw [grids.cast_below]
    gcongr
  · refine grids.lowerCanonical.imp_right fun large => ?_
    have : (2 ^ 52 : ℚ) ≤ lower := by exact_mod_cast large
    nlinarith [grids.cast_below]

/-- The neighbours on the two grids are not nearer. -/
theorem holds_of_rounds (rounds : Rounds number units) : (ofUnits units).Holds number := by
  have lowerMiddle := rounds.middle_le (isMagnitude_mul grids.lowerSmall.le finer)
    (by rw [grids.below]; gcongr; omega)
  have upperMiddle := rounds.le_middle
    (isMagnitude_mul (Nat.succ_le_of_lt grids.small) exponent) (by rw [grids.above]; gcongr; omega)
  push_cast at lowerMiddle upperMiddle
  have cast_above := grids.cast_above
  have cast_below := grids.cast_below
  rw [grids.holds_iff]
  refine ⟨⟨by linarith [lowerMiddle.1], by linarith [upperMiddle.1]⟩, fun border => ?_⟩
  by_contra odd
  rcases border with low | high
  · linarith [lowerMiddle.2 odd]
  · linarith [upperMiddle.2 odd]

end Grids

/-- The numbers within reach of a magnitude are those that round to it. -/
theorem holds_ofUnits_iff (isMagnitude : IsMagnitude units) (positive : 0 < units) :
    (ofUnits units).Holds number ↔ Rounds number units := by
  obtain ⟨count, exponent, lower, finer, grids⟩ := exists_grids isMagnitude positive
  refine ⟨fun holds => ?_, grids.holds_of_rounds⟩
  obtain ⟨⟨low, high⟩, inside⟩ := grids.holds_iff.mp holds
  rcases le_or_gt (units : ℚ) (inUnits number) with up | down
  · exact grids.rounds_of_above up high fun border => inside (.inr border)
  · exact grids.rounds_of_below down low fun border => inside (.inl border)

end Units

section Places

theorem holds_of_attempt {found : Nat} (sound : reach.IsSound)
    (chosen : (reach.atPlace place).nearestWhole? = some found) :
    reach.Holds (found * 10 ^ place) ∧ ∀ candidate : Nat, reach.Holds (candidate * 10 ^ place) →
      |found * 10 ^ place - reach.center| ≤ |candidate * 10 ^ place - reach.center| := by
  have unit : (0 : ℚ) < 10 ^ place := by positivity
  have distance (candidate : ℕ) : |(candidate : ℚ) * 10 ^ place - reach.center| =
      |candidate - (reach.atPlace place).center| * 10 ^ place := by
    rw [center_atPlace, ← abs_of_pos unit, ← abs_mul, abs_of_pos unit, sub_mul,
      div_mul_cancel₀ _ unit.ne']
  obtain ⟨holds, nearest⟩ := holds_of_nearestWhole? (sound.atPlace place) chosen
  refine ⟨holds_atPlace.mp holds, fun candidate within => ?_⟩
  rw [distance, distance]
  exact mul_le_mul_of_nonneg_right (nearest candidate (holds_atPlace.mpr within)) unit.le

theorem not_holds_of_attempt (sound : reach.IsSound)
    (unfound : (reach.atPlace place).nearestWhole? = none) (candidate : Nat) :
    ¬ reach.Holds (candidate * 10 ^ place) := fun within =>
  not_holds_of_nearestWhole? (sound.atPlace place) unfound candidate (holds_atPlace.mpr within)

theorem length_toDigits_bounds {number digits : Nat} (positive : 0 < number)
    (count : (Nat.toDigits 10 number).length = digits + 1) :
    10 ^ digits ≤ number ∧ number < 10 ^ (digits + 1) := by
  refine ⟨?_, (Nat.length_toDigits_le_iff (by norm_num) (Nat.succ_pos digits)).mp count.le⟩
  rcases Nat.eq_zero_or_pos digits with rfl | some
  · exact positive
  · by_contra few
    have := (Nat.length_toDigits_le_iff (b := 10) (by norm_num) some).mpr (not_le.mp few)
    omega

/-- The leading place is that of the power of ten right above the center. -/
theorem leadingPlace_bounds (sound : reach.IsSound)
    (visible : reach.denominator ≤ reach.value * tenTo 400) :
    (10 : ℚ) ^ (reach.leadingPlace - 1) ≤ reach.center ∧
      reach.center < (10 : ℚ) ^ reach.leadingPlace := by
  obtain ⟨scaled, scaledEq⟩ :
      ∃ scaled, reach.value * tenTo 400 / reach.denominator = scaled := ⟨_, rfl⟩
  have present : 0 < scaled := scaledEq ▸ Nat.div_pos visible sound.positive
  obtain ⟨digits, count⟩ : ∃ digits, (Nat.toDigits 10 scaled).length = digits + 1 :=
    ⟨_, (Nat.succ_pred_eq_of_pos Nat.length_toDigits_pos).symm⟩
  obtain ⟨below, above⟩ := length_toDigits_bounds present count
  obtain ⟨fraction, split, atLeast, atMost, -⟩ :=
    exists_fraction (reach.value * tenTo 400) sound.positive
  have shift : (0 : ℚ) < tenTo 400 := by exact_mod_cast tenTo_pos 400
  have center : reach.center = (scaled + fraction) / tenTo 400 := by
    rw [eq_div_iff shift.ne', ← scaledEq, ← split, Nat.cast_mul, Reach.center, div_mul_eq_mul_div]
  have place (count : ℕ) : (10 : ℚ) ^ ((count : ℤ) - 400) = 10 ^ count / tenTo 400 := by
    rw [zpow_sub₀ (by norm_num), zpow_natCast, zpow_ofNat, cast_tenTo]
  have leading : reach.leadingPlace = (digits + 1 : ℕ) - 400 := by
    rw [leadingPlace, scaledEq, count]
  have before : reach.leadingPlace - 1 = (digits : ℕ) - 400 := by
    rw [leading, Nat.cast_succ]
    ring
  rw [before, leading, place, place, center]
  constructor
  · have : (10 ^ digits : ℚ) ≤ scaled := by exact_mod_cast below
    gcongr
    linarith
  · have : (scaled + 1 : ℚ) ≤ 10 ^ (digits + 1) := by exact_mod_cast above
    gcongr
    linarith

end Places

end Reach

end Binary64

end RobotsExclusion
