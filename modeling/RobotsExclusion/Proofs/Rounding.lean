import Mathlib.Algebra.Order.Field.Basic
import Mathlib.Algebra.Order.Field.Rat
import Mathlib.Data.Nat.Log
import Mathlib.Tactic.FieldSimp
import Mathlib.Tactic.Linarith
import Mathlib.Tactic.Positivity
import Mathlib.Tactic.Ring
import RobotsExclusion.Number.Binary64

/-!
# Rounding to binary numbers

What it means that a number is rounded to a magnitude, said of exact rational numbers: no
magnitude is nearer, and if another one is as near, the last bit is zero.  The magnitude nearest
to a quotient is rounded in this sense, and the condition leaves no choice.
-/

namespace RobotsExclusion

namespace Binary64

/-- A count of units with at most 53 significant bits. -/
def IsMagnitude (units : Nat) : Prop :=
  ∃ significand exponent, significand < 2 ^ 53 ∧ units = significand * 2 ^ exponent

/-- A magnitude whose last bit is zero. -/
def IsEven (units : Nat) : Prop :=
  ∃ significand exponent, significand < 2 ^ 52 ∧ units = significand * 2 ^ (exponent + 1)

/-- A number counted in units of `2 ^ -1074`. -/
def inUnits (number : ℚ) : ℚ :=
  number * 2 ^ 1074

/-- The number that units add up to. -/
def magnitude (units : Nat) : ℚ :=
  units / 2 ^ 1074

/-- A magnitude is nearest to a number, and the even one of two that are equally near. -/
structure Rounds (number : ℚ) (units : Nat) : Prop where
  isMagnitude : IsMagnitude units
  nearest : ∀ other, IsMagnitude other → |inUnits number - units| ≤ |inUnits number - other|
  even : ∀ other, IsMagnitude other → other ≠ units →
    |inUnits number - units| = |inUnits number - other| → IsEven units

theorem twoTo_eq_pow (exponent : Nat) : twoTo exponent = 2 ^ exponent :=
  rfl

theorem tenTo_eq_pow (exponent : Nat) : tenTo exponent = 10 ^ exponent :=
  rfl

theorem twoTo_pos (exponent : Nat) : 0 < twoTo exponent :=
  Nat.two_pow_pos exponent

theorem tenTo_pos (exponent : Nat) : 0 < tenTo exponent :=
  Nat.pow_pos (by decide)

theorem cast_twoTo (exponent : Nat) : (twoTo exponent : ℚ) = 2 ^ exponent := by
  rw [twoTo_eq_pow, Nat.cast_pow, Nat.cast_ofNat]

theorem cast_tenTo (exponent : Nat) : (tenTo exponent : ℚ) = 10 ^ exponent := by
  rw [tenTo_eq_pow, Nat.cast_pow, Nat.cast_ofNat]

theorem cast_unitsPerOne : (unitsPerOne : ℚ) = 2 ^ 1074 :=
  cast_twoTo 1074

theorem inUnits_magnitude (units : Nat) : inUnits (magnitude units) = units :=
  div_mul_cancel₀ _ (by positivity)

theorem abs_inUnits_sub (number : ℚ) (units : Nat) :
    |inUnits number - units| = |number - magnitude units| * 2 ^ 1074 := by
  have scaled : inUnits number - units = (number - magnitude units) * 2 ^ 1074 := by
    rw [sub_mul, ← inUnits, ← inUnits, inUnits_magnitude]
  rw [scaled, abs_mul, abs_of_pos (show (0 : ℚ) < 2 ^ 1074 by positivity)]

section Quotients

variable {denominator count other : Nat} {ratio : ℚ}

/-- Two different counts are at least one apart, so one within a half is nearest. -/
theorem abs_sub_le_of_within_half (near : |ratio - count| ≤ 1 / 2) (differs : other ≠ count) :
    1 / 2 ≤ |ratio - other| := by
  have apart : (1 : ℚ) ≤ |(other : ℚ) - count| := by
    have whole : (1 : ℤ) ≤ |(other : ℤ) - count| := Int.one_le_abs (by omega)
    exact_mod_cast whole
  have sum : |(other : ℚ) - count| ≤ |ratio - count| + |ratio - other| := by
    rw [abs_sub_comm ratio other, add_comm]
    exact abs_sub_le _ _ _
  linarith

/-- A quotient is its whole part and a fraction, which the remainder tells. -/
theorem exists_fraction (numerator : Nat) (positive : 0 < denominator) :
    ∃ fraction : ℚ, (numerator / denominator : ℚ) = (numerator / denominator : ℕ) + fraction ∧
      0 ≤ fraction ∧ fraction < 1 ∧
      (fraction < 1 / 2 ↔ 2 * (numerator % denominator) < denominator) ∧
      (1 / 2 < fraction ↔ denominator < 2 * (numerator % denominator)) := by
  have castPositive : (0 : ℚ) < denominator := by exact_mod_cast positive
  have whole : (numerator : ℚ) = denominator * (numerator / denominator : ℕ) +
      (numerator % denominator : ℕ) := by
    exact_mod_cast (Nat.div_add_mod numerator denominator).symm
  refine ⟨(numerator % denominator : ℕ) / denominator, ?_, by positivity, ?_, ?_, ?_⟩
  · rw [div_eq_iff castPositive.ne', whole]
    field_simp
  · rw [div_lt_one castPositive]
    exact_mod_cast Nat.mod_lt numerator positive
  · rw [div_lt_div_iff₀ castPositive two_pos, one_mul, mul_comm]
    exact_mod_cast Iff.rfl
  · rw [div_lt_div_iff₀ two_pos castPositive, one_mul, mul_comm]
    exact_mod_cast Iff.rfl

theorem roundQuotient_within_half (numerator : Nat) (positive : 0 < denominator) :
    |(numerator / denominator : ℚ) - roundQuotient numerator denominator| ≤ 1 / 2 ∧
      (|(numerator / denominator : ℚ) - roundQuotient numerator denominator| = 1 / 2 →
        roundQuotient numerator denominator % 2 = 0) := by
  obtain ⟨fraction, split, atLeast, atMost, below, above⟩ :=
    exists_fraction numerator positive
  rw [roundQuotient, split]
  split_ifs with low high <;> rw [← below] at low
  · rw [add_sub_cancel_left, abs_of_nonneg atLeast]
    exact ⟨low.le, fun half => absurd half low.ne⟩
  · rw [← above] at high
    rw [Nat.cast_add, Nat.cast_one, add_sub_add_left_eq_sub, abs_of_nonpos (by linarith)]
    exact ⟨by linarith, fun half => absurd half (by linarith)⟩
  · rw [← above] at high
    obtain rfl : fraction = 1 / 2 := le_antisymm (not_lt.mp high) (not_lt.mp low)
    rw [Nat.cast_add, add_sub_add_left_eq_sub]
    rcases Nat.mod_two_eq_zero_or_one (numerator / denominator) with even | odd
    · rw [even]
      norm_num [even]
    · rw [odd]
      norm_num
      omega

end Quotients

section Magnitudes

variable {units other : Nat}

theorem isMagnitude_mul {significand : Nat} (atMost : significand ≤ 2 ^ 53) (exponent : Nat) :
    IsMagnitude (significand * 2 ^ exponent) := by
  rcases atMost.lt_or_eq with small | rfl
  · exact ⟨significand, exponent, small, rfl⟩
  · exact ⟨1, 53 + exponent, by norm_num, by rw [pow_add, one_mul]⟩

theorem isEven_mul {significand : Nat} (atMost : significand ≤ 2 ^ 53) (even : significand % 2 = 0)
    (exponent : Nat) : IsEven (significand * 2 ^ exponent) := by
  obtain ⟨half, rfl⟩ := Nat.dvd_of_mod_eq_zero even
  rcases (show half ≤ 2 ^ 52 by omega).lt_or_eq with small | rfl
  · exact ⟨half, exponent, small, by rw [pow_succ]; ring⟩
  · exact ⟨1, 52 + exponent, by norm_num, by rw [pow_succ, pow_add]; ring⟩

/-- From a power of two on, the magnitudes are multiples of the spacing there. -/
theorem spacing_dvd_of_isMagnitude {power : Nat} (isMagnitude : IsMagnitude other)
    (atLeast : 2 ^ power ≤ other) : 2 ^ (power - 52) ∣ other := by
  obtain ⟨significand, exponent, small, rfl⟩ := isMagnitude
  apply Dvd.dvd.mul_left
  apply pow_dvd_pow
  have wide : 2 ^ power < 2 ^ (53 + exponent) := by
    calc 2 ^ power ≤ significand * 2 ^ exponent := atLeast
      _ < 2 ^ 53 * 2 ^ exponent := Nat.mul_lt_mul_of_pos_right small (by positivity)
      _ = 2 ^ (53 + exponent) := (pow_add 2 53 exponent).symm
  have := (Nat.pow_lt_pow_iff_right (by norm_num)).mp wide
  omega

end Magnitudes

section Nearest

variable {numerator denominator scaled units other count exponent : Nat} {number ratio : ℚ}

/-- Where the magnitudes are multiples of a power of two, a number is rounded to the nearest
multiple.  Below, where they lie closer together, all magnitudes are farther away. -/
theorem rounds_of_within_half (counted : inUnits number = ratio * 2 ^ exponent)
    (small : ratio < 2 ^ 53) (normal : exponent = 0 ∨ 2 ^ 52 ≤ ratio)
    (near : |ratio - count| ≤ 1 / 2) (even : |ratio - count| = 1 / 2 → count % 2 = 0) :
    Rounds number (count * 2 ^ exponent) := by
  have positive : (0 : ℚ) < 2 ^ exponent := by positivity
  have atMost : count ≤ 2 ^ 53 := by
    have : (count : ℚ) < (2 ^ 53 + 1 : ℕ) := by
      push_cast
      linarith [(abs_le.mp near).1]
    exact Nat.lt_succ_iff.mp (by exact_mod_cast this)
  have onGrid (other : ℕ) : |inUnits number - (other * 2 ^ exponent : ℕ)| =
      |ratio - other| * 2 ^ exponent := by
    rw [counted, Nat.cast_mul, Nat.cast_pow, Nat.cast_ofNat, ← sub_mul, abs_mul,
      abs_of_pos positive]
  have nearestOnGrid (index : ℕ) : |ratio - count| ≤ |ratio - index| := by
    by_cases same : index = count
    · rw [same]
    · exact near.trans (abs_sub_le_of_within_half near same)
  have offGrid {other : ℕ} (isMagnitude : IsMagnitude other) (apart : ¬ 2 ^ exponent ∣ other) :
      |inUnits number - (count * 2 ^ exponent : ℕ)| < |inUnits number - other| := by
    have least : 2 ^ 52 ≤ ratio := by
      rcases normal with rfl | least
      · exact absurd (one_dvd other) apart
      · exact least
    have below : (other : ℚ) < 2 ^ 52 * 2 ^ exponent := by
      by_contra atLeast
      have atLeast : 2 ^ (52 + exponent) ≤ other := by
        rw [pow_add]
        exact_mod_cast not_lt.mp atLeast
      exact apart (by simpa using spacing_dvd_of_isMagnitude isMagnitude atLeast)
    calc |inUnits number - (count * 2 ^ exponent : ℕ)|
      _ = |ratio - count| * 2 ^ exponent := onGrid count
      _ ≤ |ratio - (2 ^ 52 : ℕ)| * 2 ^ exponent :=
        mul_le_mul_of_nonneg_right (nearestOnGrid _) positive.le
      _ = inUnits number - 2 ^ 52 * 2 ^ exponent := by
        rw [Nat.cast_pow, Nat.cast_ofNat, abs_of_nonneg (sub_nonneg.mpr least), sub_mul, counted]
      _ < inUnits number - other := by linarith
      _ ≤ |inUnits number - other| := le_abs_self _
  constructor
  · exact isMagnitude_mul atMost exponent
  · intro other isMagnitude
    by_cases multiple : 2 ^ exponent ∣ other
    · obtain ⟨index, rfl⟩ := multiple
      rw [mul_comm (2 ^ exponent), onGrid, onGrid]
      exact mul_le_mul_of_nonneg_right (nearestOnGrid index) positive.le
    · exact (offGrid isMagnitude multiple).le
  · intro other isMagnitude differs tie
    by_cases multiple : 2 ^ exponent ∣ other
    · obtain ⟨index, rfl⟩ := multiple
      rw [mul_comm (2 ^ exponent)] at differs tie
      rw [onGrid, onGrid, mul_left_inj' positive.ne'] at tie
      have apart : index ≠ count := fun same => differs (by rw [same])
      have far := abs_sub_le_of_within_half near apart
      exact isEven_mul atMost (even (le_antisymm near (tie ▸ far))) exponent
    · exact absurd tie (offGrid isMagnitude multiple).ne

theorem rounds_of_near (near : |inUnits number - (count * 2 ^ exponent : ℕ)| ≤ 2 ^ exponent / 2)
    (even : |inUnits number - (count * 2 ^ exponent : ℕ)| = 2 ^ exponent / 2 → count % 2 = 0)
    (small : inUnits number < 2 ^ 53 * 2 ^ exponent)
    (normal : exponent = 0 ∨ 2 ^ 52 * 2 ^ exponent ≤ inUnits number) :
    Rounds number (count * 2 ^ exponent) := by
  have step : (0 : ℚ) < 2 ^ exponent := by positivity
  have counted : inUnits number = inUnits number / 2 ^ exponent * 2 ^ exponent :=
    (div_mul_cancel₀ _ step.ne').symm
  have distance : |inUnits number - (count * 2 ^ exponent : ℕ)| =
      |inUnits number / 2 ^ exponent - count| * 2 ^ exponent := by
    rw [← abs_of_pos step, ← abs_mul, abs_of_pos step, sub_mul, ← counted, Nat.cast_mul,
      Nat.cast_pow, Nat.cast_ofNat]
  have half : (2 : ℚ) ^ exponent / 2 = 1 / 2 * 2 ^ exponent := by ring
  rw [distance, half] at near even
  refine rounds_of_within_half counted ((div_lt_iff₀ step).mpr small)
    (normal.imp_right (le_div_iff₀ step).mpr) (le_of_mul_le_mul_right near step) ?_
  exact fun within => even (by rw [within])

/-- The units nearest to a quotient of units. -/
def roundedUnits (scaled denominator : Nat) : Nat :=
  let step := spacing (scaled / denominator)
  roundQuotient scaled (denominator * step) * step

theorem nearest_eq (numerator denominator : Nat) : nearest numerator denominator =
    if roundedUnits (numerator * unitsPerOne) denominator < unitLimit then
      some (roundedUnits (numerator * unitsPerOne) denominator) else none :=
  rfl

theorem rounds_roundedUnits (positive : 0 < denominator)
    (counted : inUnits number = scaled / denominator) :
    Rounds number (roundedUnits scaled denominator) := by
  obtain ⟨power, log⟩ : ∃ power, (scaled / denominator).log2 = power := ⟨_, rfl⟩
  have step : spacing (scaled / denominator) = 2 ^ (power - 52) := by rw [spacing, log]; rfl
  have castPositive : (0 : ℚ) < denominator := by exact_mod_cast positive
  obtain ⟨near, even⟩ := roundQuotient_within_half scaled
    (Nat.mul_pos positive (Nat.two_pow_pos (power - 52)))
  rw [roundedUnits, step]
  refine rounds_of_within_half ?_ ?_ ?_ near even
  · rw [counted]
    push_cast
    field_simp
  · have below : scaled < 2 ^ 53 * (denominator * 2 ^ (power - 52)) := by
      calc scaled
        _ < 2 ^ (power + 1) * denominator :=
          (Nat.div_lt_iff_lt_mul positive).mp (log ▸ Nat.lt_log2_self)
        _ ≤ 2 ^ (53 + (power - 52)) * denominator :=
          Nat.mul_le_mul_right _ (Nat.pow_le_pow_right two_pos (by omega))
        _ = 2 ^ 53 * (denominator * 2 ^ (power - 52)) := by rw [pow_add]; ring
    rw [div_lt_iff₀ (by positivity)]
    exact_mod_cast below
  · rcases Nat.lt_or_ge 52 power with normal | subnormal
    · right
      have nonzero : scaled / denominator ≠ 0 := by
        intro zero
        rw [zero, Nat.log2_zero] at log
        omega
      have above : 2 ^ 52 * (denominator * 2 ^ (power - 52)) ≤ scaled := by
        calc 2 ^ 52 * (denominator * 2 ^ (power - 52))
          _ = 2 ^ (52 + (power - 52)) * denominator := by rw [pow_add]; ring
          _ = 2 ^ power * denominator := by rw [Nat.add_sub_cancel' normal.le]
          _ ≤ scaled :=
            (Nat.le_div_iff_mul_le positive).mp (log ▸ Nat.log2_self_le nonzero)
      rw [le_div_iff₀ (by positivity)]
      exact_mod_cast above
    · exact .inl (Nat.sub_eq_zero_of_le subnormal)

/-- The nearest magnitude is found, unless it is too large. -/
theorem exists_rounds_nearest (numerator : Nat) (positive : 0 < denominator) :
    ∃ units, Rounds (numerator / denominator) units ∧
      nearest numerator denominator = if units < unitLimit then some units else none := by
  refine ⟨_, rounds_roundedUnits positive ?_, nearest_eq numerator denominator⟩
  rw [inUnits, Nat.cast_mul, cast_unitsPerOne]
  exact div_mul_eq_mul_div _ _ _

end Nearest

section Neighbours

variable {units other count exponent : Nat} {number : ℚ}

/-- A magnitude is a multiple of its spacing, with 53 bits unless the spacing is one unit. -/
theorem IsMagnitude.exists_count (isMagnitude : IsMagnitude units) :
    ∃ count exponent, units = count * 2 ^ exponent ∧ spacing units = 2 ^ exponent ∧
      count < 2 ^ 53 ∧ (exponent = 0 ∨ 2 ^ 52 ≤ count) := by
  rcases Nat.eq_zero_or_pos units with rfl | positive
  · exact ⟨0, 0, rfl, rfl, by norm_num, .inl rfl⟩
  have atLeast := Nat.log2_self_le positive.ne'
  obtain ⟨count, split⟩ := spacing_dvd_of_isMagnitude isMagnitude atLeast
  refine ⟨count, units.log2 - 52, by rw [mul_comm]; exact split, rfl, ?_, ?_⟩
  · have below : 2 ^ (units.log2 - 52) * count < 2 ^ (units.log2 - 52) * 2 ^ 53 := by
      calc 2 ^ (units.log2 - 52) * count = units := split.symm
        _ < 2 ^ (units.log2 + 1) := Nat.lt_log2_self
        _ ≤ 2 ^ (units.log2 - 52 + 53) := Nat.pow_le_pow_right two_pos (by omega)
        _ = 2 ^ (units.log2 - 52) * 2 ^ 53 := pow_add 2 _ 53
    exact Nat.lt_of_mul_lt_mul_left below
  · rcases Nat.lt_or_ge 52 units.log2 with normal | subnormal
    · right
      have above : 2 ^ (units.log2 - 52) * 2 ^ 52 ≤ 2 ^ (units.log2 - 52) * count := by
        rwa [← split, ← pow_add, Nat.sub_add_cancel normal.le]
      exact Nat.le_of_mul_le_mul_left above (by positivity)
    · exact .inl (Nat.sub_eq_zero_of_le subnormal)

/-- The magnitudes above a magnitude are multiples of its spacing. -/
theorem IsMagnitude.dvd_of_le (isMagnitude : IsMagnitude other)
    (canonical : exponent = 0 ∨ 2 ^ 52 ≤ count) (above : count * 2 ^ exponent ≤ other) :
    2 ^ exponent ∣ other := by
  rcases canonical with rfl | large
  · exact one_dvd other
  · have atLeast : 2 ^ (52 + exponent) ≤ other := by
      rw [pow_add]
      exact (Nat.mul_le_mul_right _ large).trans above
    simpa using spacing_dvd_of_isMagnitude isMagnitude atLeast

theorem isEven_iff (canonical : exponent = 0 ∨ 2 ^ 52 ≤ count) (small : count < 2 ^ 53) :
    IsEven (count * 2 ^ exponent) ↔ count % 2 = 0 := by
  constructor
  · rintro ⟨half, place, halfSmall, same⟩
    have low : exponent ≤ place := by
      rcases canonical with rfl | large
      · exact Nat.zero_le place
      · have wide : 2 ^ (52 + exponent) < 2 ^ (52 + (place + 1)) := by
          calc 2 ^ (52 + exponent) ≤ count * 2 ^ exponent := by rw [pow_add]; gcongr
            _ = half * 2 ^ (place + 1) := same
            _ < 2 ^ (52 + (place + 1)) := by rw [pow_add 2 52]; gcongr
        have := (Nat.pow_lt_pow_iff_right one_lt_two).mp wide
        omega
    have multiple : count * 2 ^ exponent = 2 * (half * 2 ^ (place - exponent)) * 2 ^ exponent := by
      rw [same, pow_succ, ← Nat.sub_add_cancel low, pow_add, Nat.add_sub_cancel]
      ring
    rw [Nat.eq_of_mul_eq_mul_right (by positivity) multiple]
    exact Nat.mul_mod_right 2 _
  · exact fun even => isEven_mul small.le even exponent

/-- A number that is not rounded down to a lower magnitude is not below the middle, and beyond
it unless the upper one is even. -/
theorem Rounds.middle_le (rounds : Rounds number units) (isMagnitude : IsMagnitude other)
    (below : other < units) :
    (other + units : ℚ) / 2 ≤ inUnits number ∧
      (¬ IsEven units → (other + units : ℚ) / 2 < inUnits number) := by
  have apart : (0 : ℚ) < units - other := sub_pos.mpr (by exact_mod_cast below)
  have closer := sq_le_sq.mpr (rounds.nearest other isMagnitude)
  have atLeast : (other + units : ℚ) / 2 ≤ inUnits number := by nlinarith
  refine ⟨atLeast, fun odd => lt_of_le_of_ne atLeast fun middle => odd ?_⟩
  apply rounds.even other isMagnitude below.ne
  rw [← middle, ← abs_neg]
  congr 1
  ring

theorem Rounds.le_middle (rounds : Rounds number units) (isMagnitude : IsMagnitude other)
    (above : units < other) :
    inUnits number ≤ (units + other : ℚ) / 2 ∧
      (¬ IsEven units → inUnits number < (units + other : ℚ) / 2) := by
  have apart : (0 : ℚ) < other - units := sub_pos.mpr (by exact_mod_cast above)
  have closer := sq_le_sq.mpr (rounds.nearest other isMagnitude)
  have atMost : inUnits number ≤ (units + other : ℚ) / 2 := by nlinarith
  refine ⟨atMost, fun odd => lt_of_le_of_ne atMost fun middle => odd ?_⟩
  apply rounds.even other isMagnitude above.ne'
  rw [middle, ← abs_neg]
  congr 1
  ring

/-- The distance of two magnitudes is at least the last bit of the larger one. -/
theorem IsMagnitude.le_mul_sub (isMagnitude : IsMagnitude units) (larger : IsMagnitude other)
    (below : units < other) : other ≤ 2 ^ 53 * (other - units) := by
  obtain ⟨count, exponent, rfl, -, small, canonical⟩ := isMagnitude.exists_count
  obtain ⟨index, rfl⟩ := larger.dvd_of_le canonical below.le
  rw [mul_comm count] at below ⊢
  have later : count < index := Nat.lt_of_mul_lt_mul_left below
  rw [← Nat.mul_sub, mul_left_comm]
  exact Nat.mul_le_mul_left _ (by omega)

/-- A number that is closer to a magnitude than half its last bit is rounded to it. -/
theorem IsMagnitude.rounds_of_close (isMagnitude : IsMagnitude units)
    (close : 2 ^ 54 * |inUnits number - units| < units) : Rounds number units := by
  have nearer (other : ℕ) (otherMagnitude : IsMagnitude other) (differs : other ≠ units) :
      |inUnits number - units| < |inUnits number - other| := by
    have apart : (units : ℚ) ≤ 2 ^ 53 * |(units : ℚ) - other| := by
      rcases differs.lt_or_gt with below | above
      · have := otherMagnitude.le_mul_sub isMagnitude below
        rw [abs_of_nonneg (sub_nonneg.mpr (by exact_mod_cast below.le)), ← Nat.cast_sub below.le]
        exact_mod_cast this
      · have := isMagnitude.le_mul_sub otherMagnitude above
        rw [abs_sub_comm, abs_of_nonneg (sub_nonneg.mpr (by exact_mod_cast above.le)),
          ← Nat.cast_sub above.le]
        exact_mod_cast above.le.trans this
    have sum := abs_sub_le (units : ℚ) (inUnits number) other
    rw [abs_sub_comm (units : ℚ) (inUnits number)] at sum
    linarith
  refine ⟨isMagnitude, fun other otherMagnitude => ?_, fun other otherMagnitude differs tie => ?_⟩
  · by_cases same : other = units
    · rw [same]
    · exact (nearer other otherMagnitude same).le
  · exact absurd tie (nearer other otherMagnitude differs).ne

/-- Between two even magnitudes lies a third one, so no number is half-way between them. -/
theorem Rounds.not_below (first : Rounds number units) (second : Rounds number other) :
    ¬ units < other := by
  intro below
  have middle : inUnits number = (units + other : ℚ) / 2 :=
    le_antisymm (first.le_middle second.isMagnitude below).1
      (second.middle_le first.isMagnitude below).1
  have evenFirst : IsEven units := by
    by_contra odd
    exact ((first.le_middle second.isMagnitude below).2 odd).ne middle
  have evenSecond : IsEven other := by
    by_contra odd
    exact ((second.middle_le first.isMagnitude below).2 odd).ne' middle
  obtain ⟨count, exponent, rfl, -, small, canonical⟩ := first.isMagnitude.exists_count
  have even := (isEven_iff canonical small).mp evenFirst
  obtain ⟨index, rfl⟩ := second.isMagnitude.dvd_of_le canonical below.le
  rw [mul_comm] at below
  have later : count < index := Nat.lt_of_mul_lt_mul_left below
  have apart : index ≠ count + 1 := by
    rintro rfl
    rw [mul_comm, isEven_iff (canonical.imp_right (by omega)) (by omega)] at evenSecond
    omega
  have next : count * 2 ^ exponent < (count + 1) * 2 ^ exponent := by
    exact Nat.mul_lt_mul_of_pos_right (Nat.lt_succ_self count) (by positivity)
  have before : ((count + 1) * 2 ^ exponent : ℕ) < ((2 ^ exponent * index : ℕ) : ℚ) := by
    rw [mul_comm (2 ^ exponent)]
    exact_mod_cast Nat.mul_lt_mul_of_pos_right (show count + 1 < index by omega) (by positivity)
  have nextMagnitude := isMagnitude_mul (show count + 1 ≤ 2 ^ 53 by omega) exponent
  have nearer := (first.le_middle nextMagnitude next).1
  linarith

theorem Rounds.unique (first : Rounds number units) (second : Rounds number other) :
    units = other :=
  le_antisymm (le_of_not_gt (second.not_below first)) (le_of_not_gt (first.not_below second))

/-- A magnitude is rounded to itself. -/
theorem IsMagnitude.rounds (isMagnitude : IsMagnitude units) : Rounds (magnitude units) units := by
  have counted := inUnits_magnitude units
  refine ⟨isMagnitude, fun other _ => ?_, fun other _ differs tie => ?_⟩
  · rw [counted, sub_self, abs_zero]
    exact abs_nonneg _
  · rw [counted, sub_self, abs_zero, eq_comm, abs_eq_zero, sub_eq_zero] at tie
    exact absurd (by exact_mod_cast tie.symm) differs

theorem rounds_zero : Rounds 0 0 := by
  simpa [magnitude] using IsMagnitude.rounds ⟨0, 0, by norm_num, rfl⟩

end Neighbours

theorem IsMagnitude.mul_twoTo {units : Nat} (isMagnitude : IsMagnitude units) (power : Nat) :
    IsMagnitude (units * twoTo power) := by
  obtain ⟨significand, exponent, small, rfl⟩ := isMagnitude
  exact ⟨significand, exponent + power, small, by rw [twoTo_eq_pow, pow_add, mul_assoc]⟩

theorem isMagnitude_twoTo (power : Nat) : IsMagnitude (twoTo power) :=
  ⟨1, power, by norm_num, by rw [twoTo_eq_pow, one_mul]⟩

/-- A number that is not below one is not rounded to zero. -/
theorem Rounds.positive {number : ℚ} {units : Nat} (rounds : Rounds number units)
    (large : 1 ≤ number) : 0 < units := by
  rw [Nat.pos_iff_ne_zero]
  rintro rfl
  have nearer := rounds.nearest unitsPerOne (isMagnitude_twoTo 1074)
  have unit : (0 : ℚ) < 2 ^ 1074 := by positivity
  have above : (2 : ℚ) ^ 1074 ≤ inUnits number := le_mul_of_one_le_left unit.le large
  rw [cast_unitsPerOne, Nat.cast_zero, sub_zero, abs_of_pos (unit.trans_le above),
    abs_of_nonneg (sub_nonneg.mpr above)] at nearer
  exact absurd nearer (sub_lt_self _ unit).not_ge

theorem nearest_eq_some_iff {numerator denominator units : Nat} (positive : 0 < denominator) :
    nearest numerator denominator = some units ↔
      Rounds (numerator / denominator) units ∧ units < unitLimit := by
  obtain ⟨found, rounds, result⟩ := exists_rounds_nearest numerator positive
  rw [result]
  constructor
  · intro same
    split at same
    · next bounded =>
      obtain rfl := Option.some.inj same
      exact ⟨rounds, bounded⟩
    · cases same
  · rintro ⟨other, bounded⟩
    obtain rfl := rounds.unique other
    exact if_pos bounded

end Binary64

end RobotsExclusion
