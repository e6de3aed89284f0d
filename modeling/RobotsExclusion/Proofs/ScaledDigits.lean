import Mathlib.Algebra.Order.Field.Power
import RobotsExclusion.Json.Number
import RobotsExclusion.Proofs.Rounding

/-!
# Gathered and scaled digits

The digits of a number that fit into 64 bits are gathered, and what they tell of the number is
as much as the digits that are dropped allow: both lie between the same two neighbours on a
coarse scale.  The gathered digits are rounded, and scaled by a power of ten with one rounding
for each operation.
-/

namespace RobotsExclusion

namespace Json

open Binary64

section Gathering

variable {lower coefficient : Nat} {scale place : Int} {gathered : Gathered}
  {digits : List Char} {c : Char}

/-- A coefficient at a place, with all the numbers that further digits can make of it, lies
between two neighbours on a scale. -/
structure Covers (lower : Nat) (scale : Int) (coefficient : Nat) (place : Int) : Prop where
  above : (lower * 10 ^ scale : ℚ) ≤ coefficient * 10 ^ place
  below : ((coefficient + 1) * 10 ^ place : ℚ) ≤ (lower + 1) * 10 ^ scale

theorem Covers.refl (coefficient : Nat) (place : Int) :
    Covers coefficient place coefficient place :=
  ⟨le_rfl, le_rfl⟩

theorem Covers.extend {digit : Nat} (covers : Covers lower scale coefficient place)
    (small : digit < 10) : Covers lower scale (coefficient * 10 + digit) (place - 1) := by
  have unit : (10 : ℚ) ^ place = 10 * 10 ^ (place - 1) := by
    rw [← zpow_one_add₀ (by norm_num), add_sub_cancel]
  have finer : (0 : ℚ) < 10 ^ (place - 1) := by positivity
  have least : (digit : ℚ) + 1 ≤ 10 := by exact_mod_cast small
  obtain ⟨above, below⟩ := covers
  rw [unit] at above below
  constructor <;> push_cast
  · calc (lower : ℚ) * 10 ^ scale
      _ ≤ coefficient * (10 * 10 ^ (place - 1)) := above
      _ = coefficient * 10 * 10 ^ (place - 1) := (mul_assoc _ _ _).symm
      _ ≤ (coefficient * 10 + digit) * 10 ^ (place - 1) := by
        gcongr
        exact le_add_of_nonneg_right (Nat.cast_nonneg digit)
  · calc ((coefficient : ℚ) * 10 + digit + 1) * 10 ^ (place - 1)
      _ ≤ (coefficient * 10 + 10) * 10 ^ (place - 1) := by
        rw [add_assoc]
        gcongr
      _ = (coefficient + 1) * (10 * 10 ^ (place - 1)) := by ring
      _ ≤ (lower + 1) * 10 ^ scale := below

theorem Covers.shift (covers : Covers lower scale coefficient place) (places : Int) :
    Covers lower (scale + places) coefficient (place + places) := by
  have unit : (0 : ℚ) ≤ 10 ^ places := by positivity
  constructor <;> rw [zpow_add₀ (by norm_num), zpow_add₀ (by norm_num), ← mul_assoc, ← mul_assoc]
  · exact mul_le_mul_of_nonneg_right covers.above unit
  · exact mul_le_mul_of_nonneg_right covers.below unit

/-- Two numbers between the same neighbours are at most one step apart. -/
theorem Covers.abs_sub_le {other : Nat} {otherPlace : Int}
    (first : Covers lower scale coefficient place) (second : Covers lower scale other otherPlace) :
    |(coefficient * 10 ^ place : ℚ) - other * 10 ^ otherPlace| ≤ 10 ^ scale := by
  have firstUnit : (0 : ℚ) < 10 ^ place := by positivity
  have secondUnit : (0 : ℚ) < 10 ^ otherPlace := by positivity
  rw [abs_le]
  constructor
  · linarith [first.above, second.below]
  · linarith [first.below, second.above]

/-- What gathered digits tell of a number: all of it, or, when its digits do not fit, where it
lies on a scale that is fine enough. -/
structure Gathered.Tells (gathered : Gathered) (coefficient : Nat) (place : Int) : Prop where
  bounded : gathered.significand < 2 ^ 64
  tells : (gathered.full = false ∧ gathered.significand = coefficient ∧
      gathered.exponent = place) ∨
    (2 ^ 64 ≤ coefficient ∧ ∃ lower scale, 2 ^ 60 ≤ lower ∧
      Covers lower scale gathered.significand gathered.exponent ∧
      Covers lower scale coefficient place)

namespace Gathered

/-- A digit before the point counts like one after it, in numbers ten times as large. -/
theorem whole_eq_decimal (gathered : Gathered) (c : Char) : gathered.whole c =
    { gathered.decimal c with exponent := (gathered.decimal c).exponent + 1 } := by
  simp only [whole, decimal]
  split <;> simp

theorem digitValue_eq (isDigit : c.isDigit = true) : Text.digitValue c = c.toNat - '0'.toNat := by
  rw [Text.digitValue, Text.hexValue?, if_pos isDigit]
  rfl

theorem digitValue_lt (isDigit : c.isDigit = true) : Text.digitValue c < 10 := by
  rw [digitValue_eq isDigit]
  simp only [Char.isDigit, Bool.and_eq_true, decide_eq_true_eq, UInt32.le_iff_toNat_le] at isDigit
  have atMost : c.toNat ≤ 57 := isDigit.2
  have zero : '0'.toNat = 48 := rfl
  omega

theorem ofDigitChars_cons_eq (isDigit : c.isDigit = true) (digits : List Char)
    (coefficient : Nat) : Nat.ofDigitChars 10 (c :: digits) coefficient =
      Nat.ofDigitChars 10 digits (coefficient * 10 + Text.digitValue c) := by
  rw [Nat.ofDigitChars_cons, digitValue_eq isDigit, mul_comm]

namespace Tells

theorem shift (tells : gathered.Tells coefficient place) (places : Int) :
    Tells { gathered with exponent := gathered.exponent + places } coefficient
      (place + places) := by
  refine ⟨tells.bounded, ?_⟩
  rcases tells.tells with ⟨room, same, level⟩ | ⟨large, lower, scale, fine, covers, stated⟩
  · exact .inl ⟨room, same, by rw [level]⟩
  · exact .inr ⟨large, lower, scale + places, fine, covers.shift places, stated.shift places⟩

theorem decimal (tells : gathered.Tells coefficient place) (isDigit : c.isDigit = true) :
    (gathered.decimal c).Tells (coefficient * 10 + Text.digitValue c) (place - 1) := by
  have small := digitValue_lt isDigit
  have limit : wordLimit = 2 ^ 64 := rfl
  obtain ⟨bounded, tells⟩ := tells
  simp only [Gathered.decimal, limit]
  split_ifs with dropped
  · refine ⟨bounded, .inr ?_⟩
    rcases tells with ⟨room, same, level⟩ | ⟨large, lower, scale, fine, covers, stated⟩
    · have large := dropped.resolve_left (by simp [room])
      have fine : 2 ^ 60 ≤ gathered.significand := by omega
      rw [← same, ← level]
      exact ⟨large, _, _, fine, Covers.refl _ _, (Covers.refl _ _).extend small⟩
    · exact ⟨by omega, lower, scale, fine, covers, stated.extend small⟩
  · rw [not_or, not_le] at dropped
    refine ⟨dropped.2, ?_⟩
    rcases tells with ⟨room, same, level⟩ | ⟨large, lower, scale, fine, covers, stated⟩
    · exact .inl ⟨room, by rw [same], by rw [level]⟩
    · exact .inr ⟨by omega, lower, scale, fine, covers.extend small, stated.extend small⟩

theorem whole (tells : gathered.Tells coefficient place) (isDigit : c.isDigit = true) :
    (gathered.whole c).Tells (coefficient * 10 + Text.digitValue c) place := by
  have shifted := (tells.decimal isDigit).shift 1
  rwa [sub_add_cancel, ← whole_eq_decimal] at shifted

theorem reopened (tells : gathered.Tells coefficient place) :
    gathered.reopened.Tells coefficient place :=
  ⟨tells.bounded, tells.tells.imp_left fun ⟨_, same⟩ => ⟨rfl, same⟩⟩

theorem foldl_whole (allDigits : ∀ c ∈ digits, c.isDigit = true)
    (tells : gathered.Tells coefficient place) :
    (digits.foldl Gathered.whole gathered).Tells (Nat.ofDigitChars 10 digits coefficient)
      place := by
  induction digits generalizing gathered coefficient with
  | nil => exact tells
  | cons c rest ih =>
      obtain ⟨isDigit, others⟩ := List.forall_mem_cons.mp allDigits
      rw [ofDigitChars_cons_eq isDigit]
      exact ih others (tells.whole isDigit)

theorem foldl_decimal (allDigits : ∀ c ∈ digits, c.isDigit = true)
    (tells : gathered.Tells coefficient place) :
    (digits.foldl Gathered.decimal gathered).Tells (Nat.ofDigitChars 10 digits coefficient)
      (place - digits.length) := by
  induction digits generalizing gathered coefficient place with
  | nil => simpa using tells
  | cons c rest ih =>
      obtain ⟨isDigit, others⟩ := List.forall_mem_cons.mp allDigits
      rw [ofDigitChars_cons_eq isDigit, List.length_cons, Nat.cast_succ, sub_add_eq_sub_sub_swap]
      exact ih others (tells.decimal isDigit)

theorem initial : Tells ⟨0, false, 0⟩ 0 0 :=
  ⟨by norm_num, .inl ⟨rfl, rfl, rfl⟩⟩

end Tells

/-- As long as no digit before the point is dropped, the gathered digits are all digits. -/
theorem significand_foldl_whole (allDigits : ∀ c ∈ digits, c.isDigit = true)
    (complete : (digits.foldl whole gathered).full = false) : gathered.full = false ∧
      (digits.foldl whole gathered).significand =
        Nat.ofDigitChars 10 digits gathered.significand := by
  induction digits generalizing gathered with
  | nil => exact ⟨complete, rfl⟩
  | cons c rest ih =>
      obtain ⟨isDigit, others⟩ := List.forall_mem_cons.mp allDigits
      obtain ⟨room, same⟩ := ih others complete
      rw [ofDigitChars_cons_eq isDigit, List.foldl_cons, same]
      simp only [whole] at room ⊢
      split at room
      · cases room
      · next fits =>
        rw [if_neg fits]
        exact ⟨room, rfl⟩

end Gathered

/-- The digits of a number that are kept: all of them when they fit into 64 bits, and otherwise
so many that the number changes by at most its `2 ^ 60`-th part. -/
structure Gathers (coefficient : Nat) (place : Int) (significand : Nat) (exponent : Int) :
    Prop where
  bounded : significand < 2 ^ 64
  complete : coefficient < 2 ^ 64 → significand = coefficient ∧ exponent = place
  near : |(significand * 10 ^ exponent : ℚ) - coefficient * 10 ^ place| * 2 ^ 60 ≤
    coefficient * 10 ^ place

theorem Gathered.Tells.gathers (tells : gathered.Tells coefficient place) :
    Gathers coefficient place gathered.significand gathered.exponent := by
  refine ⟨tells.bounded, fun fits => ?_, ?_⟩
  · rcases tells.tells with ⟨-, same⟩ | ⟨large, -⟩
    · exact same
    · exact absurd fits large.not_gt
  · rcases tells.tells with ⟨-, same, level⟩ | ⟨-, lower, scale, fine, covers, stated⟩
    · rw [same, level, sub_self, abs_zero, zero_mul]
      positivity
    · have unit : (0 : ℚ) < 10 ^ scale := by positivity
      have least : (2 ^ 60 * 10 ^ scale : ℚ) ≤ lower * 10 ^ scale := by
        gcongr
        exact_mod_cast fine
      linarith [covers.abs_sub_le stated, stated.above]

end Gathering

section Scaling

variable {units power factor divisor result : Nat} {place : Int} {gathered : Gathered}

/-- A magnitude is scaled by a power of ten, and every operation is rounded.  The power itself
is rounded, too, and a power that is too small for a number is split off in parts. -/
inductive Scales : (units : Nat) → (place : Int) → (result : Nat) → Prop
  | zero (place : Int) : Scales 0 place 0
  | multiplied {units power factor result : Nat} (atMost : power ≤ 308)
      (rounded : Rounds (10 ^ power) factor)
      (rounds : Rounds (magnitude units * magnitude factor) result) : Scales units power result
  | divided {units power divisor result : Nat} (atMost : power ≤ 308)
      (rounded : Rounds (10 ^ power) divisor)
      (rounds : Rounds (magnitude units / magnitude divisor) result) :
      Scales units (-power) result
  | dividedFar {units power largest reduced result : Nat} (far : 308 < power)
      (rounded : Rounds (10 ^ 308) largest)
      (rounds : Rounds (magnitude units / magnitude largest) reduced)
      (rest : Scales reduced (-(power - 308 : ℕ)) result) : Scales units (-power) result

theorem rounds_of_nearest_one {number : Nat} (rounded : nearest number 1 = some units) :
    Rounds number units := by
  simpa using ((nearest_eq_some_iff one_pos).mp rounded).1

theorem rounds_of_powerOfTen (rounded : powerOfTen power = some factor) :
    Rounds (10 ^ power) factor := by
  rw [← cast_tenTo]
  exact rounds_of_nearest_one rounded

theorem rounds_of_ratio (positive : 0 < divisor) (divided : ratio units divisor = some result) :
    Rounds (magnitude units / magnitude divisor) result ∧ result < unitLimit := by
  rw [magnitude, magnitude, div_div_div_cancel_right₀ (by positivity)]
  exact (nearest_eq_some_iff positive).mp divided

theorem rounds_of_product (multiplied : product units factor = some result) :
    Rounds (magnitude units * magnitude factor) result ∧ result < unitLimit := by
  have positive : 0 < unitsPerOne * unitsPerOne := Nat.mul_pos (twoTo_pos 1074) (twoTo_pos 1074)
  rw [magnitude, magnitude, div_mul_div_comm, ← cast_unitsPerOne, ← Nat.cast_mul, ← Nat.cast_mul]
  exact (nearest_eq_some_iff positive).mp multiplied

theorem Scales.isMagnitude (scales : Scales units place result) : IsMagnitude result := by
  induction scales with
  | zero => exact rounds_zero.isMagnitude
  | multiplied _ _ rounds => exact rounds.isMagnitude
  | divided _ _ rounds => exact rounds.isMagnitude
  | dividedFar _ _ _ _ ih => exact ih

theorem scales_of_multiply (multiplied : Gathered.multiply units power = some result) :
    Scales units power result ∧ result < unitLimit := by
  unfold Gathered.multiply at multiplied
  split at multiplied
  · next atMost =>
    obtain ⟨factor, rounded, multiplied⟩ := Option.bind_eq_some_iff.mp multiplied
    obtain ⟨rounds, bounded⟩ := rounds_of_product multiplied
    exact ⟨.multiplied atMost (rounds_of_powerOfTen rounded) rounds, bounded⟩
  · split at multiplied
    · next zero =>
      subst zero
      obtain rfl := Option.some.inj multiplied
      exact ⟨.zero power, twoTo_pos 2098⟩
    · cases multiplied

/-- Each of the divisions by the largest power takes 308 places off. -/
theorem scales_of_divideTimes {largest remaining reduced : Nat}
    (largestRounded : Rounds (10 ^ 308) largest) (rounded : Rounds (10 ^ power) remaining)
    (atLeast : 0 < power) (atMost : power ≤ 308)
    (last : ratio reduced remaining = some result) (times : Nat) {units : Nat}
    (steps : Gathered.divideTimes largest times units = some reduced) :
    Scales units (-(308 * times + power : ℕ)) result ∧ result < unitLimit := by
  have positive : 0 < remaining := rounded.positive (one_le_pow₀ (by norm_num))
  induction times generalizing units with
  | zero =>
      obtain rfl := Option.some.inj steps
      obtain ⟨rounds, bounded⟩ := rounds_of_ratio positive last
      rw [Nat.mul_zero, Nat.zero_add]
      exact ⟨.divided atMost rounded rounds, bounded⟩
  | succ times ih =>
      rw [Gathered.divideTimes] at steps
      split at steps
      · next zero =>
        subst zero
        obtain rfl := Option.some.inj steps
        obtain ⟨rounds, bounded⟩ := rounds_of_ratio positive last
        rw [magnitude, Nat.cast_zero, zero_div, zero_div] at rounds
        obtain rfl := rounds.unique rounds_zero
        exact ⟨.zero _, bounded⟩
      · obtain ⟨next, divided, steps⟩ := Option.bind_eq_some_iff.mp steps
        obtain ⟨rounds, -⟩ := rounds_of_ratio
          (largestRounded.positive (one_le_pow₀ (by norm_num))) divided
        obtain ⟨rest, bounded⟩ := ih steps
        refine ⟨.dividedFar (by omega) largestRounded rounds ?_, bounded⟩
        rwa [show 308 * (times + 1) + power - 308 = 308 * times + power by omega]

theorem scales_of_divide (atLeast : 0 < power)
    (divided : Gathered.divide units power = some result) :
    Scales units (-power) result ∧ result < unitLimit := by
  simp only [Gathered.divide, Gathered.largestPower, Option.bind_eq_bind,
    Option.bind_eq_some_iff] at divided
  obtain ⟨largest, largestRounded, reduced, steps, remaining, rounded, last⟩ := divided
  have scales := scales_of_divideTimes (rounds_of_powerOfTen largestRounded)
    (rounds_of_powerOfTen rounded) (by omega) (by omega) last _ steps
  rwa [show 308 * ((power - 1) / 308) + (power - 308 * ((power - 1) / 308)) = power by omega]
    at scales

/-- The gathered digits are rounded and then scaled. -/
theorem exists_scales_of_units? (read : gathered.units? = some result) :
    ∃ rounded, Rounds gathered.significand rounded ∧
      Scales rounded gathered.exponent result ∧ result < unitLimit := by
  obtain ⟨rounded, nearest, scaled⟩ := Option.bind_eq_some_iff.mp read
  refine ⟨rounded, rounds_of_nearest_one nearest, ?_⟩
  generalize gathered.exponent = exponent at scaled ⊢
  cases exponent with
  | ofNat power => exact scales_of_multiply scaled
  | negSucc power => exact scales_of_divide (Nat.succ_pos power) scaled

/-- Whole numbers with at most 53 significant bits are numbers themselves. -/
theorem magnitude_eq_of_rounds {number : Nat} (rounds : Rounds number units)
    (isMagnitude : IsMagnitude number) : magnitude units = number := by
  have whole : magnitude (number * unitsPerOne) = number := by
    rw [magnitude, Nat.cast_mul, cast_unitsPerOne]
    exact mul_div_cancel_right₀ _ (by positivity)
  have itself : Rounds number (number * unitsPerOne) :=
    whole ▸ (isMagnitude.mul_twoTo 1074).rounds
  rw [rounds.unique itself, whole]

/-- Up to `10 ^ 22` the powers of ten are numbers themselves. -/
theorem magnitude_eq_pow_of_rounds (small : power ≤ 22) (rounds : Rounds (10 ^ power) factor) :
    magnitude factor = 10 ^ power := by
  have few : 5 ^ power < 2 ^ 53 :=
    (Nat.pow_le_pow_right (by norm_num) small).trans_lt (by norm_num)
  rw [← cast_tenTo] at rounds ⊢
  exact magnitude_eq_of_rounds rounds ⟨5 ^ power, power, few, Nat.mul_pow 5 2 power⟩

/-- Digits and a power that are numbers themselves are scaled to the nearest number. -/
theorem Scales.rounds_of_small {coefficient : Nat} (scales : Scales units place result)
    (rounded : Rounds coefficient units) (few : coefficient < 2 ^ 53) (near : |place| ≤ 22) :
    Rounds (coefficient * 10 ^ place) result := by
  have kept : magnitude units = coefficient :=
    magnitude_eq_of_rounds rounded ⟨coefficient, 0, few, (mul_one coefficient).symm⟩
  rw [← kept]
  cases scales with
  | zero => simpa [magnitude] using rounds_zero
  | multiplied _ power rounds =>
      rw [Nat.abs_cast] at near
      rwa [magnitude_eq_pow_of_rounds (by omega) power, ← zpow_natCast] at rounds
  | divided _ power rounds =>
      rw [abs_neg, Nat.abs_cast] at near
      rwa [magnitude_eq_pow_of_rounds (by omega) power, ← zpow_natCast, div_eq_mul_inv,
        ← zpow_neg] at rounds
  | dividedFar far =>
      rw [abs_neg, Nat.abs_cast] at near
      omega

end Scaling

end Json

end RobotsExclusion
