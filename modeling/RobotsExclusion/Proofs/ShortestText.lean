import Mathlib.Data.Rat.Floor
import RobotsExclusion.Proofs.DecimalReach

/-!
# The shortest text of a number

The text of a finite number stands for a decimal that is rounded to the number.  No decimal with
fewer digits is, and none that ends at the same place is nearer.  The digits are written in
their places, without zeros that are not needed.
-/

namespace RobotsExclusion

namespace Binary64

section Decimals

variable {units coefficient digits : Nat} {place : Int} {number : ℚ}

/-- A decimal that is rounded to a magnitude, with the fewest digits, and nearest to it among
the decimals that end at the same place. -/
structure IsShortest (units coefficient : Nat) (place : Int) : Prop where
  rounds : Rounds (coefficient * 10 ^ place) units
  fewest : ∀ (other : Nat) (otherPlace : Int), Rounds (other * 10 ^ otherPlace) units →
    (Nat.toDigits 10 coefficient).length ≤ (Nat.toDigits 10 other).length
  nearest : ∀ other : Nat, Rounds (other * 10 ^ place) units →
    |coefficient * 10 ^ place - magnitude units| ≤ |other * 10 ^ place - magnitude units|

theorem exists_of_findSome?_range {α : Type} {attempt : Nat → Option α} {limit : Nat} {found : α}
    (chosen : (List.range limit).findSome? attempt = some found) :
    ∃ count < limit, attempt count = some found ∧ ∀ earlier < count, attempt earlier = none := by
  obtain ⟨before, count, after, split, success, failed⟩ := List.findSome?_eq_some_iff.mp chosen
  have member : count ∈ List.range limit := by simp [split]
  have sorted : (before ++ count :: after).Pairwise (· < ·) := split ▸ List.pairwise_lt_range
  refine ⟨count, List.mem_range.mp member, success, fun earlier below => failed earlier ?_⟩
  have listed : earlier ∈ before ++ count :: after :=
    split ▸ List.mem_range.mpr (below.trans (List.mem_range.mp member))
  rcases List.mem_append.mp listed with early | late
  · exact early
  · rcases List.mem_cons.mp late with rfl | later
    · exact absurd below (lt_irrefl earlier)
    · have := (List.pairwise_cons.mp (List.pairwise_append.mp sorted).2.1).1 earlier later
      omega

/-- The power of ten right above a positive magnitude. -/
theorem leadingPlace_ofUnits_bounds (positive : 0 < units) :
    (10 : ℚ) ^ ((Reach.ofUnits units).leadingPlace - 1) ≤ magnitude units ∧
      magnitude units < (10 : ℚ) ^ (Reach.ofUnits units).leadingPlace := by
  rw [← Reach.center_ofUnits]
  apply Reach.leadingPlace_bounds (Reach.isSound_ofUnits positive)
  have one : unitsPerOne ≤ tenTo 400 := by decide +kernel
  calc 4 * unitsPerOne ≤ 4 * (units * tenTo 400) := by
        gcongr
        exact one.trans (Nat.le_mul_of_pos_left _ positive)
    _ = 4 * units * tenTo 400 := (mul_assoc 4 units _).symm

/-- Seventeen digits are enough for every magnitude. -/
theorem exists_rounds_seventeen (isMagnitude : IsMagnitude units) (positive : 0 < units) :
    ∃ coefficient : Nat, Rounds
      (coefficient * 10 ^ ((Reach.ofUnits units).leadingPlace - 17)) units := by
  have atLeast := (leadingPlace_ofUnits_bounds positive).1
  obtain ⟨place, placeEq⟩ : ∃ place, (Reach.ofUnits units).leadingPlace - 17 = place := ⟨_, rfl⟩
  have leading : (Reach.ofUnits units).leadingPlace - 1 = place + 16 := by omega
  rw [placeEq]
  rw [leading, zpow_add₀ (by norm_num), zpow_ofNat] at atLeast
  have unit : (0 : ℚ) < 10 ^ place := by positivity
  have present : 0 ≤ magnitude units / 10 ^ place + 1 / 2 := by
    have : 0 ≤ magnitude units := by unfold magnitude; positivity
    positivity
  obtain ⟨coefficient, nearest⟩ : ∃ coefficient, ⌊magnitude units / 10 ^ place + 1 / 2⌋₊ =
      coefficient := ⟨_, rfl⟩
  have near : |coefficient * 10 ^ place - magnitude units| ≤ 10 ^ place / 2 := by
    have low := nearest ▸ Nat.floor_le present
    have high := nearest ▸ Nat.lt_floor_add_one (magnitude units / 10 ^ place + 1 / 2)
    have split : magnitude units = magnitude units / 10 ^ place * 10 ^ place :=
      (div_mul_cancel₀ _ unit.ne').symm
    rw [abs_le]
    constructor <;> nlinarith
  refine ⟨coefficient, isMagnitude.rounds_of_close ?_⟩
  rw [abs_inUnits_sub, ← inUnits_magnitude units, inUnits, ← mul_assoc]
  gcongr
  linarith

theorem Rounds.of_le_magnitude {other : ℚ} (rounds : Rounds number units) (positive : 0 < units)
    (above : number ≤ other) (below : other ≤ magnitude units) : Rounds other units := by
  have isMagnitude := rounds.isMagnitude
  rw [← Reach.holds_ofUnits_iff isMagnitude positive] at rounds ⊢
  rw [← Reach.center_ofUnits] at below
  exact rounds.of_le_center (Reach.isSound_ofUnits positive) above below

theorem Rounds.of_magnitude_le {other : ℚ} (rounds : Rounds number units) (positive : 0 < units)
    (above : magnitude units ≤ other) (below : other ≤ number) : Rounds other units := by
  have isMagnitude := rounds.isMagnitude
  rw [← Reach.holds_ofUnits_iff isMagnitude positive] at rounds ⊢
  rw [← Reach.center_ofUnits] at above
  exact rounds.of_center_le (Reach.isSound_ofUnits positive) above below

/-- A decimal that is rounded to a magnitude can be replaced by one that ends where its digits
end when they are counted from the leading place on. -/
theorem exists_rounds_of_digits (positive : 0 < units) {other : Nat} {otherPlace : Int}
    (rounds : Rounds (other * 10 ^ otherPlace) units) (few : other < 10 ^ (digits + 1)) :
    ∃ coefficient : Nat, Rounds (coefficient *
      10 ^ ((Reach.ofUnits units).leadingPlace - (digits + 1 : ℕ))) units := by
  have atLeast := (leadingPlace_ofUnits_bounds positive).1
  obtain ⟨place, placeEq⟩ :
      ∃ place, (Reach.ofUnits units).leadingPlace - (digits + 1 : ℕ) = place := ⟨_, rfl⟩
  have leading : (Reach.ofUnits units).leadingPlace - 1 = digits + place := by
    push_cast at placeEq
    omega
  rw [placeEq]
  rw [leading, zpow_add₀ (by norm_num), zpow_natCast] at atLeast
  rcases le_or_gt place otherPlace with coarse | fine
  · obtain ⟨zeros, rfl⟩ := Int.le.dest coarse
    refine ⟨other * 10 ^ zeros, ?_⟩
    rw [zpow_add₀ (by norm_num), zpow_natCast] at rounds
    push_cast
    rwa [mul_assoc, mul_comm ((10 : ℚ) ^ zeros)]
  · refine ⟨10 ^ digits, ?_⟩
    push_cast
    refine rounds.of_le_magnitude positive ?_ atLeast
    have bounded : (other : ℚ) ≤ 10 ^ (digits + 1) := by exact_mod_cast few.le
    calc (other : ℚ) * 10 ^ otherPlace ≤ 10 ^ (digits + 1) * 10 ^ (place - 1) := by
          gcongr
          · norm_num
          · omega
      _ = 10 ^ digits * 10 ^ place := by
          rw [pow_succ, mul_assoc, ← zpow_one_add₀ (by norm_num), add_sub_cancel]

theorem zpow_eq_mul_zpow (leading : Int) (count : Nat) :
    (10 : ℚ) ^ leading = (10 ^ count : ℕ) * 10 ^ (leading - count) := by
  rw [Nat.cast_pow, Nat.cast_ofNat, ← zpow_natCast, ← zpow_add₀ (by norm_num), add_sub_cancel]

/-- The attempt that succeeds, after all coarser ones have failed. -/
theorem exists_attempt (isMagnitude : IsMagnitude units) (positive : 0 < units) :
    ∃ count coefficient : Nat,
      shortest units = (coefficient, (Reach.ofUnits units).leadingPlace - count) ∧
      ((Reach.ofUnits units).atPlace
        ((Reach.ofUnits units).leadingPlace - count)).nearestWhole? = some coefficient ∧
      ∀ earlier < count, ∀ candidate : Nat, ¬ Rounds
        (candidate * 10 ^ ((Reach.ofUnits units).leadingPlace - earlier)) units := by
  have sound := Reach.isSound_ofUnits positive
  have failed {count : ℕ} (unfound : ((Reach.ofUnits units).atPlace
      ((Reach.ofUnits units).leadingPlace - count)).nearestWhole? = none) (candidate : ℕ) :
      ¬ Rounds (candidate * 10 ^ ((Reach.ofUnits units).leadingPlace - count)) units := by
    rw [← Reach.holds_ofUnits_iff isMagnitude positive]
    exact Reach.not_holds_of_attempt sound unfound candidate
  rw [shortest]
  cases chosen : (List.range 18).findSome? fun (count : ℕ) =>
    (((Reach.ofUnits units).atPlace
      ((Reach.ofUnits units).leadingPlace - count)).nearestWhole?.map
        fun coefficient => (coefficient, (Reach.ofUnits units).leadingPlace - count)) with
  | none =>
      obtain ⟨coefficient, rounds⟩ := exists_rounds_seventeen isMagnitude positive
      have last := List.findSome?_eq_none_iff.mp chosen 17 (by simp)
      exact absurd rounds (failed (Option.map_eq_none_iff.mp last) coefficient)
  | some found =>
      obtain ⟨count, -, success, earlier⟩ := exists_of_findSome?_range chosen
      obtain ⟨coefficient, found, rfl⟩ := Option.map_eq_some_iff.mp success
      exact ⟨count, coefficient, rfl, found,
        fun before below => failed (Option.map_eq_none_iff.mp (earlier before below))⟩

/-- The decimal that is found does not exceed the power of ten right above the magnitude: that
power would be nearer. -/
theorem coefficient_le_pow {leading : Int} {count : Nat} (positive : 0 < units)
    (below : magnitude units < (10 : ℚ) ^ leading)
    (rounds : Rounds (coefficient * 10 ^ (leading - count)) units)
    (nearest : ∀ candidate : ℕ, Rounds (candidate * 10 ^ (leading - count)) units →
      |coefficient * 10 ^ (leading - count) - magnitude units| ≤
        |candidate * 10 ^ (leading - count) - magnitude units|) : coefficient ≤ 10 ^ count := by
  have unit : (0 : ℚ) < 10 ^ (leading - count) := by positivity
  by_contra above
  have above : ((10 ^ count : ℕ) : ℚ) * 10 ^ (leading - count) <
      coefficient * 10 ^ (leading - count) :=
    mul_lt_mul_of_pos_right (by exact_mod_cast not_le.mp above) unit
  rw [zpow_eq_mul_zpow leading count] at below
  have closer := nearest _ (rounds.of_magnitude_le positive below.le above.le)
  rw [abs_of_nonneg (by linarith), abs_of_nonneg (by linarith)] at closer
  linarith

theorem isShortest_shortest (isMagnitude : IsMagnitude units) (positive : 0 < units) :
    IsShortest units (shortest units).1 (shortest units).2 := by
  obtain ⟨count, coefficient, result, chosen, earlier⟩ := exists_attempt isMagnitude positive
  obtain ⟨leading, leadingEq⟩ : ∃ leading, (Reach.ofUnits units).leadingPlace = leading := ⟨_, rfl⟩
  obtain ⟨holds, nearest⟩ :=
    Reach.holds_of_attempt (Reach.isSound_ofUnits positive) chosen
  have below := (leadingPlace_ofUnits_bounds positive).2
  simp only [Reach.holds_ofUnits_iff isMagnitude positive, Reach.center_ofUnits] at holds nearest
  rw [result]
  rw [leadingEq] at below earlier holds nearest ⊢
  have atMost : coefficient ≤ 10 ^ count := coefficient_le_pow positive below holds nearest
  refine ⟨holds, fun other otherPlace rounds => ?_, nearest⟩
  obtain ⟨digits, length⟩ : ∃ digits, (Nat.toDigits 10 other).length = digits + 1 :=
    ⟨_, (Nat.succ_pred_eq_of_pos Nat.length_toDigits_pos).symm⟩
  have few : other < 10 ^ (digits + 1) :=
    (Nat.length_toDigits_le_iff (by norm_num) (Nat.succ_pos digits)).mp length.le
  obtain ⟨candidate, found⟩ := exists_rounds_of_digits positive rounds few
  rw [leadingEq] at found
  have enough : count ≤ digits + 1 := by
    by_contra more
    exact earlier (digits + 1) (not_le.mp more) candidate found
  rw [length, Nat.length_toDigits_le_iff (by norm_num) (Nat.succ_pos digits)]
  cases count with
  | zero => exact atMost.trans_lt (Nat.one_lt_pow (by omega) (by norm_num))
  | succ count =>
      -- The power of ten itself would have been found with one digit less.
      have differs : coefficient ≠ 10 ^ (count + 1) := by
        rintro rfl
        apply earlier count (Nat.lt_succ_self count) (10 ^ count)
        rwa [← zpow_eq_mul_zpow, zpow_eq_mul_zpow leading (count + 1)]
      exact (lt_of_le_of_ne atMost differs).trans_le (Nat.pow_le_pow_right (by norm_num) enough)

end Decimals

section Texts

variable {units coefficient power : Nat} {place : Int} {whole decimals : List Char} {number : ℚ}

/-- Digits before and after a point, without zeros that are not needed. -/
structure IsNumeral (whole decimals : List Char) (number : ℚ) : Prop where
  digits : ∀ c ∈ whole ++ decimals, c.isDigit = true
  nonempty : whole ≠ []
  leading : whole.head? = some '0' → whole = ['0']
  trailing : decimals.getLast? ≠ some '0'
  value : number = Nat.ofDigitChars 10 (whole ++ decimals) 0 / 10 ^ decimals.length

/-- The text of digits before and after a point, which is not written when no digits follow. -/
def pointed (whole decimals : List Char) : List Char :=
  whole ++ if decimals = [] then [] else '.' :: decimals

private theorem digitChar_ne_zero {digit : Nat} (small : digit < 10) (positive : 0 < digit) :
    digit.digitChar ≠ '0' := by
  have all : ∀ digit < 10, 0 < digit → digit.digitChar ≠ '0' := by decide
  exact all digit small positive

private theorem getLast?_toDigits (coefficient : Nat) :
    (Nat.toDigits 10 coefficient).getLast? = some (coefficient % 10).digitChar := by
  rw [Nat.toDigits_eq_if (by norm_num)]
  split
  · next small => rw [Nat.mod_eq_of_lt small]; rfl
  · exact List.getLast?_concat

private theorem head?_toDigits (positive : 0 < coefficient) :
    (Nat.toDigits 10 coefficient).head? ≠ some '0' := by
  induction coefficient using Nat.strongRecOn with
  | ind coefficient ih =>
      rw [Nat.toDigits_eq_if (by norm_num)]
      split
      · next small =>
        intro zero
        exact digitChar_ne_zero small positive (Option.some.inj zero)
      · next large =>
        rw [List.head?_append_of_ne_nil _ Nat.toDigits_ne_nil]
        exact ih _ (by omega) (by omega)

theorem isNumeral_whole (positive : 0 < coefficient) (power : Nat) :
    IsNumeral (Nat.toDigits 10 coefficient ++ List.replicate power '0') []
      (coefficient * 10 ^ power) where
  digits c member := by
    rw [List.append_nil, List.mem_append] at member
    rcases member with digit | zero
    · exact Nat.isDigit_of_mem_toDigits (by norm_num) le_rfl digit
    · rw [List.eq_of_mem_replicate zero]
      rfl
  nonempty := by simp [Nat.toDigits_ne_nil]
  leading zero := by
    rw [List.head?_append_of_ne_nil _ Nat.toDigits_ne_nil] at zero
    exact absurd zero (head?_toDigits positive)
  trailing := by simp
  value := by
    rw [List.append_nil, Nat.ofDigitChars_append, Nat.ofDigitChars_ten_toDigits,
      Nat.ofDigitChars_replicate_zero]
    push_cast
    simp [mul_comm]

/-- The digits of a number, filled up so that one stands before the point. -/
theorem isNumeral_split (positive : 0 < coefficient) (ends : coefficient % 10 ≠ 0) {count : Nat}
    (some : 0 < count) {padded : List Char}
    (filled : padded = List.replicate (count + 1 - (Nat.toDigits 10 coefficient).length) '0' ++
      Nat.toDigits 10 coefficient) :
    padded.drop (padded.length - count) ≠ [] ∧
      IsNumeral (padded.take (padded.length - count)) (padded.drop (padded.length - count))
        (coefficient / 10 ^ count) := by
  have long : count + 1 ≤ padded.length := by
    rw [filled, List.length_append, List.length_replicate]
    omega
  have length : (padded.drop (padded.length - count)).length = count := by
    rw [List.length_drop]
    omega
  have written : padded.drop (padded.length - count) ≠ [] := by
    rw [← List.length_pos_iff, length]
    exact some
  refine ⟨written, ?_, ?_, ?_, ?_, ?_⟩
  · intro c member
    rw [List.take_append_drop, filled, List.mem_append] at member
    rcases member with zero | digit
    · rw [List.eq_of_mem_replicate zero]
      rfl
    · exact Nat.isDigit_of_mem_toDigits (by norm_num) le_rfl digit
  · rw [← List.length_pos_iff, List.length_take]
    omega
  · intro zero
    rcases Nat.lt_or_ge count (Nat.toDigits 10 coefficient).length with full | short
    · rw [Nat.sub_eq_zero_of_le full, List.replicate_zero, List.nil_append] at filled
      rw [List.head?_take, if_neg (by omega), filled] at zero
      exact absurd zero (head?_toDigits positive)
    · have single : padded.length - count = 1 := by
        rw [filled, List.length_append, List.length_replicate]
        omega
      rw [single, List.take_one] at zero ⊢
      cases first : padded.head? with
      | none => simp [first] at zero
      | some c => simpa [first] using zero
  · rw [List.getLast?_drop, if_neg (by omega), filled,
      List.getLast?_append_of_ne_nil _ Nat.toDigits_ne_nil, getLast?_toDigits]
    intro zero
    exact digitChar_ne_zero (Nat.mod_lt _ (by norm_num)) (Nat.pos_of_ne_zero ends)
      (Option.some.inj zero)
  · rw [List.take_append_drop, length, filled, Nat.ofDigitChars_append,
      Nat.ofDigitChars_replicate_zero, Nat.mul_zero, Nat.ofDigitChars_ten_toDigits]

theorem exists_positional (positive : 0 < coefficient) (ends : coefficient % 10 ≠ 0)
    (place : Int) : ∃ whole decimals, positional coefficient place = pointed whole decimals ∧
      IsNumeral whole decimals (coefficient * 10 ^ place) := by
  cases place with
  | ofNat power =>
      refine ⟨_, [], (List.append_nil _).symm, ?_⟩
      rw [Int.ofNat_eq_natCast, zpow_natCast]
      exact isNumeral_whole positive power
  | negSucc power =>
      obtain ⟨written, numeral⟩ := isNumeral_split positive ends (Nat.succ_pos power) rfl
      rw [Nat.succ_eq_add_one, div_eq_mul_inv, ← zpow_negSucc] at numeral
      refine ⟨_, _, ?_, numeral⟩
      rw [pointed, if_neg written]
      rfl

theorem IsShortest.positive (shortest : IsShortest units coefficient place)
    (positive : 0 < units) : 0 < coefficient := by
  rw [Nat.pos_iff_ne_zero]
  rintro rfl
  have rounds := shortest.rounds
  rw [Nat.cast_zero, zero_mul] at rounds
  exact positive.ne (rounds_zero.unique rounds)

/-- A final zero could be dropped. -/
theorem IsShortest.ends (shortest : IsShortest units coefficient place)
    (positive : 0 < units) : coefficient % 10 ≠ 0 := by
  intro zero
  obtain ⟨shorter, rfl⟩ := Nat.dvd_of_mod_eq_zero zero
  have some := shortest.positive positive
  have same : ((10 * shorter : ℕ) : ℚ) * 10 ^ place = shorter * 10 ^ (place + 1) := by
    rw [zpow_add_one₀ (by norm_num)]
    push_cast
    ring
  have fewest := shortest.fewest shorter (place + 1) (same ▸ shortest.rounds)
  rw [Nat.toDigits_of_base_le (by norm_num) (by omega), List.length_append,
    Nat.mul_div_cancel_left _ (by norm_num), List.length_singleton] at fewest
  omega

/-- The shortest text of a finite number: its sign and the digits of the shortest decimal. -/
def IsShortestText (negative : Bool) (units : Nat) (text : String) : Prop :=
  ∃ coefficient place whole decimals, IsShortest units coefficient place ∧
    IsNumeral whole decimals (coefficient * 10 ^ place) ∧
    text.toList = (if negative then ['-'] else []) ++ pointed whole decimals

theorem isShortest_zero : IsShortest 0 0 0 where
  rounds := by simpa using rounds_zero
  fewest other _ _ := Nat.length_toDigits_pos
  nearest other _ := by simp [magnitude]

theorem exists_magnitudeText (isMagnitude : IsMagnitude units) :
    ∃ coefficient place whole decimals, IsShortest units coefficient place ∧
      IsNumeral whole decimals (coefficient * 10 ^ place) ∧
      magnitudeText units = pointed whole decimals := by
  rcases Nat.eq_zero_or_pos units with rfl | positive
  · refine ⟨0, 0, ['0'], [], isShortest_zero, ?_, rfl⟩
    exact ⟨by simp, by simp, fun _ => rfl, by simp, by simp [Nat.ofDigitChars_cons]⟩
  · have shortest := isShortest_shortest isMagnitude positive
    obtain ⟨whole, decimals, text, numeral⟩ :=
      exists_positional (shortest.positive positive) (shortest.ends positive) _
    refine ⟨_, _, whole, decimals, shortest, numeral, ?_⟩
    rw [magnitudeText, if_neg positive.ne', ← text]

theorem isShortestText_text (negative : Bool) (isMagnitude : IsMagnitude units) :
    IsShortestText negative units (finite negative units).text := by
  obtain ⟨coefficient, place, whole, decimals, shortest, numeral, text⟩ :=
    exists_magnitudeText isMagnitude
  refine ⟨coefficient, place, whole, decimals, shortest, numeral, ?_⟩
  rw [Binary64.text, String.toList_ofList, signed, text]
  cases negative <;> rfl

end Texts

end Binary64

end RobotsExclusion
