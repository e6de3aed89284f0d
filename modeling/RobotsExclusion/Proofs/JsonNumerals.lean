import RobotsExclusion.Json.Token
import RobotsExclusion.Proofs.ScaledDigits
import RobotsExclusion.Proofs.ShortestText

/-!
# Numerals in JSON

A numeral in JSON has a sign, digits before and after a point and an exponent.  One that is
written without a point and an exponent and fits into 64 bits stands for an integer.  Every
other one stands for a floating point number: its digits are gathered, rounded and scaled.
-/

namespace RobotsExclusion

namespace Json

open Binary64

/-- A number as it is written. -/
structure Numeral where
  negative : Bool
  whole : List Char
  decimals : List Char
  exponent : Option Int

/-- The spellings of an exponent, which may be left out. -/
inductive SpellsExponent : (exponent : Option Int) → (spelling : List Char) → Prop
  | absent : SpellsExponent none []
  | present {mark : Char} {sign digits : List Char} (isMark : mark = 'e' ∨ mark = 'E')
      (isSign : sign = [] ∨ sign = ['+'] ∨ sign = ['-']) (nonempty : digits ≠ [])
      (allDigits : ∀ c ∈ digits, c.isDigit = true) :
      SpellsExponent
        (some (Text.signed (sign = ['-']) (Nat.ofDigitChars 10 digits 0)))
        (mark :: (sign ++ digits))

namespace Numeral

def coefficient (numeral : Numeral) : Nat :=
  Nat.ofDigitChars 10 (numeral.whole ++ numeral.decimals) 0

/-- The place of the last digit. -/
def place (numeral : Numeral) : Int :=
  numeral.exponent.getD 0 - numeral.decimals.length

/-- The magnitude that is written. -/
def value (numeral : Numeral) : ℚ :=
  numeral.coefficient * 10 ^ numeral.place

/-- The digits before the point have no superfluous zeros at the beginning. -/
structure Spells (numeral : Numeral) (spelling : List Char) : Prop where
  digits : ∀ c ∈ numeral.whole ++ numeral.decimals, c.isDigit = true
  nonempty : numeral.whole ≠ []
  leading : numeral.whole.head? = some '0' → numeral.whole = ['0']
  layout : ∃ exponent, SpellsExponent numeral.exponent exponent ∧
    spelling = (if numeral.negative then ['-'] else []) ++
      pointed numeral.whole numeral.decimals ++ exponent

/-- An integer of 64 bits, with or without a sign.  Zero has no sign as an integer. -/
structure IsInteger (numeral : Numeral) : Prop where
  pointless : numeral.decimals = []
  unscaled : numeral.exponent = none
  fits : if numeral.negative then 0 < numeral.coefficient ∧ numeral.coefficient ≤ 2 ^ 63
    else numeral.coefficient < 2 ^ 64

/-- The magnitude that a numeral is read as: the digits that are kept are rounded and scaled.
When the digits and the power of ten are small, it is the nearest one. -/
structure IsReadAs (numeral : Numeral) (units : Nat) : Prop where
  scaled : ∃ significand place rounded,
    Gathers numeral.coefficient numeral.place significand place ∧
      Rounds significand rounded ∧ Scales rounded place units
  finite : magnitude units < 2 ^ 1024
  nearest : numeral.coefficient < 2 ^ 53 → |numeral.place| ≤ 22 → Rounds numeral.value units

end Numeral

/-- The words and the numerals, and what they stand for. -/
inductive StandsFor : (spelling : List Char) → (value : Document) → Prop
  | null : StandsFor "null".toList .null
  | true : StandsFor "true".toList (.boolean true)
  | false : StandsFor "false".toList (.boolean false)
  | integer {numeral : Numeral} {spelling : List Char} (spells : numeral.Spells spelling)
      (isInteger : numeral.IsInteger) :
      StandsFor spelling (.integer (Text.signed numeral.negative numeral.coefficient))
  | real {numeral : Numeral} {spelling : List Char} {units : Nat}
      (spells : numeral.Spells spelling) (other : ¬ numeral.IsInteger)
      (isReadAs : numeral.IsReadAs units) :
      StandsFor spelling (.real (.finite numeral.negative units))

section Reading

variable {numeral : Numeral} {gathered : Gathered} {negative : Bool}
  {text spelling whole decimals : List Char} {value : Document} {units : Nat} {mark : Char}
  {exponent : Int}

theorem decimalValue_eq {digits : List Char} (allDigits : ∀ c ∈ digits, c.isDigit = true) :
    Text.decimalValue digits = Nat.ofDigitChars 10 digits 0 := by
  rw [Text.decimalValue, Text.baseValue, Nat.ofDigitChars_eq_foldl]
  apply List.foldl_ext
  intro value c member
  rw [Gathered.digitValue_eq (allDigits c member), mul_comm]

theorem magnitude_lt (bounded : units < unitLimit) : magnitude units < 2 ^ 1024 := by
  have limit : (unitLimit : ℚ) = 2 ^ 1024 * 2 ^ 1074 := by
    rw [unitLimit, cast_twoTo, ← pow_add]
  rw [magnitude, div_lt_iff₀ (by positivity), ← limit]
  exact_mod_cast bounded

theorem isReadAs_of_units? (tells : gathered.Tells numeral.coefficient numeral.place)
    (read : gathered.units? = some units) : numeral.IsReadAs units := by
  have gathers := tells.gathers
  obtain ⟨rounded, rounds, scales, bounded⟩ := exists_scales_of_units? read
  refine ⟨⟨_, _, rounded, gathers, rounds, scales⟩, magnitude_lt bounded, fun few near => ?_⟩
  obtain ⟨same, level⟩ := gathers.complete (few.trans (by norm_num))
  rw [same] at rounds
  rw [level] at scales
  exact scales.rounds_of_small rounds few near

theorem Numeral.IsReadAs.isMagnitude (isReadAs : numeral.IsReadAs units) : IsMagnitude units := by
  obtain ⟨_, _, _, -, -, scales⟩ := isReadAs.scaled
  exact scales.isMagnitude

theorem standsFor_of_real? (spells : numeral.Spells spelling) (other : ¬ numeral.IsInteger)
    (tells : gathered.Tells numeral.coefficient numeral.place)
    (read : gathered.real? numeral.negative = some value) : StandsFor spelling value := by
  rw [Gathered.real?, Option.map_eq_some_iff] at read
  obtain ⟨units, read, rfl⟩ := read
  exact .real spells other (isReadAs_of_units? tells read)

theorem spellsExponent_of_exponent? (isMark : mark = 'e' ∨ mark = 'E')
    (read : exponent? text = some exponent) : SpellsExponent (some exponent) (mark :: text) := by
  obtain ⟨sign, digits, isSign, rfl, split⟩ : ∃ sign digits,
      (sign = [] ∨ sign = ['+'] ∨ sign = ['-']) ∧ text = sign ++ digits ∧
        Text.splitSign text = (decide (sign = ['-']), digits) := by
    unfold Text.splitSign
    split
    · exact ⟨['+'], _, by simp, rfl, rfl⟩
    · exact ⟨['-'], _, by simp, rfl, rfl⟩
    · exact ⟨[], _, by simp, rfl, rfl⟩
  simp only [exponent?, split] at read
  split at read
  · cases read
  · next valid =>
    rw [not_or, not_not, List.isEmpty_iff, List.all_eq_true] at valid
    obtain ⟨nonempty, allDigits⟩ := valid
    obtain rfl := Option.some.inj read
    rw [decimalValue_eq allDigits]
    exact .present isMark isSign nonempty allDigits

theorem exists_spellsExponent_of_scaled? (read : scaled? gathered negative text = some value) :
    ∃ exponent, SpellsExponent exponent text ∧
      { gathered with exponent := gathered.exponent + exponent.getD 0 }.real? negative =
        some value := by
  unfold scaled? at read
  split at read
  · refine ⟨none, .absent, ?_⟩
    rwa [Option.getD_none, Int.add_zero]
  · split at read
    · next isMark =>
      split at read
      · next exponent found =>
        exact ⟨some exponent, spellsExponent_of_exponent? isMark found, read⟩
      · cases read
    · cases read

/-- Without a point and an exponent the digits are an integer if they are all kept. -/
theorem standsFor_of_integer? (spells : numeral.Spells spelling)
    (pointless : numeral.decimals = []) (unscaled : numeral.exponent = none)
    (tells : gathered.Tells numeral.coefficient numeral.place)
    (kept : gathered.full = false → gathered.significand = numeral.coefficient)
    (read : gathered.integer? numeral.negative = some value) : StandsFor spelling value := by
  have bounded := tells.bounded
  unfold Gathered.integer? at read
  split at read
  · next full =>
    have large : 2 ^ 64 ≤ numeral.coefficient := by
      rcases tells.tells with ⟨room, -⟩ | ⟨large, -⟩
      · exact absurd full (by simp [room])
      · exact large
    refine standsFor_of_real? spells (fun isInteger => ?_) tells read
    have fits := isInteger.fits
    split at fits <;> omega
  · next room =>
    rw [kept (eq_false_of_ne_true room)] at bounded read
    split at read
    · next positive =>
      obtain rfl := Option.some.inj read
      have integer : numeral.IsInteger := ⟨pointless, unscaled, by rwa [if_neg positive]⟩
      have stands := StandsFor.integer spells integer
      rwa [Text.signed, if_neg positive] at stands
    · next negative =>
      rw [not_not] at negative
      split at read
      · next unfit =>
        rw [← negative] at read
        refine standsFor_of_real? spells (fun isInteger => ?_) tells read
        have fits := isInteger.fits
        rw [if_pos negative] at fits
        have limit : twoTo 63 = 2 ^ 63 := rfl
        omega
      · next fits =>
        obtain rfl := Option.some.inj read
        have limit : twoTo 63 = 2 ^ 63 := rfl
        have integer : numeral.IsInteger :=
          ⟨pointless, unscaled, by rw [if_pos negative]; omega⟩
        have stands := StandsFor.integer spells integer
        rwa [Text.signed, if_pos negative] at stands

theorem splitDigits_spec (text : List Char) :
    text = (splitDigits text).1 ++ (splitDigits text).2 ∧
      ∀ c ∈ (splitDigits text).1, c.isDigit = true :=
  ⟨List.takeWhile_append_dropWhile.symm, List.all_eq_true.mp List.all_takeWhile⟩

/-- With a point or an exponent a numeral is no integer. -/
theorem standsFor_of_scaled? (digits : ∀ c ∈ whole ++ decimals, c.isDigit = true)
    (nonempty : whole ≠ []) (leading : whole.head? = some '0' → whole = ['0'])
    (other : decimals ≠ [] ∨ text ≠ [])
    (tells : gathered.Tells (Nat.ofDigitChars 10 (whole ++ decimals) 0) (-decimals.length))
    (read : scaled? gathered negative text = some value) :
    StandsFor ((if negative then ['-'] else []) ++ pointed whole decimals ++ text) value := by
  obtain ⟨exponent, spelled, read⟩ := exists_spellsExponent_of_scaled? read
  have spells : Numeral.Spells ⟨negative, whole, decimals, exponent⟩
      ((if negative then ['-'] else []) ++ pointed whole decimals ++ text) :=
    ⟨digits, nonempty, leading, text, spelled, rfl⟩
  refine standsFor_of_real? spells (fun isInteger => ?_) ?_ read
  · rcases other with written | written
    · exact written isInteger.pointless
    · cases spelled with
      | absent => exact written rfl
      | present => exact absurd isInteger.unscaled (by simp)
  · have shifted := tells.shift (exponent.getD 0)
    rwa [neg_add_eq_sub] at shifted

theorem eq_zero_of_leading (nonempty : whole ≠ [])
    (short : whole.head? = some '0' → whole.length ≤ 1) (zero : whole.head? = some '0') :
    whole = ['0'] := by
  cases whole with
  | nil => exact absurd rfl nonempty
  | cons c others =>
      obtain rfl := Option.some.inj zero
      have none : others.length ≤ 0 := Nat.le_of_succ_le_succ (short zero)
      rw [List.eq_nil_of_length_eq_zero (Nat.le_zero.mp none)]

theorem standsFor_of_whole (digits : ∀ c ∈ whole, c.isDigit = true) (nonempty : whole ≠ [])
    (leading : whole.head? = some '0' → whole = ['0'])
    (read : (whole.foldl Gathered.whole ⟨0, false, 0⟩).integer? negative = some value) :
    StandsFor ((if negative then ['-'] else []) ++ whole) value := by
  have spells : Numeral.Spells ⟨negative, whole, [], none⟩
      ((if negative then ['-'] else []) ++ whole) :=
    ⟨by simpa using digits, nonempty, leading, [], .absent, by simp [pointed]⟩
  refine standsFor_of_integer? spells rfl rfl ?_ (fun complete => ?_) read
  · simpa [Numeral.coefficient, Numeral.place] using Gathered.Tells.initial.foldl_whole digits
  · simpa [Numeral.coefficient] using (Gathered.significand_foldl_whole digits complete).2

/-- A numeral without its sign: what follows the digits before the point decides how it is
read. -/
theorem standsFor_of_unsigned? (read : unsigned? negative text = some value) :
    StandsFor ((if negative then ['-'] else []) ++ text) value := by
  obtain ⟨split, wholeDigits⟩ := splitDigits_spec text
  simp only [unsigned?] at read
  generalize splitDigits text = parts at split wholeDigits read
  obtain ⟨whole, rest⟩ := parts
  obtain rfl : text = whole ++ rest := split
  have tells := Gathered.Tells.initial.foldl_whole wholeDigits
  split at read
  · cases read
  · next valid =>
    rw [not_or, List.isEmpty_iff, not_and, not_lt] at valid
    obtain ⟨nonempty, short⟩ := valid
    have leading := eq_zero_of_leading nonempty short
    split at read
    · next empty =>
      obtain rfl : rest = [] := empty
      rw [List.append_nil]
      exact standsFor_of_whole wholeDigits nonempty leading read
    · next after marked =>
      obtain rfl : rest = '.' :: after := marked
      obtain ⟨split, decimalDigits⟩ := splitDigits_spec after
      generalize splitDigits after = parts at split decimalDigits read
      obtain ⟨decimals, rest⟩ := parts
      obtain rfl : after = decimals ++ rest := split
      split at read
      · cases read
      · next written =>
        rw [List.isEmpty_iff] at written
        have reopened := tells.reopened.foldl_decimal decimalDigits
        rw [← Nat.ofDigitChars_append, zero_sub] at reopened
        have digits := List.forall_mem_append.mpr ⟨wholeDigits, decimalDigits⟩
        have scaled := standsFor_of_scaled? digits nonempty leading (.inl written) reopened read
        simpa [pointed, written] using scaled
    · next unwritten _ =>
      have scaled := standsFor_of_scaled? (by simpa using wholeDigits : ∀ c ∈ whole ++ [], _)
        nonempty leading (.inr unwritten) (by simpa using tells) read
      simpa [pointed] using scaled

theorem standsFor_of_scalar? (read : scalar? spelling = some value) : StandsFor spelling value := by
  unfold scalar? at read
  split at read
  · next same =>
    obtain rfl := Option.some.inj read
    exact same ▸ .null
  · split at read
    · next same =>
      obtain rfl := Option.some.inj read
      exact same ▸ .true
    · split at read
      · next same =>
        obtain rfl := Option.some.inj read
        exact same ▸ .false
      · unfold number? at read
        split at read
        · exact standsFor_of_unsigned? read
        · exact standsFor_of_unsigned? read

end Reading

end Json

end RobotsExclusion
