import Mathlib.Data.List.Basic
import Mathlib.Data.List.TakeWhile
import RobotsExclusion.Text.Lowercase

/-!
# Lower case in context

The lower case of a text is joined from the lower cases of its parts, each taken where the
part stands.  What stands around a part only matters for its capital sigmas, and only where
nothing in the part itself decides whether the sigma ends a word.  A text whose sigmas are
all settled in this sense has the same lower case everywhere.
-/

namespace RobotsExclusion.Text

variable {text more before after otherBefore otherAfter : List Char}

section Start

/-- All characters are passed over, so that what follows counts. -/
def Ignorable (text : List Char) : Prop :=
  ∀ c ∈ text, isCaseIgnorable c = true

instance (text : List Char) : Decidable (Ignorable text) :=
  inferInstanceAs (Decidable (∀ c ∈ text, isCaseIgnorable c = true))

theorem startsCased_of_ignorable (ignorable : Ignorable text) : startsCased text = false := by
  have passed : text.dropWhile isCaseIgnorable = [] := List.dropWhile_eq_nil_iff.mpr ignorable
  simp [startsCased, passed]

theorem startsCased_append_of_ignorable (ignorable : Ignorable text) (more : List Char) :
    startsCased (text ++ more) = startsCased more := by
  have passed : text.dropWhile isCaseIgnorable = [] := List.dropWhile_eq_nil_iff.mpr ignorable
  simp [startsCased, List.dropWhile_append, passed]

/-- The first character that is not passed over decides, whatever follows. -/
theorem startsCased_append_of_not_ignorable (decided : ¬ Ignorable text) (more : List Char) :
    startsCased (text ++ more) = startsCased text := by
  have kept : text.dropWhile isCaseIgnorable ≠ [] :=
    fun passed => decided (List.dropWhile_eq_nil_iff.mp passed)
  obtain ⟨c, rest, found⟩ := List.exists_cons_of_ne_nil kept
  simp [startsCased, List.dropWhile_append, found]

theorem startsCased_append_of_not_startsCased (apart : startsCased more = false)
    (text : List Char) : startsCased (text ++ more) = startsCased text := by
  by_cases ignorable : Ignorable text
  · rw [startsCased_append_of_ignorable ignorable, startsCased_of_ignorable ignorable, apart]
  · exact startsCased_append_of_not_ignorable ignorable more

end Start

section Within

/-- The lower case of a text that stands between others; `before` is read backwards. -/
def lowercaseWithin : (before text after : List Char) → List Char
  | _, [], _ => []
  | before, c :: rest, after =>
      (if c = 'Σ' then [lowerSigma before (rest ++ after)] else lowerLetter c) ++
        lowercaseWithin (c :: before) rest after

theorem lowercaseAfter_append (before text after : List Char) :
    lowercaseAfter before (text ++ after) =
      lowercaseWithin before text after ++ lowercaseAfter (text.reverse ++ before) after := by
  induction text generalizing before with
  | nil => rfl
  | cons c rest ih => simp [lowercaseAfter, lowercaseWithin, ih]

theorem lowercaseAfter_eq_lowercaseWithin (before text : List Char) :
    lowercaseAfter before text = lowercaseWithin before text [] := by
  have whole := lowercaseAfter_append before text []
  rwa [List.append_nil, lowercaseAfter, List.append_nil] at whole

/-- The lower case of the middle part stands in the lower case of the whole. -/
theorem lowercaseWithin_infix (front text back : List Char) :
    lowercaseWithin front.reverse text back <:+: lowercase (front ++ text ++ back) := by
  rw [List.append_assoc, lowercase, lowercaseAfter_append, lowercaseAfter_append,
    List.append_nil, ← List.append_assoc]
  exact List.infix_append _ _ _

theorem length_lowercaseWithin (before text after otherBefore otherAfter : List Char) :
    (lowercaseWithin before text after).length =
      (lowercaseWithin otherBefore text otherAfter).length := by
  induction text generalizing before otherBefore with
  | nil => rfl
  | cons c rest ih =>
      simp only [lowercaseWithin, List.length_append, ih (c :: before) (c :: otherBefore)]
      split <;> rfl

/-- A text has the same lower case in two places exactly where its sigmas have. -/
theorem lowercaseWithin_eq_iff :
    lowercaseWithin before text after = lowercaseWithin otherBefore text otherAfter ↔
      ∀ front back, text = front ++ 'Σ' :: back →
        lowerSigma (front.reverse ++ before) (back ++ after) =
          lowerSigma (front.reverse ++ otherBefore) (back ++ otherAfter) := by
  induction text generalizing before otherBefore with
  | nil => simp [lowercaseWithin]
  | cons c rest ih =>
      simp only [lowercaseWithin]
      constructor
      · intro same front back split
        obtain ⟨heads, tails⟩ := List.append_inj same (by split <;> rfl)
        rcases List.cons_eq_append_iff.mp split with ⟨rfl, here⟩ | ⟨front, rfl, later⟩
        · obtain ⟨rfl, rfl⟩ := List.cons.inj here
          simpa using heads
        · simpa using ih.mp tails front back later
      · intro same
        have tails : lowercaseWithin (c :: before) rest after =
            lowercaseWithin (c :: otherBefore) rest otherAfter := by
          apply ih.mpr
          intro front back later
          simpa using same (c :: front) back (by rw [later]; rfl)
        rw [tails]
        split
        · next sigma =>
          have form := same [] rest (by rw [sigma]; rfl)
          simp only [List.reverse_nil, List.nil_append] at form
          rw [form]
        · rfl

theorem lowercaseWithin_eq_lowercase_iff :
    lowercaseWithin before text after = lowercase text ↔
      ∀ front back, text = front ++ 'Σ' :: back →
        lowerSigma (front.reverse ++ before) (back ++ after) = lowerSigma front.reverse back := by
  rw [lowercase, lowercaseAfter_eq_lowercaseWithin, lowercaseWithin_eq_iff]
  simp only [List.append_nil]

theorem length_lowercaseWithin_eq (before text after : List Char) :
    (lowercaseWithin before text after).length = (lowercase text).length := by
  rw [lowercase, lowercaseAfter_eq_lowercaseWithin]
  exact length_lowercaseWithin before text after [] []

end Within

section Settled

/-- Whether a sigma ends a word is decided by what stands before and after it in a text,
whatever stands around the text; `before` is read backwards. -/
structure SettlesSigma (before after : List Char) : Prop where
  opening : Ignorable before → startsCased after = true
  closing : Ignorable after → startsCased before = false

/-- Every capital sigma of a text is settled by the text itself. -/
def Settled (text : List Char) : Prop :=
  ∀ front back, text = front ++ 'Σ' :: back → SettlesSigma front.reverse back

theorem settled_of_not_mem (free : 'Σ' ∉ text) : Settled text := by
  rintro front back rfl
  exact absurd (List.mem_append_right front List.mem_cons_self) free

theorem SettlesSigma.lowerSigma_append (settles : SettlesSigma before after)
    (otherBefore otherAfter : List Char) :
    lowerSigma (before ++ otherBefore) (after ++ otherAfter) = lowerSigma before after := by
  by_cases opens : Ignorable before
  · -- The cased letter after the sigma keeps it from ending a word.
    have cased := settles.opening opens
    have decided : ¬ Ignorable after := by
      intro ignorable
      rw [startsCased_of_ignorable ignorable] at cased
      cases cased
    simp [lowerSigma, startsCased_append_of_not_ignorable decided, cased]
  · simp only [lowerSigma, startsCased_append_of_not_ignorable opens]
    by_cases closes : Ignorable after
    · rw [settles.closing closes]
      rfl
    · rw [startsCased_append_of_not_ignorable closes]

theorem Settled.lowercaseWithin_eq (settled : Settled text) (before after : List Char) :
    lowercaseWithin before text after = lowercase text :=
  lowercaseWithin_eq_lowercase_iff.mpr fun front back split =>
    (settled front back split).lowerSigma_append before after

/-- A text that no cased letter touches keeps its lower case. -/
theorem lowercaseWithin_eq_of_apart (apartBefore : startsCased before = false)
    (apartAfter : startsCased after = false) (text : List Char) :
    lowercaseWithin before text after = lowercase text := by
  apply lowercaseWithin_eq_lowercase_iff.mpr
  intro front back _
  simp only [lowerSigma, startsCased_append_of_not_startsCased apartBefore,
    startsCased_append_of_not_startsCased apartAfter]

/-- A cased letter right before the text makes the sigma final. -/
theorem lowerSigma_append_left_ne {letter : Char} (cased : startsCased [letter] = true)
    (opens : Ignorable before) (uncased : startsCased after = false) :
    lowerSigma (before ++ [letter]) after ≠ lowerSigma before after := by
  simp [lowerSigma, startsCased_append_of_ignorable opens, startsCased_of_ignorable opens, cased,
    uncased]

/-- A cased letter right after the text keeps the sigma from being final. -/
theorem lowerSigma_append_right_ne {letter : Char} (cased : startsCased [letter] = true)
    (closes : Ignorable after) (word : startsCased before = true) :
    lowerSigma before (after ++ [letter]) ≠ lowerSigma before after := by
  simp [lowerSigma, startsCased_append_of_ignorable closes, startsCased_of_ignorable closes, cased,
    word]

end Settled

section Found

private theorem head?_of_infix_cons {part rest : List Char} {c : Char}
    (found : part <:+: c :: rest) (lengths : part.length = rest.length) (differs : part ≠ rest) :
    part.head? = some c := by
  rcases List.infix_cons_iff.mp found with starts | inside
  · cases part with
    | nil => exact absurd (List.eq_nil_of_length_eq_zero lengths.symm).symm differs
    | cons d part => rw [(List.cons_prefix_cons.mp starts).1, List.head?_cons]
  · exact absurd (inside.eq_of_length lengths) differs

private theorem getLast?_of_infix_concat {part rest : List Char} {c : Char}
    (found : part <:+: rest ++ [c]) (lengths : part.length = rest.length) (differs : part ≠ rest) :
    part.getLast? = some c := by
  rcases List.infix_concat_iff.mp found with ends | inside
  · rcases List.suffix_concat_iff.mp ends with rfl | ⟨front, rfl, -⟩
    · exact absurd (List.eq_nil_of_length_eq_zero lengths.symm).symm differs
    · exact List.getLast?_concat
  · exact absurd (inside.eq_of_length lengths) differs

/-- The letters `a` and `b` are cased and stand for themselves. -/
private theorem plain_letters : ∀ letter ∈ ['a', 'b'],
    letter ≠ 'Σ' ∧ lowerLetter letter = [letter] ∧ startsCased [letter] = true := by
  intro letter member
  rcases List.mem_pair.mp member with rfl | rfl
  · exact ⟨by decide, by decide, by decide +kernel⟩
  · exact ⟨by decide, by decide, by decide +kernel⟩

private theorem lowercase_cons {letter : Char} (member : letter ∈ ['a', 'b'])
    (text : List Char) :
    lowercase (letter :: text) = letter :: lowercaseWithin [letter] text [] := by
  obtain ⟨other, plain, -⟩ := plain_letters letter member
  rw [lowercase, lowercaseAfter, if_neg other, plain, lowercaseAfter_eq_lowercaseWithin]
  rfl

private theorem lowercase_concat {letter : Char} (member : letter ∈ ['a', 'b'])
    (text : List Char) :
    lowercase (text ++ [letter]) = lowercaseWithin [] text [letter] ++ [letter] := by
  obtain ⟨other, plain, -⟩ := plain_letters letter member
  rw [lowercase, lowercaseAfter_append, lowercaseAfter, if_neg other, plain, lowercaseAfter,
    List.append_nil]

section Letter

variable {letter : Char} {front back : List Char}

/-- Behind a letter the sigma becomes final, so the text can only be found at the letter. -/
private theorem head?_of_infix_behind (member : letter ∈ ['a', 'b'])
    (opens : Ignorable front.reverse) (uncased : startsCased back = false)
    (found : lowercase (front ++ 'Σ' :: back) <:+: lowercase (letter :: (front ++ 'Σ' :: back))) :
    (lowercase (front ++ 'Σ' :: back)).head? = some letter := by
  rw [lowercase_cons member] at found
  apply head?_of_infix_cons found (length_lowercaseWithin_eq _ _ _).symm
  intro same
  have form := lowercaseWithin_eq_lowercase_iff.mp same.symm front back rfl
  rw [List.append_nil] at form
  exact lowerSigma_append_left_ne (plain_letters letter member).2.2 opens uncased form

/-- Before a letter the sigma is not final, so the text can only be found at the letter. -/
private theorem getLast?_of_infix_before (member : letter ∈ ['a', 'b'])
    (closes : Ignorable back) (word : startsCased front.reverse = true)
    (found : lowercase (front ++ 'Σ' :: back) <:+: lowercase ((front ++ 'Σ' :: back) ++ [letter])) :
    (lowercase (front ++ 'Σ' :: back)).getLast? = some letter := by
  rw [lowercase_concat member] at found
  apply getLast?_of_infix_concat found (length_lowercaseWithin_eq _ _ _).symm
  intro same
  have form := lowercaseWithin_eq_lowercase_iff.mp same.symm front back rfl
  rw [List.append_nil] at form
  exact lowerSigma_append_right_ne (plain_letters letter member).2.2 closes word form

end Letter

/-- The lower case of a text can be found in that of every text around it exactly when the
text settles its sigmas. -/
theorem settled_iff_infix : Settled text ↔
    ∀ front back, lowercase text <:+: lowercase (front ++ text ++ back) := by
  constructor
  · intro settled front back
    rw [← settled.lowercaseWithin_eq front.reverse back]
    exact lowercaseWithin_infix front text back
  · rintro found front back rfl
    -- A text does not begin or end with two letters at once.
    constructor
    · intro opens
      by_contra uncased
      have starts (letter : Char) (member : letter ∈ ['a', 'b']) :=
        head?_of_infix_behind member opens (by simpa using uncased)
          (by simpa using found [letter] [])
      exact absurd ((starts 'a' (by decide)).symm.trans (starts 'b' (by decide))) (by decide)
    · intro closes
      by_contra word
      have ends (letter : Char) (member : letter ∈ ['a', 'b']) :=
        getLast?_of_infix_before member closes (by simpa using word)
          (by simpa using found [] [letter])
      exact absurd ((ends 'a' (by decide)).symm.trans (ends 'b' (by decide))) (by decide)

end Found

end RobotsExclusion.Text
