import Mathlib.Data.List.DropRight
import RobotsExclusion.Text.Blank
import RobotsExclusion.Proofs.AssignedAgent
import RobotsExclusion.Proofs.LowercaseContext

/-!
# Letters that lower case leaves alone

No lower-case letter is the capital of another one, so a text in lower case stays as it is.
Blanks are neither letters nor passed over: they end the words around them, and the lower case
of a padded text is the padded lower case of the text.  ASCII letters of either case play the
same part in a text.
-/

namespace RobotsExclusion.Text

section Runs

namespace CaseRun

variable {run other : CaseRun} {code image : Nat}

/-- Whether no lower-case letter of a run is a capital of another one: the two lie apart, or
they alternate. -/
def avoids (run other : CaseRun) : Bool :=
  run.image + (run.last - run.first) < other.first || other.last < run.image ||
    ((run.step == 2 || run.first == run.last) && other.step == 2 &&
      (run.image + other.first) % 2 == 1)

theorem lower?_eq_some_iff : run.lower? code = some image ↔
    (run.first ≤ code ∧ code ≤ run.last ∧ (code - run.first) % run.step = 0) ∧
      run.image + (code - run.first) = image := by
  simp [lower?]

theorem lower?_eq_none_of_avoids (lowered : run.lower? code = some image)
    (avoids : run.avoids other = true) : other.lower? image = none := by
  obtain ⟨⟨atLeast, atMost, even⟩, rfl⟩ := lower?_eq_some_iff.mp lowered
  rw [lower?, if_neg]
  rintro ⟨otherAtLeast, otherAtMost, otherEven⟩
  simp only [CaseRun.avoids, Bool.or_eq_true, Bool.and_eq_true, beq_iff_eq,
    decide_eq_true_eq] at avoids
  -- Alternating runs miss each other by parity, where their ranges overlap.
  rcases avoids with (below | above) | ⟨⟨step | single, otherStep⟩, odd⟩
  · omega
  · omega
  · rw [otherStep] at otherEven
    rw [step] at even
    omega
  · rw [otherStep] at otherEven
    omega

end CaseRun

private theorem caseRuns_avoid : ∀ run ∈ caseRuns, caseRuns.all run.avoids = true := by
  decide +kernel

/-- Where no run has its lower-case letters: before `a`, among the blanks and the surrogates,
and at the two capitals with a rule of their own. -/
private def unlowered : List (Nat × Nat) :=
  [(0x0, 0x60), (0x130, 0x130), (0x3A3, 0x3A3), (0xD800, 0xDFFF)] ++ blankRanges

private theorem images_apart : ∀ run ∈ caseRuns,
    run.image + (run.last - run.first) < 0x110000 ∧
      ∀ range ∈ unlowered, run.image + (run.last - run.first) < range.1 ∨ range.2 < run.image := by
  decide +kernel

private theorem capitals_apart : ∀ run ∈ caseRuns, ∀ range ∈ blankRanges,
    run.last < range.1 ∨ range.2 < run.first := by
  decide +kernel

private theorem blanks_not_cased : ∀ range ∈ blankRanges, ∀ other ∈ casedRanges,
    range.2 < other.1 ∨ other.2 < range.1 := by
  decide +kernel

private theorem blanks_not_ignorable : ∀ range ∈ blankRanges, ∀ other ∈ ignorableRanges,
    range.2 < other.1 ∨ other.2 < range.1 := by
  decide +kernel

private theorem toNat_ofNat {code : Nat} (valid : code.isValidChar) :
    (Char.ofNat code).toNat = code := by
  rw [Char.ofNat, dif_pos valid]
  rfl

end Runs

section Letters

variable {c d : Char} {run : CaseRun} {code image : Nat}

/-- Lower case leaves a character alone, wherever it stands. -/
def IsLower (c : Char) : Prop :=
  c ≠ 'Σ' ∧ lowerLetter c = [c]

instance (c : Char) : Decidable (IsLower c) :=
  inferInstanceAs (Decidable (_ ∧ _))

theorem inRanges_eq_true_iff {ranges : List (Nat × Nat)} : inRanges ranges c = true ↔
    ∃ range ∈ ranges, range.1 ≤ c.toNat ∧ c.toNat ≤ range.2 := by
  simp [inRanges]

theorem inRanges_eq_false {ranges others : List (Nat × Nat)}
    (apart : ∀ range ∈ ranges, ∀ other ∈ others, range.2 < other.1 ∨ other.2 < range.1)
    (within : inRanges ranges c = true) : inRanges others c = false := by
  rw [Bool.eq_false_iff]
  intro withinOther
  obtain ⟨range, member, bounds⟩ := inRanges_eq_true_iff.mp within
  obtain ⟨other, otherMember, otherBounds⟩ := inRanges_eq_true_iff.mp withinOther
  have := apart range member other otherMember
  omega

theorem ne_of_isBlank {other : Char} (blank : isBlank c = true) (solid : isBlank other = false) :
    c ≠ other := by
  rintro rfl
  rw [blank] at solid
  cases solid

theorem isLower_of_isBlank (blank : isBlank c = true) : IsLower c := by
  obtain ⟨range, member, within⟩ := inRanges_eq_true_iff.mp blank
  have unfound : caseRuns.findSome? (·.lower? c.toNat) = none := by
    apply List.findSome?_eq_none_iff.mpr
    intro run runMember
    have apart := capitals_apart run runMember range member
    rw [CaseRun.lower?, if_neg]
    omega
  refine ⟨ne_of_isBlank blank (by decide), ?_⟩
  rw [lowerLetter, if_neg (ne_of_isBlank blank (by decide)), unfound]

/-- What is known of the letters that stand for a character in lower case. -/
structure IsLowerForm (d : Char) : Prop where
  isLower : IsLower d
  solid : isBlank d = false
  ne_star : d ≠ '*'

private theorem outside_of_lower? (member : run ∈ caseRuns)
    (lowered : run.lower? code = some image) :
    image < 0x110000 ∧ ∀ range ∈ unlowered, ¬ (range.1 ≤ image ∧ image ≤ range.2) := by
  obtain ⟨⟨atLeast, atMost, -⟩, same⟩ := CaseRun.lower?_eq_some_iff.mp lowered
  obtain ⟨bounded, apart⟩ := images_apart run member
  constructor
  · omega
  · intro range rangeMember
    have := apart range rangeMember
    omega

theorem isLowerForm_of_lower? (member : run ∈ caseRuns) (lowered : run.lower? code = some image) :
    IsLowerForm (Char.ofNat image) := by
  obtain ⟨bounded, outside⟩ := outside_of_lower? member lowered
  have value : (Char.ofNat image).toNat = image := by
    have unpaired := outside (0xD800, 0xDFFF) (by decide)
    apply toNat_ofNat
    unfold Nat.isValidChar
    omega
  have differs (other : Char)
      (among : ∃ range ∈ unlowered, range.1 ≤ other.toNat ∧ other.toNat ≤ range.2) :
      Char.ofNat image ≠ other := by
    rintro rfl
    obtain ⟨range, rangeMember, within⟩ := among
    rw [value] at within
    exact outside range rangeMember within
  have unfound : caseRuns.findSome? (·.lower? (Char.ofNat image).toNat) = none := by
    rw [value]
    apply List.findSome?_eq_none_iff.mpr
    intro other otherMember
    exact CaseRun.lower?_eq_none_of_avoids lowered
      (List.all_eq_true.mp (caseRuns_avoid run member) other otherMember)
  constructor
  · refine ⟨differs 'Σ' (by decide), ?_⟩
    rw [lowerLetter, if_neg (differs 'İ' (by decide)), unfound]
  · rw [Bool.eq_false_iff]
    intro blank
    obtain ⟨range, rangeMember, within⟩ := inRanges_eq_true_iff.mp blank
    rw [value] at within
    exact outside range (List.mem_append_right _ rangeMember) within
  · exact differs '*' (by decide)

/-- The lower case of a character is the character itself, or consists of other letters, which
are in lower case. -/
theorem lowerLetter_cases (c : Char) :
    lowerLetter c = [c] ∨ ∀ d ∈ lowerLetter c, IsLowerForm d := by
  unfold lowerLetter
  split
  · right
    intro d member
    rcases List.mem_pair.mp member with rfl | rfl
    · exact ⟨by decide +kernel, by decide, by decide⟩
    · exact ⟨by decide +kernel, by decide, by decide⟩
  · split
    · next image found =>
      obtain ⟨run, member, lowered⟩ := List.exists_of_findSome?_eq_some found
      right
      intro d inForm
      rw [List.mem_singleton.mp inForm]
      exact isLowerForm_of_lower? member lowered
    · exact .inl rfl

end Letters

section Lowered

variable {c d : Char} {before text after : List Char}

/-- The letters that a character can have in the lower case of a text. -/
def lowerForms (c : Char) : List Char :=
  if c = 'Σ' then ['σ', 'ς'] else lowerLetter c

/-- A character in lower case has itself as its only form, and the forms of any other one are in
lower case. -/
theorem lowerForms_cases (c : Char) :
    (IsLower c ∧ lowerForms c = [c]) ∨ ∀ d ∈ lowerForms c, IsLowerForm d := by
  unfold lowerForms
  split
  · right
    intro d member
    rcases List.mem_pair.mp member with rfl | rfl
    · exact ⟨by decide +kernel, by decide, by decide⟩
    · exact ⟨by decide +kernel, by decide, by decide⟩
  · next other =>
    rcases lowerLetter_cases c with same | forms
    · exact .inl ⟨⟨other, same⟩, same⟩
    · exact .inr forms

theorem isLower_of_mem_lowerForms (member : d ∈ lowerForms c) : IsLower d := by
  rcases lowerForms_cases c with ⟨lower, same⟩ | forms
  · rw [same, List.mem_singleton] at member
    rwa [member]
  · exact (forms d member).isLower

theorem not_isBlank_of_mem_lowerForms (solid : isBlank c = false) (member : d ∈ lowerForms c) :
    isBlank d = false := by
  rcases lowerForms_cases c with ⟨-, same⟩ | forms
  · rw [same, List.mem_singleton] at member
    rwa [member]
  · exact (forms d member).solid

theorem eq_of_star_mem_lowerForms (member : '*' ∈ lowerForms c) : c = '*' := by
  rcases lowerForms_cases c with ⟨-, same⟩ | forms
  · rw [same, List.mem_singleton] at member
    exact member.symm
  · exact absurd rfl (forms '*' member).ne_star

/-- The lower case of a text joins, for each character, some of its forms and at least one. -/
theorem exists_lowercaseWithin_cons (before : List Char) (c : Char) (rest after : List Char) :
    ∃ forms, forms ≠ [] ∧ forms ⊆ lowerForms c ∧
      lowercaseWithin before (c :: rest) after =
        forms ++ lowercaseWithin (c :: before) rest after := by
  refine ⟨_, ?_, ?_, rfl⟩
  · split
    · exact List.cons_ne_nil _ _
    · exact lowerLetter_ne_nil c
  · unfold lowerForms
    split
    · unfold lowerSigma
      split <;> simp
    · exact List.Subset.refl _

theorem exists_mem_lowerForms (member : d ∈ lowercaseWithin before text after) :
    ∃ c ∈ text, d ∈ lowerForms c := by
  induction text generalizing before with
  | nil => exact absurd member List.not_mem_nil
  | cons c rest ih =>
      obtain ⟨forms, -, subset, split⟩ := exists_lowercaseWithin_cons before c rest after
      rw [split, List.mem_append] at member
      rcases member with here | later
      · exact ⟨c, List.mem_cons_self, subset here⟩
      · obtain ⟨other, otherMember, form⟩ := ih later
        exact ⟨other, List.mem_cons_of_mem c otherMember, form⟩

theorem lowercaseWithin_of_isLower (lower : ∀ c ∈ text, IsLower c) :
    lowercaseWithin before text after = text := by
  induction text generalizing before with
  | nil => rfl
  | cons c rest ih =>
      obtain ⟨other, same⟩ := lower c List.mem_cons_self
      have later : lowercaseWithin (c :: before) rest after = rest :=
        ih fun d member => lower d (List.mem_cons_of_mem c member)
      rw [lowercaseWithin, if_neg other, same, later]
      rfl

theorem lowercase_eq_lowercaseWithin (text : List Char) :
    lowercase text = lowercaseWithin [] text [] :=
  lowercaseAfter_eq_lowercaseWithin [] text

/-- A text in lower case is its own lower case. -/
theorem lowercase_lowercase (text : List Char) : lowercase (lowercase text) = lowercase text := by
  rw [lowercase_eq_lowercaseWithin (lowercase text)]
  apply lowercaseWithin_of_isLower
  intro d member
  rw [lowercase_eq_lowercaseWithin] at member
  obtain ⟨c, -, form⟩ := exists_mem_lowerForms member
  exact isLower_of_mem_lowerForms form

theorem lowercase_eq_star_iff : lowercase text = ['*'] ↔ text = ['*'] := by
  constructor
  · intro star
    cases text with
    | nil => cases star
    | cons c rest =>
        rw [lowercase_eq_lowercaseWithin] at star
        obtain ⟨forms, nonempty, subset, split⟩ := exists_lowercaseWithin_cons [] c rest []
        rw [split] at star
        obtain ⟨form, later, rfl⟩ := List.exists_cons_of_ne_nil nonempty
        obtain ⟨rfl, ends⟩ := List.cons.inj star
        have last : lowercaseAfter [c] rest = [] := by
          rw [lowercaseAfter_eq_lowercaseWithin]
          exact (List.append_eq_nil_iff.mp ends).2
        rw [lowercaseAfter_eq_nil_iff.mp last,
          eq_of_star_mem_lowerForms (subset List.mem_cons_self)]
  · rintro rfl
    decide +kernel

end Lowered

section Ascii

/-- A character can take the place of another one in a text: both have the same lower case and
play the same part in a word. -/
structure Alike (c d : Char) : Prop where
  sigma : c = 'Σ' ↔ d = 'Σ'
  lower : lowerLetter c = lowerLetter d
  cased : isCased c = isCased d
  ignorable : isCaseIgnorable c = isCaseIgnorable d

instance (c d : Char) : Decidable (Alike c d) :=
  decidable_of_iff ((c = 'Σ' ↔ d = 'Σ') ∧ lowerLetter c = lowerLetter d ∧
      isCased c = isCased d ∧ isCaseIgnorable c = isCaseIgnorable d)
    ⟨fun ⟨sigma, lower, cased, ignorable⟩ => ⟨sigma, lower, cased, ignorable⟩,
      fun ⟨sigma, lower, cased, ignorable⟩ => ⟨sigma, lower, cased, ignorable⟩⟩

variable {c : Char} {change : Char → Char}

theorem startsCased_map (alike : ∀ c, Alike (change c) c) (text : List Char) :
    startsCased (text.map change) = startsCased text := by
  induction text with
  | nil => rfl
  | cons c rest ih =>
      simp only [startsCased, List.map_cons, List.dropWhile_cons, (alike c).ignorable] at ih ⊢
      by_cases passed : isCaseIgnorable c = true
      · simpa only [passed, if_true] using ih
      · simp only [passed, if_false, Bool.false_eq_true, (alike c).cased]

theorem lowercaseAfter_map (alike : ∀ c, Alike (change c) c) (before text : List Char) :
    lowercaseAfter (before.map change) (text.map change) = lowercaseAfter before text := by
  induction text generalizing before with
  | nil => rfl
  | cons c rest ih =>
      have later := ih (c :: before)
      rw [List.map_cons] at later
      simp only [List.map_cons, lowercaseAfter, later, lowerSigma, startsCased_map alike,
        (alike c).sigma, (alike c).lower]

private theorem toLower_of_not_capital (plain : ¬ (0x41 ≤ c.toNat ∧ c.toNat ≤ 0x5A)) :
    c.toLower = c := by
  apply dif_neg
  rintro ⟨atLeast, atMost⟩
  exact plain ⟨UInt32.le_iff_toNat_le.mp atLeast, UInt32.le_iff_toNat_le.mp atMost⟩

private theorem alike_capitals : ∀ code < 0x5B, 0x41 ≤ code →
    Alike (Char.ofNat code).toLower (Char.ofNat code) := by
  decide +kernel

theorem alike_toLower (c : Char) : Alike c.toLower c := by
  by_cases capital : 0x41 ≤ c.toNat ∧ c.toNat ≤ 0x5A
  · have alike := alike_capitals c.toNat (Nat.lt_succ_of_le capital.2) capital.1
    rwa [Char.ofNat_toNat] at alike
  · rw [toLower_of_not_capital capital]
    exact ⟨Iff.rfl, rfl, rfl, rfl⟩

/-- The case of ASCII letters does not matter to lower case. -/
theorem lowercase_lowercaseAscii (text : List Char) :
    lowercase (lowercaseAscii text) = lowercase text :=
  lowercaseAfter_map alike_toLower [] text

end Ascii

section Padding

variable {front back text : List Char}

/-- All characters are padding. -/
def Blank (text : List Char) : Prop :=
  ∀ c ∈ text, isBlank c = true

theorem Blank.reverse (blank : Blank text) : Blank text.reverse := by
  intro c member
  exact blank c (List.mem_reverse.mp member)

theorem trim_append (blankFront : Blank front) (blankBack : Blank back) (text : List Char) :
    trim (front ++ text ++ back) = trim text := by
  have passed : back.dropWhile isBlank = [] := List.dropWhile_eq_nil_iff.mpr blankBack
  rw [trim, trim, List.append_assoc, List.dropWhile_append_of_pos blankFront,
    List.dropWhile_append, passed]
  split
  · next none => simp [List.isEmpty_iff.mp none]
  · rw [List.reverse_append, List.dropWhile_append_of_pos blankBack.reverse]

/-- A text is what is left of it between its padding. -/
theorem exists_eq_append_trim (text : List Char) :
    ∃ front back, text = front ++ trim text ++ back ∧ Blank front ∧ Blank back := by
  refine ⟨text.takeWhile isBlank, (text.dropWhile isBlank).rtakeWhile isBlank, ?_, ?_, ?_⟩
  · have inner : trim text ++ (text.dropWhile isBlank).rtakeWhile isBlank =
        text.dropWhile isBlank := List.rdropWhile_append_rtakeWhile
    rw [List.append_assoc, inner, List.takeWhile_append_dropWhile]
  · exact fun _ => List.mem_takeWhile_imp
  · exact fun _ => List.mem_rtakeWhile_imp

/-- Neither the first nor the last character is padding. -/
structure Unpadded (text : List Char) : Prop where
  opening : ∀ c, text.head? = some c → isBlank c = false
  closing : ∀ c, text.getLast? = some c → isBlank c = false

private theorem not_isBlank_of_head?_dropWhile {c : Char}
    (first : (text.dropWhile isBlank).head? = some c) : isBlank c = false := by
  have stops := List.head?_dropWhile_not isBlank text
  rwa [first] at stops

private theorem dropWhile_of_head? (opening : ∀ c, text.head? = some c → isBlank c = false) :
    text.dropWhile isBlank = text := by
  cases text with
  | nil => rfl
  | cons c rest => simp [opening c rfl]

theorem unpadded_trim (text : List Char) : Unpadded (trim text) where
  opening c first := by
    obtain ⟨back, split⟩ : trim text <+: text.dropWhile isBlank := List.rdropWhile_prefix _ _
    have begins : (text.dropWhile isBlank).head? = some c := by
      rw [← split, List.head?_append, first]
      rfl
    exact not_isBlank_of_head?_dropWhile begins
  closing c last := by
    rw [trim, List.getLast?_reverse] at last
    exact not_isBlank_of_head?_dropWhile last

theorem trim_of_unpadded (unpadded : Unpadded text) : trim text = text := by
  have closing : ∀ c, text.reverse.head? = some c → isBlank c = false := by
    simpa using unpadded.closing
  rw [trim, dropWhile_of_head? unpadded.opening, dropWhile_of_head? closing, List.reverse_reverse]

theorem Unpadded.lowercase (unpadded : Unpadded text) : Unpadded (lowercase text) where
  opening d first := by
    cases text with
    | nil => cases first
    | cons c rest =>
        obtain ⟨forms, nonempty, subset, split⟩ := exists_lowercaseWithin_cons [] c rest []
        rw [lowercase_eq_lowercaseWithin, split, List.head?_append_of_ne_nil _ nonempty] at first
        exact not_isBlank_of_mem_lowerForms (unpadded.opening c rfl)
          (subset (List.mem_of_head? first))
  closing d last := by
    rcases List.eq_nil_or_concat text with rfl | ⟨init, c, rfl⟩
    · cases last
    · obtain ⟨forms, nonempty, subset, split⟩ :=
        exists_lowercaseWithin_cons (init.reverse ++ []) c [] []
      rw [List.concat_eq_append, Text.lowercase, lowercaseAfter_append,
        lowercaseAfter_eq_lowercaseWithin, split, lowercaseWithin, List.append_nil,
        List.getLast?_append_of_ne_nil _ nonempty] at last
      exact not_isBlank_of_mem_lowerForms (unpadded.closing c (by simp))
        (subset (List.mem_of_getLast? last))

theorem startsCased_of_blank (blank : Blank text) : startsCased text = false := by
  cases text with
  | nil => rfl
  | cons c rest =>
      have member := blank c List.mem_cons_self
      have stops : isCaseIgnorable c = false := inRanges_eq_false blanks_not_ignorable member
      have uncased : isCased c = false := inRanges_eq_false blanks_not_cased member
      simp [startsCased, stops, uncased]

theorem lowercaseWithin_of_blank (blank : Blank text) (before after : List Char) :
    lowercaseWithin before text after = text :=
  lowercaseWithin_of_isLower fun c member => isLower_of_isBlank (blank c member)

/-- Padding stays as it is and ends the words that it touches. -/
theorem lowercase_append (blankFront : Blank front) (blankBack : Blank back) (text : List Char) :
    lowercase (front ++ text ++ back) = front ++ lowercase text ++ back := by
  have apartFront : startsCased (front.reverse ++ []) = false := by
    simpa using startsCased_of_blank blankFront.reverse
  rw [List.append_assoc, lowercase, lowercaseAfter_append, lowercaseAfter_append,
    lowercaseAfter_eq_lowercaseWithin, lowercaseWithin_of_blank blankFront,
    lowercaseWithin_of_blank blankBack,
    lowercaseWithin_eq_of_apart apartFront (startsCased_of_blank blankBack), List.append_assoc]

/-- Names can be trimmed before or after they are put in lower case. -/
theorem trim_lowercase (text : List Char) : trim (lowercase text) = lowercase (trim text) := by
  obtain ⟨front, back, split, blankFront, blankBack⟩ := exists_eq_append_trim text
  calc
    trim (lowercase text) = trim (front ++ lowercase (trim text) ++ back) := by
      rw [← lowercase_append blankFront blankBack, ← split]
    _ = trim (lowercase (trim text)) := trim_append blankFront blankBack _
    _ = lowercase (trim text) := trim_of_unpadded (unpadded_trim text).lowercase

end Padding

end RobotsExclusion.Text
