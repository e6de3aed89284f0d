import Mathlib.Data.List.Basic
import RobotsExclusion.PathPattern.Language

/-!
# The language that a path pattern covers

A compiled pattern searches for the leftmost occurrence of each stretch and never
goes back.  Nothing is lost by that: a gap absorbs whatever an earlier occurrence
leaves over, so the search succeeds wherever some way of filling the gaps exists.
The second half reads the stretches off the text of the pattern.
-/

namespace RobotsExclusion

namespace Text

variable {part skipped rest remaining : List Char}

private theorem afterFirst_append_self (part rest : List Char) :
    afterFirst part (part ++ rest) = some rest := by
  have starts : afterStart part (part ++ rest) = some rest := afterStart_eq_some_iff.mpr rfl
  cases whole : part ++ rest with
  | nil =>
      obtain ⟨rfl, rfl⟩ := List.append_eq_nil_iff.mp whole
      rfl
  | cons c text =>
      rw [whole] at starts
      simp [afterFirst, starts]

/-- What follows the leftmost occurrence of a part ends with what follows any other
occurrence. -/
theorem suffix_of_afterFirst
    (found : afterFirst part (skipped ++ part ++ rest) = some remaining) :
    rest <:+ remaining := by
  induction skipped with
  | nil =>
      rw [List.nil_append, afterFirst_append_self] at found
      obtain rfl := Option.some.inj found
      exact List.suffix_refl _
  | cons c skipped ih =>
      simp only [List.cons_append, afterFirst] at found
      split at found
      · next remaining' starts =>
        obtain rfl := Option.some.inj found
        have whole := afterStart_eq_some_iff.mp starts
        have restEnds : rest <:+ part ++ remaining' :=
          ⟨c :: (skipped ++ part), by simpa using whole⟩
        have lengths := congrArg List.length whole
        simp only [List.length_cons, List.length_append] at lengths
        exact List.suffix_of_suffix_length_le restEnds (List.suffix_append _ _) (by omega)
      · exact ih found

end Text

namespace PathPattern

section Search

variable {anchored : Bool} {stretch : List Char} {stretches later : List (List Char)}
  {text : List Char}

theorem spells_nil_iff : Spells anchored [] text ↔ (anchored = true → text = []) := by
  constructor
  · rintro ⟨closed⟩
    assumption
  · exact .tail text

theorem spells_cons_iff :
    Spells anchored (stretch :: later) text ↔
      ∃ skipped rest, text = skipped ++ stretch ++ rest ∧ Spells anchored later rest := by
  constructor
  · intro spelled
    cases spelled with
    | gap skipped inner => exact ⟨skipped, _, rfl, inner⟩
  · rintro ⟨skipped, rest, rfl, spelled⟩
    exact .gap skipped spelled

/-- The first gap absorbs any text in front. -/
theorem Spells.prepend (extra : List Char) (spelled : Spells anchored (stretch :: later) text) :
    Spells anchored (stretch :: later) (extra ++ text) := by
  obtain ⟨skipped, rest, rfl, inner⟩ := spells_cons_iff.mp spelled
  exact spells_cons_iff.mpr ⟨extra ++ skipped, rest, by simp, inner⟩

private theorem reach_last_iff (last : List Char) :
    reach anchored [last] text = true ↔ Spells anchored [last] text := by
  rw [spells_cons_iff]
  simp only [spells_nil_iff, reach]
  cases anchored with
  | true =>
      simp only [if_true, List.isSuffixOf_iff_suffix, forall_const]
      constructor
      · rintro ⟨skipped, rfl⟩
        exact ⟨skipped, [], by simp, rfl⟩
      · rintro ⟨skipped, rest, rfl, rfl⟩
        exact ⟨skipped, by simp⟩
  | false => simp [Text.occursIn_iff]

/-- The search finds the stretches exactly where some filling of the gaps exists. -/
theorem reach_iff_spells : reach anchored stretches text = true ↔
    Spells anchored stretches text := by
  induction stretches generalizing text with
  | nil => cases anchored <;> simp [reach, spells_nil_iff]
  | cons stretch later ih =>
      cases later with
      | nil => exact reach_last_iff stretch
      | cons next later =>
          rw [reach, spells_cons_iff]
          constructor
          · intro reached
            split at reached
            · next remaining found =>
              obtain ⟨skipped, whole⟩ := Text.eq_append_of_afterFirst found
              exact ⟨skipped, remaining, whole, ih.mp reached⟩
            · exact absurd reached Bool.false_ne_true
          · rintro ⟨skipped, rest, rfl, spelled⟩
            obtain ⟨remaining, found⟩ := Option.isSome_iff_exists.mp
              (Text.afterFirst_append_isSome skipped stretch rest)
            -- The leftmost occurrence leaves more text, which the next gap absorbs.
            obtain ⟨extra, rfl⟩ := Text.suffix_of_afterFirst found
            simp only [found]
            exact ih.mpr (spelled.prepend extra)

theorem covers_iff_describes (pattern : PathPattern) (path : String) :
    pattern.covers path = true ↔ pattern.Describes path.toList := by
  rw [covers, Describes]
  constructor
  · intro covered
    split at covered
    · next rest found =>
      exact ⟨rest, Text.afterStart_eq_some_iff.mp found, reach_iff_spells.mp covered⟩
    · exact absurd covered Bool.false_ne_true
  · rintro ⟨rest, whole, spelled⟩
    simp only [Text.afterStart_eq_some_iff.mpr whole]
    exact reach_iff_spells.mpr spelled

/-- The gaps and the tail of a spelled text, listed. -/
theorem spells_iff_exists_gaps : Spells anchored stretches text ↔
    ∃ (gaps : List (List Char)) (tail : List Char), gaps.length = stretches.length ∧
      (anchored = true → tail = []) ∧
      text = (List.zipWith (· ++ ·) gaps stretches).flatten ++ tail := by
  induction stretches generalizing text with
  | nil =>
      rw [spells_nil_iff]
      constructor
      · intro closed
        exact ⟨[], text, rfl, closed, rfl⟩
      · rintro ⟨gaps, tail, -, closed, whole⟩
        simpa [whole] using closed
  | cons stretch later ih =>
      rw [spells_cons_iff]
      constructor
      · rintro ⟨skipped, rest, rfl, spelled⟩
        obtain ⟨gaps, tail, count, closed, rfl⟩ := ih.mp spelled
        exact ⟨skipped :: gaps, tail, by simp [count], closed, by simp⟩
      · rintro ⟨gaps, tail, count, closed, rfl⟩
        cases gaps with
        | nil => simp at count
        | cons skipped gaps =>
            refine ⟨skipped, (List.zipWith (· ++ ·) gaps later).flatten ++ tail, by simp, ?_⟩
            exact ih.mpr ⟨gaps, tail, by simpa using count, closed, rfl⟩

end Search

section Reading

/-- How the text of a pattern is read: from the root on it consists of literal
pieces with a wildcard between any two, and of a final `$` if it is anchored. -/
structure Reads (raw opening : List Char) (stretches : List (List Char)) (anchored : Bool) :
    Prop where
  written :
    (if raw.head? = some '/' ∨ raw.head? = some '*' then raw else '/' :: raw) =
      ['*'].intercalate (opening :: stretches) ++ (if anchored then ['$'] else [])
  openEnded : anchored = false →
    (['*'].intercalate (opening :: stretches)).getLast? ≠ some '$'
  literal : ∀ piece ∈ opening :: stretches, '*' ∉ piece

variable {raw : String} {opening : List Char} {stretches : List (List Char)} {anchored : Bool}

theorem rooted_eq_ite (raw : List Char) :
    rooted raw = if raw.head? = some '/' ∨ raw.head? = some '*' then raw else '/' :: raw := by
  unfold rooted
  split
  · simp
  · simp
  · next notSlash notStar =>
    cases raw with
    | nil => rfl
    | cons c rest =>
        have plain : c ≠ '/' ∧ c ≠ '*' :=
          ⟨fun same => notSlash rest (by rw [same]), fun same => notStar rest (by rw [same])⟩
        simp [plain]

theorem splitAnchor_append (text : List Char) :
    (splitAnchor text).1 ++ (if (splitAnchor text).2 then ['$'] else []) = text := by
  unfold splitAnchor
  split
  · next anchored => exact List.dropLast_append_getLast? '$' anchored
  · simp

theorem splitAnchor_openEnded {text : List Char} (openEnded : (splitAnchor text).2 = false) :
    (splitAnchor text).1.getLast? ≠ some '$' := by
  unfold splitAnchor at openEnded ⊢
  split at openEnded
  · cases openEnded
  · next unanchored => simp [unanchored]

theorem splitWildcards_cons (text : List Char) :
    (splitWildcards text).1 :: (splitWildcards text).2 = text.splitOn '*' := by
  unfold splitWildcards
  split
  · next empty => exact absurd empty (List.splitOn_ne_nil _ _)
  · next opening stretches pieces => exact pieces.symm

private theorem not_mem_of_mem_splitOn {mark : Char} {text piece : List Char}
    (member : piece ∈ text.splitOn mark) : mark ∉ piece := by
  induction text generalizing piece with
  | nil => simp_all
  | cons c text ih =>
      rw [List.splitOn_cons_eq_if_modifyHead] at member
      split at member
      · rcases List.mem_cons.mp member with rfl | later
        · exact List.not_mem_nil
        · exact ih later
      · next differs =>
        obtain ⟨first, rest, pieces⟩ := List.exists_cons_of_ne_nil (List.splitOn_ne_nil mark text)
        rw [pieces] at member ih
        rcases List.mem_cons.mp member with rfl | later
        · have clean := ih List.mem_cons_self
          have other : mark ≠ c := fun same => differs (by simp [same])
          simp [other, clean]
        · exact ih (List.mem_cons_of_mem first later)

theorem reads_parse (raw : String) :
    Reads raw.toList (parse raw).opening (parse raw).stretches (parse raw).anchored := by
  have pieces := splitWildcards_cons (splitAnchor (rooted raw.toList)).1
  have joined : ['*'].intercalate ((parse raw).opening :: (parse raw).stretches) =
      (splitAnchor (rooted raw.toList)).1 := by
    rw [parse, pieces, List.intercalate_splitOn]
  constructor
  · rw [joined, ← rooted_eq_ite]
    exact (splitAnchor_append _).symm
  · intro openEnded
    rw [joined]
    exact splitAnchor_openEnded openEnded
  · intro piece member
    exact not_mem_of_mem_splitOn (pieces ▸ member)

/-- The text of a pattern is read in one way only. -/
theorem Reads.parse_eq (reading : Reads raw.toList opening stretches anchored) :
    parse raw = ⟨raw, opening, stretches, anchored⟩ := by
  have written := reading.written
  rw [← rooted_eq_ite] at written
  have body : splitAnchor (rooted raw.toList) =
      (['*'].intercalate (opening :: stretches), anchored) := by
    rw [written, splitAnchor]
    cases anchored with
    | true => simp
    | false => simp [reading.openEnded rfl]
  have pieces : splitWildcards (['*'].intercalate (opening :: stretches)) =
      (opening, stretches) := by
    rw [splitWildcards, List.splitOn_intercalate '*' reading.literal (by simp)]
  rw [parse, body, pieces]

theorem eq_parse_of_compile {pattern : PathPattern} (accepted : compile raw = .ok pattern) :
    pattern = parse raw := by
  rw [compile] at accepted
  split at accepted
  · exact (Except.ok.inj accepted).symm
  · cases accepted

/-- An accepted pattern covers the texts that consist of its literal pieces one
after the other, with any text between them and, unless it is anchored, at the
end. -/
theorem covers_iff_exists_gaps {pattern : PathPattern} (accepted : compile raw = .ok pattern) :
    (∃ opening stretches anchored, Reads raw.toList opening stretches anchored) ∧
      ∀ opening stretches anchored, Reads raw.toList opening stretches anchored →
        ∀ candidate : String, pattern.covers candidate = true ↔
          ∃ (gaps : List (List Char)) (tail : List Char), gaps.length = stretches.length ∧
            (anchored = true → tail = []) ∧
            candidate.toList =
              opening ++ (List.zipWith (· ++ ·) gaps stretches).flatten ++ tail := by
  obtain rfl := eq_parse_of_compile accepted
  refine ⟨⟨_, _, _, reads_parse raw⟩, ?_⟩
  intro opening stretches anchored reading candidate
  rw [covers_iff_describes, reading.parse_eq]
  constructor
  · rintro ⟨rest, whole, spelled⟩
    obtain ⟨gaps, tail, count, closed, rfl⟩ := spells_iff_exists_gaps.mp spelled
    exact ⟨gaps, tail, count, closed, by simpa using whole⟩
  · rintro ⟨gaps, tail, count, closed, whole⟩
    refine ⟨(List.zipWith (· ++ ·) gaps stretches).flatten ++ tail, by simpa using whole, ?_⟩
    exact spells_iff_exists_gaps.mpr ⟨gaps, tail, count, closed, rfl⟩

theorem covers_overlapping_stretches :
    ∃ pattern, compile "/*aa*ab$" = .ok pattern ∧ pattern.covers "/aaaab" = true := by
  refine ⟨_, rfl, ?_⟩
  have reading : Reads "/*aa*ab$".toList ['/'] [['a', 'a'], ['a', 'b']] true :=
    ⟨by decide, by decide, by decide⟩
  exact ((covers_iff_exists_gaps rfl).2 _ _ _ reading "/aaaab").mpr
    ⟨[[], ['a']], [], rfl, fun _ => rfl, by decide⟩

end Reading

end PathPattern

end RobotsExclusion
