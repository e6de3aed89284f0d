/-!
# Searching and measuring a text

Finding a part or a character in a text at the leftmost place where it occurs, and
counting the bytes of a text.
-/

namespace RobotsExclusion.Text

/-- What follows a part at the start of a text. -/
def afterStart : (part text : List Char) → Option (List Char)
  | [], text => some text
  | _ :: _, [] => none
  | p :: part, c :: text => if p = c then afterStart part text else none

/-- What follows the leftmost occurrence of a part. -/
def afterFirst (part : List Char) : List Char → Option (List Char)
  | [] => if part.isEmpty then some [] else none
  | c :: rest =>
      match afterStart part (c :: rest) with
      | some remaining => some remaining
      | none => afterFirst part rest

def occursIn (part text : List Char) : Bool :=
  (afterFirst part text).isSome

theorem afterStart_eq_some_iff {part text rest : List Char} :
    afterStart part text = some rest ↔ text = part ++ rest := by
  induction part generalizing text with
  | nil => simp [afterStart]
  | cons p part ih =>
      cases text with
      | nil => simp [afterStart]
      | cons c text =>
          by_cases same : p = c
          · simp [afterStart, same, ih]
          · simp [afterStart, same, Ne.symm same]

/-- What is found is the part with what follows it. -/
theorem eq_append_of_afterFirst {part text rest : List Char}
    (found : afterFirst part text = some rest) :
    ∃ skipped, text = skipped ++ part ++ rest := by
  induction text with
  | nil =>
      cases part with
      | nil => exact ⟨[], by simpa [afterFirst] using found⟩
      | cons => simp [afterFirst] at found
  | cons c text ih =>
      unfold afterFirst at found
      split at found
      · next remaining starts =>
        obtain rfl := Option.some.inj found
        exact ⟨[], by simpa using afterStart_eq_some_iff.mp starts⟩
      · obtain ⟨skipped, whole⟩ := ih found
        exact ⟨c :: skipped, by simp [whole]⟩

/-- A part that occurs is found. -/
theorem afterFirst_append_isSome (skipped part rest : List Char) :
    (afterFirst part (skipped ++ part ++ rest)).isSome := by
  induction skipped with
  | nil =>
      have starts : afterStart part (part ++ rest) = some rest :=
        afterStart_eq_some_iff.mpr rfl
      rw [List.nil_append]
      cases whole : part ++ rest with
      | nil => simp_all [afterFirst]
      | cons c text =>
          rw [whole] at starts
          simp [afterFirst, starts]
  | cons c skipped ih =>
      simp only [List.cons_append, afterFirst]
      split
      · rfl
      · exact ih

/-- A part occurs in a text exactly when the text is the part with something around
it. -/
theorem occursIn_iff {part text : List Char} :
    occursIn part text = true ↔ ∃ skipped rest, text = skipped ++ part ++ rest := by
  constructor
  · intro occurs
    obtain ⟨rest, found⟩ := Option.isSome_iff_exists.mp occurs
    obtain ⟨skipped, whole⟩ := eq_append_of_afterFirst found
    exact ⟨skipped, rest, whole⟩
  · rintro ⟨skipped, rest, rfl⟩
    exact afterFirst_append_isSome skipped part rest

/-- The bytes that a text takes in UTF-8. -/
def byteCount (text : List Char) : Nat :=
  text.foldl (fun count c => count + c.utf8Size) 0

/-- Splits a text at the first character with a property; the character itself goes
to neither part. -/
def splitAtFirst (isMark : Char → Bool) (text : List Char) :
    List Char × Option (List Char) :=
  match text.dropWhile fun c => !isMark c with
  | [] => (text, none)
  | _ :: rest => (text.takeWhile fun c => !isMark c, some rest)

end RobotsExclusion.Text
