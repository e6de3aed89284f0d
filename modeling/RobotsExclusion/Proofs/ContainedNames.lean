import RobotsExclusion.Proofs.AssignedAgent
import RobotsExclusion.Proofs.LowercaseContext

/-!
# Identities that contain a declared name

A declared agent is looked for in lower case, and an identity that contains its name need not
contain the name's lower case: a capital sigma at an end of the name can be final in the name
and not in the identity, or the other way round.  A name is found wherever it stands exactly
when it settles its sigmas itself, and every name is found where no cased letter touches it.
-/

namespace RobotsExclusion

namespace AgentPattern

variable {name : String} {front back : String}

/-- An identity that contains the name of a declared agent, without its padding. -/
def containing (name front back : String) : String :=
  front ++ String.ofList (Text.trim name.toList) ++ back

theorem covers_of_namesEveryone (wide : NamesEveryone name) (identity : String) :
    (ofName name).covers identity = true :=
  covers_of_isWildcard (isWildcard_ofName_iff.mpr wide) identity

theorem covers_containing_iff_found (narrow : ¬ NamesEveryone name) :
    (ofName name).covers (containing name front back) = true ↔
      Text.lowercase (Text.trim name.toList) <:+:
        Text.lowercase (front.toList ++ Text.trim name.toList ++ back.toList) := by
  rw [AgentPattern.covers_iff_infix (token_ofName_of_not_namesEveryone narrow)]
  simp [containing]

theorem forall_covers_containing_iff :
    (∀ front back, (ofName name).covers (containing name front back) = true) ↔
      NamesEveryone name ∨ Text.Settled (Text.trim name.toList) := by
  by_cases wide : NamesEveryone name
  · simp [wide, covers_of_namesEveryone wide]
  · simp only [covers_containing_iff_found wide, wide, false_or, Text.settled_iff_infix]
    constructor
    · intro found front back
      simpa using found (String.ofList front) (String.ofList back)
    · intro found front back
      exact found front.toList back.toList

theorem covers_containing_of_apart (apartFront : Text.startsCased front.toList.reverse = false)
    (apartBack : Text.startsCased back.toList = false) :
    (ofName name).covers (containing name front back) = true := by
  by_cases wide : NamesEveryone name
  · exact covers_of_namesEveryone wide _
  · rw [covers_containing_iff_found wide, ← Text.lowercaseWithin_eq_of_apart apartFront apartBack]
    exact Text.lowercaseWithin_infix _ _ _

/-- A declared agent covers every identity that contains its name exactly when its name is a
wildcard or settles its sigmas.  In any case it covers the identities in which no cased letter
touches the name. -/
theorem covers_containing (name : String) :
    ((∀ front back, (ofName name).covers (containing name front back) = true) ↔
        NamesEveryone name ∨ Text.Settled (Text.trim name.toList)) ∧
      ∀ front back, Text.startsCased front.toList.reverse = false →
        Text.startsCased back.toList = false →
          (ofName name).covers (containing name front back) = true :=
  ⟨forall_covers_containing_iff, fun _ _ => covers_containing_of_apart⟩

/-- A name without sigmas within a word, and a name that ends with one on its own. -/
theorem covers_containing_words :
    (ofName " GoogleBot").covers (containing " GoogleBot" "My" "Agent/2.1") = true ∧
      (ofName "ΒΟΤΣ").covers (containing "ΒΟΤΣ" "Mozilla (" "/2.1)") = true := by
  have settled : Text.Settled (Text.trim " GoogleBot".toList) :=
    Text.settled_of_not_mem (by decide +kernel)
  exact ⟨(covers_containing " GoogleBot").1.mpr (.inr settled) "My" "Agent/2.1",
    (covers_containing "ΒΟΤΣ").2 "Mozilla (" "/2.1)" (by decide +kernel) (by decide +kernel)⟩

/-- The sigma is final in the name and not in the identity. -/
theorem not_forall_covers_containing :
    ¬ ∀ name front back, (ofName name).covers (containing name front back) = true := by
  intro covers
  exact absurd (covers "ΑΣ" "" "Α") (by decide +kernel)

end AgentPattern

end RobotsExclusion
