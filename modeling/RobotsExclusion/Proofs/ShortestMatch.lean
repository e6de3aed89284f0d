import Mathlib.Order.Bounds.Defs
import RobotsExclusion.Proofs.Narrowing

/-!
# The shortest path that a pattern covers

A pattern covers the text that it spells out, and every path that it covers has room for
that text.  So the specificity, which looks like a count of characters in the pattern, is a
fact about the covered paths: the length of the shortest one.  A pattern that covers all
that another one covers is therefore no more specific, and no ranked list puts the broader
of two rules first unless they tie.
-/

namespace RobotsExclusion

namespace PathPattern

variable {pattern narrow broad : PathPattern} {path : String}

/-- Everything that one pattern covers is covered by another one. -/
def Within (narrow broad : PathPattern) : Prop :=
  ∀ path, narrow.covers path = true → broad.covers path = true

/-- The lengths of the paths that a pattern covers. -/
def coveredLengths (pattern : PathPattern) : Set Nat :=
  {length | ∃ path : String, pattern.covers path = true ∧ path.length = length}

theorem specificity_le_length (covered : pattern.covers path = true) :
    pattern.specificity ≤ path.length := by
  rw [← String.length_toList]
  exact (literal_sublist_of_covers covered).length_le

theorem isLeast_specificity (pattern : PathPattern) :
    IsLeast pattern.coveredLengths pattern.specificity := by
  constructor
  · exact ⟨String.ofList pattern.literal, pattern.covers_literal, String.length_ofList⟩
  · rintro length ⟨path, covered, rfl⟩
    exact specificity_le_length covered

/-- The broader pattern covers a shortest path of the narrower one. -/
theorem Within.specificity_le (within : narrow.Within broad) :
    broad.specificity ≤ narrow.specificity := by
  obtain ⟨path, covered, shortest⟩ := narrow.isLeast_specificity.1
  rw [← shortest]
  exact specificity_le_length (within path covered)

end PathPattern

namespace Rule

/-- A rule stands before a narrower one only where the two are equally specific. -/
def NarrowFirst (rules : List Rule) : Prop :=
  rules.Pairwise fun first later =>
    later.pattern.Within first.pattern → first.specificity = later.specificity

theorem narrowFirst_mostSpecificFirst (rules : List Rule) :
    NarrowFirst (mostSpecificFirst specificity rules) := by
  refine (mostSpecificFirst_pairwise specificity rules).imp ?_
  intro first later descending within
  exact Nat.le_antisymm within.specificity_le descending

theorem narrowFirst_of_unlessRefused {refusal : Option PatternError} {source rules : List Rule}
    (compiled : unlessRefused refusal (mostSpecificFirst specificity source) = .ok rules) :
    NarrowFirst rules := by
  rw [← (unlessRefused_eq_ok_iff.mp compiled).2]
  exact narrowFirst_mostSpecificFirst source

end Rule

namespace Policy

/-- The specificity of an accepted pattern is the length of the shortest path it covers.  A
broader pattern is therefore never more specific, and a compiled list of rules, with or without
agents to apply to, puts a broader rule before a narrower one only where they tie. -/
theorem narrow_rules_first :
    (∀ raw pattern, PathPattern.compile raw = .ok pattern →
        IsLeast pattern.coveredLengths pattern.specificity) ∧
      (∀ narrowRaw broadRaw narrow broad, PathPattern.compile narrowRaw = .ok narrow →
        PathPattern.compile broadRaw = .ok broad → narrow.Within broad →
          broad.specificity ≤ narrow.specificity) ∧
      (∀ group rules,
        RuleGroup.compileAccess group = .ok rules ∨ RuleGroup.compileIndexing group = .ok rules →
          Rule.NarrowFirst rules) ∧
      ∀ config policy, ofConfig config = .ok policy → ∀ compiled ∈ policy.groups,
        Rule.NarrowFirst compiled.access ∧ Rule.NarrowFirst compiled.indexing := by
  refine ⟨fun _ pattern _ => pattern.isLeast_specificity,
    fun _ _ _ _ _ _ within => within.specificity_le, ?_, ?_⟩
  · rintro group rules (access | indexing)
    · rw [RuleGroup.compileAccess_eq] at access
      exact Rule.narrowFirst_of_unlessRefused access
    · rw [RuleGroup.compileIndexing_eq] at indexing
      exact Rule.narrowFirst_of_unlessRefused indexing
  · intro config policy accepted compiled member
    obtain ⟨group, -, access, indexing⟩ := rules_of_mem_groups accepted member
    rw [access, indexing]
    exact ⟨Rule.narrowFirst_mostSpecificFirst _, Rule.narrowFirst_mostSpecificFirst _⟩

/-- The broader rule stands first here, and ties with the narrower one. -/
theorem narrow_rules_first_on_ties :
    ∃ config policy compiled narrow broad,
      config.groups = [⟨["bot"], [⟨"disallow", "/a"⟩, ⟨"disallow", "/*ü"⟩, ⟨"allow", "/*ü$"⟩,
        ⟨"noindex", "*"⟩, ⟨"noindex", "/ü"⟩]⟩] ∧
      PathPattern.compile "/*ü$" = .ok narrow ∧ PathPattern.compile "/*ü" = .ok broad ∧
      narrow.Within broad ∧ broad.specificity ≤ narrow.specificity ∧
      IsLeast broad.coveredLengths 2 ∧ ofConfig config = .ok policy ∧
      compiled ∈ policy.groups ∧
      (compiled.access.map fun rule => rule.pattern.source) = ["/a", "/*ü", "/*ü$"] ∧
      Rule.NarrowFirst compiled.access ∧ Rule.NarrowFirst compiled.indexing := by
  obtain ⟨least, broader, -, lists⟩ := narrow_rules_first
  have narrowAccepted : PathPattern.compile "/*ü$" = .ok _ := rfl
  have broadAccepted : PathPattern.compile "/*ü" = .ok _ := rfl
  have within : (PathPattern.parse "/*ü$").Within (PathPattern.parse "/*ü") := by
    intro path covered
    exact PathPattern.covers_of_cut_off covered (by decide) (by decide) (by decide)
  let config : Config := ⟨[⟨["bot"], [⟨"disallow", "/a"⟩, ⟨"disallow", "/*ü"⟩, ⟨"allow", "/*ü$"⟩,
    ⟨"noindex", "*"⟩, ⟨"noindex", "/ü"⟩]⟩]⟩
  have accepted : ofConfig config = .ok _ := rfl
  have ranked := lists config _ accepted _ List.mem_cons_self
  exact ⟨config, _, _, _, _, rfl, narrowAccepted, broadAccepted, within,
    broader _ _ _ _ narrowAccepted broadAccepted within, least _ _ broadAccepted, accepted,
    List.mem_cons_self, by decide, ranked⟩

end Policy

end RobotsExclusion
