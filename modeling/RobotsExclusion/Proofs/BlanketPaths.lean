import RobotsExclusion.Proofs.Narrowing

/-!
# Blanket paths

A path pattern is a blanket one if it covers every path from the root on.  It has to
cover the root itself, so it spells out at most that one character.  The converse fails:
the specificity counts neither the wildcards nor the end anchor, and both `/$` and `*a`
spell out a single character.  What is missing is that the pattern leaves the end of the
path open.
-/

namespace RobotsExclusion

namespace PathPattern

/-- Whether a pattern leaves the end of a path open: it has no anchor, or a wildcard right
before it. -/
def OpenEnded (pattern : PathPattern) : Prop :=
  pattern.anchored = true → pattern.stretches.getLast? = some []

instance (pattern : PathPattern) : Decidable pattern.OpenEnded :=
  inferInstanceAs (Decidable (_ → _))

def Blanket (pattern : PathPattern) : Prop :=
  ∀ path : String, path.toList.head? = some '/' → pattern.covers path = true

variable {anchored : Bool} {stretches : List (List Char)} {last text : List Char}
  {pattern : PathPattern} {path : String}

/-- With an open end a spelled text may go on. -/
theorem Spells.append (spelled : Spells anchored stretches text)
    (openEnded : anchored = true → stretches.getLast? = some []) (extra : List Char) :
    Spells anchored stretches (text ++ extra) := by
  induction spelled with
  | tail rest closed =>
      have unanchored : anchored = false := by simpa using openEnded
      exact .tail (rest ++ extra) (by simp [unanchored])
  | @gap skipped stretch later rest inner ih =>
      cases later with
      | nil =>
          cases anchored with
          | false =>
              rw [List.append_assoc]
              exact .gap skipped (.tail (rest ++ extra) (by simp))
          | true =>
              -- The last gap takes in what is appended.
              obtain rfl : stretch = [] := by simpa using openEnded rfl
              obtain rfl : rest = [] := spells_nil_iff.mp inner rfl
              exact spells_cons_iff.mpr ⟨skipped ++ extra, [], by simp, inner⟩
      | cons next later =>
          rw [List.append_assoc]
          exact .gap skipped (ih (by simpa using openEnded))

/-- An anchored text closes with the last stretch. -/
theorem Spells.suffix (spelled : Spells true (stretches ++ [last]) text) : last <:+ text := by
  induction stretches generalizing text with
  | nil =>
      obtain ⟨skipped, rest, rfl, inner⟩ := spells_cons_iff.mp spelled
      obtain rfl : rest = [] := spells_nil_iff.mp inner rfl
      exact ⟨skipped, by simp⟩
  | cons stretch later ih =>
      obtain ⟨skipped, rest, rfl, inner⟩ := spells_cons_iff.mp spelled
      exact (ih inner).trans (List.suffix_append _ _)

theorem covers_append_of_openEnded (openEnded : pattern.OpenEnded)
    (covered : pattern.covers path = true) (extra : List Char) :
    pattern.covers (String.ofList (path.toList ++ extra)) = true := by
  obtain ⟨rest, whole, spelled⟩ := (covers_iff_describes pattern path).mp covered
  rw [covers_iff_describes]
  exact ⟨rest ++ extra, by simp [whole], spelled.append openEnded extra⟩

/-- A pattern with a closed end does not cover both of two paths that end differently. -/
theorem openEnded_of_covers (one : pattern.covers "/a" = true)
    (two : pattern.covers "/b" = true) : pattern.OpenEnded := by
  intro anchored
  obtain ⟨rest, whole, spelled⟩ := (covers_iff_describes pattern _).mp one
  obtain ⟨otherRest, otherWhole, otherSpelled⟩ := (covers_iff_describes pattern _).mp two
  rw [anchored] at spelled otherSpelled
  rcases List.eq_nil_or_concat pattern.stretches with none | ⟨stretches, last, split⟩
  · rw [none] at spelled otherSpelled
    obtain rfl : rest = [] := spells_nil_iff.mp spelled rfl
    obtain rfl : otherRest = [] := spells_nil_iff.mp otherSpelled rfl
    exact absurd (whole.trans otherWhole.symm) (by decide)
  · rw [List.concat_eq_append] at split
    rw [split] at spelled otherSpelled ⊢
    obtain ⟨front, ends⟩ := spelled.suffix
    obtain ⟨otherFront, otherEnds⟩ := otherSpelled.suffix
    rcases List.eq_nil_or_concat last with empty | ⟨letters, letter, split⟩
    · simp [empty]
    · rw [List.concat_eq_append] at split
      rw [← ends, split] at whole
      rw [← otherEnds, split] at otherWhole
      have isA : some 'a' = some letter := by simpa using congrArg List.getLast? whole
      have isB : some 'b' = some letter := by simpa using congrArg List.getLast? otherWhole
      exact absurd (isA.trans isB.symm) (by decide)

theorem blanket_of_openEnded (covered : pattern.covers "/" = true)
    (openEnded : pattern.OpenEnded) : pattern.Blanket := by
  intro path starts
  obtain ⟨rest, whole⟩ := List.head?_eq_some_iff.mp starts
  have extended := covers_append_of_openEnded openEnded covered rest
  have same : String.ofList ("/".toList ++ rest) = path := by
    rw [← String.ofList_toList (s := path), whole]
    rfl
  rwa [same] at extended

theorem specificity_le_of_blanket (blanket : pattern.Blanket) :
    pattern.specificity ≤ rootSpecificity :=
  (literal_sublist_of_covers (blanket "/" rfl)).length_le

theorem blanket_iff : pattern.Blanket ↔
    pattern.specificity ≤ rootSpecificity ∧ pattern.covers "/" = true ∧ pattern.OpenEnded := by
  constructor
  · intro blanket
    exact ⟨specificity_le_of_blanket blanket, blanket "/" rfl,
      openEnded_of_covers (blanket "/a" rfl) (blanket "/b" rfl)⟩
  · rintro ⟨-, covered, openEnded⟩
    exact blanket_of_openEnded covered openEnded

end PathPattern

namespace Group

variable {group : Group} {path : String}

/-- A group that excludes its crawlers forbids exactly what one of its paths covers. -/
theorem permits_eq_false_iff_of_excludes (excludes : group.excludes = true) :
    group.permits path = false ↔
      ∃ declared ∈ group.accessPaths, pathCovers declared path = true := by
  constructor
  · intro denied
    obtain ⟨deciding, chosen, -⟩ := exists_decider_of_permits_eq_false denied
    exact ⟨deciding, mem_covering_iff.mp (mem_covering_of_decider? chosen)⟩
  · rintro ⟨declared, member, covers⟩
    obtain ⟨deciding, chosen⟩ :=
      exists_decider_of_mem_covering (mem_covering_iff.mpr ⟨member, covers⟩)
    have deciderMember := (mem_covering_iff.mp (mem_covering_of_decider? chosen)).1
    have ungranted := List.all_eq_true.mp excludes deciding deciderMember
    rw [permits_eq_elim_decider?, chosen]
    simpa using (Bool.and_eq_true_iff.mp ungranted).1

end Group

namespace Policy

/-- A path pattern is a blanket one exactly where it is no more specific than the root,
covers the root and leaves the end of the path open.  A crawler that is disallowed all is
refused exactly the paths that its group covers, and so every path under a blanket one. -/
theorem refused_under_blanket_path (pattern : PathPattern) :
    (pattern.Blanket ↔
      pattern.specificity ≤ PathPattern.rootSpecificity ∧ pattern.covers "/" = true ∧
        pattern.OpenEnded) ∧
      ∀ config policy group identity, ofConfig config = .ok policy →
        config.group? identity = some group → policy.disallowsAll identity = true →
          (∀ path, policy.allows identity path = false ↔
            ∃ declared ∈ group.accessPaths, pathCovers declared path = true) ∧
          ((∃ declared ∈ group.accessPaths, PathPattern.parse declared = pattern) →
            pattern.Blanket → ∀ path : String, path.toList.head? = some '/' →
              policy.allows identity path = false) := by
  constructor
  · exact PathPattern.blanket_iff
  · intro config policy group identity accepted selected disallowed
    have excludes : group.excludes = true := by
      rwa [disallowsAll_eq_elim_group? accepted, selected] at disallowed
    have refused : ∀ path, policy.allows identity path = false ↔
        ∃ declared ∈ group.accessPaths, pathCovers declared path = true := by
      intro path
      rw [allows_eq_elim_group? accepted, selected]
      exact Group.permits_eq_false_iff_of_excludes excludes
    constructor
    · exact refused
    · rintro ⟨declared, member, rfl⟩ blanket path starts
      exact (refused path).mpr ⟨declared, member, blanket path starts⟩

theorem refused_beside_closed_path :
    ∃ config policy, config.groups = [⟨["*"], [⟨"disallow", "/$"⟩, ⟨"disallow", "/*$"⟩]⟩] ∧
      ofConfig config = .ok policy ∧ policy.disallowsAll "bot" = true ∧
      policy.allows "bot" "/page" = false := by
  let group : Group := ⟨["*"], [⟨"disallow", "/$"⟩, ⟨"disallow", "/*$"⟩]⟩
  let config : Config := ⟨[group]⟩
  let pattern := PathPattern.parse "/*$"
  have accepted : ofConfig config = .ok _ := rfl
  have selected : config.group? "bot" = some group := by decide +kernel
  obtain ⟨blanket_iff, refused⟩ := refused_under_blanket_path pattern
  have blanket : pattern.Blanket := blanket_iff.mpr (by decide)
  refine ⟨config, _, rfl, accepted, by decide +kernel, ?_⟩
  exact (refused config _ group "bot" accepted selected (by decide +kernel)).2
    ⟨"/*$", by decide, rfl⟩ blanket "/page" (by decide)

/-- The specificity of the root does not make a blanket path, and a crawler that is
disallowed all may be allowed all but the root. -/
theorem not_forall_low_specificity_blanket :
    (¬ ∀ raw pattern, PathPattern.compile raw = .ok pattern →
      pattern.specificity ≤ PathPattern.rootSpecificity → ∀ path : String,
        path.toList.head? = some '/' → pattern.covers path = true) ∧
      ¬ ∀ config policy group identity, ofConfig config = .ok policy →
        config.group? identity = some group → group.accessPaths ≠ [] →
          policy.disallowsAll identity = true → ∀ path : String,
            path.toList.head? = some '/' → policy.allows identity path = false := by
  constructor
  · intro covers
    have covered := covers "/$" _ rfl (by decide) "/page" (by decide)
    exact absurd covered (by decide)
  · intro refuses
    let group : Group := ⟨["*"], [⟨"disallow", "/$"⟩]⟩
    have refused := refuses ⟨[group]⟩ _ group "bot" rfl (by decide +kernel) (by decide)
      (by decide +kernel) "/page" (by decide)
    exact absurd refused (by decide +kernel)

end Policy

end RobotsExclusion
