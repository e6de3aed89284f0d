import Mathlib.Data.List.Permutation
import RobotsExclusion.Proofs.SourceDecision

/-!
# Narrower and broader paths

A pattern covers the text that it spells out, and that text can be found in every
other path it covers, with more characters in between.  A path that is narrower than
another one therefore spells out at least as much, and is preferred unless both spell
out the same text.  Wildcards and the end anchor do not count: `/a$` is narrower than
`/a`, but of the two the one that is mentioned first decides.
-/

namespace RobotsExclusion

namespace PathPattern

variable {anchored : Bool} {stretches kept cut : List (List Char)} {text : List Char}
  {pattern : PathPattern} {path : String}

theorem spells_flatten (anchored : Bool) (stretches : List (List Char)) :
    Spells anchored stretches stretches.flatten := by
  induction stretches with
  | nil => exact .tail [] fun _ => rfl
  | cons stretch later ih => exact .gap [] ih

theorem Spells.flatten_sublist (spelled : Spells anchored stretches text) :
    stretches.flatten.Sublist text := by
  induction spelled with
  | tail rest _ => exact List.nil_sublist rest
  | @gap skipped stretch later rest _ ih =>
      have found : (stretch ++ later.flatten).Sublist (stretch ++ rest) :=
        ih.append_left stretch
      rw [List.flatten_cons, List.append_assoc]
      exact found.trans (List.sublist_append_right skipped _)

/-- Without its last stretches and its anchor a pattern asks for less. -/
theorem Spells.cut_off (spelled : Spells anchored (kept ++ cut) text) :
    Spells false kept text := by
  induction kept generalizing text with
  | nil => exact .tail text (by simp)
  | cons stretch later ih =>
      obtain ⟨skipped, rest, rfl, inner⟩ := spells_cons_iff.mp spelled
      exact .gap skipped (ih inner)

/-- A pattern covers the text that it spells out. -/
theorem covers_literal (pattern : PathPattern) :
    pattern.covers (String.ofList pattern.literal) = true := by
  rw [covers_iff_describes]
  exact ⟨_, by simp [literal], spells_flatten _ _⟩

theorem literal_sublist_of_covers (covered : pattern.covers path = true) :
    pattern.literal.Sublist path.toList := by
  obtain ⟨rest, whole, spelled⟩ := (covers_iff_describes pattern path).mp covered
  rw [whole]
  exact spelled.flatten_sublist.append_left pattern.opening

/-- What a broader pattern spells out can be found in what a narrower one spells out. -/
theorem literal_sublist_of_within {narrow broad : PathPattern}
    (within : ∀ path, narrow.covers path = true → broad.covers path = true) :
    broad.literal.Sublist narrow.literal := by
  have found := literal_sublist_of_covers (within _ narrow.covers_literal)
  rwa [String.toList_ofList] at found

theorem covers_of_cut_off {broad : PathPattern} (covered : pattern.covers path = true)
    (opening : broad.opening = pattern.opening) (openEnded : broad.anchored = false)
    (stretches : broad.stretches <+: pattern.stretches) : broad.covers path = true := by
  obtain ⟨rest, whole, spelled⟩ := (covers_iff_describes pattern path).mp covered
  obtain ⟨cut, split⟩ := stretches
  rw [← split] at spelled
  rw [covers_iff_describes]
  exact ⟨rest, by rw [opening, whole], by rw [openEnded]; exact spelled.cut_off⟩

end PathPattern

/-- The characters that a declared path spells out. -/
def pathLiteral (declared : String) : List Char :=
  (PathPattern.parse declared).literal

/-- One declared path covers less than another one. -/
structure StrictlyNarrows (narrow broad : String) : Prop where
  within : ∀ path, pathCovers narrow path = true → pathCovers broad path = true
  proper : ∃ path, pathCovers broad path = true ∧ pathCovers narrow path = false

namespace StrictlyNarrows

variable {narrow broad : String}

theorem ne (narrows : StrictlyNarrows narrow broad) : narrow ≠ broad := by
  rintro rfl
  obtain ⟨path, covered, uncovered⟩ := narrows.proper
  rw [covered] at uncovered
  cases uncovered

theorem literal_sublist (narrows : StrictlyNarrows narrow broad) :
    (pathLiteral broad).Sublist (pathLiteral narrow) :=
  PathPattern.literal_sublist_of_within narrows.within

theorem specificity_le (narrows : StrictlyNarrows narrow broad) :
    pathSpecificity broad ≤ pathSpecificity narrow :=
  narrows.literal_sublist.length_le

/-- A broader path ties with a narrower one only by spelling out the same text. -/
theorem literal_eq_iff (narrows : StrictlyNarrows narrow broad) :
    pathLiteral narrow = pathLiteral broad ↔
      ¬ pathSpecificity broad < pathSpecificity narrow := by
  constructor
  · intro same
    have tie : pathSpecificity narrow = pathSpecificity broad := congrArg List.length same
    omega
  · intro tie
    have atLeast : (pathLiteral narrow).length ≤ (pathLiteral broad).length := Nat.not_lt.mp tie
    exact (narrows.literal_sublist.eq_of_length_le atLeast).symm

end StrictlyNarrows

namespace Group

variable {group : Group} {first second narrow broad path : String}

/-- Two paths that alone cover a requested one stand in the order of their mention. -/
theorem covering_eq_pair (covering : (group.covering path).Perm [first, second]) :
    group.covering path = [first, second] ↔ [first, second].Sublist group.accessPaths := by
  have covers : ∀ declared ∈ [first, second], pathCovers declared path = true := by
    intro declared member
    exact (mem_covering_iff.mp (covering.mem_iff.mpr member)).2
  constructor
  · intro pair
    rw [← pair]
    exact List.filter_sublist
  · intro ordered
    have kept : [first, second].filter (fun declared => pathCovers declared path) =
        [first, second] := List.filter_eq_self.mpr covers
    have found : [first, second].Sublist (group.covering path) :=
      kept ▸ ordered.filter fun declared => pathCovers declared path
    exact (found.eq_of_length_le (Nat.le_of_eq covering.length_eq)).symm

theorem covering_perm_pair (differs : narrow ≠ broad)
    (narrowMember : narrow ∈ group.covering path) (broadMember : broad ∈ group.covering path)
    (alone : ∀ declared ∈ group.covering path, declared = narrow ∨ declared = broad) :
    (group.covering path).Perm [narrow, broad] := by
  have distinct : (group.covering path).Nodup := group.nodup_accessPaths.filter _
  have pairDistinct : [narrow, broad].Nodup := by simp [differs]
  apply (List.perm_ext_iff_of_nodup distinct pairDistinct).mpr
  intro declared
  constructor
  · intro member
    simpa using alone declared member
  · intro member
    rcases List.mem_pair.mp member with rfl | rfl
    · exact narrowMember
    · exact broadMember

/-- Of a narrower and a broader path the narrower one decides, unless both spell out
the same text and the broader one is mentioned first. -/
theorem decider?_of_strictlyNarrows (narrows : StrictlyNarrows narrow broad)
    (covering : (group.covering path).Perm [narrow, broad]) :
    group.decider? path =
      if pathLiteral narrow = pathLiteral broad ∧ [broad, narrow].Sublist group.accessPaths then
        some broad
      else
        some narrow := by
  have atMost := narrows.specificity_le
  have swapped := covering_eq_pair (covering.trans (.swap broad narrow []))
  simp only [← swapped, narrows.literal_eq_iff, decider?]
  -- The two stand in the order in which they are mentioned.
  rcases List.perm_pair.mp covering with ordered | ordered
  · have differs : [narrow, broad] ≠ [broad, narrow] := by
      simp [narrows.ne]
    simp [ordered, differs, mostSpecific?, Nat.not_lt.mpr atMost]
  · by_cases less : pathSpecificity broad < pathSpecificity narrow <;>
      simp [ordered, mostSpecific?, less]

theorem permits_of_strictlyNarrows (narrows : StrictlyNarrows narrow broad)
    (covering : (group.covering path).Perm [narrow, broad]) :
    group.permits path =
      if pathLiteral narrow = pathLiteral broad ∧ [broad, narrow].Sublist group.accessPaths then
        group.grants broad
      else
        group.grants narrow := by
  rw [permits_eq_elim_decider?, decider?_of_strictlyNarrows narrows covering]
  split <;> rfl

end Group

namespace Policy

variable {config : Config} {policy : Policy} {group : Group}
  {identity narrow broad path : String}

/-- Where a narrower and a broader path are the only ones that cover a path, the
narrower one decides in any order of mention, unless both spell out the same text: then
the one that is mentioned first decides. -/
theorem allows_of_strictlyNarrows (accepted : ofConfig config = .ok policy)
    (selected : config.group? identity = some group)
    (narrowMember : narrow ∈ group.accessPaths) (broadMember : broad ∈ group.accessPaths)
    (narrows : StrictlyNarrows narrow broad) (covered : pathCovers narrow path = true)
    (alone : ∀ declared ∈ group.accessPaths, pathCovers declared path = true →
      declared = narrow ∨ declared = broad) :
    policy.allows identity path =
      if pathLiteral narrow = pathLiteral broad ∧ [broad, narrow].Sublist group.accessPaths then
        group.grants broad
      else
        group.grants narrow := by
  have covering : (group.covering path).Perm [narrow, broad] := by
    apply Group.covering_perm_pair narrows.ne
    · exact Group.mem_covering_iff.mpr ⟨narrowMember, covered⟩
    · exact Group.mem_covering_iff.mpr ⟨broadMember, narrows.within path covered⟩
    · intro declared member
      obtain ⟨member, covers⟩ := Group.mem_covering_iff.mp member
      exact alone declared member covers
  rw [allows_eq_elim_group? accepted, selected]
  exact Group.permits_of_strictlyNarrows narrows covering

theorem allowed_by_narrower_path :
    ∃ config policy,
      config.groups = [⟨["*"], []⟩,
        ⟨["bot"], [⟨"disallow", "/a"⟩, ⟨"allow", "/a*b$"⟩, ⟨"disallow", "/b"⟩]⟩] ∧
      ofConfig config = .ok policy ∧ StrictlyNarrows "/a*b$" "/a" ∧
      policy.allows "bot" "/ab" = true := by
  let group : Group := ⟨["bot"], [⟨"disallow", "/a"⟩, ⟨"allow", "/a*b$"⟩, ⟨"disallow", "/b"⟩]⟩
  let config : Config := ⟨[⟨["*"], []⟩, group]⟩
  have narrows : StrictlyNarrows "/a*b$" "/a" := by
    refine ⟨fun path covered => ?_, "/a", by decide, by decide⟩
    exact PathPattern.covers_of_cut_off covered (by decide) (by decide) (by decide)
  have accepted : ofConfig config = .ok _ := rfl
  have selected : config.group? "bot" = some group := by decide +kernel
  refine ⟨config, _, rfl, accepted, narrows, ?_⟩
  rw [allows_of_strictlyNarrows accepted selected (by decide) (by decide) narrows (by decide)
    (by decide)]
  decide

/-- A narrower path is not bound to decide, whatever the order. -/
theorem not_forall_narrower_decides :
    ¬ ∀ (config : Config) (policy : Policy) (group : Group) (identity narrow broad path : String),
        ofConfig config = .ok policy → config.group? identity = some group →
        narrow ∈ group.accessPaths → broad ∈ group.accessPaths →
        StrictlyNarrows narrow broad → pathCovers narrow path = true →
        (∀ declared ∈ group.accessPaths, pathCovers declared path = true →
          declared = narrow ∨ declared = broad) →
        policy.allows identity path = group.grants narrow := by
  intro decides
  let group : Group := ⟨["*"], [⟨"disallow", "/a"⟩, ⟨"allow", "/a$"⟩]⟩
  have narrows : StrictlyNarrows "/a$" "/a" := by
    refine ⟨fun path covered => ?_, "/ab", by decide, by decide⟩
    exact PathPattern.covers_of_cut_off covered (by decide) (by decide) (by decide)
  have decided := decides ⟨[group]⟩ _ group "bot" "/a$" "/a" "/a" rfl (by decide +kernel)
    (by decide) (by decide) narrows (by decide) (by decide)
  exact absurd decided (by decide +kernel)

end Policy

end RobotsExclusion
