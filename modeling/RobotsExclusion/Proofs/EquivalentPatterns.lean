import RobotsExclusion.Proofs.PathLanguage

/-!
# Path patterns that mean the same

A pattern without wildcards is compared with the start of a path, or with the whole path if it
is anchored; one with wildcards is searched for.  The notations overlap: an open end says the
same as a final wildcard, one gap the same as two gaps in a row, and an anchor turns the paths
that a pattern covers into the starts that it needs.  So the comparisons and the search agree
wherever two spellings of a pattern can be compared.
-/

namespace RobotsExclusion

namespace PathPattern

section Stretches

variable {anchored : Bool} {stretches others kept later : List (List Char)}
  {next text : List Char}

/-- What stands after the first stretches can be exchanged for anything that spells the same. -/
theorem spells_append_congr
    (same : ∀ text, Spells anchored stretches text ↔ Spells anchored others text) :
    Spells anchored (kept ++ stretches) text ↔ Spells anchored (kept ++ others) text := by
  induction kept generalizing text with
  | nil => exact same text
  | cons stretch kept ih => simp only [List.cons_append, spells_cons_iff, ih]

/-- An empty stretch joins its gap to the next one. -/
theorem spells_empty_cons_iff :
    Spells anchored ([] :: next :: later) text ↔ Spells anchored (next :: later) text := by
  rw [spells_cons_iff]
  constructor
  · rintro ⟨skipped, rest, rfl, spelled⟩
    simpa using spelled.prepend skipped
  · intro spelled
    exact ⟨[], text, rfl, spelled⟩

/-- A final gap adds nothing to an open end. -/
theorem spells_empty_iff : Spells false [[]] text ↔ Spells false [] text := by
  rw [spells_cons_iff]
  simp only [spells_nil_iff, Bool.false_eq_true, false_implies, iff_true]
  exact ⟨[], text, rfl, trivial⟩

/-- Without an anchor some start of the text has to be spelled to its end. -/
theorem spells_false_iff :
    Spells false stretches text ↔ ∃ start, start <+: text ∧ Spells true stretches start := by
  induction stretches generalizing text with
  | nil =>
      simp only [spells_nil_iff, Bool.false_eq_true, false_implies, forall_const, true_iff]
      exact ⟨[], List.nil_prefix, rfl⟩
  | cons stretch later ih =>
      simp only [spells_cons_iff]
      constructor
      · rintro ⟨skipped, rest, rfl, spelled⟩
        obtain ⟨start, ⟨tail, rfl⟩, closed⟩ := ih.mp spelled
        exact ⟨skipped ++ stretch ++ start, ⟨tail, by simp⟩, skipped, start, rfl, closed⟩
      · rintro ⟨start, ⟨tail, rfl⟩, skipped, rest, rfl, closed⟩
        exact ⟨skipped, rest ++ tail, by simp, ih.mpr ⟨rest, List.prefix_append rest tail, closed⟩⟩

end Stretches

section Bodies

/-- The pattern with a given text from the root on, without its anchor. -/
def ofBody (source : String) (body : List Char) (anchored : Bool) : PathPattern :=
  ⟨source, (splitWildcards body).1, (splitWildcards body).2, anchored⟩

variable {source otherSource : String} {front back body text : List Char} {anchored : Bool}

theorem splitWildcards_append (front back : List Char) :
    splitWildcards (front ++ '*' :: back) = ((splitWildcards front).1,
      (splitWildcards front).2 ++ (splitWildcards back).1 :: (splitWildcards back).2) := by
  have pieces := splitWildcards_cons (front ++ '*' :: back)
  rw [List.splitOn_append_cons_self, ← splitWildcards_cons front, ← splitWildcards_cons back,
    List.cons_append] at pieces
  exact Prod.ext (List.cons.inj pieces).1 (List.cons.inj pieces).2

private theorem flatten_splitOn (mark : Char) (text : List Char) :
    (text.splitOn mark).flatten = text.filter (· != mark) := by
  induction text with
  | nil => rfl
  | cons c text ih =>
      rw [List.splitOn_cons_eq_if_modifyHead]
      by_cases same : c = mark
      · simp [same, ih]
      · obtain ⟨first, rest, pieces⟩ := List.exists_cons_of_ne_nil (List.splitOn_ne_nil mark text)
        rw [pieces] at ih ⊢
        simpa [same] using ih

/-- A pattern spells out the characters of its text that are no wildcards. -/
theorem literal_ofBody : (ofBody source body anchored).literal = body.filter (· != '*') := by
  rw [← flatten_splitOn, ← splitWildcards_cons]
  rfl

theorem describes_ofBody_iff : (ofBody source body anchored).Describes text ↔
    ∃ rest, text = (splitWildcards body).1 ++ rest ∧
      Spells anchored (splitWildcards body).2 rest :=
  Iff.rfl

theorem describes_ofBody_final_wildcard :
    (ofBody otherSource (body ++ ['*']) false).Describes text ↔
      (ofBody source body false).Describes text := by
  have pieces : splitWildcards (body ++ ['*']) =
      ((splitWildcards body).1, (splitWildcards body).2 ++ [[]]) := splitWildcards_append body []
  simp only [describes_ofBody_iff, pieces, spells_append_congr fun _ => spells_empty_iff,
    List.append_nil]

theorem describes_ofBody_double_wildcard :
    (ofBody otherSource (front ++ '*' :: '*' :: back) anchored).Describes text ↔
      (ofBody source (front ++ '*' :: back) anchored).Describes text := by
  have pieces : splitWildcards ('*' :: back) =
      ([], (splitWildcards back).1 :: (splitWildcards back).2) := splitWildcards_append [] back
  simp only [describes_ofBody_iff, splitWildcards_append, pieces,
    spells_append_congr fun _ => spells_empty_cons_iff]

theorem describes_ofBody_false_iff : (ofBody source body false).Describes text ↔
    ∃ start, start <+: text ∧ (ofBody otherSource body true).Describes start := by
  simp only [describes_ofBody_iff]
  constructor
  · rintro ⟨rest, rfl, spelled⟩
    obtain ⟨start, ⟨tail, rfl⟩, closed⟩ := spells_false_iff.mp spelled
    exact ⟨(splitWildcards body).1 ++ start, ⟨tail, by simp⟩, start, rfl, closed⟩
  · rintro ⟨_, ⟨tail, rfl⟩, start, rfl, closed⟩
    refine ⟨start ++ tail, by simp, spells_false_iff.mpr ⟨start, ?_, closed⟩⟩
    exact List.prefix_append start tail

/-- Without wildcards an anchored pattern describes its own text. -/
theorem describes_ofBody_true_of_not_mem (plain : '*' ∉ body) :
    (ofBody source body true).Describes text ↔ text = body := by
  have pieces : splitWildcards body = (body, []) := by
    rw [splitWildcards, List.splitOn_eq_singleton plain]
  simp [describes_ofBody_iff, pieces, spells_nil_iff]

end Bodies

section Parsing

variable {raw : String} {text : List Char}

theorem rooted_append (written : text ≠ []) (back : List Char) :
    rooted (text ++ back) = rooted text ++ back := by
  cases text with
  | nil => exact absurd rfl written
  | cons c rest =>
      simp only [rooted_eq_ite, List.cons_append, List.head?_cons]
      by_cases atRoot : c = '/' ∨ c = '*' <;> simp [atRoot]

/-- Rooting a text changes nothing from its first wildcard on. -/
theorem exists_rooted_append_wildcard (front : List Char) :
    ∃ start, ∀ back, rooted (front ++ '*' :: back) = start ++ '*' :: back := by
  cases front with
  | nil => exact ⟨[], fun _ => rfl⟩
  | cons c rest => exact ⟨_, fun back => rooted_append (List.cons_ne_nil c rest) ('*' :: back)⟩

theorem splitAnchor_append_wildcard (front back : List Char) :
    splitAnchor (front ++ '*' :: back) =
      (front ++ '*' :: (splitAnchor back).1, (splitAnchor back).2) := by
  cases back with
  | nil => simp [splitAnchor]
  | cons c rest =>
      simp only [splitAnchor, List.getLast?_append_cons, List.getLast?_cons_cons]
      split <;> simp

theorem splitAnchor_of_openEnded (openEnded : text.getLast? ≠ some '$') :
    splitAnchor text = (text, false) := by
  simp [splitAnchor, openEnded]

theorem getLast?_rooted_ne (openEnded : text.getLast? ≠ some '$') :
    (rooted text).getLast? ≠ some '$' := by
  rw [rooted_eq_ite]
  split
  · exact openEnded
  · cases text with
    | nil => simp
    | cons c rest => simpa using openEnded

theorem parse_of_openEnded (openEnded : raw.toList.getLast? ≠ some '$') :
    parse raw = ofBody raw (rooted raw.toList) false := by
  rw [parse, splitAnchor_of_openEnded (getLast?_rooted_ne openEnded)]
  rfl

theorem parse_append_wildcard (written : raw ≠ "") :
    parse (raw ++ "*") = ofBody (raw ++ "*") (rooted raw.toList ++ ['*']) false := by
  have text : (raw ++ "*").toList = raw.toList ++ ['*'] := String.toList_append
  rw [parse, text, rooted_append (by simpa using written),
    splitAnchor_of_openEnded (by simp)]
  rfl

theorem parse_append_anchor (raw : String) :
    parse (raw ++ "$") = ofBody (raw ++ "$") (rooted raw.toList) true := by
  have text : (raw ++ "$").toList = raw.toList ++ ['$'] := String.toList_append
  have body : rooted (raw.toList ++ ['$']) = rooted raw.toList ++ ['$'] := by
    by_cases written : raw.toList = []
    · rw [written]
      rfl
    · exact rooted_append written ['$']
  have split : splitAnchor (rooted raw.toList ++ ['$']) = (rooted raw.toList, true) := by
    simp [splitAnchor]
  rw [parse, text, body, split]
  rfl

/-- The texts of two patterns that differ in a doubled wildcard. -/
theorem exists_parse_append_wildcard (front back : String) :
    ∃ start rest anchored,
      parse (front ++ "*" ++ back) =
        ofBody (front ++ "*" ++ back) (start ++ '*' :: rest) anchored ∧
      parse (front ++ "**" ++ back) =
        ofBody (front ++ "**" ++ back) (start ++ '*' :: '*' :: rest) anchored := by
  obtain ⟨start, rooted_eq⟩ := exists_rooted_append_wildcard front.toList
  have single : (front ++ "*" ++ back).toList = front.toList ++ '*' :: back.toList := by simp
  have double : (front ++ "**" ++ back).toList = front.toList ++ '*' :: '*' :: back.toList := by
    simp
  have inner := splitAnchor_append_wildcard [] back.toList
  rw [List.nil_append, List.nil_append] at inner
  refine ⟨start, (splitAnchor back.toList).1, (splitAnchor back.toList).2, ?_, ?_⟩
  · rw [parse, single, rooted_eq, splitAnchor_append_wildcard]
    rfl
  · rw [parse, double, rooted_eq, splitAnchor_append_wildcard, inner]
    rfl

end Parsing

section Spellings

/-- Two patterns that cover the same paths and are equally specific. -/
structure Interchangeable (first second : PathPattern) : Prop where
  covers : ∀ path, first.covers path = second.covers path
  specificity : first.specificity = second.specificity

variable {raw : String} {first second : PathPattern}

theorem Interchangeable.of_describes
    (describes : ∀ text, first.Describes text ↔ second.Describes text)
    (literal : first.literal = second.literal) : first.Interchangeable second where
  covers path := by
    rw [Bool.eq_iff_iff, covers_iff_describes, covers_iff_describes, describes]
  specificity := congrArg List.length literal

theorem interchangeable_final_wildcard (written : raw ≠ "")
    (openEnded : raw.toList.getLast? ≠ some '$') :
    (parse raw).Interchangeable (parse (raw ++ "*")) := by
  rw [parse_of_openEnded openEnded, parse_append_wildcard written]
  exact .of_describes (fun _ => describes_ofBody_final_wildcard.symm)
    (by simp [literal_ofBody])

theorem interchangeable_double_wildcard (front back : String) :
    (parse (front ++ "*" ++ back)).Interchangeable (parse (front ++ "**" ++ back)) := by
  obtain ⟨start, rest, anchored, single, double⟩ := exists_parse_append_wildcard front back
  rw [single, double]
  exact .of_describes (fun _ => describes_ofBody_double_wildcard.symm)
    (by simp [literal_ofBody])

theorem specificity_append_anchor (openEnded : raw.toList.getLast? ≠ some '$') :
    (parse raw).specificity = (parse (raw ++ "$")).specificity := by
  rw [parse_of_openEnded openEnded, parse_append_anchor, specificity, specificity,
    literal_ofBody, literal_ofBody]

theorem covers_iff_exists_start (openEnded : raw.toList.getLast? ≠ some '$') (path : String) :
    (parse raw).covers path = true ↔
      ∃ start : String, start.toList <+: path.toList ∧
        (parse (raw ++ "$")).covers start = true := by
  simp only [covers_iff_describes]
  rw [parse_of_openEnded openEnded, parse_append_anchor, describes_ofBody_false_iff]
  constructor
  · rintro ⟨start, begins, described⟩
    exact ⟨String.ofList start, by simpa using begins, by simpa using described⟩
  · rintro ⟨start, begins, described⟩
    exact ⟨start.toList, begins, described⟩

theorem wildcard_not_mem_rooted (plain : '*' ∉ raw.toList) : '*' ∉ rooted raw.toList := by
  rw [rooted_eq_ite]
  split
  · exact plain
  · simpa using plain

theorem covers_iff_eq_of_not_mem (plain : '*' ∉ raw.toList) (path : String) :
    (parse (raw ++ "$")).covers path = true ↔ path.toList = rooted raw.toList := by
  rw [covers_iff_describes, parse_append_anchor,
    describes_ofBody_true_of_not_mem (wildcard_not_mem_rooted plain)]

theorem covers_iff_prefix_of_not_mem (openEnded : raw.toList.getLast? ≠ some '$')
    (plain : '*' ∉ raw.toList) (path : String) :
    (parse raw).covers path = true ↔ rooted raw.toList <+: path.toList := by
  simp only [covers_iff_exists_start openEnded, covers_iff_eq_of_not_mem plain]
  constructor
  · rintro ⟨start, begins, same⟩
    rwa [← same]
  · intro begins
    exact ⟨String.ofList (rooted raw.toList), by simpa using begins, String.toList_ofList⟩

/-- A final wildcard and a doubled one change nothing about an accepted pattern.  An anchor keeps
its specificity, and the pattern covers the paths with a start that the anchored pattern covers.
Without wildcards these are a comparison with the start of a path and one with the whole path. -/
theorem interchangeable_spellings :
    (∀ raw pattern starred, raw ≠ "" → raw.toList.getLast? ≠ some '$' →
        compile raw = .ok pattern → compile (raw ++ "*") = .ok starred →
          pattern.Interchangeable starred) ∧
      (∀ front back single double, compile (front ++ "*" ++ back) = .ok single →
        compile (front ++ "**" ++ back) = .ok double → single.Interchangeable double) ∧
      ∀ raw pattern anchored, raw.toList.getLast? ≠ some '$' →
        compile raw = .ok pattern → compile (raw ++ "$") = .ok anchored →
          pattern.specificity = anchored.specificity ∧
            (∀ path : String, pattern.covers path = true ↔
              ∃ start : String, start.toList <+: path.toList ∧ anchored.covers start = true) ∧
            ('*' ∉ raw.toList → ∀ path : String,
              (pattern.covers path = true ↔ rooted raw.toList <+: path.toList) ∧
                (anchored.covers path = true ↔ path.toList = rooted raw.toList)) := by
  refine ⟨?_, ?_, ?_⟩
  · intro raw pattern starred written openEnded accepted acceptedStarred
    rw [eq_parse_of_compile accepted, eq_parse_of_compile acceptedStarred]
    exact interchangeable_final_wildcard written openEnded
  · intro front back single double accepted acceptedDouble
    rw [eq_parse_of_compile accepted, eq_parse_of_compile acceptedDouble]
    exact interchangeable_double_wildcard front back
  · intro raw pattern anchored openEnded accepted acceptedAnchored
    rw [eq_parse_of_compile accepted, eq_parse_of_compile acceptedAnchored]
    exact ⟨specificity_append_anchor openEnded, covers_iff_exists_start openEnded, fun plain path =>
      ⟨covers_iff_prefix_of_not_mem openEnded plain path, covers_iff_eq_of_not_mem plain path⟩⟩

/-- The rooted pattern has a `$` inside, and the doubled wildcard stands before an anchor. -/
theorem interchangeable_odd_spellings :
    ∃ pattern starred single double anchored,
      compile "fi$h" = .ok pattern ∧ compile "fi$h*" = .ok starred ∧
      compile "*/*$" = .ok single ∧ compile "*/**$" = .ok double ∧
      compile "fi$h$" = .ok anchored ∧ pattern.Interchangeable starred ∧
      single.Interchangeable double ∧ anchored.specificity = 5 ∧
      starred.covers "/fi$h/1" = true ∧ anchored.covers "/fi$h" = true := by
  obtain ⟨starring, doubling, anchoring⟩ := interchangeable_spellings
  have same := starring "fi$h" _ _ (by decide) (by decide) rfl rfl
  obtain ⟨specificity, -, plain⟩ := anchoring "fi$h" _ _ (by decide) rfl rfl
  have begins := (plain (by decide) "/fi$h/1").1.mpr (by decide)
  refine ⟨_, _, _, _, _, rfl, rfl, rfl, rfl, rfl, same, doubling "*/" "$" _ _ rfl rfl,
    specificity.symm, (same.covers "/fi$h/1").symm.trans begins,
    (plain (by decide) "/fi$h").2.mpr (by decide)⟩

end Spellings

end PathPattern

end RobotsExclusion
