import RobotsExclusion.Proofs.AssignedAgent
import RobotsExclusion.Proofs.Independence

/-!
# What may be indexed

Indexing rules only ever forbid, so their ranking decides nothing: a path is withheld
from the index where some noindex line of the group that applies covers it.  All other
lines of the group, and the order and number of the noindex lines, are without effect.
-/

namespace RobotsExclusion

theorem Directive.ofName?_eq_some_iff {name : String} {directive : Directive} :
    ofName? name = some directive ↔
      Text.lowercaseAscii (Text.trim name.toList) = directive.name.toList := by
  simp only [ofName?]
  generalize Text.lowercaseAscii (Text.trim name.toList) = plain
  constructor
  · intro found
    simpa using List.find?_some found
  · rintro rfl
    cases directive <;> decide

namespace Line

/-- The directive of a line is `noindex`, whatever its padding and its ASCII case. -/
def IsNoindex (line : Line) : Prop :=
  Text.lowercaseAscii (Text.trim line.rule.toList) = "noindex".toList

instance (line : Line) : Decidable line.IsNoindex :=
  inferInstanceAs (Decidable (Text.lowercaseAscii (Text.trim line.rule.toList) = _))

/-- A line that withholds a path from the index. -/
structure Withholds (line : Line) (path : String) : Prop where
  noindex : line.IsNoindex
  named : line.path ≠ ""
  covers : ∃ pattern, PathPattern.compile line.path = .ok pattern ∧ pattern.covers path = true

theorem directive?_eq_noindex_iff {line : Line} :
    line.directive? = some .noindex ↔ line.path ≠ "" ∧ line.IsNoindex := by
  have named : Directive.ofName? line.rule = some .noindex ↔ line.IsNoindex :=
    Directive.ofName?_eq_some_iff
  by_cases empty : line.path = "" <;> simp [directive?, empty, named]

end Line

namespace Group

variable {group : Group} {path declared : String}

theorem mem_noindexPaths_iff : declared ∈ noindexPaths group.rules ↔
    ∃ line ∈ group.rules, (line.path ≠ "" ∧ line.IsNoindex) ∧ line.path = declared := by
  simp only [noindexPaths, List.mem_map, List.mem_filter, decide_eq_true_eq,
    Line.directive?_eq_noindex_iff, and_assoc]

theorem permitsIndexing_eq_false_iff : group.permitsIndexing path = false ↔
    ∃ declared ∈ noindexPaths group.rules, pathCovers declared path = true := by
  rw [permitsIndexing, Bool.not_eq_false', List.any_eq_true]

/-- Where all noindex paths compile, a path is withheld by a line. -/
theorem permitsIndexing_eq_false_iff_withholds
    (compiles : ∀ declared ∈ noindexPaths group.rules,
      ∃ pattern, PathPattern.compile declared = .ok pattern) :
    group.permitsIndexing path = false ↔ ∃ line ∈ group.rules, line.Withholds path := by
  rw [permitsIndexing_eq_false_iff]
  constructor
  · rintro ⟨declared, named, covers⟩
    obtain ⟨pattern, compiled⟩ := compiles declared named
    obtain ⟨line, member, ⟨nonempty, noindex⟩, rfl⟩ := mem_noindexPaths_iff.mp named
    obtain rfl := PathPattern.eq_parse_of_compile compiled
    exact ⟨line, member, noindex, nonempty, _, compiled, covers⟩
  · rintro ⟨line, member, noindex, nonempty, pattern, compiled, covers⟩
    obtain rfl := PathPattern.eq_parse_of_compile compiled
    exact ⟨line.path, mem_noindexPaths_iff.mpr ⟨line, member, ⟨nonempty, noindex⟩, rfl⟩, covers⟩

theorem mem_noindexPaths_congr {other : Group}
    (same : ∀ line : Line, line.IsNoindex → (line ∈ group.rules ↔ line ∈ other.rules)) :
    declared ∈ noindexPaths group.rules ↔ declared ∈ noindexPaths other.rules := by
  rw [mem_noindexPaths_iff, mem_noindexPaths_iff]
  constructor
  · rintro ⟨line, member, ⟨nonempty, noindex⟩, rfl⟩
    exact ⟨line, (same line noindex).mp member, ⟨nonempty, noindex⟩, rfl⟩
  · rintro ⟨line, member, ⟨nonempty, noindex⟩, rfl⟩
    exact ⟨line, (same line noindex).mpr member, ⟨nonempty, noindex⟩, rfl⟩

end Group

namespace Config

/-- A configuration with other lines in one of its groups. -/
def withLines (config : Config) (place : Nat) (lines : List Line) : Config :=
  ⟨config.groups.modify place fun group => ⟨group.agents, lines⟩⟩

theorem Assigned.group?_withLines {config : Config} {identity : String} {occurrence : Occurrence}
    (assigned : config.Assigned identity occurrence) (lines : List Line) :
    (config.withLines occurrence.place lines).group? identity =
      some ⟨occurrence.group.agents, lines⟩ := by
  have unmoved : (config.withLines occurrence.place lines).place? identity =
      some occurrence.place := by
    rw [withLines, place?_modify]
    · exact assigned.place?_eq
    · exact fun _ => rfl
  rw [group?_eq_bind_place?, unmoved]
  simp [withLines, assigned.declared.group]

end Config

namespace Policy

variable {config : Config} {policy : Policy}

/-- A path is withheld from the index exactly by the noindex lines of the group that
applies; its other lines, and the order and repetition of lines, play no part. -/
theorem indexes_eq_false_iff (accepted : ofConfig config = .ok policy)
    (identity path : String) :
    (policy.indexes identity path = false ↔ ∃ occurrence, config.Assigned identity occurrence ∧
        ∃ line ∈ occurrence.group.rules, line.Withholds path) ∧
      ∀ occurrence, config.Assigned identity occurrence → ∀ lines changed,
        (∀ line : Line, line.IsNoindex → (line ∈ lines ↔ line ∈ occurrence.group.rules)) →
        ofConfig (config.withLines occurrence.place lines) = .ok changed →
          changed.indexes identity path = policy.indexes identity path := by
  constructor
  · rw [indexes_eq_elim_group? accepted, Config.group?_eq_map_occurrence?]
    simp only [← Config.occurrence?_eq_some_iff]
    cases chosen : config.occurrence? identity with
    | none => simp
    | some occurrence =>
        have declared := (Config.occurrence?_eq_some_iff.mp chosen).declared
        have compiles := exists_ofConfig_iff.mp ⟨policy, accepted⟩ occurrence.group
          (List.mem_of_getElem? declared.group)
        have withheld : occurrence.group.permitsIndexing path = false ↔
            ∃ line ∈ occurrence.group.rules, line.Withholds path :=
          Group.permitsIndexing_eq_false_iff_withholds
            fun declared named => compiles declared (List.mem_append_right _ named)
        simpa using withheld
  · intro occurrence assigned lines changed same acceptedChanged
    apply agreeOnIndexing_of_rel acceptedChanged accepted
    rw [assigned.group?_withLines, assigned.group?_eq]
    exact .some fun declared => Group.mem_noindexPaths_congr same

/-- The path is allowed too, and the noindex line comes twice and after a broader one. -/
theorem indexes_eq_false_beside_allow :
    ∃ config policy changed,
      config.groups = [⟨["*"], []⟩, ⟨["bot"],
        [⟨"noindex", "/b"⟩, ⟨"allow", "/b*c"⟩, ⟨" NoIndex", "/b*c"⟩, ⟨"noindex", ""⟩]⟩] ∧
      ofConfig config = .ok policy ∧
      ofConfig (config.withLines 1 [⟨" NoIndex", "/b*c"⟩, ⟨"disallow", "/"⟩, ⟨"noindex", ""⟩,
        ⟨"noindex", "/b"⟩, ⟨" NoIndex", "/b*c"⟩]) = .ok changed ∧
      policy.indexes "Bot/1" "/bc" = false ∧ changed.indexes "Bot/1" "/bc" = false := by
  let group : Group := ⟨["bot"],
    [⟨"noindex", "/b"⟩, ⟨"allow", "/b*c"⟩, ⟨" NoIndex", "/b*c"⟩, ⟨"noindex", ""⟩]⟩
  let config : Config := ⟨[⟨["*"], []⟩, group]⟩
  have accepted : ofConfig config = .ok _ := rfl
  have assigned : config.Assigned "Bot/1" ⟨1, 0, group, "bot"⟩ :=
    Config.occurrence?_eq_some_iff.mp (by decide +kernel)
  obtain ⟨withheld, kept⟩ := indexes_eq_false_iff accepted "Bot/1" "/bc"
  have denied := withheld.mpr ⟨_, assigned, ⟨" NoIndex", "/b*c"⟩, by decide, by decide, by decide,
    _, rfl, by decide⟩
  let lines : List Line := [⟨" NoIndex", "/b*c"⟩, ⟨"disallow", "/"⟩, ⟨"noindex", ""⟩,
    ⟨"noindex", "/b"⟩, ⟨" NoIndex", "/b*c"⟩]
  have back : ∀ line ∈ lines, line.IsNoindex → line ∈ group.rules := by decide
  have forth : ∀ line ∈ group.rules, line.IsNoindex → line ∈ lines := by decide
  have same (line : Line) (noindex : line.IsNoindex) : line ∈ lines ↔ line ∈ group.rules :=
    ⟨fun member => back line member noindex, fun member => forth line member noindex⟩
  have acceptedChanged : ofConfig (config.withLines 1 lines) = .ok _ := rfl
  exact ⟨config, _, _, rfl, accepted, acceptedChanged, denied,
    (kept _ assigned lines _ same acceptedChanged).trans denied⟩

end Policy

end RobotsExclusion
