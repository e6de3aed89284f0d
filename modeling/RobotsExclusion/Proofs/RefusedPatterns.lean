import RobotsExclusion.Proofs.Independence

/-!
# When a configuration is refused

A configuration is refused because of one of its patterns.  The patterns are compiled
group by group, in each group the access paths by first mention and then the noindex
paths, and the first refusal is reported.  A line that says nothing has no pattern.
-/

namespace RobotsExclusion

namespace Line

/-- A line says something: its directive is known and its path is not empty. -/
def IsEffective (line : Line) : Prop :=
  (Directive.ofName? line.rule).isSome ∧ line.path ≠ ""

instance (line : Line) : Decidable line.IsEffective :=
  inferInstanceAs (Decidable ((Directive.ofName? line.rule).isSome ∧ line.path ≠ ""))

theorem isEffective_iff {line : Line} : line.IsEffective ↔ line.directive?.isSome := by
  by_cases empty : line.path = "" <;> simp [IsEffective, directive?, empty]

/-- An access directive or noindex. -/
theorem isEffective_iff_access_or_noindex {line : Line} : line.IsEffective ↔
    line.directive?.any Directive.isAccess = true ∨ line.directive? = some .noindex := by
  rw [isEffective_iff]
  cases read : line.directive? with
  | none => simp
  | some directive => cases directive <;> simp [Directive.isAccess]

end Line

namespace Group

/-- A group without the lines that say nothing. -/
def withoutIdleLines (group : Group) : Group :=
  ⟨group.agents, group.rules.filter fun line => line.IsEffective⟩

theorem accessLines_withoutIdleLines (group : Group) :
    accessLines group.withoutIdleLines.rules = accessLines group.rules := by
  simp only [accessLines, withoutIdleLines, List.filter_filter]
  congr 1
  apply List.filter_congr
  intro line _
  rw [Bool.and_eq_left_iff_imp, decide_eq_true_eq]
  exact fun access => Line.isEffective_iff_access_or_noindex.mpr (.inl access)

theorem noindexPaths_withoutIdleLines (group : Group) :
    noindexPaths group.withoutIdleLines.rules = noindexPaths group.rules := by
  simp only [noindexPaths, withoutIdleLines, List.filter_filter]
  congr 1
  apply List.filter_congr
  intro line _
  rw [Bool.and_eq_left_iff_imp, decide_eq_true_eq, decide_eq_true_eq]
  exact fun noindex => Line.isEffective_iff_access_or_noindex.mpr (.inr noindex)

theorem patternPaths_withoutIdleLines (group : Group) :
    group.withoutIdleLines.patternPaths = group.patternPaths := by
  rw [patternPaths, patternPaths, accessPaths_congr group.accessLines_withoutIdleLines,
    group.noindexPaths_withoutIdleLines]

theorem ruleGroups_withoutIdleLines (group : Group) :
    group.withoutIdleLines.ruleGroups = group.ruleGroups := by
  have access : group.withoutIdleLines.accessRules = group.accessRules := by
    rw [accessRules, accessRules, accessPaths_congr group.accessLines_withoutIdleLines,
      grants_congr group.accessLines_withoutIdleLines]
  have indexing : group.withoutIdleLines.indexingRules = group.indexingRules := by
    rw [indexingRules, indexingRules, group.noindexPaths_withoutIdleLines]
  rw [ruleGroups, ruleGroups, access, indexing]
  rfl

/-- A pattern is compiled for exactly the paths of the lines that say something. -/
theorem mem_patternPaths_iff {group : Group} {raw : String} : raw ∈ group.patternPaths ↔
    ∃ line ∈ group.rules, line.IsEffective ∧ line.path = raw := by
  rw [patternPaths, List.mem_append, mem_accessPaths_iff]
  simp only [accessMentions, noindexPaths, List.mem_map, List.mem_filter, decide_eq_true_eq,
    Line.isEffective_iff_access_or_noindex]
  constructor
  · rintro (⟨line, ⟨member, access⟩, rfl⟩ | ⟨line, ⟨member, noindex⟩, rfl⟩)
    · exact ⟨line, member, .inl access, rfl⟩
    · exact ⟨line, member, .inr noindex, rfl⟩
  · rintro ⟨line, member, access | noindex, rfl⟩
    · exact .inl ⟨line, ⟨member, access⟩, rfl⟩
    · exact .inr ⟨line, ⟨member, noindex⟩, rfl⟩

end Group

namespace Config

def withoutIdleLines (config : Config) : Config :=
  ⟨config.groups.map Group.withoutIdleLines⟩

/-- The paths whose patterns are compiled for a configuration, in this order. -/
def patternPaths (config : Config) : List String :=
  config.groups.flatMap fun group => group.accessPaths ++ noindexPaths group.rules

theorem mem_patternPaths_iff {config : Config} {raw : String} : raw ∈ config.patternPaths ↔
    ∃ group ∈ config.groups, ∃ line ∈ group.rules, line.IsEffective ∧ line.path = raw := by
  rw [patternPaths, List.mem_flatMap]
  exact exists_congr fun _ => and_congr_right fun _ => Group.mem_patternPaths_iff

end Config

section Refusals

variable {paths : List String} {error : PatternError}

/-- The first refused path gives the error. -/
theorem firstRefusal_eq_some_iff : firstRefusal paths = some error ↔
    ∃ earlier raw later, paths = earlier ++ raw :: later ∧
      (∀ path ∈ earlier, ∃ pattern, PathPattern.compile path = .ok pattern) ∧
        PathPattern.compile raw = .error error := by
  rw [firstRefusal, List.findSome?_eq_some_iff]
  simp only [← firstRefusal_eq_none_iff, firstRefusal, List.findSome?_eq_none_iff]
  constructor
  · rintro ⟨earlier, raw, later, split, refused, compiles⟩
    refine ⟨earlier, raw, later, split, compiles, ?_⟩
    cases compiled : PathPattern.compile raw <;> simp_all
  · rintro ⟨earlier, raw, later, split, compiles, refused⟩
    exact ⟨earlier, raw, later, split, by simp [refused], compiles⟩

theorem exists_firstRefusal_iff : (∃ error, firstRefusal paths = some error) ↔
    ∃ raw ∈ paths, ∃ error, PathPattern.compile raw = .error error := by
  rw [← Option.isSome_iff_exists, firstRefusal, List.findSome?_isSome_iff]
  apply exists_congr
  intro raw
  cases PathPattern.compile raw <;> simp

theorem unlessRefused_eq_error_iff {α : Type} {refusal : Option PatternError} {value : α} :
    unlessRefused refusal value = .error error ↔ refusal = some error := by
  cases refusal <;> simp [unlessRefused]

end Refusals

namespace Policy

theorem ofConfig_eq_error_iff {config : Config} {error : PatternError} :
    ofConfig config = .error error ↔ firstRefusal config.patternPaths = some error := by
  rw [ofConfig_eq, unlessRefused_eq_error_iff]
  rfl

theorem ofConfig_withoutIdleLines (config : Config) :
    ofConfig config.withoutIdleLines = ofConfig config := by
  rw [ofConfig_eq, ofConfig_eq, Config.withoutIdleLines]
  simp only [List.flatMap_map, Group.patternPaths_withoutIdleLines,
    Group.ruleGroups_withoutIdleLines]

/-- A configuration is refused exactly when some line that says something has a path whose
pattern is refused.  All other lines can be left out.  The error is that of the first
refused path, in the order in which the patterns are compiled. -/
theorem refused_iff (config : Config) :
    ((∃ error, ofConfig config = .error error) ↔
      ∃ group ∈ config.groups, ∃ line ∈ group.rules, line.IsEffective ∧
        ∃ error, PathPattern.compile line.path = .error error) ∧
    ofConfig config.withoutIdleLines = ofConfig config ∧
    ∀ error, ofConfig config = .error error ↔ ∃ earlier raw later,
      config.patternPaths = earlier ++ raw :: later ∧
        (∀ path ∈ earlier, ∃ pattern, PathPattern.compile path = .ok pattern) ∧
          PathPattern.compile raw = .error error := by
  refine ⟨?_, ofConfig_withoutIdleLines config, fun error => ?_⟩
  · simp only [ofConfig_eq_error_iff, exists_firstRefusal_iff, Config.mem_patternPaths_iff]
    constructor
    · rintro ⟨raw, ⟨group, groupMember, line, member, effective, rfl⟩, refused⟩
      exact ⟨group, groupMember, line, member, effective, refused⟩
    · rintro ⟨group, groupMember, line, member, effective, refused⟩
      exact ⟨line.path, ⟨group, groupMember, line, member, effective, rfl⟩, refused⟩
  · rw [ofConfig_eq_error_iff, firstRefusal_eq_some_iff]

end Policy

end RobotsExclusion
