import RobotsExclusion.Proofs.AccessTable
import RobotsExclusion.Proofs.PathLanguage
import RobotsExclusion.Proofs.Ranking
import RobotsExclusion.Policy

/-!
# What a compiled policy holds

Every stage of the compiler yields a value that is known beforehand, unless one of
the patterns it compiles is refused.  So each stage is described by the paths whose
patterns it compiles, in order, and by the value: an access rule for each access
path, an indexing rule for each noindex line, a rule group for each declared agent.
-/

namespace RobotsExclusion

section Refusals

/-- The error of the first path whose pattern is refused. -/
def firstRefusal (paths : List String) : Option PatternError :=
  paths.findSome? fun raw =>
    match PathPattern.compile raw with
    | .error error => some error
    | .ok _ => none

/-- A value, unless there is a refusal to report instead. -/
def unlessRefused {α : Type} (refusal : Option PatternError) (value : α) :
    Except PatternError α :=
  match refusal with
  | some error => .error error
  | none => .ok value

variable {α β : Type} {refusal : Option PatternError} {value result : α}

theorem firstRefusal_append (earlier later : List String) :
    firstRefusal (earlier ++ later) = (firstRefusal earlier).or (firstRefusal later) :=
  List.findSome?_append

theorem firstRefusal_eq_none_iff {paths : List String} : firstRefusal paths = none ↔
    ∀ raw ∈ paths, ∃ pattern, PathPattern.compile raw = .ok pattern := by
  rw [firstRefusal, List.findSome?_eq_none_iff]
  apply forall₂_congr
  intro raw _
  cases PathPattern.compile raw <;> simp

theorem unlessRefused_eq_ok_iff :
    unlessRefused refusal value = .ok result ↔ refusal = none ∧ value = result := by
  cases refusal <;> simp [unlessRefused]

@[simp]
theorem map_unlessRefused (function : α → β) (refusal : Option PatternError) (value : α) :
    (unlessRefused refusal value).map function = unlessRefused refusal (function value) := by
  cases refusal <;> rfl

end Refusals

namespace Rule

/-- The rule for a path with a known outcome, however large its pattern is. -/
def ofEntry (entry : String × Bool) : Rule :=
  ⟨PathPattern.parse entry.1, entry.2⟩

theorem compile_eq (path : String) (allow : Bool) :
    compile path allow = unlessRefused (firstRefusal [path]) (ofEntry (path, allow)) := by
  rw [compile, firstRefusal, List.findSome?_singleton]
  cases compiled : PathPattern.compile path with
  | error error => rfl
  | ok pattern =>
      rw [PathPattern.eq_parse_of_compile compiled]
      rfl

theorem compileAll_eq (entries : List (String × Bool)) :
    compileAll entries =
      unlessRefused (firstRefusal (entries.map Prod.fst)) (entries.map ofEntry) := by
  induction entries with
  | nil => rfl
  | cons entry rest ih =>
      obtain ⟨path, allow⟩ := entry
      have split : firstRefusal (((path, allow) :: rest).map Prod.fst) =
          (firstRefusal [path]).or (firstRefusal (rest.map Prod.fst)) :=
        firstRefusal_append [path] _
      unfold compileAll
      simp only [compile_eq, ih, map_unlessRefused]
      rw [split]
      cases firstRefusal [path] <;> rfl

end Rule

namespace Group

/-- The access rules of a group, by first mention of their paths. -/
def accessRules (group : Group) : List Rule :=
  group.accessPaths.map fun declared => ⟨PathPattern.parse declared, group.grants declared⟩

/-- The indexing rules of a group, line by line. -/
def indexingRules (group : Group) : List Rule :=
  (noindexPaths group.rules).map fun declared => ⟨PathPattern.parse declared, false⟩

/-- The paths whose patterns are compiled for a group, in this order. -/
def patternPaths (group : Group) : List String :=
  group.accessPaths ++ noindexPaths group.rules

def ruleGroups (group : Group) : List RuleGroup :=
  group.agents.map fun name =>
    ⟨AgentPattern.ofName name, mostSpecificFirst Rule.specificity group.accessRules,
      mostSpecificFirst Rule.specificity group.indexingRules⟩

end Group

namespace RuleGroup

theorem compileAccess_eq (group : Group) :
    compileAccess group = unlessRefused (firstRefusal group.accessPaths)
      (mostSpecificFirst Rule.specificity group.accessRules) := by
  rw [compileAccess, AccessTable.ofLines_eq_accessTable, Rule.compileAll_eq,
    map_unlessRefused, Group.map_fst_accessTable, Group.accessTable, List.map_map]
  rfl

theorem compileIndexing_eq (group : Group) :
    compileIndexing group = unlessRefused (firstRefusal (noindexPaths group.rules))
      (mostSpecificFirst Rule.specificity group.indexingRules) := by
  rw [compileIndexing, Rule.compileAll_eq, map_unlessRefused, List.map_map, List.map_map]
  congr 2
  exact List.map_id _

theorem ofGroup_eq (group : Group) :
    ofGroup group = unlessRefused (firstRefusal group.patternPaths) group.ruleGroups := by
  simp only [ofGroup, compileAccess_eq, compileIndexing_eq, map_unlessRefused]
  rw [Group.patternPaths, firstRefusal_append]
  cases firstRefusal group.accessPaths <;> rfl

theorem ofGroups_eq (groups : List Group) :
    ofGroups groups = unlessRefused (firstRefusal (groups.flatMap Group.patternPaths))
      (groups.flatMap Group.ruleGroups) := by
  induction groups with
  | nil => rfl
  | cons group rest ih =>
      simp only [ofGroups, ofGroup_eq, ih, map_unlessRefused]
      rw [List.flatMap_cons, List.flatMap_cons, firstRefusal_append]
      cases firstRefusal group.patternPaths <;> rfl

end RuleGroup

namespace Policy

/-- A configuration compiles to its ranked rule groups, unless one of its patterns
is refused. -/
theorem ofConfig_eq (config : Config) :
    ofConfig config = unlessRefused (firstRefusal (config.groups.flatMap Group.patternPaths))
      ⟨mostSpecificFirst RuleGroup.specificity (config.groups.flatMap Group.ruleGroups)⟩ := by
  rw [ofConfig, RuleGroup.ofGroups_eq, map_unlessRefused]

/-- A configuration is accepted when no group names a path whose pattern is refused. -/
theorem exists_ofConfig_iff {config : Config} : (∃ policy, ofConfig config = .ok policy) ↔
    ∀ group ∈ config.groups, ∀ raw ∈ group.patternPaths,
      ∃ pattern, PathPattern.compile raw = .ok pattern := by
  simp only [ofConfig_eq, unlessRefused_eq_ok_iff, exists_and_left, exists_eq', and_true,
    firstRefusal_eq_none_iff]
  constructor
  · intro compiles group member raw named
    exact compiles raw (List.mem_flatMap.mpr ⟨group, member, named⟩)
  · intro compiles raw named
    obtain ⟨group, member, named⟩ := List.mem_flatMap.mp named
    exact compiles group member raw named

variable {config : Config} {policy : Policy}

theorem groups_of_ofConfig (accepted : ofConfig config = .ok policy) :
    policy.groups =
      mostSpecificFirst RuleGroup.specificity (config.groups.flatMap Group.ruleGroups) := by
  rw [ofConfig_eq] at accepted
  rw [← (unlessRefused_eq_ok_iff.mp accepted).2]

theorem mem_groups_of_ofConfig (accepted : ofConfig config = .ok policy)
    {compiled : RuleGroup} (member : compiled ∈ policy.groups) :
    ∃ group ∈ config.groups, compiled ∈ group.ruleGroups := by
  rw [groups_of_ofConfig accepted] at member
  exact List.mem_flatMap.mp ((mostSpecificFirst_perm _ _).mem_iff.mp member)

/-- Every compiled group carries the ranked rules of a group of the configuration. -/
theorem rules_of_mem_groups (accepted : ofConfig config = .ok policy)
    {compiled : RuleGroup} (member : compiled ∈ policy.groups) :
    ∃ group ∈ config.groups,
      compiled.access = mostSpecificFirst Rule.specificity group.accessRules ∧
        compiled.indexing = mostSpecificFirst Rule.specificity group.indexingRules := by
  obtain ⟨group, source, member⟩ := mem_groups_of_ofConfig accepted member
  obtain ⟨name, -, rfl⟩ := List.mem_map.mp member
  exact ⟨group, source, rfl, rfl⟩

end Policy

end RobotsExclusion
