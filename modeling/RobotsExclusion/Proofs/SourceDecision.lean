import RobotsExclusion.Proofs.CompiledPolicy
import RobotsExclusion.Proofs.Selection

/-!
# Policies answer as their configurations say

The first rule group that covers a crawler is the one of the most specific declared
agent, and the first rule that covers a path is the one of the most specific
declared path.  So a policy answers as is read off its configuration, where nothing
is compiled or ranked.
-/

namespace RobotsExclusion

namespace Group

def covering (group : Group) (path : String) : List String :=
  group.accessPaths.filter fun declared => pathCovers declared path

/-- The access path that decides about a requested path. -/
def decider? (group : Group) (path : String) : Option String :=
  mostSpecific? pathSpecificity (group.covering path)

variable {group : Group} {path declared deciding : String}

theorem mem_covering_iff :
    declared ∈ group.covering path ↔
      declared ∈ group.accessPaths ∧ pathCovers declared path = true :=
  List.mem_filter

theorem mem_covering_of_decider? (chosen : group.decider? path = some deciding) :
    deciding ∈ group.covering path :=
  mem_of_mostSpecific? chosen

theorem exists_decider_of_mem_covering (member : declared ∈ group.covering path) :
    ∃ deciding, group.decider? path = some deciding := by
  rw [← Option.ne_none_iff_exists']
  intro none
  rw [mostSpecific?_eq_none_iff.mp none] at member
  exact List.not_mem_nil member

theorem permits_eq_elim_decider? (group : Group) (path : String) :
    group.permits path = (group.decider? path).elim true group.grants := by
  simp only [permits, decider?, covering]
  cases mostSpecific? pathSpecificity
    (group.accessPaths.filter fun declared => pathCovers declared path) <;> rfl

/-- Only the access paths and their outcomes count. -/
theorem permits_congr {other : Group} (paths : group.accessPaths = other.accessPaths)
    (outcomes : group.grants = other.grants) (path : String) :
    group.permits path = other.permits path := by
  simp only [permits, paths, outcomes]

theorem exists_decider_of_permits_eq_false (denied : group.permits path = false) :
    ∃ deciding, group.decider? path = some deciding ∧ group.grants deciding = false := by
  rw [permits_eq_elim_decider?] at denied
  cases chosen : group.decider? path with
  | none => simp [chosen] at denied
  | some deciding => exact ⟨deciding, rfl, by simpa [chosen] using denied⟩

end Group

namespace Rule

theorem outcome_accessRules (group : Group) (path : String) :
    outcome (mostSpecificFirst specificity group.accessRules) path = group.permits path := by
  have covering : (mostSpecificFirst specificity group.accessRules).find?
      (fun rule => rule.pattern.covers path) =
        (group.decider? path).map
          fun declared => ⟨PathPattern.parse declared, group.grants declared⟩ := by
    rw [find?_mostSpecificFirst, Group.accessRules, List.filter_map, mostSpecific?_map]
    rfl
  rw [outcome, covering, Group.permits_eq_elim_decider?]
  cases group.decider? path <;> rfl

/-- Where every rule forbids, the order of the rules does not matter. -/
theorem outcome_of_forbidding {rules : List Rule} (path : String)
    (forbids : ∀ rule ∈ rules, rule.allow = false) :
    outcome rules path = !rules.any fun rule => rule.pattern.covers path := by
  rw [outcome]
  cases found : rules.find? fun rule => rule.pattern.covers path with
  | none =>
      have uncovered : (rules.any fun rule => rule.pattern.covers path) = false := by
        simpa using List.find?_eq_none.mp found
      rw [uncovered]
      rfl
  | some rule =>
      have member : rule ∈ rules := List.mem_of_find?_eq_some found
      have covers : rule.pattern.covers path = true := by
        simpa using List.find?_some found
      have covered : (rules.any fun rule => rule.pattern.covers path) = true :=
        List.any_eq_true.mpr ⟨rule, member, covers⟩
      rw [covered]
      exact forbids rule member

theorem outcome_indexingRules (group : Group) (path : String) :
    outcome (mostSpecificFirst specificity group.indexingRules) path =
      group.permitsIndexing path := by
  have ranked := mostSpecificFirst_perm specificity group.indexingRules
  have forbids : ∀ rule ∈ mostSpecificFirst specificity group.indexingRules,
      rule.allow = false := by
    intro rule member
    obtain ⟨declared, -, rfl⟩ := List.mem_map.mp (ranked.mem_iff.mp member)
    rfl
  rw [outcome_of_forbidding path forbids, ranked.any_eq, Group.indexingRules, List.any_map]
  rfl

end Rule

namespace RuleGroup

def ofDeclaration (declaration : AgentPattern × Group) : RuleGroup :=
  ⟨declaration.1, mostSpecificFirst Rule.specificity declaration.2.accessRules,
    mostSpecificFirst Rule.specificity declaration.2.indexingRules⟩

theorem disallowsAll_ofDeclaration (declaration : AgentPattern × Group) :
    (ofDeclaration declaration).disallowsAll = declaration.2.excludes := by
  have ranked := mostSpecificFirst_perm Rule.specificity declaration.2.accessRules
  rw [disallowsAll, ofDeclaration, ranked.any_eq, Group.accessRules, List.any_map,
    List.not_any_eq_all_not, Group.excludes]
  congr 1
  funext declared
  have narrow : decide (PathPattern.rootSpecificity < pathSpecificity declared) =
      !decide (pathSpecificity declared ≤ PathPattern.rootSpecificity) := by
    rw [← decide_not]
    exact decide_eq_decide.mpr Nat.not_le.symm
  change (!(declaration.2.grants declared ||
    decide (PathPattern.rootSpecificity < pathSpecificity declared))) = _
  rw [narrow, Bool.not_or, Bool.not_not]

end RuleGroup

namespace Config

theorem flatMap_ruleGroups (config : Config) :
    config.groups.flatMap Group.ruleGroups =
      config.declarations.map RuleGroup.ofDeclaration := by
  rw [declarations, List.map_flatMap]
  congr 1
  funext group
  rw [List.map_map]
  rfl

end Config

namespace Policy

variable {config : Config} {policy : Policy}

theorem group?_eq_map_declaration? (accepted : ofConfig config = .ok policy)
    (identity : String) :
    policy.group? identity = (config.declaration? identity).map RuleGroup.ofDeclaration := by
  rw [group?, groups_of_ofConfig accepted, find?_mostSpecificFirst,
    Config.flatMap_ruleGroups, List.filter_map, mostSpecific?_map]
  rfl

theorem group?_eq_none (accepted : ofConfig config = .ok policy) {identity : String}
    (undeclared : config.declaration? identity = none) : policy.group? identity = none := by
  rw [group?_eq_map_declaration? accepted, undeclared]
  rfl

theorem group?_eq_ofDeclaration (accepted : ofConfig config = .ok policy) {identity : String}
    {declaration : AgentPattern × Group}
    (declared : config.declaration? identity = some declaration) :
    policy.group? identity = some (RuleGroup.ofDeclaration declaration) := by
  rw [group?_eq_map_declaration? accepted, declared]
  rfl

theorem allows_eq_elim_group? (accepted : ofConfig config = .ok policy)
    (identity path : String) :
    policy.allows identity path =
      (config.group? identity).elim true fun group => group.permits path := by
  rw [allows, group?_eq_map_declaration? accepted, Config.group?]
  cases config.declaration? identity with
  | none => rfl
  | some declaration => exact Rule.outcome_accessRules declaration.2 path

theorem indexes_eq_elim_group? (accepted : ofConfig config = .ok policy)
    (identity path : String) :
    policy.indexes identity path =
      (config.group? identity).elim true fun group => group.permitsIndexing path := by
  rw [indexes, group?_eq_map_declaration? accepted, Config.group?]
  cases config.declaration? identity with
  | none => rfl
  | some declaration => exact Rule.outcome_indexingRules declaration.2 path

theorem disallowsAll_eq_elim_group? (accepted : ofConfig config = .ok policy)
    (identity : String) :
    policy.disallowsAll identity = (config.group? identity).elim false Group.excludes := by
  rw [disallowsAll, group?_eq_map_declaration? accepted, Config.group?]
  cases config.declaration? identity with
  | none => rfl
  | some declaration => exact RuleGroup.disallowsAll_ofDeclaration declaration

/-- A policy allows what its configuration permits. -/
theorem allows_eq_permits (accepted : ofConfig config = .ok policy)
    (identity path : String) :
    policy.allows identity path = config.permits identity path := by
  rw [allows, group?_eq_map_declaration? accepted, Config.permits]
  cases config.declaration? identity with
  | none => rfl
  | some declaration => exact Rule.outcome_accessRules declaration.2 path

theorem allows_eq_permits_on_ties :
    ∃ config policy, ofConfig config = .ok policy ∧
      policy.allows "Bot/1" "/a" = config.permits "Bot/1" "/a" ∧
        config.permits "Bot/1" "/a" = false := by
  let config : Config :=
    ⟨[⟨["*", "bot"], [⟨" Disallow ", "/a*"⟩, ⟨"allow", "/*a"⟩, ⟨"crawl", "/"⟩]⟩,
      ⟨["bot"], [⟨"allow", "/a"⟩]⟩]⟩
  exact ⟨config, _, rfl, allows_eq_permits rfl "Bot/1" "/a", by decide +kernel⟩

end Policy

end RobotsExclusion
