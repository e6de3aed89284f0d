import RobotsExclusion.Proofs.SourceDecision

/-!
# What an answer depends on

Which group applies to a crawler depends on the agent lists alone.  What may be fetched
then depends on the access lines of that group alone, and what may be indexed on the set
of its noindex paths.  Everything else in a configuration can be replaced.
-/

namespace RobotsExclusion

/-- The access lines in their order, each as its directive and its path. -/
def accessLines (lines : List Line) : List (Option Directive × String) :=
  (lines.filter fun line => line.directive?.any Directive.isAccess).map
    fun line => (line.directive?, line.path)

theorem map_snd_accessLines (lines : List Line) :
    (accessLines lines).map Prod.snd = accessMentions lines := by
  rw [accessLines, List.map_map]
  rfl

namespace Group

variable {group other : Group}

theorem grants_iff_mem_accessLines {declared : String} : group.grants declared = true ↔
    (some Directive.allow, declared) ∈ accessLines group.rules := by
  rw [grants_iff]
  constructor
  · rintro ⟨line, member, allows, rfl⟩
    have access := Line.isAccess_of_allow allows
    exact allows ▸ List.mem_map_of_mem (List.mem_filter.mpr ⟨member, access⟩)
  · intro member
    obtain ⟨line, lineMember, same⟩ := List.mem_map.mp member
    obtain ⟨allows, named⟩ := Prod.mk.inj same
    exact ⟨line, (List.mem_filter.mp lineMember).1, allows, named⟩

theorem accessPaths_congr (same : accessLines group.rules = accessLines other.rules) :
    group.accessPaths = other.accessPaths := by
  rw [accessPaths_eq_eraseDups, accessPaths_eq_eraseDups, ← map_snd_accessLines,
    ← map_snd_accessLines, same]

theorem grants_congr (same : accessLines group.rules = accessLines other.rules) :
    group.grants = other.grants := by
  funext declared
  rw [Bool.eq_iff_iff, grants_iff_mem_accessLines, grants_iff_mem_accessLines, same]

theorem excludes_congr (same : accessLines group.rules = accessLines other.rules) :
    group.excludes = other.excludes := by
  rw [excludes, excludes, accessPaths_congr same, grants_congr same]

/-- Neither the order nor the repetition of noindex lines counts. -/
theorem permitsIndexing_congr
    (same : ∀ declared, declared ∈ noindexPaths group.rules ↔ declared ∈ noindexPaths other.rules)
    (path : String) : group.permitsIndexing path = other.permitsIndexing path := by
  rw [permitsIndexing, permitsIndexing]
  congr 1
  rw [Bool.eq_iff_iff, List.any_eq_true, List.any_eq_true]
  simp only [same]

end Group

namespace Policy

/-- Two policies answer a crawler alike about fetching. -/
structure AgreeOnAccess (first second : Policy) (identity : String) : Prop where
  disallowsAll : first.disallowsAll identity = second.disallowsAll identity
  allows : ∀ path, first.allows identity path = second.allows identity path

/-- Two policies answer a crawler alike about indexing. -/
def AgreeOnIndexing (first second : Policy) (identity : String) : Prop :=
  ∀ path, first.indexes identity path = second.indexes identity path

variable {config other : Config} {first second : Policy} {identity : String}

theorem agreeOnAccess_of_rel (accepted : ofConfig config = .ok first)
    (acceptedOther : ofConfig other = .ok second)
    (same : Option.Rel (fun group otherGroup : Group =>
      accessLines group.rules = accessLines otherGroup.rules)
        (config.group? identity) (other.group? identity)) :
    first.AgreeOnAccess second identity := by
  constructor
  · rw [disallowsAll_eq_elim_group? accepted, disallowsAll_eq_elim_group? acceptedOther]
    exact elim_eq_of_rel same fun _ _ _ lines => Group.excludes_congr lines
  · intro path
    rw [allows_eq_elim_group? accepted, allows_eq_elim_group? acceptedOther]
    exact elim_eq_of_rel same fun _ _ _ lines =>
      Group.permits_congr (Group.accessPaths_congr lines) (Group.grants_congr lines) path

theorem agreeOnIndexing_of_rel (accepted : ofConfig config = .ok first)
    (acceptedOther : ofConfig other = .ok second)
    (same : Option.Rel (fun group otherGroup : Group => ∀ declared,
      declared ∈ noindexPaths group.rules ↔ declared ∈ noindexPaths otherGroup.rules)
        (config.group? identity) (other.group? identity)) :
    first.AgreeOnIndexing second identity := by
  intro path
  rw [indexes_eq_elim_group? accepted, indexes_eq_elim_group? acceptedOther]
  exact elim_eq_of_rel same fun _ _ _ paths => Group.permitsIndexing_congr paths path

/-- Policies for the same agent lists select the same agent of the same group, and their
answers depend on nothing but the access lines and the noindex paths of that group. -/
theorem agree_of_same_agents (accepted : ofConfig config = .ok first)
    (acceptedOther : ofConfig other = .ok second)
    (sameAgents : config.groups.map Group.agents = other.groups.map Group.agents)
    (identity : String) :
    config.placedAgent? identity = other.placedAgent? identity ∧
      (config.placedAgent? identity = none →
        first.group? identity = none ∧ second.group? identity = none ∧
          first.AgreeOnAccess second identity ∧ first.AgreeOnIndexing second identity) ∧
      ∀ agent place, config.placedAgent? identity = some (agent, place) →
        ∃ group otherGroup, config.groups[place]? = some group ∧
          other.groups[place]? = some otherGroup ∧
          first.group? identity = some (RuleGroup.ofDeclaration (agent, group)) ∧
          second.group? identity = some (RuleGroup.ofDeclaration (agent, otherGroup)) ∧
          (accessLines group.rules = accessLines otherGroup.rules →
            first.AgreeOnAccess second identity) ∧
          ((∀ declared, declared ∈ noindexPaths group.rules ↔
              declared ∈ noindexPaths otherGroup.rules) →
            first.AgreeOnIndexing second identity) := by
  have samePlaced := Config.placedAgent?_congr sameAgents identity
  refine ⟨samePlaced, ?_, ?_⟩
  · intro unplaced
    have undeclared := Config.declaration?_of_placedAgent?_eq_none unplaced
    have otherUndeclared := Config.declaration?_of_placedAgent?_eq_none (samePlaced ▸ unplaced)
    refine ⟨group?_eq_none accepted undeclared, group?_eq_none acceptedOther otherUndeclared,
      agreeOnAccess_of_rel accepted acceptedOther ?_,
      agreeOnIndexing_of_rel accepted acceptedOther ?_⟩ <;>
    · rw [Config.group?, Config.group?, undeclared, otherUndeclared]
      exact .none
  · intro agent place chosen
    obtain ⟨group, stands, declared⟩ := Config.exists_group_of_placedAgent? chosen
    obtain ⟨otherGroup, otherStands, otherDeclared⟩ :=
      Config.exists_group_of_placedAgent? (samePlaced ▸ chosen)
    refine ⟨group, otherGroup, stands, otherStands, group?_eq_ofDeclaration accepted declared,
      group?_eq_ofDeclaration acceptedOther otherDeclared, ?_, ?_⟩
    · intro lines
      apply agreeOnAccess_of_rel accepted acceptedOther
      rw [Config.group?, Config.group?, declared, otherDeclared]
      exact .some lines
    · intro paths
      apply agreeOnIndexing_of_rel accepted acceptedOther
      rw [Config.group?, Config.group?, declared, otherDeclared]
      exact .some paths

/-- Other groups, unknown directives, empty paths and repeated noindex lines play no part. -/
theorem agree_despite_other_lines :
    ∃ config other first second,
      config.groups = [⟨["*"], []⟩,
        ⟨["bot"], [⟨"disallow", "/a"⟩, ⟨"noindex", "/b"⟩, ⟨"allow", "/c"⟩]⟩] ∧
      other.groups = [⟨["*"], [⟨"disallow", "/"⟩]⟩,
        ⟨["bot"], [⟨"NoIndex", "/b"⟩, ⟨" DISALLOW", "/a"⟩, ⟨"crawl", "/"⟩, ⟨"allow", ""⟩,
          ⟨"Allow", "/c"⟩, ⟨"noindex", "/b"⟩]⟩] ∧
      ofConfig config = .ok first ∧ ofConfig other = .ok second ∧
      first.AgreeOnAccess second "Bot/1" ∧ first.AgreeOnIndexing second "Bot/1" := by
  let group : Group := ⟨["bot"], [⟨"disallow", "/a"⟩, ⟨"noindex", "/b"⟩, ⟨"allow", "/c"⟩]⟩
  let otherGroup : Group := ⟨["bot"], [⟨"NoIndex", "/b"⟩, ⟨" DISALLOW", "/a"⟩, ⟨"crawl", "/"⟩,
    ⟨"allow", ""⟩, ⟨"Allow", "/c"⟩, ⟨"noindex", "/b"⟩]⟩
  let config : Config := ⟨[⟨["*"], []⟩, group]⟩
  let other : Config := ⟨[⟨["*"], [⟨"disallow", "/"⟩]⟩, otherGroup]⟩
  have accepted : ofConfig config = .ok _ := rfl
  have acceptedOther : ofConfig other = .ok _ := rfl
  obtain ⟨-, -, agree⟩ := agree_of_same_agents accepted acceptedOther rfl "Bot/1"
  obtain ⟨_, _, stands, otherStands, -, -, access, indexing⟩ :=
    agree (AgentPattern.ofName "bot") 1 rfl
  obtain rfl : group = _ := Option.some.inj stands
  obtain rfl : otherGroup = _ := Option.some.inj otherStands
  refine ⟨config, other, _, _, rfl, rfl, accepted, acceptedOther, access (by decide),
    indexing ?_⟩
  have paths : noindexPaths group.rules = ["/b"] := by decide
  have otherPaths : noindexPaths otherGroup.rules = ["/b", "/b"] := by decide
  simp [paths, otherPaths]

end Policy

end RobotsExclusion
