import RobotsExclusion.Proofs.SourceDecision

/-!
# The agent that a crawler is assigned to

Each declared agent stands at a position in the agent list of a group.  Of those that
cover a crawler the most specific ones compete, and the one that stands first in source
order wins.  A policy looks for the first covering agent of its ranking, and arrives at
the rules of that very declaration.
-/

namespace RobotsExclusion

namespace Text

theorem lowerLetter_ne_nil (c : Char) : lowerLetter c ≠ [] := by
  unfold lowerLetter
  split
  · simp
  · split <;> simp

theorem lowercaseAfter_eq_nil_iff {before text : List Char} :
    lowercaseAfter before text = [] ↔ text = [] := by
  cases text with
  | nil => simp [lowercaseAfter]
  | cons c after =>
      by_cases sigma : c = 'Σ' <;> simp [lowercaseAfter, sigma, lowerLetter_ne_nil]

end Text

namespace AgentPattern

/-- Without its padding the name of a wildcard is `*` or empty. -/
def NamesEveryone (name : String) : Prop :=
  Text.trim name.toList = [] ∨ Text.trim name.toList = ['*']

theorem isWildcard_ofName_iff {name : String} :
    (ofName name).isWildcard = true ↔ NamesEveryone name := by
  simp only [ofName, NamesEveryone, isWildcard, List.isEmpty_iff]
  split <;> simp_all

theorem token_ofName_of_not_namesEveryone {name : String} (narrow : ¬ NamesEveryone name) :
    (ofName name).token = some (Text.lowercase (Text.trim name.toList)) := by
  have plain : ¬ ((Text.trim name.toList).isEmpty ∨ Text.trim name.toList = ['*']) := by
    simpa [NamesEveryone] using narrow
  simp only [ofName, if_neg plain]

variable {agent other : AgentPattern} {identity : String}

theorem specificity_of_isWildcard (wide : agent.isWildcard = true) : agent.specificity = 0 := by
  have tokenless : agent.token = none := by simpa [isWildcard] using wide
  simp [specificity, tokenless]

theorem covers_of_isWildcard (wide : agent.isWildcard = true) (identity : String) :
    agent.covers identity = true := by
  have tokenless : agent.token = none := by simpa [isWildcard] using wide
  simp [covers, coversLowered, tokenless]

theorem covers_iff_infix {token : List Char} (tokened : agent.token = some token) :
    agent.covers identity = true ↔ token <:+: Text.lowercase identity.toList := by
  simp only [covers, coversLowered, tokened]
  rw [Text.occursIn_iff]
  simp only [List.IsInfix, eq_comm]

theorem covers_congr (same : agent.token = other.token) :
    agent.covers identity = other.covers identity := by
  simp only [covers, coversLowered, same]

theorem specificity_congr (same : agent.token = other.token) :
    agent.specificity = other.specificity := by
  simp only [specificity, same]

end AgentPattern

/-- A declared agent where it stands: the place of its group, and its position in the
agent list of the group. -/
structure Occurrence where
  place : Nat
  position : Nat
  group : Group
  name : String
  deriving DecidableEq

namespace Occurrence

def agent (occurrence : Occurrence) : AgentPattern :=
  AgentPattern.ofName occurrence.name

/-- Source order goes by groups first, and by positions within a group. -/
def Precedes (first second : Occurrence) : Prop :=
  first.place < second.place ∨ first.place = second.place ∧ first.position < second.position

theorem Precedes.asymm {first second : Occurrence} (before : first.Precedes second) :
    ¬ second.Precedes first := by
  unfold Precedes at *
  omega

end Occurrence

namespace Config

structure Declares (config : Config) (occurrence : Occurrence) : Prop where
  group : config.groups[occurrence.place]? = some occurrence.group
  name : occurrence.group.agents[occurrence.position]? = some occurrence.name

/-- The declaration that applies to a crawler. -/
structure Assigned (config : Config) (identity : String) (occurrence : Occurrence) : Prop where
  declared : config.Declares occurrence
  covers : occurrence.agent.covers identity = true
  mostSpecific : ∀ rival, config.Declares rival → rival.agent.covers identity = true →
    rival.agent.specificity ≤ occurrence.agent.specificity
  earliest : ∀ rival, config.Declares rival → rival.agent.covers identity = true →
    rival.agent.specificity = occurrence.agent.specificity → ¬ rival.Precedes occurrence

def occurrences (config : Config) : List Occurrence :=
  config.groups.zipIdx.flatMap fun entry =>
    entry.1.agents.zipIdx.map fun named => ⟨entry.2, named.2, entry.1, named.1⟩

variable {config : Config} {identity : String} {occurrence : Occurrence}

theorem mem_occurrences_iff : occurrence ∈ config.occurrences ↔ config.Declares occurrence := by
  simp only [occurrences, List.mem_flatMap, List.mem_map]
  constructor
  · rintro ⟨entry, entryMember, named, namedMember, rfl⟩
    exact ⟨List.mem_zipIdx_iff_getElem?.mp entryMember, List.mem_zipIdx_iff_getElem?.mp namedMember⟩
  · intro declared
    exact ⟨(occurrence.group, occurrence.place),
      List.mem_zipIdx_iff_getElem?.mpr declared.group, (occurrence.name, occurrence.position),
      List.mem_zipIdx_iff_getElem?.mpr declared.name, rfl⟩

private theorem zipIdx_pairwise {α : Type} (items : List α) :
    items.zipIdx.Pairwise fun first second => first.2 < second.2 := by
  have positions : (items.zipIdx.map Prod.snd).Pairwise (· < ·) := by
    rw [List.zipIdx_map_snd]
    exact List.pairwise_lt_range'
  exact List.pairwise_map.mp positions

theorem occurrences_pairwise (config : Config) :
    config.occurrences.Pairwise Occurrence.Precedes := by
  rw [occurrences, List.pairwise_flatMap]
  constructor
  · intro entry _
    rw [List.pairwise_map]
    exact (zipIdx_pairwise _).imp fun less => .inr ⟨rfl, less⟩
  · refine (zipIdx_pairwise config.groups).imp fun less first firstMember second secondMember => ?_
    obtain ⟨_, -, rfl⟩ := List.mem_map.mp firstMember
    obtain ⟨_, -, rfl⟩ := List.mem_map.mp secondMember
    exact .inl less

theorem map_occurrences_group (config : Config) :
    config.occurrences.map (fun occurrence => (occurrence.agent, occurrence.group)) =
      config.declarations := by
  have agents (group : Group) : group.agents = group.agents.zipIdx.map Prod.fst := by simp
  have groups : config.groups = config.groups.zipIdx.map Prod.fst := by simp
  rw [occurrences, declarations, List.map_flatMap, groups, List.flatMap_map, ← groups]
  congr 1
  funext entry
  rw [List.map_map, agents entry.1, List.map_map, ← agents entry.1]
  rfl

theorem map_occurrences_place (config : Config) :
    config.occurrences.map (fun occurrence => (occurrence.agent, occurrence.place)) =
      config.placedAgents := by
  have agents (group : Group) : group.agents = group.agents.zipIdx.map Prod.fst := by simp
  rw [occurrences, placedAgents, List.zipIdx_map, List.map_flatMap, List.flatMap_map]
  congr 1
  funext entry
  change _ = entry.1.agents.map fun name => (AgentPattern.ofName name, entry.2)
  rw [List.map_map, agents entry.1, List.map_map, ← agents entry.1]
  rfl

/-- The first of the most specific declarations that cover a crawler. -/
def occurrence? (config : Config) (identity : String) : Option Occurrence :=
  mostSpecific? (fun occurrence => occurrence.agent.specificity)
    (config.occurrences.filter fun occurrence => occurrence.agent.covers identity)

theorem occurrence?_eq_some_iff :
    config.occurrence? identity = some occurrence ↔ config.Assigned identity occurrence := by
  have ordered := config.occurrences_pairwise.filter
    fun occurrence => occurrence.agent.covers identity
  rw [occurrence?, mostSpecific?_eq_some_iff Occurrence.Precedes.asymm ordered]
  simp only [List.mem_filter, mem_occurrences_iff, and_imp]
  constructor
  · rintro ⟨⟨declared, covers⟩, most, first⟩
    exact ⟨declared, covers, most, first⟩
  · rintro ⟨declared, covers, most, first⟩
    exact ⟨⟨declared, covers⟩, most, first⟩

theorem occurrence?_eq_none_iff : config.occurrence? identity = none ↔
    ∀ occurrence, config.Declares occurrence → occurrence.agent.covers identity = false := by
  rw [occurrence?, mostSpecific?_eq_none_iff, List.filter_eq_nil_iff]
  simp only [mem_occurrences_iff, Bool.not_eq_true]

theorem declaration?_eq_map_occurrence? (config : Config) (identity : String) :
    config.declaration? identity = (config.occurrence? identity).map
      fun occurrence => (occurrence.agent, occurrence.group) := by
  rw [declaration?, ← map_occurrences_group, List.filter_map, mostSpecific?_map]
  rfl

theorem group?_eq_map_occurrence? (config : Config) (identity : String) :
    config.group? identity = (config.occurrence? identity).map Occurrence.group := by
  rw [group?, declaration?_eq_map_occurrence?, Option.map_map]
  rfl

theorem place?_eq_map_occurrence? (config : Config) (identity : String) :
    config.place? identity = (config.occurrence? identity).map Occurrence.place := by
  rw [place?, placedAgent?, ← map_occurrences_place, List.filter_map, mostSpecific?_map,
    Option.map_map]
  rfl

namespace Assigned

theorem group?_eq (assigned : config.Assigned identity occurrence) :
    config.group? identity = some occurrence.group := by
  rw [group?_eq_map_occurrence?, occurrence?_eq_some_iff.mpr assigned]
  rfl

theorem place?_eq (assigned : config.Assigned identity occurrence) :
    config.place? identity = some occurrence.place := by
  rw [place?_eq_map_occurrence?, occurrence?_eq_some_iff.mpr assigned]
  rfl

/-- A wildcard applies only where no name is found in the identity. -/
theorem not_infix_of_namesEveryone (assigned : config.Assigned identity occurrence)
    (wide : AgentPattern.NamesEveryone occurrence.name) {rival : Occurrence}
    (declared : config.Declares rival) (narrow : ¬ AgentPattern.NamesEveryone rival.name) :
    ¬ Text.lowercase (Text.trim rival.name.toList) <:+: Text.lowercase identity.toList := by
  intro found
  have tokened := AgentPattern.token_ofName_of_not_namesEveryone narrow
  have covers := (AgentPattern.covers_iff_infix tokened).mpr found
  have atMost := assigned.mostSpecific rival declared covers
  have empty : Text.lowercase (Text.trim rival.name.toList) = [] := by
    have least := AgentPattern.specificity_of_isWildcard
      (AgentPattern.isWildcard_ofName_iff.mpr wide)
    rw [Occurrence.agent, Occurrence.agent, least] at atMost
    simpa [AgentPattern.specificity, tokened] using atMost
  exact narrow (.inl (Text.lowercaseAfter_eq_nil_iff.mp empty))

/-- A token that an earlier group declares is taken. -/
theorem not_repeated {earlier : Occurrence} (declared : config.Declares earlier)
    (before : earlier.place < occurrence.place)
    (repeated : occurrence.agent.token = earlier.agent.token) :
    ¬ config.Assigned identity occurrence := by
  intro assigned
  have covers : earlier.agent.covers identity = true := by
    rw [← AgentPattern.covers_congr repeated]
    exact assigned.covers
  have tie := AgentPattern.specificity_congr repeated
  exact assigned.earliest earlier declared covers tie.symm (.inl before)

end Assigned

end Config

namespace Policy

variable {config : Config} {policy : Policy} {identity : String}

/-- In an accepted configuration every group has its ranked rules. -/
theorem compiled_of_mem_groups (accepted : ofConfig config = .ok policy) {group : Group}
    (member : group ∈ config.groups) :
    RuleGroup.compileAccess group = .ok (mostSpecificFirst Rule.specificity group.accessRules) ∧
      RuleGroup.compileIndexing group =
        .ok (mostSpecificFirst Rule.specificity group.indexingRules) := by
  have compiles := exists_ofConfig_iff.mp ⟨policy, accepted⟩ group member
  have access : firstRefusal group.accessPaths = none :=
    firstRefusal_eq_none_iff.mpr fun raw named => compiles raw (List.mem_append_left _ named)
  have indexing : firstRefusal (noindexPaths group.rules) = none :=
    firstRefusal_eq_none_iff.mpr fun raw named => compiles raw (List.mem_append_right _ named)
  rw [RuleGroup.compileAccess_eq, RuleGroup.compileIndexing_eq, access, indexing]
  exact ⟨rfl, rfl⟩

theorem group?_eq_map_occurrence? (accepted : ofConfig config = .ok policy) (identity : String) :
    policy.group? identity = (config.occurrence? identity).map
      fun occurrence => RuleGroup.ofDeclaration (occurrence.agent, occurrence.group) := by
  rw [group?_eq_map_declaration? accepted, Config.declaration?_eq_map_occurrence?, Option.map_map]
  rfl

/-- The rule group of a crawler is that of the declaration it is assigned to, with the
rules compiled from the group where that declaration stands.  A wildcard applies only
where no name is found in the identity, and a name that an earlier group declares never. -/
theorem group?_iff_assigned (accepted : ofConfig config = .ok policy) (identity : String) :
    (policy.group? identity = none ↔
        ∀ occurrence, config.Declares occurrence → occurrence.agent.covers identity = false) ∧
      (∀ compiled, policy.group? identity = some compiled ↔
        ∃ occurrence access indexing, config.Assigned identity occurrence ∧
          RuleGroup.compileAccess occurrence.group = .ok access ∧
          RuleGroup.compileIndexing occurrence.group = .ok indexing ∧
          compiled = ⟨occurrence.agent, access, indexing⟩) ∧
      (∀ occurrence, config.Assigned identity occurrence →
        AgentPattern.NamesEveryone occurrence.name → ∀ rival, config.Declares rival →
          ¬ AgentPattern.NamesEveryone rival.name →
            ¬ Text.lowercase (Text.trim rival.name.toList) <:+: Text.lowercase identity.toList) ∧
      ∀ earlier later, config.Declares earlier → config.Declares later →
        earlier.place < later.place → later.agent.token = earlier.agent.token →
          ¬ config.Assigned identity later := by
  have selected := group?_eq_map_occurrence? accepted identity
  have compiles (occurrence : Occurrence) (declared : config.Declares occurrence) :=
    compiled_of_mem_groups accepted (List.mem_of_getElem? declared.group)
  refine ⟨?_, ?_, ?_, ?_⟩
  · rw [selected, Option.map_eq_none_iff]
    exact Config.occurrence?_eq_none_iff
  · intro compiled
    rw [selected, Option.map_eq_some_iff]
    constructor
    · rintro ⟨occurrence, chosen, rfl⟩
      have assigned := Config.occurrence?_eq_some_iff.mp chosen
      obtain ⟨access, indexing⟩ := compiles occurrence assigned.declared
      exact ⟨occurrence, _, _, assigned, access, indexing, rfl⟩
    · rintro ⟨occurrence, _, _, assigned, access, indexing, rfl⟩
      refine ⟨occurrence, Config.occurrence?_eq_some_iff.mpr assigned, ?_⟩
      obtain ⟨ownAccess, ownIndexing⟩ := compiles occurrence assigned.declared
      obtain rfl := Except.ok.inj (access.symm.trans ownAccess)
      obtain rfl := Except.ok.inj (indexing.symm.trans ownIndexing)
      rfl
  · intro occurrence assigned wide rival declared narrow
    exact assigned.not_infix_of_namesEveryone wide declared narrow
  · intro earlier later declared _ before repeated
    exact Config.Assigned.not_repeated declared before repeated

/-- Two groups declare the name that fits best, and others a part of it or everyone. -/
theorem group?_of_overlapping_names :
    ∃ config policy compiled,
      config.groups = [⟨["*"], [⟨"disallow", "/"⟩]⟩, ⟨["bot", " "], []⟩,
        ⟨["bot", "GoogleBot"], [⟨"disallow", "/a"⟩]⟩, ⟨[" googlebot"], []⟩] ∧
      ofConfig config = .ok policy ∧ policy.group? "Googlebot/2.1" = some compiled ∧
      compiled.agent.source = "GoogleBot" ∧ compiled.access.length = 1 ∧
      ¬ config.Assigned "Googlebot/2.1" ⟨3, 0, ⟨[" googlebot"], []⟩, " googlebot"⟩ := by
  let group : Group := ⟨["bot", "GoogleBot"], [⟨"disallow", "/a"⟩]⟩
  let config : Config :=
    ⟨[⟨["*"], [⟨"disallow", "/"⟩]⟩, ⟨["bot", " "], []⟩, group, ⟨[" googlebot"], []⟩]⟩
  have accepted : ofConfig config = .ok _ := rfl
  have assigned : config.Assigned "Googlebot/2.1" ⟨2, 1, group, "GoogleBot"⟩ :=
    Config.occurrence?_eq_some_iff.mp (by decide +kernel)
  obtain ⟨-, selected, -, taken⟩ := group?_iff_assigned accepted "Googlebot/2.1"
  refine ⟨config, _, _, rfl, accepted,
    (selected _).mpr ⟨_, _, _, assigned, rfl, rfl, rfl⟩, by decide +kernel, rfl, ?_⟩
  exact taken ⟨2, 1, group, "GoogleBot"⟩ ⟨3, 0, ⟨[" googlebot"], []⟩, " googlebot"⟩
    ⟨rfl, rfl⟩ ⟨rfl, rfl⟩ (by decide) (by decide +kernel)

end Policy

end RobotsExclusion
