import Mathlib.Data.List.Forall2
import RobotsExclusion.Proofs.SourceDecision

/-!
# Configurations in another order

The order of groups, of agents in a group and of lines in a group matters only where
the most specific items tie: among the declared agents that cover a crawler, and among
the access paths that cover a requested one.  Where tied items agree, reordering a
configuration changes no answer.
-/

namespace RobotsExclusion

section Ties

variable {α β γ : Type} {specificity : α → Nat} {otherSpecificity : β → Nat}
  {items : List α} {others : List β}

/-- No item of a list is more specific than this one. -/
def Leads (specificity : α → Nat) (items : List α) (item : α) : Prop :=
  ∀ rival ∈ items, specificity rival ≤ specificity item

/-- The most specific items of a list have the same outcome. -/
def TiesAgree (specificity : α → Nat) (outcome : α → γ) (items : List α) : Prop :=
  ∀ first ∈ items, ∀ second ∈ items, Leads specificity items first →
    Leads specificity items second → outcome first = outcome second

instance (specificity : α → Nat) (items : List α) (item : α) :
    Decidable (Leads specificity items item) :=
  inferInstanceAs (Decidable (∀ rival ∈ items, specificity rival ≤ specificity item))

instance [DecidableEq γ] (specificity : α → Nat) (outcome : α → γ) (items : List α) :
    Decidable (TiesAgree specificity outcome items) :=
  inferInstanceAs (Decidable (∀ first ∈ items, ∀ second ∈ items, Leads specificity items first →
    Leads specificity items second → outcome first = outcome second))

/-- Every item of either list is related to one of the other list. -/
structure Matching (related : α → β → Prop) (items : List α) (others : List β) : Prop where
  forth : ∀ item ∈ items, ∃ other ∈ others, related item other
  back : ∀ other ∈ others, ∃ item ∈ items, related item other

namespace Matching

variable {related : α → β → Prop}

private theorem exists_of_mem_forall₂ {item : α} (paired : List.Forall₂ related items others)
    (member : item ∈ items) : ∃ other ∈ others, related item other := by
  induction paired with
  | nil => exact absurd member List.not_mem_nil
  | @cons _ other _ _ twins _ ih =>
      rcases List.mem_cons.mp member with rfl | later
      · exact ⟨other, List.mem_cons_self, twins⟩
      · obtain ⟨twin, twinMember, twins⟩ := ih later
        exact ⟨twin, List.mem_cons_of_mem other twinMember, twins⟩

theorem of_forall₂ (paired : List.Forall₂ related items others) :
    Matching related items others :=
  ⟨fun _ => exists_of_mem_forall₂ paired, fun _ => exists_of_mem_forall₂ paired.flip⟩

theorem of_mem_iff {others : List α} (same : ∀ item, item ∈ items ↔ item ∈ others) :
    Matching Eq items others :=
  ⟨fun item member => ⟨item, (same item).mp member, rfl⟩,
    fun item member => ⟨item, (same item).mpr member, rfl⟩⟩

private theorem exists_of_mem_filter {keep : α → Bool} {otherKeep : β → Bool}
    (forth : ∀ item ∈ items, ∃ other ∈ others, related item other)
    (alike : ∀ item other, related item other → keep item = otherKeep other) :
    ∀ item ∈ items.filter keep, ∃ other ∈ others.filter otherKeep, related item other := by
  intro item member
  obtain ⟨member, kept⟩ := List.mem_filter.mp member
  obtain ⟨other, otherMember, twins⟩ := forth item member
  exact ⟨other, List.mem_filter.mpr ⟨otherMember, alike item other twins ▸ kept⟩, twins⟩

protected theorem filter {keep : α → Bool} {otherKeep : β → Bool}
    (matching : Matching related items others)
    (alike : ∀ item other, related item other → keep item = otherKeep other) :
    Matching related (items.filter keep) (others.filter otherKeep) :=
  ⟨exists_of_mem_filter matching.forth alike,
    exists_of_mem_filter matching.back fun other item twins => (alike item other twins).symm⟩

theorem leads {item : α} {other : β} (matching : Matching related items others)
    (alike : ∀ item other, related item other → specificity item = otherSpecificity other)
    (twins : related item other) (best : Leads otherSpecificity others other) :
    Leads specificity items item := by
  intro rival member
  obtain ⟨otherRival, otherMember, rivalTwins⟩ := matching.forth rival member
  calc
    specificity rival = otherSpecificity otherRival := alike rival otherRival rivalTwins
    _ ≤ otherSpecificity other := best otherRival otherMember
    _ = specificity item := (alike item other twins).symm

/-- Where ties agree, the item chosen from one list and a twin of the item chosen from
the other list have the same outcome. -/
theorem rel_mostSpecific? {outcome : α → γ} (matching : Matching related items others)
    (alike : ∀ item other, related item other → specificity item = otherSpecificity other)
    (agree : TiesAgree specificity outcome items) :
    Option.Rel (fun item other => ∃ twin, outcome twin = outcome item ∧ related twin other)
      (mostSpecific? specificity items) (mostSpecific? otherSpecificity others) := by
  cases chosen : mostSpecific? specificity items with
  | none =>
      have empty : others = [] := by
        apply List.eq_nil_iff_forall_not_mem.mpr
        intro other member
        obtain ⟨item, itemMember, -⟩ := matching.back other member
        rw [mostSpecific?_eq_none_iff.mp chosen] at itemMember
        exact List.not_mem_nil itemMember
      rw [empty]
      exact .none
  | some item =>
      have member := mem_of_mostSpecific? chosen
      cases otherChosen : mostSpecific? otherSpecificity others with
      | none =>
          obtain ⟨other, otherMember, -⟩ := matching.forth item member
          rw [mostSpecific?_eq_none_iff.mp otherChosen] at otherMember
          exact absurd otherMember List.not_mem_nil
      | some other =>
          -- A twin of the other choice need not be `item`, but it leads the items as well.
          obtain ⟨twin, twinMember, twins⟩ :=
            matching.back other (mem_of_mostSpecific? otherChosen)
          have twinLeads : Leads specificity items twin :=
            matching.leads alike twins fun _ => le_of_mostSpecific? otherChosen
          have leads : Leads specificity items item := fun _ => le_of_mostSpecific? chosen
          exact .some ⟨twin, agree twin twinMember item member twinLeads leads, twins⟩

end Matching

end Ties

namespace Group

/-- The same agents and the same lines, each in any order. -/
structure Reordered (group other : Group) : Prop where
  agents : group.agents.Perm other.agents
  rules : group.rules.Perm other.rules

/-- The most specific access paths that cover a path have the same outcome. -/
def Settles (group : Group) (path : String) : Prop :=
  TiesAgree pathSpecificity group.grants (group.covering path)

instance (group : Group) (path : String) : Decidable (group.Settles path) :=
  inferInstanceAs (Decidable (TiesAgree pathSpecificity group.grants (group.covering path)))

namespace Reordered

variable {group other : Group}

theorem mem_accessPaths_iff (reordered : group.Reordered other) {declared : String} :
    declared ∈ group.accessPaths ↔ declared ∈ other.accessPaths := by
  rw [Group.mem_accessPaths_iff, Group.mem_accessPaths_iff]
  exact ((reordered.rules.filter _).map _).mem_iff

theorem accessPaths_perm (reordered : group.Reordered other) :
    group.accessPaths.Perm other.accessPaths :=
  (List.perm_ext_iff_of_nodup group.nodup_accessPaths other.nodup_accessPaths).mpr
    fun _ => reordered.mem_accessPaths_iff

theorem noindexPaths_perm (reordered : group.Reordered other) :
    (noindexPaths group.rules).Perm (noindexPaths other.rules) :=
  (reordered.rules.filter _).map _

theorem mem_patternPaths_iff (reordered : group.Reordered other) {raw : String} :
    raw ∈ group.patternPaths ↔ raw ∈ other.patternPaths :=
  (reordered.accessPaths_perm.append reordered.noindexPaths_perm).mem_iff

theorem grants_eq (reordered : group.Reordered other) : group.grants = other.grants := by
  funext declared
  exact reordered.rules.any_eq

theorem permitsIndexing_eq (reordered : group.Reordered other) (path : String) :
    group.permitsIndexing path = other.permitsIndexing path := by
  rw [permitsIndexing, permitsIndexing, reordered.noindexPaths_perm.any_eq]

theorem excludes_eq (reordered : group.Reordered other) : group.excludes = other.excludes := by
  rw [excludes, excludes, reordered.accessPaths_perm.all_eq, reordered.grants_eq]

/-- Where ties agree, the order of the lines does not decide about access. -/
theorem permits_eq (reordered : group.Reordered other) {path : String}
    (settles : group.Settles path) : group.permits path = other.permits path := by
  have covering : Matching Eq (group.covering path) (other.covering path) :=
    .of_mem_iff fun _ => (reordered.accessPaths_perm.filter _).mem_iff
  have deciders : Option.Rel _ (group.decider? path) (other.decider? path) :=
    covering.rel_mostSpecific? (fun _ _ => congrArg pathSpecificity) settles
  rw [permits_eq_elim_decider?, permits_eq_elim_decider?, ← reordered.grants_eq]
  apply elim_eq_of_rel deciders
  rintro deciding _ _ ⟨_, same, rfl⟩
  exact same.symm

end Reordered

end Group

namespace Config

/-- The same groups in any order, each of them reordered. -/
def Reordered (config other : Config) : Prop :=
  ∃ groups, config.groups.Perm groups ∧ List.Forall₂ Group.Reordered groups other.groups

/-- The most specific declared agents that cover a crawler belong to one group. -/
def Settles (config : Config) (identity : String) : Prop :=
  TiesAgree (fun declaration => declaration.1.specificity) Prod.snd
    (config.declarations.filter fun declaration => declaration.1.covers identity)

instance (config : Config) (identity : String) : Decidable (config.Settles identity) :=
  inferInstanceAs (Decidable (TiesAgree (fun declaration => declaration.1.specificity) Prod.snd
    (config.declarations.filter fun declaration => declaration.1.covers identity)))

namespace Reordered

variable {config other : Config}

theorem groups (reordered : config.Reordered other) :
    Matching Group.Reordered config.groups other.groups := by
  obtain ⟨groups, moved, paired⟩ := reordered
  have matching := Matching.of_forall₂ paired
  constructor
  · intro group member
    exact matching.forth group (moved.mem_iff.mp member)
  · intro otherGroup member
    obtain ⟨group, groupMember, twins⟩ := matching.back otherGroup member
    exact ⟨group, moved.mem_iff.mpr groupMember, twins⟩

private theorem exists_declaration {related : Group → Group → Prop}
    (forth : ∀ group ∈ config.groups, ∃ twin ∈ other.groups, related group twin)
    (agents : ∀ group twin, related group twin → group.agents ⊆ twin.agents) :
    ∀ declaration ∈ config.declarations, ∃ twin ∈ other.declarations,
      declaration.1 = twin.1 ∧ related declaration.2 twin.2 := by
  intro declaration member
  obtain ⟨group, groupMember, member⟩ := List.mem_flatMap.mp member
  obtain ⟨name, nameMember, rfl⟩ := List.mem_map.mp member
  obtain ⟨twin, twinMember, twins⟩ := forth group groupMember
  have declared : (AgentPattern.ofName name, twin) ∈ other.declarations :=
    List.mem_flatMap.mpr
      ⟨twin, twinMember, List.mem_map_of_mem (agents group twin twins nameMember)⟩
  exact ⟨_, declared, rfl, twins⟩

theorem declarations (reordered : config.Reordered other) :
    Matching (fun declaration twin => declaration.1 = twin.1 ∧ declaration.2.Reordered twin.2)
      config.declarations other.declarations := by
  constructor
  · exact exists_declaration reordered.groups.forth fun _ _ twins => twins.agents.subset
  · intro twin member
    obtain ⟨declaration, declared, same, twins⟩ := exists_declaration reordered.groups.back
      (fun _ _ twins => twins.agents.symm.subset) twin member
    exact ⟨declaration, declared, same.symm, twins⟩

/-- The same group is selected, but for its order. -/
theorem rel_group? (reordered : config.Reordered other) {identity : String}
    (settles : config.Settles identity) :
    Option.Rel Group.Reordered (config.group? identity) (other.group? identity) := by
  have covering := reordered.declarations.filter
    (fun _ _ twins => congrArg (AgentPattern.covers · identity) twins.1)
  have chosen : Option.Rel _ (config.declaration? identity) (other.declaration? identity) :=
    covering.rel_mostSpecific?
      (fun _ _ twins => congrArg AgentPattern.specificity twins.1) settles
  rw [group?, group?]
  generalize config.declaration? identity = declaration? at chosen
  generalize other.declaration? identity = otherDeclaration? at chosen
  cases chosen with
  | none => exact .none
  | some agree =>
      obtain ⟨twin, same, -, twins⟩ := agree
      exact .some (same ▸ twins)

end Reordered

end Config

namespace Policy

variable {config other : Config}

/-- Reordering a configuration leaves it accepted or refused.  Where the most specific
agents that cover a crawler belong to one group, the answers to it stay the same, apart
from access to paths whose most specific access paths differ in outcome. -/
theorem agree_of_reordered (reordered : config.Reordered other) :
    ((∃ policy, ofConfig config = .ok policy) ↔ ∃ policy, ofConfig other = .ok policy) ∧
      ∀ first second, ofConfig config = .ok first → ofConfig other = .ok second →
        ∀ identity, config.Settles identity →
          first.disallowsAll identity = second.disallowsAll identity ∧
            ∀ path, first.indexes identity path = second.indexes identity path ∧
              ((∀ group, config.group? identity = some group → group.Settles path) →
                first.allows identity path = second.allows identity path) := by
  constructor
  · rw [exists_ofConfig_iff, exists_ofConfig_iff]
    constructor
    · intro compiles otherGroup member raw named
      obtain ⟨group, groupMember, twins⟩ := reordered.groups.back otherGroup member
      exact compiles group groupMember raw (twins.mem_patternPaths_iff.mpr named)
    · intro compiles group member raw named
      obtain ⟨otherGroup, otherMember, twins⟩ := reordered.groups.forth group member
      exact compiles otherGroup otherMember raw (twins.mem_patternPaths_iff.mp named)
  · intro first second accepted acceptedOther identity settles
    have selected := reordered.rel_group? settles
    refine ⟨?_, fun path => ⟨?_, fun agree => ?_⟩⟩
    · rw [disallowsAll_eq_elim_group? accepted, disallowsAll_eq_elim_group? acceptedOther]
      exact elim_eq_of_rel selected fun _ _ _ twins => twins.excludes_eq
    · rw [indexes_eq_elim_group? accepted, indexes_eq_elim_group? acceptedOther]
      exact elim_eq_of_rel selected fun _ _ _ twins => twins.permitsIndexing_eq path
    · rw [allows_eq_elim_group? accepted, allows_eq_elim_group? acceptedOther]
      exact elim_eq_of_rel selected fun _ _ applies twins => twins.permits_eq (agree _ applies)

/-- Equally specific paths change places, and the answers stay. -/
theorem agree_of_reordered_with_ties :
    ∃ config other first second,
      config.groups = [⟨["*"], []⟩, ⟨["bot", "b"],
        [⟨"disallow", "/a*"⟩, ⟨"noindex", "/a"⟩, ⟨"allow", "/"⟩, ⟨"disallow", "/*a"⟩]⟩] ∧
      other.groups = [⟨["b", "bot"],
        [⟨"disallow", "/*a"⟩, ⟨"allow", "/"⟩, ⟨"noindex", "/a"⟩, ⟨"disallow", "/a*"⟩]⟩,
        ⟨["*"], []⟩] ∧
      config.Reordered other ∧ ofConfig config = .ok first ∧ ofConfig other = .ok second ∧
      first.indexes "bot" "/a" = second.indexes "bot" "/a" ∧
      first.allows "bot" "/a" = second.allows "bot" "/a" := by
  let group : Group := ⟨["bot", "b"],
    [⟨"disallow", "/a*"⟩, ⟨"noindex", "/a"⟩, ⟨"allow", "/"⟩, ⟨"disallow", "/*a"⟩]⟩
  let reversed : Group := ⟨["b", "bot"],
    [⟨"disallow", "/*a"⟩, ⟨"allow", "/"⟩, ⟨"noindex", "/a"⟩, ⟨"disallow", "/a*"⟩]⟩
  let config : Config := ⟨[⟨["*"], []⟩, group]⟩
  let other : Config := ⟨[reversed, ⟨["*"], []⟩]⟩
  have reordered : config.Reordered other := by
    refine ⟨[group, ⟨["*"], []⟩], .swap _ _ _, .cons ⟨?_, ?_⟩ (.cons ⟨.refl _, .refl _⟩ .nil)⟩
    · decide
    · decide
  have selected : config.group? "bot" = some group := by decide +kernel
  have settles : config.Settles "bot" := by decide +kernel
  have settlesPath : group.Settles "/a" := by decide +kernel
  have agree := ((agree_of_reordered reordered).2 _ _ rfl rfl "bot" settles).2 "/a"
  refine ⟨config, other, _, _, rfl, rfl, reordered, rfl, rfl, agree.1, agree.2 ?_⟩
  intro applied same
  rw [selected] at same
  exact Option.some.inj same ▸ settlesPath

end Policy

end RobotsExclusion
