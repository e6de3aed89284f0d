import RobotsExclusion.Config.Decision
import RobotsExclusion.Proofs.Ranking

/-!
# The place of the group that applies

Which group applies to a crawler depends on the agent lists alone.  Its place among
the groups of a configuration is therefore shared by all configurations with the
same agent lists, whatever the lines of their groups are.
-/

namespace RobotsExclusion

/-- What is read off related selections agrees where it agrees on related items. -/
theorem elim_eq_of_rel {α β γ : Type} {related : α → β → Prop} {left : Option α}
    {right : Option β} {default : γ} {read : α → γ} {otherRead : β → γ}
    (selected : Option.Rel related left right)
    (agree : ∀ item other, left = some item → related item other → read item = otherRead other) :
    left.elim default read = right.elim default otherRead := by
  cases selected with
  | none => rfl
  | some twins => exact agree _ _ rfl twins

namespace Config

/-- The group that applies to a crawler. -/
def group? (config : Config) (identity : String) : Option Group :=
  (config.declaration? identity).map Prod.snd

/-- The declared agents with the places of their groups, in source order. -/
def placedAgents (config : Config) : List (AgentPattern × Nat) :=
  (config.groups.map Group.agents).zipIdx.flatMap fun entry =>
    entry.1.map fun name => (AgentPattern.ofName name, entry.2)

/-- The declared agent that applies to a crawler, with the place of its group. -/
def placedAgent? (config : Config) (identity : String) : Option (AgentPattern × Nat) :=
  mostSpecific? (fun placed => placed.1.specificity)
    (config.placedAgents.filter fun placed => placed.1.covers identity)

/-- The place of the group that applies to a crawler. -/
def place? (config : Config) (identity : String) : Option Nat :=
  (config.placedAgent? identity).map Prod.snd

variable {config other : Config} {identity : String}

theorem placedAgent?_congr
    (same : config.groups.map Group.agents = other.groups.map Group.agents)
    (identity : String) : config.placedAgent? identity = other.placedAgent? identity := by
  rw [placedAgent?, placedAgent?, placedAgents, placedAgents, same]

theorem place?_congr (same : config.groups.map Group.agents = other.groups.map Group.agents) :
    config.place? identity = other.place? identity := by
  rw [place?, place?, placedAgent?_congr same]

theorem place?_modify (place : Nat) {change : Group → Group}
    (keeps : ∀ group, (change group).agents = group.agents) (identity : String) :
    (Config.mk (config.groups.modify place change)).place? identity = config.place? identity := by
  apply place?_congr
  apply List.ext_getElem?
  intro index
  simp only [List.getElem?_map, List.getElem?_modify]
  cases config.groups[index]? with
  | none => rfl
  | some group => by_cases here : place = index <;> simp [here, keeps]

private def placedDeclarations (config : Config) : List (AgentPattern × Group × Nat) :=
  config.groups.zipIdx.flatMap fun entry =>
    entry.1.agents.map fun name => (AgentPattern.ofName name, entry)

private theorem map_placedDeclarations_group (config : Config) :
    config.placedDeclarations.map (fun placed => (placed.1, placed.2.1)) =
      config.declarations := by
  have groups : config.groups = config.groups.zipIdx.map Prod.fst := by simp
  rw [placedDeclarations, declarations, groups, List.flatMap_map, List.map_flatMap, ← groups]
  simp only [List.map_map, Function.comp_def]

private theorem map_placedDeclarations_place (config : Config) :
    config.placedDeclarations.map (fun placed => (placed.1, placed.2.2)) =
      config.placedAgents := by
  rw [placedDeclarations, placedAgents, List.zipIdx_map, List.flatMap_map, List.map_flatMap]
  simp only [List.map_map, Function.comp_def]
  rfl

private theorem getElem?_of_mem_placedDeclarations {placed : AgentPattern × Group × Nat}
    (member : placed ∈ config.placedDeclarations) :
    config.groups[placed.2.2]? = some placed.2.1 := by
  obtain ⟨entry, entryMember, member⟩ := List.mem_flatMap.mp member
  obtain ⟨name, -, rfl⟩ := List.mem_map.mp member
  exact List.mem_zipIdx_iff_getElem?.mp entryMember

/-- The selected agent applies with the group at its place. -/
theorem declaration?_eq_bind_placedAgent? (config : Config) (identity : String) :
    config.declaration? identity = (config.placedAgent? identity).bind fun placed =>
      config.groups[placed.2]?.map fun group => (placed.1, group) := by
  rw [declaration?, placedAgent?, ← map_placedDeclarations_group, ← map_placedDeclarations_place,
    List.filter_map, List.filter_map, mostSpecific?_map, mostSpecific?_map]
  simp only [Function.comp_def]
  cases chosen : mostSpecific? (fun placed => placed.1.specificity)
      (config.placedDeclarations.filter fun placed => placed.1.covers identity) with
  | none => rfl
  | some placed =>
      have member := (List.mem_filter.mp (mem_of_mostSpecific? chosen)).1
      simp [getElem?_of_mem_placedDeclarations member]

theorem group?_eq_bind_place? (config : Config) (identity : String) :
    config.group? identity =
      (config.place? identity).bind fun place => config.groups[place]? := by
  rw [group?, declaration?_eq_bind_placedAgent?, place?]
  cases config.placedAgent? identity with
  | none => rfl
  | some placed => cases found : config.groups[placed.2]? <;> simp [found]

theorem declaration?_of_placedAgent?_eq_none (unplaced : config.placedAgent? identity = none) :
    config.declaration? identity = none := by
  rw [declaration?_eq_bind_placedAgent?, unplaced]
  rfl

theorem exists_group_of_placedAgent? {agent : AgentPattern} {place : Nat}
    (chosen : config.placedAgent? identity = some (agent, place)) :
    ∃ group, config.groups[place]? = some group ∧
      config.declaration? identity = some (agent, group) := by
  have member := (List.mem_filter.mp (mem_of_mostSpecific? chosen)).1
  rw [← map_placedDeclarations_place] at member
  obtain ⟨placed, placedMember, same⟩ := List.mem_map.mp member
  obtain ⟨-, rfl⟩ := Prod.mk.inj same
  have stands := getElem?_of_mem_placedDeclarations placedMember
  refine ⟨placed.2.1, stands, ?_⟩
  simp [declaration?_eq_bind_placedAgent?, chosen, stands]

theorem permits_eq_elim_group? (config : Config) (identity path : String) :
    config.permits identity path =
      (config.group? identity).elim true fun group => group.permits path := by
  rw [permits, group?]
  cases config.declaration? identity <;> rfl

theorem permits_eq_elim_place? (config : Config) (identity path : String) :
    config.permits identity path =
      ((config.place? identity).bind fun place => config.groups[place]?).elim true
        fun group => group.permits path := by
  rw [permits_eq_elim_group?, group?_eq_bind_place?]

end Config

end RobotsExclusion
