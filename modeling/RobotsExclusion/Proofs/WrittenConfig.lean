import Mathlib.Data.List.Basic
import RobotsExclusion.Config.Loading
import RobotsExclusion.Config.Writing
import RobotsExclusion.Proofs.WrittenJson

/-!
# Loading a written configuration

The document of a configuration is read field by field, and each field is found where it
was written.  Its top-level name is a plain one, so it sets up the same document.  A
configuration written as JSON is therefore loaded back, with a warning for each group
that declares no agents.
-/

namespace RobotsExclusion

namespace Config

namespace Reader

variable {α : Type} {item : Reader α} {write : α → Document}

theorem items_map (reads : ∀ place value, item place (write value) = .ok value)
    (place : List Step) (position : Nat) (values : List α) :
    items item place position (values.map write) = .ok values := by
  induction values generalizing position with
  | nil => rfl
  | cons value rest ih =>
      rw [List.map_cons, items, reads, ih]
      rfl

theorem sequence_list (reads : ∀ place value, item place (write value) = .ok value)
    (place : List Step) (values : List α) :
    sequence item place (.list (values.map write)) = .ok values :=
  items_map reads place 0 values

theorem text_text (place : List Step) (content : String) :
    text place (.text content) = .ok content :=
  rfl

theorem field_of_field? {name : String} {position : Nat} {default : α} {value : Reader α}
    {place : List Step} {document inner : Document} {step : Step}
    (found : document.field? name position = some (step, inner)) :
    field name position default value place document = value (place ++ [step]) inner := by
  rw [field, found]

theorem line_toDocument (place : List Step) (written : Line) :
    line place written.toDocument = .ok written :=
  rfl

theorem group_toDocument (place : List Step) (written : Group) :
    group place written.toDocument = .ok written := by
  have agents : written.toDocument.field? "agents" 0 =
      some (.key "agents", .list (written.agents.map .text)) := rfl
  have rules : written.toDocument.field? "rules" 1 =
      some (.key "rules", .list (written.rules.map Line.toDocument)) := rfl
  have record : written.toDocument.isRecord = true := rfl
  rw [group, if_pos record, field_of_field? agents, field_of_field? rules,
    sequence_list text_text, sequence_list line_toDocument]
  rfl

end Reader

/-- The top-level name `groups` is a path of one step, so the document is set up as it is. -/
theorem ofEntries_groups (groups : List Document) :
    Document.ofEntries [("groups", .list groups)] = .table [("groups", .list groups)] := by
  have path : KeyPath.ofName "groups" = [.key "groups"] := rfl
  simp [Document.ofEntries, Document.enter, path, Document.update, Document.entries,
    Document.overlay, Keyed.put]

theorem ofRoot_toDocument (config : Config) : ofRoot config.toDocument = .ok config := by
  have groups : config.toDocument.field? "groups" 0 =
      some (.key "groups", .list (config.groups.map Group.toDocument)) := rfl
  have read : ofDocument config.toDocument = .ok config := by
    rw [ofDocument, Reader.field_of_field? groups, Reader.sequence_list Reader.group_toDocument]
    rfl
  rw [toDocument, ofRoot, ofEntries_groups]
  exact read

/-- Texts in lines in lists in groups in a list in a table: five levels of nesting. -/
theorem plain_toDocument (config : Config) : Json.Plain 5 config.toDocument := by
  have line (written : Line) : Json.Plain 1 written.toDocument := by
    refine .table (by simp) ?_
    intro entry member
    rcases List.mem_pair.mp member with rfl | rfl <;> exact .text 0 _
  have group (written : Group) : Json.Plain 3 written.toDocument := by
    refine .table (by simp) ?_
    intro entry member
    rcases List.mem_pair.mp member with rfl | rfl
    · refine .list fun item itemMember => ?_
      obtain ⟨name, -, rfl⟩ := List.mem_map.mp itemMember
      exact .text 1 name
    · refine .list fun item itemMember => ?_
      obtain ⟨written, -, rfl⟩ := List.mem_map.mp itemMember
      exact line written
  refine .table (by simp) ?_
  intro entry member
  obtain rfl := List.mem_singleton.mp member
  refine .list fun item itemMember => ?_
  obtain ⟨written, -, rfl⟩ := List.mem_map.mp itemMember
  exact group written

theorem ofText_toJson (config : Config) : ofText .json config.toJson = .ok config := by
  have parsed : Format.parse? .json config.toJson = some config.toDocument :=
    Json.parse?_write config.plain_toDocument (by decide)
  rw [ofText, parsed]
  simp only [ofRoot_toDocument]

section Warnings

variable {config : Config} {place : Nat}

theorem mem_unusedGroups_iff : place ∈ config.unusedGroups ↔
    ∃ group, config.groups[place]? = some group ∧ group.agents = [] := by
  simp only [unusedGroups, List.mem_map, List.mem_filter, List.isEmpty_iff]
  constructor
  · rintro ⟨entry, ⟨member, unused⟩, rfl⟩
    exact ⟨entry.1, List.mem_zipIdx_iff_getElem?.mp member, unused⟩
  · rintro ⟨group, stands, unused⟩
    exact ⟨(group, place), ⟨List.mem_zipIdx_iff_getElem?.mpr stands, unused⟩, rfl⟩

theorem unusedGroups_pairwise (config : Config) : config.unusedGroups.Pairwise (· < ·) := by
  have kept : (config.groups.zipIdx.filter fun entry => entry.1.agents.isEmpty).Sublist
      config.groups.zipIdx := List.filter_sublist
  have places : config.unusedGroups.Sublist (config.groups.zipIdx.map Prod.snd) := kept.map _
  refine List.Pairwise.sublist places ?_
  rw [List.zipIdx_map_snd]
  exact List.pairwise_lt_range'

end Warnings

/-- A configuration written as JSON is loaded as it was, with one warning for each group
that declares no agents, in the order of the groups. -/
theorem load_toJson (config : Config) :
    ∃ places : List Nat,
      load .json config.toJson = .ok (config, places.map fun place =>
        "Group declares no agents and will never match group=" ++ toString place) ∧
      places.Pairwise (· < ·) ∧
      ∀ place, place ∈ places ↔
        ∃ group, config.groups[place]? = some group ∧ group.agents = [] := by
  refine ⟨config.unusedGroups, ?_, config.unusedGroups_pairwise, fun _ => mem_unusedGroups_iff⟩
  rw [load, ofText_toJson]
  rfl

example : (load .json (toJson ⟨[⟨[], []⟩, ⟨["\x01\"\\"], [⟨"", "/é\x08"⟩]⟩]⟩)).toOption =
    some (⟨[⟨[], []⟩, ⟨["\x01\"\\"], [⟨"", "/é\x08"⟩]⟩]⟩,
      ["Group declares no agents and will never match group=0"]) := by
  decide +kernel

end Config

end RobotsExclusion
