import RobotsExclusion.Proofs.WrittenConfig
import RobotsExclusion.Proofs.WrittenToml

/-!
# One configuration in two notations

A configuration written as TOML is an array of tables, which is read back as the document
that its JSON form stands for.  Without groups the TOML text is empty and says nothing about
groups, which comes to the same.  So both texts load the same configuration.
-/

namespace RobotsExclusion

namespace Line

open Toml in
def tomlEntries (line : Line) : List WrittenEntry :=
  [⟨"rule", writeText line.rule, .text line.rule⟩, ⟨"path", writeText line.path, .text line.path⟩]

theorem denotes_toToml (line : Line) : Toml.Denotes 1 line.toToml line.toDocument := by
  have rule : Toml.IsBareName "rule" := by decide
  have path : Toml.IsBareName "path" := by decide
  have written : Toml.Denotes 1
      (Toml.writeInlineTable (line.tomlEntries.map Toml.WrittenEntry.text))
      (.table (line.tomlEntries.map Toml.WrittenEntry.field)) := by
    refine Toml.denotes_writeInlineTable (by simp [tomlEntries]) (by simp [tomlEntries]) ?_
    intro entry member
    rcases List.mem_pair.mp member with rfl | rfl
    · exact ⟨rule, Toml.denotes_writeText 0 _⟩
    · exact ⟨path, Toml.denotes_writeText 0 _⟩
  exact written

end Line

namespace Group

open Toml in
def tomlEntries (group : Group) : List WrittenEntry :=
  [⟨"agents", writeArray (group.agents.map writeText), .list (group.agents.map .text)⟩,
    ⟨"rules", writeArray (group.rules.map Line.toToml), .list (group.rules.map Line.toDocument)⟩]

theorem toToml_eq_tableText (group : Group) :
    group.toToml = Toml.tableText "groups" group.tomlEntries := by
  have header : "[[groups]]\n".toList = Toml.headerText "groups" := by decide
  have pieces : group.toToml = Toml.headerText "groups" ++
      Toml.writeEntry "agents" (Toml.writeArray (group.agents.map Toml.writeText)) ++
        '\n' :: Toml.writeEntry "rules" (Toml.writeArray (group.rules.map Line.toToml)) ++
          ['\n'] := by
    rw [← header]
    rfl
  rw [pieces]
  simp only [Toml.tableText, tomlEntries, Toml.WrittenEntry.text, List.flatMap_cons,
    List.flatMap_nil, List.append_assoc, List.cons_append, List.nil_append]

theorem writable_tomlEntries (groups : List Group) :
    Toml.Writable 2 (groups.map tomlEntries) := by
  have agents : Toml.IsBareName "agents" := by decide
  have rules : Toml.IsBareName "rules" := by decide
  intro entries member
  obtain ⟨group, -, rfl⟩ := List.mem_map.mp member
  refine ⟨by simp [tomlEntries], ?_⟩
  intro entry member
  rcases List.mem_pair.mp member with rfl | rfl
  · exact ⟨agents, Toml.denotes_writeArray fun name _ => Toml.denotes_writeText 1 name⟩
  · exact ⟨rules, Toml.denotes_writeArray fun line _ => line.denotes_toToml⟩

end Group

namespace Config

theorem toToml_eq_tables (config : Config) : config.toToml =
    String.ofList ((config.groups.map Group.tomlEntries).flatMap (Toml.tableText "groups")) := by
  rw [toToml, List.flatMap_map, funext Group.toToml_eq_tableText]

theorem parse?_toToml (config : Config) : Toml.parse? config.toToml =
    some (.table (if config.groups.isEmpty then [] else config.toDocument.entries)) := by
  have bare : Toml.IsBareName "groups" := by decide
  rw [toToml_eq_tables,
    Toml.parse?_tables bare (Group.writable_tomlEntries config.groups) (by decide)]
  simp only [Toml.arrayEntries, List.map_map, List.isEmpty_map]
  rfl

theorem ofText_toToml (config : Config) : ofText .toml config.toToml = .ok config := by
  have parsed : Format.parse? .toml config.toToml = _ := config.parse?_toToml
  rw [ofText, parsed]
  cases empty : config.groups.isEmpty with
  | true =>
      have none : config = ⟨[]⟩ := by
        rw [← List.isEmpty_iff.mp empty]
      rw [none]
      rfl
  | false =>
      have read : ofRoot (.table config.toDocument.entries) = .ok config := config.ofRoot_toDocument
      simp [read]

/-- A configuration loads alike from its TOML form and from its JSON form, with the same
warnings, so the policies that are made from the two texts are the same. -/
theorem load_toToml (config : Config) :
    load .toml config.toToml = .ok (config, config.warnings) ∧
      load .json config.toJson = .ok (config, config.warnings) ∧
      (load .toml config.toToml).map (fun loaded => Policy.ofConfig loaded.1) =
        (load .json config.toJson).map (fun loaded => Policy.ofConfig loaded.1) := by
  have fromToml : load .toml config.toToml = .ok (config, config.warnings) := by
    rw [load, ofText_toToml]
    rfl
  have fromJson : load .json config.toJson = .ok (config, config.warnings) := by
    rw [load, ofText_toJson]
    rfl
  exact ⟨fromToml, fromJson, by rw [fromToml, fromJson]⟩

example : toToml ⟨[⟨["a", ""], [⟨"allow", "/\"\x7f"⟩]⟩, ⟨[], []⟩]⟩ =
    "[[groups]]\nagents = [\"a\", \"\"]\n" ++
      "rules = [\x7b rule = \"allow\", path = \"/\\\"\\u007f\" \x7d]\n" ++
        "[[groups]]\nagents = []\nrules = []\n" := by
  decide

end Config

end RobotsExclusion
