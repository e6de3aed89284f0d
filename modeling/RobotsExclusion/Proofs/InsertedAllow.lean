import RobotsExclusion.Proofs.Insertion

/-!
# Inserting an allow

An allow that is inserted into a group takes nothing away.  Either its own path
comes to decide, and that path is allowed now, or the path that decided before still
does, and no path has lost an allow.
-/

namespace RobotsExclusion

namespace Group

variable {group : Group} {position : Nat} {line : Line} {path new : String}

/-- A decider other than the inserted path decided before the insertion as well. -/
theorem decider?_of_insertLine (access : line.directive?.any Directive.isAccess = true)
    (newChosen : (group.insertLine position line).decider? path = some new)
    (newOther : new ≠ line.path) : group.decider? path = some new := by
  by_cases known : line.path ∈ (group.upTo position).accessPaths
  · -- A path that is mentioned before the insertion keeps its place.
    have unmoved := accessPaths_insertLine_of_known access known
    rw [decider?, covering, unmoved] at newChosen
    exact newChosen
  · have member : new ∈ group.covering path := by
      obtain ⟨inserted, covers⟩ := mem_covering_iff.mp (mem_covering_of_decider? newChosen)
      rcases (mem_accessPaths_insertLine access).mp inserted with same | member
      · exact absurd same newOther
      · exact mem_covering_iff.mpr ⟨member, covers⟩
    obtain ⟨deciding, chosen⟩ := exists_decider_of_mem_covering member
    have same : deciding = new := by
      by_contra differs
      exact newOther (new_decider_eq_path access known chosen newChosen differs)
    rw [chosen, same]

theorem permits_insertLine_of_allow (allows : line.directive? = some .allow)
    (permitted : group.permits path = true) :
    (group.insertLine position line).permits path = true := by
  have access := Line.isAccess_of_allow allows
  rw [permits_eq_elim_decider?]
  cases newChosen : (group.insertLine position line).decider? path with
  | none => rfl
  | some new =>
      rw [Option.elim_some, grants_insertLine_iff]
      by_cases same : new = line.path
      · exact .inr ⟨allows, same.symm⟩
      · left
        have chosen := decider?_of_insertLine access newChosen same
        rwa [permits_eq_elim_decider?, chosen] at permitted

/-- An allow that is inserted keeps every permitted path permitted. -/
theorem permits_insert_allow (allows : Directive.ofName? line.rule = some .allow)
    (permitted : group.permits path = true) :
    (group.insertLine position line).permits path = true := by
  by_cases empty : line.path = ""
  · rw [permits_insertLine_of_empty empty]
    exact permitted
  · exact permits_insertLine_of_allow (by simp [Line.directive?, empty, allows]) permitted

end Group

namespace Config

variable {config : Config} {place position : Nat} {line : Line} {identity path : String}

theorem permits_insert_allow (allows : Directive.ofName? line.rule = some .allow)
    (permitted : config.permits identity path = true) :
    (config.insertLine place position line).permits identity path = true := by
  by_cases selected : config.place? identity = some place
  · cases stands : config.groups[place]? with
    | none =>
        rw [permits_eq_elim_place?, place?_insertLine, selected]
        simp [insertLine, stands]
    | some group =>
        rw [permits_insertLine_of_eq selected stands]
        rw [permits_eq_elim_place?, selected, Option.bind_some, stands] at permitted
        exact group.permits_insert_allow allows permitted
  · rw [permits_insertLine_of_ne selected]
    exact permitted

end Config

namespace Policy

variable {config : Config} {before after : Policy} {place position : Nat} {line : Line}
  {identity path : String}

/-- An allow that is inserted anywhere into a group revokes nothing. -/
theorem allows_after_allow (accepted : ofConfig config = .ok before)
    (acceptedAfter : ofConfig (config.insertLine place position line) = .ok after)
    (allows : Directive.ofName? line.rule = some .allow)
    (allowed : before.allows identity path = true) :
    after.allows identity path = true := by
  rw [allows_eq_elim_group? accepted, ← Config.permits_eq_elim_group?] at allowed
  rw [allows_eq_elim_group? acceptedAfter, ← Config.permits_eq_elim_group?]
  exact Config.permits_insert_allow allows allowed

/-- The inserted path was disallowed, and comes to decide in front of an equally specific
allowed one. -/
theorem allowed_after_allow_between_ties :
    ∃ config before after,
      config.groups = [⟨["*"], []⟩,
        ⟨["bot"], [⟨"disallow", "/"⟩, ⟨"allow", "/a*"⟩, ⟨"disallow", "/*a"⟩]⟩] ∧
      ofConfig config = .ok before ∧
      ofConfig (config.insertLine 1 1 ⟨"ALLOW ", "/*a"⟩) = .ok after ∧
      before.allows "bot" "/a" = true ∧ after.allows "bot" "/a" = true := by
  let config : Config :=
    ⟨[⟨["*"], []⟩,
      ⟨["bot"], [⟨"disallow", "/"⟩, ⟨"allow", "/a*"⟩, ⟨"disallow", "/*a"⟩]⟩]⟩
  have accepted : ofConfig config = .ok _ := rfl
  have acceptedAfter : ofConfig (config.insertLine 1 1 ⟨"ALLOW ", "/*a"⟩) = .ok _ := rfl
  refine ⟨config, _, _, rfl, accepted, acceptedAfter, by decide +kernel, ?_⟩
  exact allows_after_allow accepted acceptedAfter (by decide) (by decide +kernel)

end Policy

end RobotsExclusion
