import Mathlib.Data.List.Induction
import RobotsExclusion.Config.Decision

/-!
# What an access table holds

The table that is filled line by line holds the paths of the access lines by first
mention, and with each path whether any line allows it.  The invariant is about a
list of lines read so far: a line that mentions a new path adds an entry at the
end, an allow that repeats a path settles the entry in place, and a disallow that
repeats a path leaves it as it is.
-/

namespace RobotsExclusion

section FirstMention

variable {α : Type} [DecidableEq α]

theorem eraseDups_concat (items : List α) (item : α) :
    (items ++ [item]).eraseDups =
      if item ∈ items then items.eraseDups else items.eraseDups ++ [item] := by
  rw [List.eraseDups_append]
  by_cases known : item ∈ items <;> simp [List.removeAll, known, List.eraseDups_cons]

theorem nodup_eraseDups (items : List α) : items.eraseDups.Nodup := by
  induction items using List.reverseRecOn with
  | nil => simp
  | append_singleton items item ih =>
      rw [eraseDups_concat]
      split
      · exact ih
      · next new =>
        rw [List.nodup_append]
        refine ⟨ih, List.pairwise_singleton _ item, ?_⟩
        intro other member last lastMember same
        obtain rfl := List.mem_singleton.mp lastMember
        exact new (List.mem_eraseDups.mp (same ▸ member))

theorem filter_eraseDups (keep : α → Bool) (items : List α) :
    items.eraseDups.filter keep = (items.filter keep).eraseDups := by
  induction items using List.reverseRecOn with
  | nil => rfl
  | append_singleton items item ih =>
      rw [eraseDups_concat, List.filter_append]
      cases kept : keep item with
      | false => split <;> simp [kept, ih]
      | true =>
          have single : [item].filter keep = [item] := by simp [kept]
          rw [single, eraseDups_concat]
          by_cases known : item ∈ items <;> simp [known, kept, ih]

end FirstMention

namespace Keyed

variable {α : Type} {name : String} {keyed : Keyed α}

theorem get?_of_not_mem (new : name ∉ keyed.map Prod.fst) : get? name keyed = none := by
  induction keyed with
  | nil => rfl
  | cons entry rest ih =>
      obtain ⟨differs, new⟩ : name ≠ entry.1 ∧ name ∉ rest.map Prod.fst := by
        simpa using new
      simp [get?, differs.symm, ih new]

theorem put_of_not_mem (value : α) (new : name ∉ keyed.map Prod.fst) :
    put name value keyed = keyed ++ [(name, value)] := by
  induction keyed with
  | nil => rfl
  | cons entry rest ih =>
      obtain ⟨differs, new⟩ : name ≠ entry.1 ∧ name ∉ rest.map Prod.fst := by
        simpa using new
      simp [put, differs.symm, ih new]

theorem putNew_of_not_mem (value : α) (new : name ∉ keyed.map Prod.fst) :
    putNew name value keyed = keyed ++ [(name, value)] := by
  induction keyed with
  | nil => rfl
  | cons entry rest ih =>
      obtain ⟨differs, new⟩ : name ≠ entry.1 ∧ name ∉ rest.map Prod.fst := by
        simpa using new
      simp [putNew, differs.symm, ih new]

theorem putNew_of_mem (value : α) (known : name ∈ keyed.map Prod.fst) :
    putNew name value keyed = keyed := by
  induction keyed with
  | nil => simp at known
  | cons entry rest ih =>
      by_cases same : entry.1 = name
      · simp [putNew, same]
      · have later : name ∈ rest.map Prod.fst := by
          simpa [Ne.symm same] using known
        simp [putNew, same, ih later]

/-- A value entered again replaces the first one in its place. -/
theorem put_of_mem (value : α) (distinct : (keyed.map Prod.fst).Nodup)
    (known : name ∈ keyed.map Prod.fst) :
    put name value keyed =
      keyed.map fun entry => (entry.1, if entry.1 = name then value else entry.2) := by
  induction keyed with
  | nil => simp at known
  | cons entry rest ih =>
      obtain ⟨fresh, distinct⟩ := List.nodup_cons.mp distinct
      by_cases same : entry.1 = name
      · have untouched : rest.map (fun entry =>
            (entry.1, if entry.1 = name then value else entry.2)) = rest := by
          conv_rhs => rw [← List.map_id rest]
          apply List.map_congr_left
          intro other member
          have differs : other.1 ≠ name := by
            intro equal
            exact fresh (same ▸ equal ▸ List.mem_map_of_mem member)
          simp [differs]
        simp [put, same, untouched]
      · have later : name ∈ rest.map Prod.fst := by
          simpa [Ne.symm same] using known
        simp [put, same, ih distinct later]

end Keyed

namespace Line

variable {line : Line}

theorem isAccess_of_allow (allows : line.directive? = some .allow) :
    line.directive?.any Directive.isAccess = true := by
  simp [allows, Directive.isAccess]

theorem isAccess_of_disallow (disallows : line.directive? = some .disallow) :
    line.directive?.any Directive.isAccess = true := by
  simp [disallows, Directive.isAccess]

theorem ne_allow_of_not_access (other : line.directive?.any Directive.isAccess = false) :
    line.directive? ≠ some .allow := by
  intro allows
  simp [isAccess_of_allow allows] at other

end Line

/-- The paths of the access lines, repetitions included. -/
def accessMentions (lines : List Line) : List String :=
  (lines.filter fun line => line.directive?.any Directive.isAccess).map Line.path

theorem accessMentions_append (earlier later : List Line) :
    accessMentions (earlier ++ later) = accessMentions earlier ++ accessMentions later := by
  simp [accessMentions]

theorem accessMentions_cons_of_access {line : Line}
    (access : line.directive?.any Directive.isAccess = true) (later : List Line) :
    accessMentions (line :: later) = line.path :: accessMentions later := by
  simp [accessMentions, access]

theorem accessMentions_cons_of_not_access {line : Line}
    (other : line.directive?.any Directive.isAccess = false) (later : List Line) :
    accessMentions (line :: later) = accessMentions later := by
  simp [accessMentions, other]

namespace Group

variable {group : Group} {agents : List String} {lines : List Line} {line : Line}
  {declared : String}

theorem accessPaths_eq_eraseDups (group : Group) :
    group.accessPaths = (accessMentions group.rules).eraseDups :=
  rfl

theorem nodup_accessPaths (group : Group) : group.accessPaths.Nodup :=
  nodup_eraseDups _

theorem mem_accessPaths_iff :
    declared ∈ group.accessPaths ↔ declared ∈ accessMentions group.rules :=
  List.mem_eraseDups

theorem grants_iff : group.grants declared = true ↔
    ∃ line ∈ group.rules, line.directive? = some .allow ∧ line.path = declared := by
  simp [grants]

theorem mem_accessPaths_of_grants (granted : group.grants declared = true) :
    declared ∈ group.accessPaths := by
  obtain ⟨line, member, allows, rfl⟩ := grants_iff.mp granted
  rw [mem_accessPaths_iff]
  exact List.mem_map_of_mem (List.mem_filter.mpr ⟨member, Line.isAccess_of_allow allows⟩)

theorem accessPaths_concat_of_access
    (access : line.directive?.any Directive.isAccess = true) :
    (Group.mk agents (lines ++ [line])).accessPaths =
      if line.path ∈ (Group.mk agents lines).accessPaths then
        (Group.mk agents lines).accessPaths
      else
        (Group.mk agents lines).accessPaths ++ [line.path] := by
  have mentions : accessMentions (lines ++ [line]) = accessMentions lines ++ [line.path] := by
    rw [accessMentions_append, accessMentions_cons_of_access access]
    rfl
  simp only [mem_accessPaths_iff]
  rw [accessPaths_eq_eraseDups, mentions, eraseDups_concat]
  rfl

theorem accessPaths_concat_of_not_access
    (other : line.directive?.any Directive.isAccess = false) :
    (Group.mk agents (lines ++ [line])).accessPaths = (Group.mk agents lines).accessPaths := by
  simp only [accessPaths_eq_eraseDups]
  rw [accessMentions_append, accessMentions_cons_of_not_access other]
  simp [accessMentions]

theorem grants_concat (lines : List Line) (line : Line) (declared : String) :
    (Group.mk agents (lines ++ [line])).grants declared =
      ((Group.mk agents lines).grants declared ||
        decide (line.directive? = some .allow ∧ line.path = declared)) := by
  simp [grants]

theorem grants_concat_of_not_allow (other : line.directive? ≠ some .allow) :
    (Group.mk agents (lines ++ [line])).grants = (Group.mk agents lines).grants := by
  funext declared
  simp [grants_concat, other]

def accessTable (group : Group) : AccessTable :=
  group.accessPaths.map fun declared => (declared, group.grants declared)

@[simp]
theorem map_fst_accessTable (group : Group) :
    group.accessTable.map Prod.fst = group.accessPaths := by
  rw [accessTable, List.map_map]
  exact List.map_id _

end Group

namespace AccessTable

variable {agents : List String} {lines : List Line} {line : Line}

private theorem record_allow (allows : line.directive? = some .allow) :
    record (Group.mk agents lines).accessTable line =
      (Group.mk agents (lines ++ [line])).accessTable := by
  have access := Line.isAccess_of_allow allows
  simp only [record, allows]
  by_cases known : line.path ∈ (Group.mk agents lines).accessPaths
  · rw [Keyed.put_of_mem true (by simpa using Group.nodup_accessPaths _) (by simpa using known)]
    simp only [Group.accessTable, Group.accessPaths_concat_of_access access, known, if_true,
      List.map_map]
    apply List.map_congr_left
    intro declared _
    by_cases same : line.path = declared
    · simp [Group.grants_concat, allows, same]
    · simp [Group.grants_concat, same, Ne.symm same]
  · rw [Keyed.put_of_not_mem true (by simpa using known)]
    simp only [Group.accessTable, Group.accessPaths_concat_of_access access, known, if_false,
      List.map_append, List.map_cons, List.map_nil]
    congr 1
    · apply List.map_congr_left
      intro declared member
      have differs : line.path ≠ declared := fun same => known (same ▸ member)
      simp [Group.grants_concat, differs]
    · simp [Group.grants_concat, allows]

private theorem record_disallow (disallows : line.directive? = some .disallow) :
    record (Group.mk agents lines).accessTable line =
      (Group.mk agents (lines ++ [line])).accessTable := by
  have access := Line.isAccess_of_disallow disallows
  have sameGrants : (Group.mk agents (lines ++ [line])).grants = (Group.mk agents lines).grants :=
    Group.grants_concat_of_not_allow (by simp [disallows])
  simp only [record, disallows]
  by_cases known : line.path ∈ (Group.mk agents lines).accessPaths
  · rw [Keyed.putNew_of_mem false (by simpa using known)]
    simp [Group.accessTable, Group.accessPaths_concat_of_access access, known, sameGrants]
  · have ungranted : (Group.mk agents lines).grants line.path = false := by
      by_contra granted
      exact known (Group.mem_accessPaths_of_grants (by simpa using granted))
    rw [Keyed.putNew_of_not_mem false (by simpa using known)]
    simp [Group.accessTable, Group.accessPaths_concat_of_access access, known, sameGrants,
      ungranted]

private theorem record_other (other : line.directive?.any Directive.isAccess = false) :
    record (Group.mk agents lines).accessTable line =
      (Group.mk agents (lines ++ [line])).accessTable := by
  have notAllow := Line.ne_allow_of_not_access other
  have notDisallow : line.directive? ≠ some .disallow := by
    intro disallows
    simp [Line.isAccess_of_disallow disallows] at other
  simp only [Group.accessTable, Group.accessPaths_concat_of_not_access other,
    Group.grants_concat_of_not_allow notAllow]
  rw [record]
  split
  · next allows => exact absurd allows notAllow
  · next disallows => exact absurd disallows notDisallow
  · rfl
  · rfl

/-- One more line keeps the table in step with the lines read so far. -/
theorem record_accessTable (agents : List String) (lines : List Line) (line : Line) :
    record (Group.mk agents lines).accessTable line =
      (Group.mk agents (lines ++ [line])).accessTable := by
  cases read : line.directive? with
  | none => exact record_other (by simp [read])
  | some directive =>
      cases directive with
      | allow => exact record_allow read
      | disallow => exact record_disallow read
      | noindex => exact record_other (by simp [read, Directive.isAccess])

theorem ofLines_eq_accessTable (group : Group) :
    ofLines group.rules = group.accessTable := by
  obtain ⟨agents, lines⟩ := group
  induction lines using List.reverseRecOn with
  | nil => rfl
  | append_singleton lines line ih =>
      have step : ofLines (lines ++ [line]) = record (ofLines lines) line := by
        simp [ofLines, List.foldl_append]
      rw [step, ih, record_accessTable]

end AccessTable

end RobotsExclusion
