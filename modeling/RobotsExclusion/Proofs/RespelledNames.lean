import Mathlib.Data.List.Forall2
import RobotsExclusion.Proofs.AssignedAgent
import RobotsExclusion.Proofs.LowercaseLetters

/-!
# Names and identities in another spelling

A declared name counts through its trimmed lower case alone, and an identity through its lower
case.  Both stay when they are put in lower case once more, and padding is trimmed off.  So a
configuration whose agents are written in lower case or with more padding has the same ranking
and answers every crawler alike.
-/

namespace RobotsExclusion

section Paired

variable {α β γ : Type} {related : α → β → Prop} {items : List α} {others : List β}
  {item : α} {other : β}

private theorem map_eq_map_of_forall₂ (paired : List.Forall₂ related items others)
    {read : α → γ} {otherRead : β → γ}
    (alike : ∀ item other, related item other → read item = otherRead other) :
    items.map read = others.map otherRead := by
  induction paired with
  | nil => rfl
  | cons twins _ ih => rw [List.map_cons, List.map_cons, alike _ _ twins, ih]

private theorem findIdx?_eq_of_forall₂ (paired : List.Forall₂ related items others)
    {keep : α → Bool} {otherKeep : β → Bool}
    (alike : ∀ item other, related item other → keep item = otherKeep other) :
    items.findIdx? keep = others.findIdx? otherKeep := by
  induction paired with
  | nil => rfl
  | cons twins _ ih => rw [List.findIdx?_cons, List.findIdx?_cons, alike _ _ twins, ih]

private theorem rel_find? (paired : List.Forall₂ related items others)
    {keep : α → Bool} {otherKeep : β → Bool}
    (alike : ∀ item other, related item other → keep item = otherKeep other) :
    Option.Rel related (items.find? keep) (others.find? otherKeep) := by
  induction paired with
  | nil => exact .none
  | @cons item other _ _ twins _ ih =>
      rw [List.find?_cons, List.find?_cons, ← alike item other twins]
      cases keep item with
      | true => exact .some twins
      | false => exact ih

private theorem forall₂_zipIdx (paired : List.Forall₂ related items others) (start : Nat) :
    List.Forall₂ (fun entry twin => related entry.1 twin.1 ∧ entry.2 = twin.2)
      (items.zipIdx start) (others.zipIdx start) := by
  induction paired generalizing start with
  | nil => exact .nil
  | cons twins _ ih => exact .cons ⟨twins, rfl⟩ (ih (start + 1))

variable {specificity : α → Nat} {otherSpecificity : β → Nat}

private theorem forall₂_rankIn
    (alike : ∀ item other, related item other → specificity item = otherSpecificity other)
    (twins : related item other) (paired : List.Forall₂ related items others) :
    List.Forall₂ related (rankIn specificity item items)
      (rankIn otherSpecificity other others) := by
  induction paired with
  | nil => exact .cons twins .nil
  | cons firstTwins rest ih =>
      simp only [rankIn, alike _ _ twins, alike _ _ firstTwins]
      split
      · exact .cons twins (.cons firstTwins rest)
      · exact .cons firstTwins ih

/-- Items that are equally specific in pairs are ranked in pairs. -/
theorem forall₂_mostSpecificFirst
    (alike : ∀ item other, related item other → specificity item = otherSpecificity other)
    (paired : List.Forall₂ related items others) :
    List.Forall₂ related (mostSpecificFirst specificity items)
      (mostSpecificFirst otherSpecificity others) := by
  induction paired with
  | nil => exact .nil
  | cons twins _ ih => exact forall₂_rankIn alike twins ih

theorem mostSpecificFirst_map (specificity : β → Nat) (rename : α → β) (items : List α) :
    mostSpecificFirst specificity (items.map rename) =
      (mostSpecificFirst (fun item => specificity (rename item)) items).map rename := by
  have paired : List.Forall₂ (fun item other => rename item = other) items (items.map rename) :=
    List.forall₂_map_right_iff.mpr (List.forall₂_same.mpr fun _ _ => rfl)
  have ranked : List.Forall₂ (fun item other => rename item = other)
      (mostSpecificFirst (fun item => specificity (rename item)) items)
      (mostSpecificFirst specificity (items.map rename)) :=
    forall₂_mostSpecificFirst (fun _ _ twins => congrArg specificity twins) paired
  rw [map_eq_map_of_forall₂ ranked fun _ _ twins => twins, List.map_id']

end Paired

namespace AgentPattern

/-- The spellings of a declared name that are reached by lower case and by padding. -/
inductive Respelled (name : String) : String → Prop
  | same : Respelled name name
  | lowercase {other : String} (respelled : Respelled name other) :
      Respelled name (String.ofList (Text.lowercase other.toList))
  | pad {other : String} {front back : List Char} (respelled : Respelled name other)
      (blankFront : Text.Blank front) (blankBack : Text.Blank back) :
      Respelled name (String.ofList (front ++ other.toList ++ back))

variable {name other : String}

theorem namesEveryone_iff : NamesEveryone name ↔
    Text.lowercase (Text.trim name.toList) = [] ∨
      Text.lowercase (Text.trim name.toList) = ['*'] := by
  rw [NamesEveryone, Text.lowercase_eq_star_iff, Text.lowercase, Text.lowercaseAfter_eq_nil_iff]

theorem token_ofName_eq_none_iff : (ofName name).token = none ↔ NamesEveryone name := by
  rw [← isWildcard_ofName_iff, isWildcard, Option.isNone_iff_eq_none]

/-- The token of a name depends on its trimmed lower case. -/
theorem token_ofName_congr
    (same : Text.lowercase (Text.trim name.toList) = Text.lowercase (Text.trim other.toList)) :
    (ofName name).token = (ofName other).token := by
  have everyone : NamesEveryone name ↔ NamesEveryone other := by
    rw [namesEveryone_iff, namesEveryone_iff, same]
  by_cases wide : NamesEveryone name
  · rw [token_ofName_eq_none_iff.mpr wide, token_ofName_eq_none_iff.mpr (everyone.mp wide)]
  · rw [token_ofName_of_not_namesEveryone wide,
      token_ofName_of_not_namesEveryone (everyone.not.mp wide), same]

theorem Respelled.lowercase_trim_eq (respelled : Respelled name other) :
    Text.lowercase (Text.trim name.toList) = Text.lowercase (Text.trim other.toList) := by
  induction respelled with
  | same => rfl
  | lowercase _ ih => rw [String.toList_ofList, Text.trim_lowercase, Text.lowercase_lowercase, ih]
  | pad _ blankFront blankBack ih =>
      rw [String.toList_ofList, Text.trim_append blankFront blankBack, ih]

theorem Respelled.token_eq (respelled : Respelled name other) :
    (ofName name).token = (ofName other).token :=
  token_ofName_congr respelled.lowercase_trim_eq

end AgentPattern

namespace Group

variable {group other : Group}

theorem accessRules_congr (same : group.rules = other.rules) :
    group.accessRules = other.accessRules := by
  simp only [accessRules, accessPaths, grants, same]

theorem indexingRules_congr (same : group.rules = other.rules) :
    group.indexingRules = other.indexingRules := by
  simp only [indexingRules, same]

theorem patternPaths_congr (same : group.rules = other.rules) :
    group.patternPaths = other.patternPaths := by
  simp only [patternPaths, accessPaths, same]

/-- The same lines, for agents in other spellings. -/
structure Respelled (group other : Group) : Prop where
  agents : List.Forall₂ AgentPattern.Respelled group.agents other.agents
  rules : group.rules = other.rules

end Group

namespace RuleGroup

/-- The same rules, for agents with the same token. -/
structure SameButName (compiled other : RuleGroup) : Prop where
  token : compiled.agent.token = other.agent.token
  access : compiled.access = other.access
  indexing : compiled.indexing = other.indexing

variable {compiled other : RuleGroup}

theorem SameButName.refl (compiled : RuleGroup) : compiled.SameButName compiled :=
  ⟨rfl, rfl, rfl⟩

theorem SameButName.coversLowered_eq (same : compiled.SameButName other) (lowered : List Char) :
    compiled.agent.coversLowered lowered = other.agent.coversLowered lowered := by
  simp only [AgentPattern.coversLowered, same.token]

theorem SameButName.disallowsAll_eq (same : compiled.SameButName other) :
    compiled.disallowsAll = other.disallowsAll := by
  simp only [disallowsAll, same.access]

end RuleGroup

namespace Occurrence

/-- Where a declared agent stands. -/
def seat (occurrence : Occurrence) : Nat × Nat :=
  (occurrence.place, occurrence.position)

def ruleGroup (occurrence : Occurrence) : RuleGroup :=
  RuleGroup.ofDeclaration (occurrence.agent, occurrence.group)

/-- Two declared agents at the same place, with the same lines and in another spelling. -/
structure Respelled (first second : Occurrence) : Prop where
  seat : first.seat = second.seat
  rules : first.group.rules = second.group.rules
  name : AgentPattern.Respelled first.name second.name

variable {first second : Occurrence}

theorem Respelled.specificity_eq (respelled : first.Respelled second) :
    first.agent.specificity = second.agent.specificity :=
  AgentPattern.specificity_congr respelled.name.token_eq

theorem Respelled.sameButName (respelled : first.Respelled second) :
    first.ruleGroup.SameButName second.ruleGroup where
  token := respelled.name.token_eq
  access := congrArg (mostSpecificFirst Rule.specificity)
    (Group.accessRules_congr respelled.rules)
  indexing := congrArg (mostSpecificFirst Rule.specificity)
    (Group.indexingRules_congr respelled.rules)

end Occurrence

namespace Config

/-- The same configuration with its agents in other spellings. -/
def Respelled (config other : Config) : Prop :=
  List.Forall₂ Group.Respelled config.groups other.groups

/-- The declared agents in the order in which they are consulted. -/
def ranking (config : Config) : List Occurrence :=
  mostSpecificFirst (fun occurrence => occurrence.agent.specificity) config.occurrences

variable {config other : Config}

theorem Respelled.occurrences (respelled : config.Respelled other) :
    List.Forall₂ Occurrence.Respelled config.occurrences other.occurrences := by
  apply List.rel_flatMap (forall₂_zipIdx respelled 0)
  rintro ⟨group, place⟩ ⟨otherGroup, _⟩ ⟨twins, rfl⟩
  apply List.rel_map _ (forall₂_zipIdx twins.agents 0)
  rintro ⟨name, position⟩ ⟨otherName, _⟩ ⟨spelled, rfl⟩
  exact ⟨rfl, twins.rules, spelled⟩

theorem Respelled.ranking (respelled : config.Respelled other) :
    List.Forall₂ Occurrence.Respelled config.ranking other.ranking :=
  forall₂_mostSpecificFirst (fun _ _ twins => twins.specificity_eq) respelled.occurrences

theorem Respelled.flatMap_patternPaths (respelled : config.Respelled other) :
    config.groups.flatMap Group.patternPaths = other.groups.flatMap Group.patternPaths := by
  rw [List.flatMap_def, List.flatMap_def, map_eq_map_of_forall₂ respelled]
  exact fun _ _ twins => Group.patternPaths_congr twins.rules

end Config

namespace Policy

variable {config other : Config} {policy otherPolicy : Policy} {identity twin : String}

/-- Two policies resolve and answer two crawlers alike. -/
structure AnswersAlike (policy other : Policy) (identity twin : String) : Prop where
  position? : policy.position? identity = other.position? twin
  allows : ∀ path, policy.allows identity path = other.allows twin path
  indexes : ∀ path, policy.indexes identity path = other.indexes twin path
  disallowsAll : policy.disallowsAll identity = other.disallowsAll twin

/-- The answers depend on the selected group without its name. -/
private theorem answersAlike_of_rel {group? otherGroup? : Option RuleGroup}
    (positions : policy.position? identity = otherPolicy.position? twin)
    (found : policy.group? identity = group?) (otherFound : otherPolicy.group? twin = otherGroup?)
    (selected : Option.Rel RuleGroup.SameButName group? otherGroup?) :
    policy.AnswersAlike otherPolicy identity twin := by
  cases selected with
  | none =>
      exact ⟨positions, fun _ => by simp only [allows, found, otherFound],
        fun _ => by simp only [indexes, found, otherFound],
        by simp only [disallowsAll, found, otherFound]⟩
  | some same =>
      exact ⟨positions, fun _ => by simp only [allows, found, otherFound, same.access],
        fun _ => by simp only [indexes, found, otherFound, same.indexing],
        by simp only [disallowsAll, found, otherFound, same.disallowsAll_eq]⟩

/-- The lower case of the identity and the groups without their names make the answers. -/
theorem answersAlike_of_forall₂
    (paired : List.Forall₂ RuleGroup.SameButName policy.groups otherPolicy.groups)
    (lowered : Text.lowercase identity.toList = Text.lowercase twin.toList) :
    policy.AnswersAlike otherPolicy identity twin := by
  have alike (compiled other : RuleGroup) (same : compiled.SameButName other) :
      compiled.agent.coversLowered (Text.lowercase identity.toList) =
        other.agent.coversLowered (Text.lowercase twin.toList) := by
    rw [same.coversLowered_eq, lowered]
  exact answersAlike_of_rel (findIdx?_eq_of_forall₂ paired alike) rfl rfl (rel_find? paired alike)

theorem groups_eq_map_ranking (accepted : ofConfig config = .ok policy) :
    policy.groups = config.ranking.map Occurrence.ruleGroup := by
  rw [groups_of_ofConfig accepted, Config.flatMap_ruleGroups, ← Config.map_occurrences_group,
    List.map_map, mostSpecificFirst_map]
  rfl

theorem exists_ofConfig_of_respelled (accepted : ofConfig config = .ok policy)
    (respelled : config.Respelled other) : ∃ otherPolicy, ofConfig other = .ok otherPolicy := by
  -- Only the paths can be refused, and those stand in the lines.
  rw [ofConfig_eq] at accepted
  have unrefused := (unlessRefused_eq_ok_iff.mp accepted).1
  rw [respelled.flatMap_patternPaths] at unrefused
  rw [ofConfig_eq, unrefused]
  exact ⟨_, rfl⟩

/-- An identity may be put in lower case, and its ASCII letters in any case.  The declared names
may be put in lower case and padded: the agents keep their ranking, their specificity and their
rules, and all crawlers their answers. -/
theorem answersAlike_of_respelled (accepted : ofConfig config = .ok policy) :
    (∀ identity twin : String,
        twin = String.ofList (Text.lowercase identity.toList) ∨
          Text.lowercaseAscii twin.toList = Text.lowercaseAscii identity.toList →
            policy.AnswersAlike policy identity twin) ∧
      ∀ other, config.Respelled other → ∃ otherPolicy, ofConfig other = .ok otherPolicy ∧
        policy.groups = config.ranking.map Occurrence.ruleGroup ∧
        otherPolicy.groups = other.ranking.map Occurrence.ruleGroup ∧
        config.ranking.map Occurrence.seat = other.ranking.map Occurrence.seat ∧
        policy.groups.map RuleGroup.specificity = otherPolicy.groups.map RuleGroup.specificity ∧
        (policy.groups.map fun compiled => compiled.agent.isWildcard) =
          (otherPolicy.groups.map fun compiled => compiled.agent.isWildcard) ∧
        ∀ identity, policy.AnswersAlike otherPolicy identity identity := by
  constructor
  · intro identity twin spelled
    have lowered : Text.lowercase identity.toList = Text.lowercase twin.toList := by
      rcases spelled with rfl | ascii
      · rw [String.toList_ofList, Text.lowercase_lowercase]
      · rw [← Text.lowercase_lowercaseAscii twin.toList, ascii, Text.lowercase_lowercaseAscii]
    exact answersAlike_of_forall₂ (List.forall₂_same.mpr fun _ _ => .refl _) lowered
  · intro other respelled
    obtain ⟨otherPolicy, acceptedOther⟩ := exists_ofConfig_of_respelled accepted respelled
    have groups := groups_eq_map_ranking accepted
    have otherGroups := groups_eq_map_ranking acceptedOther
    have paired : List.Forall₂ RuleGroup.SameButName policy.groups otherPolicy.groups := by
      rw [groups, otherGroups, List.forall₂_map_left_iff, List.forall₂_map_right_iff]
      exact respelled.ranking.imp fun _ _ twins => twins.sameButName
    refine ⟨otherPolicy, acceptedOther, groups, otherGroups, ?_, ?_, ?_, ?_⟩
    · exact map_eq_map_of_forall₂ respelled.ranking fun _ _ twins => twins.seat
    · exact map_eq_map_of_forall₂ paired fun _ _ same => AgentPattern.specificity_congr same.token
    · refine map_eq_map_of_forall₂ paired fun _ _ same => ?_
      rw [AgentPattern.isWildcard, AgentPattern.isWildcard, same.token]
    · exact fun _ => answersAlike_of_forall₂ paired rfl

/-- The sigma is final in lower case, and the padding is no ASCII blank. -/
theorem answersAlike_of_padded_names :
    ∃ config other policy otherPolicy,
      config.groups = [⟨["ΑΣ", "*"], [⟨"disallow", "/a"⟩]⟩, ⟨[" GoogleBot"], []⟩] ∧
      other.groups = [⟨["\u2003ας", "*"], [⟨"disallow", "/a"⟩]⟩, ⟨[" GoogleBot\t"], []⟩] ∧
      config.Respelled other ∧ ofConfig config = .ok policy ∧
      ofConfig other = .ok otherPolicy ∧
      policy.AnswersAlike policy "GOOGLEbot ΑΣ" "googleBOT ΑΣ" ∧
      policy.AnswersAlike otherPolicy "Α ΑΣ/1" "Α ΑΣ/1" ∧
      otherPolicy.position? "Α ΑΣ/1" = some 1 := by
  let rules : List Line := [⟨"disallow", "/a"⟩]
  let config : Config := ⟨[⟨["ΑΣ", "*"], rules⟩, ⟨[" GoogleBot"], []⟩]⟩
  let other : Config := ⟨[⟨["\u2003ας", "*"], rules⟩, ⟨[" GoogleBot\t"], []⟩]⟩
  have empty : Text.Blank [] := List.forall_mem_nil _
  have sigma : AgentPattern.Respelled "ΑΣ" "\u2003ας" := by
    have form : String.ofList (['\u2003'] ++
        (String.ofList (Text.lowercase "ΑΣ".toList)).toList ++ []) = "\u2003ας" := by
      decide +kernel
    rw [← form]
    exact .pad (.lowercase .same) (List.forall_mem_singleton.mpr rfl) empty
  have google : AgentPattern.Respelled " GoogleBot" " GoogleBot\t" := by
    have form : String.ofList ([] ++ " GoogleBot".toList ++ ['\t']) = " GoogleBot\t" := by
      decide +kernel
    rw [← form]
    exact .pad .same empty (List.forall_mem_singleton.mpr rfl)
  have respelled : config.Respelled other :=
    .cons ⟨.cons sigma (.cons .same .nil), rfl⟩ (.cons ⟨.cons google .nil, rfl⟩ .nil)
  have accepted : ofConfig config = .ok _ := rfl
  obtain ⟨identities, names⟩ := answersAlike_of_respelled accepted
  obtain ⟨otherPolicy, acceptedOther, -, -, -, -, -, alike⟩ := names other respelled
  have place := (alike "Α ΑΣ/1").position?
  refine ⟨config, other, _, otherPolicy, rfl, rfl, respelled, accepted, acceptedOther,
    identities _ _ (.inr (by decide)), alike _, ?_⟩
  rw [← place]
  decide +kernel

end Policy

end RobotsExclusion
