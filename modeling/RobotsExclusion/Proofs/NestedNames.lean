import RobotsExclusion.Proofs.AssignedAgent

/-!
# Nested agent names

A name that reads as a part of another one covers every crawler that the longer name covers,
and a wildcard covers every crawler at all.  The longer name has the longer token, so it is
ranked first wherever the two are declared.  A crawler that it covers is thus never left to
the shorter name, whatever other names are declared beside them.
-/

namespace RobotsExclusion

namespace AgentPattern

@[simp]
theorem source_ofName (name : String) : (ofName name).source = name := by
  simp only [ofName]
  split <;> rfl

/-- A name that is not blank keeps a letter in lower case. -/
theorem specificity_ofName_pos {name : String} (narrow : (ofName name).isWildcard = false) :
    0 < (ofName name).specificity := by
  have named : ¬ NamesEveryone name := by
    rw [← isWildcard_ofName_iff, narrow]
    exact Bool.false_ne_true
  have tokened := token_ofName_of_not_namesEveryone named
  simp only [specificity, tokened]
  rw [List.length_pos_iff]
  intro empty
  exact named (.inl (Text.lowercaseAfter_eq_nil_iff.mp empty))

/-- The token of the outer pattern contains that of the inner one and more, or the inner
pattern is a wildcard and the outer one is not. -/
inductive Nests (inner outer : AgentPattern) : Prop
  | wildcard (wide : inner.isWildcard = true) (narrow : outer.isWildcard = false)
  | token {part whole : List Char} (innerToken : inner.token = some part)
      (outerToken : outer.token = some whole) (contained : part <:+: whole)
      (differs : part ≠ whole)

namespace Nests

variable {inner outer : AgentPattern}

theorem covers (nests : Nests inner outer) {identity : String}
    (covered : outer.covers identity = true) : inner.covers identity = true := by
  cases nests with
  | wildcard wide narrow => exact covers_of_isWildcard wide identity
  | token innerToken outerToken contained differs =>
      rw [AgentPattern.covers_iff_infix outerToken] at covered
      rw [AgentPattern.covers_iff_infix innerToken]
      exact contained.trans covered

theorem specificity_lt {innerName outerName : String}
    (nests : Nests (ofName innerName) (ofName outerName)) :
    (ofName innerName).specificity < (ofName outerName).specificity := by
  cases nests with
  | wildcard wide narrow =>
      rw [specificity_of_isWildcard wide]
      exact specificity_ofName_pos narrow
  | @token part whole innerToken outerToken contained differs =>
      have atMost : part.length ≤ whole.length := contained.length_le
      have unequal : part.length ≠ whole.length := by
        intro same
        exact differs (contained.eq_of_length same)
      simp only [specificity, innerToken, outerToken]
      omega

end Nests

end AgentPattern

namespace Policy

variable {config : Config} {policy : Policy} {identity : String}

theorem group?_eq_bind_position? (policy : Policy) (identity : String) :
    policy.group? identity = (policy.position? identity).bind fun place => policy.groups[place]? :=
  List.find?_eq_bind_findIdx?_getElem?

/-- A crawler that a declared agent covers is resolved to an agent at least as specific. -/
theorem exists_position?_of_covers (accepted : ofConfig config = .ok policy)
    {occurrence : Occurrence} (declared : config.Declares occurrence)
    (covers : occurrence.agent.covers identity = true) :
    ∃ place compiled, policy.position? identity = some place ∧
      policy.groups[place]? = some compiled ∧ policy.group? identity = some compiled ∧
      compiled.agent = AgentPattern.ofName compiled.agent.source ∧
      occurrence.agent.specificity ≤ compiled.specificity := by
  cases chosen : config.occurrence? identity with
  | none =>
      have uncovered := Config.occurrence?_eq_none_iff.mp chosen occurrence declared
      rw [covers] at uncovered
      cases uncovered
  | some selected =>
      have assigned := Config.occurrence?_eq_some_iff.mp chosen
      have found : policy.group? identity =
          some (RuleGroup.ofDeclaration (selected.agent, selected.group)) := by
        rw [group?_eq_map_occurrence? accepted, chosen]
        rfl
      have positioned := found
      rw [group?_eq_bind_position?, Option.bind_eq_some_iff] at positioned
      obtain ⟨place, positioned, stands⟩ := positioned
      refine ⟨place, _, positioned, stands, found, ?_,
        assigned.mostSpecific occurrence declared covers⟩
      simp [RuleGroup.ofDeclaration, Occurrence.agent]

/-- The inner of two nested names covers what the outer one covers and is less specific.
Where the outer one is declared, a crawler that it covers is resolved to another agent than
the inner one. -/
theorem position?_of_nested_names {innerName outerName : String}
    (nests : AgentPattern.Nests (AgentPattern.ofName innerName) (AgentPattern.ofName outerName)) :
    (∀ identity, (AgentPattern.ofName outerName).covers identity = true →
        (AgentPattern.ofName innerName).covers identity = true) ∧
      (AgentPattern.ofName innerName).specificity <
        (AgentPattern.ofName outerName).specificity ∧
      ∀ config policy, ofConfig config = .ok policy →
        (∃ occurrence, config.Declares occurrence ∧ occurrence.name = outerName) →
        ∀ identity, (AgentPattern.ofName outerName).covers identity = true →
          ∃ place compiled, policy.position? identity = some place ∧
            policy.groups[place]? = some compiled ∧ policy.group? identity = some compiled ∧
            compiled.agent.source ≠ innerName ∧
            (AgentPattern.ofName innerName).specificity < compiled.specificity := by
  refine ⟨fun _ => nests.covers, nests.specificity_lt, ?_⟩
  rintro config policy accepted ⟨occurrence, declared, rfl⟩ identity covers
  obtain ⟨place, compiled, positioned, stands, found, named, atLeast⟩ :=
    exists_position?_of_covers accepted declared covers
  have less := Nat.lt_of_lt_of_le nests.specificity_lt atLeast
  refine ⟨place, compiled, positioned, stands, found, ?_, less⟩
  rintro rfl
  rw [← named] at less
  exact Nat.lt_irrefl _ less

/-- The inner name comes first and twice, and the crawler goes to a third name that contains
the outer one. -/
theorem position?_among_nested_names :
    ∃ config policy place compiled,
      config.groups = [⟨["Bot", "*"], []⟩, ⟨[" GoogleBot "], [⟨"disallow", "/a"⟩]⟩,
        ⟨["Google", "googlebot/"], [⟨"disallow", "/b"⟩]⟩, ⟨["Bot"], []⟩] ∧
      ofConfig config = .ok policy ∧
      AgentPattern.Nests (AgentPattern.ofName "Bot") (AgentPattern.ofName " GoogleBot ") ∧
      policy.position? "Mozilla (Googlebot/2.1)" = some place ∧
      policy.groups[place]? = some compiled ∧
      policy.group? "Mozilla (Googlebot/2.1)" = some compiled ∧
      compiled.agent.source ≠ "Bot" := by
  let group : Group := ⟨[" GoogleBot "], [⟨"disallow", "/a"⟩]⟩
  let config : Config := ⟨[⟨["Bot", "*"], []⟩, group,
    ⟨["Google", "googlebot/"], [⟨"disallow", "/b"⟩]⟩, ⟨["Bot"], []⟩]⟩
  have accepted : ofConfig config = .ok _ := rfl
  have declared : config.Declares ⟨1, 0, group, " GoogleBot "⟩ := ⟨rfl, rfl⟩
  have nests : AgentPattern.Nests (AgentPattern.ofName "Bot")
      (AgentPattern.ofName " GoogleBot ") := by
    have innerToken : (AgentPattern.ofName "Bot").token = some "bot".toList := by decide +kernel
    have outerToken : (AgentPattern.ofName " GoogleBot ").token = some "googlebot".toList := by
      decide +kernel
    exact .token innerToken outerToken (by decide +kernel) (by decide)
  obtain ⟨-, -, resolved⟩ := position?_of_nested_names nests
  obtain ⟨place, compiled, positioned, stands, found, other, -⟩ :=
    resolved config _ accepted ⟨_, declared, rfl⟩ "Mozilla (Googlebot/2.1)" (by decide +kernel)
  exact ⟨config, _, place, compiled, rfl, accepted, nests, positioned, stands, found, other⟩

end Policy

end RobotsExclusion
