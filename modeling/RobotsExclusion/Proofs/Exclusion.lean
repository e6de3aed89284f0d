import RobotsExclusion.Proofs.BlanketPaths
import RobotsExclusion.Proofs.IndexingDecision

/-!
# Crawlers that are shut out

A crawler is shut out where the group that applies to it allows no path and disallows
none that is more specific than the root.  Only the set of its allow and disallow lines
matters.  As nothing is allowed again, the paths that are refused are exactly those that
a disallow line covers.
-/

namespace RobotsExclusion

namespace Line

/-- A line that gives a directive about a path: its name is that of the directive,
whatever its padding and its ASCII case, and its path is not empty. -/
structure Gives (line : Line) (directive : Directive) : Prop where
  spelled : Text.lowercaseAscii (Text.trim line.rule.toList) = directive.name.toList
  named : line.path ≠ ""

instance (line : Line) (directive : Directive) : Decidable (line.Gives directive) :=
  decidable_of_iff
    (Text.lowercaseAscii (Text.trim line.rule.toList) = directive.name.toList ∧ line.path ≠ "")
    ⟨fun gives => ⟨gives.1, gives.2⟩, fun gives => ⟨gives.spelled, gives.named⟩⟩

theorem directive?_eq_some_iff {line : Line} {directive : Directive} :
    line.directive? = some directive ↔ line.Gives directive := by
  rw [directive?]
  split
  · next empty =>
    constructor
    · intro none
      cases none
    · intro gives
      exact absurd empty gives.named
  · next named =>
    rw [Directive.ofName?_eq_some_iff]
    exact ⟨fun spelled => ⟨spelled, named⟩, Gives.spelled⟩

end Line

/-- Some line gives the directive about exactly this declared path. -/
def Directs (lines : List Line) (directive : Directive) (declared : String) : Prop :=
  ∃ line ∈ lines, line.Gives directive ∧ line.path = declared

instance (lines : List Line) (directive : Directive) (declared : String) :
    Decidable (Directs lines directive declared) :=
  inferInstanceAs (Decidable (∃ line ∈ lines, line.Gives directive ∧ line.path = declared))

/-- The same paths stand under each access directive, in any order and number. -/
def SameAccess (lines others : List Line) : Prop :=
  ∀ directive : Directive, directive.isAccess = true → ∀ declared,
    Directs lines directive declared ↔ Directs others directive declared

theorem sameAccess_iff {lines others : List Line} : SameAccess lines others ↔
    ∀ directive ∈ [Directive.allow, .disallow],
      (∀ line ∈ lines, line.Gives directive → Directs others directive line.path) ∧
        ∀ line ∈ others, line.Gives directive → Directs lines directive line.path := by
  constructor
  · intro same directive listed
    have access : directive.isAccess = true := by
      rcases List.mem_pair.mp listed with rfl | rfl <;> rfl
    constructor
    · intro line member gives
      exact (same directive access line.path).mp ⟨line, member, gives, rfl⟩
    · intro line member gives
      exact (same directive access line.path).mpr ⟨line, member, gives, rfl⟩
  · intro listed directive access declared
    have pair : directive ∈ [Directive.allow, .disallow] := by
      cases directive <;> simp_all [Directive.isAccess]
    obtain ⟨forth, back⟩ := listed directive pair
    constructor
    · rintro ⟨line, member, gives, rfl⟩
      exact forth line member gives
    · rintro ⟨line, member, gives, rfl⟩
      exact back line member gives

instance (lines others : List Line) : Decidable (SameAccess lines others) :=
  decidable_of_iff' _ sameAccess_iff

/-- Lines that shut a crawler out: they allow no path, and disallow none that is more
specific than the root. -/
structure ShutOut (lines : List Line) : Prop where
  unallowed : ∀ declared, ¬ Directs lines .allow declared
  broad : ∀ declared, Directs lines .disallow declared →
    ∃ pattern, PathPattern.compile declared = .ok pattern ∧
      pattern.specificity ≤ PathPattern.rootSpecificity

/-- Some line disallows a path with a pattern that covers the requested one. -/
def Refuses (lines : List Line) (path : String) : Prop :=
  ∃ declared, Directs lines .disallow declared ∧
    ∃ pattern, PathPattern.compile declared = .ok pattern ∧ pattern.covers path = true

theorem PathPattern.exists_compile_iff {raw : String} (holds : PathPattern → Prop)
    (compiles : ∃ pattern, compile raw = .ok pattern) :
    (∃ pattern, compile raw = .ok pattern ∧ holds pattern) ↔ holds (parse raw) := by
  constructor
  · rintro ⟨pattern, compiled, held⟩
    obtain rfl := eq_parse_of_compile compiled
    exact held
  · intro held
    obtain ⟨pattern, compiled⟩ := compiles
    obtain rfl := eq_parse_of_compile compiled
    exact ⟨_, compiled, held⟩

namespace Group

variable {group other : Group} {declared path : String}

theorem grants_iff_directs :
    group.grants declared = true ↔ Directs group.rules .allow declared := by
  simp only [grants_iff, Directs, Line.directive?_eq_some_iff]

theorem mem_accessPaths_iff_directs : declared ∈ group.accessPaths ↔
    Directs group.rules .allow declared ∨ Directs group.rules .disallow declared := by
  have access (line : Line) : line.directive?.any Directive.isAccess = true ↔
      line.Gives .allow ∨ line.Gives .disallow := by
    rw [← Line.directive?_eq_some_iff, ← Line.directive?_eq_some_iff]
    cases line.directive? with
    | none => simp
    | some directive => cases directive <;> simp [Directive.isAccess]
  rw [mem_accessPaths_iff, accessMentions, List.mem_map]
  simp only [List.mem_filter, access, Directs]
  constructor
  · rintro ⟨line, ⟨member, allows | disallows⟩, named⟩
    · exact .inl ⟨line, member, allows, named⟩
    · exact .inr ⟨line, member, disallows, named⟩
  · rintro (⟨line, member, allows, named⟩ | ⟨line, member, disallows, named⟩)
    · exact ⟨line, ⟨member, .inl allows⟩, named⟩
    · exact ⟨line, ⟨member, .inr disallows⟩, named⟩

theorem excludes_iff_directs : group.excludes = true ↔
    (∀ declared, ¬ Directs group.rules .allow declared) ∧
      ∀ declared, Directs group.rules .disallow declared →
        pathSpecificity declared ≤ PathPattern.rootSpecificity := by
  simp only [excludes, List.all_eq_true, Bool.and_eq_true, Bool.not_eq_true', decide_eq_true_eq,
    mem_accessPaths_iff_directs]
  constructor
  · intro shut
    constructor
    · intro declared allows
      have ungranted := (shut declared (.inl allows)).1
      rw [grants_iff_directs.mpr allows] at ungranted
      cases ungranted
    · intro declared disallows
      exact (shut declared (.inr disallows)).2
  · rintro ⟨unallowed, broad⟩ declared (allows | disallows)
    · exact absurd allows (unallowed declared)
    · refine ⟨?_, broad declared disallows⟩
      rw [← Bool.not_eq_true, grants_iff_directs]
      exact unallowed declared

theorem excludes_congr_directs (same : SameAccess group.rules other.rules) :
    group.excludes = other.excludes := by
  have allows := same .allow rfl
  have disallows := same .disallow rfl
  rw [Bool.eq_iff_iff, excludes_iff_directs, excludes_iff_directs]
  simp only [allows, disallows]

section Compiled

variable (compiles : ∀ declared, Directs group.rules .disallow declared →
  ∃ pattern, PathPattern.compile declared = .ok pattern)
include compiles

theorem excludes_iff_shutOut : group.excludes = true ↔ ShutOut group.rules := by
  have specificity (declared : String) (disallows : Directs group.rules .disallow declared) :=
    PathPattern.exists_compile_iff
      (fun pattern => pattern.specificity ≤ PathPattern.rootSpecificity)
      (compiles declared disallows)
  rw [excludes_iff_directs]
  constructor
  · rintro ⟨unallowed, broad⟩
    exact ⟨unallowed, fun declared disallows =>
      (specificity declared disallows).mpr (broad declared disallows)⟩
  · rintro ⟨unallowed, broad⟩
    exact ⟨unallowed, fun declared disallows =>
      (specificity declared disallows).mp (broad declared disallows)⟩

/-- Where nothing is allowed, what the disallow lines cover is refused. -/
theorem permits_eq_false_iff_refuses (excludes : group.excludes = true) :
    group.permits path = false ↔ Refuses group.rules path := by
  have unallowed := (excludes_iff_directs.mp excludes).1
  rw [permits_eq_false_iff_of_excludes excludes]
  simp only [mem_accessPaths_iff_directs, unallowed, false_or, Refuses]
  apply exists_congr
  intro declared
  apply and_congr_right
  intro disallows
  exact (PathPattern.exists_compile_iff (fun pattern => pattern.covers path = true)
    (compiles declared disallows)).symm

end Compiled

end Group

/-- The paths `/` and `*` cover everything from the root on. -/
theorem Refuses.of_root {lines : List Line}
    (root : Directs lines .disallow "/" ∨ Directs lines .disallow "*") {path : String}
    (starts : path.toList.head? = some '/') : Refuses lines path := by
  have slash : (PathPattern.parse "/").Blanket := PathPattern.blanket_iff.mpr (by decide)
  have star : (PathPattern.parse "*").Blanket := PathPattern.blanket_iff.mpr (by decide)
  rcases root with disallows | disallows
  · exact ⟨"/", disallows, _, rfl, slash path starts⟩
  · exact ⟨"*", disallows, _, rfl, star path starts⟩

namespace Policy

variable {config : Config} {policy : Policy} {identity : String} {occurrence : Occurrence}

theorem exists_compile_of_directs (accepted : ofConfig config = .ok policy) {group : Group}
    (member : group ∈ config.groups) (declared : String)
    (disallows : Directs group.rules .disallow declared) :
    ∃ pattern, PathPattern.compile declared = .ok pattern := by
  have access := Group.mem_accessPaths_iff_directs.mpr (.inr disallows)
  exact exists_ofConfig_iff.mp ⟨policy, accepted⟩ group member declared
    (List.mem_append_left _ access)

theorem disallowsAll_eq_excludes (accepted : ofConfig config = .ok policy)
    (assigned : config.Assigned identity occurrence) :
    policy.disallowsAll identity = occurrence.group.excludes := by
  rw [disallowsAll_eq_elim_group? accepted, assigned.group?_eq]
  rfl

theorem exists_assigned_of_disallowsAll (accepted : ofConfig config = .ok policy)
    (disallowed : policy.disallowsAll identity = true) :
    ∃ occurrence, config.Assigned identity occurrence := by
  rw [disallowsAll_eq_elim_group? accepted, Config.group?_eq_map_occurrence?] at disallowed
  cases chosen : config.occurrence? identity with
  | none =>
      rw [chosen] at disallowed
      cases disallowed
  | some occurrence => exact ⟨occurrence, Config.occurrence?_eq_some_iff.mp chosen⟩

theorem disallowsAll_iff_of_assigned (accepted : ofConfig config = .ok policy)
    (assigned : config.Assigned identity occurrence) :
    policy.disallowsAll identity = true ↔ ShutOut occurrence.group.rules := by
  rw [disallowsAll_eq_excludes accepted assigned]
  exact Group.excludes_iff_shutOut
    (exists_compile_of_directs accepted (List.mem_of_getElem? assigned.declared.group))

theorem allows_eq_false_iff_refuses (accepted : ofConfig config = .ok policy)
    (assigned : config.Assigned identity occurrence)
    (disallowed : policy.disallowsAll identity = true) (path : String) :
    policy.allows identity path = false ↔ Refuses occurrence.group.rules path := by
  rw [disallowsAll_eq_excludes accepted assigned] at disallowed
  rw [allows_eq_elim_group? accepted, assigned.group?_eq]
  exact Group.permits_eq_false_iff_refuses
    (exists_compile_of_directs accepted (List.mem_of_getElem? assigned.declared.group)) disallowed

/-- A crawler is shut out exactly where the lines of the group that applies to it say so.
Its other lines, and the order and repetition of lines, play no part.  A crawler that is
shut out is refused what the disallow lines cover and nothing else, hence every path from
the root on where a line disallows `/` or `*`. -/
theorem disallowsAll_iff_shutOut (accepted : ofConfig config = .ok policy) (identity : String) :
    (policy.disallowsAll identity = true ↔
        ∃ occurrence, config.Assigned identity occurrence ∧ ShutOut occurrence.group.rules) ∧
      (∀ occurrence, config.Assigned identity occurrence → ∀ lines changed,
        SameAccess lines occurrence.group.rules →
        ofConfig (config.withLines occurrence.place lines) = .ok changed →
          changed.disallowsAll identity = policy.disallowsAll identity) ∧
      (policy.disallowsAll identity = true → ∀ occurrence, config.Assigned identity occurrence →
        (∀ path, policy.allows identity path = false ↔ Refuses occurrence.group.rules path) ∧
        (Directs occurrence.group.rules .disallow "/" ∨
            Directs occurrence.group.rules .disallow "*" →
          ∀ path : String, path.toList.head? = some '/' →
            policy.allows identity path = false)) := by
  refine ⟨⟨?_, ?_⟩, ?_, ?_⟩
  · intro disallowed
    obtain ⟨occurrence, assigned⟩ := exists_assigned_of_disallowsAll accepted disallowed
    exact ⟨occurrence, assigned, (disallowsAll_iff_of_assigned accepted assigned).mp disallowed⟩
  · rintro ⟨occurrence, assigned, shutOut⟩
    exact (disallowsAll_iff_of_assigned accepted assigned).mpr shutOut
  · intro occurrence assigned lines changed same acceptedChanged
    rw [disallowsAll_eq_excludes accepted assigned, disallowsAll_eq_elim_group? acceptedChanged,
      assigned.group?_withLines]
    exact Group.excludes_congr_directs same
  · intro disallowed occurrence assigned
    have refused := allows_eq_false_iff_refuses accepted assigned disallowed
    exact ⟨refused, fun root path starts => (refused path).mpr (.of_root root starts)⟩

/-- The group that applies disallows `/*` and `*` and nothing else; a wildcard agent and a
line with an empty path would allow more. -/
theorem shutOut_beside_idle_lines :
    ∃ config policy changed,
      config.groups = [⟨["*"], [⟨"allow", "/"⟩]⟩, ⟨["bot"],
        [⟨" Disallow", "*"⟩, ⟨"allow", ""⟩, ⟨"noindex", "/drafts"⟩, ⟨"disallow", "/*"⟩]⟩] ∧
      ofConfig config = .ok policy ∧
      ofConfig (config.withLines 1 [⟨"disallow", "/*"⟩, ⟨"crawl-delay", "/a"⟩,
        ⟨"DISALLOW", "*"⟩, ⟨"disallow", "/*"⟩]) = .ok changed ∧
      policy.disallowsAll "Bot/1" = true ∧ changed.disallowsAll "Bot/1" = true ∧
      policy.allows "Bot/1" "/page" = false := by
  let group : Group := ⟨["bot"],
    [⟨" Disallow", "*"⟩, ⟨"allow", ""⟩, ⟨"noindex", "/drafts"⟩, ⟨"disallow", "/*"⟩]⟩
  let lines : List Line := [⟨"disallow", "/*"⟩, ⟨"crawl-delay", "/a"⟩, ⟨"DISALLOW", "*"⟩,
    ⟨"disallow", "/*"⟩]
  let config : Config := ⟨[⟨["*"], [⟨"allow", "/"⟩]⟩, group]⟩
  have accepted : ofConfig config = .ok _ := rfl
  have acceptedChanged : ofConfig (config.withLines 1 lines) = .ok _ := rfl
  have assigned : config.Assigned "Bot/1" ⟨1, 0, group, "bot"⟩ :=
    Config.occurrence?_eq_some_iff.mp (by decide +kernel)
  obtain ⟨shut, unchanged, refused⟩ := disallowsAll_iff_shutOut accepted "Bot/1"
  have shutOut : ShutOut group.rules := by
    have unallowed : ∀ line ∈ group.rules, ¬ line.Gives .allow := by decide
    have broad : ∀ line ∈ group.rules, line.Gives .disallow →
        line.path = "*" ∨ line.path = "/*" := by decide
    constructor
    · rintro declared ⟨line, member, allows, -⟩
      exact unallowed line member allows
    · rintro declared ⟨line, member, disallows, rfl⟩
      rcases broad line member disallows with named | named
      · rw [named]
        exact ⟨_, rfl, by decide⟩
      · rw [named]
        exact ⟨_, rfl, by decide⟩
  have same : SameAccess lines group.rules := by decide
  have disallowed := shut.mpr ⟨_, assigned, shutOut⟩
  have root : Directs group.rules .disallow "/" ∨ Directs group.rules .disallow "*" := by decide
  exact ⟨config, _, _, rfl, accepted, acceptedChanged, disallowed,
    (unchanged _ assigned lines _ same acceptedChanged).trans disallowed,
    (refused disallowed _ assigned).2 root "/page" (by decide)⟩

end Policy

end RobotsExclusion
