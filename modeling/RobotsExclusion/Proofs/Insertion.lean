import RobotsExclusion.Proofs.SourceDecision

/-!
# Inserting a directive line

An access line that is inserted into a group keeps the order of all other paths of
the group.  Its own path is the only one that can move, namely up to the place of
the insertion if it was first mentioned later or not at all.
-/

namespace RobotsExclusion

namespace Group

/-- A group with one more line at a position of its list. -/
def insertLine (group : Group) (position : Nat) (line : Line) : Group :=
  ⟨group.agents, group.rules.take position ++ line :: group.rules.drop position⟩

/-- A group cut off at a position of its list of lines. -/
def upTo (group : Group) (position : Nat) : Group :=
  ⟨group.agents, group.rules.take position⟩

variable {group : Group} {position : Nat} {line : Line} {path : String}

/-- The access paths of a group that are first mentioned from a position on. -/
def laterPaths (group : Group) (position : Nat) : List String :=
  ((accessMentions (group.rules.drop position)).removeAll
    (accessMentions (group.rules.take position))).eraseDups

theorem accessPaths_eq_append (group : Group) (position : Nat) :
    group.accessPaths = (group.upTo position).accessPaths ++ group.laterPaths position := by
  have mentions : accessMentions group.rules =
      accessMentions (group.rules.take position) ++ accessMentions (group.rules.drop position) := by
    rw [← accessMentions_append, List.take_append_drop]
  rw [accessPaths_eq_eraseDups, mentions, List.eraseDups_append]
  rfl

private theorem accessMentions_insertLine
    (access : line.directive?.any Directive.isAccess = true) :
    accessMentions (group.insertLine position line).rules =
      accessMentions (group.rules.take position) ++
        line.path :: accessMentions (group.rules.drop position) := by
  rw [insertLine, accessMentions_append, accessMentions_cons_of_access access]

theorem accessPaths_insertLine_of_not_access
    (other : line.directive?.any Directive.isAccess = false) :
    (group.insertLine position line).accessPaths = group.accessPaths := by
  rw [accessPaths_eq_eraseDups, insertLine, accessMentions_append,
    accessMentions_cons_of_not_access other, ← accessMentions_append, List.take_append_drop]
  rfl

theorem accessPaths_insertLine_of_known
    (access : line.directive?.any Directive.isAccess = true)
    (known : line.path ∈ (group.upTo position).accessPaths) :
    (group.insertLine position line).accessPaths = group.accessPaths := by
  have mentioned : line.path ∈ accessMentions (group.rules.take position) :=
    mem_accessPaths_iff.mp known
  rw [accessPaths_eq_append group position, accessPaths_eq_eraseDups,
    accessMentions_insertLine access, List.eraseDups_append, laterPaths]
  congr 2
  simp [List.removeAll, mentioned]

/-- A path that is new at the position of the insertion moves there. -/
theorem accessPaths_insertLine_of_new
    (access : line.directive?.any Directive.isAccess = true)
    (new : line.path ∉ (group.upTo position).accessPaths) :
    (group.insertLine position line).accessPaths =
      (group.upTo position).accessPaths ++
        line.path :: (group.laterPaths position).filter fun declared => declared ≠ line.path := by
  have unmentioned : line.path ∉ accessMentions (group.rules.take position) :=
    fun mentioned => new (mem_accessPaths_iff.mpr mentioned)
  have kept : (line.path :: accessMentions (group.rules.drop position)).removeAll
      (accessMentions (group.rules.take position)) =
        line.path :: (accessMentions (group.rules.drop position)).removeAll
          (accessMentions (group.rules.take position)) := by
    simp [List.removeAll, unmentioned]
  rw [accessPaths_eq_eraseDups, accessMentions_insertLine access, List.eraseDups_append, kept,
    List.eraseDups_cons, laterPaths, filter_eraseDups]
  congr 4
  funext declared
  by_cases same : declared = line.path <;> simp [same]

/-- The order of all other paths stays as it was. -/
theorem filter_accessPaths_insertLine
    (access : line.directive?.any Directive.isAccess = true) :
    (group.insertLine position line).accessPaths.filter (fun declared => declared ≠ line.path) =
      group.accessPaths.filter fun declared => declared ≠ line.path := by
  by_cases known : line.path ∈ (group.upTo position).accessPaths
  · rw [accessPaths_insertLine_of_known access known]
  · rw [accessPaths_insertLine_of_new access known, accessPaths_eq_append group position]
    simp

theorem grants_insertLine_iff {declared : String} :
    (group.insertLine position line).grants declared = true ↔
      group.grants declared = true ∨ line.directive? = some .allow ∧ line.path = declared := by
  have split : group.rules = group.rules.take position ++ group.rules.drop position :=
    (List.take_append_drop _ _).symm
  simp only [grants_iff, insertLine]
  conv_rhs => rw [split]
  simp only [List.mem_append, List.mem_cons]
  constructor
  · rintro ⟨found, early | rfl | late, allows⟩
    · exact .inl ⟨found, .inl early, allows⟩
    · exact .inr allows
    · exact .inl ⟨found, .inr late, allows⟩
  · rintro (⟨found, early | late, allows⟩ | allows)
    · exact ⟨found, .inl early, allows⟩
    · exact ⟨found, .inr (.inr late), allows⟩
    · exact ⟨line, .inr (.inl rfl), allows⟩

theorem grants_insertLine_of_not_allow (other : line.directive? ≠ some .allow) :
    (group.insertLine position line).grants = group.grants := by
  funext declared
  rw [Bool.eq_iff_iff, grants_insertLine_iff]
  simp [other]

theorem grants_empty (group : Group) : group.grants "" = false := by
  rw [Bool.eq_false_iff]
  intro granted
  obtain ⟨found, -, allows, empty⟩ := grants_iff.mp granted
  simp [Line.directive?, empty] at allows

/-- A line that mentions no path for access changes no decision about access. -/
theorem permits_insertLine_of_not_access
    (other : line.directive?.any Directive.isAccess = false) :
    (group.insertLine position line).permits path = group.permits path :=
  permits_congr (accessPaths_insertLine_of_not_access other)
    (grants_insertLine_of_not_allow (Line.ne_allow_of_not_access other)) path

theorem permits_insertLine_of_empty (empty : line.path = "") :
    (group.insertLine position line).permits path = group.permits path := by
  have ignored : line.directive? = none := by simp [Line.directive?, empty]
  exact permits_insertLine_of_not_access (by simp [ignored])

theorem mem_accessPaths_insertLine {declared : String}
    (access : line.directive?.any Directive.isAccess = true) :
    declared ∈ (group.insertLine position line).accessPaths ↔
      declared = line.path ∨ declared ∈ group.accessPaths := by
  rw [accessPaths_eq_append group position, mem_accessPaths_iff, accessMentions_insertLine access]
  simp [laterPaths, upTo, mem_accessPaths_iff, List.removeAll]
  tauto

theorem mem_covering_insertLine (position : Nat) {declared : String}
    (access : line.directive?.any Directive.isAccess = true)
    (member : declared ∈ group.covering path) :
    declared ∈ (group.insertLine position line).covering path := by
  obtain ⟨member, covers⟩ := mem_covering_iff.mp member
  exact mem_covering_iff.mpr ⟨(mem_accessPaths_insertLine access).mpr (.inr member), covers⟩

/-- An allowed path that an insertion moves ahead of the equally specific path that
decides. -/
structure Overtakes (group : Group) (position : Nat) (moved path : String) : Prop where
  allowed : group.grants moved = true
  covers : pathCovers moved path = true
  later : moved ∉ (group.upTo position).accessPaths
  tied : ∃ deciding, group.decider? path = some deciding ∧
    deciding ∉ (group.upTo position).accessPaths ∧
    pathSpecificity deciding = pathSpecificity moved

section Decider

variable {deciding new : String}

theorem covering_eq_append (group : Group) (position : Nat) (path : String) :
    group.covering path = (group.upTo position).covering path ++
      (group.laterPaths position).filter fun declared => pathCovers declared path := by
  rw [covering, accessPaths_eq_append group position, List.filter_append]
  rfl

theorem covering_insertLine_of_new
    (access : line.directive?.any Directive.isAccess = true)
    (later : line.path ∉ (group.upTo position).accessPaths)
    (covers : pathCovers line.path path = true) :
    (group.insertLine position line).covering path =
      (group.upTo position).covering path ++ line.path ::
        ((group.laterPaths position).filter fun declared => declared ≠ line.path).filter
          fun declared => pathCovers declared path := by
  rw [covering, accessPaths_insertLine_of_new access later, List.filter_append,
    List.filter_cons, if_pos covers]
  rfl

/-- The inserted path decides where the old decider stands further back and is not
more specific. -/
theorem decider?_insertLine_of_moved
    (access : line.directive?.any Directive.isAccess = true)
    (chosen : group.decider? path = some deciding)
    (decidingLater : deciding ∉ (group.upTo position).accessPaths)
    (later : line.path ∉ (group.upTo position).accessPaths)
    (covers : pathCovers line.path path = true)
    (least : pathSpecificity deciding ≤ pathSpecificity line.path) :
    (group.insertLine position line).decider? path = some line.path := by
  rw [decider?, covering_eq_append group position] at chosen
  rw [decider?, covering_insertLine_of_new access later covers]
  apply mostSpecific?_append_cons
  · intro declared member
    have less := lt_of_mostSpecific?_append chosen
      (fun early => decidingLater (mem_covering_iff.mp early).1) member
    omega
  · intro declared member
    obtain ⟨member, covered⟩ := List.mem_filter.mp member
    have before : declared ∈
        (group.laterPaths position).filter fun declared => pathCovers declared path :=
      List.mem_filter.mpr ⟨(List.mem_filter.mp member).1, covered⟩
    have atMost := le_of_mostSpecific? chosen (List.mem_append_right _ before)
    omega

private theorem decider_of_others {excluded : String}
    (chosen : group.decider? path = some deciding) (other : deciding ≠ excluded) :
    mostSpecific? pathSpecificity
        ((group.accessPaths.filter fun declared => declared ≠ excluded).filter
          fun declared => pathCovers declared path) = some deciding := by
  have kept : mostSpecific? pathSpecificity
      ((group.covering path).filter fun declared => declared ≠ excluded) = some deciding :=
    mostSpecific?_filter chosen (by simpa using other)
  rw [covering, List.filter_filter] at kept
  rw [List.filter_filter]
  simpa only [Bool.and_comm] using kept

theorem decider_eq_of_ne
    (access : line.directive?.any Directive.isAccess = true)
    (chosen : group.decider? path = some deciding) (other : deciding ≠ line.path)
    (newChosen : (group.insertLine position line).decider? path = some new)
    (newOther : new ≠ line.path) : deciding = new := by
  have kept := decider_of_others chosen other
  have newKept := decider_of_others newChosen newOther
  rw [filter_accessPaths_insertLine access, kept] at newKept
  exact Option.some.inj newKept

/-- Where the decider changes, the inserted path has become the decider. -/
theorem new_decider_eq_path
    (access : line.directive?.any Directive.isAccess = true)
    (later : line.path ∉ (group.upTo position).accessPaths)
    (chosen : group.decider? path = some deciding)
    (newChosen : (group.insertLine position line).decider? path = some new)
    (differs : deciding ≠ new) : new = line.path := by
  by_contra newOther
  by_cases same : deciding = line.path
  · -- The old decider only moves up, so it goes on deciding.
    have covers : pathCovers line.path path = true :=
      same ▸ (mem_covering_iff.mp (mem_covering_of_decider? chosen)).2
    have moved := decider?_insertLine_of_moved access chosen (same ▸ later) later covers
      (Nat.le_of_eq (congrArg pathSpecificity same))
    rw [newChosen] at moved
    exact newOther (Option.some.inj moved)
  · exact differs (decider_eq_of_ne access chosen same newChosen newOther)

/-- An allowed path that has become the decider ties with the old one. -/
theorem overtakes_of_new_decider
    (access : line.directive?.any Directive.isAccess = true)
    (later : line.path ∉ (group.upTo position).accessPaths)
    (chosen : group.decider? path = some deciding)
    (newChosen : (group.insertLine position line).decider? path = some line.path)
    (allowed : group.grants line.path = true) :
    group.Overtakes position line.path path := by
  have covers : pathCovers line.path path = true :=
    (mem_covering_iff.mp (mem_covering_of_decider? newChosen)).2
  have decidingCovers : pathCovers deciding path = true :=
    (mem_covering_iff.mp (mem_covering_of_decider? chosen)).2
  have atMost : pathSpecificity line.path ≤ pathSpecificity deciding :=
    le_of_mostSpecific? chosen (mem_covering_iff.mpr ⟨mem_accessPaths_of_grants allowed, covers⟩)
  have atLeast : pathSpecificity deciding ≤ pathSpecificity line.path :=
    le_of_mostSpecific? newChosen
      (mem_covering_insertLine position access (mem_covering_of_decider? chosen))
  refine ⟨allowed, covers, later, deciding, chosen, ?_, Nat.le_antisymm atLeast atMost⟩
  -- In front of the inserted path the old decider would have to be less specific.
  intro early
  rw [decider?, covering_insertLine_of_new access later covers] at newChosen
  have less := lt_of_mostSpecific?_append newChosen
    (fun early => later (mem_covering_iff.mp early).1)
    (mem_covering_iff.mpr ⟨early, decidingCovers⟩)
  omega

end Decider

/-- A disallow for a path that is mentioned earlier changes nothing. -/
theorem permits_insertLine_of_known (disallows : line.directive? = some .disallow)
    (known : line.path ∈ (group.upTo position).accessPaths) :
    (group.insertLine position line).permits path = group.permits path := by
  have access := Line.isAccess_of_disallow disallows
  have notAllow : line.directive? ≠ some .allow := by simp [disallows]
  exact permits_congr (accessPaths_insertLine_of_known access known)
    (grants_insertLine_of_not_allow notAllow) path

theorem permits_insertLine_of_overtakes (disallows : line.directive? = some .disallow)
    (overtakes : group.Overtakes position line.path path) :
    (group.insertLine position line).permits path = true := by
  have access := Line.isAccess_of_disallow disallows
  have notAllow : line.directive? ≠ some .allow := by simp [disallows]
  obtain ⟨deciding, chosen, decidingLater, tie⟩ := overtakes.tied
  have moved : (group.insertLine position line).decider? path = some line.path :=
    decider?_insertLine_of_moved access chosen decidingLater overtakes.later overtakes.covers
      (Nat.le_of_eq tie)
  rw [permits_eq_elim_decider?, moved, grants_insertLine_of_not_allow notAllow]
  exact overtakes.allowed

theorem overtakes_of_permits_insertLine (disallows : line.directive? = some .disallow)
    (denied : group.permits path = false)
    (granted : (group.insertLine position line).permits path = true) :
    group.Overtakes position line.path path := by
  have access := Line.isAccess_of_disallow disallows
  have notAllow : line.directive? ≠ some .allow := by simp [disallows]
  have later : line.path ∉ (group.upTo position).accessPaths := by
    intro known
    rw [permits_insertLine_of_known disallows known, denied] at granted
    cases granted
  obtain ⟨deciding, chosen, refused⟩ := exists_decider_of_permits_eq_false denied
  obtain ⟨new, newChosen⟩ := exists_decider_of_mem_covering
    (mem_covering_insertLine position access (mem_covering_of_decider? chosen))
  have allowed : group.grants new = true := by
    rwa [permits_eq_elim_decider?, newChosen, grants_insertLine_of_not_allow notAllow] at granted
  have differs : deciding ≠ new := by
    rintro rfl
    rw [refused] at allowed
    cases allowed
  obtain rfl := new_decider_eq_path access later chosen newChosen differs
  exact overtakes_of_new_decider access later chosen newChosen allowed

/-- A disallow that is inserted where a path is denied grants it only by moving an
allowed path ahead of the deciding one. -/
theorem permits_insert_disallow_iff
    (disallows : Directive.ofName? line.rule = some .disallow)
    (denied : group.permits path = false) :
    (group.insertLine position line).permits path = true ↔
      group.Overtakes position line.path path := by
  by_cases empty : line.path = ""
  · constructor
    · intro granted
      rw [permits_insertLine_of_empty empty, denied] at granted
      cases granted
    · intro overtakes
      exact absurd overtakes.allowed (by simp [empty, grants_empty])
  · have disallows : line.directive? = some .disallow := by
      simp [Line.directive?, empty, disallows]
    exact ⟨overtakes_of_permits_insertLine disallows denied,
      permits_insertLine_of_overtakes disallows⟩

end Group

namespace Config

/-- A configuration with one more line in one of its groups. -/
def insertLine (config : Config) (place position : Nat) (line : Line) : Config :=
  ⟨config.groups.modify place fun group => group.insertLine position line⟩

variable {config : Config} {place position : Nat} {line : Line} {identity path : String}

theorem place?_insertLine (config : Config) (place position : Nat) (line : Line)
    (identity : String) :
    (config.insertLine place position line).place? identity = config.place? identity := by
  rw [insertLine, place?_modify]
  exact fun _ => rfl

/-- A group other than the selected one may change without effect. -/
theorem permits_insertLine_of_ne (elsewhere : config.place? identity ≠ some place) :
    (config.insertLine place position line).permits identity path =
      config.permits identity path := by
  rw [permits_eq_elim_place?, permits_eq_elim_place?, place?_insertLine]
  cases selected : config.place? identity with
  | none => rfl
  | some index =>
      have other : place ≠ index := by
        rintro rfl
        exact elsewhere selected
      simp [insertLine, List.getElem?_modify, other]

theorem permits_insertLine_of_eq {group : Group} (selected : config.place? identity = some place)
    (stands : config.groups[place]? = some group) :
    (config.insertLine place position line).permits identity path =
      (group.insertLine position line).permits path := by
  rw [permits_eq_elim_place?, place?_insertLine]
  simp [selected, insertLine, stands]

theorem exists_group_of_permits_eq_false (selected : config.place? identity = some place)
    (denied : config.permits identity path = false) :
    ∃ group, config.groups[place]? = some group ∧ group.permits path = false := by
  rw [permits_eq_elim_place?, selected, Option.bind_some] at denied
  cases stands : config.groups[place]? with
  | none => simp [stands] at denied
  | some group => exact ⟨group, rfl, by simpa [stands] using denied⟩

theorem permits_insert_disallow_iff
    (disallows : Directive.ofName? line.rule = some .disallow)
    (denied : config.permits identity path = false) :
    (config.insertLine place position line).permits identity path = true ↔
      ∃ group, config.place? identity = some place ∧ config.groups[place]? = some group ∧
        group.Overtakes position line.path path := by
  by_cases selected : config.place? identity = some place
  · obtain ⟨group, stands, denied⟩ := exists_group_of_permits_eq_false selected denied
    rw [permits_insertLine_of_eq selected stands,
      Group.permits_insert_disallow_iff disallows denied]
    simp [selected, stands]
  · rw [permits_insertLine_of_ne selected, denied]
    simp [selected]

end Config

namespace Policy

variable {config : Config} {before after : Policy} {place position : Nat} {line : Line}
  {identity path : String}

/-- A disallow that is inserted into a group grants a denied path exactly where the
group is the selected one and the insertion moves an allowed path ahead of the
equally specific path that decided. -/
theorem allows_after_disallow_iff (accepted : ofConfig config = .ok before)
    (acceptedAfter : ofConfig (config.insertLine place position line) = .ok after)
    (disallows : Directive.ofName? line.rule = some .disallow)
    (denied : before.allows identity path = false) :
    after.allows identity path = true ↔
      ∃ group, config.place? identity = some place ∧ config.groups[place]? = some group ∧
        group.Overtakes position line.path path := by
  rw [allows_eq_elim_group? accepted, ← Config.permits_eq_elim_group?] at denied
  rw [allows_eq_elim_group? acceptedAfter, ← Config.permits_eq_elim_group?]
  exact Config.permits_insert_disallow_iff disallows denied

theorem allowed_after_disallow_between_ties :
    ∃ config before after, ofConfig config = .ok before ∧
      ofConfig (config.insertLine 1 1 ⟨" Disallow", "/*a"⟩) = .ok after ∧
        before.allows "bot" "/a" = false ∧ after.allows "bot" "/a" = true := by
  let group : Group :=
    ⟨["bot"], [⟨"disallow", "/"⟩, ⟨"disallow", "/a*"⟩, ⟨"allow", "/*a"⟩]⟩
  let config : Config := ⟨[⟨["*"], []⟩, group]⟩
  have tied : ∃ deciding, group.decider? "/a" = some deciding ∧
      deciding ∉ (group.upTo 1).accessPaths ∧
      pathSpecificity deciding = pathSpecificity "/*a" :=
    ⟨"/a*", by decide, by decide, by decide⟩
  have overtakes : group.Overtakes 1 "/*a" "/a" := ⟨by decide, by decide, by decide, tied⟩
  have accepted : ofConfig config = .ok _ := rfl
  have acceptedAfter : ofConfig (config.insertLine 1 1 ⟨" Disallow", "/*a"⟩) = .ok _ := rfl
  refine ⟨config, _, _, accepted, acceptedAfter, by decide +kernel, ?_⟩
  exact (allows_after_disallow_iff accepted acceptedAfter (by decide) (by decide +kernel)).mpr
    ⟨group, by decide, rfl, overtakes⟩

/-- A disallow that is inserted is not bound to keep denied paths denied. -/
theorem not_forall_denied_after_disallow :
    ¬ ∀ (config : Config) (place position : Nat) (declared identity path : String)
        (before after : Policy), ofConfig config = .ok before →
        ofConfig (config.insertLine place position ⟨"disallow", declared⟩) = .ok after →
        before.allows identity path = false → after.allows identity path = false := by
  intro denies
  have denied := denies ⟨[⟨["*"], [⟨"disallow", "/a*"⟩, ⟨"allow", "/*a"⟩]⟩]⟩ 0 0 "/*a"
    "bot" "/a" _ _ rfl rfl (by decide +kernel)
  exact absurd denied (by decide +kernel)

end Policy

end RobotsExclusion
