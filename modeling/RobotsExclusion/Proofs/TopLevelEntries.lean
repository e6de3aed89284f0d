import RobotsExclusion.Config.Loading
import RobotsExclusion.Proofs.SpelledJson

/-!
# Which top-level entries count

A name at the top level is read as a path, and every path begins with a name: the root that
the entry is entered under.  An entry changes what stands under its root and nothing else,
and a configuration is read off what stands under `groups`.  So an entry counts exactly
when its root is `groups`, and a name such as `groups[0]` has that root, too.
-/

namespace RobotsExclusion

theorem Keyed.filter_put {α : Type} {keep : String → Bool} (name : String) (value : α)
    (keyed : Keyed α) : (Keyed.put name value keyed).filter (fun entry => keep entry.1) =
      if keep name then
        Keyed.put name value (keyed.filter fun entry => keep entry.1)
      else
        keyed.filter fun entry => keep entry.1 := by
  induction keyed with
  | nil => cases kept : keep name <;> simp [Keyed.put, kept]
  | cons entry rest ih =>
      by_cases same : entry.1 = name
      · subst same
        cases kept : keep entry.1 <;> simp [Keyed.put, kept]
      · cases kept : keep name <;> cases entryKept : keep entry.1 <;>
          simp [Keyed.put, same, kept, entryKept, ih]

namespace KeyPath

/-- The name that a top-level name is entered under: where it is a path, the name before the
first point or bracket, and else the whole of it. -/
def root (name : String) : String :=
  if (parse? name).isSome then String.ofList (name.toList.takeWhile isNameChar) else name

section Roots

variable {state next : List Step × Progress} {step : Step} {path : List Step} {first : String}
  {letters : List Char} {c : Char}

theorem foldlM_nameChars (read letters : List Char) (plain : ∀ c ∈ letters, isNameChar c = true) :
    letters.foldlM advance ([], .name read) = some ([], .name (letters.reverse ++ read)) := by
  induction letters generalizing read with
  | nil => rfl
  | cons c rest ih =>
      have advanced : advance ([], .name read) c = some ([], .name (c :: read)) :=
        if_pos (plain c List.mem_cons_self)
      rw [foldlM_cons_of_eq_some advanced,
        ih _ fun other member => plain other (List.mem_cons_of_mem c member)]
      simp

theorem eq_of_nameStep? (named : nameStep? letters.reverse = some step) :
    step = .key (String.ofList letters) := by
  unfold nameStep? at named
  split at named
  · cases named
  · rw [List.reverse_reverse] at named
    exact (Option.some.inj named).symm

/-- The oldest of the steps so far is a name. -/
def BeginsWith (first : String) (state : List Step × Progress) : Prop :=
  state.1.getLast? = some (.key first)

theorem steps_of_advance (advanced : advance state c = some next) :
    next.1 = state.1 ∨ ∃ step, next.1 = step :: state.1 := by
  obtain ⟨steps, progress⟩ := state
  cases progress <;> simp only [KeyPath.advance] at advanced
  all_goals repeat' split at advanced
  all_goals cases advanced
  all_goals first
    | exact .inl rfl
    | exact .inr ⟨_, rfl⟩

/-- A name that something follows is the first step. -/
theorem beginsWith_of_advance (ends : ¬ isNameChar c = true)
    (advanced : advance ([], .name letters.reverse) c = some next) :
    BeginsWith (String.ofList letters) next := by
  simp only [KeyPath.advance, if_neg ends] at advanced
  split at advanced
  · next named =>
    cases advanced
    exact congrArg some (eq_of_nameStep? named)
  · next named =>
    cases advanced
    exact congrArg some (eq_of_nameStep? named)
  · cases advanced

theorem BeginsWith.advance (begins : BeginsWith first state)
    (advanced : advance state c = some next) : BeginsWith first next := by
  rcases steps_of_advance advanced with same | ⟨step, longer⟩
  · rw [BeginsWith, same]
    exact begins
  · rw [BeginsWith, longer, List.getLast?_cons, begins, Option.getD_some]

theorem BeginsWith.exists_eq_of_finish (begins : BeginsWith first state)
    (finished : finish state = some path) : ∃ rest, path = .key first :: rest := by
  unfold finish at finished
  split at finished
  · next steps letters =>
    obtain ⟨step, -, rfl⟩ := Option.map_eq_some_iff.mp finished
    have last : steps.getLast? = some (.key first) := begins
    rw [← List.head?_eq_some_iff, List.head?_reverse, List.getLast?_cons, last, Option.getD_some]
  · next steps =>
    cases finished
    rw [← List.head?_eq_some_iff, List.head?_reverse]
    exact begins
  · cases finished

theorem exists_eq_of_parse? {name : String} (read : parse? name = some path) :
    ∃ rest, path = .key (String.ofList (name.toList.takeWhile isNameChar)) :: rest := by
  obtain ⟨state, run, finished⟩ := Option.bind_eq_some_iff.mp read
  have letters := foldlM_nameChars [] (name.toList.takeWhile isNameChar)
    (List.all_eq_true.mp List.all_takeWhile)
  rw [List.append_nil] at letters
  rw [← @List.takeWhile_append_dropWhile _ isNameChar name.toList,
    foldlM_append_of_eq_some letters] at run
  cases others : name.toList.dropWhile isNameChar with
  | nil =>
      rw [others] at run
      cases run
      obtain ⟨step, named, rfl⟩ := Option.map_eq_some_iff.mp finished
      exact ⟨[], by rw [eq_of_nameStep? named]; rfl⟩
  | cons c rest =>
      have ends : ¬ isNameChar c = true := by
        have stopped := List.head?_dropWhile_not isNameChar name.toList
        rw [others] at stopped
        simpa using stopped
      rw [others, List.foldlM_cons] at run
      obtain ⟨reached, advanced, run⟩ := Option.bind_eq_some_iff.mp run
      have begins := beginsWith_of_advance ends advanced
      exact (of_foldlM_eq_some BeginsWith.advance begins run).exists_eq_of_finish finished

theorem exists_ofName_eq (name : String) : ∃ rest, ofName name = .key (root name) :: rest := by
  cases read : parse? name with
  | none => exact ⟨[], by simp [ofName, root, read]⟩
  | some path =>
      obtain ⟨rest, rfl⟩ := exists_eq_of_parse? read
      exact ⟨rest, by simp [ofName, root, read]⟩

end Roots

end KeyPath

namespace Document

/-- What an entry makes of the value under its root. -/
def settle (entry : String × Document) : Document → Document :=
  update (overlay entry.2) (KeyPath.ofName entry.1).tail

theorem enter_eq (document : Document) (entry : String × Document) :
    enter document entry = .table (Keyed.put (KeyPath.root entry.1)
      (settle entry ((Keyed.get? (KeyPath.root entry.1) document.entries).getD .null))
      document.entries) := by
  obtain ⟨rest, path⟩ := KeyPath.exists_ofName_eq entry.1
  rw [enter, settle, path]
  rfl

theorem get?_enter (name : String) (document : Document) (entry : String × Document) :
    Keyed.get? name (enter document entry).entries =
      if KeyPath.root entry.1 = name then
        some (settle entry ((Keyed.get? name document.entries).getD .null))
      else
        Keyed.get? name document.entries := by
  rw [enter_eq]
  split
  · next same =>
    subst same
    exact Keyed.get?_put_self _ _ _
  · next differs => exact Keyed.get?_put_of_ne (Ne.symm differs) _ _

/-- The entries with one root. -/
def rootedAt (name : String) (entries : List (String × Document)) : List (String × Document) :=
  entries.filter fun entry => KeyPath.root entry.1 = name

/-- Only the entries with that root settle what stands under a name. -/
theorem get?_foldl_enter (name : String) (entries : List (String × Document))
    (document : Document) :
    Keyed.get? name (entries.foldl enter document).entries =
      (rootedAt name entries).foldl (fun found entry => some (settle entry (found.getD .null)))
        (Keyed.get? name document.entries) := by
  induction entries generalizing document with
  | nil => rfl
  | cons entry rest ih =>
      rw [List.foldl_cons, ih, get?_enter, rootedAt, rootedAt, List.filter_cons]
      split <;> simp_all

theorem exists_ofEntries_eq (entries : List (String × Document)) :
    ∃ settled, ofEntries entries = .table settled := by
  cases entries using List.reverseRecOn with
  | nil => exact ⟨[], rfl⟩
  | append_singleton entries entry =>
      rw [ofEntries, List.foldl_append]
      exact ⟨_, enter_eq _ entry⟩

theorem filter_mergedEntries (keep : String → Bool) (entries : List (String × Document))
    (read : Keyed Document) :
    (mergedEntries entries read).filter (fun entry => keep entry.1) =
      mergedEntries (entries.filter fun entry => keep entry.1)
        (read.filter fun entry => keep entry.1) := by
  induction entries generalizing read with
  | nil => rfl
  | cons entry rest ih =>
      obtain ⟨name, value⟩ := entry
      rw [mergedEntries, ih, Keyed.filter_put, List.filter_cons]
      split
      · rw [mergedEntries]
      · rfl

theorem rootedAt_mergedEntries (name : String) (entries : List (String × Document)) :
    rootedAt name (mergedEntries entries []) = mergedEntries (rootedAt name entries) [] :=
  filter_mergedEntries (fun other => KeyPath.root other = name) entries []

section Update

variable {change : Document → Document}

theorem makeRoom_ne_nil (items : List Document) (position : Int) :
    (makeRoom items position).1 ≠ [] := by
  rw [← List.length_pos_iff]
  cases position with
  | ofNat place =>
      simp only [makeRoom, List.length_append, List.length_replicate]
      omega
  | negSucc backward =>
      simp only [makeRoom]
      split <;> simp <;> omega

/-- What is created on the way to a place is never an empty list. -/
theorem update_ne_nil (changed : ∀ document, change document ≠ .list []) (path : List Step)
    (document : Document) : update change path document ≠ .list [] := by
  cases path with
  | nil => exact changed document
  | cons step path =>
      cases step with
      | key name => simp [update]
      | index position => simp [update, makeRoom_ne_nil]

end Update

end Document

namespace Config

variable {text shorter : String} {written : Document} {entries others : List (String × Document)}

/-- The configuration that is read off what stands under `groups`. -/
def ofGroups (found : Option Document) : Except Misfit Config :=
  match found with
  | some document =>
      (Reader.sequence Reader.group [.key "groups"] document).map Config.mk
  | none => .ok ⟨[]⟩

theorem ofDocument_table (settled : Keyed Document) :
    ofDocument (.table settled) = ofGroups (Keyed.get? "groups" settled) := by
  rw [ofDocument, Reader.field, Document.field?]
  cases Keyed.get? "groups" settled <;> rfl

theorem ofRoot_table (entries : List (String × Document)) :
    ofRoot (.table entries) =
      ofGroups (Keyed.get? "groups" (Document.ofEntries entries).entries) := by
  obtain ⟨settled, set⟩ := Document.exists_ofEntries_eq entries
  rw [ofRoot, set, ofDocument_table]
  rfl

theorem ofRoot_congr
    (same : Document.rootedAt "groups" entries = Document.rootedAt "groups" others) :
    ofRoot (.table entries) = ofRoot (.table others) := by
  rw [ofRoot_table, ofRoot_table, Document.ofEntries, Document.ofEntries,
    Document.get?_foldl_enter, Document.get?_foldl_enter, same]

theorem load_of_spells (spells : Json.Spells text written) :
    load .json text = match ofRoot written.merged with
      | .ok config => .ok (config, config.warnings)
      | .error misfit => .error (.misfit misfit) := by
  have parsed : Format.parse? .json text = some written.merged :=
    Json.parse?_eq_some_iff.mpr ⟨written, spells, rfl⟩
  rw [load, ofText, parsed]
  cases read : ofRoot written.merged <;> simp [read, Except.map]

theorem load_congr_of_spells (spells : Json.Spells text (.table entries))
    (spellsShorter : Json.Spells shorter (.table others))
    (same : Document.rootedAt "groups" entries = Document.rootedAt "groups" others) :
    load .json shorter = load .json text := by
  have merged : ofRoot (Document.merged (.table others)) =
      ofRoot (Document.merged (.table entries)) := by
    refine ofRoot_congr ?_
    rw [Document.rootedAt_mergedEntries, Document.rootedAt_mergedEntries, same]
  rw [load_of_spells spells, load_of_spells spellsShorter, merged]

theorem ofGroups_some_ne_empty {document : Document} (filled : document ≠ .list []) :
    ofGroups (some document) ≠ .ok ⟨[]⟩ := by
  intro read
  cases document with
  | list items =>
      cases items with
      | nil => exact filled rfl
      | cons item rest =>
          simp only [ofGroups, Reader.sequence, Reader.items] at read
          split at read
          · cases read
          · cases others : Reader.items Reader.group [.key "groups"] 1 rest <;>
              simp [others, Except.map] at read
  | null | boolean | integer | real | text | table => cases read

theorem exists_spells_single (name content : String) :
    ∃ text, Json.Spells text (.table [(name, .text content)]) := by
  have opened : Json.Scans ['{'] [.openTable] := .mark fun _ => rfl
  have colon : Json.Scans [':'] [.colon] := .mark fun _ => rfl
  have closed : Json.Scans ['}'] [.closeTable] := .mark fun _ => rfl
  have scans := ((opened.append (Json.scans_writeText name)).append
    (colon.append (Json.scans_writeText content))).append closed
  have nested : Document.nesting (.table [(name, .text content)]) ≤ Json.depthLimit := by
    simp [Document.nesting, Document.nestingEntries, Json.depthLimit]
  exact ⟨_, Json.spells_of_scans scans nested⟩

theorem ofRoot_single {name : String} (rooted : KeyPath.root name = "groups") (value : Document) :
    ofRoot (.table [(name, value)]) = ofGroups (some (Document.settle (name, value) .null)) := by
  rw [ofRoot_table, Document.ofEntries, Document.get?_foldl_enter, Document.rootedAt]
  simp [rooted, Document.entries, Keyed.get?]

/-- A text as the value of an entry is noticed where its root is `groups`: it stands in the
place of the groups, or it replaces one of them or a part of one. -/
theorem exists_spells_load_ne {name : String} (rooted : KeyPath.root name = "groups") :
    ∃ text, Json.Spells text (.table [(name, .text "")]) ∧
      load .json text ≠ .ok (⟨[]⟩, []) := by
  obtain ⟨text, spells⟩ := exists_spells_single name ""
  refine ⟨text, spells, ?_⟩
  have settled : Document.settle (name, .text "") .null ≠ .list [] :=
    Document.update_ne_nil (by simp [Document.overlay]) _ _
  have filled := ofGroups_some_ne_empty settled
  rw [← ofRoot_single rooted] at filled
  rw [load_of_spells spells]
  intro loaded
  split at loaded
  · next config read =>
    simp only [Except.ok.injEq, Prod.mk.injEq] at loaded
    exact filled (loaded.1 ▸ read)
  · cases loaded

/-- Whether an entry can be left out of every text without any effect depends on its name: it
can unless its root is `groups`. -/
theorem load_without_entry_iff (name : String) :
    (∀ (text shorter : String) (before after : List (String × Document)) (value : Document),
      Json.Spells text (.table (before ++ (name, value) :: after)) →
        Json.Spells shorter (.table (before ++ after)) →
          load .json shorter = load .json text) ↔ KeyPath.root name ≠ "groups" := by
  constructor
  · intro unnoticed rooted
    obtain ⟨text, spells, noticed⟩ := exists_spells_load_ne rooted
    have spellsEmpty : Json.Spells "\x7b\x7d" (.table []) := ⟨by rfl, by decide⟩
    have empty : load .json "\x7b\x7d" = .ok (⟨[]⟩, []) := by rfl
    exact noticed (empty ▸ (unnoticed text "\x7b\x7d" [] [] _ spells spellsEmpty).symm)
  · intro elsewhere text shorter before after value spells spellsShorter
    refine load_congr_of_spells spells spellsShorter ?_
    simp [Document.rootedAt, elsewhere]

theorem load_without_version_entry :
    load .json "\x7b\"groups\":[\x7b\"agents\":[\"bot\"]\x7d]\x7d" =
      load .json "\x7b\"groups\":[\x7b\"agents\":[\"bot\"]\x7d],\"version\":null\x7d" :=
  (load_without_entry_iff "version").mpr (by decide) _ _
    [("groups", .list [.table [("agents", .list [.text "bot"])]])] [] .null
    ⟨by rfl, by decide⟩ ⟨by rfl, by decide⟩

/-- The entry `groups[0]` can not be left out of a text, although it is not named `groups`. -/
theorem not_forall_load_without_entry :
    ¬ ∀ (text shorter name : String) (before after : List (String × Document)) (value : Document),
      Json.Spells text (.table (before ++ (name, value) :: after)) →
        Json.Spells shorter (.table (before ++ after)) → name ≠ "groups" →
          load .json shorter = load .json text := by
  intro unnoticed
  have same := unnoticed "\x7b\"groups[0]\":\x7b\"agents\":[\"bot\"]\x7d\x7d" "\x7b\x7d"
    "groups[0]" [] [] (.table [("agents", .list [.text "bot"])]) ⟨by rfl, by decide⟩
    ⟨by rfl, by decide⟩ (by decide)
  have differs : (load .json "\x7b\x7d").toOption ≠
      (load .json "\x7b\"groups[0]\":\x7b\"agents\":[\"bot\"]\x7d\x7d").toOption := by
    decide +kernel
  exact differs (congrArg Except.toOption same)

end Config

end RobotsExclusion
