import RobotsExclusion.Proofs.TopLevelEntries

/-!
# Accepted shapes

Which documents are accepted as configurations, and what they are read as, said of the
document as it is written, with its repeated entries.  A reader of one kind of value accepts
exactly the values of that kind, at any place, and each part of a configuration is read by
a reader that is put together from the readers of its parts.  Where the top-level names are
plain, every entry stands for itself.  The text of a number is not always the way it is written:
a floating point number has its shortest text.
-/

namespace RobotsExclusion

namespace Keyed

variable {α : Type} {name : String} {value : α} {keyed : Keyed α}

theorem map_fst_put (name : String) (value : α) (keyed : Keyed α) :
    (put name value keyed).map Prod.fst =
      if name ∈ keyed.map Prod.fst then keyed.map Prod.fst else keyed.map Prod.fst ++ [name] := by
  induction keyed with
  | nil => simp [put]
  | cons entry rest ih =>
      by_cases same : entry.1 = name
      · simp [put, same]
      · rw [put, if_neg same, List.map_cons, ih]
        split <;> simp_all [Ne.symm same]

theorem mem_put {entry : String × α} (member : entry ∈ put name value keyed) :
    entry = (name, value) ∨ entry ∈ keyed := by
  induction keyed with
  | nil => exact .inl (List.mem_singleton.mp member)
  | cons first rest ih =>
      unfold put at member
      split at member
      · rcases List.mem_cons.mp member with same | later
        · exact .inl same
        · exact .inr (List.mem_cons_of_mem first later)
      · rcases List.mem_cons.mp member with same | later
        · exact .inr (same ▸ List.mem_cons_self)
        · exact (ih later).imp_right (List.mem_cons_of_mem first)

end Keyed

namespace KeyPath

/-- A name of letters, digits, underscores and hyphens is a path of one step.  The empty name
is no path and stands for itself. -/
theorem ofName_of_isNameChar {name : String} (plain : ∀ c ∈ name.toList, isNameChar c = true) :
    ofName name = [.key name] := by
  have run : parse? name = (nameStep? (name.toList.reverse ++ [])).map fun step => [step] := by
    rw [parse?, foldlM_nameChars [] name.toList plain]
    rfl
  rw [List.append_nil] at run
  rw [ofName, run, nameStep?]
  split <;> simp

end KeyPath

namespace Document

section Merging

variable {name : String} {value : Document} {keyed lower : Keyed Document}

/-- The value of the last entry with a name. -/
def last? (name : String) (entries : List (String × Document)) : Option Document :=
  (entries.filter fun entry => entry.1 = name).getLast?.map Prod.snd

theorem last?_cons (name : String) (entry : String × Document)
    (rest : List (String × Document)) : last? name (entry :: rest) =
      (last? name rest).or (if entry.1 = name then some entry.2 else none) := by
  by_cases same : entry.1 = name
  · simp only [last?, List.filter_cons, same, decide_true, if_true, List.getLast?_cons]
    cases (rest.filter fun entry => entry.1 = name).getLast? <;> rfl
  · simp [last?, same]

/-- Of several entries with one name the last counts. -/
theorem get?_mergedEntries (name : String) (entries : List (String × Document))
    (read : Keyed Document) : Keyed.get? name (mergedEntries entries read) =
      ((last? name entries).map merged).or (Keyed.get? name read) := by
  induction entries generalizing read with
  | nil => rfl
  | cons entry rest ih =>
      obtain ⟨other, value⟩ := entry
      rw [mergedEntries, ih, last?_cons]
      by_cases same : other = name
      · subst same
        cases last? other rest <;> simp
      · rw [Keyed.get?_put_of_ne (Ne.symm same)]
        cases last? name rest <;> simp [same]

/-- Each name occurs once, and each value is entered at a free place as it is. -/
structure IsTidy (keyed : Keyed Document) : Prop where
  distinct : (keyed.map Prod.fst).Nodup
  stays : ∀ entry ∈ keyed, overlay entry.2 .null = entry.2

theorem IsTidy.put (tidy : IsTidy keyed) (stays : overlay value .null = value) (name : String) :
    IsTidy (Keyed.put name value keyed) := by
  constructor
  · rw [Keyed.map_fst_put]
    split
    · exact tidy.distinct
    · next new =>
      refine List.nodup_append.mpr ⟨tidy.distinct, List.pairwise_singleton _ name, ?_⟩
      intro other known last member same
      obtain rfl := List.mem_singleton.mp member
      exact new (same ▸ known)
  · intro entry member
    rcases Keyed.mem_put member with rfl | known
    · exact stays
    · exact tidy.stays entry known

theorem overlayEntries_of_isTidy (keyed lower : Keyed Document) (tidy : IsTidy (lower ++ keyed)) :
    overlayEntries keyed lower = lower ++ keyed := by
  induction keyed generalizing lower with
  | nil => rw [overlayEntries, List.append_nil]
  | cons entry rest ih =>
      obtain ⟨name, value⟩ := entry
      have new : name ∉ lower.map Prod.fst := by
        have distinct := tidy.distinct
        rw [List.map_append, List.nodup_append] at distinct
        intro known
        exact distinct.2.2 name known name (by simp) rfl
      have stays := tidy.stays (name, value) (by simp)
      have regrouped : lower ++ (name, value) :: rest = lower ++ [(name, value)] ++ rest := by simp
      rw [regrouped] at tidy ⊢
      rw [overlayEntries, Keyed.get?_of_not_mem new, Option.getD_none, stays,
        Keyed.put_of_not_mem value new, ih _ tidy]

mutual

/-- A merged document is entered at a free place as it is. -/
theorem overlay_merged : (written : Document) → overlay written.merged .null = written.merged
  | .null | .boolean _ | .integer _ | .real _ | .text _ | .list _ => rfl
  | .table entries => by
      have tidy : IsTidy (mergedEntries entries []) :=
        isTidy_mergedEntries entries [] ⟨List.nodup_nil, by simp⟩
      rw [merged, overlay]
      exact congrArg table (overlayEntries_of_isTidy _ [] tidy)

theorem isTidy_mergedEntries : (entries : List (String × Document)) → (read : Keyed Document) →
    IsTidy read → IsTidy (mergedEntries entries read)
  | [], _ => id
  | (name, value) :: rest, _ => fun tidy =>
      isTidy_mergedEntries rest _ (tidy.put (overlay_merged value) name)

end

end Merging

section Kinds

/-- A scalar other than null. -/
def IsScalar : Document → Prop
  | .boolean _ => True
  | .integer _ => True
  | .real _ => True
  | .text _ => True
  | _ => False

/-- A list whose items are all of one kind. -/
def IsListOf (kind : Document → Prop) : Document → Prop
  | .list items => ∀ item ∈ items, kind item
  | _ => False

/-- A field as it is written: the last entry with its name in a table, or the item at its
position in a list. -/
def member? (name : String) (position : Nat) : Document → Option Document
  | .list items => items[position]?
  | .table entries => last? name entries
  | _ => none

/-- A field is of one kind, if it is present. -/
def FieldIs (name : String) (position : Nat) (kind : Document → Prop) (document : Document) :
    Prop :=
  ∀ value, document.member? name position = some value → kind value

/-- A value that can have fields. -/
def IsListOrTable : Document → Prop
  | .list _ => True
  | .table _ => True
  | _ => False

/-- A list or a table with two fields. -/
structure IsRecord (first second : Document → Prop) (document : Document) : Prop where
  hasFields : document.IsListOrTable
  first : first document
  second : second document

def IsLine : Document → Prop :=
  IsRecord (FieldIs "rule" 0 IsScalar) (FieldIs "path" 1 IsScalar)

def IsGroup : Document → Prop :=
  IsRecord (FieldIs "agents" 0 (IsListOf IsScalar)) (FieldIs "rules" 1 (IsListOf IsLine))

/-- A table whose entry `groups`, if it is present, is a list of groups. -/
def IsConfig : Document → Prop
  | .table entries => FieldIs "groups" 0 (IsListOf IsGroup) (.table entries)
  | _ => False

/-- The names at the top level consist of letters, digits, underscores and hyphens. -/
def HasPlainNames : Document → Prop
  | .table entries => ∀ entry ∈ entries, ∀ c ∈ entry.1.toList, c.isAlphanum ∨ c = '_' ∨ c = '-'
  | _ => True

section Deciding

variable {kind first second : Document → Prop} [DecidablePred kind]

instance : DecidablePred IsScalar
  | .boolean _ | .integer _ | .real _ | .text _ => .isTrue trivial
  | .null | .list _ | .table _ => .isFalse id

instance : DecidablePred (IsListOf kind)
  | .list items => inferInstanceAs (Decidable (∀ item ∈ items, kind item))
  | .null | .boolean _ | .integer _ | .real _ | .text _ | .table _ => .isFalse id

instance (name : String) (position : Nat) : DecidablePred (FieldIs name position kind) :=
  fun document =>
    match present : document.member? name position with
    | some value => decidable_of_iff (kind value) (by simp [FieldIs, present])
    | none => .isTrue (by simp [FieldIs, present])

instance : DecidablePred IsListOrTable
  | .list _ | .table _ => .isTrue trivial
  | .null | .boolean _ | .integer _ | .real _ | .text _ => .isFalse id

instance [DecidablePred first] [DecidablePred second] :
    DecidablePred (IsRecord first second) := fun document =>
  decidable_of_iff (document.IsListOrTable ∧ first document ∧ second document)
    ⟨fun ⟨hasFields, one, other⟩ => ⟨hasFields, one, other⟩, fun record =>
      ⟨record.hasFields, record.first, record.second⟩⟩

instance : DecidablePred IsLine :=
  inferInstanceAs (DecidablePred (IsRecord _ _))

instance : DecidablePred IsGroup :=
  inferInstanceAs (DecidablePred (IsRecord _ _))

instance : DecidablePred IsConfig
  | .table _ => inferInstanceAs (Decidable (FieldIs "groups" 0 (IsListOf IsGroup) _))
  | .null | .boolean _ | .integer _ | .real _ | .text _ | .list _ => .isFalse id

instance : DecidablePred HasPlainNames
  | .table entries =>
      decidable_of_iff (entries.all fun entry => entry.1.toList.all KeyPath.isNameChar)
        (by simp [HasPlainNames, KeyPath.isNameChar, or_assoc])
  | .null | .boolean _ | .integer _ | .real _ | .text _ | .list _ => .isTrue trivial

end Deciding

end Kinds

section Readings

variable {α : Type}

/-- The text of a scalar: a text itself, a word or an integer, and the shortest text of a
floating point number, which is not always the way it is written. -/
def asText : Document → String
  | .text value => value
  | .boolean true => "true"
  | .boolean false => "false"
  | .integer value => toString value
  | .real value => value.text
  | _ => ""

def asListOf (item : Document → α) : Document → List α
  | .list items => items.map item
  | _ => []

/-- The reading of a field; a missing one has the default value. -/
def fieldAs (name : String) (position : Nat) (default : α) (reading : Document → α)
    (document : Document) : α :=
  ((document.member? name position).map reading).getD default

def asLine (document : Document) : Line :=
  ⟨document.fieldAs "rule" 0 "" asText, document.fieldAs "path" 1 "" asText⟩

def asGroup (document : Document) : Group :=
  ⟨document.fieldAs "agents" 0 [] (asListOf asText),
    document.fieldAs "rules" 1 [] (asListOf asLine)⟩

def asConfig (document : Document) : Config :=
  ⟨document.fieldAs "groups" 0 [] (asListOf asGroup)⟩

end Readings

section Texts

/-- The text of a scalar, said of its value.  That of a floating point number is the shortest
decimal that is rounded to it. -/
inductive HasText : Document → String → Prop
  | text (value : String) : HasText (.text value) value
  | true : HasText (.boolean true) "true"
  | false : HasText (.boolean false) "false"
  | integer (value : Int) : HasText (.integer value) (toString value)
  | real {negative : Bool} {units : Nat} {text : String}
      (shortest : Binary64.IsShortestText negative units text) :
      HasText (.real (.finite negative units)) text

theorem hasText_asText {spelling : List Char} {value : Document}
    (stands : Json.StandsFor spelling value) (scalar : value.IsScalar) :
    HasText value value.asText := by
  cases stands with
  | null => exact scalar.elim
  | true => exact .true
  | false => exact .false
  | integer => exact .integer _
  | real spells other isReadAs =>
      exact .real (Binary64.isShortestText_text _ isReadAs.isMagnitude)

theorem hasText_of_standsFor {spellings : List (List Char)} {values : List Document}
    (stands : List.Forall₂ Json.StandsFor spellings values) :
    ∀ value ∈ values, value.IsScalar → HasText value value.asText := by
  induction stands with
  | nil => simp
  | cons first _ ih => exact List.forall_mem_cons.mpr ⟨hasText_asText first, ih⟩

end Texts

section PlainNames

variable {entries keyed lower : List (String × Document)}

theorem mem_mergedEntries {entry : String × Document} (entries : List (String × Document))
    (read : Keyed Document) (member : entry ∈ mergedEntries entries read) :
    entry.1 ∈ entries.map Prod.fst ∨ entry ∈ read := by
  induction entries generalizing read with
  | nil => exact .inr member
  | cons first rest ih =>
      obtain ⟨name, value⟩ := first
      rcases ih _ member with later | entered
      · exact .inl (List.mem_cons_of_mem name later)
      · rcases Keyed.mem_put entered with rfl | known
        · exact .inl List.mem_cons_self
        · exact .inr known

/-- Entries with plain names are laid over each other like those of any table. -/
theorem foldl_enter_of_hasPlainNames (plain : HasPlainNames (.table keyed))
    (lower : Keyed Document) :
    keyed.foldl enter (.table lower) = .table (overlayEntries keyed lower) := by
  induction keyed generalizing lower with
  | nil => rfl
  | cons entry rest ih =>
      obtain ⟨name, value⟩ := entry
      have path : KeyPath.ofName name = [.key name] :=
        KeyPath.ofName_of_isNameChar fun c member => by
          simpa [KeyPath.isNameChar, or_assoc] using plain (name, value) List.mem_cons_self c member
      have entered : enter (.table lower) (name, value) =
          .table (Keyed.put name (overlay value ((Keyed.get? name lower).getD .null)) lower) := by
        rw [enter, path]
        rfl
      rw [List.foldl_cons, entered, overlayEntries,
        ih fun other member => plain other (List.mem_cons_of_mem _ member)]

theorem ofEntries_mergedEntries (plain : HasPlainNames (.table entries)) :
    ofEntries (mergedEntries entries []) = .table (mergedEntries entries []) := by
  have kept : HasPlainNames (.table (mergedEntries entries [])) := by
    intro entry member
    rcases mem_mergedEntries entries [] member with known | new
    · obtain ⟨other, otherMember, same⟩ := List.mem_map.mp known
      exact same ▸ plain other otherMember
    · cases new
  rw [ofEntries, foldl_enter_of_hasPlainNames kept]
  exact overlay_merged (.table entries)

end PlainNames

section Fields

theorem merged_list (items : List Document) : merged (.list items) = .list (items.map merged) := by
  rw [merged, mergedItems_eq_map]

theorem isRecord_merged_iff {document : Document} :
    document.merged.isRecord = true ↔ document.IsListOrTable := by
  cases document with
  | list | table => exact iff_of_true rfl trivial
  | null | boolean | integer | real | text => exact iff_of_false Bool.false_ne_true id

theorem field?_merged (name : String) (position : Nat) (document : Document) :
    ∃ step, document.merged.field? name position =
      (document.member? name position).map fun value => (step, value.merged) := by
  cases document with
  | list items =>
      refine ⟨.index position, ?_⟩
      rw [merged_list, field?, member?, List.getElem?_map, Option.map_map]
      rfl
  | table entries =>
      refine ⟨.key name, ?_⟩
      rw [merged, field?, get?_mergedEntries, member?, Keyed.get?, Option.or_none, Option.map_map]
      rfl
  | null | boolean | integer | real | text => exact ⟨.key name, rfl⟩

end Fields

end Document

namespace Config

namespace Reader

open Document

variable {α β γ : Type} {reader : Reader α} {kind : Document → Prop} {reading : Document → α}

/-- A reader accepts the documents of one kind, at any place and with their repeated entries
merged, and reads them in one way. -/
structure Reads (reader : Reader α) (kind : Document → Prop) (reading : Document → α) : Prop where
  fits : ∀ {document}, kind document → ∀ place,
    reader place document.merged = .ok (reading document)
  misfits : ∀ {document}, ¬ kind document → ∀ place,
    ∃ misfit, reader place document.merged = .error misfit

theorem reads_text : Reads text IsScalar asText where
  fits := by
    intro document scalar place
    cases document with
    | boolean value => cases value <;> rfl
    | integer | real | text => rfl
    | null | list | table => exact scalar.elim
  misfits := by
    intro document other place
    cases document with
    | boolean | integer | real | text => exact absurd trivial other
    | null | list | table => exact ⟨_, rfl⟩

namespace Reads

theorem items (item : Reads reader kind reading) {documents : List Document}
    (each : ∀ document ∈ documents, kind document) (place : List Step) (position : Nat) :
    Reader.items reader place position (documents.map merged) = .ok (documents.map reading) := by
  induction documents generalizing position with
  | nil => rfl
  | cons document rest ih =>
      have first := item.fits (each document List.mem_cons_self) (place ++ [.index position])
      have others := ih (fun other member => each other (List.mem_cons_of_mem document member))
        (position + 1)
      rw [List.map_cons, Reader.items, first, others]
      rfl

/-- The first item of another kind is a misfit. -/
theorem exists_items_eq_error (item : Reads reader kind reading) {documents : List Document}
    (mixed : ¬ ∀ document ∈ documents, kind document) (place : List Step) (position : Nat) :
    ∃ misfit, Reader.items reader place position (documents.map merged) = .error misfit := by
  induction documents generalizing position with
  | nil => exact absurd (by simp) mixed
  | cons document rest ih =>
      rw [List.map_cons, Reader.items]
      by_cases first : kind document
      · have later : ¬ ∀ document ∈ rest, kind document := by
          intro each
          exact mixed (List.forall_mem_cons.mpr ⟨first, each⟩)
        obtain ⟨misfit, found⟩ := ih later (position + 1)
        rw [item.fits first, found]
        exact ⟨misfit, rfl⟩
      · obtain ⟨misfit, found⟩ := item.misfits first (place ++ [.index position])
        rw [found]
        exact ⟨misfit, rfl⟩

theorem sequence (item : Reads reader kind reading) :
    Reads (Reader.sequence reader) (IsListOf kind) (asListOf reading) where
  fits := by
    intro document list place
    cases document with
    | list documents =>
        rw [merged_list]
        exact item.items list place 0
    | null | boolean | integer | real | text | table => exact list.elim
  misfits := by
    intro document other place
    cases document with
    | list documents =>
        rw [merged_list]
        exact item.exists_items_eq_error other place 0
    | null | boolean | integer | real | text | table => exact ⟨_, rfl⟩

theorem field (value : Reads reader kind reading) (name : String) (position : Nat) (default : α) :
    Reads (Reader.field name position default reader) (FieldIs name position kind)
      (fieldAs name position default reading) where
  fits := by
    intro document present place
    obtain ⟨step, found⟩ := field?_merged name position document
    rw [Reader.field, found, fieldAs]
    cases member : document.member? name position with
    | none => rfl
    | some inner => exact value.fits (present inner member) (place ++ [step])
  misfits := by
    intro document other place
    obtain ⟨step, found⟩ := field?_merged name position document
    rw [Reader.field, found]
    cases member : document.member? name position with
    | none => exact absurd (by simp [FieldIs, member]) other
    | some inner =>
        refine value.misfits (fun fits => other ?_) (place ++ [step])
        intro stated same
        obtain rfl : inner = stated := Option.some.inj (member.symm.trans same)
        exact fits

/-- The fields of a record are read one after the other, so the first misfit is reported. -/
theorem record {first : Reader α} {second : Reader β} {isFirst isSecond : Document → Prop}
    {asFirst : Document → α} {asSecond : Document → β} (readsFirst : Reads first isFirst asFirst)
    (readsSecond : Reads second isSecond asSecond) (expected : Expectation) (make : α → β → γ) :
    Reads
      (fun place document =>
        if document.isRecord then do
          let one ← first place document
          let other ← second place document
          return make one other
        else
          .error (.inside document expected place))
      (IsRecord isFirst isSecond)
      (fun document => make (asFirst document) (asSecond document)) where
  fits := by
    intro document record place
    rw [if_pos (isRecord_merged_iff.mpr record.hasFields), readsFirst.fits record.first,
      readsSecond.fits record.second]
    rfl
  misfits := by
    intro document other place
    split
    · next isRecord =>
      have hasFields := isRecord_merged_iff.mp isRecord
      by_cases one : isFirst document
      · have two : ¬ isSecond document := fun two => other ⟨hasFields, one, two⟩
        obtain ⟨misfit, found⟩ := readsSecond.misfits two place
        rw [readsFirst.fits one, found]
        exact ⟨misfit, rfl⟩
      · obtain ⟨misfit, found⟩ := readsFirst.misfits one place
        rw [found]
        exact ⟨misfit, rfl⟩
    · exact ⟨_, rfl⟩

end Reads

theorem reads_line : Reads line IsLine asLine :=
  (reads_text.field "rule" 0 "").record (reads_text.field "path" 1 "") .line Line.mk

theorem reads_group : Reads group IsGroup asGroup :=
  (reads_text.sequence.field "agents" 0 []).record (reads_line.sequence.field "rules" 1 []) .group
    Group.mk

theorem reads_groups : Reads (field "groups" 0 [] (sequence group))
    (FieldIs "groups" 0 (IsListOf IsGroup)) (fieldAs "groups" 0 [] (asListOf asGroup)) :=
  reads_group.sequence.field "groups" 0 []

end Reader

section Loading

open Document

variable {written : Document} {text : String}

theorem ofRoot_of_isConfig (plain : written.HasPlainNames) (accepted : written.IsConfig) :
    ofRoot written.merged = .ok written.asConfig := by
  cases written with
  | table entries =>
      have read := Reader.reads_groups.fits accepted []
      rw [merged] at read ⊢
      rw [ofRoot, ofEntries_mergedEntries plain, ofDocument, read]
      rfl
  | null | boolean | integer | real | text | list => exact accepted.elim

theorem exists_ofRoot_eq_error (plain : written.HasPlainNames) (refused : ¬ written.IsConfig) :
    ∃ misfit, ofRoot written.merged = .error misfit := by
  cases written with
  | table entries =>
      obtain ⟨misfit, found⟩ := Reader.reads_groups.misfits refused []
      rw [merged] at found ⊢
      rw [ofRoot, ofEntries_mergedEntries plain, ofDocument, found]
      exact ⟨misfit, rfl⟩
  | null | boolean | integer | real | text | list => exact ⟨_, rfl⟩

/-- A JSON text that is read spells a document.  Its words and numerals stand for those of the
document, whose texts are the shortest ones.  With plain names at the top level it loads
exactly when that document has the shape of a configuration, as the reading of its fields;
otherwise a misfit is reported. -/
theorem load_iff_isConfig {text : String} (parsed : (Json.parse? text).isSome) :
    (∃ written, Json.Spells text written) ∧
      ∀ written, Json.Spells text written →
        List.Forall₂ Json.StandsFor (Json.words text.toList) (Json.bareValues written) ∧
        (∀ value ∈ Json.bareValues written, value.IsScalar → HasText value value.asText) ∧
        (written.HasPlainNames →
          ((∃ loaded, load .json text = .ok loaded) ↔ written.IsConfig) ∧
            (written.IsConfig →
              load .json text = .ok (written.asConfig, written.asConfig.warnings)) ∧
            (¬ written.IsConfig → ∃ misfit, load .json text = .error (.misfit misfit))) := by
  constructor
  · obtain ⟨document, read⟩ := Option.isSome_iff_exists.mp parsed
    obtain ⟨written, spells, -⟩ := Json.parse?_eq_some_iff.mp read
    exact ⟨written, spells⟩
  · intro written spells
    refine ⟨spells.standsFor, hasText_of_standsFor spells.standsFor, fun plain => ?_⟩
    have loaded (accepted : written.IsConfig) :
        load .json text = .ok (written.asConfig, written.asConfig.warnings) := by
      rw [load_of_spells spells, ofRoot_of_isConfig plain accepted]
    have refused (other : ¬ written.IsConfig) :
        ∃ misfit, load .json text = .error (.misfit misfit) := by
      obtain ⟨misfit, found⟩ := exists_ofRoot_eq_error plain other
      exact ⟨misfit, by rw [load_of_spells spells, found]⟩
    refine ⟨⟨?_, fun accepted => ⟨_, loaded accepted⟩⟩, loaded, refused⟩
    rintro ⟨result, ok⟩
    by_contra other
    obtain ⟨misfit, found⟩ := refused other
    rw [found] at ok
    cases ok

theorem load_odd_shapes :
    load .json ("\x7b\"groups\":0,\"x\":null,\"groups\":[[[\"a\",true,2,1.50,-4e3]," ++
        "[[\"allow\"],\x7b\"rule\":\"no\",\"rule\":false\x7d],0],\x7b\x7d]\x7d") =
      .ok (⟨[⟨["a", "true", "2", "1.5", "-4000"], [⟨"allow", ""⟩, ⟨"false", ""⟩]⟩, ⟨[], []⟩]⟩,
        ["Group declares no agents and will never match group=1"]) ∧
    ∃ misfit, load .json "\x7b\"groups\":[null]\x7d" = .error (.misfit misfit) := by
  constructor
  · refine Eq.trans ((((load_iff_isConfig (by decide +kernel)).2
      (.table [("groups", .integer 0), ("x", .null),
        ("groups", .list [
          .list [.list [.text "a", .boolean true, .integer 2,
              .real (.finite false (3 * twoTo 1073)), .real (.finite true (4000 * twoTo 1074))],
            .list [.list [.text "allow"],
              .table [("rule", .text "no"), ("rule", .boolean false)]],
            .integer 0],
          .table []])])
      ⟨by decide +kernel, by decide⟩).2.2 (by decide)).2.1 (by decide)) ?_
    exact congrArg Except.ok (by decide +kernel)
  · exact (((load_iff_isConfig (by decide +kernel)).2 (.table [("groups", .list [.null])])
      ⟨by decide +kernel, by decide⟩).2.2 (by decide)).2.2 (by decide)

end Loading

end Config

end RobotsExclusion
