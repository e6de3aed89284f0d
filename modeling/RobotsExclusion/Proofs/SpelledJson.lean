import RobotsExclusion.Proofs.JsonWords
import RobotsExclusion.Proofs.WrittenJson

/-!
# What a JSON text spells

A JSON text spells a document with its entries in their order, also where a name is repeated.
The tokens of a text that is read always are those of such a document, not nested too deep.
What is read is that document with the repeated entries merged: of several entries with one
name the last counts, at the place of the first.  The words and numerals of the text stand for
those of the document.
-/

namespace RobotsExclusion

namespace Document

mutual

/-- A document with its repeated entries merged. -/
def merged : Document → Document
  | .null => .null
  | .boolean value => .boolean value
  | .integer value => .integer value
  | .real value => .real value
  | .text value => .text value
  | .list items => .list (mergedItems items)
  | .table entries => .table (mergedEntries entries [])

def mergedItems : List Document → List Document
  | [] => []
  | item :: rest => merged item :: mergedItems rest

/-- Enters the entries of a table after the ones that have been read. -/
def mergedEntries : (entries : List (String × Document)) → (read : Keyed Document) →
    Keyed Document
  | [], read => read
  | (name, value) :: rest, read => mergedEntries rest (Keyed.put name (merged value) read)

end

mutual

/-- How deep lists and tables are nested in a document. -/
def nesting : Document → Nat
  | .null => 0
  | .boolean _ => 0
  | .integer _ => 0
  | .real _ => 0
  | .text _ => 0
  | .list items => nestingItems items + 1
  | .table entries => nestingEntries entries + 1

def nestingItems : List Document → Nat
  | [] => 0
  | item :: rest => max (nesting item) (nestingItems rest)

def nestingEntries : List (String × Document) → Nat
  | [] => 0
  | (_, value) :: rest => max (nesting value) (nestingEntries rest)

end

/-- A value that is written without a mark: a word or a number. -/
def IsBare : Document → Prop
  | .null => True
  | .boolean _ => True
  | .integer _ => True
  | .real _ => True
  | _ => False

theorem mergedItems_eq_map (items : List Document) : mergedItems items = items.map merged := by
  induction items with
  | nil => rfl
  | cons item rest ih => rw [mergedItems, ih, List.map_cons]

end Document

namespace Json

open Document

mutual

/-- The tokens of a document, whose entries are written in their order. -/
def tokensOf : Document → List Token
  | .null => [.scalar .null]
  | .boolean value => [.scalar (.boolean value)]
  | .integer value => [.scalar (.integer value)]
  | .real value => [.scalar (.real value)]
  | .text value => [.text value]
  | .list [] => [.openList, .closeList]
  | .list (item :: rest) => .openList :: tokensOf item ++ tokensOfItems rest ++ [.closeList]
  | .table [] => [.openTable, .closeTable]
  | .table ((name, value) :: rest) =>
      .openTable :: .text name :: .colon :: tokensOf value ++ tokensOfEntries rest ++ [.closeTable]

def tokensOfItems : List Document → List Token
  | [] => []
  | item :: rest => .comma :: tokensOf item ++ tokensOfItems rest

def tokensOfEntries : List (String × Document) → List Token
  | [] => []
  | (name, value) :: rest =>
      .comma :: .text name :: .colon :: tokensOf value ++ tokensOfEntries rest

end

/-- A text that spells a document as it is written, with its repeated entries. -/
structure Spells (text : String) (written : Document) : Prop where
  tokens : tokens? text.toList = some (tokensOf written)
  nested : written.nesting ≤ depthLimit

section Reading

variable {frames : List Frame} {document : Document}

theorem advance_openList (room : frames.length < depthLimit) :
    Machine.advance ⟨.value, frames⟩ .openList = some ⟨.listStart, frames⟩ :=
  if_pos room

theorem advance_openTable (room : frames.length < depthLimit) :
    Machine.advance ⟨.value, frames⟩ .openTable = some ⟨.tableStart, frames⟩ :=
  if_pos room

theorem advance_closeList (items : List Document) (frames : List Frame) :
    Machine.advance ⟨.listRest items, frames⟩ .closeList =
      some (deliver (.list items.reverse) frames) :=
  rfl

theorem advance_closeTable (entries : List (String × Document)) (frames : List Frame) :
    Machine.advance ⟨.tableRest entries, frames⟩ .closeTable =
      some (deliver (.table entries) frames) :=
  rfl

/-- A value after its name is entered into the table. -/
theorem Builds.entry {depth : Nat} {tokens : List Token} (builds : Builds depth tokens document)
    (name : String) (read : Keyed Document) (frames : List Frame)
    (room : frames.length + (depth + 1) ≤ depthLimit) :
    (.colon :: tokens).foldlM Machine.advance ⟨.colon read name, frames⟩ =
      some ⟨.tableRest (Keyed.put name document read), frames⟩ := by
  have named : Machine.advance ⟨.colon read name, frames⟩ .colon =
      some ⟨.value, .table read name :: frames⟩ := rfl
  rw [foldlM_cons_of_eq_some named]
  exact builds (.table read name :: frames) (by rw [List.length_cons]; omega)

mutual

/-- Where a value is due, the machine puts the tokens of a document together to the merged
document. -/
theorem builds_tokensOf : (written : Document) →
    Builds written.nesting (tokensOf written) written.merged
  | .null | .boolean _ | .integer _ | .real _ | .text _ => fun _ _ => rfl
  | .list [] => by
      intro frames room
      rw [tokensOf, foldlM_cons_of_eq_some (advance_openList (by rw [nesting] at room; omega))]
      rfl
  | .list (item :: rest) => by
      intro frames room
      rw [nesting, nestingItems] at room
      have first : (tokensOf item).foldlM Machine.advance ⟨.listStart, frames⟩ =
          some ⟨.listRest [item.merged], frames⟩ := (builds_tokensOf item).listStart (by omega)
      have others := foldlM_tokensOfItems rest [item.merged] frames (by omega)
      rw [tokensOf, List.cons_append, List.cons_append,
        foldlM_cons_of_eq_some (advance_openList (by omega)), List.append_assoc,
        foldlM_append_of_eq_some first, foldlM_append_of_eq_some others,
        foldlM_cons_of_eq_some (advance_closeList _ _)]
      simp [merged, mergedItems]
  | .table [] => by
      intro frames room
      rw [tokensOf, foldlM_cons_of_eq_some (advance_openTable (by rw [nesting] at room; omega))]
      rfl
  | .table ((name, value) :: rest) => by
      intro frames room
      rw [nesting, nestingEntries] at room
      have named : Machine.advance ⟨.tableStart, frames⟩ (.text name) =
          some ⟨.colon [] name, frames⟩ := rfl
      have first := (builds_tokensOf value).entry name [] frames (by omega)
      have others := foldlM_tokensOfEntries rest (Keyed.put name value.merged []) frames (by omega)
      rw [tokensOf, List.cons_append, List.cons_append,
        foldlM_cons_of_eq_some (advance_openTable (by omega)), List.cons_append, List.cons_append,
        foldlM_cons_of_eq_some named, List.append_assoc, foldlM_append_of_eq_some first,
        foldlM_append_of_eq_some others, foldlM_cons_of_eq_some (advance_closeTable _ _)]
      rfl

theorem foldlM_tokensOfItems : (items : List Document) → ∀ (read : List Document)
    (frames : List Frame), frames.length + (nestingItems items + 1) ≤ depthLimit →
      (tokensOfItems items).foldlM Machine.advance ⟨.listRest read, frames⟩ =
        some ⟨.listRest ((mergedItems items).reverse ++ read), frames⟩
  | [] => fun _ _ _ => rfl
  | item :: rest => by
      intro read frames room
      rw [nestingItems] at room
      have separated : Machine.advance ⟨.listRest read, frames⟩ .comma =
          some ⟨.value, .list read :: frames⟩ := rfl
      have first : (tokensOf item).foldlM Machine.advance ⟨.value, .list read :: frames⟩ =
          some ⟨.listRest (item.merged :: read), frames⟩ :=
        builds_tokensOf item (.list read :: frames) (by rw [List.length_cons]; omega)
      rw [tokensOfItems, List.cons_append, foldlM_cons_of_eq_some separated,
        foldlM_append_of_eq_some first, foldlM_tokensOfItems rest _ frames (by omega)]
      simp [mergedItems]

theorem foldlM_tokensOfEntries : (entries : List (String × Document)) →
    ∀ (read : Keyed Document) (frames : List Frame),
      frames.length + (nestingEntries entries + 1) ≤ depthLimit →
        (tokensOfEntries entries).foldlM Machine.advance ⟨.tableRest read, frames⟩ =
          some ⟨.tableRest (mergedEntries entries read), frames⟩
  | [] => fun _ _ _ => rfl
  | (name, value) :: rest => by
      intro read frames room
      rw [nestingEntries] at room
      have separated : Machine.advance ⟨.tableRest read, frames⟩ .comma =
          some ⟨.name read, frames⟩ := rfl
      have named : Machine.advance ⟨.name read, frames⟩ (.text name) =
          some ⟨.colon read name, frames⟩ := rfl
      have first := (builds_tokensOf value).entry name read frames (by omega)
      rw [tokensOfEntries, List.cons_append, List.cons_append, List.cons_append,
        foldlM_cons_of_eq_some separated, foldlM_cons_of_eq_some named, ← List.cons_append,
        foldlM_append_of_eq_some first, foldlM_tokensOfEntries rest _ frames (by omega)]
      rfl

end

end Reading

section Splitting

variable {machine : Machine} {token : Token} {tokens : List Token} {document : Document}
  {frames : List Frame}

/-- The machine reads these tokens to the end and gives a document. -/
def Runs (machine : Machine) (tokens : List Token) (document : Document) : Prop :=
  (tokens.foldlM Machine.advance machine).bind Machine.finish = some document

theorem runs_cons_iff : Runs machine (token :: tokens) document ↔
    ∃ next, machine.advance token = some next ∧ Runs next tokens document := by
  rw [Runs, List.foldlM_cons]
  cases machine.advance token <;> simp [Runs]

/-- The scalar of a token is a word or a number. -/
def Token.IsGenuine : Token → Prop
  | .scalar value => value.IsBare
  | _ => True

/-- How runs on tokens split them into the tokens of a document, or of the further items or
entries of one, and a rest. -/
structure Splits (tokens : List Token) : Prop where
  value : ∀ frames document, frames.length ≤ depthLimit → Runs ⟨.value, frames⟩ tokens document →
    ∃ written rest, tokens = tokensOf written ++ rest ∧
      frames.length + written.nesting ≤ depthLimit ∧
        Runs (deliver written.merged frames) rest document
  items : ∀ read frames document, frames.length < depthLimit →
    Runs ⟨.listRest read, frames⟩ tokens document →
      ∃ items rest, tokens = tokensOfItems items ++ .closeList :: rest ∧
        frames.length + (nestingItems items + 1) ≤ depthLimit ∧
          Runs (deliver (.list (read.reverse ++ mergedItems items)) frames) rest document
  entries : ∀ read frames document, frames.length < depthLimit →
    Runs ⟨.tableRest read, frames⟩ tokens document →
      ∃ entries rest, tokens = tokensOfEntries entries ++ .closeTable :: rest ∧
        frames.length + (nestingEntries entries + 1) ≤ depthLimit ∧
          Runs (deliver (.table (mergedEntries entries read)) frames) rest document

/-- Runs on what is left after some of these tokens are split. -/
def SplitsLater (tokens : List Token) : Prop :=
  ∀ dropped later, tokens = dropped ++ later → dropped ≠ [] → Splits later

theorem SplitsLater.tail (shorter : SplitsLater (token :: tokens)) : SplitsLater tokens := by
  intro dropped later split _
  exact shorter (token :: dropped) later (by rw [split, List.cons_append]) (by simp)

theorem not_runs_nil (unfinished : machine.finish = none) : ¬ Runs machine [] document := by
  intro run
  have finished : machine.finish = some document := run
  simp [unfinished] at finished

theorem splits_items_of_shorter (shorter : SplitsLater tokens)
    (read : List Document) (room : frames.length < depthLimit)
    (run : Runs ⟨.listRest read, frames⟩ tokens document) :
    ∃ items rest, tokens = tokensOfItems items ++ .closeList :: rest ∧
      frames.length + (nestingItems items + 1) ≤ depthLimit ∧
        Runs (deliver (.list (read.reverse ++ mergedItems items)) frames) rest document := by
  cases tokens with
  | nil => exact absurd run (not_runs_nil rfl)
  | cons token tokens =>
      obtain ⟨next, advanced, run⟩ := runs_cons_iff.mp run
      cases token with
      | comma =>
          obtain rfl : _ = next := Option.some.inj advanced
          obtain ⟨item, rest, rfl, nested, run⟩ :=
            (shorter [.comma] tokens rfl (by simp)).value (.list read :: frames) _ room run
          obtain ⟨items, rest, rfl, nestedItems, run⟩ :=
            (shorter (.comma :: tokensOf item) rest rfl (by simp)).items _ _ _ room run
          refine ⟨item :: items, rest, by simp [tokensOfItems], ?_, ?_⟩
          · rw [List.length_cons] at nested
            rw [nestingItems]
            omega
          · simpa [mergedItems] using run
      | closeList =>
          obtain rfl : _ = next := Option.some.inj advanced
          exact ⟨[], tokens, rfl, room, by simpa [mergedItems] using run⟩
      | openList | openTable | closeTable | colon | text | scalar => cases advanced

/-- After a name comes its value, which is entered into the table. -/
theorem splits_entry_of_shorter (shorter : SplitsLater tokens)
    (read : Keyed Document) (name : String) (room : frames.length < depthLimit)
    (run : Runs ⟨.colon read name, frames⟩ tokens document) :
    ∃ value rest, tokens = .colon :: tokensOf value ++ rest ∧
      frames.length + (value.nesting + 1) ≤ depthLimit ∧
        Runs ⟨.tableRest (Keyed.put name value.merged read), frames⟩ rest document := by
  cases tokens with
  | nil => exact absurd run (not_runs_nil rfl)
  | cons token tokens =>
      obtain ⟨next, advanced, run⟩ := runs_cons_iff.mp run
      cases token with
      | colon =>
          obtain rfl : _ = next := Option.some.inj advanced
          obtain ⟨value, rest, rfl, nested, run⟩ :=
            (shorter [.colon] tokens rfl (by simp)).value (.table read name :: frames) _ room run
          refine ⟨value, rest, rfl, ?_, run⟩
          rw [List.length_cons] at nested
          omega
      | openList | closeList | openTable | closeTable | comma | text | scalar => cases advanced

theorem splits_entries_of_shorter (shorter : SplitsLater tokens)
    (read : Keyed Document) (room : frames.length < depthLimit)
    (run : Runs ⟨.tableRest read, frames⟩ tokens document) :
    ∃ entries rest, tokens = tokensOfEntries entries ++ .closeTable :: rest ∧
      frames.length + (nestingEntries entries + 1) ≤ depthLimit ∧
        Runs (deliver (.table (mergedEntries entries read)) frames) rest document := by
  cases tokens with
  | nil => exact absurd run (not_runs_nil rfl)
  | cons token tokens =>
      obtain ⟨next, advanced, run⟩ := runs_cons_iff.mp run
      cases token with
      | comma =>
          obtain rfl : _ = next := Option.some.inj advanced
          cases tokens with
          | nil => exact absurd run (not_runs_nil rfl)
          | cons token tokens =>
              obtain ⟨next, advanced, run⟩ := runs_cons_iff.mp run
              cases token with
              | text name =>
                  obtain rfl : _ = next := Option.some.inj advanced
                  have moved : Runs ⟨.colon read name, frames⟩ tokens document := run
                  obtain ⟨value, rest, rfl, nested, run⟩ := splits_entry_of_shorter
                    shorter.tail.tail read name room moved
                  obtain ⟨entries, rest, rfl, nestedEntries, run⟩ :=
                    (shorter (.comma :: .text name :: .colon :: tokensOf value) rest rfl
                      (by simp)).entries _ _ _ room run
                  refine ⟨(name, value) :: entries, rest, by simp [tokensOfEntries], ?_, run⟩
                  rw [nestingEntries]
                  omega
              | openList | closeList | openTable | closeTable | colon | comma | scalar =>
                  cases advanced
      | closeTable =>
          obtain rfl : _ = next := Option.some.inj advanced
          exact ⟨[], tokens, rfl, room, run⟩
      | openList | closeList | openTable | colon | text | scalar => cases advanced

/-- A list that is still open begins with its end or with an item like any value. -/
theorem advance_listStart (differs : token ≠ .closeList) (frames : List Frame) :
    Machine.advance ⟨.listStart, frames⟩ token =
      Machine.advance ⟨.value, .list [] :: frames⟩ token := by
  cases token <;> first | rfl | exact absurd rfl differs

theorem splits_list_of_shorter (shorter : SplitsLater (.openList :: tokens))
    (room : frames.length < depthLimit) (run : Runs ⟨.listStart, frames⟩ tokens document) :
    ∃ items rest, .openList :: tokens = tokensOf (.list items) ++ rest ∧
      frames.length + nesting (.list items) ≤ depthLimit ∧
        Runs (deliver (merged (.list items)) frames) rest document := by
  cases tokens with
  | nil => exact absurd run (not_runs_nil rfl)
  | cons token tokens =>
      by_cases closes : token = .closeList
      · subst closes
        obtain ⟨next, advanced, run⟩ := runs_cons_iff.mp run
        obtain rfl : _ = next := Option.some.inj advanced
        exact ⟨[], tokens, rfl, room, run⟩
      · have first : Runs ⟨.value, .list [] :: frames⟩ (token :: tokens) document := by
          rw [runs_cons_iff, advance_listStart closes] at run
          exact runs_cons_iff.mpr run
        obtain ⟨item, rest, split, nested, run⟩ :=
          (shorter [.openList] (token :: tokens) rfl (by simp)).value (.list [] :: frames) _ room
            first
        obtain ⟨items, rest, rfl, nestedItems, run⟩ :=
          (shorter (.openList :: tokensOf item) rest (by rw [split]; rfl) (by simp)).items _ _ _
            room run
        refine ⟨item :: items, rest, ?_, ?_, run⟩
        · simp [split, tokensOf]
        · rw [List.length_cons] at nested
          rw [nesting, nestingItems]
          omega

theorem splits_table_of_shorter (shorter : SplitsLater (.openTable :: tokens))
    (room : frames.length < depthLimit) (run : Runs ⟨.tableStart, frames⟩ tokens document) :
    ∃ entries rest, .openTable :: tokens = tokensOf (.table entries) ++ rest ∧
      frames.length + nesting (.table entries) ≤ depthLimit ∧
        Runs (deliver (merged (.table entries)) frames) rest document := by
  cases tokens with
  | nil => exact absurd run (not_runs_nil rfl)
  | cons token tokens =>
      obtain ⟨next, advanced, run⟩ := runs_cons_iff.mp run
      cases token with
      | closeTable =>
          obtain rfl : _ = next := Option.some.inj advanced
          exact ⟨[], tokens, rfl, room, run⟩
      | text name =>
          obtain rfl : _ = next := Option.some.inj advanced
          obtain ⟨value, rest, rfl, nested, run⟩ :=
            splits_entry_of_shorter shorter.tail.tail [] name room run
          obtain ⟨entries, rest, rfl, nestedEntries, run⟩ :=
            (shorter (.openTable :: .text name :: .colon :: tokensOf value) rest rfl
              (by simp)).entries _ _ _ room run
          refine ⟨(name, value) :: entries, rest, by simp [tokensOf], ?_, run⟩
          have nestedValue : frames.length + (value.nesting + 1) ≤ depthLimit := nested
          rw [nesting, nestingEntries]
          omega
      | openList | closeList | openTable | colon | comma | scalar => cases advanced

theorem exists_room_of_opening {position : Position} {next : Machine}
    (opened : opening position frames = some next) :
    frames.length < depthLimit ∧ next = ⟨position, frames⟩ := by
  rw [opening] at opened
  split at opened
  · next room => exact ⟨room, (Option.some.inj opened).symm⟩
  · cases opened

theorem tokensOf_of_isBare {value : Document} (bare : value.IsBare) :
    tokensOf value = [.scalar value] ∧ value.merged = value ∧ value.nesting = 0 := by
  cases value with
  | null | boolean | integer | real => exact ⟨rfl, rfl, rfl⟩
  | text | list | table => exact bare.elim

theorem splits_value_of_shorter (genuine : ∀ token ∈ tokens, token.IsGenuine)
    (shorter : SplitsLater tokens) (room : frames.length ≤ depthLimit)
    (run : Runs ⟨.value, frames⟩ tokens document) :
    ∃ written rest, tokens = tokensOf written ++ rest ∧
      frames.length + written.nesting ≤ depthLimit ∧
        Runs (deliver written.merged frames) rest document := by
  cases tokens with
  | nil => exact absurd run (not_runs_nil rfl)
  | cons token tokens =>
      obtain ⟨next, advanced, run⟩ := runs_cons_iff.mp run
      cases token with
      | openList =>
          obtain ⟨room, rfl⟩ := exists_room_of_opening advanced
          obtain ⟨items, rest, split⟩ := splits_list_of_shorter shorter room run
          exact ⟨.list items, rest, split⟩
      | openTable =>
          obtain ⟨room, rfl⟩ := exists_room_of_opening advanced
          obtain ⟨entries, rest, split⟩ := splits_table_of_shorter shorter room run
          exact ⟨.table entries, rest, split⟩
      | text content =>
          obtain rfl : _ = next := Option.some.inj advanced
          exact ⟨.text content, tokens, rfl, room, run⟩
      | scalar value =>
          obtain rfl : _ = next := Option.some.inj advanced
          obtain ⟨single, unmerged, flat⟩ := tokensOf_of_isBare (genuine _ List.mem_cons_self)
          exact ⟨value, tokens, by rw [single]; rfl, by rw [flat]; exact room,
            by rw [unmerged]; exact run⟩
      | closeList | closeTable | colon | comma => cases advanced

/-- All three ways of splitting shorten the tokens, so their length carries the induction. -/
theorem splits (tokens : List Token) (genuine : ∀ token ∈ tokens, token.IsGenuine) :
    Splits tokens := by
  induction length : tokens.length using Nat.strongRecOn generalizing tokens with
  | ind n ih =>
      have shorter : SplitsLater tokens := by
        intro dropped later split some
        refine ih later.length ?_ later ?_ rfl
        · have dropping := List.length_pos_iff.mpr some
          rw [← length, split, List.length_append]
          omega
        · intro token member
          exact genuine token (split ▸ List.mem_append_right dropped member)
      exact {
        value := fun _ _ => splits_value_of_shorter genuine shorter
        items := fun read _ _ => splits_items_of_shorter shorter read
        entries := fun read _ _ => splits_entries_of_shorter shorter read }

/-- Nothing follows a document that is complete. -/
theorem runs_deliver_nil {value : Document} (run : Runs (deliver value []) tokens document) :
    tokens = [] ∧ value = document := by
  cases tokens with
  | nil => exact ⟨rfl, Option.some.inj run⟩
  | cons token tokens =>
      obtain ⟨next, advanced, -⟩ := runs_cons_iff.mp run
      cases advanced

/-- What the machine puts together is spelled by the tokens as a whole. -/
theorem ofTokens?_eq_some_iff (genuine : ∀ token ∈ tokens, token.IsGenuine) :
    ofTokens? tokens = some document ↔ ∃ written, tokens = tokensOf written ∧
      written.nesting ≤ depthLimit ∧ written.merged = document := by
  constructor
  · intro read
    obtain ⟨written, rest, split, nested, run⟩ :=
      (splits tokens genuine).value [] document (Nat.zero_le _) read
    obtain ⟨rfl, rfl⟩ := runs_deliver_nil run
    rw [List.append_nil] at split
    rw [List.length_nil, Nat.zero_add] at nested
    exact ⟨written, split, nested, rfl⟩
  · rintro ⟨written, rfl, nested, rfl⟩
    exact ofTokens?_of_builds (builds_tokensOf written) nested

end Splitting

section Words

/-- The words and numerals of a document, in their order. -/
def bareValues (written : Document) : List Document :=
  (tokensOf written).filterMap Token.value?

theorem StandsFor.isBare {spelling : List Char} {value : Document}
    (stands : StandsFor spelling value) : value.IsBare := by
  cases stands <;> trivial

theorem isBare_of_standsFor {spellings : List (List Char)} {values : List Document}
    (stands : List.Forall₂ StandsFor spellings values) : ∀ value ∈ values, value.IsBare := by
  induction stands with
  | nil => simp
  | cons first _ ih => exact List.forall_mem_cons.mpr ⟨first.isBare, ih⟩

theorem isGenuine_of_tokens? {text : List Char} {tokens : List Token}
    (scanned : tokens? text = some tokens) : ∀ token ∈ tokens, token.IsGenuine := by
  intro token member
  cases token with
  | scalar value =>
      exact isBare_of_standsFor (standsFor_of_tokens? scanned) value
        (List.mem_filterMap.mpr ⟨_, member, rfl⟩)
  | openList | closeList | openTable | closeTable | colon | comma | text => trivial

/-- The words and numerals of a text stand for those of the document that it spells. -/
theorem Spells.standsFor {text : String} {written : Document} (spells : Spells text written) :
    List.Forall₂ StandsFor (words text.toList) (bareValues written) :=
  standsFor_of_tokens? spells.tokens

end Words

theorem spells_of_scans {text : List Char} {written : Document}
    (scans : Scans text (tokensOf written)) (nested : written.nesting ≤ depthLimit) :
    Spells (String.ofList text) written :=
  ⟨by rw [String.toList_ofList, tokens?_of_scans scans], nested⟩

/-- A text is read exactly when it spells a document, and with repeated entries merged. -/
theorem parse?_eq_some_iff {text : String} {document : Document} :
    parse? text = some document ↔ ∃ written, Spells text written ∧ written.merged = document := by
  constructor
  · intro read
    obtain ⟨tokens, scanned, built⟩ := Option.bind_eq_some_iff.mp read
    obtain ⟨written, rfl, nested, rfl⟩ :=
      (ofTokens?_eq_some_iff (isGenuine_of_tokens? scanned)).mp built
    exact ⟨written, ⟨scanned, nested⟩, rfl⟩
  · rintro ⟨written, spells, rfl⟩
    rw [parse?, spells.tokens, Option.bind_some]
    exact ofTokens?_of_builds (builds_tokensOf written) spells.nested

end Json

end RobotsExclusion
