import RobotsExclusion.Json.Reader
import RobotsExclusion.Json.Writer
import RobotsExclusion.Proofs.AccessTable

/-!
# Reading written JSON

A document that is written as JSON is read back.  The scanner, between two tokens, takes
each written part for its tokens, and the machine, where a value is due, puts the tokens
of a document together to it.  Both facts hold in any surroundings, so they carry over
from the parts of a document to the whole.  Only the nesting is limited.
-/

namespace RobotsExclusion

section Runs

variable {α β : Type} {step : β → α → Option β} {start next : β} {item : α} {items later : List α}

theorem foldlM_cons_of_eq_some (first : step start item = some next) :
    (item :: items).foldlM step start = items.foldlM step next := by
  rw [List.foldlM_cons, first]
  rfl

theorem foldlM_append_of_eq_some (first : items.foldlM step start = some next) :
    (items ++ later).foldlM step start = later.foldlM step next := by
  rw [List.foldlM_append, first]
  rfl

/-- What each step preserves is preserved by a run. -/
theorem of_foldlM_eq_some {holds : β → Prop}
    (preserved : ∀ {start next item}, holds start → step start item = some next → holds next)
    (initial : holds start) (run : items.foldlM step start = some next) : holds next := by
  induction items generalizing start with
  | nil =>
      cases run
      exact initial
  | cons item rest ih =>
      rw [List.foldlM_cons] at run
      obtain ⟨reached, first, run⟩ := Option.bind_eq_some_iff.mp run
      exact ih (preserved initial first) run

end Runs

namespace Text

theorem hexValue?_digitChar : ∀ digit < 16, hexValue? (Nat.digitChar digit) = some digit := by
  decide

/-- A letter after a backslash stands for the character that is written by it. -/
theorem escapedBy?_of_escapeLetter? {c letter : Char} (written : escapeLetter? c = some letter) :
    escapedBy? letter = some c ∧ letter ≠ 'u' ∧ letter ≠ '/' := by
  unfold escapeLetter? at written
  split at written
  case h_8 => cases written
  all_goals
    obtain rfl := Option.some.inj written
    decide

theorem plain_of_escapeLetter? {c : Char} (unwritten : escapeLetter? c = none) :
    c ≠ '"' ∧ c ≠ '\\' := by
  constructor <;> rintro rfl <;> cases unwritten

end Text

namespace Json

section Scanning

variable {text later : List Char} {tokens laterTokens earlier : List Token}
  {content : List Char} {c : Char}

/-- The scanner takes a text for these tokens. -/
def Scans (text : List Char) (tokens : List Token) : Prop :=
  ∀ earlier, text.foldlM Scanner.advance ⟨earlier, .between⟩ =
    some ⟨tokens.reverse ++ earlier, .between⟩

theorem Scans.nil : Scans [] [] :=
  fun _ => rfl

theorem Scans.append (first : Scans text tokens) (second : Scans later laterTokens) :
    Scans (text ++ later) (tokens ++ laterTokens) := by
  intro earlier
  rw [List.foldlM_append, first]
  simpa using second (tokens.reverse ++ earlier)

theorem Scans.mark {token : Token}
    (starts : ∀ scanner : Scanner, scanner.start c = some (scanner.push token)) :
    Scans [c] [token] := by
  intro earlier
  rw [List.foldlM_cons, Scanner.advance, starts]
  rfl

theorem foldlM_escapedChar (earlier : List Token) (content : List Char) (c : Char) :
    (Text.escapedChar isControl c).foldlM Scanner.advance ⟨earlier, .quoted content⟩ =
      some ⟨earlier, .quoted (c :: content)⟩ := by
  unfold Text.escapedChar
  cases written : Text.escapeLetter? c with
  | some letter =>
      obtain ⟨stands, notUnit, notSlash⟩ := Text.escapedBy?_of_escapeLetter? written
      simp [Scanner.advance, escaped?, stands, notUnit]
  | none =>
      obtain ⟨notQuote, notBackslash⟩ := Text.plain_of_escapeLetter? written
      by_cases control : isControl c = true
      · have small : c.toNat < 32 := by simpa [isControl] using control
        have high := Text.hexValue?_digitChar (c.toNat / 16) (by omega)
        have low := Text.hexValue?_digitChar (c.toNat % 16) (by omega)
        have value : c.toNat / 16 * 16 + c.toNat % 16 = c.toNat := by omega
        have zero : Text.hexValue? '0' = some 0 := by decide
        have unit : afterUnit content none c.toNat = some (.quoted (c :: content)) := by
          have notHigh : ¬ 0xD800 ≤ c.toNat := by omega
          have notLow : ¬ 0xDC00 ≤ c.toNat := by omega
          simp [afterUnit, isHighUnit, isLowUnit, notHigh, notLow]
        simp [control, Scanner.advance, zero, high, low, value, unit]
      · have printed : ¬ c.toNat < 32 := by simpa [isControl] using control
        simp [control, Scanner.advance, notQuote, notBackslash, printed]

theorem foldlM_escaped (earlier : List Token) (content text : List Char) :
    (text.flatMap (Text.escapedChar isControl)).foldlM Scanner.advance
        ⟨earlier, .quoted content⟩ =
      some ⟨earlier, .quoted (text.reverse ++ content)⟩ := by
  induction text generalizing content with
  | nil => rfl
  | cons c text ih =>
      rw [List.flatMap_cons, List.foldlM_append, foldlM_escapedChar]
      simpa using ih (c :: content)

theorem scans_writeText (content : String) : Scans (writeText content) [.text content] := by
  intro earlier
  have opened : Scanner.advance ⟨earlier, .between⟩ '"' = some ⟨earlier, .quoted []⟩ := rfl
  have closed (letters : List Char) : Scanner.advance ⟨earlier, .quoted letters⟩ '"' =
      some ⟨.text (String.ofList letters.reverse) :: earlier, .between⟩ := by
    simp [Scanner.advance, Scanner.push]
  rw [writeText, Text.escaped, List.foldlM_append, List.foldlM_cons, opened]
  simp [foldlM_escaped, closed]

theorem tokens?_of_scans (scans : Scans text tokens) : tokens? text = some tokens := by
  simp [tokens?, scans [], Scanner.finish]

end Scanning

section Building

variable {depth : Nat} {tokens : List Token} {document : Document} {frames : List Frame}

/-- Where a value is due, the machine puts these tokens together to a document, which is
nested so deep. -/
def Builds (depth : Nat) (tokens : List Token) (document : Document) : Prop :=
  ∀ frames : List Frame, frames.length + depth ≤ depthLimit →
    tokens.foldlM Machine.advance ⟨.value, frames⟩ = some (deliver document frames)

/-- The first item of a list is read like any other value. -/
theorem Builds.listStart (builds : Builds depth tokens document)
    (room : frames.length + (depth + 1) ≤ depthLimit) :
    tokens.foldlM Machine.advance ⟨.listStart, frames⟩ =
      some ⟨.listRest [document], frames⟩ := by
  have built : tokens.foldlM Machine.advance ⟨.value, .list [] :: frames⟩ =
      some ⟨.listRest [document], frames⟩ :=
    builds (.list [] :: frames) (by rw [List.length_cons]; omega)
  cases tokens with
  | nil => simp at built
  | cons token rest =>
      rw [List.foldlM_cons] at built ⊢
      cases token with
      | closeList => simp [Machine.advance, beginValue] at built
      | openList | openTable | closeTable | colon | comma | text | scalar => exact built

theorem builds_text (depth : Nat) (content : String) :
    Builds depth [.text content] (.text content) :=
  fun _ _ => rfl

theorem ofTokens?_of_builds (builds : Builds depth tokens document)
    (room : depth ≤ depthLimit) : ofTokens? tokens = some document := by
  have built : tokens.foldlM Machine.advance ⟨.value, []⟩ = some ⟨.complete document, []⟩ :=
    builds [] (by simpa using room)
  rw [ofTokens?, built]
  rfl

end Building

section Documents

variable {depth : Nat} {text : List Char} {document : Document} {items : List Document}
  {entries : List (String × Document)}

/-- Documents of texts, lists and tables, nested so deep, whose tables repeat no name. -/
inductive Plain : (depth : Nat) → Document → Prop
  | text (depth : Nat) (content : String) : Plain depth (.text content)
  | list {depth : Nat} {items : List Document} (inner : ∀ item ∈ items, Plain depth item) :
      Plain (depth + 1) (.list items)
  | table {depth : Nat} {entries : List (String × Document)}
      (distinct : (entries.map Prod.fst).Nodup)
      (inner : ∀ entry ∈ entries, Plain depth entry.2) : Plain (depth + 1) (.table entries)

/-- A text that is read as a document, nested so deep, wherever a value is due. -/
def Denotes (depth : Nat) (text : List Char) (document : Document) : Prop :=
  ∃ tokens, Scans text tokens ∧ Builds depth tokens document

/-- Further items of a list follow the ones that have been read. -/
theorem exists_tokens_writeItems (each : ∀ item ∈ items, Denotes depth (write item) item) :
    ∃ tokens, Scans (writeItems items) tokens ∧
      ∀ (read : List Document) (frames : List Frame), frames.length + (depth + 1) ≤ depthLimit →
        tokens.foldlM Machine.advance ⟨.listRest read, frames⟩ =
          some ⟨.listRest (items.reverse ++ read), frames⟩ := by
  induction items with
  | nil => exact ⟨[], .nil, fun _ _ _ => rfl⟩
  | cons item rest ih =>
      obtain ⟨restTokens, restScans, restBuilds⟩ :=
        ih fun other member => each other (List.mem_cons_of_mem item member)
      obtain ⟨itemTokens, itemScans, itemBuilds⟩ := each item List.mem_cons_self
      have comma : Scans [','] [.comma] := .mark fun _ => rfl
      refine ⟨.comma :: itemTokens ++ restTokens, (comma.append itemScans).append restScans, ?_⟩
      intro read frames room
      have advanced : Machine.advance ⟨.listRest read, frames⟩ .comma =
          some ⟨.value, .list read :: frames⟩ := rfl
      have built : itemTokens.foldlM Machine.advance ⟨.value, .list read :: frames⟩ =
          some ⟨.listRest (item :: read), frames⟩ :=
        itemBuilds (.list read :: frames) (by rw [List.length_cons]; omega)
      rw [List.foldlM_append, List.foldlM_cons, advanced]
      simpa [built] using restBuilds (item :: read) frames room

theorem denotes_writeList (each : ∀ item ∈ items, Denotes depth (write item) item) :
    Denotes (depth + 1) (write (.list items)) (.list items) := by
  have opened : Scans ['['] [.openList] := .mark fun _ => rfl
  have closed : Scans [']'] [.closeList] := .mark fun _ => rfl
  have enter (frames : List Frame) (room : frames.length + (depth + 1) ≤ depthLimit) :
      Machine.advance ⟨.value, frames⟩ .openList = some ⟨.listStart, frames⟩ := by
    have fits : frames.length < depthLimit := by omega
    simp [Machine.advance, beginValue, opening, fits]
  cases items with
  | nil =>
      refine ⟨[.openList, .closeList], ?_, ?_⟩
      · rw [write]
        exact opened.append closed
      · intro frames room
        rw [List.foldlM_cons, enter frames room]
        rfl
  | cons item rest =>
      obtain ⟨itemTokens, itemScans, itemBuilds⟩ := each item List.mem_cons_self
      obtain ⟨restTokens, restScans, restBuilds⟩ := exists_tokens_writeItems
        fun other member => each other (List.mem_cons_of_mem item member)
      refine ⟨.openList :: itemTokens ++ restTokens ++ [.closeList], ?_, ?_⟩
      · rw [write]
        exact ((opened.append itemScans).append restScans).append closed
      · intro frames room
        have leave : Machine.advance ⟨.listRest (rest.reverse ++ [item]), frames⟩ .closeList =
            some (deliver (.list (item :: rest)) frames) := by
          simp [Machine.advance]
        rw [List.foldlM_append, List.foldlM_append, List.foldlM_cons, enter frames room]
        simp [itemBuilds.listStart room, restBuilds [item] frames room, leave]

/-- A new name is entered with its value at the end of a table. -/
theorem exists_tokens_entry (name : String) (value : Denotes depth (write document) document) :
    ∃ tokens, Scans (writeText name ++ ':' :: write document) tokens ∧
      ∀ (start : Machine) (read : List (String × Document)) (frames : List Frame),
        start.advance (.text name) = some ⟨.colon read name, frames⟩ →
        frames.length + (depth + 1) ≤ depthLimit → name ∉ read.map Prod.fst →
          tokens.foldlM Machine.advance start =
            some ⟨.tableRest (read ++ [(name, document)]), frames⟩ := by
  obtain ⟨tokens, scans, builds⟩ := value
  have colon : Scans [':'] [.colon] := .mark fun _ => rfl
  refine ⟨.text name :: .colon :: tokens, ?_, ?_⟩
  · exact (scans_writeText name).append (colon.append scans)
  · intro start read frames named room new
    have advanced : Machine.advance ⟨.colon read name, frames⟩ .colon =
        some ⟨.value, .table read name :: frames⟩ := rfl
    have built : tokens.foldlM Machine.advance ⟨.value, .table read name :: frames⟩ =
        some ⟨.tableRest (Keyed.put name document read), frames⟩ :=
      builds (.table read name :: frames) (by rw [List.length_cons]; omega)
    rw [← Keyed.put_of_not_mem document new, ← built]
    simp [named, advanced]

/-- Further entries of a table follow the ones that have been read. -/
theorem exists_tokens_writeEntries
    (each : ∀ entry ∈ entries, Denotes depth (write entry.2) entry.2) :
    ∃ tokens, Scans (writeEntries entries) tokens ∧
      ∀ (read : List (String × Document)) (frames : List Frame),
        frames.length + (depth + 1) ≤ depthLimit → ((read ++ entries).map Prod.fst).Nodup →
          tokens.foldlM Machine.advance ⟨.tableRest read, frames⟩ =
            some ⟨.tableRest (read ++ entries), frames⟩ := by
  induction entries with
  | nil => exact ⟨[], .nil, fun read _ _ _ => by simp⟩
  | cons entry rest ih =>
      obtain ⟨name, value⟩ := entry
      obtain ⟨restTokens, restScans, restBuilds⟩ :=
        ih fun other member => each other (List.mem_cons_of_mem _ member)
      obtain ⟨entryTokens, entryScans, entryBuilds⟩ :=
        exists_tokens_entry name (each _ List.mem_cons_self)
      have comma : Scans [','] [.comma] := .mark fun _ => rfl
      refine ⟨.comma :: entryTokens ++ restTokens, ?_, ?_⟩
      · rw [writeEntries]
        simpa using (comma.append entryScans).append restScans
      · intro read frames room distinct
        have advanced : Machine.advance ⟨.tableRest read, frames⟩ .comma =
            some ⟨.name read, frames⟩ := rfl
        have new : name ∉ read.map Prod.fst := by
          rw [List.map_append, List.nodup_append] at distinct
          intro known
          exact distinct.2.2 name known name (by simp) rfl
        have regrouped : read ++ (name, value) :: rest = read ++ [(name, value)] ++ rest := by simp
        rw [regrouped] at distinct ⊢
        rw [List.foldlM_append, List.foldlM_cons, advanced]
        simpa [entryBuilds ⟨.name read, frames⟩ read frames rfl room new] using
          restBuilds (read ++ [(name, value)]) frames room distinct

theorem denotes_writeTable (distinct : (entries.map Prod.fst).Nodup)
    (each : ∀ entry ∈ entries, Denotes depth (write entry.2) entry.2) :
    Denotes (depth + 1) (write (.table entries)) (.table entries) := by
  have opened : Scans ['{'] [.openTable] := .mark fun _ => rfl
  have closed : Scans ['}'] [.closeTable] := .mark fun _ => rfl
  have enter (frames : List Frame) (room : frames.length + (depth + 1) ≤ depthLimit) :
      Machine.advance ⟨.value, frames⟩ .openTable = some ⟨.tableStart, frames⟩ := by
    have fits : frames.length < depthLimit := by omega
    simp [Machine.advance, beginValue, opening, fits]
  cases entries with
  | nil =>
      refine ⟨[.openTable, .closeTable], ?_, ?_⟩
      · rw [write]
        exact opened.append closed
      · intro frames room
        rw [List.foldlM_cons, enter frames room]
        rfl
  | cons entry rest =>
      obtain ⟨name, value⟩ := entry
      obtain ⟨entryTokens, entryScans, entryBuilds⟩ :=
        exists_tokens_entry name (each _ List.mem_cons_self)
      obtain ⟨restTokens, restScans, restBuilds⟩ := exists_tokens_writeEntries
        fun other member => each other (List.mem_cons_of_mem _ member)
      refine ⟨.openTable :: entryTokens ++ restTokens ++ [.closeTable], ?_, ?_⟩
      · rw [write]
        simpa using ((opened.append entryScans).append restScans).append closed
      · intro frames room
        have leave : Machine.advance ⟨.tableRest ((name, value) :: rest), frames⟩ .closeTable =
            some (deliver (.table ((name, value) :: rest)) frames) := rfl
        have first := entryBuilds ⟨.tableStart, frames⟩ [] frames rfl room (by simp)
        have others := restBuilds [(name, value)] frames room distinct
        rw [List.nil_append] at first
        rw [List.singleton_append] at others
        rw [List.foldlM_append, List.foldlM_append, List.foldlM_cons, enter frames room]
        simp [first, others, leave]

/-- A plain document is written as a text that denotes it. -/
theorem denotes_write (plain : Plain depth document) :
    Denotes depth (write document) document := by
  induction plain with
  | text depth content =>
      rw [write]
      exact ⟨[.text content], scans_writeText content, builds_text depth content⟩
  | list _ ih => exact denotes_writeList ih
  | table distinct _ ih => exact denotes_writeTable distinct ih

theorem parse?_of_denotes (denotes : Denotes depth text document) (room : depth ≤ depthLimit) :
    parse? (String.ofList text) = some document := by
  obtain ⟨tokens, scans, builds⟩ := denotes
  rw [parse?, String.toList_ofList, tokens?_of_scans scans, Option.bind_some,
    ofTokens?_of_builds builds room]

/-- What is written is read back. -/
theorem parse?_write (plain : Plain depth document) (room : depth ≤ depthLimit) :
    parse? (String.ofList (write document)) = some document :=
  parse?_of_denotes (denotes_write plain) room

end Documents

end Json

end RobotsExclusion
