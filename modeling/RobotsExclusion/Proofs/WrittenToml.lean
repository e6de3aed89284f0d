import RobotsExclusion.Proofs.WrittenJson
import RobotsExclusion.Toml.Reader
import RobotsExclusion.Toml.Writer

/-!
# Reading written TOML

Texts, arrays, inline tables, entries and headers that are written as TOML are read back.
A bare name, a blank and an empty text are complete only when the next character cannot
belong to them, so what the scanner makes of a text is said together with the characters
that follow.
-/

namespace RobotsExclusion

namespace Toml

section Scanning

variable {text later rest : List Char} {tokens laterTokens earlier : List Token} {c : Char}

/-- The scanner takes a text for these tokens when this rest follows. -/
def Scans (text : List Char) (tokens : List Token) (rest : List Char) : Prop :=
  ∀ earlier, (text ++ rest).foldlM Scanner.advance ⟨earlier, .between⟩ =
    rest.foldlM Scanner.advance ⟨tokens.reverse ++ earlier, .between⟩

theorem Scans.nil : Scans [] [] rest :=
  fun _ => rfl

theorem Scans.append (first : Scans text tokens (later ++ rest))
    (second : Scans later laterTokens rest) :
    Scans (text ++ later) (tokens ++ laterTokens) rest := by
  intro earlier
  rw [List.append_assoc, first, second]
  simp

theorem Scans.mark {token : Token} (punctuates : punctuation? c = some token) :
    Scans [c] [token] rest := by
  intro earlier
  simp [Scanner.advance, Scanner.start, punctuates, Scanner.push]

theorem Scans.blank (ends : c ≠ ' ' ∧ c ≠ '\t') : Scans [' '] [.blank true] (c :: rest) := by
  intro earlier
  have opened : Scanner.advance ⟨earlier, .between⟩ ' ' = some ⟨earlier, .blank true⟩ := rfl
  rw [List.cons_append, foldlM_cons_of_eq_some opened]
  simp [Scanner.advance, ends, Scanner.push]

theorem start_of_isNameChar (isName : isNameChar c = true) (scanner : Scanner) :
    scanner.start c = scanner.enter (.bare [c]) ∧ endsBare c = false := by
  have differs (other : Char) (special : isNameChar other = false) : c ≠ other := by
    rintro rfl
    simp [special] at isName
  have unpunctuated : punctuation? c = none := by
    unfold punctuation?
    split
    case h_9 => rfl
    all_goals exact absurd rfl (differs _ (by decide))
  have unquoted : Quote.ofChar? c = none := by
    simp [Quote.ofChar?, differs '"' (by decide), differs '\'' (by decide)]
  simp [Scanner.start, endsBare, unpunctuated, unquoted, differs ' ' (by decide),
    differs '\t' (by decide), differs '\r' (by decide), differs '#' (by decide)]

theorem foldlM_bare (earlier : List Token) (spelling : List Char)
    (names : ∀ letter ∈ text, isNameChar letter = true) :
    text.foldlM Scanner.advance ⟨earlier, .bare spelling⟩ =
      some ⟨earlier, .bare (text.reverse ++ spelling)⟩ := by
  induction text generalizing spelling with
  | nil => rfl
  | cons letter text ih =>
      obtain ⟨first, others⟩ := List.forall_mem_cons.mp names
      have goesOn : Scanner.advance ⟨earlier, .bare spelling⟩ letter =
          some ⟨earlier, .bare (letter :: spelling)⟩ := by
        simp [Scanner.advance, Scanner.enter, (start_of_isNameChar first ⟨[], .between⟩).2]
      rw [foldlM_cons_of_eq_some goesOn]
      simpa using ih (letter :: spelling) others

theorem Scans.bare {name : List Char} (nonempty : name ≠ [])
    (names : ∀ letter ∈ name, isNameChar letter = true) (ends : endsBare c = true) :
    Scans name [.bare name] (c :: rest) := by
  intro earlier
  cases name with
  | nil => exact absurd rfl nonempty
  | cons letter text =>
      obtain ⟨first, others⟩ := List.forall_mem_cons.mp names
      have opened : Scanner.advance ⟨earlier, .between⟩ letter =
          some ⟨earlier, .bare [letter]⟩ :=
        congrArg some (start_of_isNameChar first ⟨earlier, .between⟩).1
      rw [List.cons_append, foldlM_cons_of_eq_some opened,
        foldlM_append_of_eq_some (foldlM_bare earlier [letter] others)]
      simp [Scanner.advance, ends, Scanner.push]

/-- A letter after a backslash stands for the character that is written by it. -/
theorem escaped?_of_escapeLetter? {letter : Char} (written : Text.escapeLetter? c = some letter) :
    codeLength? letter = none ∧ escaped? letter = some c := by
  unfold Text.escapeLetter? at written
  split at written
  case h_8 => cases written
  all_goals
    obtain rfl := Option.some.inj written
    decide

theorem character?_of_lt {code : Nat} (small : code < 0xD800) :
    character? code = some (Char.ofNat code) := by
  simp [character?, small]

theorem foldlM_escapedChar (earlier : List Token) (content : List Char) (c : Char) :
    (Text.escapedChar isControl c).foldlM Scanner.advance ⟨earlier, .line .double content⟩ =
      some ⟨earlier, .line .double (c :: content)⟩ := by
  unfold Text.escapedChar
  cases written : Text.escapeLetter? c with
  | some letter =>
      obtain ⟨uncoded, stands⟩ := escaped?_of_escapeLetter? written
      simp [Scanner.advance, Scanner.inLine, Scanner.inEscape, Scanner.enter, Quote.mark, goOn,
        uncoded, stands]
  | none =>
      obtain ⟨notQuote, notBackslash⟩ := Text.plain_of_escapeLetter? written
      by_cases control : isControl c = true
      · have small : c.toNat < 0x20 ∨ c.toNat = 0x7F := by simpa [isControl] using control
        have high := Text.hexValue?_digitChar (c.toNat / 16) (by omega)
        have low := Text.hexValue?_digitChar (c.toNat % 16) (by omega)
        have value : c.toNat / 16 * 16 + c.toNat % 16 = c.toNat := by omega
        have zero : Text.hexValue? '0' = some 0 := by decide
        have stands : character? c.toNat = some c := by
          rw [character?_of_lt (by omega), Char.ofNat_toNat]
        simp [control, Scanner.advance, Scanner.inLine, Scanner.inEscape, Scanner.inCode,
          Scanner.enter, Quote.mark, goOn, codeLength?, zero, high, low, value, stands]
      · have plain : isPlain c = true := by
          have printed : ¬ (c.toNat < 0x20 ∨ c.toNat = 0x7F) := by simpa [isControl] using control
          simp [isPlain]
          omega
        simp [control, Scanner.advance, Scanner.inLine, Scanner.enter, Quote.mark, notQuote,
          notBackslash, plain]

theorem foldlM_escaped (earlier : List Token) (content text : List Char) :
    (text.flatMap (Text.escapedChar isControl)).foldlM Scanner.advance
        ⟨earlier, .line .double content⟩ =
      some ⟨earlier, .line .double (text.reverse ++ content)⟩ := by
  induction text generalizing content with
  | nil => rfl
  | cons c text ih =>
      rw [List.flatMap_cons, foldlM_append_of_eq_some (foldlM_escapedChar earlier content c)]
      simpa using ih (c :: content)

/-- What is escaped does not begin with a quote. -/
theorem exists_cons_escapedChar (c : Char) :
    ∃ first more, Text.escapedChar isControl c = first :: more ∧ first ≠ '"' := by
  unfold Text.escapedChar
  cases written : Text.escapeLetter? c with
  | some letter => exact ⟨_, _, rfl, by decide⟩
  | none =>
      obtain ⟨notQuote, -⟩ := Text.plain_of_escapeLetter? written
      by_cases control : isControl c = true
      · rw [if_pos control]
        exact ⟨_, _, rfl, by decide⟩
      · rw [if_neg control]
        exact ⟨c, [], rfl, notQuote⟩

/-- After the first mark, a text that is not empty is read like any further piece. -/
theorem foldlM_escaped_oneMark (earlier : List Token) (nonempty : text ≠ []) :
    (text.flatMap (Text.escapedChar isControl)).foldlM Scanner.advance
        ⟨earlier, .oneMark .double⟩ =
      some ⟨earlier, .line .double text.reverse⟩ := by
  cases text with
  | nil => exact absurd rfl nonempty
  | cons letter text =>
      obtain ⟨first, more, written, differs⟩ := exists_cons_escapedChar letter
      have alike : Scanner.advance ⟨earlier, .oneMark .double⟩ first =
          Scanner.advance ⟨earlier, .line .double []⟩ first := by
        simp only [Scanner.advance, Quote.mark, differs, if_false]
        rfl
      have read := foldlM_escaped earlier [] (letter :: text)
      rw [List.append_nil] at read
      rw [← read, List.flatMap_cons, written, List.cons_append, List.foldlM_cons,
        List.foldlM_cons, alike]

/-- After an empty text comes no mark, which would make it the start of a long text. -/
theorem scans_writeText (content : String) (ends : c ≠ '"') :
    Scans (writeText content) [.text content.toList false] (c :: rest) := by
  intro earlier
  have opened : Scanner.advance ⟨earlier, .between⟩ '"' =
      some ⟨earlier, .oneMark .double⟩ := rfl
  have closed (letters : List Char) : Scanner.advance ⟨earlier, .line .double letters⟩ '"' =
      some ⟨.text letters.reverse false :: earlier, .between⟩ := rfl
  have empty : Scanner.advance ⟨earlier, .oneMark .double⟩ '"' =
      some ⟨earlier, .twoMarks .double⟩ := rfl
  have next : Scanner.advance ⟨earlier, .twoMarks .double⟩ c =
      Scanner.advance ⟨.text [] false :: earlier, .between⟩ c := by
    simp [Scanner.advance, Quote.mark, ends, Scanner.pushText, Scanner.push]
  rw [writeText, Text.escaped]
  by_cases nonempty : content.toList = []
  · simp [nonempty, opened, empty, next]
  · simp [opened, foldlM_escaped_oneMark earlier nonempty, closed]

/-- The scanner takes a text for these tokens wherever no quote follows. -/
def ScansAlone (text : List Char) (tokens : List Token) : Prop :=
  ∀ c rest, c ≠ '"' → Scans text tokens (c :: rest)

theorem ScansAlone.nil : ScansAlone [] [] :=
  fun _ _ _ => .nil

theorem ScansAlone.append (first : ScansAlone text tokens)
    (second : ScansAlone later laterTokens) (unquoted : later.head? ≠ some '"') :
    ScansAlone (text ++ later) (tokens ++ laterTokens) := by
  intro next rest ends
  refine Scans.append ?_ (second next rest ends)
  cases later with
  | nil => exact first next rest ends
  | cons c later => exact first c (later ++ next :: rest) (by simpa using unquoted)

theorem ScansAlone.mark {token : Token} (punctuates : punctuation? c = some token)
    (scans : ScansAlone text tokens) : ScansAlone (c :: text) (token :: tokens) :=
  fun next rest ends => (Scans.mark punctuates).append (scans next rest ends)

/-- A text that begins, and not with a blank. -/
def BeginsUnblank (text : List Char) : Prop :=
  ∃ c more, text = c :: more ∧ c ≠ ' ' ∧ c ≠ '\t'

theorem BeginsUnblank.append (begins : BeginsUnblank text) (later : List Char) :
    BeginsUnblank (text ++ later) := by
  obtain ⟨c, more, rfl, unblank⟩ := begins
  exact ⟨c, more ++ later, rfl, unblank⟩

/-- A blank separates what stands before it from a text. -/
theorem ScansAlone.blank (begins : BeginsUnblank text) (scans : ScansAlone text tokens) :
    ScansAlone (' ' :: text) (.blank true :: tokens) := by
  obtain ⟨c, more, rfl, unblank⟩ := begins
  intro next rest ends
  exact (Scans.blank unblank).append (scans next rest ends)

end Scanning

section Building

variable {depth : Nat} {tokens : List Token} {document : Document} {machine : Machine} {key : Key}
  {frames : List Frame}

/-- A token that a written value begins with. -/
def Token.Opens : Token → Prop
  | .openBracket => True
  | .openBrace => True
  | .text _ _ => True
  | _ => False

/-- The machine takes the next value for one that belongs to this key and these frames. -/
def Awaits (machine : Machine) (key : Key) (frames : List Frame) : Prop :=
  ∀ token : Token, token.Opens → machine.advance token = machine.beginValue key frames token

theorem awaits_value (machine : Machine) (key : Key) (frames : List Frame) :
    Awaits (machine.enter (.entryValue key .value frames)) key frames := by
  intro token opens
  cases token <;> first | rfl | exact opens.elim

theorem awaits_item (machine : Machine) (key : Key) (items : List Document)
    (frames : List Frame) :
    Awaits (machine.enter (.entryValue key (.item items) frames)) key (.array items :: frames) := by
  intro token opens
  cases token <;> first | rfl | exact opens.elim

/-- Where a value is due, the machine puts these tokens together to a document, which is
nested so deep. -/
def Builds (depth : Nat) (tokens : List Token) (document : Document) : Prop :=
  ∀ machine key frames, Awaits machine key frames → frames.length + depth ≤ depthLimit →
    tokens.foldlM Machine.advance machine = machine.deliver key document frames

theorem builds_text (depth : Nat) (content : String) (long : Bool) :
    Builds depth [.text content.toList long] (.text content) := by
  intro machine key frames awaits _
  have begun := awaits (.text content.toList long) trivial
  simp [begun, Machine.beginValue]

@[simp]
theorem deliver_enter (machine : Machine) (stage : Stage) (key : Key) (document : Document)
    (frames : List Frame) :
    (machine.enter stage).deliver key document frames = machine.deliver key document frames := by
  cases frames with
  | nil => rfl
  | cons frame frames => cases frame <;> rfl

theorem opening_of_room (position : Position) (room : frames.length < depthLimit) :
    machine.opening key position frames =
      some (machine.enter (.entryValue key position frames)) := by
  rw [Machine.opening, if_pos room]

end Building

/-- An entry as it is written, with the document that its text stands for. -/
structure WrittenEntry where
  name : String
  written : List Char
  value : Document

namespace WrittenEntry

def text (entry : WrittenEntry) : List Char :=
  writeEntry entry.name entry.written

def field (entry : WrittenEntry) : String × Document :=
  (entry.name, entry.value)

/-- The next of several entries with different names has a new name. -/
theorem distinct_cons {read : List (String × Document)} {entry : WrittenEntry}
    {rest : List WrittenEntry}
    (distinct : ((read ++ (entry :: rest).map field).map Prod.fst).Nodup) :
    entry.name ∉ read.map Prod.fst ∧
      ((read ++ [(entry.name, entry.value)] ++ rest.map field).map Prod.fst).Nodup := by
  constructor
  · rw [List.map_append, List.nodup_append] at distinct
    intro known
    exact distinct.2.2 entry.name known entry.name (by simp [field]) rfl
  · simpa [field] using distinct

end WrittenEntry

section Values

variable {depth : Nat} {text : List Char} {tokens : List Token} {document : Document}

/-- A text that is read as a document, nested so deep, wherever a value is due and no quote
follows. -/
structure Denotes (depth : Nat) (text : List Char) (document : Document) : Prop where
  begins : BeginsUnblank text
  builds : ∃ tokens, ScansAlone text tokens ∧ Builds depth tokens document

theorem denotes_writeText (depth : Nat) (content : String) :
    Denotes depth (writeText content) (.text content) where
  begins := ⟨'"', _, rfl, by decide⟩
  builds := ⟨_, fun _ _ ends => scans_writeText content ends, builds_text depth content false⟩

theorem separated_cons (first : List Char) (items : List (List Char)) :
    separated (first :: items) = first ++ items.flatMap fun item => ',' :: ' ' :: item := by
  induction items generalizing first with
  | nil => simp [separated]
  | cons item items ih =>
      have rest := ih item
      simp only [separated] at rest ⊢
      simp [rest]

section Arrays

variable {α : Type} {items : List α} {write : α → List Char} {toDocument : α → Document}

/-- Further items of an array follow the ones that have been read. -/
theorem exists_tokens_items
    (each : ∀ item ∈ items, Denotes depth (write item) (toDocument item)) :
    ∃ tokens, ScansAlone (items.flatMap fun item => ',' :: ' ' :: write item) tokens ∧
      ∀ (machine : Machine) (key : Key) (frames : List Frame) (read : List Document),
        frames.length + (depth + 1) ≤ depthLimit →
          tokens.foldlM Machine.advance (machine.enter (.entryValue key (.afterItem read) frames)) =
            some (machine.enter (.entryValue key
              (.afterItem ((items.map toDocument).reverse ++ read)) frames)) := by
  induction items with
  | nil => exact ⟨[], .nil, fun _ _ _ _ _ => rfl⟩
  | cons item rest ih =>
      obtain ⟨restTokens, restScans, restBuilds⟩ :=
        ih fun other member => each other (List.mem_cons_of_mem item member)
      have first := each item List.mem_cons_self
      obtain ⟨itemTokens, itemScans, itemBuilds⟩ := first.builds
      have separator : punctuation? ',' = some .comma := rfl
      refine ⟨.comma :: .blank true :: itemTokens ++ restTokens, ?_, ?_⟩
      · have unquoted : (rest.flatMap fun item => ',' :: ' ' :: write item).head? ≠ some '"' := by
          cases rest <;> simp
        exact (ScansAlone.mark separator (itemScans.blank first.begins)).append restScans unquoted
      · intro machine key frames read room
        have advanced : (machine.enter (.entryValue key (.afterItem read) frames)).advance .comma =
            some (machine.enter (.entryValue key (.item read) frames)) := rfl
        have skipped : (machine.enter (.entryValue key (.item read) frames)).advance
            (.blank true) = some (machine.enter (.entryValue key (.item read) frames)) := rfl
        have built := itemBuilds _ key _ (awaits_item machine key read frames)
          (by rw [List.length_cons]; omega)
        rw [deliver_enter] at built
        rw [List.cons_append, foldlM_cons_of_eq_some advanced, List.cons_append,
          foldlM_cons_of_eq_some skipped, foldlM_append_of_eq_some built,
          restBuilds _ _ _ _ room]
        simp

theorem denotes_writeArray
    (each : ∀ item ∈ items, Denotes depth (write item) (toDocument item)) :
    Denotes (depth + 1) (writeArray (items.map write)) (.list (items.map toDocument)) := by
  refine ⟨⟨'[', _, rfl, by decide⟩, ?_⟩
  have opens : punctuation? '[' = some .openBracket := rfl
  have closed : ScansAlone [']'] [.closeBracket] := .mark rfl .nil
  have enter {machine : Machine} {key : Key} {frames : List Frame}
      (awaits : Awaits machine key frames) (room : frames.length + (depth + 1) ≤ depthLimit) :
      machine.advance .openBracket = some (machine.enter (.entryValue key (.item []) frames)) := by
    rw [awaits .openBracket trivial]
    exact opening_of_room _ (by omega)
  cases items with
  | nil =>
      refine ⟨[.openBracket, .closeBracket], .mark opens closed, ?_⟩
      intro machine key frames awaits room
      have left : (machine.enter (.entryValue key (.item []) frames)).advance .closeBracket =
          machine.deliver key (.list []) frames :=
        deliver_enter machine (.entryValue key (.item []) frames) key _ frames
      rw [foldlM_cons_of_eq_some (enter awaits room), List.foldlM_cons, left]
      simp
  | cons item rest =>
      have first := each item List.mem_cons_self
      obtain ⟨itemTokens, itemScans, itemBuilds⟩ := first.builds
      obtain ⟨restTokens, restScans, restBuilds⟩ := exists_tokens_items
        fun other member => each other (List.mem_cons_of_mem item member)
      refine ⟨.openBracket :: (itemTokens ++ restTokens ++ [.closeBracket]), ?_, ?_⟩
      · have unquoted : (rest.flatMap fun item => ',' :: ' ' :: write item).head? ≠ some '"' := by
          cases rest <;> simp
        rw [writeArray, List.map_cons, separated_cons, List.flatMap_map]
        exact .mark opens ((itemScans.append restScans unquoted).append closed (by decide))
      · intro machine key frames awaits room
        have built := itemBuilds _ key _ (awaits_item machine key [] frames)
          (by rw [List.length_cons]; omega)
        rw [deliver_enter] at built
        have left (read : List Document) :
            (machine.enter (.entryValue key (.afterItem read) frames)).advance .closeBracket =
              machine.deliver key (.list read.reverse) frames :=
          deliver_enter machine (.entryValue key (.afterItem read) frames) key _ frames
        rw [foldlM_cons_of_eq_some (enter awaits room), List.append_assoc,
          foldlM_append_of_eq_some built, foldlM_append_of_eq_some (restBuilds _ _ _ _ room),
          List.foldlM_cons, left]
        simp

end Arrays

section Entries

variable {name : String} {machine : Machine} {key : Key} {frames : List Frame}

/-- A name that may stand without quotes. -/
structure IsBareName (name : String) : Prop where
  nonempty : name.toList ≠ []
  names : ∀ letter ∈ name.toList, isNameChar letter = true

instance : DecidablePred IsBareName := fun name =>
  decidable_of_iff (name.toList ≠ [] ∧ name.toList.all isNameChar)
    ⟨fun ⟨nonempty, names⟩ => ⟨nonempty, List.all_eq_true.mp names⟩, fun isBare =>
      ⟨isBare.nonempty, List.all_eq_true.mpr isBare.names⟩⟩

/-- The tokens of an entry up to its value. -/
def nameTokens (name : String) : List Token :=
  [.bare name.toList, .blank true, .equals, .blank true]

theorem Denotes.exists_tokens_writeEntry (value : Denotes depth text document)
    (isBare : IsBareName name) :
    ∃ tokens, ScansAlone (writeEntry name text) (nameTokens name ++ tokens) ∧
      Builds depth tokens document := by
  obtain ⟨tokens, scans, builds⟩ := value.builds
  refine ⟨tokens, ?_, builds⟩
  intro next rest ends
  have equals : Scans ('=' :: ' ' :: text) (.equals :: .blank true :: tokens) (next :: rest) :=
    (Scans.mark rfl).append (scans.blank value.begins next rest ends)
  have blank : Scans (' ' :: '=' :: ' ' :: text) (.blank true :: .equals :: .blank true :: tokens)
      (next :: rest) := (Scans.blank (by decide)).append equals
  have named : Scans name.toList [.bare name.toList] (' ' :: '=' :: ' ' :: text ++ next :: rest) :=
    .bare isBare.nonempty isBare.names (by decide)
  exact named.append blank

theorem IsBareName.begins (isBare : IsBareName name) : BeginsUnblank (writeEntry name text) := by
  have names := isBare.names
  rw [writeEntry]
  cases letters : name.toList with
  | nil => exact absurd letters isBare.nonempty
  | cons letter more =>
      rw [letters] at names
      have first := names letter List.mem_cons_self
      refine ⟨letter, _, rfl, ?_, ?_⟩ <;>
      · rintro rfl
        exact absurd first (by decide)

theorem IsBareName.advance_start (isBare : IsBareName name) :
    KeyScan.start.advance (.bare name.toList) = some ⟨[name], false⟩ := by
  have names : name.toList.all isNameChar = true := List.all_eq_true.mpr isBare.names
  simp [KeyScan.advance, names, KeyScan.enter, KeyScan.start]

/-- Entries with finished values. -/
def finished (fields : List (String × Document)) : Draft :=
  fields.map fun field => (field.1, .value field.2)

@[simp]
theorem entriesDocument_finished (fields : List (String × Document)) :
    Node.entriesDocument (finished fields) = fields := by
  induction fields with
  | nil => rfl
  | cons field rest ih =>
      have inner :
          Node.entriesDocument (rest.map fun field => (field.1, .value field.2)) = rest := ih
      simp [finished, Node.entriesDocument, Node.document, inner]

theorem assign_finished {fields : List (String × Document)} (new : name ∉ fields.map Prod.fst)
    (document : Document) : Draft.assign [] name document .header (finished fields) =
      some (finished (fields ++ [(name, document)])) := by
  have fresh : name ∉ (finished fields).map Prod.fst := by
    simpa [finished] using new
  have unentered := Keyed.get?_of_not_mem fresh
  have longer : finished (fields ++ [(name, document)]) =
      finished fields ++ [(name, .value document)] := by simp [finished]
  simp [Draft.assign, Draft.within, Draft.add, unentered, Keyed.put_of_not_mem _ fresh, longer]

/-- The name of an entry of an inline table leads to its value. -/
theorem foldlM_nameTokens_inline (isBare : IsBareName name) (entries : Draft) :
    (nameTokens name).foldlM Machine.advance
        (machine.enter (.entryValue key (.key entries KeyScan.start) frames)) =
      some (machine.enter
        (.entryValue key .value (.inlineTable entries ⟨[], name⟩ :: frames))) := by
  have named : (machine.enter (.entryValue key (.key entries KeyScan.start) frames)).advance
      (.bare name.toList) = (KeyScan.start.advance (.bare name.toList)).map fun scan =>
        machine.enter (.entryValue key (.key entries scan) frames) := rfl
  rw [isBare.advance_start] at named
  rw [nameTokens, foldlM_cons_of_eq_some named]
  rfl

/-- The name of an entry on a line leads to its value. -/
theorem foldlM_nameTokens_line (machine : Machine) (isBare : IsBareName name) :
    (nameTokens name).foldlM Machine.advance (machine.enter .lineStart) =
      some (machine.enter (.entryValue ⟨[], name⟩ .value [])) := by
  have named : (machine.enter .lineStart).advance (.bare name.toList) =
      (KeyScan.start.advance (.bare name.toList)).map fun scan =>
        machine.enter (.entryKey scan) := rfl
  rw [isBare.advance_start] at named
  rw [nameTokens, foldlM_cons_of_eq_some named]
  rfl

/-- A new name is entered with its value at the end of an inline table. -/
theorem Builds.entry {tokens : List Token} (builds : Builds depth tokens document)
    (isBare : IsBareName name) {read : List (String × Document)}
    (room : frames.length + (depth + 1) ≤ depthLimit) (new : name ∉ read.map Prod.fst) :
    (nameTokens name ++ tokens).foldlM Machine.advance
        (machine.enter (.entryValue key (.key (finished read) KeyScan.start) frames)) =
      some (machine.enter
        (.entryValue key (.afterEntry (finished (read ++ [(name, document)]))) frames)) := by
  have built := builds _ key (.inlineTable (finished read) ⟨[], name⟩ :: frames)
    (awaits_value machine key _) (by rw [List.length_cons]; omega)
  rw [deliver_enter] at built
  rw [foldlM_append_of_eq_some (foldlM_nameTokens_inline isBare _), built]
  simp [Machine.deliver, assign_finished new]

/-- Further entries of an inline table follow the ones that have been read. -/
theorem exists_tokens_entries {entries : List WrittenEntry}
    (each : ∀ entry ∈ entries,
      IsBareName entry.name ∧ Denotes depth entry.written entry.value) :
    ∃ tokens, ScansAlone (entries.flatMap fun entry => ',' :: ' ' :: entry.text) tokens ∧
      ∀ (machine : Machine) (key : Key) (frames : List Frame) (read : List (String × Document)),
        frames.length + (depth + 1) ≤ depthLimit →
          ((read ++ entries.map WrittenEntry.field).map Prod.fst).Nodup →
          tokens.foldlM Machine.advance
              (machine.enter (.entryValue key (.afterEntry (finished read)) frames)) =
            some (machine.enter (.entryValue key
              (.afterEntry (finished (read ++ entries.map WrittenEntry.field))) frames)) := by
  induction entries with
  | nil => exact ⟨[], .nil, fun _ _ _ read _ _ => by simp⟩
  | cons entry rest ih =>
      obtain ⟨restTokens, restScans, restBuilds⟩ :=
        ih fun other member => each other (List.mem_cons_of_mem entry member)
      obtain ⟨isBare, value⟩ := each entry List.mem_cons_self
      obtain ⟨entryTokens, entryScans, entryBuilds⟩ := value.exists_tokens_writeEntry isBare
      have separator : punctuation? ',' = some .comma := rfl
      refine ⟨.comma :: .blank true :: (nameTokens entry.name ++ entryTokens) ++ restTokens, ?_, ?_⟩
      · have unquoted : (rest.flatMap fun entry => ',' :: ' ' :: entry.text).head? ≠ some '"' := by
          cases rest <;> simp
        exact (ScansAlone.mark separator (entryScans.blank isBare.begins)).append restScans unquoted
      · intro machine key frames read room distinct
        have advanced :
            (machine.enter (.entryValue key (.afterEntry (finished read)) frames)).advance .comma =
              some (machine.enter
                (.entryValue key (.key (finished read) KeyScan.start) frames)) := rfl
        have skipped : (machine.enter (.entryValue key (.key (finished read) KeyScan.start)
            frames)).advance (.blank true) = some (machine.enter
              (.entryValue key (.key (finished read) KeyScan.start) frames)) := rfl
        obtain ⟨new, distinct⟩ := WrittenEntry.distinct_cons distinct
        rw [List.cons_append, foldlM_cons_of_eq_some advanced, List.cons_append,
          foldlM_cons_of_eq_some skipped,
          foldlM_append_of_eq_some (entryBuilds.entry isBare room new),
          restBuilds _ _ _ _ room distinct]
        simp [WrittenEntry.field]

theorem foldlM_enter_inlineTable (awaits : Awaits machine key frames)
    (room : frames.length < depthLimit) :
    [.openBrace, .blank true].foldlM Machine.advance machine =
      some (machine.enter (.entryValue key (.key (finished []) KeyScan.start) frames)) := by
  have opened : machine.advance .openBrace =
      some (machine.enter (.entryValue key (.key (finished []) KeyScan.start) frames)) := by
    rw [awaits .openBrace trivial]
    exact opening_of_room _ room
  rw [foldlM_cons_of_eq_some opened]
  rfl

theorem foldlM_leave_inlineTable (machine : Machine) (key : Key) (frames : List Frame)
    (read : List (String × Document)) :
    [.blank true, .closeBrace].foldlM Machine.advance
        (machine.enter (.entryValue key (.afterEntry (finished read)) frames)) =
      machine.deliver key (.table read) frames :=
  calc
    _ = (machine.enter (.entryValue key (.afterEntry (finished read)) frames)).deliver key
          (.table (Node.entriesDocument (finished read))) frames := bind_pure _
    _ = _ := by rw [deliver_enter, entriesDocument_finished]

theorem denotes_writeInlineTable {entries : List WrittenEntry} (nonempty : entries ≠ [])
    (distinct : (entries.map WrittenEntry.name).Nodup)
    (each : ∀ entry ∈ entries,
      IsBareName entry.name ∧ Denotes depth entry.written entry.value) :
    Denotes (depth + 1) (writeInlineTable (entries.map WrittenEntry.text))
      (.table (entries.map WrittenEntry.field)) := by
  refine ⟨⟨'{', _, rfl, by decide⟩, ?_⟩
  cases entries with
  | nil => exact absurd rfl nonempty
  | cons entry rest =>
      obtain ⟨isBare, value⟩ := each entry List.mem_cons_self
      obtain ⟨entryTokens, entryScans, entryBuilds⟩ := value.exists_tokens_writeEntry isBare
      obtain ⟨restTokens, restScans, restBuilds⟩ := exists_tokens_entries
        fun other member => each other (List.mem_cons_of_mem entry member)
      refine ⟨[.openBrace, .blank true] ++ (nameTokens entry.name ++ entryTokens ++ restTokens ++
        [.blank true, .closeBrace]), ?_, ?_⟩
      · have unquoted : (rest.flatMap fun entry => ',' :: ' ' :: entry.text).head? ≠ some '"' := by
          cases rest <;> simp
        have closed : ScansAlone [' ', '}'] [.blank true, .closeBrace] :=
          .blank ⟨'}', [], rfl, by decide⟩ (.mark rfl .nil)
        have inner := (entryScans.append restScans unquoted).append closed (by decide)
        rw [writeInlineTable, List.map_cons, separated_cons, List.flatMap_map]
        exact .mark rfl (inner.blank ((isBare.begins.append _).append _))
      · intro machine key frames awaits room
        have distinctFields :
            (([entry.field] ++ rest.map WrittenEntry.field).map Prod.fst).Nodup := by
          simpa [List.map_map, Function.comp_def, WrittenEntry.field] using distinct
        have first : (nameTokens entry.name ++ entryTokens).foldlM Machine.advance
              (machine.enter (.entryValue key (.key (finished []) KeyScan.start) frames)) =
            some (machine.enter (.entryValue key (.afterEntry (finished [entry.field])) frames)) :=
          entryBuilds.entry isBare room List.not_mem_nil
        have others := restBuilds machine key frames [entry.field] room distinctFields
        rw [foldlM_append_of_eq_some (foldlM_enter_inlineTable awaits (by omega)),
          List.append_assoc, foldlM_append_of_eq_some first, foldlM_append_of_eq_some others,
          foldlM_leave_inlineTable]
        rfl

end Entries

section Tables

variable {name : String} {entries : List WrittenEntry} {rest : List Char}

/-- The machine between two lines, when the document is one array of tables with finished
fields, the latest table first. -/
def betweenLines (name : String) (here : List String) :
    (tables : List (List (String × Document))) → Machine
  | [] => ⟨[], here, .lineStart⟩
  | latest :: earlier =>
      ⟨[(name, .tables (finished latest) (earlier.map finished))], here, .lineStart⟩

def headerText (name : String) : List Char :=
  '[' :: '[' :: name.toList ++ [']', ']', '\n']

def headerTokens (name : String) : List Token :=
  [.openBracket, .openBracket, .bare name.toList, .closeBracket, .closeBracket, .newline]

theorem IsBareName.scans_headerText (isBare : IsBareName name) :
    Scans (headerText name) (headerTokens name) rest := by
  have closes : Scans [']', ']', '\n'] [.closeBracket, .closeBracket, .newline] rest :=
    (Scans.mark rfl).append ((Scans.mark (c := ']') rfl).append (Scans.mark (c := '\n') rfl))
  have named : Scans name.toList [.bare name.toList] ([']', ']', '\n'] ++ rest) :=
    .bare isBare.nonempty isBare.names (by decide)
  exact (Scans.mark (c := '[') rfl).append
    ((Scans.mark (c := '[') rfl).append (named.append closes))

theorem openSection_betweenLines (name : String) (here : List String)
    (tables : List (List (String × Document))) :
    ((betweenLines name here tables).enter (.headerClosing ⟨[], name⟩)).openSection true
        ⟨[], name⟩ =
      some ((betweenLines name [name] ([] :: tables)).enter .lineEnd) := by
  cases tables <;>
    simp [Machine.openSection, Draft.within, Draft.append, betweenLines, Machine.enter, Keyed.get?,
      Keyed.put, finished]

/-- A header opens a new table of the array. -/
theorem IsBareName.foldlM_headerTokens (isBare : IsBareName name) (here : List String)
    (tables : List (List (String × Document))) :
    (headerTokens name).foldlM Machine.advance (betweenLines name here tables) =
      some (betweenLines name [name] ([] :: tables)) := by
  have opened : (betweenLines name here tables).advance .openBracket =
      some ((betweenLines name here tables).enter .headerOpened) := by
    cases tables <;> rfl
  have twice : ((betweenLines name here tables).enter .headerOpened).advance .openBracket =
      some ((betweenLines name here tables).enter (.header true KeyScan.start)) := rfl
  have named : ((betweenLines name here tables).enter (.header true KeyScan.start)).advance
      (.bare name.toList) = (KeyScan.start.advance (.bare name.toList)).map fun scan =>
        (betweenLines name here tables).enter (.header true scan) := rfl
  rw [isBare.advance_start] at named
  have closed :
      ((betweenLines name here tables).enter (.header true ⟨[name], false⟩)).advance .closeBracket =
        some ((betweenLines name here tables).enter (.headerClosing ⟨[], name⟩)) := rfl
  have closedTwice : ((betweenLines name here tables).enter (.headerClosing ⟨[], name⟩)).advance
      .closeBracket = some ((betweenLines name [name] ([] :: tables)).enter .lineEnd) :=
    openSection_betweenLines name here tables
  rw [headerTokens, foldlM_cons_of_eq_some opened, foldlM_cons_of_eq_some twice,
    foldlM_cons_of_eq_some named, foldlM_cons_of_eq_some closed,
    foldlM_cons_of_eq_some closedTwice]
  rfl

theorem assign_betweenLines {field : String} {read : List (String × Document)}
    (new : field ∉ read.map Prod.fst) (document : Document) (name : String)
    (earlier : List (List (String × Document))) :
    (betweenLines name [name] (read :: earlier)).assign ⟨[], field⟩ document =
      some ((betweenLines name [name] ((read ++ [(field, document)]) :: earlier)).enter
        .lineEnd) := by
  simp [Machine.assign, betweenLines, Draft.within, Keyed.get?, assign_finished new, Keyed.put,
    Machine.enter]

/-- An entry on a line is added to the latest table. -/
theorem Builds.line {tokens : List Token} (builds : Builds depth tokens document)
    {field : String} (isBare : IsBareName field) (room : depth ≤ depthLimit)
    {read : List (String × Document)} (new : field ∉ read.map Prod.fst) (name : String)
    (earlier : List (List (String × Document))) :
    (nameTokens field ++ tokens ++ [Token.newline]).foldlM Machine.advance
        (betweenLines name [name] (read :: earlier)) =
      some (betweenLines name [name] ((read ++ [(field, document)]) :: earlier)) := by
  have named : (nameTokens field).foldlM Machine.advance
      (betweenLines name [name] (read :: earlier)) =
        some ((betweenLines name [name] (read :: earlier)).enter
          (.entryValue ⟨[], field⟩ .value [])) :=
    foldlM_nameTokens_line (betweenLines name [name] (read :: earlier)) isBare
  have built := builds _ ⟨[], field⟩ []
    (awaits_value (betweenLines name [name] (read :: earlier)) _ _) (by simpa using room)
  rw [deliver_enter, Machine.deliver, assign_betweenLines new] at built
  rw [List.append_assoc, foldlM_append_of_eq_some named, foldlM_append_of_eq_some built]
  rfl

/-- A table of the array: its header, and its entries line by line. -/
def tableText (name : String) (entries : List WrittenEntry) : List Char :=
  headerText name ++ entries.flatMap fun entry => entry.text ++ ['\n']

theorem exists_tokens_lines (each : ∀ entry ∈ entries,
      IsBareName entry.name ∧ Denotes depth entry.written entry.value) (room : depth ≤ depthLimit) :
    ∃ tokens, (∀ rest, Scans (entries.flatMap fun entry => entry.text ++ ['\n']) tokens rest) ∧
      ∀ (name : String) (read : List (String × Document))
        (earlier : List (List (String × Document))),
        ((read ++ entries.map WrittenEntry.field).map Prod.fst).Nodup →
          tokens.foldlM Machine.advance (betweenLines name [name] (read :: earlier)) =
            some (betweenLines name [name]
              ((read ++ entries.map WrittenEntry.field) :: earlier)) := by
  induction entries with
  | nil => exact ⟨[], fun _ => .nil, fun _ read _ _ => by simp⟩
  | cons entry rest ih =>
      obtain ⟨restTokens, restScans, restBuilds⟩ :=
        ih fun other member => each other (List.mem_cons_of_mem entry member)
      obtain ⟨isBare, value⟩ := each entry List.mem_cons_self
      obtain ⟨tokens, scans, builds⟩ := value.exists_tokens_writeEntry isBare
      refine ⟨nameTokens entry.name ++ tokens ++ [.newline] ++ restTokens, ?_, ?_⟩
      · intro following
        have line (after : List Char) : Scans (entry.text ++ ['\n'])
            (nameTokens entry.name ++ tokens ++ [.newline]) after :=
          (scans '\n' after (by decide)).append (.mark rfl)
        exact (line _).append (restScans following)
      · intro name read earlier distinct
        obtain ⟨new, distinct⟩ := WrittenEntry.distinct_cons distinct
        rw [foldlM_append_of_eq_some (builds.line isBare room new name earlier),
          restBuilds name _ earlier distinct]
        simp [WrittenEntry.field]

/-- Names and values of an array of tables as it can be written. -/
def Writable (depth : Nat) (tables : List (List WrittenEntry)) : Prop :=
  ∀ entries ∈ tables, (entries.map WrittenEntry.name).Nodup ∧
    ∀ entry ∈ entries, IsBareName entry.name ∧ Denotes depth entry.written entry.value

theorem exists_tokens_tables {tables : List (List WrittenEntry)} (isBare : IsBareName name)
    (writable : Writable depth tables) (room : depth ≤ depthLimit) :
    ∃ tokens, (∀ rest, Scans (tables.flatMap (tableText name)) tokens rest) ∧
      ∀ (here : List String) (read : List (List (String × Document))), ∃ there,
        tokens.foldlM Machine.advance (betweenLines name here read) =
          some (betweenLines name there
            ((tables.map fun entries => entries.map WrittenEntry.field).reverse ++ read)) := by
  induction tables with
  | nil => exact ⟨[], fun _ => .nil, fun here read => ⟨here, rfl⟩⟩
  | cons entries rest ih =>
      obtain ⟨restTokens, restScans, restBuilds⟩ :=
        ih fun other member => writable other (List.mem_cons_of_mem entries member)
      obtain ⟨distinct, each⟩ := writable entries List.mem_cons_self
      obtain ⟨tokens, scans, builds⟩ := exists_tokens_lines each room
      refine ⟨headerTokens name ++ tokens ++ restTokens, ?_, ?_⟩
      · intro following
        exact (isBare.scans_headerText.append (scans _)).append (restScans following)
      · intro here read
        obtain ⟨there, built⟩ := restBuilds [name] (entries.map WrittenEntry.field :: read)
        have lines := builds name [] read
          (by simpa [List.map_map, Function.comp_def, WrittenEntry.field] using distinct)
        rw [List.nil_append] at lines
        refine ⟨there, ?_⟩
        rw [List.append_assoc, foldlM_append_of_eq_some (isBare.foldlM_headerTokens here read),
          foldlM_append_of_eq_some lines, built]
        simp

theorem earlierDocuments_finished (tables : List (List (String × Document))) :
    Node.earlierDocuments (tables.map finished) = tables.map .table := by
  induction tables with
  | nil => rfl
  | cons fields rest ih => simp [Node.earlierDocuments, ih]

/-- The entries of a document with one array of tables; an empty array leaves no trace. -/
def arrayEntries (name : String) (tables : List (List (String × Document))) :
    List (String × Document) :=
  if tables.isEmpty then [] else [(name, .list (tables.map .table))]

theorem finish_betweenLines (name : String) (here : List String)
    (tables : List (List (String × Document))) :
    (betweenLines name here tables.reverse).finish = some (.table (arrayEntries name tables)) := by
  cases reversed : tables.reverse with
  | nil =>
      obtain rfl := List.reverse_eq_nil_iff.mp reversed
      rfl
  | cons latest earlier =>
      have whole : tables = earlier.reverse ++ [latest] := by
        rw [← List.reverse_reverse tables, reversed, List.reverse_cons]
      have finishes : (betweenLines name here (latest :: earlier)).finish =
          some (.table (Node.entriesDocument
            [(name, .tables (finished latest) (earlier.map finished))])) := rfl
      rw [finishes, whole]
      simp [Node.entriesDocument, Node.document, earlierDocuments_finished, arrayEntries]

theorem withoutOrderMark_tables (name : String) (tables : List (List WrittenEntry)) :
    withoutOrderMark (tables.flatMap (tableText name)) = tables.flatMap (tableText name) := by
  cases tables <;> rfl

/-- An array of tables is read back. -/
theorem parse?_tables {tables : List (List WrittenEntry)} (isBare : IsBareName name)
    (writable : Writable depth tables) (room : depth ≤ depthLimit) :
    parse? (String.ofList (tables.flatMap (tableText name))) = some (.table (arrayEntries name
      (tables.map fun entries => entries.map WrittenEntry.field))) := by
  obtain ⟨tokens, scans, builds⟩ := exists_tokens_tables isBare writable room
  obtain ⟨there, built⟩ := builds [] []
  have scanned := scans [] []
  rw [List.append_nil, List.append_nil] at scanned
  have read : tokens? (tables.flatMap (tableText name)) = some tokens := by
    rw [tokens?, withoutOrderMark_tables, scanned]
    simp [Scanner.finish]
  rw [List.append_nil] at built
  rw [parse?, String.toList_ofList, read, Option.bind_some, ofTokens?]
  exact (congrArg (Option.bind · Machine.finish) built).trans (finish_betweenLines name there _)

end Tables

end Values

end Toml

end RobotsExclusion
