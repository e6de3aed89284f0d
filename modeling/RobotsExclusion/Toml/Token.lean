import RobotsExclusion.Text.Digits
import RobotsExclusion.Text.Escaped

/-!
# Tokens of TOML

A TOML text is a sequence of tokens.  Blanks and ends of lines are tokens too,
because both can separate; comments leave no token.  Texts come in four kinds: a
double mark allows escapes, a single mark does not, and three marks allow the text
to go over several lines.
-/

namespace RobotsExclusion

namespace Toml

inductive Token
  | dot
  | equals
  | comma
  | openBracket
  | closeBracket
  | openBrace
  | closeBrace
  /-- A run of blanks; `single` tells that it is just one space. -/
  | blank (single : Bool)
  | newline
  /-- A text; `long` tells that it could go over several lines. -/
  | text (content : List Char) (long : Bool)
  /-- A run of other characters: a bare key or a bare value, or a part of one. -/
  | bare (spelling : List Char)

inductive Quote
  | single
  | double
  deriving DecidableEq

/-- What the scanner is in the middle of; contents are listed newest first. -/
inductive Mode
  | between
  /-- In a run of blanks. -/
  | blank (single : Bool)
  /-- After a carriage return. -/
  | carriage
  | comment
  | bare (spelling : List Char)
  /-- After the first mark of a text. -/
  | oneMark (quote : Quote)
  /-- After two marks: an empty text, or the start of a long one. -/
  | twoMarks (quote : Quote)
  /-- In a text on one line. -/
  | line (quote : Quote) (content : List Char)
  /-- At the start of a long text, where an end of line does not count. -/
  | longStart (quote : Quote)
  /-- After a carriage return at the start of a long text. -/
  | longStartReturn (quote : Quote)
  /-- In a long text, after so many marks in a row. -/
  | long (quote : Quote) (content : List Char) (marks : Nat)
  /-- After a carriage return in a long text. -/
  | longReturn (quote : Quote) (content : List Char)
  | escape (long : Bool) (content : List Char)
  /-- In an escape by code point, with the digits that are missing. -/
  | code (long : Bool) (content : List Char) (missing : Nat) (value : Nat)
  /-- In the blanks after a backslash at the end of a line. -/
  | fold (content : List Char) (seenNewline : Bool)
  | foldReturn (content : List Char)

/-- A scanner: the tokens so far, newest first, and its mode. -/
structure Scanner where
  tokens : List Token
  mode : Mode

namespace Quote

def mark : Quote → Char
  | single => '\''
  | double => '"'

def ofChar? (c : Char) : Option Quote :=
  if c = '"' then some double else if c = '\'' then some single else none

end Quote

/-- Whether a character may stand in a comment or in a text on one line. -/
def isPlain (c : Char) : Bool :=
  c = '\t' || (0x20 ≤ c.toNat && c.toNat ≠ 0x7F)

def punctuation? : Char → Option Token
  | '.' => some .dot
  | '=' => some .equals
  | ',' => some .comma
  | '[' => some .openBracket
  | ']' => some .closeBracket
  | '{' => some .openBrace
  | '}' => some .closeBrace
  | '\n' => some .newline
  | _ => none

def endsBare (c : Char) : Bool :=
  (punctuation? c).isSome || c = ' ' || c = '\t' || c = '\r' || c = '#'

/-- The character that a backslash and one more character stand for. -/
def escaped? : Char → Option Char
  | 'e' => some '\x1b'
  | c => Text.escapedBy? c

/-- The count of digits in an escape by code point. -/
def codeLength? : Char → Option Nat
  | 'x' => some 2
  | 'u' => some 4
  | 'U' => some 8
  | _ => none

/-- The character with a code point, if it is one. -/
def character? (code : Nat) : Option Char :=
  if code < 0xD800 ∨ (0xE000 ≤ code ∧ code < 0x110000) then
    some (Char.ofNat code)
  else
    none

def goOn (long : Bool) (content : List Char) : Mode :=
  if long then .long .double content 0 else .line .double content

namespace Scanner

def push (scanner : Scanner) (token : Token) : Scanner :=
  ⟨token :: scanner.tokens, .between⟩

def enter (scanner : Scanner) (mode : Mode) : Scanner :=
  ⟨scanner.tokens, mode⟩

/-- Adds a text, whose content is listed newest first. -/
def pushText (scanner : Scanner) (content : List Char) (long : Bool) : Scanner :=
  scanner.push (.text content.reverse long)

def start (scanner : Scanner) (c : Char) : Scanner :=
  match punctuation? c with
  | some token => scanner.push token
  | none =>
      match Quote.ofChar? c with
      | some quote => scanner.enter (.oneMark quote)
      | none =>
          if c = ' ' then
            scanner.enter (.blank true)
          else if c = '\t' then
            scanner.enter (.blank false)
          else if c = '\r' then
            scanner.enter .carriage
          else if c = '#' then
            scanner.enter .comment
          else
            scanner.enter (.bare [c])

def inLine (scanner : Scanner) (quote : Quote) (content : List Char) (c : Char) :
    Option Scanner :=
  if c = quote.mark then
    some (scanner.pushText content false)
  else if c = '\\' ∧ quote = .double then
    some (scanner.enter (.escape false content))
  else if isPlain c then
    some (scanner.enter (.line quote (c :: content)))
  else
    none

/-- Reads a character of a long text, other than its mark. -/
def inLong (scanner : Scanner) (quote : Quote) (content : List Char) (c : Char) :
    Option Scanner :=
  if c = '\\' ∧ quote = .double then
    some (scanner.enter (.escape true content))
  else if c = '\r' then
    some (scanner.enter (.longReturn quote content))
  else if c = '\n' ∨ isPlain c then
    some (scanner.enter (.long quote (c :: content) 0))
  else
    none

def withMarks (quote : Quote) (content : List Char) (marks : Nat) : List Char :=
  List.replicate marks quote.mark ++ content

/-- Reads a character of a long text.  Three marks in a row close it, and up to two
further ones belong to its content. -/
def inMarks (scanner : Scanner) (quote : Quote) (content : List Char) (marks : Nat)
    (c : Char) : Option Scanner :=
  if c = quote.mark then
    if marks = 4 then
      some (scanner.pushText (withMarks quote content 2) true)
    else
      some (scanner.enter (.long quote content (marks + 1)))
  else if marks < 3 then
    scanner.inLong quote (withMarks quote content marks) c
  else
    some ((scanner.pushText (withMarks quote content (marks - 3)) true).start c)

def inEscape (scanner : Scanner) (long : Bool) (content : List Char) (c : Char) :
    Option Scanner :=
  match codeLength? c, escaped? c with
  | some length, _ => some (scanner.enter (.code long content length 0))
  | none, some character => some (scanner.enter (goOn long (character :: content)))
  | none, none =>
      if ¬ long then
        none
      else if c = ' ' ∨ c = '\t' then
        some (scanner.enter (.fold content false))
      else if c = '\n' then
        some (scanner.enter (.fold content true))
      else if c = '\r' then
        some (scanner.enter (.foldReturn content))
      else
        none

def inCode (scanner : Scanner) (long : Bool) (content : List Char) (missing value : Nat)
    (c : Char) : Option Scanner :=
  match Text.hexValue? c with
  | none => none
  | some digit =>
      if missing = 1 then
        (character? (value * 16 + digit)).map fun character =>
          scanner.enter (goOn long (character :: content))
      else
        some (scanner.enter (.code long content (missing - 1) (value * 16 + digit)))

def inFold (scanner : Scanner) (content : List Char) (seenNewline : Bool) (c : Char) :
    Option Scanner :=
  if c = ' ' ∨ c = '\t' then
    some (scanner.enter (.fold content seenNewline))
  else if c = '\n' then
    some (scanner.enter (.fold content true))
  else if c = '\r' then
    some (scanner.enter (.foldReturn content))
  else if seenNewline then
    scanner.inMarks .double content 0 c
  else
    none

def advance (scanner : Scanner) (c : Char) : Option Scanner :=
  match scanner.mode with
  | .between => some (scanner.start c)
  | .blank single =>
      if c = ' ' ∨ c = '\t' then
        some (scanner.enter (.blank false))
      else
        some ((scanner.push (.blank single)).start c)
  | .carriage => if c = '\n' then some (scanner.push .newline) else none
  | .comment =>
      if c = '\n' then
        some (scanner.push .newline)
      else if c = '\r' then
        some (scanner.enter .carriage)
      else if isPlain c then
        some scanner
      else
        none
  | .bare spelling =>
      if endsBare c then
        some ((scanner.push (.bare spelling.reverse)).start c)
      else
        some (scanner.enter (.bare (c :: spelling)))
  | .oneMark quote =>
      if c = quote.mark then
        some (scanner.enter (.twoMarks quote))
      else
        scanner.inLine quote [] c
  | .twoMarks quote =>
      if c = quote.mark then
        some (scanner.enter (.longStart quote))
      else
        some ((scanner.pushText [] false).start c)
  | .line quote content => scanner.inLine quote content c
  | .longStart quote =>
      if c = '\n' then
        some (scanner.enter (.long quote [] 0))
      else if c = '\r' then
        some (scanner.enter (.longStartReturn quote))
      else
        scanner.inMarks quote [] 0 c
  | .longStartReturn quote =>
      if c = '\n' then some (scanner.enter (.long quote [] 0)) else none
  | .long quote content marks => scanner.inMarks quote content marks c
  | .longReturn quote content =>
      if c = '\n' then
        some (scanner.enter (.long quote ('\n' :: '\r' :: content) 0))
      else
        none
  | .escape long content => scanner.inEscape long content c
  | .code long content missing value => scanner.inCode long content missing value c
  | .fold content seenNewline => scanner.inFold content seenNewline c
  | .foldReturn content =>
      if c = '\n' then some (scanner.enter (.fold content true)) else none

/-- The tokens that have been read when the text ends, newest first. -/
def finish (scanner : Scanner) : Option (List Token) :=
  match scanner.mode with
  | .between => some scanner.tokens
  | .blank _ => some scanner.tokens
  | .comment => some scanner.tokens
  | .bare spelling => some (.bare spelling.reverse :: scanner.tokens)
  | .twoMarks _ => some (.text [] false :: scanner.tokens)
  | .long quote content marks =>
      if marks < 3 then
        none
      else
        some (.text (withMarks quote content (marks - 3)).reverse true :: scanner.tokens)
  | _ => none

end Scanner

/-- The text after one byte order mark, if there is one. -/
def withoutOrderMark (text : List Char) : List Char :=
  match text with
  | '\uFEFF' :: rest => rest
  | _ => text

def tokens? (text : List Char) : Option (List Token) :=
  (((withoutOrderMark text).foldlM Scanner.advance ⟨[], .between⟩).bind
    Scanner.finish).map List.reverse

end Toml

end RobotsExclusion
