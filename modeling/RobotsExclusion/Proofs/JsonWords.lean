import Mathlib.Data.List.Forall2
import RobotsExclusion.Proofs.JsonNumerals

/-!
# The words of a JSON text

The words and numerals of a text are the longest runs of their characters outside of quotes.
Where a text is scanned, the values among its tokens are what these stand for, in their order.
-/

namespace RobotsExclusion

namespace Json

/-- Where a text is read: outside of quotes, after some characters of a word, newest first, in
quotes, or after a backslash there. -/
inductive Region
  | outside
  | word (spelling : List Char)
  | quoted
  | escaped

namespace Region

/-- The region after a character that does not go on with a word or a quotation. -/
def enter (c : Char) : Region :=
  if isBare c then .word [c] else if c = '"' then .quoted else .outside

/-- The region after a character, and the word that ends before it. -/
def step : Region → Char → List (List Char) × Region
  | .outside, c => ([], enter c)
  | .word spelling, c =>
      if isBare c then ([], .word (c :: spelling)) else ([spelling.reverse], enter c)
  | .quoted, c => ([], if c = '"' then .outside else if c = '\\' then .escaped else .quoted)
  | .escaped, _ => ([], .quoted)

/-- The words that end in a text. -/
def words : Region → List Char → List (List Char)
  | .word spelling, [] => [spelling.reverse]
  | .outside, [] | .quoted, [] | .escaped, [] => []
  | region, c :: rest => (region.step c).1 ++ words (region.step c).2 rest

theorem words_cons (region : Region) (c : Char) (rest : List Char) :
    region.words (c :: rest) = (region.step c).1 ++ (region.step c).2.words rest := by
  cases region <;> rfl

end Region

/-- The words and numerals of a text. -/
def words (text : List Char) : List (List Char) :=
  Region.outside.words text

/-- The region that a scanner is in. -/
def Mode.region : Mode → Region
  | .between => .outside
  | .bare spelling => .word spelling
  | .quoted _ => .quoted
  | .escape _ => .escaped
  | .unit _ _ _ _ => .quoted
  | .pair _ _ slash => if slash then .escaped else .quoted

/-- The value of a word or a number. -/
def Token.value? : Token → Option Document
  | .scalar value => some value
  | _ => none

section Scanning

variable {scanner next : Scanner} {c : Char} {text spelling : List Char} {tokens : List Token}

/-- The words that end stand for the values that a step adds to the tokens, and the scanner moves
to the region where the text goes on. -/
structure Advances (scanner next : Scanner) (ended : List (List Char)) (region : Region) :
    Prop where
  added : ∃ added, next.tokens.reverse = scanner.tokens.reverse ++ added ∧
    List.Forall₂ StandsFor ended (added.filterMap Token.value?)
  region : next.mode.region = region

theorem Advances.still {mode : Mode} {region : Region} (same : mode.region = region) :
    Advances scanner ⟨scanner.tokens, mode⟩ [] region :=
  ⟨⟨[], (List.append_nil _).symm, .nil⟩, same⟩

theorem Advances.push {token : Token} (mark : token.value? = none) :
    Advances scanner (scanner.push token) [] .outside := by
  refine ⟨⟨[token], List.reverse_cons, ?_⟩, rfl⟩
  rw [List.filterMap_cons_none mark]
  exact .nil

theorem enter_of_isBlank (blank : isBlank c = true) : Region.enter c = .outside := by
  simp only [isBlank, Bool.or_eq_true, decide_eq_true_eq] at blank
  rcases blank with ((rfl | rfl) | rfl) | rfl <;> rfl

theorem advances_of_start (started : scanner.start c = some next) :
    Advances scanner next [] (.enter c) := by
  unfold Scanner.start at started
  split at started
  · next blank =>
    cases started
    exact .still (enter_of_isBlank blank).symm
  · split at started
    · next bare =>
      cases started
      exact .still (if_pos bare).symm
    · next other =>
      rw [Region.enter, if_neg other]
      split at started <;> cases started
      · exact .push rfl
      · exact .push rfl
      · exact .push rfl
      · exact .push rfl
      · exact .push rfl
      · exact .push rfl
      · exact .still rfl

/-- A finished word adds a value that it stands for. -/
theorem exists_of_complete (completed : scanner.complete spelling = some next) :
    ∃ value, StandsFor spelling.reverse value ∧ next = scanner.push (.scalar value) := by
  obtain ⟨value, read, rfl⟩ := Option.map_eq_some_iff.mp completed
  exact ⟨value, standsFor_of_scalar? read, rfl⟩

theorem region_afterUnit {content : List Char} {high : Option Nat} {value : Nat} {mode : Mode}
    (entered : afterUnit content high value = some mode) : mode.region = .quoted := by
  unfold afterUnit at entered
  split at entered
  · split_ifs at entered <;> cases entered <;> rfl
  · split_ifs at entered
    cases entered
    rfl

theorem advances_of_advance (advanced : scanner.advance c = some next) :
    Advances scanner next (scanner.mode.region.step c).1 (scanner.mode.region.step c).2 := by
  obtain ⟨tokens, mode⟩ := scanner
  cases mode <;> simp only [Scanner.advance, Mode.region, Region.step] at advanced ⊢
  case between => exact advances_of_start advanced
  case bare spelling =>
    split at advanced
    · next bare =>
      cases advanced
      rw [if_pos bare]
      exact .still rfl
    · next other =>
      rw [if_neg other]
      obtain ⟨completed, finished, started⟩ := Option.bind_eq_some_iff.mp advanced
      obtain ⟨value, stands, rfl⟩ := exists_of_complete finished
      obtain ⟨⟨added, tokens, marks⟩, region⟩ := advances_of_start started
      refine ⟨⟨.scalar value :: added, ?_, .cons stands marks⟩, region⟩
      rw [tokens, Scanner.push, List.reverse_cons, List.append_assoc]
      rfl
  case quoted content =>
    split at advanced
    · next closes =>
      cases advanced
      rw [if_pos closes]
      exact .push rfl
    · next inside =>
      rw [if_neg inside]
      split at advanced
      · next escapes =>
        cases advanced
        rw [if_pos escapes]
        exact .still rfl
      · next plain =>
        rw [if_neg plain]
        split at advanced <;> cases advanced
        exact .still rfl
  case escape content =>
    split at advanced
    · cases advanced
      exact .still rfl
    · obtain ⟨character, -, rfl⟩ := Option.map_eq_some_iff.mp advanced
      exact .still rfl
  case unit content high missing value =>
    split at advanced
    · cases advanced
    · next digit isHex =>
      have inside : c ≠ '"' := by
        rintro rfl
        cases isHex
      have plain : c ≠ '\\' := by
        rintro rfl
        cases isHex
      rw [if_neg inside, if_neg plain]
      split at advanced
      · obtain ⟨mode, entered, rfl⟩ := Option.map_eq_some_iff.mp advanced
        exact .still (region_afterUnit entered)
      · cases advanced
        exact .still rfl
  case pair content high slash =>
    split at advanced <;> cases advanced <;> exact .still rfl

/-- A word that the text ends in is finished, too. -/
theorem standsFor_of_finish (finished : scanner.finish = some tokens) :
    ∃ later, tokens = scanner.tokens.reverse ++ later ∧
      List.Forall₂ StandsFor (scanner.mode.region.words []) (later.filterMap Token.value?) := by
  obtain ⟨read, mode⟩ := scanner
  unfold Scanner.finish at finished
  split at finished
  · next between =>
    cases finished
    obtain rfl : mode = .between := between
    exact ⟨[], (List.append_nil _).symm, .nil⟩
  · next spelling bare =>
    obtain rfl : mode = .bare spelling := bare
    obtain ⟨completed, word, rfl⟩ := Option.map_eq_some_iff.mp finished
    obtain ⟨value, stands, rfl⟩ := exists_of_complete word
    exact ⟨[.scalar value], List.reverse_cons, .cons stands .nil⟩
  · cases finished

/-- The words that end in the rest of a text stand for the values that a run adds. -/
theorem standsFor_of_run
    (run : (text.foldlM Scanner.advance scanner).bind Scanner.finish = some tokens) :
    ∃ later, tokens = scanner.tokens.reverse ++ later ∧
      List.Forall₂ StandsFor (scanner.mode.region.words text) (later.filterMap Token.value?) := by
  induction text generalizing scanner with
  | nil => exact standsFor_of_finish run
  | cons c rest ih =>
      rw [List.foldlM_cons, Option.bind_eq_bind, Option.bind_assoc, Option.bind_eq_some_iff] at run
      obtain ⟨next, advanced, run⟩ := run
      obtain ⟨⟨added, split, ended⟩, region⟩ := advances_of_advance advanced
      obtain ⟨later, rfl, stands⟩ := ih run
      refine ⟨added ++ later, by rw [split, List.append_assoc], ?_⟩
      rw [Region.words_cons, List.filterMap_append, ← region]
      exact List.rel_append ended stands

/-- The values among the tokens of a text are what its words and numerals stand for. -/
theorem standsFor_of_tokens? (scanned : tokens? text = some tokens) :
    List.Forall₂ StandsFor (words text) (tokens.filterMap Token.value?) := by
  obtain ⟨later, rfl, stands⟩ := standsFor_of_run scanned
  exact stands

end Scanning

end Json

end RobotsExclusion
