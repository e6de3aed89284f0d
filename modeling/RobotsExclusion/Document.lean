import RobotsExclusion.Keyed
import RobotsExclusion.Number.Binary64

/-!
# Documents

What a configuration text says before its meaning is considered: a tree of
scalars, lists and tables, the same for every notation.
-/

namespace RobotsExclusion

inductive Document
  | null
  | boolean (value : Bool)
  | integer (value : Int)
  | real (value : Binary64)
  | text (value : String)
  | list (items : List Document)
  | table (entries : List (String × Document))

namespace Document

mutual

/-- Equality is decided part by part; lists and tables have documents as their parts. -/
def decEq : (first second : Document) → Decidable (first = second)
  | .null, second =>
      match second with
      | .null => .isTrue rfl
      | .boolean _ | .integer _ | .real _ | .text _ | .list _ | .table _ => .isFalse nofun
  | .boolean value, second =>
      match second with
      | .boolean other => decidable_of_iff (value = other) (by simp)
      | .null | .integer _ | .real _ | .text _ | .list _ | .table _ => .isFalse nofun
  | .integer value, second =>
      match second with
      | .integer other => decidable_of_iff (value = other) (by simp)
      | .null | .boolean _ | .real _ | .text _ | .list _ | .table _ => .isFalse nofun
  | .real value, second =>
      match second with
      | .real other => decidable_of_iff (value = other) (by simp)
      | .null | .boolean _ | .integer _ | .text _ | .list _ | .table _ => .isFalse nofun
  | .text value, second =>
      match second with
      | .text other => decidable_of_iff (value = other) (by simp)
      | .null | .boolean _ | .integer _ | .real _ | .list _ | .table _ => .isFalse nofun
  | .list items, second =>
      match second with
      | .list others =>
          have := decEqItems items others
          decidable_of_iff (items = others) (by simp)
      | .null | .boolean _ | .integer _ | .real _ | .text _ | .table _ => .isFalse nofun
  | .table entries, second =>
      match second with
      | .table others =>
          have := decEqEntries entries others
          decidable_of_iff (entries = others) (by simp)
      | .null | .boolean _ | .integer _ | .real _ | .text _ | .list _ => .isFalse nofun

def decEqItems : (first second : List Document) → Decidable (first = second)
  | [], [] => .isTrue rfl
  | [], _ :: _ | _ :: _, [] => .isFalse nofun
  | item :: rest, other :: others =>
      have := decEq item other
      have := decEqItems rest others
      decidable_of_iff (item = other ∧ rest = others) (by simp)

def decEqEntries : (first second : List (String × Document)) → Decidable (first = second)
  | [], [] => .isTrue rfl
  | [], _ :: _ | _ :: _, [] => .isFalse nofun
  | (name, value) :: rest, (otherName, other) :: others =>
      have := decEq value other
      have := decEqEntries rest others
      decidable_of_iff (name = otherName ∧ value = other ∧ rest = others) (by simp [and_assoc])

end

instance : DecidableEq Document :=
  decEq

/-- The items of a list; none for any other value. -/
def items : Document → List Document
  | list items => items
  | _ => []

/-- The entries of a table; none for any other value. -/
def entries : Document → Keyed Document
  | table entries => entries
  | _ => []

mutual

/-- Lays a value over another one: tables are laid over each other entry by entry,
and any other value replaces what was there. -/
def overlay : (upper lower : Document) → Document
  | .table entries, lower => .table (overlayEntries entries lower.entries)
  | .null, _ => .null
  | .boolean value, _ => .boolean value
  | .integer value, _ => .integer value
  | .real value, _ => .real value
  | .text value, _ => .text value
  | .list items, _ => .list items

def overlayEntries :
    (upper : List (String × Document)) → (lower : Keyed Document) → Keyed Document
  | [], lower => lower
  | (name, value) :: rest, lower =>
      overlayEntries rest
        (Keyed.put name (overlay value ((Keyed.get? name lower).getD .null)) lower)

end

end Document

end RobotsExclusion
