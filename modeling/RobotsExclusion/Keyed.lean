/-!
# Keyed lists

Values by name, in the order in which the names were first entered.
-/

namespace RobotsExclusion

/-- Values by name; each name is meant to occur once. -/
abbrev Keyed (α : Type) :=
  List (String × α)

namespace Keyed

variable {α : Type}

def get? (name : String) : Keyed α → Option α
  | [] => none
  | entry :: rest => if entry.1 = name then some entry.2 else get? name rest

/-- Enters a value under a name; a name entered before keeps its place. -/
def put (name : String) (value : α) : Keyed α → Keyed α
  | [] => [(name, value)]
  | entry :: rest =>
      if entry.1 = name then (name, value) :: rest else entry :: put name value rest

/-- Enters a value under a name, unless the name was entered before. -/
def putNew (name : String) (value : α) : Keyed α → Keyed α
  | [] => [(name, value)]
  | entry :: rest =>
      if entry.1 = name then entry :: rest else entry :: putNew name value rest

@[simp]
theorem get?_put_self (name : String) (value : α) (keyed : Keyed α) :
    get? name (put name value keyed) = some value := by
  induction keyed with
  | nil => simp [put, get?]
  | cons entry rest ih =>
      by_cases same : entry.1 = name <;> simp [put, get?, same, ih]

theorem get?_put_of_ne {name other : String} (differs : other ≠ name) (value : α)
    (keyed : Keyed α) : get? other (put name value keyed) = get? other keyed := by
  induction keyed with
  | nil => simp [put, get?, differs.symm]
  | cons entry rest ih =>
      by_cases same : entry.1 = name
      · simp [put, get?, same, differs.symm]
      · simp [put, get?, same, ih]

/-- Entering a value once more changes nothing where the name was entered before. -/
theorem get?_putNew (name other : String) (value : α) (keyed : Keyed α) :
    get? other (putNew name value keyed) =
      (get? other keyed).or (if name = other then some value else none) := by
  induction keyed with
  | nil => by_cases same : name = other <;> simp [putNew, get?, same]
  | cons entry rest ih =>
      by_cases same : entry.1 = name
      · by_cases found : name = other <;> simp [putNew, get?, same, found]
      · rw [putNew, if_neg same, get?, get?]
        by_cases found : entry.1 = other <;> simp [found, ih]

end Keyed

end RobotsExclusion
