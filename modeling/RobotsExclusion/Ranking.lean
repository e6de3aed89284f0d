/-!
# Ranking by specificity

Rules and groups are consulted from the most specific to the least specific, and
equally specific ones in the order in which they were written.
-/

namespace RobotsExclusion

/-- Puts an item before the first one that is not more specific. -/
def rankIn {α : Type} (specificity : α → Nat) (item : α) : List α → List α
  | [] => [item]
  | first :: rest =>
      if specificity first ≤ specificity item then
        item :: first :: rest
      else
        first :: rankIn specificity item rest

/-- The items with the most specific first; ties keep their order. -/
def mostSpecificFirst {α : Type} (specificity : α → Nat) (items : List α) : List α :=
  items.foldr (rankIn specificity) []

/-- The first of the most specific items. -/
def mostSpecific? {α : Type} (specificity : α → Nat) : List α → Option α
  | [] => none
  | item :: rest =>
      match mostSpecific? specificity rest with
      | none => some item
      | some best => if specificity item < specificity best then some best else some item

section Laws

variable {α : Type} (specificity : α → Nat)

theorem rankIn_perm (item : α) (items : List α) :
    (rankIn specificity item items).Perm (item :: items) := by
  induction items with
  | nil => exact .refl _
  | cons first rest ih =>
      unfold rankIn
      split
      · exact .refl _
      · exact (ih.cons first).trans (.swap item first rest)

/-- Ranking loses nothing and adds nothing. -/
theorem mostSpecificFirst_perm (items : List α) :
    (mostSpecificFirst specificity items).Perm items := by
  induction items with
  | nil => exact .refl _
  | cons item rest ih => exact (rankIn_perm specificity item _).trans (ih.cons item)

theorem rankIn_pairwise (item : α) {items : List α}
    (ranked : items.Pairwise fun first later => specificity later ≤ specificity first) :
    (rankIn specificity item items).Pairwise
      fun first later => specificity later ≤ specificity first := by
  induction items with
  | nil => simp [rankIn]
  | cons first rest ih =>
      obtain ⟨head, tail⟩ := List.pairwise_cons.mp ranked
      unfold rankIn
      split
      · next least =>
        refine List.pairwise_cons.mpr ⟨?_, ranked⟩
        intro later member
        rcases List.mem_cons.mp member with same | member
        · exact same ▸ least
        · exact Nat.le_trans (head later member) least
      · next greater =>
        refine List.pairwise_cons.mpr ⟨?_, ih tail⟩
        intro later member
        rcases List.mem_cons.mp ((rankIn_perm specificity item rest).mem_iff.mp member) with
          same | member
        · exact same ▸ Nat.le_of_not_le greater
        · exact head later member

/-- No item stands before a more specific one. -/
theorem mostSpecificFirst_pairwise (items : List α) :
    (mostSpecificFirst specificity items).Pairwise
      fun first later => specificity later ≤ specificity first := by
  induction items with
  | nil => exact .nil
  | cons item rest ih => exact rankIn_pairwise specificity item ih

/-- The first ranked item is the first of the most specific ones. -/
theorem head?_mostSpecificFirst (items : List α) :
    (mostSpecificFirst specificity items).head? = mostSpecific? specificity items := by
  induction items with
  | nil => rfl
  | cons item rest ih =>
      have step : mostSpecificFirst specificity (item :: rest) =
          rankIn specificity item (mostSpecificFirst specificity rest) := rfl
      rw [step, mostSpecific?, ← ih]
      cases mostSpecificFirst specificity rest with
      | nil => rfl
      | cons first later =>
          by_cases least : specificity first ≤ specificity item
          · simp [rankIn, least, Nat.not_lt.mpr least]
          · simp [rankIn, least, Nat.lt_of_not_le least]

end Laws

end RobotsExclusion
