import RobotsExclusion.Ranking

/-!
# Ranking as a stable sort

A ranked list is pinned down by two facts: no item stands before a more specific
one, and equally specific items stand in the order in which they were written.
Therefore ranking commutes with selecting items, and the first ranked item that
meets a condition is the first of the most specific items that meet it.
-/

namespace RobotsExclusion

section Stability

variable {α : Type} {specificity : α → Nat}

/-- The items of a list ranked by descending specificity, ties in source order. -/
structure Ranked (specificity : α → Nat) (items ranked : List α) : Prop where
  descending : ranked.Pairwise fun first later => specificity later ≤ specificity first
  stable : ∀ degree,
    ranked.filter (fun item => specificity item = degree) =
      items.filter fun item => specificity item = degree

/-- An item that is put into a ranked list only passes more specific items. -/
private theorem filter_rankIn (degree : Nat) (item : α) (items : List α) :
    (rankIn specificity item items).filter (fun other => specificity other = degree) =
      (item :: items).filter fun other => specificity other = degree := by
  induction items with
  | nil => rfl
  | cons first rest ih =>
      unfold rankIn
      split
      · rfl
      · next greater =>
        by_cases firstHas : specificity first = degree
        · have itemLacks : specificity item ≠ degree := by omega
          simpa [firstHas, itemLacks] using ih
        · simpa [List.filter_cons, firstHas] using ih

theorem ranked_mostSpecificFirst (items : List α) :
    Ranked specificity items (mostSpecificFirst specificity items) where
  descending := mostSpecificFirst_pairwise specificity items
  stable degree := by
    induction items with
    | nil => rfl
    | cons item rest ih =>
        have step : mostSpecificFirst specificity (item :: rest) =
            rankIn specificity item (mostSpecificFirst specificity rest) := rfl
        rw [step, filter_rankIn, List.filter_cons, List.filter_cons, ih]

namespace Ranked

variable {items ranked other : List α}

theorem mem_iff (sorted : Ranked specificity items ranked) {item : α} :
    item ∈ ranked ↔ item ∈ items := by
  have same := sorted.stable (specificity item)
  have inRanked : item ∈ ranked.filter (fun other => specificity other = specificity item) ↔
      item ∈ ranked := by simp
  have inItems : item ∈ items.filter (fun other => specificity other = specificity item) ↔
      item ∈ items := by simp
  rw [← inRanked, same, inItems]

private theorem head_eq {first second : α} {rest later : List α}
    (one : Ranked specificity items (first :: rest))
    (two : Ranked specificity items (second :: later)) : first = second := by
  have firstIn : first ∈ second :: later :=
    two.mem_iff.mpr (one.mem_iff.mp List.mem_cons_self)
  have secondIn : second ∈ first :: rest :=
    one.mem_iff.mpr (two.mem_iff.mp List.mem_cons_self)
  have firstLe : specificity first ≤ specificity second := by
    rcases List.mem_cons.mp firstIn with same | member
    · exact Nat.le_of_eq (congrArg specificity same)
    · exact (List.pairwise_cons.mp two.descending).1 first member
  have secondLe : specificity second ≤ specificity first := by
    rcases List.mem_cons.mp secondIn with same | member
    · exact Nat.le_of_eq (congrArg specificity same)
    · exact (List.pairwise_cons.mp one.descending).1 second member
  have tie : specificity second = specificity first := Nat.le_antisymm secondLe firstLe
  have heads := (one.stable (specificity first)).trans (two.stable (specificity first)).symm
  simp only [List.filter_cons, tie, decide_true, if_true, List.cons.injEq] at heads
  exact heads.1

theorem eq (one : Ranked specificity items ranked) (two : Ranked specificity items other) :
    ranked = other := by
  induction ranked generalizing items other with
  | nil =>
      have empty : other = [] := by
        apply List.eq_nil_iff_forall_not_mem.mpr
        intro item member
        exact List.not_mem_nil (one.mem_iff.mpr (two.mem_iff.mp member))
      rw [empty]
  | cons first rest ih =>
      cases other with
      | nil => exact absurd (two.mem_iff.mpr (one.mem_iff.mp List.mem_cons_self)) List.not_mem_nil
      | cons second later =>
          obtain rfl : first = second := one.head_eq two
          congr 1
          -- Both tails rank the first tail.
          refine ih ⟨(List.pairwise_cons.mp one.descending).2, fun _ => rfl⟩
            ⟨(List.pairwise_cons.mp two.descending).2, fun degree => ?_⟩
          have same := (two.stable degree).trans (one.stable degree).symm
          by_cases has : specificity first = degree
          · simpa [List.filter_cons, has] using same
          · simpa [List.filter_cons, has] using same

protected theorem filter (sorted : Ranked specificity items ranked) (keep : α → Bool) :
    Ranked specificity (items.filter keep) (ranked.filter keep) where
  descending := sorted.descending.filter keep
  stable degree := by
    have swap (list : List α) :
        (list.filter keep).filter (fun item => specificity item = degree) =
          (list.filter fun item => specificity item = degree).filter keep := by
      rw [List.filter_filter, List.filter_filter]
      simp only [Bool.and_comm]
    rw [swap, swap, sorted.stable]

end Ranked

/-- Selecting items before or after they are ranked makes no difference. -/
theorem filter_mostSpecificFirst (keep : α → Bool) (items : List α) :
    (mostSpecificFirst specificity items).filter keep =
      mostSpecificFirst specificity (items.filter keep) :=
  ((ranked_mostSpecificFirst items).filter keep).eq (ranked_mostSpecificFirst _)

/-- The first ranked item that meets a condition is the first of the most specific
ones that meet it. -/
theorem find?_mostSpecificFirst (keep : α → Bool) (items : List α) :
    (mostSpecificFirst specificity items).find? keep =
      mostSpecific? specificity (items.filter keep) := by
  rw [← List.head?_filter, filter_mostSpecificFirst, head?_mostSpecificFirst]

end Stability

section Best

variable {α β : Type} {specificity : α → Nat} {items : List α} {best : α}

theorem mostSpecific?_eq_none_iff : mostSpecific? specificity items = none ↔ items = [] := by
  cases items with
  | nil => simp [mostSpecific?]
  | cons item rest =>
      simp only [mostSpecific?, reduceCtorEq, iff_false]
      split
      · simp
      · split <;> simp

theorem mostSpecific?_map (specificity : β → Nat) (rename : α → β) (items : List α) :
    mostSpecific? specificity (items.map rename) =
      (mostSpecific? (fun item => specificity (rename item)) items).map rename := by
  induction items with
  | nil => rfl
  | cons item rest ih =>
      simp only [List.map_cons, mostSpecific?, ih]
      cases mostSpecific? (fun item => specificity (rename item)) rest with
      | none => rfl
      | some best =>
          by_cases less : specificity (rename item) < specificity (rename best) <;>
            simp [less]

private theorem le_of_mem_split {earlier later : List α}
    (less : ∀ item ∈ earlier, specificity item < specificity best)
    (least : ∀ item ∈ later, specificity item ≤ specificity best)
    {item : α} (member : item ∈ earlier ++ best :: later) :
    specificity item ≤ specificity best := by
  rcases List.mem_append.mp member with member | member
  · exact Nat.le_of_lt (less item member)
  · rcases List.mem_cons.mp member with rfl | member
    · exact Nat.le_refl _
    · exact least item member

theorem exists_split_of_mostSpecific? (chosen : mostSpecific? specificity items = some best) :
    ∃ earlier later, items = earlier ++ best :: later ∧
      (∀ item ∈ earlier, specificity item < specificity best) ∧
      ∀ item ∈ later, specificity item ≤ specificity best := by
  induction items generalizing best with
  | nil => simp [mostSpecific?] at chosen
  | cons item rest ih =>
      rw [mostSpecific?] at chosen
      cases found : mostSpecific? specificity rest with
      | none =>
          obtain rfl := mostSpecific?_eq_none_iff.mp found
          obtain rfl : item = best := by simpa [found] using chosen
          exact ⟨[], [], by simp⟩
      | some rival =>
          obtain ⟨earlier, later, rfl, less, least⟩ := ih found
          simp only [found] at chosen
          split at chosen
          · next below =>
            obtain rfl := Option.some.inj chosen
            refine ⟨item :: earlier, later, rfl, ?_, least⟩
            intro other member
            rcases List.mem_cons.mp member with rfl | member
            · exact below
            · exact less other member
          · next above =>
            obtain rfl := Option.some.inj chosen
            refine ⟨[], earlier ++ rival :: later, rfl, by simp, ?_⟩
            intro other member
            have atMost := le_of_mem_split less least member
            omega

theorem mem_of_mostSpecific? (chosen : mostSpecific? specificity items = some best) :
    best ∈ items := by
  obtain ⟨earlier, later, rfl, -, -⟩ := exists_split_of_mostSpecific? chosen
  simp

theorem le_of_mostSpecific? (chosen : mostSpecific? specificity items = some best)
    {item : α} (member : item ∈ items) : specificity item ≤ specificity best := by
  obtain ⟨earlier, later, rfl, less, least⟩ := exists_split_of_mostSpecific? chosen
  exact le_of_mem_split less least member

/-- An item is chosen where all earlier items are less specific and no later item
is more specific. -/
theorem mostSpecific?_append_cons {earlier later : List α}
    (less : ∀ item ∈ earlier, specificity item < specificity best)
    (least : ∀ item ∈ later, specificity item ≤ specificity best) :
    mostSpecific? specificity (earlier ++ best :: later) = some best := by
  induction earlier with
  | nil =>
      rw [List.nil_append, mostSpecific?]
      cases found : mostSpecific? specificity later with
      | none => rfl
      | some rival =>
          have atMost := least rival (mem_of_mostSpecific? found)
          simp [Nat.not_lt.mpr atMost]
  | cons item rest ih =>
      have chosen := ih fun other member => less other (List.mem_cons_of_mem item member)
      simp [mostSpecific?, chosen, less item List.mem_cons_self]

theorem mostSpecific?_filter {keep : α → Bool}
    (chosen : mostSpecific? specificity items = some best) (kept : keep best = true) :
    mostSpecific? specificity (items.filter keep) = some best := by
  obtain ⟨earlier, later, rfl, less, least⟩ := exists_split_of_mostSpecific? chosen
  rw [List.filter_append, List.filter_cons_of_pos kept]
  apply mostSpecific?_append_cons
  · intro item member
    exact less item (List.mem_filter.mp member).1
  · intro item member
    exact least item (List.mem_filter.mp member).1

/-- Of items that stand in some order the earliest of the most specific ones is chosen. -/
theorem mostSpecific?_eq_some_iff {precedes : α → α → Prop}
    (asymmetric : ∀ {first second}, precedes first second → ¬ precedes second first)
    (ordered : items.Pairwise precedes) :
    mostSpecific? specificity items = some best ↔ best ∈ items ∧
      (∀ rival ∈ items, specificity rival ≤ specificity best) ∧
        ∀ rival ∈ items, specificity rival = specificity best → ¬ precedes rival best := by
  constructor
  · intro chosen
    refine ⟨mem_of_mostSpecific? chosen, fun _ => le_of_mostSpecific? chosen, ?_⟩
    obtain ⟨earlier, later, rfl, less, -⟩ := exists_split_of_mostSpecific? chosen
    obtain ⟨after, -⟩ := List.pairwise_cons.mp (List.pairwise_append.mp ordered).2.1
    intro rival member tie before
    rcases List.mem_append.mp member with member | member
    · have atMost := less rival member
      omega
    · rcases List.mem_cons.mp member with rfl | member
      · exact asymmetric before before
      · exact asymmetric (after rival member) before
  · rintro ⟨member, most, first⟩
    cases chosen : mostSpecific? specificity items with
    | none => simp [mostSpecific?_eq_none_iff.mp chosen] at member
    | some other =>
        obtain ⟨earlier, later, rfl, less, least⟩ := exists_split_of_mostSpecific? chosen
        obtain ⟨after, -⟩ := List.pairwise_cons.mp (List.pairwise_append.mp ordered).2.1
        have atLeast := most other (by simp)
        rcases List.mem_append.mp member with member | member
        · have atMost := less best member
          omega
        · rcases List.mem_cons.mp member with rfl | member
          · rfl
          · have tie := Nat.le_antisymm atLeast (least best member)
            exact absurd (after best member) (first other (by simp) tie)

/-- Items that stand before the place of the chosen one are less specific. -/
theorem lt_of_mostSpecific?_append {front back : List α}
    (chosen : mostSpecific? specificity (front ++ back) = some best)
    (late : best ∉ front) {item : α} (member : item ∈ front) :
    specificity item < specificity best := by
  obtain ⟨earlier, later, split, less, -⟩ := exists_split_of_mostSpecific? chosen
  rcases List.append_eq_append_iff.mp split with ⟨between, rfl, -⟩ | ⟨between, rfl, rest⟩
  · exact less item (List.mem_append_left between member)
  · cases between with
    | nil => exact less item (by simpa using member)
    | cons head tail =>
        obtain rfl : best = head := (List.cons.inj rest).1
        exact absurd (by simp) late

end Best

end RobotsExclusion
