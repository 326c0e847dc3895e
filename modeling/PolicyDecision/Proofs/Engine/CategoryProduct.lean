import Mathlib.Algebra.BigOperators.Group.List.Basic
import Mathlib.Data.List.Forall2
import PolicyDecision.Proofs.Engine.Grouping

/-!
# Products of categories

The individual requests of a request are the choices of one category for each
identifier. Choices are made by positions within the groups, and the positions run
through all combinations in lexicographic order.
-/

namespace PolicyDecision

section Choices

variable {α β : Type} {groups : List (List α)}

/-! ## Members of the product -/

/-- A choice takes one member of each group. -/
theorem mem_choices_iff {choice : List α} :
    choice ∈ choices groups ↔ List.Forall₂ (· ∈ ·) choice groups := by
  induction groups generalizing choice with
  | nil => simp
  | cons group rest inductionHypothesis =>
      rw [choices, List.forall₂_cons_right_iff]
      simp only [List.mem_flatMap, List.mem_map, inductionHypothesis]
      constructor
      · rintro ⟨member, inGroup, others, chosen, rfl⟩
        exact ⟨member, others, inGroup, chosen, rfl⟩
      · rintro ⟨member, others, inGroup, chosen, rfl⟩
        exact ⟨member, inGroup, others, chosen, rfl⟩

/-- There are as many choices as the sizes of the groups multiply to. -/
theorem length_choices (groups : List (List α)) :
    (choices groups).length = (groups.map List.length).prod := by
  induction groups with
  | nil => rfl
  | cons group rest inductionHypothesis =>
      simp [choices, List.length_flatMap, inductionHypothesis]

/-- There is a choice when no group is empty. -/
theorem choices_ne_nil (filled : ∀ group ∈ groups, group ≠ []) : choices groups ≠ [] := by
  induction groups with
  | nil => exact List.cons_ne_nil _ _
  | cons group rest inductionHypothesis =>
      obtain ⟨groupFilled, restFilled⟩ := List.forall_mem_cons.mp filled
      obtain ⟨member, inGroup⟩ := List.exists_mem_of_ne_nil _ groupFilled
      obtain ⟨others, isRest⟩ := List.exists_mem_of_ne_nil _ (inductionHypothesis restFilled)
      exact List.ne_nil_of_mem
        (List.mem_flatMap.mpr ⟨member, inGroup, List.mem_map_of_mem isRest⟩)

theorem choices_singletons (items : List α) :
    choices (items.map fun item => [item]) = [items] := by
  induction items with
  | nil => rfl
  | cons item rest inductionHypothesis => simp [choices, inductionHypothesis]

/-! ## Positions -/

/-- Choices from increasing groups of numbers increase lexicographically. -/
theorem pairwise_lt_choices
    {groups : List (List Nat)}
    (increasing : ∀ group ∈ groups, group.Pairwise (· < ·)) :
    (choices groups).Pairwise (· < ·) := by
  induction groups with
  | nil => exact List.pairwise_singleton _ _
  | cons group rest inductionHypothesis =>
      obtain ⟨groupIncreasing, restIncreasing⟩ := List.forall_mem_cons.mp increasing
      refine List.pairwise_flatMap.mpr ⟨fun first _ => ?_, groupIncreasing.imp ?_⟩
      · refine List.pairwise_map.mpr ((inductionHypothesis restIncreasing).imp fun before => ?_)
        exact List.cons_lt_cons_iff.mpr (.inr ⟨rfl, before⟩)
      · intro first second before choice isFirst other isSecond
        obtain ⟨_, -, rfl⟩ := List.mem_map.mp isFirst
        obtain ⟨_, -, rfl⟩ := List.mem_map.mp isSecond
        exact List.cons_lt_cons_iff.mpr (.inl before)

/-- The positions of all choices from the groups. -/
def choicePositions (groups : List (List α)) : List (List Nat) :=
  choices (groups.map fun group => List.range group.length)

theorem pairwise_lt_choicePositions (groups : List (List α)) :
    (choicePositions groups).Pairwise (· < ·) :=
  pairwise_lt_choices (List.forall_mem_map.mpr fun _ _ => List.pairwise_lt_range)

theorem mem_choicePositions_iff {positions : List Nat} :
    positions ∈ choicePositions groups ↔
      List.Forall₂ (fun position group => position < group.length) positions groups := by
  rw [choicePositions, mem_choices_iff, List.forall₂_map_right_iff]
  simp only [List.mem_range]

/-- The choice has the members of the groups at the positions. -/
def Picks (groups : List (List α)) (positions : List Nat) (choice : List α) : Prop :=
  List.Forall₂ (fun (item : List α × Nat) member => item.1[item.2]? = some member)
    (groups.zip positions) choice

theorem forall₂_getElem?_range (group : List α) :
    List.Forall₂ (fun position member => group[position]? = some member)
      (List.range group.length) group :=
  List.forall₂_iff_get.mpr ⟨List.length_range, fun position _ inGroup => by simp⟩

/-- The choices stand in the order of their positions. -/
theorem forall₂_picks_choices (groups : List (List α)) :
    List.Forall₂ (Picks groups) (choicePositions groups) (choices groups) := by
  induction groups with
  | nil => exact .cons .nil .nil
  | cons group rest inductionHypothesis =>
      refine List.rel_flatMap (forall₂_getElem?_range group) fun position member inGroup => ?_
      refine List.forall₂_map_left_iff.mpr (List.forall₂_map_right_iff.mpr ?_)
      exact inductionHypothesis.imp fun positions choice picks => .cons inGroup picks

end Choices

/-! ## Individual requests -/

namespace Request

/-- Every request has an individual request. -/
theorem split_ne_nil (request : Request) : request.split ≠ [] := by
  rw [Request.split, ne_eq, List.map_eq_nil_iff]
  exact choices_ne_nil (ne_nil_of_mem_groupCategories request.categories)

/-- A request splits into the choices of one category for each identifier: all
combinations of positions within the groups of the identifiers, each once and in
lexicographic order, with the status of the request. Their number is the product of
the sizes of the groups and never zero, and a request without repeated identifiers
splits into itself alone. -/
theorem split_isProduct (request : Request) :
    let groups := (identifiersOf request.categories).map (categoriesWith request.categories)
    (∃ combinations : List (List Nat),
      combinations.Pairwise (· < ·) ∧
      (∀ positions, positions ∈ combinations ↔
        List.Forall₂ (fun position group => position < group.length) positions groups) ∧
      List.Forall₂
        (fun positions individual =>
          individual.status = request.status ∧ Picks groups positions individual.categories)
        combinations request.split) ∧
    request.split.length = (groups.map List.length).prod ∧
    0 < request.split.length ∧
    ((request.categories.map AttributeCategory.category).Nodup →
      request.split = [request.toIndividual]) := by
  intro groups
  have isSplit : request.split =
      (choices groups).map fun categories => ⟨request.status, categories⟩ := by
    rw [Request.split, groupCategories_eq_map]
  refine ⟨⟨choicePositions groups, pairwise_lt_choicePositions groups,
    fun _ => mem_choicePositions_iff, ?_⟩, ?_, List.length_pos_iff.mpr request.split_ne_nil,
    fun distinct => ?_⟩
  · rw [isSplit, List.forall₂_map_right_iff]
    exact (forall₂_picks_choices groups).imp fun _ _ picks => ⟨rfl, picks⟩
  · rw [isSplit, List.length_map, length_choices]
  · rw [Request.split, groupCategories_of_distinct (List.pairwise_map.mp distinct),
      choices_singletons]
    rfl

/-- Two resources and two actions, one between the other, make four individual
requests with the resource varying slowest, and a resource with an action makes
one. -/
theorem split_isProduct_of_interleaved :
    let named (category text : String) : AttributeCategory :=
      ⟨category, [.ofValue "id" (.string text)]⟩
    let first := named resourceCategory "first"
    let second := named resourceCategory "second"
    let read := named actionCategory "read"
    let write := named actionCategory "write"
    let request : Request := ⟨.ok, false, [first, read, second, write]⟩
    let single : Request := ⟨.ok, false, [first, read]⟩
    request.split =
        [⟨.ok, [first, read]⟩, ⟨.ok, [first, write]⟩, ⟨.ok, [second, read]⟩,
          ⟨.ok, [second, write]⟩] ∧
      request.split.length = 4 ∧ single.split = [single.toIndividual] := by
  intro named first second read write request single
  exact ⟨rfl, request.split_isProduct.2.1.trans (by decide),
    single.split_isProduct.2.2.2 (by decide)⟩

end Request
end PolicyDecision
