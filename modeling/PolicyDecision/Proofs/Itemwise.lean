import Mathlib.Data.List.Forall2

/-!
# Lists computed item by item

A list computed from the items of another one is related to it item by item, and
each of its members comes from one of those items.
-/

namespace PolicyDecision

/-- A member of a list related to another one is related to a member of that. -/
theorem exists_of_forall₂_of_mem
    {α β : Type}
    {relation : α → β → Prop}
    {items : List α}
    {results : List β}
    (related : List.Forall₂ relation items results)
    {result : β}
    (member : result ∈ results) : ∃ item ∈ items, relation item result := by
  induction related with
  | nil => cases member
  | cons first _ inductionHypothesis =>
      rcases List.mem_cons.mp member with rfl | later
      · exact ⟨_, List.mem_cons_self, first⟩
      · obtain ⟨item, isItem, holds⟩ := inductionHypothesis later
        exact ⟨item, List.mem_cons_of_mem _ isItem, holds⟩

section Computed

variable {ε α β : Type} {items : List α} {results : List β}

/-- A list is computed when each of its items is. -/
theorem mapM_eq_ok_iff {compute : α → Except ε β} :
    items.mapM compute = .ok results ↔
      List.Forall₂ (fun item result => compute item = .ok result) items results := by
  induction items generalizing results with
  | nil => cases results <;> simp [pure, Except.pure]
  | cons item rest inductionHypothesis =>
      rw [List.mapM_cons, List.forall₂_cons_left_iff]
      simp only [← inductionHypothesis]
      cases compute item <;> cases rest.mapM compute <;>
        simp [bind, Except.bind, pure, Except.pure, eq_comm]

/-- A list of items that may have no result is computed when each item has one. -/
theorem mapM_eq_some_iff {compute : α → Option β} :
    items.mapM compute = some results ↔
      List.Forall₂ (fun item result => compute item = some result) items results := by
  induction items generalizing results with
  | nil => cases results <;> simp
  | cons item rest inductionHypothesis =>
      rw [List.mapM_cons, List.forall₂_cons_left_iff]
      simp only [← inductionHypothesis]
      cases compute item <;> cases rest.mapM compute <;> simp [eq_comm]

end Computed

end PolicyDecision
