import Mathlib.Data.List.Sort

/-!
# Deduplicated lists

A list is deduplicated with regard to a relation by keeping each item that is not
the same as one kept earlier. Nothing is asked of the relation. What is kept is a
subsequence of the list, and there is only one such subsequence, since the items
kept up to a place decide about the item at that place.
-/

namespace PolicyDecision

variable {α : Type} {same : α → α → Prop} {items kept : List α} {places : List Nat} {item : α}

/-- What holds between the members of an increasing list and those behind them holds
between a member and every greater one. -/
theorem rel_of_increasing
    {relation : Nat → Nat → Prop}
    (increasing : places.Pairwise (· < ·))
    (related : places.Pairwise relation)
    {place other : Nat}
    (isPlace : place ∈ places)
    (isOther : other ∈ places)
    (inOrder : place < other) : relation place other := by
  induction places with
  | nil => cases isPlace
  | cons head rest inductionHypothesis =>
      obtain ⟨headLess, restIncreasing⟩ := List.pairwise_cons.mp increasing
      obtain ⟨headRelated, restRelated⟩ := List.pairwise_cons.mp related
      rcases List.mem_cons.mp isPlace with rfl | placeInRest
      · rcases List.mem_cons.mp isOther with rfl | otherInRest
        · exact absurd inOrder (Nat.lt_irrefl _)
        · exact headRelated other otherInRest
      · rcases List.mem_cons.mp isOther with rfl | otherInRest
        · exact absurd (inOrder.trans (headLess place placeInRest)) (Nat.lt_irrefl _)
        · exact inductionHypothesis restIncreasing restRelated placeInRest otherInRest

/-- The kept items stand at increasing places of the list. None of them is the same as one
kept earlier, and the item at any other place is the same as one kept at an earlier
place. -/
structure KeptAt
    (same : α → α → Prop)
    (items kept : List α)
    (places : List Nat) : Prop where
  increasing : places.Pairwise (· < ·)
  items_eq : (places.map fun place => items[place]?) = kept.map some
  distinct : kept.Pairwise fun earlier later => ¬same later earlier
  covered : ∀ place item, items[place]? = some item → place ∉ places →
    ∃ earlier ∈ places, earlier < place ∧ ∃ other, items[earlier]? = some other ∧ same item other

/-- A subsequence of the items without an item that is the same as an earlier one of it,
where every item is kept or is the same as one that is kept before it. -/
def Deduplicates (same : α → α → Prop) (items kept : List α) : Prop :=
  ∃ places, KeptAt same items kept places

namespace KeptAt

/-- There is a kept item at each of the places. -/
theorem exists_of_mem_places
    (keptAt : KeptAt same items kept places)
    {place : Nat}
    (isPlace : place ∈ places) : ∃ item ∈ kept, items[place]? = some item := by
  have member : items[place]? ∈ kept.map some :=
    keptAt.items_eq ▸ List.mem_map_of_mem (f := fun place => items[place]?) isPlace
  obtain ⟨item, isKept, found⟩ := List.mem_map.mp member
  exact ⟨item, isKept, found.symm⟩

/-- Each kept item has a place. -/
theorem exists_of_mem_kept
    (keptAt : KeptAt same items kept places)
    (isKept : item ∈ kept) : ∃ place ∈ places, items[place]? = some item := by
  have member : some item ∈ places.map fun place => items[place]? :=
    keptAt.items_eq ▸ List.mem_map_of_mem isKept
  exact List.mem_map.mp member

theorem lt_length
    (keptAt : KeptAt same items kept places)
    {place : Nat}
    (isPlace : place ∈ places) : place < items.length := by
  obtain ⟨item, -, found⟩ := keptAt.exists_of_mem_places isPlace
  exact (List.getElem?_eq_some_iff.mp found).1

theorem nil : KeptAt same [] [] [] :=
  ⟨.nil, rfl, .nil, fun _ _ found => nomatch found⟩

/-- The places stay what they are when items follow. -/
theorem getElem?_append
    (keptAt : KeptAt same items kept places)
    {place : Nat}
    (isPlace : place ∈ places)
    (more : List α) : (items ++ more)[place]? = items[place]? :=
  List.getElem?_append_left (keptAt.lt_length isPlace)

/-- What covers a place still covers it when items follow. -/
theorem covered_append
    (keptAt : KeptAt same items kept places)
    {place : Nat}
    (inside : place < items.length)
    {more : List α}
    (found : (items ++ more)[place]? = some item)
    (notKept : place ∉ places) :
    ∃ earlier ∈ places, earlier < place ∧
      ∃ other, (items ++ more)[earlier]? = some other ∧ same item other := by
  rw [List.getElem?_append_left inside] at found
  obtain ⟨earlier, isPlace, isEarlier, other, isOther, covers⟩ :=
    keptAt.covered place item found notKept
  rw [← keptAt.getElem?_append isPlace more] at isOther
  exact ⟨earlier, isPlace, isEarlier, other, isOther, covers⟩

/-- An item that is the same as a kept one is left out. -/
theorem append_repeated
    (keptAt : KeptAt same items kept places)
    (repeated : ∃ earlier ∈ kept, same item earlier) :
    KeptAt same (items ++ [item]) kept places where
  increasing := keptAt.increasing
  items_eq := by
    rw [← keptAt.items_eq]
    exact List.map_congr_left fun place isPlace => keptAt.getElem?_append isPlace [item]
  distinct := keptAt.distinct
  covered := by
    intro place other found notKept
    by_cases inside : place < items.length
    · exact keptAt.covered_append inside found notKept
    · rw [List.getElem?_append_right (Nat.not_lt.mp inside), List.getElem?_singleton] at found
      obtain ⟨-, isItem⟩ := Option.ite_none_right_eq_some.mp found
      cases isItem
      obtain ⟨held, isKept, covers⟩ := repeated
      obtain ⟨earlier, isPlace, isHeld⟩ := keptAt.exists_of_mem_kept isKept
      rw [← keptAt.getElem?_append isPlace [item]] at isHeld
      exact ⟨earlier, isPlace, by have := keptAt.lt_length isPlace; omega, held, isHeld, covers⟩

/-- An item that is the same as no kept one is kept. -/
theorem append_fresh
    (keptAt : KeptAt same items kept places)
    (fresh : ∀ earlier ∈ kept, ¬same item earlier) :
    KeptAt same (items ++ [item]) (kept ++ [item]) (places ++ [items.length]) where
  increasing := by
    refine List.pairwise_append.mpr ⟨keptAt.increasing, List.pairwise_singleton _ _, ?_⟩
    intro place isPlace last isLast
    rw [List.mem_singleton.mp isLast]
    exact keptAt.lt_length isPlace
  items_eq := by
    rw [List.map_append, List.map_append, ← keptAt.items_eq]
    congr 1
    · exact List.map_congr_left fun place isPlace => keptAt.getElem?_append isPlace [item]
    · simp
  distinct := by
    refine List.pairwise_append.mpr ⟨keptAt.distinct, List.pairwise_singleton _ _, ?_⟩
    intro earlier isKept last isLast
    rw [List.mem_singleton.mp isLast]
    exact fresh earlier isKept
  covered := by
    intro place other found notKept
    obtain ⟨notPlace, notLast⟩ := not_or.mp (List.mem_append.not.mp notKept)
    have bound := (List.getElem?_eq_some_iff.mp found).1
    rw [List.length_append, List.length_singleton] at bound
    rw [List.mem_singleton] at notLast
    obtain ⟨earlier, isPlace, covers⟩ := keptAt.covered_append (by omega) found notPlace
    exact ⟨earlier, List.mem_append_left _ isPlace, covers⟩

/-- Something is kept of every list that has an item. -/
theorem eq_nil_iff (keptAt : KeptAt same items kept places) : kept = [] ↔ items = [] := by
  constructor
  · rintro rfl
    have noPlace : places = [] := List.map_eq_nil_iff.mp keptAt.items_eq
    subst noPlace
    refine List.eq_nil_iff_length_eq_zero.mpr (Nat.eq_zero_of_not_pos fun positive => ?_)
    obtain ⟨earlier, isPlace, -⟩ :=
      keptAt.covered 0 items[0] (List.getElem?_eq_getElem positive) List.not_mem_nil
    exact List.not_mem_nil isPlace
  · rintro rfl
    refine List.eq_nil_iff_forall_not_mem.mpr fun item isKept => ?_
    obtain ⟨place, -, found⟩ := keptAt.exists_of_mem_kept isKept
    cases found

/-! ## Uniqueness -/

theorem pairwise_places
    (keptAt : KeptAt same items kept places) :
    places.Pairwise fun earlier later => ∀ first second,
      items[earlier]? = some first → items[later]? = some second → ¬same second first := by
  have distinct : (kept.map some).Pairwise fun earlier later => ∀ first second,
      earlier = some first → later = some second → ¬same second first := by
    refine List.pairwise_map.mpr (keptAt.distinct.imp ?_)
    rintro earlier later differ _ _ ⟨⟩ ⟨⟩
    exact differ
  rw [← keptAt.items_eq] at distinct
  exact List.pairwise_map.mp distinct

/-- The item at a later place is not the same as the one at an earlier place. -/
theorem not_same_of_lt
    (keptAt : KeptAt same items kept places)
    {earlier later : Nat}
    (isEarlier : earlier ∈ places)
    (isLater : later ∈ places)
    (inOrder : earlier < later)
    {first second : α}
    (isFirst : items[earlier]? = some first)
    (isSecond : items[later]? = some second) : ¬same second first :=
  rel_of_increasing keptAt.increasing keptAt.pairwise_places isEarlier isLater inOrder
    first second isFirst isSecond

/-- Where the places before it agree, a place of one deduplication is one of the other. -/
theorem mem_places_of_agree
    {otherKept : List α}
    {otherPlaces : List Nat}
    (keptAt : KeptAt same items kept places)
    (otherKeptAt : KeptAt same items otherKept otherPlaces)
    {place : Nat}
    (agree : ∀ earlier < place, earlier ∈ otherPlaces → earlier ∈ places)
    (isPlace : place ∈ places) : place ∈ otherPlaces := by
  obtain ⟨item, -, isItem⟩ := keptAt.exists_of_mem_places isPlace
  by_contra notPlace
  obtain ⟨earlier, isEarlier, inOrder, other, isOther, covers⟩ :=
    otherKeptAt.covered place item isItem notPlace
  have kept := agree earlier inOrder isEarlier
  exact keptAt.not_same_of_lt kept isPlace inOrder isOther isItem covers

/-- The places are determined by the list. -/
theorem places_unique
    {otherKept : List α}
    {otherPlaces : List Nat}
    (keptAt : KeptAt same items kept places)
    (otherKeptAt : KeptAt same items otherKept otherPlaces) : places = otherPlaces := by
  refine keptAt.increasing.eq_of_mem_iff otherKeptAt.increasing fun place => ?_
  induction place using Nat.strongRecOn with
  | ind place inductionHypothesis =>
      exact ⟨keptAt.mem_places_of_agree otherKeptAt fun earlier inOrder =>
          (inductionHypothesis earlier inOrder).mpr,
        otherKeptAt.mem_places_of_agree keptAt fun earlier inOrder =>
          (inductionHypothesis earlier inOrder).mp⟩

end KeptAt

/-- There is only one deduplication of a list. -/
theorem Deduplicates.unique
    {otherKept : List α}
    (deduplicates : Deduplicates same items kept)
    (otherDeduplicates : Deduplicates same items otherKept) : kept = otherKept := by
  obtain ⟨places, keptAt⟩ := deduplicates
  obtain ⟨otherPlaces, otherKeptAt⟩ := otherDeduplicates
  cases keptAt.places_unique otherKeptAt
  refine List.map_injective_iff.mpr (Option.some_injective α) ?_
  rw [← keptAt.items_eq, otherKeptAt.items_eq]

end PolicyDecision
