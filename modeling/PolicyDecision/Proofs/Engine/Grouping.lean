import PolicyDecision.Engine.Split
import PolicyDecision.Proofs.Union

/-!
# Grouped categories

The groups of categories are those of the identifiers in the order in which they
appear first, and the group of an identifier has all its categories in the order of
the request.
-/

namespace PolicyDecision

/-- The categories with an identifier. -/
def categoriesWith (categories : List AttributeCategory) (id : String) : List AttributeCategory :=
  categories.filter fun category => category.category = id

/-- The identifiers of categories in the order in which they appear first. -/
def identifiersOf (categories : List AttributeCategory) : List String :=
  (categories.map AttributeCategory.category).eraseDups

theorem mem_categoriesWith
    {categories : List AttributeCategory}
    {id : String}
    {category : AttributeCategory} :
    category ∈ categoriesWith categories id ↔ category ∈ categories ∧ category.category = id := by
  simp [categoriesWith]

theorem mem_identifiersOf
    {categories : List AttributeCategory}
    {id : String} :
    id ∈ identifiersOf categories ↔ ∃ category ∈ categories, category.category = id := by
  simp [identifiersOf]

theorem nodup_identifiersOf (categories : List AttributeCategory) :
    (identifiersOf categories).Nodup := by
  rw [identifiersOf, ← unionWith_nil_eq_eraseDups]
  exact nodup_unionWith .nil _

/-- Another category joins those with its identifier. -/
theorem categoriesWith_concat_self
    (categories : List AttributeCategory)
    (new : AttributeCategory) :
    categoriesWith (categories ++ [new]) new.category =
      categoriesWith categories new.category ++ [new] := by
  simp [categoriesWith]

theorem categoriesWith_concat_of_ne
    (categories : List AttributeCategory)
    {new : AttributeCategory}
    {id : String}
    (foreign : new.category ≠ id) :
    categoriesWith (categories ++ [new]) id = categoriesWith categories id := by
  simp [categoriesWith, foreign]

/-- Another category has a new identifier or a known one. -/
theorem identifiersOf_concat (categories : List AttributeCategory) (new : AttributeCategory) :
    identifiersOf (categories ++ [new]) =
      if new.category ∈ identifiersOf categories then identifiersOf categories
      else identifiersOf categories ++ [new.category] := by
  simp only [identifiersOf, List.map_append, List.map_singleton, ← unionWith_nil_eq_eraseDups,
    unionWith_append, unionWith_cons, unionWith_nil, List.contains_iff_mem]

/-- Among the groups of some identifiers a category is put into that of its own
identifier, or makes a new group. -/
theorem insertIntoGroups_map_categoriesWith
    {categories : List AttributeCategory}
    {ids : List String}
    (distinct : ids.Nodup)
    (filled : ∀ id ∈ ids, categoriesWith categories id ≠ [])
    (new : AttributeCategory) :
    insertIntoGroups new (ids.map (categoriesWith categories)) =
      ids.map (categoriesWith (categories ++ [new])) ++
        if new.category ∈ ids then [] else [[new]] := by
  induction ids with
  | nil => rfl
  | cons id rest inductionHypothesis =>
      obtain ⟨absent, restDistinct⟩ := List.nodup_cons.mp distinct
      obtain ⟨idFilled, restFilled⟩ := List.forall_mem_cons.mp filled
      rw [List.map_cons, insertIntoGroups]
      split
      · rename_i belongs
        obtain ⟨member, isMember, sameId⟩ := List.any_eq_true.mp belongs
        have isId : new.category = id :=
          (of_decide_eq_true sameId).symm.trans (mem_categoriesWith.mp isMember).2
        subst isId
        have others : rest.map (categoriesWith (categories ++ [new])) =
            rest.map (categoriesWith categories) :=
          List.map_congr_left fun other isOther =>
            categoriesWith_concat_of_ne categories fun same => absent (same ▸ isOther)
        rw [List.map_cons, categoriesWith_concat_self, others, if_pos List.mem_cons_self,
          List.append_nil]
      · rename_i foreign
        have otherId : new.category ≠ id := by
          rintro rfl
          obtain ⟨member, isMember⟩ := List.exists_mem_of_ne_nil _ idFilled
          exact foreign (List.any_eq_true.mpr
            ⟨member, isMember, decide_eq_true (mem_categoriesWith.mp isMember).2⟩)
        rw [inductionHypothesis restDistinct restFilled, List.map_cons,
          categoriesWith_concat_of_ne categories otherId, List.cons_append]
        simp [otherId]

theorem categoriesWith_ne_nil
    {categories : List AttributeCategory}
    {id : String}
    (isId : id ∈ identifiersOf categories) : categoriesWith categories id ≠ [] := by
  obtain ⟨category, member, hasId⟩ := mem_identifiersOf.mp isId
  exact List.ne_nil_of_mem (mem_categoriesWith.mpr ⟨member, hasId⟩)

/-- The groups are those of the identifiers. -/
theorem groupCategories_eq_map (categories : List AttributeCategory) :
    groupCategories categories = (identifiersOf categories).map (categoriesWith categories) := by
  -- The categories that are grouped already are a first part of all of them.
  have after (grouped rest : List AttributeCategory) :
      rest.foldl (fun groups category => insertIntoGroups category groups)
          ((identifiersOf grouped).map (categoriesWith grouped)) =
        (identifiersOf (grouped ++ rest)).map (categoriesWith (grouped ++ rest)) := by
    induction rest generalizing grouped with
    | nil => rw [List.foldl_nil, List.append_nil]
    | cons new rest inductionHypothesis =>
        have inserted : insertIntoGroups new
            ((identifiersOf grouped).map (categoriesWith grouped)) =
              (identifiersOf (grouped ++ [new])).map (categoriesWith (grouped ++ [new])) := by
          rw [insertIntoGroups_map_categoriesWith (nodup_identifiersOf grouped)
            (fun id => categoriesWith_ne_nil) new, identifiersOf_concat]
          split
          · rw [List.append_nil]
          · rename_i isNew
            have alone : categoriesWith grouped new.category = [] :=
              List.eq_nil_iff_forall_not_mem.mpr fun category member =>
                isNew (mem_identifiersOf.mpr ⟨category, mem_categoriesWith.mp member⟩)
            rw [List.map_append, List.map_singleton, categoriesWith_concat_self, alone,
              List.nil_append]
        rw [List.foldl_cons, inserted, inductionHypothesis, List.append_assoc,
          List.singleton_append]
  exact after [] categories

/-! ## What the groups are like -/

/-- No category of the first group has the identifier of one of the second. -/
def Apart (first second : List AttributeCategory) : Prop :=
  ∀ category ∈ first, ∀ other ∈ second, category.category ≠ other.category

theorem pairwise_apart_groupCategories (categories : List AttributeCategory) :
    (groupCategories categories).Pairwise Apart := by
  rw [groupCategories_eq_map, List.pairwise_map]
  refine (nodup_identifiersOf categories).imp fun differ category member other isOther same => ?_
  rw [(mem_categoriesWith.mp member).2, (mem_categoriesWith.mp isOther).2] at same
  exact differ same

theorem ne_nil_of_mem_groupCategories (categories : List AttributeCategory) :
    ∀ group ∈ groupCategories categories, group ≠ [] := by
  rw [groupCategories_eq_map]
  exact List.forall_mem_map.mpr fun id => categoriesWith_ne_nil

/-- Categories of distinct identifiers are groups of their own. -/
theorem groupCategories_of_distinct
    {categories : List AttributeCategory}
    (distinct : categories.Pairwise fun first second => first.category ≠ second.category) :
    groupCategories categories = categories.map fun category => [category] := by
  have ids : identifiersOf categories = categories.map AttributeCategory.category :=
    (withoutRepetition_iff_nodup.mpr (List.pairwise_map.mpr distinct)).eraseDups_eq
  rw [groupCategories_eq_map, ids, List.map_map]
  refine List.map_congr_left fun category member => ?_
  obtain ⟨before, after, rfl⟩ := List.append_of_mem member
  obtain ⟨-, fromCategory, fromBefore⟩ := List.pairwise_append.mp distinct
  have noneBefore : categoriesWith before category.category = [] :=
    List.filter_eq_nil_iff.mpr fun other isBefore => by
      simpa using fromBefore other isBefore category List.mem_cons_self
  have noneAfter : categoriesWith after category.category = [] :=
    List.filter_eq_nil_iff.mpr fun other isAfter => by
      simpa using (List.rel_of_pairwise_cons fromCategory isAfter).symm
  unfold categoriesWith at noneBefore noneAfter
  simp [categoriesWith, noneBefore, noneAfter]

end PolicyDecision
