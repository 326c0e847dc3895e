import PolicyDecision.Result

/-!
# Unions in first-seen order

A list takes the items of another one that it does not hold yet. The items that
are added are those of the other list, each once, in the order in which they are
seen first.
-/

namespace PolicyDecision

variable {α : Type} [BEq α]

/-- The items of two lists are taken one list after the other. -/
theorem unionWith_append (held first second : List α) :
    unionWith held (first ++ second) = unionWith (unionWith held first) second := by
  induction first generalizing held with
  | nil => rfl
  | cons item rest inductionHypothesis =>
      rw [List.cons_append, unionWith_cons, unionWith_cons]
      split <;> exact inductionHypothesis _

/-- The items that are added are the new ones without repetitions. -/
theorem unionWith_eq_append_eraseDups (held items : List α) :
    unionWith held items =
      held ++ (items.filter fun item => !held.contains item).eraseDups := by
  induction items generalizing held with
  | nil => simp
  | cons item rest inductionHypothesis =>
      rw [unionWith_cons]
      cases isHeld : held.contains item with
      | true => simp [isHeld, inductionHypothesis]
      | false =>
          have newer : rest.filter (fun other => !(held ++ [item]).contains other) =
              (rest.filter fun other => !held.contains other).filter fun other =>
                !other == item := by
            rw [List.filter_filter]
            refine List.filter_congr fun other _ => ?_
            rw [List.contains_append, List.contains_cons, List.contains_nil, Bool.or_false,
              Bool.not_or, Bool.and_comm]
          rw [if_neg Bool.false_ne_true, inductionHypothesis, newer,
            List.filter_cons_of_pos (by rw [isHeld]; rfl), List.eraseDups_cons,
            List.append_assoc, List.singleton_append]

/-- Nothing takes each item once. -/
theorem unionWith_nil_eq_eraseDups (items : List α) : unionWith [] items = items.eraseDups := by
  rw [unionWith_eq_append_eraseDups, List.nil_append, List.filter_eq_self.mpr (by simp)]

/-- A list with new items holds nothing but the old and the new ones. -/
theorem mem_or_mem_of_mem_unionWith
    {held items : List α}
    {item : α}
    (member : item ∈ unionWith held items) : item ∈ held ∨ item ∈ items := by
  induction items generalizing held with
  | nil => exact .inl member
  | cons first rest inductionHypothesis =>
      rw [unionWith_cons] at member
      split at member
      · exact (inductionHypothesis member).imp id (List.mem_cons_of_mem first)
      · rcases inductionHypothesis member with grown | later
        · rcases List.mem_append.mp grown with earlier | added
          · exact .inl earlier
          · exact .inr (List.mem_singleton.mp added ▸ List.mem_cons_self)
        · exact .inr (List.mem_cons_of_mem first later)

theorem mem_of_mem_eraseDups
    {items : List α}
    {item : α}
    (member : item ∈ items.eraseDups) : item ∈ items := by
  rw [← unionWith_nil_eq_eraseDups] at member
  exact (mem_or_mem_of_mem_unionWith member).resolve_left List.not_mem_nil

/-- A new item is in the list afterwards. -/
theorem mem_unionWith_singleton
    [LawfulBEq α]
    (held : List α)
    (item : α) : item ∈ unionWith held [item] := by
  rw [unionWith_cons, unionWith_nil, unionWith_nil]
  split
  · rename_i present
    exact List.contains_iff_mem.mp present
  · exact List.mem_append_right held (List.mem_singleton_self item)

/-- What is held stays held. -/
theorem contains_unionWith_of_contains
    {held : List α}
    {item : α}
    (isHeld : held.contains item = true)
    (items : List α) : (unionWith held items).contains item = true := by
  rw [unionWith_eq_append_eraseDups, List.contains_append, isHeld, Bool.true_or]

/-- Items that equal themselves are held once they are taken. -/
theorem contains_unionWith_of_mem
    {items : List α}
    (reflexive : ∀ item ∈ items, (item == item) = true)
    (held : List α) : ∀ item ∈ items, (unionWith held items).contains item = true := by
  induction items generalizing held with
  | nil => simp
  | cons item rest inductionHypothesis =>
      obtain ⟨itself, restReflexive⟩ := List.forall_mem_cons.mp reflexive
      rw [unionWith_cons]
      split
      · rename_i isHeld
        exact List.forall_mem_cons.mpr
          ⟨contains_unionWith_of_contains isHeld rest, inductionHypothesis restReflexive held⟩
      · have added : (held ++ [item]).contains item = true := by
          rw [List.contains_append, List.contains_cons, itself, Bool.true_or, Bool.or_true]
        exact List.forall_mem_cons.mpr
          ⟨contains_unionWith_of_contains added rest,
            inductionHypothesis restReflexive (held ++ [item])⟩

/-- Items that are held change nothing. -/
theorem unionWith_eq_self
    {held items : List α}
    (allHeld : ∀ item ∈ items, held.contains item = true) : unionWith held items = held := by
  induction items with
  | nil => rfl
  | cons item rest inductionHypothesis =>
      obtain ⟨isHeld, restHeld⟩ := List.forall_mem_cons.mp allHeld
      rw [unionWith_cons, if_pos isHeld, inductionHypothesis restHeld]

/-- Taking the same items several times comes to the same as taking them once. -/
theorem unionWith_flatten_replicate
    {items : List α}
    (reflexive : ∀ item ∈ items, (item == item) = true)
    (held : List α)
    (repetitions : Nat) :
    unionWith held (List.replicate (repetitions + 1) items).flatten = unionWith held items := by
  induction repetitions with
  | zero => simp
  | succ repetitions inductionHypothesis =>
      rw [List.replicate_succ', List.flatten_append, unionWith_append, inductionHypothesis,
        List.flatten_singleton]
      exact unionWith_eq_self (contains_unionWith_of_mem reflexive held)

/-- Items that are repeated one after another are taken once, and those that are
repeated not at all are left out. -/
theorem unionWith_flatMap_replicate
    {items : List α}
    (reflexive : ∀ item ∈ items, (item == item) = true)
    (held : List α)
    (copies : α → Nat) :
    unionWith held (items.flatMap fun item => List.replicate (copies item) item) =
      unionWith held (items.filter fun item => 0 < copies item) := by
  induction items generalizing held with
  | nil => rfl
  | cons item rest inductionHypothesis =>
      obtain ⟨itself, restReflexive⟩ := List.forall_mem_cons.mp reflexive
      rw [List.flatMap_cons, unionWith_append, inductionHypothesis restReflexive]
      cases number : copies item with
      | zero => simp [number]
      | succ fewer =>
          have once := unionWith_flatten_replicate
            (List.forall_mem_singleton.mpr itself) held fewer
          rw [List.flatten_replicate_singleton] at once
          rw [once, ← unionWith_append, List.filter_cons_of_pos (by simp [number]),
            List.singleton_append]

/-! ## Repetitions -/

/-- No item of the list occurs before an equal one. -/
def WithoutRepetition (items : List α) : Prop :=
  items.Pairwise fun earlier later => (later == earlier) = false

/-- A list without repetitions has each of its items once. -/
theorem WithoutRepetition.eraseDups_eq
    {items : List α}
    (distinct : WithoutRepetition items) : items.eraseDups = items := by
  induction distinct with
  | nil => rfl
  | cons ahead _ inductionHypothesis =>
      rw [List.eraseDups_cons, List.filter_eq_self.mpr, inductionHypothesis]
      intro later member
      rw [ahead later member]
      rfl

/-- New items leave a list without repetitions. -/
theorem WithoutRepetition.unionWith
    {held : List α}
    (distinct : WithoutRepetition held)
    (items : List α) : WithoutRepetition (unionWith held items) := by
  induction items generalizing held with
  | nil => exact distinct
  | cons item rest inductionHypothesis =>
      rw [unionWith_cons]
      split
      · exact inductionHypothesis distinct
      · rename_i absent
        have extended : WithoutRepetition (held ++ [item]) := by
          refine List.pairwise_append.mpr ⟨distinct, List.pairwise_singleton _ _, ?_⟩
          intro earlier isHeld later isItem
          rw [List.mem_singleton.mp isItem]
          apply Bool.eq_false_iff.mpr
          intro same
          exact absent (List.contains_iff_exists_mem_beq.mpr ⟨earlier, isHeld, same⟩)
        exact inductionHypothesis extended

theorem withoutRepetition_iff_nodup [LawfulBEq α] {items : List α} :
    WithoutRepetition items ↔ items.Nodup := by
  simp only [WithoutRepetition, List.Nodup, beq_eq_false_iff_ne, ne_comm]

/-- New items leave a list without repetitions whose items are equal only if they are
the same. -/
theorem nodup_unionWith
    [LawfulBEq α]
    {held : List α}
    (distinct : held.Nodup)
    (items : List α) : (unionWith held items).Nodup :=
  withoutRepetition_iff_nodup.mp ((withoutRepetition_iff_nodup.mpr distinct).unionWith items)

end PolicyDecision
