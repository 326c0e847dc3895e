import PolicyDecision.Proofs.Store.Loading

/-!
# Stores built one definition at a time

Offering definitions to a store one after another comes to the same as storing
all of them and checking the references once. A reference to a definition that
comes later counts for nothing at first, but every chain of references among the
earlier definitions is one among all of them, so no cycle appears early and none
is missed at the end.
-/

namespace PolicyDecision

namespace Store

/-! ## Larger stores -/

/-- Every definition of a store is found in another one, under the same
identifier. -/
def FoundIn (store larger : Store) : Prop :=
  ∀ id definition, store.get? id = some definition → larger.get? id = some definition

/-- The first definitions are found among more of them. -/
theorem foundIn_append (first rest roots laterRoots : List Definition) :
    FoundIn ⟨first, roots⟩ ⟨first ++ rest, laterRoots⟩ := by
  intro id definition found
  have appended : (first ++ rest).find? (fun definition => definition.id = id) =
      some definition := by
    rw [List.find?_append]
    exact Option.or_eq_some_iff.mpr (.inl found)
  exact appended

/-- References of a store are references of every larger one. -/
theorem FoundIn.refers
    {store larger : Store}
    (foundIn : store.FoundIn larger)
    {id target : String}
    (refers : store.Refers id target) : larger.Refers id target := by
  obtain ⟨definition, found, listed, isStored⟩ := refers
  obtain ⟨cited, isCited⟩ := Option.isSome_iff_exists.mp isStored
  refine ⟨definition, foundIn id definition found, listed, ?_⟩
  rw [foundIn target cited isCited]
  rfl

/-- A store within one without a cycle of references has none either. -/
theorem FoundIn.acyclic
    {store larger : Store}
    (foundIn : store.FoundIn larger)
    (acyclic : larger.Acyclic) : store.Acyclic :=
  fun id cycle => acyclic id (cycle.lift (fun id => id) fun _ _ refers => foundIn.refers refers)

/-! ## Roots one after another -/

/-- The store with definitions put in as roots, whatever they refer to. -/
def withRoots (store : Store) (definitions : List Definition) : Store :=
  ⟨store.definitions ++ definitions, store.roots ++ definitions⟩

theorem withRoots_nil (store : Store) : store.withRoots [] = store := by
  simp [withRoots]

theorem withRoots_cons (store : Store) (definition : Definition) (rest : List Definition) :
    store.withRoots (definition :: rest) =
      ((StoreCall.addRoot definition).extend store).withRoots rest := by
  simp [withRoots, StoreCall.extend, StoreCall.rootsAfter, StoreCall.definition, put]

/-- A sound store takes definitions as roots one after another exactly when their
identifiers are distinct from each other and the stored ones, and the references
of all definitions together have no cycle. -/
theorem Sound.foldlM_addRoot_eq_ok_iff
    {store : Store}
    (sound : store.Sound)
    (definitions : List Definition)
    (built : Store) :
    definitions.foldlM addRoot store = .ok built ↔
      ((store.withRoots definitions).definitions.map Definition.id).Nodup ∧
        (store.withRoots definitions).Acyclic ∧ built = store.withRoots definitions := by
  induction definitions generalizing store with
  | nil =>
      rw [withRoots_nil, List.foldlM_nil]
      constructor
      · intro same
        cases same
        exact ⟨sound.distinct, sound.acyclic, rfl⟩
      · rintro ⟨-, -, rfl⟩
        rfl
  | cons definition rest inductionHypothesis =>
      have taken := (StoreCall.addRoot definition).outcome_eq_ok_iff store
      have extended := @Sound.extend store (.addRoot definition) sound
      rw [withRoots_cons, List.foldlM_cons]
      constructor
      · intro succeeded
        cases added : store.addRoot definition with
        | error fault =>
            rw [added] at succeeded
            cases succeeded
        | ok larger =>
            obtain ⟨absent, acyclic, rfl⟩ := (taken larger).mp added
            rw [added] at succeeded
            exact (inductionHypothesis (extended absent acyclic)).mp succeeded
      · rintro ⟨distinct, acyclic, rfl⟩
        have absent : store.get? definition.id = none := by
          rw [Option.eq_none_iff_forall_not_mem]
          intro earlier found
          obtain ⟨member, sameId⟩ := get?_eq_some found
          rw [← withRoots_cons, withRoots, List.map_append, List.map_cons] at distinct
          exact (List.nodup_append'.mp distinct).2.2 (List.mem_map_of_mem member)
            (sameId ▸ List.mem_cons_self)
        have early : (store.put definition).Acyclic :=
          (foundIn_append _ rest _ _).acyclic acyclic
        have added : store.addRoot definition = .ok ((StoreCall.addRoot definition).extend store) :=
          (taken _).mpr ⟨absent, early, rfl⟩
        rw [added]
        exact (inductionHypothesis (extended absent early)).mpr ⟨distinct, acyclic, rfl⟩

end Store

namespace PolicyDocument

/-- A document that can be loaded and names no roots is loaded with all of its
definitions as roots. -/
theorem Loadable.store_eq_withRoots
    {document : PolicyDocument}
    (loadable : document.Loadable)
    (unrooted : document.roots = []) :
    document.store = .ok (Store.empty.withRoots document.definitions) := by
  rw [loadable.store_eq, unrooted]
  rfl

/-- A document without named roots is loaded exactly when its definitions can be
added as roots one after another, and both lead to the same store. -/
theorem store_eq_ok_iff_foldlM_addRoot
    {document : PolicyDocument}
    (combining : ∀ policy ∈ document.policies, policy.CombinesRules)
    (unrooted : document.roots = [])
    (store : Store) :
    document.store = .ok store ↔
      document.definitions.foldlM Store.addRoot .empty = .ok store := by
  rw [Store.sound_empty.foldlM_addRoot_eq_ok_iff]
  constructor
  · intro loaded
    have loadable := document.exists_store_iff.mp ⟨store, loaded⟩
    rw [loadable.store_eq_withRoots unrooted] at loaded
    cases loaded
    exact ⟨loadable.distinct, loadable.acyclic, rfl⟩
  · rintro ⟨distinct, acyclic, rfl⟩
    have loadable : document.Loadable := ⟨combining, distinct, acyclic, by simp [unrooted]⟩
    exact loadable.store_eq_withRoots unrooted

/-- Loading a document without named roots, whose policies combine rules, agrees
with adding its policies and then its policy sets as roots one after another:
one succeeds exactly when the other does, and the two stores give the same
definitions, number of roots, applicable roots and answers. -/
theorem store_agrees_foldlM_addRoot
    (document : PolicyDocument)
    (combining : ∀ policy ∈ document.policies, policy.CombinesRules)
    (unrooted : document.roots = []) :
    ((∃ loaded, document.store = .ok loaded) ↔
        ∃ added, document.definitions.foldlM Store.addRoot .empty = .ok added) ∧
      ∀ loaded added,
        document.store = .ok loaded →
        document.definitions.foldlM Store.addRoot .empty = .ok added →
        (∀ id, loaded.get? id = added.get? id) ∧
          loaded.rootCount = added.rootCount ∧
          (∀ request, loaded.rootFor request = added.rootFor request) ∧
          ∀ (request : IndividualRequest) (node : PolicyNode),
            node.answer (loaded.scope request) = node.answer (added.scope request) := by
  have agree := store_eq_ok_iff_foldlM_addRoot combining unrooted
  refine ⟨exists_congr agree, fun loaded added isLoaded isAdded => ?_⟩
  have same : loaded = added := Except.ok.inj (isLoaded.symm.trans ((agree added).mpr isAdded))
  subst same
  exact ⟨fun _ => rfl, rfl, fun _ => rfl, fun _ _ => rfl⟩

/-- A policy set that refers to one further on, which refers to a policy, can be
added before it, and leads to the store that loading all three leads to. -/
theorem store_agrees_foldlM_addRoot_of_pending_reference :
    let leaf : Policy := ⟨.ofAlgorithm "leaf" .denyUnlessPermit, []⟩
    let outer : PolicySet := ⟨.ofAlgorithm "outer" .denyOverrides, [.reference ⟨"inner", none⟩]⟩
    let inner : PolicySet := ⟨.ofAlgorithm "inner" .denyOverrides, [.reference ⟨"leaf", none⟩]⟩
    let document : PolicyDocument := ⟨[leaf], [outer, inner], []⟩
    (∀ policy ∈ document.policies, policy.CombinesRules) ∧ document.roots = [] ∧
      ∃ loaded added,
        document.store = .ok loaded ∧
        document.definitions.foldlM Store.addRoot .empty = .ok added ∧
        loaded.rootCount = 3 ∧ added.rootCount = 3 ∧
        added.get? "inner" = some (.policySet inner) ∧
        (∀ request, loaded.rootFor request = added.rootFor request) ∧
        ∀ (request : IndividualRequest) (node : PolicyNode),
          node.answer (loaded.scope request) = node.answer (added.scope request) := by
  intro leaf outer inner document
  have combining : ∀ policy ∈ document.policies, policy.CombinesRules := by
    intro policy listed
    cases List.mem_singleton.mp listed
    rfl
  have unrooted : document.roots = [] := rfl
  obtain ⟨succeeds, agrees⟩ := document.store_agrees_foldlM_addRoot combining unrooted
  let rank (id : String) : Nat := if id = "outer" then 2 else if id = "inner" then 1 else 0
  have loadable : document.Loadable :=
    ⟨combining, by decide, Store.acyclic_of_rank rank (by decide), by simp [document]⟩
  have isLoaded := loadable.store_eq_withRoots unrooted
  obtain ⟨added, isAdded⟩ := succeeds.mp ⟨_, isLoaded⟩
  obtain ⟨found, rootCount, rootFor, answers⟩ := agrees _ added isLoaded isAdded
  exact ⟨combining, unrooted, _, added, isLoaded, isAdded, rfl, rootCount.symm,
    (found "inner").symm, rootFor, answers⟩

end PolicyDocument
end PolicyDecision
