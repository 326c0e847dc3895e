import PolicyDecision.Proofs.Policy.Tree
import PolicyDecision.Proofs.Store.Integrity
import PolicyDecision.Toml.Loading

/-!
# Loading of policy documents

A document is loaded when its own policies combine rules, its identifiers are
distinct, its references have no cycle and its roots are defined. The algorithms
of policies nested in policy sets play no part in that: a document that can be
loaded is free of policies that cannot combine their rules only if its policy
sets are.
-/

namespace PolicyDecision

/-- The algorithm of the policy is one for rules. -/
def Policy.CombinesRules (policy : Policy) : Prop :=
  policy.header.algorithm.ruleId?.isSome = true

namespace PolicyDocument

/-- A policy occurs in the document, at the top level or at any depth. -/
def Contains (document : PolicyDocument) (leaf : Policy) : Prop :=
  ∃ definition ∈ document.definitions, .policy leaf ∈ definition.toNode.parts

/-- A policy occurs within a policy set of the document, at any depth. -/
def Nests (document : PolicyDocument) (leaf : Policy) : Prop :=
  ∃ set ∈ document.policySets, .policy leaf ∈ set.toNode.parts

theorem contains_iff {document : PolicyDocument} {leaf : Policy} :
    document.Contains leaf ↔ leaf ∈ document.policies ∨ document.Nests leaf := by
  constructor
  · rintro ⟨definition, member, isPart⟩
    rcases List.mem_append.mp member with isPolicy | isSet
    · obtain ⟨policy, isListed, rfl⟩ := List.mem_map.mp isPolicy
      cases List.mem_singleton.mp isPart
      exact .inl isListed
    · obtain ⟨set, isListed, rfl⟩ := List.mem_map.mp isSet
      exact .inr ⟨set, isListed, isPart⟩
  · rintro (isListed | ⟨set, isListed, isPart⟩)
    · exact ⟨.policy leaf, List.mem_append_left _ (List.mem_map_of_mem isListed),
        PolicyNode.self_mem_parts _⟩
    · exact ⟨.policySet set, List.mem_append_right _ (List.mem_map_of_mem isListed), isPart⟩

/-! ## The checks of a document -/

theorem checkRuleAlgorithms_eq_ok_iff {policies : List Policy} :
    checkRuleAlgorithms policies = .ok () ↔ ∀ policy ∈ policies, policy.CombinesRules := by
  induction policies with
  | nil => simp [checkRuleAlgorithms]
  | cons policy rest inductionHypothesis =>
      rw [checkRuleAlgorithms, List.forall_mem_cons, ← inductionHypothesis, Policy.CombinesRules]
      cases policy.header.algorithm.ruleId? <;> simp

theorem checkDistinct_of_nodup
    {seen : List String}
    {definitions : List Definition}
    (distinct : (definitions.map Definition.id).Nodup)
    (unseen : ∀ definition ∈ definitions, definition.id ∉ seen) :
    checkDistinct seen definitions = .ok () := by
  induction definitions generalizing seen with
  | nil => rfl
  | cons definition rest inductionHypothesis =>
      obtain ⟨fresh, restDistinct⟩ := List.nodup_cons.mp distinct
      obtain ⟨firstUnseen, restUnseen⟩ := List.forall_mem_cons.mp unseen
      rw [checkDistinct, if_neg (by simpa using firstUnseen)]
      refine inductionHypothesis restDistinct fun other member seenThen => ?_
      rcases List.mem_cons.mp seenThen with same | earlier
      · exact fresh (same ▸ List.mem_map_of_mem member)
      · exact restUnseen other member earlier

theorem exists_selectRoots
    {store : Store}
    {ids : List String}
    (defined : ∀ id ∈ ids, id ∈ store.definitions.map Definition.id) :
    ∃ selected, selectRoots store ids = .ok selected := by
  induction ids with
  | nil => exact ⟨[], rfl⟩
  | cons id rest inductionHypothesis =>
      obtain ⟨isDefined, restDefined⟩ := List.forall_mem_cons.mp defined
      obtain ⟨root, found⟩ := Option.isSome_iff_exists.mp ((store.get?_isSome_iff id).mpr isDefined)
      obtain ⟨others, restSelected⟩ := inductionHypothesis restDefined
      exact ⟨root :: others, by rw [selectRoots, found, restSelected]⟩

/-- The selected roots have the identifiers that select them. -/
theorem map_id_of_selectRoots
    {store : Store}
    {ids : List String}
    {selected : List Definition}
    (accepted : selectRoots store ids = .ok selected) : selected.map Definition.id = ids := by
  induction ids generalizing selected with
  | nil =>
      cases accepted
      rfl
  | cons id rest inductionHypothesis =>
      unfold selectRoots at accepted
      split at accepted
      · cases accepted
      · rename_i root found
        split at accepted
        · rename_i others restSelected
          cases accepted
          rw [List.map_cons, (Store.get?_eq_some found).2, inductionHypothesis restSelected]
        · cases accepted

/-- What a document must be like to be loaded. -/
structure Loadable (document : PolicyDocument) : Prop where
  /-- The policies at the top level combine rules. -/
  combining : ∀ policy ∈ document.policies, policy.CombinesRules
  /-- No identifier is taken twice. -/
  distinct : (document.definitions.map Definition.id).Nodup
  /-- The references have no cycle. -/
  acyclic : Store.Acyclic ⟨document.definitions, []⟩
  /-- The roots are defined. -/
  rooted : ∀ id ∈ document.roots, id ∈ document.definitions.map Definition.id

/-- A document that can be loaded is loaded with the roots that it names, or with all of
its definitions as roots when it names none. -/
theorem Loadable.store_eq
    {document : PolicyDocument}
    (loadable : document.Loadable) :
    document.store =
      if document.roots.isEmpty then .ok ⟨document.definitions, document.definitions⟩
      else
        (selectRoots ⟨document.definitions, []⟩ document.roots).map (.mk document.definitions) := by
  have combining := checkRuleAlgorithms_eq_ok_iff.mpr loadable.combining
  have distinct : checkDistinct [] document.definitions = .ok () :=
    checkDistinct_of_nodup loadable.distinct (by simp)
  have acyclic := (Store.checkReferences_eq_ok_iff _).mpr loadable.acyclic
  unfold PolicyDocument.store
  simp only [combining, distinct, acyclic, bind, Except.bind]
  split
  · rfl
  · cases selectRoots ⟨document.definitions, []⟩ document.roots <;> rfl

/-- The conditions on a document are all that loading it takes. -/
theorem exists_store_iff (document : PolicyDocument) :
    (∃ store, document.store = .ok store) ↔ document.Loadable := by
  constructor
  · rintro ⟨store, built⟩
    obtain ⟨combining, distinct, acyclic, -, roots⟩ := store_eq_ok built
    refine ⟨checkRuleAlgorithms_eq_ok_iff.mp combining, (nodup_of_checkDistinct distinct).1,
      acyclic, fun id named => ?_⟩
    rcases roots with ⟨unnamed, -⟩ | selected
    · rw [unnamed] at named
      cases named
    · rw [← map_id_of_selectRoots selected] at named
      exact List.map_subset Definition.id (selectRoots_subset selected) named
  · intro loadable
    obtain ⟨selected, isSelected⟩ :
        ∃ selected, selectRoots ⟨document.definitions, []⟩ document.roots = .ok selected :=
      exists_selectRoots loadable.rooted
    rw [loadable.store_eq, isSelected]
    split <;> exact ⟨_, rfl⟩

/-! ## Policies that cannot combine their rules -/

/-- A document that can be loaded has a policy that cannot combine its rules only
within a policy set. -/
theorem combines_of_loadable_iff (document : PolicyDocument) :
    (document.Loadable → ∀ leaf, document.Contains leaf → leaf.CombinesRules) ↔
      ¬(document.Loadable ∧ ∃ leaf, document.Nests leaf ∧ ¬leaf.CombinesRules) := by
  constructor
  · rintro combines ⟨loadable, leaf, nested, fails⟩
    exact fails (combines loadable leaf (contains_iff.mpr (.inr nested)))
  · intro unnested loadable leaf contained
    rcases contains_iff.mp contained with isListed | nested
    · exact loadable.combining leaf isListed
    · by_contra fails
      exact unnested ⟨loadable, leaf, nested, fails⟩

/-- A document in TOML is loaded when it can be read and what it holds is loaded. -/
theorem exists_ofToml_iff (text : String) :
    (∃ store, Store.ofToml text = .ok store) ↔
      ∃ document, ofToml text = .ok document ∧ document.Loadable := by
  rw [Store.ofToml]
  cases read : ofToml text with
  | error fault => simp
  | ok document =>
      simp only [Except.ok.injEq, exists_eq_left', ← exists_store_iff, Store.ofDocument]
      cases document.store <;> simp

/-- A document is never loaded with a policy that cannot combine its rules unless
everything else about it is as it should be and the policy is nested in a policy
set. The same holds of documents in TOML. -/
theorem loads_combining_iff (document : PolicyDocument) (text : String) :
    (((∃ store, document.store = .ok store) →
          ∀ leaf, document.Contains leaf → leaf.CombinesRules) ↔
        ¬(document.Loadable ∧ ∃ leaf, document.Nests leaf ∧ ¬leaf.CombinesRules)) ∧
      (((∃ store, Store.ofToml text = .ok store) →
          ∀ written, ofToml text = .ok written →
            ∀ leaf, written.Contains leaf → leaf.CombinesRules) ↔
        ¬∃ written, ofToml text = .ok written ∧ written.Loadable ∧
          ∃ leaf, written.Nests leaf ∧ ¬leaf.CombinesRules) := by
  constructor
  · rw [exists_store_iff]
    exact document.combines_of_loadable_iff
  · rw [exists_ofToml_iff]
    cases read : ofToml text with
    | error fault => simp
    | ok written =>
        simp only [Except.ok.injEq, exists_eq_left', forall_eq']
        exact written.combines_of_loadable_iff

/-- A policy that cannot combine its rules is loaded within a policy set. -/
theorem loads_nested_onlyOneApplicable :
    let inner : Policy := ⟨.ofAlgorithm "inner" .onlyOneApplicable, []⟩
    let outer : PolicySet := ⟨.ofAlgorithm "outer" .denyOverrides, [.policy inner]⟩
    let document : PolicyDocument := ⟨[], [outer], []⟩
    document.store = .ok ⟨[.policySet outer], [.policySet outer]⟩ ∧
      document.Contains inner ∧ ¬inner.CombinesRules := by
  intro inner outer document
  refine ⟨by cbv, ⟨.policySet outer, List.mem_cons_self, ?_⟩, Bool.false_ne_true⟩
  exact List.mem_cons_of_mem _ List.mem_cons_self

end PolicyDocument
end PolicyDecision
