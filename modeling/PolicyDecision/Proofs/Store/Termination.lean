import PolicyDecision.Proofs.Policy.Tree
import PolicyDecision.Proofs.Store.Integrity
import PolicyDecision.Proofs.Store.Lookup
import PolicyDecision.Store.Lookup

/-!
# Termination of evaluations

Over a store without a cycle of references every evaluation comes to an end. No
stored identifier is entered twice along a chain of resolved references, so a
bound of as many levels as there are definitions is never met, and the bounded
evaluation is the only one that resolves references without a bound.
-/

namespace PolicyDecision

/-- What can be evaluated: a rule, or a policy, a policy set or a reference. -/
inductive Evaluable
  | rule (rule : Rule)
  | node (node : PolicyNode)

namespace Store

variable {store : Store}

/-- The stored definition that a reference leads to, if it has the version asked
for. -/
def resolution? (store : Store) (cited : PolicyReference) : Option Definition :=
  (store.get? cited.id).filter fun definition => cited.accepts definition.identifier

/-- An evaluation may ask for another one: a policy for its rules, a policy set
for its children, and a reference for the definition it leads to. -/
inductive Asks (store : Store) : Evaluable → Evaluable → Prop
  | rule {policy : Policy} {rule : Rule} :
      rule ∈ policy.rules → Asks store (.node (.policy policy)) (.rule rule)
  | child {header : PolicyHeader} {children : List PolicyNode} {child : PolicyNode} :
      child ∈ children → Asks store (.node (.policySet header children)) (.node child)
  | definition {cited : PolicyReference} {definition : Definition} :
      store.resolution? cited = some definition →
        Asks store (.node (.reference cited)) (.node definition.toNode)

/-- The identifiers that nested resolutions of references may enter one after
another when a node is evaluated. -/
inductive Enters (store : Store) : PolicyNode → List String → Prop
  | stop (node : PolicyNode) : Enters store node []
  | child {header : PolicyHeader} {children : List PolicyNode} {child : PolicyNode}
      {ids : List String} :
      child ∈ children → Enters store child ids → Enters store (.policySet header children) ids
  | definition {cited : PolicyReference} {definition : Definition} {ids : List String} :
      store.resolution? cited = some definition → Enters store definition.toNode ids →
        Enters store (.reference cited) (cited.id :: ids)

/-! ## Chains of resolutions -/

theorem get?_of_resolution?
    {cited : PolicyReference}
    {definition : Definition}
    (resolved : store.resolution? cited = some definition) :
    store.get? cited.id = some definition :=
  (Option.filter_eq_some_iff.mp resolved).1

/-- Nested resolutions follow the references between stored identifiers, from one
that the node refers to. -/
theorem Enters.isChain
    {node : PolicyNode}
    {ids : List String}
    (enters : store.Enters node ids) :
    ids.IsChain store.Refers ∧
      (∀ id ∈ ids, (store.get? id).isSome) ∧
      ∀ first ∈ ids.head?, first ∈ node.referencedIds := by
  induction enters with
  | stop node => simp
  | child member _ inductionHypothesis =>
      obtain ⟨chain, stored, starts⟩ := inductionHypothesis
      exact ⟨chain, stored, fun first isFirst =>
        PolicyNode.mem_referencedIds_policySet.mpr ⟨_, member, starts first isFirst⟩⟩
  | definition resolved _ inductionHypothesis =>
      obtain ⟨chain, stored, starts⟩ := inductionHypothesis
      have found := get?_of_resolution? resolved
      refine ⟨List.isChain_cons.mpr ⟨fun next isNext => ?_, chain⟩,
        List.forall_mem_cons.mpr ⟨by simp [found], stored⟩, by simp [PolicyNode.referencedIds]⟩
      exact ⟨_, found, starts next isNext, stored next (List.mem_of_mem_head? isNext)⟩

theorem Acyclic.nodup_of_isChain
    (acyclic : store.Acyclic)
    {ids : List String}
    (chain : ids.IsChain store.Refers) : ids.Nodup := by
  have leads : ids.IsChain (Relation.TransGen store.Refers) :=
    chain.imp fun _ _ => Relation.TransGen.single
  refine (List.isChain_iff_pairwise.mp leads).imp ?_
  rintro id _ cycle rfl
  exact acyclic id cycle

/-- No stored identifier is entered twice, so nested resolutions are at most as
many as the definitions. -/
theorem Acyclic.enters
    (acyclic : store.Acyclic)
    {node : PolicyNode}
    {ids : List String}
    (enters : store.Enters node ids) :
    ids.Nodup ∧ ids.length ≤ store.definitions.length := by
  obtain ⟨chain, stored, -⟩ := enters.isChain
  have distinct := acyclic.nodup_of_isChain chain
  have known : ids ⊆ store.definitions.map Definition.id := fun id member =>
    (store.get?_isSome_iff id).mp (stored id member)
  exact ⟨distinct, by simpa using (List.subperm_of_subset distinct known).length_le⟩

/-! ## Termination -/

/-- The evaluation of a node comes to an end when that of every definition it
refers to does. -/
theorem acc_asks_of_referencedIds
    (node : PolicyNode)
    (referenced : ∀ id ∈ node.referencedIds, ∀ definition, store.get? id = some definition →
      Acc (fun asked asking => store.Asks asking asked) (.node definition.toNode)) :
    Acc (fun asked asking => store.Asks asking asked) (.node node) := by
  induction node using PolicyNode.inductionOnChildren with
  | policy leaf =>
      refine Acc.intro _ fun asked asks => ?_
      cases asks with
      | rule member => exact Acc.intro _ fun further asksFurther => nomatch asksFurther
  | policySet header children inductionHypothesis =>
      refine Acc.intro _ fun asked asks => ?_
      cases asks with
      | child member =>
          exact inductionHypothesis _ member fun id cited =>
            referenced id (PolicyNode.mem_referencedIds_policySet.mpr ⟨_, member, cited⟩)
  | reference cited =>
      refine Acc.intro _ fun asked asks => ?_
      cases asks with
      | definition resolved =>
          exact referenced cited.id (by simp [PolicyNode.referencedIds]) _
            (get?_of_resolution? resolved)

/-- Without a cycle of references no evaluation goes on for ever. -/
theorem Acyclic.wellFounded_asks (acyclic : store.Acyclic) :
    WellFounded fun asked asking => store.Asks asking asked := by
  have stored (id : String) : ∀ definition, store.get? id = some definition →
      Acc (fun asked asking => store.Asks asking asked) (.node definition.toNode) := by
    induction acyclic.ends id with
    | intro id _ inductionHypothesis =>
        intro definition found
        refine acc_asks_of_referencedIds _ fun target member other targetFound => ?_
        refine inductionHypothesis target ?_ other targetFound
        rw [store.refers_references]
        exact ⟨definition, found, member, by simp [targetFound]⟩
  constructor
  intro asking
  cases asking with
  | rule rule => exact Acc.intro _ fun further asksFurther => nomatch asksFurther
  | node node => exact acc_asks_of_referencedIds node fun id _ => stored id

/-! ## Levels -/

/-- A scope with a number of levels. It resolves a reference to the stored
definition, which is evaluated in a scope with one level less; the answers of
definitions at the last level are arbitrary. -/
inductive Levels (store : Store) (source : AttributeSource) : Nat → Scope → Prop
  | last {scope : Scope} (answers : Definition → NodeAnswer) :
      scope.attributeValues = source →
      (∀ id, scope.resolve id = (store.get? id).map fun definition =>
        ⟨definition.identifier, answers definition⟩) →
      Levels store source 0 scope
  | next {scope inner : Scope} {depth : Nat} :
      scope.attributeValues = source → Levels store source depth inner →
      (∀ id, scope.resolve id = (store.get? id).map (Definition.resolved inner)) →
      Levels store source (depth + 1) scope

/-- Resolutions from a node nest no deeper than a number of levels. -/
def NestsWithin (store : Store) (depth : Nat) (node : PolicyNode) : Prop :=
  ∀ ids, store.Enters node ids → ids.length ≤ depth

variable {source : AttributeSource} {depth : Nat} {scope other : Scope}

theorem NestsWithin.child
    {header : PolicyHeader}
    {children : List PolicyNode}
    (within : store.NestsWithin depth (.policySet header children))
    {child : PolicyNode}
    (member : child ∈ children) : store.NestsWithin depth child :=
  fun ids enters => within ids (.child member enters)

theorem NestsWithin.resolution?_eq_none
    {cited : PolicyReference}
    (within : store.NestsWithin 0 (.reference cited)) : store.resolution? cited = none := by
  rw [Option.eq_none_iff_forall_ne_some]
  intro definition resolved
  have entered := within [cited.id] (.definition resolved (.stop _))
  simp at entered

theorem NestsWithin.definition
    {cited : PolicyReference}
    {definition : Definition}
    (within : store.NestsWithin (depth + 1) (.reference cited))
    (resolved : store.resolution? cited = some definition) :
    store.NestsWithin depth definition.toNode := by
  intro ids enters
  have entered := within (cited.id :: ids) (.definition resolved enters)
  simpa using entered

/-- The answer of a reference in a scope that resolves it to a view of the stored
definition. -/
theorem answer_reference
    {cited : PolicyReference}
    {answers : Definition → NodeAnswer}
    (resolves : scope.resolve cited.id = (store.get? cited.id).map fun definition =>
      ⟨definition.identifier, answers definition⟩) :
    cited.answer scope =
      match store.resolution? cited with
      | some definition => answers definition
      | none => .failed cited.unresolvedStatus := by
  have accepted : ((scope.resolve cited.id).filter fun found => cited.accepts found.identifier) =
      (store.resolution? cited).map fun definition =>
        ⟨definition.identifier, answers definition⟩ := by
    rw [resolves, Option.filter_map]
    rfl
  rw [PolicyReference.answer, accepted]
  cases store.resolution? cited <;> rfl

/-- Scopes with as many levels as resolutions from a node nest give it one
answer. -/
theorem Levels.answer_eq
    (levels : store.Levels source depth scope)
    (otherLevels : store.Levels source depth other)
    {node : PolicyNode}
    (within : store.NestsWithin depth node) :
    node.answer scope = node.answer other := by
  induction levels generalizing other node with
  | last answers same resolves =>
      cases otherLevels with
      | last otherAnswers otherSame otherResolves =>
          refine PolicyNode.answer_congr (same.trans otherSame.symm)
            (fun _ _ holds _ member => NestsWithin.child holds member)
            (fun cited holds => ?_) within
          rw [answer_reference (resolves cited.id), answer_reference (otherResolves cited.id),
            NestsWithin.resolution?_eq_none holds]
  | next same innerLevels resolves inductionHypothesis =>
      cases otherLevels with
      | next otherSame otherInnerLevels otherResolves =>
          refine PolicyNode.answer_congr (same.trans otherSame.symm)
            (fun _ _ holds _ member => NestsWithin.child holds member)
            (fun cited holds => ?_) within
          rw [answer_reference (resolves cited.id), answer_reference (otherResolves cited.id)]
          cases resolved : store.resolution? cited with
          | none => rfl
          | some definition =>
              exact inductionHypothesis otherInnerLevels (NestsWithin.definition holds resolved)

/-- A bounded scope has any smaller number of levels. -/
theorem levels_scopeWithin
    (store : Store)
    (source : AttributeSource)
    (answers : Definition → NodeAnswer)
    {levels depth : Nat}
    (fewer : levels ≤ depth) :
    store.Levels source levels
      (store.scopeWithin source (fun definition => ⟨definition.identifier, answers definition⟩)
        depth) := by
  induction levels generalizing depth with
  | zero =>
      cases depth with
      | zero => exact .last answers rfl fun id => rfl
      | succ depth => exact .last _ rfl fun id => store.scopeWithin_resolve source _ depth id
  | succ levels inductionHypothesis =>
      cases depth with
      | zero => omega
      | succ depth =>
          exact .next rfl (inductionHypothesis (by omega)) fun id =>
            store.scopeWithin_resolve source _ depth id

/-- A scope that resolves references without a bound, to the stored definitions
evaluated in the scope itself. -/
structure Unbounded (store : Store) (source : AttributeSource) (scope : Scope) : Prop where
  attributeValues_eq : scope.attributeValues = source
  resolve_eq : ∀ id, scope.resolve id = (store.get? id).map (Definition.resolved scope)

/-- A scope without a bound has any number of levels. -/
theorem Unbounded.levels
    (unbounded : store.Unbounded source scope)
    (depth : Nat) : store.Levels source depth scope := by
  induction depth with
  | zero => exact .last _ unbounded.attributeValues_eq unbounded.resolve_eq
  | succ depth inductionHypothesis =>
      exact .next unbounded.attributeValues_eq inductionHypothesis unbounded.resolve_eq

/-! ## The evaluation without a bound -/

theorem Acyclic.nestsWithin (acyclic : store.Acyclic) (node : PolicyNode) :
    store.NestsWithin store.definitions.length node :=
  fun _ enters => (acyclic.enters enters).2

/-- Within a stored definition one level less is enough, since its identifier is
not entered again. -/
theorem Acyclic.nestsWithin_stored
    (acyclic : store.Acyclic)
    {id : String}
    {definition : Definition}
    (found : store.get? id = some definition) :
    store.NestsWithin (store.definitions.length - 1) definition.toNode := by
  intro ids enters
  have resolved : store.resolution? ⟨id, none⟩ = some definition := by
    simp [resolution?, found, PolicyReference.accepts]
  have entered := (acyclic.enters (.definition resolved enters)).2
  simp only [List.length_cons] at entered
  omega

/-- A scope with at least as many levels as there are definitions resolves
references as if it had no bound. -/
theorem Acyclic.unbounded_scopeWithin
    (acyclic : store.Acyclic)
    (source : AttributeSource)
    (answers : Definition → NodeAnswer)
    (enough : store.definitions.length ≤ depth) :
    store.Unbounded source
      (store.scopeWithin source (fun definition => ⟨definition.identifier, answers definition⟩)
        depth) where
  attributeValues_eq := store.attributeValues_scopeWithin source _ depth
  resolve_eq := by
    intro id
    cases found : store.get? id with
    | none =>
        cases depth with
        | zero => simp [scopeWithin, found]
        | succ depth => simp [scopeWithin_resolve, found]
    | some definition =>
        have stored := List.length_pos_of_mem (get?_eq_some found).1
        cases depth with
        | zero => omega
        | succ depth =>
            have levels {deeper : Nat} (deep : depth ≤ deeper) :=
              store.levels_scopeWithin source answers
                (show store.definitions.length - 1 ≤ deeper by omega)
            have sameAnswer := (levels (Nat.le_refl depth)).answer_eq (levels (Nat.le_succ depth))
              (acyclic.nestsWithin_stored found)
            rw [scopeWithin_resolve, found, Option.map_some, Option.map_some, Definition.resolved,
              Definition.resolved, Definition.answer, Definition.answer, sameAnswer]

/-- Only one scope resolves references without a bound. -/
theorem Unbounded.unique
    (acyclic : store.Acyclic)
    (unbounded : store.Unbounded source scope)
    (otherUnbounded : store.Unbounded source other) : scope = other := by
  have sameAnswer (node : PolicyNode) : node.answer scope = node.answer other :=
    (unbounded.levels _).answer_eq (otherUnbounded.levels _) (acyclic.nestsWithin node)
  have sameResolve : scope.resolve = other.resolve := by
    funext id
    rw [unbounded.resolve_eq, otherUnbounded.resolve_eq]
    congr 1
    funext definition
    simp only [Definition.resolved, Definition.answer, sameAnswer]
  have sameValues := unbounded.attributeValues_eq.trans otherUnbounded.attributeValues_eq.symm
  cases scope
  cases other
  cases sameValues
  cases sameResolve
  rfl

theorem Acyclic.unbounded_scope (acyclic : store.Acyclic) (request : IndividualRequest) :
    store.Unbounded request.attributeValues (store.scope request) :=
  acyclic.unbounded_scopeWithin request.attributeValues _ (Nat.le_refl _)

/-- Over a store that can be built every evaluation ends. Evaluations cannot ask
for one another for ever; no stored identifier is entered twice along a chain of
resolutions, which is at most as long as the list of definitions; an evaluation
with that bound or a larger one answers the same, whatever it answers at its
bound; and the scope of a request is the only one that resolves references
without a bound. -/
theorem Built.evaluation_ends
    {store : Store}
    (built : store.Built)
    (request : IndividualRequest) :
    (WellFounded fun asked asking => store.Asks asking asked) ∧
      (∀ node ids, store.Enters node ids →
        ids.Nodup ∧ ids.length ≤ store.definitions.length) ∧
      (∀ (answers : Definition → NodeAnswer) (depth : Nat),
        store.definitions.length ≤ depth → ∀ node : PolicyNode,
          node.answer (store.scopeWithin request.attributeValues
              (fun definition => ⟨definition.identifier, answers definition⟩) depth) =
            node.answer (store.scope request)) ∧
      ∀ scope, store.Unbounded request.attributeValues scope ↔ scope = store.scope request := by
  have acyclic := built.sound.acyclic
  have unbounded := acyclic.unbounded_scope request
  refine ⟨acyclic.wellFounded_asks, fun _ _ => acyclic.enters,
    fun answers depth enough node => ?_, fun scope => ⟨fun isUnbounded => ?_, ?_⟩⟩
  · rw [Unbounded.unique acyclic
      (acyclic.unbounded_scopeWithin request.attributeValues answers enough) unbounded]
  · exact Unbounded.unique acyclic isUnbounded unbounded
  · rintro rfl
    exact unbounded

/-- A reference to a definition that refers to another one enters both, and two
levels are enough for it. -/
theorem Built.evaluation_ends_of_nested_references :
    let store : Store := ⟨[.referring "outer" ["inner"], .referring "inner" []], []⟩
    let request : IndividualRequest := ⟨.ok, []⟩
    let start : PolicyNode := .reference ⟨"outer", none⟩
    store.Built ∧
      store.Enters start ["outer", "inner"] ∧
      (["outer", "inner"].Nodup ∧ ["outer", "inner"].length ≤ store.definitions.length) ∧
      start.answer (store.scopeWithin request.attributeValues
          (fun definition => ⟨definition.identifier, .failed moreThanOneRoot⟩) 2) =
        start.answer (store.scope request) := by
  intro store request start
  let rank (id : String) : Nat := if id = "outer" then 1 else 0
  have first : (Store.mk [.referring "outer" ["inner"]] []).Built :=
    Built.empty.extend (.add (.referring "outer" ["inner"])) rfl (acyclic_of_rank rank (by decide))
  have built : store.Built :=
    first.extend (.add (.referring "inner" [])) rfl (acyclic_of_rank rank (by decide))
  have enters : store.Enters start ["outer", "inner"] :=
    .definition rfl (.child List.mem_cons_self (.definition rfl (.stop _)))
  obtain ⟨-, chains, bounded, -⟩ := built.evaluation_ends request
  exact ⟨built, enters, chains start _ enters, bounded _ 2 (Nat.le_refl 2) start⟩

end Store
end PolicyDecision
