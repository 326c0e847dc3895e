import PolicyDecision.Proofs.Engine.Decide
import PolicyDecision.Proofs.Engine.Evaluation
import PolicyDecision.Proofs.Policy.Closure
import PolicyDecision.Proofs.Store.Integrity
import PolicyDecision.Proofs.Store.Lookup

/-!
# Effects without a cause

An effect can only come from a rule with that effect, from an algorithm that
falls back to it, or from the default decision. Without any of these no decision
of the engine is the effect or names it among the decisions within reach.
-/

namespace PolicyDecision

/-- The decision is an effect, or an indeterminate one that names the effect
among the decisions within reach. -/
def Decision.Names (effect : Effect) (decision : Decision) : Prop :=
  decision = effect.decision ∨ decision = effect.decision.asIndeterminate ∨
    decision = .indeterminateDenyPermit

instance (effect : Effect) (decision : Decision) : Decidable (decision.Names effect) :=
  inferInstanceAs (Decidable (_ ∨ _ ∨ _))

/-- A node is no cause of an effect: none of its rules has it and its algorithm
does not fall back to it. Children are nodes of their own. -/
def PolicyNode.Withholds (effect : Effect) : PolicyNode → Prop
  | .policy leaf =>
      leaf.header.algorithm.fallback? ≠ some effect.decision ∧
        ∀ rule ∈ leaf.rules, rule.effect ≠ effect
  | .policySet header _ => header.algorithm.fallback? ≠ some effect.decision
  | .reference _ => True

/-- No policy or policy set of a store, at any depth, is a cause of an effect. -/
def Store.Withholds (effect : Effect) (store : Store) : Prop :=
  ∀ definition ∈ store.definitions, ∀ part ∈ definition.toNode.parts, part.Withholds effect

variable {effect : Effect} {source : AttributeSource}

/-! ## Decisions -/

namespace Decision

theorem not_names_notApplicable (effect : Effect) : ¬notApplicable.Names effect := by
  cases effect <;> decide

theorem not_names_indeterminate (effect : Effect) : ¬indeterminate.Names effect := by
  cases effect <;> decide

theorem not_names_asIndeterminate
    {decision : Decision}
    (unnamed : ¬decision.Names effect) : ¬decision.asIndeterminate.Names effect := by
  revert unnamed
  cases effect <;> cases decision <;> decide

/-- The decision of one effect does not name the other. -/
theorem not_names_decision
    {other : Effect}
    (different : other ≠ effect) : ¬other.decision.Names effect := by
  revert different
  cases effect <;> cases other <;> decide

theorem eq_of_names
    {decision : Decision}
    (definite : decision.isDefinite = true)
    (named : decision.Names effect) : decision = effect.decision := by
  revert definite named
  cases effect <;> cases decision <;> decide

/-- One of two definite decisions that an error leaves within reach is that of
the effect. -/
theorem names_of_widened
    {overriding away : Decision}
    (effect : Effect)
    (definite : overriding.isDefinite = true)
    (isAway : away = overriding.otherDefinite ∨
      away = overriding.otherDefinite.asIndeterminate) :
    overriding.asIndeterminate.Names effect ∨ away.Names effect := by
  rcases permit_or_deny_of_isDefinite definite with rfl | rfl <;>
    rcases isAway with rfl | rfl <;> cases effect <;> decide

end Decision

/-! ## Results -/

/-- The decision of a result does not name an effect. -/
def EvaluationResult.Lacks (effect : Effect) (result : EvaluationResult) : Prop :=
  ¬result.decision.Names effect

namespace EvaluationResult

theorem combinable_lacks (effect : Effect) : Combinable (Lacks effect) where
  notApplicable := Decision.not_names_notApplicable effect
  merge := fun first _ _ => first
  widen := fun definite towards away isTowards isAway => by
    rcases Decision.names_of_widened effect definite isAway with named | named
    · exact absurd (isTowards ▸ named) towards
    · exact absurd named away

theorem Lacks.weaken
    {result : EvaluationResult}
    (lacks : result.Lacks effect)
    (status : Status) : (result.weaken status).Lacks effect := by
  unfold EvaluationResult.weaken
  split
  · exact Decision.not_names_asIndeterminate lacks
  · exact lacks

theorem Lacks.attach
    {result : EvaluationResult}
    (lacks : result.Lacks effect)
    (directives : Directives) : (directives.attach source result).Lacks effect := by
  unfold Directives.attach
  split
  · split
    · exact lacks
    · exact Decision.not_names_asIndeterminate lacks
  · exact lacks

end EvaluationResult

/-- A rule with another effect does not have the effect. -/
theorem Rule.evaluate_lacks
    {rule : Rule}
    (different : rule.effect ≠ effect) : (rule.evaluate source).Lacks effect := by
  have decided : (EvaluationResult.ofDecision rule.effect.decision).Lacks effect :=
    Decision.not_names_decision different
  have failed : ¬rule.failure.Names effect := Decision.not_names_asIndeterminate decided
  unfold evaluate
  split
  · exact Decision.not_names_notApplicable effect
  · exact failed
  · split
    · exact decided.attach rule.directives
    · exact Decision.not_names_notApplicable effect
    · exact failed

/-- A header whose algorithm does not fall back to an effect hands on that results
lack it. -/
theorem PolicyHeader.handsOn_lacks
    {header : PolicyHeader}
    {mark : EvaluationResult → EvaluationResult}
    (withheld : header.algorithm.fallback? ≠ some effect.decision)
    (kept : ∀ result, (mark result).decision = result.decision) :
    header.HandsOn source mark (EvaluationResult.Lacks effect) where
  fallback := fun decision isFallback named => by
    have definite := CombiningAlgorithm.isDefinite_of_fallback? isFallback
    exact withheld (Decision.eq_of_names definite named ▸ isFallback)
  undecided := fun _ => Decision.not_names_indeterminate effect
  weaken := fun status lacks => lacks.weaken status
  attach := fun lacks => lacks.attach header.directives
  mark := fun {result} lacks => by
    rw [EvaluationResult.Lacks, kept]
    exact lacks

/-! ## Policy trees -/

/-- The answer of a node has a result that lacks an effect. -/
def NodeAnswer.Lacks (effect : Effect) (answer : NodeAnswer) : Prop :=
  answer.result.get.Lacks effect

/-- A tree that withholds an effect lacks it when all definitions that it refers
to do. -/
theorem PolicyNode.answer_lacks
    {scope : Scope}
    (referenced : scope.Answers (NodeAnswer.Lacks effect))
    {node : PolicyNode}
    (withheld : ∀ part ∈ node.parts, part.Withholds effect) :
    (node.answer scope).Lacks effect := by
  have combinable := EvaluationResult.combinable_lacks effect
  refine PolicyNode.answer_keeps combinable (fun leaf isPart => ?_)
    (fun header children isPart => ?_) (fun cited isPart => ?_)
  · obtain ⟨noFallback, noRule⟩ := withheld _ isPart
    exact leaf.answer_keeps combinable
      (PolicyHeader.handsOn_lacks noFallback fun _ => rfl)
      (fun rule member => rule.evaluate_lacks (noRule rule member))
  · exact PolicyHeader.handsOn_lacks (withheld _ isPart) fun _ => rfl
  · unfold PolicyReference.answer
    split
    · rename_i found resolved
      exact referenced cited.id found (Option.filter_eq_some_iff.mp resolved).1
    · exact Decision.not_names_indeterminate effect

namespace Store

/-- The definitions of a store that withholds an effect lack it. -/
theorem Withholds.scope_answers
    {store : Store}
    (withheld : store.Withholds effect)
    (request : IndividualRequest) :
    (store.scope request).Answers (NodeAnswer.Lacks effect) :=
  scopeWithin_answers
    (fun _ _ => Decision.not_names_notApplicable effect)
    (fun _ _ referenced definition stored =>
      PolicyNode.answer_lacks referenced (withheld definition stored))
    store.definitions.length

/-- No decision is an effect or names it among those within reach when no rule of
the store has the effect, no algorithm falls back to it and the default decision
does not name it. -/
theorem Built.decide_withholds
    {store : Store}
    (built : store.Built)
    {effect : Effect}
    (withheld : store.Withholds effect)
    {configuration : EngineConfiguration}
    (defaultWithheld : ¬configuration.defaultDecision.Names effect)
    (workers : Nat)
    (request : Request) :
    ∀ result ∈ (Engine.decide { Engine.ofStore configuration store with workers } request).results,
      ¬result.decision.Names effect := by
  have yields : Engine.Yields { Engine.ofStore configuration store with workers }
      (fun decision => ¬decision.Names effect) := by
    refine ⟨Decision.not_names_indeterminate effect, defaultWithheld, ?_⟩
    intro individual context result isContext isRoot
    cases isContext
    obtain ⟨root, found, answered⟩ := Option.map_eq_some_iff.mp isRoot
    cases answered
    have stored : root ∈ store.definitions := built.sound.rooted (mem_roots_of_rootFor found)
    exact PolicyNode.answer_lacks (withheld.scope_answers individual) (withheld root stored)
  exact yields.decide request

/-- A policy that denies, referred to by a root, is no cause of a permit. -/
theorem Built.decide_withholds_permit :
    let root := Definition.referring "outer" ["inner"]
    let refusing : Policy := ⟨.ofAlgorithm "inner" .denyUnlessPermit, [.ofEffect "refuse" .deny]⟩
    let store : Store := ⟨[root, .policy refusing], [root]⟩
    let engine := Engine.ofStore ⟨.indeterminateDeny, false⟩ store
    store.Built ∧ store.Withholds .permit ∧
      ¬engine.configuration.defaultDecision.Names .permit ∧
      (engine.decide .empty).results.map DecisionResult.decision = [.deny] ∧
      ∀ result ∈ (engine.decide .empty).results, ¬result.decision.Names .permit := by
  intro root refusing store engine
  let rank (id : String) : Nat := if id = "outer" then 1 else 0
  have first : (Store.mk [root] [root]).Built :=
    Built.empty.extend (.addRoot root) rfl (acyclic_of_rank rank (by decide))
  have built : store.Built :=
    first.extend (.add (.policy refusing)) rfl (acyclic_of_rank rank (by decide))
  have withheld : store.Withholds .permit := by
    simp [Withholds, store, root, refusing, Definition.referring, Definition.toNode,
      PolicySet.toNode, PolicyNode.parts, PolicyNode.partsOf, PolicyNode.Withholds,
      PolicyHeader.ofAlgorithm, Rule.ofEffect, CombiningAlgorithm.fallback?, Effect.decision]
  have defaultWithheld : ¬engine.configuration.defaultDecision.Names .permit := by decide
  have splits : engine.SplitsInto .empty [⟨.ok, []⟩] := ⟨rfl, rfl, by simp⟩
  have denies : (engine.decide .empty).results.map DecisionResult.decision = [.deny] := by
    rw [splits.results rfl, Engine.evaluateAll_singleton]
    rfl
  exact ⟨built, withheld, defaultWithheld, denies,
    built.decide_withholds withheld defaultWithheld 1 .empty⟩

end Store
end PolicyDecision
