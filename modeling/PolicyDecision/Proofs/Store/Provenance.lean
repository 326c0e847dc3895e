import PolicyDecision.Proofs.Policy.Closure
import PolicyDecision.Proofs.Policy.Fulfilment
import PolicyDecision.Proofs.Store.Reachability
import PolicyDecision.Proofs.Union

/-!
# Provenance of results

Every obligation and all advice on a result is what an expression stated for the
decision of the result was fulfilled to, and every identifier is that of a policy
or a policy set. All of them belong to what the evaluation reaches. Combining
never moves a directive to a result of another decision: results are merged only
when their decisions agree.
-/

namespace PolicyDecision

theorem Directives.Oblige.isDefinite
    {directives : Directives}
    {source : AttributeSource}
    {decision : Decision}
    {obligation : Obligation}
    (obliges : directives.Oblige source decision obligation) : decision.isDefinite = true := by
  obtain ⟨expression, -, rfl, -⟩ := obliges
  cases expression.effect <;> rfl

theorem Directives.Advise.isDefinite
    {directives : Directives}
    {source : AttributeSource}
    {decision : Decision}
    {advice : Advice}
    (advises : directives.Advise source decision advice) : decision.isDefinite = true := by
  obtain ⟨expression, -, rfl, -⟩ := advises
  cases expression.effect <;> rfl

/-! ## Results -/

/-- Everything on a result stems from what was reached: each obligation and all
advice from an expression stated for its decision, and each identifier from a
policy or a policy set. -/
structure EvaluationResult.StemsFrom
    (reached : Evaluable → Prop)
    (source : AttributeSource)
    (result : EvaluationResult) : Prop where
  /-- Obligations are stated for the decision. -/
  obligations : ∀ obligation ∈ result.obligations, ∃ origin, reached origin ∧
    origin.directives.Oblige source result.decision obligation
  /-- Advice is stated for the decision. -/
  advice : ∀ advice ∈ result.advice, ∃ origin, reached origin ∧
    origin.directives.Advise source result.decision advice
  /-- The policies were reached. -/
  policyIdentifiers : ∀ id ∈ result.policyIdentifiers, ∃ leaf : Policy,
    reached (.node (.policy leaf)) ∧ leaf.header.identifier = id
  /-- The policy sets were reached. -/
  policySetIdentifiers : ∀ id ∈ result.policySetIdentifiers, ∃ header children,
    reached (.node (.policySet header children)) ∧ header.identifier = id

variable {reached : Evaluable → Prop} {source : AttributeSource} {result : EvaluationResult}

namespace EvaluationResult

/-- A result with nothing attached has nothing that could stem from elsewhere. -/
theorem stemsFrom_withStatus (decision : Decision) (status : Status) :
    (withStatus decision status).StemsFrom reached source where
  obligations := fun _ member => nomatch member
  advice := fun _ member => nomatch member
  policyIdentifiers := fun _ member => nomatch member
  policySetIdentifiers := fun _ member => nomatch member

theorem StemsFrom.merge
    {first second : EvaluationResult}
    (firstStems : first.StemsFrom reached source)
    (secondStems : second.StemsFrom reached source)
    (alike : first.decision.unified = second.decision.unified) :
    (first.merge second).StemsFrom reached source where
  obligations := fun obligation member => by
    rcases mem_or_mem_of_mem_unionWith member with held | added
    · exact firstStems.obligations obligation held
    · obtain ⟨origin, isReached, obliges⟩ := secondStems.obligations obligation added
      have same := Decision.eq_of_unified_eq_unified alike obliges.isDefinite
      exact ⟨origin, isReached, same ▸ obliges⟩
  advice := fun advice member => by
    rcases mem_or_mem_of_mem_unionWith member with held | added
    · exact firstStems.advice advice held
    · obtain ⟨origin, isReached, advises⟩ := secondStems.advice advice added
      have same := Decision.eq_of_unified_eq_unified alike advises.isDefinite
      exact ⟨origin, isReached, same ▸ advises⟩
  policyIdentifiers := fun id member =>
    (mem_or_mem_of_mem_unionWith member).elim (firstStems.policyIdentifiers id)
      (secondStems.policyIdentifiers id)
  policySetIdentifiers := fun id member =>
    (mem_or_mem_of_mem_unionWith member).elim (firstStems.policySetIdentifiers id)
      (secondStems.policySetIdentifiers id)

theorem combinable_stemsFrom : Combinable (StemsFrom reached source) where
  notApplicable := stemsFrom_withStatus _ _
  merge := StemsFrom.merge
  widen := fun _ _ _ _ _ => stemsFrom_withStatus _ _

theorem StemsFrom.weaken (stems : result.StemsFrom reached source) (status : Status) :
    (result.weaken status).StemsFrom reached source := by
  unfold EvaluationResult.weaken
  split
  · exact stemsFrom_withStatus _ _
  · exact stems

/-- The directives of something reached are attached for the decision of the
result alone. -/
theorem StemsFrom.attach
    (stems : result.StemsFrom reached source)
    {origin : Evaluable}
    (isReached : reached origin) :
    (origin.directives.attach source result).StemsFrom reached source := by
  unfold Directives.attach
  split
  · split
    · rename_i obligations advice fulfilled
      obtain ⟨obliged, advised⟩ := Directives.oblige_of_fulfil fulfilled
      exact
        { stems with
          obligations := fun obligation member =>
            (mem_or_mem_of_mem_unionWith member).elim (stems.obligations obligation)
              fun added => ⟨origin, isReached, obliged obligation added⟩
          advice := fun given member =>
            (mem_or_mem_of_mem_unionWith member).elim (stems.advice given)
              fun added => ⟨origin, isReached, advised given added⟩ }
    · exact stemsFrom_withStatus _ _
  · exact stems

theorem StemsFrom.addPolicyIdentifier
    (stems : result.StemsFrom reached source)
    {leaf : Policy}
    (isReached : reached (.node (.policy leaf))) :
    (result.addPolicyIdentifier leaf.header.identifier).StemsFrom reached source :=
  { stems with
    policyIdentifiers := fun id member =>
      (mem_or_mem_of_mem_unionWith member).elim (stems.policyIdentifiers id)
        fun added => ⟨leaf, isReached, (List.mem_singleton.mp added).symm⟩ }

theorem StemsFrom.addPolicySetIdentifier
    (stems : result.StemsFrom reached source)
    {header : PolicyHeader}
    {children : List PolicyNode}
    (isReached : reached (.node (.policySet header children))) :
    (result.addPolicySetIdentifier header.identifier).StemsFrom reached source :=
  { stems with
    policySetIdentifiers := fun id member =>
      (mem_or_mem_of_mem_unionWith member).elim (stems.policySetIdentifiers id)
        fun added => ⟨header, children, isReached, (List.mem_singleton.mp added).symm⟩ }

end EvaluationResult

/-! ## Policy trees -/

open EvaluationResult (combinable_stemsFrom stemsFrom_withStatus)

/-- What a rule attaches is its own. -/
theorem Rule.evaluate_stemsFrom
    {rule : Rule}
    (isReached : reached (.rule rule)) : (rule.evaluate source).StemsFrom reached source := by
  unfold evaluate
  split
  · exact stemsFrom_withStatus _ _
  · exact stemsFrom_withStatus _ _
  · split
    · have decided : (EvaluationResult.ofDecision rule.effect.decision).StemsFrom reached source :=
        stemsFrom_withStatus _ _
      exact decided.attach isReached
    · exact stemsFrom_withStatus _ _
    · exact stemsFrom_withStatus _ _

/-- A header that is reached hands on that everything stems from what was reached
when its mark does. -/
theorem PolicyHeader.handsOn_stemsFrom
    {header : PolicyHeader}
    {origin : Evaluable}
    (isReached : reached origin)
    (own : origin.directives = header.directives)
    {mark : EvaluationResult → EvaluationResult}
    (marks : ∀ {result}, result.StemsFrom reached source →
      (mark result).StemsFrom reached source) :
    header.HandsOn source mark (EvaluationResult.StemsFrom reached source) where
  fallback := fun _ _ => stemsFrom_withStatus _ _
  undecided := fun _ => stemsFrom_withStatus _ _
  weaken := fun status stems => stems.weaken status
  attach := fun stems => own ▸ stems.attach isReached
  mark := marks

namespace Store

variable {store : Store} {start : Evaluable}

/-- The result of a policy that is reached stems from what is reached. -/
theorem Reaches.policy_stemsFrom
    {leaf : Policy}
    (reaches : store.Reaches start (.node (.policy leaf))) :
    (leaf.answer source).result.get.StemsFrom (store.Reaches start) source :=
  leaf.answer_keeps combinable_stemsFrom
    (PolicyHeader.handsOn_stemsFrom reaches rfl fun stems => stems.addPolicyIdentifier reaches)
    (fun _ member => Rule.evaluate_stemsFrom (reaches.rule member))

/-- The result of a node that is reached stems from what is reached when the
results of the references in it do. -/
theorem Reaches.node_stemsFrom
    {scope : Scope}
    {node : PolicyNode}
    (reaches : store.Reaches start (.node node))
    (references : ∀ cited, store.Reaches start (.node (.reference cited)) →
      (cited.answer scope).result.get.StemsFrom (store.Reaches start) scope.attributeValues) :
    (node.answer scope).result.get.StemsFrom (store.Reaches start) scope.attributeValues :=
  PolicyNode.answer_keeps combinable_stemsFrom
    (fun _ isPart => (reaches.part isPart).policy_stemsFrom)
    (fun _ _ isPart => PolicyHeader.handsOn_stemsFrom (reaches.part isPart) rfl
      fun stems => stems.addPolicySetIdentifier (reaches.part isPart))
    (fun cited isPart => references cited (reaches.part isPart))

/-- On every level of references the result of a node that is reached stems from
what is reached. -/
theorem Reaches.answer_stemsFrom
    {node : PolicyNode}
    (reaches : store.Reaches start (.node node))
    (depth : Nat) :
    (node.answer (store.scopeWithin source Definition.unevaluated depth)).result.get.StemsFrom
      (store.Reaches start) source := by
  have sameValues := store.attributeValues_scopeWithin source Definition.unevaluated depth
  -- A definition that a reference leads to is evaluated one level further down.
  induction depth generalizing node with
  | zero =>
      refine sameValues ▸ reaches.node_stemsFrom fun cited _ => ?_
      have resolves : (store.scopeWithin source Definition.unevaluated 0).resolve cited.id =
          (store.get? cited.id).map fun definition =>
            ⟨definition.identifier, definition.unevaluated.answer⟩ := rfl
      rw [answer_reference resolves]
      split <;> exact stemsFrom_withStatus _ _
  | succ depth inductionHypothesis =>
      refine sameValues ▸ reaches.node_stemsFrom fun cited isReached => ?_
      rw [answer_reference (store.scopeWithin_resolve source Definition.unevaluated depth cited.id)]
      split
      · rename_i definition resolved
        rw [sameValues]
        exact inductionHypothesis (isReached.definition resolved) (attributeValues_scopeWithin ..)
      · exact stemsFrom_withStatus _ _

end Store

/-! ## Identifiers -/

/-- The result of an evaluation carries the identifier of a policy or a policy
set that is evaluated. -/
def Evaluable.Recorded (result : EvaluationResult) : Evaluable → Prop
  | .node (.policy leaf) => leaf.header.identifier ∈ result.policyIdentifiers
  | .node (.policySet header _) => header.identifier ∈ result.policySetIdentifiers
  | _ => True

theorem PolicyHeader.markApplicable_eq_mark
    {mark : EvaluationResult → EvaluationResult}
    (applicable : (markApplicable mark result).decision ≠ .notApplicable) :
    markApplicable mark result = mark result := by
  by_cases inapplicable : result.decision = .notApplicable
  · rw [markApplicable, if_pos inapplicable] at applicable
    exact absurd inapplicable applicable
  · exact if_neg inapplicable

/-- An applicable result under a header has been marked. -/
theorem PolicyHeader.exists_eq_mark
    {header : PolicyHeader}
    {mark : EvaluationResult → EvaluationResult}
    {target : Thunk MatchResult}
    {candidates : List Candidate}
    (applicable : (NodeAnswer.underTarget target fun reached =>
      header.combineUnder source reached mark candidates).result.get.decision ≠ .notApplicable) :
    ∃ concluded, (NodeAnswer.underTarget target fun reached =>
      header.combineUnder source reached mark candidates).result.get = mark concluded := by
  rw [NodeAnswer.result_underTarget] at applicable ⊢
  generalize target.get = reached at applicable ⊢
  cases reached with
  | unmatched => exact absurd rfl applicable
  | matched => exact ⟨_, markApplicable_eq_mark applicable⟩
  | indeterminate status => exact ⟨_, markApplicable_eq_mark applicable⟩

/-- A policy or a policy set that applies records itself. -/
theorem Evaluable.recorded_of_applicable
    {scope : Scope}
    {start : Evaluable}
    (applicable : (start.result scope).decision ≠ .notApplicable) :
    start.Recorded (start.result scope) := by
  cases start with
  | rule single => trivial
  | node tree =>
      cases tree with
      | policy leaf =>
          obtain ⟨concluded, marked⟩ := PolicyHeader.exists_eq_mark applicable
          change leaf.header.identifier ∈ (leaf.answer _).result.get.policyIdentifiers
          rw [Policy.answer, marked]
          exact mem_unionWith_singleton _ _
      | policySet header children =>
          rw [Evaluable.result, PolicyNode.answer] at applicable ⊢
          obtain ⟨concluded, marked⟩ := PolicyHeader.exists_eq_mark applicable
          rw [marked]
          exact mem_unionWith_singleton _ _
      | reference cited => trivial

namespace Store

/-- Everything on a result stems from what its evaluation reaches, and a policy
or a policy set that applies is recorded on its result. -/
theorem results_provenance
    (store : Store)
    (request : IndividualRequest)
    (start : Evaluable) :
    (start.result (store.scope request)).StemsFrom (store.Reaches start)
        request.attributeValues ∧
      ((start.result (store.scope request)).decision ≠ .notApplicable →
        start.Recorded (start.result (store.scope request))) := by
  refine ⟨?_, Evaluable.recorded_of_applicable⟩
  have reaches := store.reaches_self start
  cases start with
  | rule single =>
      rw [Evaluable.result, scope, attributeValues_scopeWithin]
      exact Rule.evaluate_stemsFrom reaches
  | node tree => exact reaches.answer_stemsFrom store.definitions.length

/-- A policy set that permits by reference carries the obligation of the policy it
refers to, and its own identifier. -/
theorem results_provenance_of_reference :
    let logging : ObligationExpression := ⟨"log", .permit, [⟨"by", none, .value (.string "desk")⟩]⟩
    let permitting : Rule := { Rule.ofEffect "open" .permit with directives := ⟨[logging], []⟩ }
    let outer := Definition.referring "outer" ["inner"]
    let inner : Policy := ⟨.ofAlgorithm "inner" .firstApplicable, [permitting]⟩
    let store : Store := ⟨[outer, .policy inner], [outer]⟩
    let request : IndividualRequest := ⟨.ok, []⟩
    let start : Evaluable := .node outer.toNode
    let result := start.result (store.scope request)
    result.decision = .permit ∧ result.obligations = [⟨"log", [⟨"by", none, .string "desk"⟩]⟩] ∧
      (∃ origin, store.Reaches start origin ∧
        origin.directives.Oblige request.attributeValues .permit
          ⟨"log", [⟨"by", none, .string "desk"⟩]⟩) ∧
      ⟨"outer", none⟩ ∈ result.policySetIdentifiers := by
  intro logging permitting outer inner store request start result
  have permits : result.decision = .permit := rfl
  have logs : result.obligations = [⟨"log", [⟨"by", none, .string "desk"⟩]⟩] := rfl
  obtain ⟨stems, recorded⟩ := store.results_provenance request start
  obtain ⟨origin, reached, obliges⟩ := stems.obligations _ (logs ▸ List.mem_singleton_self _)
  refine ⟨permits, logs, ⟨origin, reached, permits ▸ obliges⟩, recorded ?_⟩
  exact permits ▸ (by decide)

end Store
end PolicyDecision
