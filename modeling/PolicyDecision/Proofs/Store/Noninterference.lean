import PolicyDecision.Proofs.Policy.Agreement
import PolicyDecision.Proofs.Store.Reachability
import PolicyDecision.Proofs.Store.RootChoice

/-!
# Noninterference of attributes that no policy names

Two requests with the same values for all that is designated in a store and in
what is evaluated over it get the same answers. Whatever else a request says has
no influence: further attributes, the issuers of attributes, and which attributes
are to be echoed.
-/

namespace PolicyDecision

/-! ## What requests state -/

/-- A value of an attribute as policies get to know it, without its issuer. -/
structure Statement where
  category : String
  attributeId : String
  value : Value

/-- A designator asks for the value that is stated. -/
def Designator.Names (designator : Designator) (statement : Statement) : Prop :=
  statement.category = designator.category ∧ statement.attributeId = designator.attributeId ∧
    statement.value.datatype = designator.datatype

instance (designator : Designator) : DecidablePred designator.Names :=
  fun _ => inferInstanceAs (Decidable (_ ∧ _ ∧ _))

/-- The values stated in a category, in order. -/
def AttributeCategory.statements (category : AttributeCategory) : List Statement :=
  category.attributes.flatMap fun named =>
    named.values.map fun value => ⟨category.category, named.id, value⟩

namespace IndividualRequest

/-- The values stated in a request, in order. -/
def statements (request : IndividualRequest) : List Statement :=
  request.categories.flatMap AttributeCategory.statements

/-- The values stated in a request that designators ask for. -/
def namedStatements (request : IndividualRequest) (designators : List Designator) :
    List Statement :=
  request.statements.filter fun statement => ∃ designator ∈ designators, designator.Names statement

end IndividualRequest

/-- What a designator asks for in a category are the values of the attribute, when
the category is the one it names. -/
theorem AttributeCategory.values_of_named
    (category : AttributeCategory)
    (designator : Designator) :
    (category.statements.filter designator.Names).map Statement.value =
      if category.category = designator.category then
        (category.valuesOf designator.attributeId).filter fun value =>
          value.datatype = designator.datatype
      else [] := by
  rw [statements, valuesOf]
  induction category.attributes with
  | nil => simp
  | cons named rest inductionHypothesis =>
      rw [List.flatMap_cons, List.filter_append, List.map_append, inductionHypothesis]
      by_cases sameCategory : category.category = designator.category <;>
        by_cases sameId : named.id = designator.attributeId <;>
          simp [Designator.Names, sameCategory, sameId, List.filter_map, Function.comp_def]

namespace IndividualRequest

/-- The values of a designated attribute are those stated for it. -/
theorem attributeValues_eq_statements
    (request : IndividualRequest)
    (designator : Designator) :
    request.attributeValues designator.category designator.attributeId designator.datatype =
      (request.statements.filter designator.Names).map Statement.value := by
  rw [attributeValues, allValues, categoriesOf, statements, List.filter_flatMap,
    List.filter_flatMap, List.map_flatMap]
  simp only [AttributeCategory.values_of_named]
  induction request.categories with
  | nil => rfl
  | cons category rest inductionHypothesis =>
      by_cases sameCategory : category.category = designator.category <;>
        simp [sameCategory, inductionHypothesis]

/-- Requests that state the same of what is designated agree on it. -/
theorem agreeOn_of_namedStatements_eq
    {designators : List Designator}
    {first second : IndividualRequest}
    (same : first.namedStatements designators = second.namedStatements designators) :
    AgreeOn designators first.attributeValues second.attributeValues := by
  intro designator member
  have named (request : IndividualRequest) :
      (request.namedStatements designators).filter designator.Names =
        request.statements.filter designator.Names := by
    rw [namedStatements, List.filter_filter]
    refine List.filter_congr fun statement _ => ?_
    by_cases names : designator.Names statement
    · simpa [names] using ⟨designator, member, names⟩
    · simp [names]
  rw [attributeValues_eq_statements, attributeValues_eq_statements, ← named first, same,
    named second]

end IndividualRequest

/-! ## Answers -/

namespace Evaluable

/-- The designators in what is evaluated, in order. -/
def designators : Evaluable → List Designator
  | .rule single => single.designators
  | .node tree => tree.designators

/-- Scopes that resolve references alike give what is evaluated the same answers
when what its designators name is alike. -/
theorem answers_eq_of_agree
    {scope similar : Scope}
    (sameReferences : scope.resolve = similar.resolve)
    (start : Evaluable)
    (agree : AgreeOn start.designators scope.attributeValues similar.attributeValues) :
    start.targetMatch scope = start.targetMatch similar ∧
      start.result scope = start.result similar := by
  cases start with
  | rule single => exact single.evaluate_congr agree
  | node tree =>
      have sameAnswer := tree.answer_eq_of_agree sameReferences agree
      rw [targetMatch, targetMatch, result, result, sameAnswer]
      exact ⟨rfl, rfl⟩

end Evaluable

namespace Store

variable {store : Store} {first second : IndividualRequest}

/-- The designators in the definitions of a store, in order. -/
def designators (store : Store) : List Designator :=
  store.definitions.flatMap Definition.designators

/-- Two requests get the same answers from a store and from what is evaluated over
it. -/
structure SameAnswers
    (store : Store)
    (start : Evaluable)
    (first second : IndividualRequest) : Prop where
  /-- The target applies to both or to neither, or fails alike. -/
  targetMatch : start.targetMatch (store.scope first) = start.targetMatch (store.scope second)
  /-- The results are the same in everything they carry. -/
  result : start.result (store.scope first) = start.result (store.scope second)
  /-- The same root is found, or none for the same reason. -/
  rootFor : store.rootFor first = store.rootFor second

/-- References are resolved alike on every level. -/
theorem resolve_scopeWithin_congr
    {source other : AttributeSource}
    (agree : AgreeOn store.designators source other)
    (beyond : Definition → ResolvedDefinition)
    (depth : Nat) :
    (store.scopeWithin source beyond depth).resolve =
      (store.scopeWithin other beyond depth).resolve := by
  induction depth with
  | zero => rfl
  | succ depth inductionHypothesis =>
      funext id
      rw [scopeWithin_resolve, scopeWithin_resolve]
      -- What a definition answers goes by its own attributes and by the references
      -- of the level within, which are resolved alike.
      refine Option.map_congr fun definition found => ?_
      have agreeWithin := agreeOn_flatMap.mp agree definition (get?_eq_some found).1
      have sameAnswer :
          definition.answer (store.scopeWithin source beyond depth) =
            definition.answer (store.scopeWithin other beyond depth) := by
        refine definition.toNode.answer_eq_of_agree inductionHypothesis ?_
        rw [attributeValues_scopeWithin, attributeValues_scopeWithin]
        exact agreeWithin
      rw [Definition.resolved, Definition.resolved, sameAnswer]

/-- A root is chosen alike when what the definitions name is alike. -/
theorem Sound.rootFor_congr
    (sound : store.Sound)
    (agree : AgreeOn store.designators first.attributeValues second.attributeValues) :
    store.rootFor first = store.rootFor second := by
  rw [rootFor_eq_chooseAmong, rootFor_eq_chooseAmong]
  refine congrArg chooseAmong (List.filter_congr fun root isRoot => ?_)
  have agreeWithin := agreeOn_flatMap.mp agree root (sound.rooted isRoot)
  rw [decide_eq_decide, Definition.Applies, Definition.Applies, root.targetMatch_congr agreeWithin]

/-- Requests that agree on all that is designated get the same answers. -/
theorem Sound.sameAnswers
    (sound : store.Sound)
    {start : Evaluable}
    (agree : AgreeOn (start.designators ++ store.designators) first.attributeValues
      second.attributeValues) : store.SameAnswers start first second := by
  obtain ⟨agreeOnStart, agreeOnStore⟩ := agreeOn_append.mp agree
  have sameReferences := resolve_scopeWithin_congr agreeOnStore Definition.unevaluated
    store.definitions.length
  obtain ⟨sameTarget, sameResult⟩ := start.answers_eq_of_agree sameReferences (by
    rwa [attributeValues_scopeWithin, attributeValues_scopeWithin])
  exact ⟨sameTarget, sameResult, sound.rootFor_congr agreeOnStore⟩

/-- Requests that agree on the values of all that is designated in a store and in
what is evaluated get the same answers. So do requests that state the same values
of it, whatever else they state, whoever issued the attributes and whichever of
them are to be echoed. -/
theorem Built.noninterference
    (built : store.Built)
    (start : Evaluable)
    (first second : IndividualRequest) :
    (AgreeOn (start.designators ++ store.designators) first.attributeValues
        second.attributeValues → store.SameAnswers start first second) ∧
      (first.namedStatements (start.designators ++ store.designators) =
          second.namedStatements (start.designators ++ store.designators) →
        store.SameAnswers start first second) := by
  constructor
  · exact fun agree => built.sound.sameAnswers agree
  · intro same
    exact built.sound.sameAnswers (IndividualRequest.agreeOn_of_namedStatements_eq same)

/-- An issuer, the echoing of an attribute and an attribute that the policy does not
name change nothing about the obligation that the named one is assigned to. -/
theorem Built.noninterference_of_issuer :
    let name : Expression := .designator (.optional "subject" "name" .string)
    let logging : ObligationExpression := ⟨"log", .permit, [⟨"by", none, name⟩]⟩
    let permitting : Rule := { Rule.ofEffect "open" .permit with directives := ⟨[logging], []⟩ }
    let main : Policy := ⟨.ofAlgorithm "main" .firstApplicable, [permitting]⟩
    let store : Store := ⟨[.policy main], [.policy main]⟩
    let start : Evaluable := .node (.policy main)
    let named : Attribute := .ofValue "name" (.string "ada")
    let first : IndividualRequest := ⟨.ok, [⟨"subject", [named.issuedBy "registry"]⟩]⟩
    let second : IndividualRequest :=
      ⟨.ok, [⟨"subject", [named.echoed, .ofValue "role" (.string "clerk")]⟩]⟩
    store.Built ∧
      first.namedStatements (start.designators ++ store.designators) =
        second.namedStatements (start.designators ++ store.designators) ∧
      store.SameAnswers start first second ∧
      (start.result (store.scope second)).obligations =
        [⟨"log", [⟨"by", none, .string "ada"⟩]⟩] := by
  intro name logging permitting main store start named first second
  have built : store.Built :=
    Built.empty.extend (.addRoot (.policy main)) rfl (acyclic_of_rank (fun _ => 0) (by decide))
  have same : first.namedStatements (start.designators ++ store.designators) =
      second.namedStatements (start.designators ++ store.designators) := by cbv
  exact ⟨built, same, (built.noninterference start first second).2 same, by cbv⟩

end Store
end PolicyDecision
