import PolicyDecision.Policy.Target
import PolicyDecision.Proofs.MatchResult

/-!
# Targets in three-valued logic

A target is evaluated in three-valued logic over its nesting. A match is the disjunction
of the comparisons of its literal with the values of its attribute, and above it
conjunctions and disjunctions of match results alternate. On every level the outcome does
not depend on the order or the number of the members, nor does a definite outcome on how
indeterminate members are resolved.
-/

namespace PolicyDecision

theorem Outcome.truth_eq_ok_iff {outcome : Outcome} {truth : Bool} :
    outcome.truth = .ok truth ↔ outcome = .ofBool truth := by
  cases outcome with
  | single value => cases value <;> simp [Outcome.truth, ofBool]
  | bag values => simp [Outcome.truth, ofBool]
  | failed status => simp [Outcome.truth, ofBool]

/-! ## Matches -/

namespace Match

/-- The outcome of the function for the literal and a value. -/
def applied (comparison : Match) (function : Function) (value : Value) : Outcome :=
  function.apply [.value comparison.literal, .value value]

/-- The result of a match over the values of its attribute. A value of which the function
is true is enough. Otherwise the first value on which it yields no truth value counts,
with the status of that failure. -/
structure ComparedWith
    (comparison : Match)
    (function : Function)
    (values : List Value)
    (result : MatchResult) : Prop where
  matched_iff : result = .matched ↔
    ∃ value ∈ values, comparison.applied function value = .ofBool true
  unmatched_iff : result = .unmatched ↔
    ∀ value ∈ values, comparison.applied function value = .ofBool false
  indeterminate_iff : ∀ status, result = .indeterminate status ↔
    (∀ value ∈ values, comparison.applied function value ≠ .ofBool true) ∧
      ∃ before value after, values = before ++ value :: after ∧
        (comparison.applied function value).truth = .error status ∧
        ∀ earlier ∈ before, comparison.applied function earlier = .ofBool false

/-- How a match concludes: without its function, without its required attribute, or by
comparing the literal with the values. -/
inductive Concludes (source : AttributeSource) (comparison : Match) : MatchResult → Prop
  | unknownFunction
      (unknown : Function.find? comparison.functionId = none) :
      Concludes source comparison (.indeterminate (unknownFunction comparison.functionId))
  | absentAttribute
      {function : Function}
      {status : Status}
      (known : Function.find? comparison.functionId = some function)
      (absent : comparison.designator.values source = .error status) :
      Concludes source comparison (.indeterminate status)
  | compared
      {function : Function}
      {values : List Value}
      {result : MatchResult}
      (known : Function.find? comparison.functionId = some function)
      (present : comparison.designator.values source = .ok values)
      (compared : comparison.ComparedWith function values result) :
      Concludes source comparison result

variable {comparison : Match} {function : Function} {value : Value} {values : List Value}
  {result : MatchResult} {status : Status}

theorem compareWith_eq_ofBool_iff {truth : Bool} :
    comparison.compareWith function value = .ofBool truth ↔
      comparison.applied function value = .ofBool truth := by
  rw [← Outcome.truth_eq_ok_iff, compareWith, applied]
  cases (function.apply [.value comparison.literal, .value value]).truth with
  | error status => cases truth <;> simp [MatchResult.ofTruth, MatchResult.ofBool]
  | ok holds => cases holds <;> cases truth <;> simp [MatchResult.ofTruth, MatchResult.ofBool]

theorem compareWith_eq_indeterminate_iff :
    comparison.compareWith function value = .indeterminate status ↔
      (comparison.applied function value).truth = .error status := by
  rw [compareWith, applied]
  cases (function.apply [.value comparison.literal, .value value]).truth with
  | error status => simp [MatchResult.ofTruth]
  | ok holds => cases holds <;> simp [MatchResult.ofTruth]

/-- The disjunction of the comparisons with the values is the result of the match. -/
theorem comparedWith_of_isDisjunction
    (disjunction :
      MatchResult.IsDisjunction (values.map (comparison.compareWith function)) result) :
    comparison.ComparedWith function values result := by
  refine ⟨disjunction.decisive_iff.trans ?_, disjunction.neutral_iff.trans ?_, fun status =>
    (disjunction.indeterminate_iff status).trans (and_congr ?_ ?_)⟩
  · simp only [List.mem_map, compareWith_eq_ofBool_iff]
  · simp only [List.forall_mem_map, compareWith_eq_ofBool_iff, Bool.not_true]
  · simp only [List.mem_map, compareWith_eq_ofBool_iff, not_exists, not_and, ne_eq]
  · constructor
    · rintro ⟨before, after, split, passed⟩
      obtain ⟨earlier, rest, rfl, rfl, restSplit⟩ := List.map_eq_append_iff.mp split
      obtain ⟨value, later, rfl, fails, rfl⟩ := List.map_eq_cons_iff.mp restSplit
      refine ⟨earlier, value, later, rfl, compareWith_eq_indeterminate_iff.mp fails, ?_⟩
      intro passedValue isEarlier
      exact compareWith_eq_ofBool_iff.mp (passed _ (List.mem_map_of_mem isEarlier))
    · rintro ⟨before, value, after, rfl, fails, passed⟩
      refine ⟨before.map (comparison.compareWith function),
        after.map (comparison.compareWith function), ?_, ?_⟩
      · rw [List.map_append, List.map_cons, compareWith_eq_indeterminate_iff.mpr fails]
      · exact List.forall_mem_map.mpr fun earlier isEarlier =>
          compareWith_eq_ofBool_iff.mpr (passed earlier isEarlier)

theorem concludes_evaluate (source : AttributeSource) (comparison : Match) :
    comparison.Concludes source (comparison.evaluate source) := by
  unfold evaluate
  split
  · rename_i unknown
    exact .unknownFunction unknown
  · rename_i function known
    split
    · rename_i status absent
      exact .absentAttribute known absent
    · rename_i values present
      exact .compared known present
        (comparedWith_of_isDisjunction (MatchResult.isDisjunction_any _))

/-- The result of a match whose function and values are known. -/
theorem evaluate_eq
    {source : AttributeSource}
    (known : Function.find? comparison.functionId = some function)
    (present : comparison.designator.values source = .ok values) :
    comparison.evaluate source = .any (values.map (comparison.compareWith function)) := by
  simp only [evaluate, known, present]

end Match

/-! ## Rearranged targets -/

/-- The sources have the same values of every attribute, in any order and however often. -/
def AttributeSource.Rearranged (source other : AttributeSource) : Prop :=
  ∀ category attributeId datatype,
    SameMembers Eq (source category attributeId datatype)
      (other category attributeId datatype)

/-- The conjunctions have the same matches, in any order and however often. -/
def AllOf.Rearranged (conjunction other : AllOf) : Prop :=
  SameMembers Eq conjunction.matchList other.matchList

/-- The disjunctions have the same conjunctions up to their order and number, and the
order and the number of their matches. -/
def AnyOf.Rearranged (disjunction other : AnyOf) : Prop :=
  SameMembers AllOf.Rearranged disjunction.allOf other.allOf

/-- The targets have the same members, in any order and however often on each level. -/
def Target.Rearranged (target other : Target) : Prop :=
  SameMembers AnyOf.Rearranged target.anyOf other.anyOf

section Unordered

variable {source other : AttributeSource} (reordered : AttributeSource.Rearranged source other)

include reordered

/-- A designator fails under both sources or finds the same values. -/
theorem Designator.values_of_rearranged (designator : Designator) :
    (∃ status, designator.values source = .error status ∧
        designator.values other = .error status) ∨
      ∃ values others, designator.values source = .ok values ∧
        designator.values other = .ok others ∧ SameMembers Eq values others := by
  have same := reordered designator.category designator.attributeId designator.datatype
  unfold values
  revert same
  generalize source designator.category designator.attributeId designator.datatype = held
  generalize other designator.category designator.attributeId designator.datatype = otherHeld
  intro same
  cases held with
  | nil =>
      cases otherHeld with
      | nil => cases designator.mustBePresent <;> simp [SameMembers]
      | cons value rest => exact absurd (same.2 value List.mem_cons_self) (by simp)
  | cons value rest =>
      cases otherHeld with
      | nil => exact absurd (same.1 value List.mem_cons_self) (by simp)
      | cons otherValue otherRest => exact .inr ⟨_, _, rfl, rfl, same⟩

theorem Match.sameOutcome_of_rearranged (comparison : Match) :
    (comparison.evaluate source).SameOutcome (comparison.evaluate other) := by
  cases known : Function.find? comparison.functionId with
  | none => exact .inl (by simp only [evaluate, known])
  | some function =>
      rcases comparison.designator.values_of_rearranged reordered with
        ⟨status, absent, otherAbsent⟩ | ⟨values, others, present, otherPresent, same⟩
      · exact .inl (by simp only [evaluate, known, absent, otherAbsent])
      · rw [evaluate_eq known present, evaluate_eq known otherPresent]
        refine (MatchResult.isDisjunction_any _).sameOutcome (MatchResult.isDisjunction_any _)
          (same.map fun value otherValue equal => ?_)
        exact .inl (congrArg _ equal)

theorem AllOf.sameOutcome_of_rearranged
    {conjunction rearranged : AllOf}
    (same : conjunction.Rearranged rearranged) :
    (conjunction.evaluate source).SameOutcome (rearranged.evaluate other) := by
  refine (MatchResult.isConjunction_all _).sameOutcome (MatchResult.isConjunction_all _)
    (same.map fun comparison otherComparison equal => ?_)
  exact equal ▸ comparison.sameOutcome_of_rearranged reordered

theorem AnyOf.sameOutcome_of_rearranged
    {disjunction rearranged : AnyOf}
    (same : disjunction.Rearranged rearranged) :
    (disjunction.evaluate source).SameOutcome (rearranged.evaluate other) :=
  (MatchResult.isDisjunction_any _).sameOutcome (MatchResult.isDisjunction_any _)
    (same.map fun _ _ sameMembers => AllOf.sameOutcome_of_rearranged reordered sameMembers)

theorem Target.sameOutcome_of_rearranged
    {target rearranged : Target}
    (same : target.Rearranged rearranged) :
    (target.evaluate source).SameOutcome (rearranged.evaluate other) :=
  (MatchResult.isConjunction_all _).sameOutcome (MatchResult.isConjunction_all _)
    (same.map fun _ _ sameMembers => AnyOf.sameOutcome_of_rearranged reordered sameMembers)

end Unordered

/-! ## Resolved targets -/

/-- What an item evaluates to under one source is resolved by what another item evaluates
to under another source. -/
def Resolves
    {α : Type}
    (evaluate : AttributeSource → α → MatchResult)
    (source other : AttributeSource)
    (item resolved : α) : Prop :=
  (evaluate source item).ResolvesTo (evaluate other resolved)

section Resolved

variable {source other : AttributeSource}

theorem forall₂_map_of_resolves
    {α : Type}
    {evaluate : AttributeSource → α → MatchResult}
    {items resolved : List α}
    (resolves : List.Forall₂ (Resolves evaluate source other) items resolved) :
    List.Forall₂ MatchResult.ResolvesTo (items.map (evaluate source))
      (resolved.map (evaluate other)) := by
  rw [List.forall₂_map_left_iff, List.forall₂_map_right_iff]
  exact resolves

theorem Match.resolves
    {comparison : Match}
    {function : Function}
    {values resolved : List Value}
    (known : Function.find? comparison.functionId = some function)
    (present : comparison.designator.values source = .ok values)
    (otherPresent : comparison.designator.values other = .ok resolved)
    (resolves : List.Forall₂ MatchResult.ResolvesTo
      (values.map (comparison.compareWith function))
      (resolved.map (comparison.compareWith function))) :
    Resolves Match.evaluate source other comparison comparison := by
  rw [Resolves, evaluate_eq known present, evaluate_eq known otherPresent]
  exact (MatchResult.isDisjunction_any _).resolvesTo (MatchResult.isDisjunction_any _) resolves

theorem AllOf.resolves
    {conjunction resolved : AllOf}
    (members : List.Forall₂ (Resolves Match.evaluate source other)
      conjunction.matchList resolved.matchList) :
    Resolves AllOf.evaluate source other conjunction resolved :=
  (MatchResult.isConjunction_all _).resolvesTo (MatchResult.isConjunction_all _)
    (forall₂_map_of_resolves members)

theorem AnyOf.resolves
    {disjunction resolved : AnyOf}
    (members : List.Forall₂ (Resolves AllOf.evaluate source other)
      disjunction.allOf resolved.allOf) :
    Resolves AnyOf.evaluate source other disjunction resolved :=
  (MatchResult.isDisjunction_any _).resolvesTo (MatchResult.isDisjunction_any _)
    (forall₂_map_of_resolves members)

theorem Target.resolves
    {target resolved : Target}
    (members : List.Forall₂ (Resolves AnyOf.evaluate source other) target.anyOf resolved.anyOf) :
    Resolves Target.evaluate source other target resolved :=
  (MatchResult.isConjunction_all _).resolvesTo (MatchResult.isConjunction_all _)
    (forall₂_map_of_resolves members)

end Resolved

/-! ## Three-valued logic -/

/-- Every level of a target is evaluated in three-valued logic. -/
structure EvaluatesInThreeValues (source : AttributeSource) : Prop where
  comparison : ∀ comparison : Match, comparison.Concludes source (comparison.evaluate source)
  allOf : ∀ conjunction : AllOf,
    MatchResult.IsConjunction (conjunction.matchList.map (Match.evaluate source))
      (conjunction.evaluate source)
  anyOf : ∀ disjunction : AnyOf,
    MatchResult.IsDisjunction (disjunction.allOf.map (AllOf.evaluate source))
      (disjunction.evaluate source)
  target : ∀ target : Target,
    MatchResult.IsConjunction (target.anyOf.map (AnyOf.evaluate source)) (target.evaluate source)

/-- No level of a target tells rearranged members and values apart. -/
structure IgnoresOrder (source other : AttributeSource) : Prop where
  comparison : ∀ comparison : Match,
    (comparison.evaluate source).SameOutcome (comparison.evaluate other)
  allOf : ∀ conjunction rearranged : AllOf, conjunction.Rearranged rearranged →
    (conjunction.evaluate source).SameOutcome (rearranged.evaluate other)
  anyOf : ∀ disjunction rearranged : AnyOf, disjunction.Rearranged rearranged →
    (disjunction.evaluate source).SameOutcome (rearranged.evaluate other)
  target : ∀ target rearranged : Target, target.Rearranged rearranged →
    (target.evaluate source).SameOutcome (rearranged.evaluate other)

/-- On every level members that are resolved one by one resolve the whole, so that a
definite outcome stays. -/
structure KeepsDefiniteOutcomes (source other : AttributeSource) : Prop where
  comparison : ∀ (comparison : Match) (function : Function) (values resolved : List Value),
    Function.find? comparison.functionId = some function →
      comparison.designator.values source = .ok values →
      comparison.designator.values other = .ok resolved →
      List.Forall₂ MatchResult.ResolvesTo (values.map (comparison.compareWith function))
        (resolved.map (comparison.compareWith function)) →
      Resolves Match.evaluate source other comparison comparison
  allOf : ∀ conjunction resolved : AllOf,
    List.Forall₂ (Resolves Match.evaluate source other) conjunction.matchList
      resolved.matchList →
      Resolves AllOf.evaluate source other conjunction resolved
  anyOf : ∀ disjunction resolved : AnyOf,
    List.Forall₂ (Resolves AllOf.evaluate source other) disjunction.allOf resolved.allOf →
      Resolves AnyOf.evaluate source other disjunction resolved
  target : ∀ target resolved : Target,
    List.Forall₂ (Resolves AnyOf.evaluate source other) target.anyOf resolved.anyOf →
      Resolves Target.evaluate source other target resolved

/-- Targets are three-valued logic over their nesting. Members in another order and
repeated members do not change which of the three outcomes results, and no way to resolve
an indeterminate member changes a definite one. -/
theorem Target.threeValuedLogic (source other : AttributeSource) :
    EvaluatesInThreeValues source ∧
      (AttributeSource.Rearranged source other → IgnoresOrder source other) ∧
      KeepsDefiniteOutcomes source other := by
  refine ⟨?_, fun reordered => ?_, ?_⟩
  · exact {
      comparison := Match.concludes_evaluate source
      allOf := fun _ => MatchResult.isConjunction_all _
      anyOf := fun _ => MatchResult.isDisjunction_any _
      target := fun _ => MatchResult.isConjunction_all _ }
  · exact {
      comparison := Match.sameOutcome_of_rearranged reordered
      allOf := fun _ _ => AllOf.sameOutcome_of_rearranged reordered
      anyOf := fun _ _ => AnyOf.sameOutcome_of_rearranged reordered
      target := fun _ _ => Target.sameOutcome_of_rearranged reordered }
  · exact {
      comparison := fun _ _ _ _ => Match.resolves
      allOf := fun _ _ => AllOf.resolves
      anyOf := fun _ _ => AnyOf.resolves
      target := fun _ _ => Target.resolves }

/-- Neither a value that cannot be compared nor an unknown function in a sibling keeps a
target from matching, in any order and however the sibling is resolved. -/
theorem Target.threeValuedLogic_of_unknownFunction :
    let clearance := Designator.optional "subject" "clearance" .integer
    let five : Value := .integer ⟨5, by decide, by decide⟩
    let three : Value := .integer ⟨3, by decide, by decide⟩
    let above : Match :=
      ⟨"urn:oasis:names:tc:xacml:1.0:function:integer-greater-than", five, clearance⟩
    let unknown : Match := ⟨"above", five, clearance⟩
    let source : AttributeSource := fun _ _ _ => [.string "low", three]
    let other : AttributeSource := fun _ _ _ => [three, .string "low", three]
    let either : AnyOf := ⟨[⟨[unknown]⟩, ⟨[above]⟩]⟩
    let reversed : AnyOf := ⟨[⟨[above, above]⟩, ⟨[unknown]⟩]⟩
    AttributeSource.Rearranged source other ∧
      Target.Rearranged ⟨[either]⟩ ⟨[reversed, reversed]⟩ ∧
      unknown.evaluate source = .indeterminate (unknownFunction "above") ∧
      Target.evaluate source ⟨[either]⟩ = .matched ∧
      (Target.evaluate source ⟨[either]⟩).SameOutcome
        (Target.evaluate other ⟨[reversed, reversed]⟩) ∧
      Resolves AnyOf.evaluate source source either ⟨[⟨[]⟩, ⟨[above]⟩]⟩ := by
  intro clearance five three above unknown source other either reversed
  have sameValues : AttributeSource.Rearranged source other := fun _ _ _ =>
    sameMembers_eq_iff.mpr fun value => by simp [source, other, or_comm]
  have repeated : AllOf.Rearranged ⟨[above]⟩ ⟨[above, above]⟩ :=
    sameMembers_eq_iff.mpr fun comparison => by simp
  have same (conjunction : AllOf) : conjunction.Rearranged conjunction :=
    sameMembers_eq_iff.mpr fun _ => .rfl
  have turned : AnyOf.Rearranged either reversed := by
    simp only [AnyOf.Rearranged, SameMembers, either, reversed, List.forall_mem_cons,
      List.exists_mem_cons_iff]
    exact ⟨⟨.inr (.inl (same _)), .inl repeated, List.forall_mem_nil _⟩,
      .inr (.inl repeated), .inl (same _), List.forall_mem_nil _⟩
  have sameMembers : Target.Rearranged ⟨[either]⟩ ⟨[reversed, reversed]⟩ := by
    simp only [Target.Rearranged, SameMembers, List.forall_mem_cons, List.exists_mem_cons_iff]
    exact ⟨⟨.inl turned, List.forall_mem_nil _⟩, .inl turned, .inl turned, List.forall_mem_nil _⟩
  have isUnknown : Function.find? unknown.functionId = none := by decide
  have isKnown : Function.find? above.functionId = some (.compare .integer .greaterThan) := by
    decide
  have unknownFails : unknown.evaluate source = .indeterminate (unknownFunction "above") := by
    simp only [Match.evaluate, isUnknown]
    rfl
  have aboveMatches : above.evaluate source = .matched :=
    (Match.evaluate_eq isKnown rfl).trans (by decide)
  have targetMatches : Target.evaluate source ⟨[either]⟩ = .matched := by
    simp only [Target.evaluate, AnyOf.evaluate, AllOf.evaluate, either, List.map_cons,
      List.map_nil, unknownFails, aboveMatches]
    rfl
  have failing : AllOf.evaluate source ⟨[unknown]⟩ =
      .indeterminate (unknownFunction "above") := by
    simp only [AllOf.evaluate, List.map_cons, List.map_nil, unknownFails]
    rfl
  have logic := threeValuedLogic source other
  have resolving := (threeValuedLogic source source).2.2
  refine ⟨sameValues, sameMembers, unknownFails, targetMatches,
    (logic.2.1 sameValues).target _ _ sameMembers, ?_⟩
  exact resolving.anyOf _ _ (.cons (.inl ⟨_, failing⟩) (.cons (.inr rfl) .nil))

end PolicyDecision
