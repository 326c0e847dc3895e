import PolicyDecision.MatchResult
import PolicyDecision.Proofs.Itemwise

/-!
# Three-valued logic of match results

A conjunction and a disjunction settle their members in one way, with the two truth
values exchanged. One member of the decisive truth value settles the result, whatever
the others are. Otherwise the first indeterminate member does, and without one all
members have the other truth value. What settles a list does not depend on the order or
the number of its members, and it stays when indeterminate members are resolved.
-/

namespace PolicyDecision

/-- Each item of either list is related to an item of the other one, in any order and
however often it occurs. -/
def SameMembers {α : Type} (relation : α → α → Prop) (items others : List α) : Prop :=
  (∀ item ∈ items, ∃ other ∈ others, relation item other) ∧
    ∀ other ∈ others, ∃ item ∈ items, relation item other

theorem SameMembers.map
    {α β : Type}
    {relation : α → α → Prop}
    {imageRelation : β → β → Prop}
    {view otherView : α → β}
    {items others : List α}
    (same : SameMembers relation items others)
    (viewed : ∀ item other, relation item other → imageRelation (view item) (otherView other)) :
    SameMembers imageRelation (items.map view) (others.map otherView) := by
  constructor
  · intro image isImage
    obtain ⟨item, member, rfl⟩ := List.mem_map.mp isImage
    obtain ⟨other, isOther, related⟩ := same.1 item member
    exact ⟨otherView other, List.mem_map_of_mem isOther, viewed item other related⟩
  · intro image isImage
    obtain ⟨other, member, rfl⟩ := List.mem_map.mp isImage
    obtain ⟨item, isItem, related⟩ := same.2 other member
    exact ⟨view item, List.mem_map_of_mem isItem, viewed item other related⟩

/-- Lists are related by equality when they have the same items. -/
theorem sameMembers_eq_iff {α : Type} {items others : List α} :
    SameMembers Eq items others ↔ ∀ item, item ∈ items ↔ item ∈ others := by
  simp only [SameMembers, exists_eq_right', exists_eq_right]
  exact ⟨fun covers item => ⟨covers.1 item, covers.2 item⟩,
    fun same => ⟨fun item => (same item).mp, fun item => (same item).mpr⟩⟩

namespace MatchResult

/-- The match result of a truth value. -/
def ofBool : Bool → MatchResult
  | true => .matched
  | false => .unmatched

/-- The status of an indeterminate result. -/
def failure? : MatchResult → Option Status
  | .indeterminate status => some status
  | _ => none

/-- The result is indeterminate, with any status. -/
def IsIndeterminate (result : MatchResult) : Prop :=
  ∃ status, result = .indeterminate status

/-- The two results are the same one of the three outcomes, with any statuses. -/
def SameOutcome (result other : MatchResult) : Prop :=
  result = other ∨ result.IsIndeterminate ∧ other.IsIndeterminate

/-- The result is resolved to another one: an indeterminate result to any, and a definite
one to itself. -/
def ResolvesTo (result resolved : MatchResult) : Prop :=
  result.IsIndeterminate ∨ resolved = result

/-- The result of several members of which one decisive truth value is enough to settle
it. Without that the first indeterminate member is the result. -/
structure SettledBy
    (decisive : Bool)
    (members : List MatchResult)
    (result : MatchResult) : Prop where
  decisive_iff : result = ofBool decisive ↔ ofBool decisive ∈ members
  neutral_iff : result = ofBool (!decisive) ↔ ∀ member ∈ members, member = ofBool (!decisive)
  indeterminate_iff : ∀ status, result = .indeterminate status ↔
    ofBool decisive ∉ members ∧
      ∃ before after, members = before ++ .indeterminate status :: after ∧
        ∀ member ∈ before, member = ofBool (!decisive)

/-- The result of a conjunction: a member that does not match settles it. -/
def IsConjunction (members : List MatchResult) (result : MatchResult) : Prop :=
  SettledBy false members result

/-- The result of a disjunction: a member that matches settles it. -/
def IsDisjunction (members : List MatchResult) (result : MatchResult) : Prop :=
  SettledBy true members result

/-! ## Outcomes -/

variable {decisive truth : Bool} {status : Status} {result other : MatchResult}
  {members others : List MatchResult}

theorem eq_ofBool_or_isIndeterminate (decisive : Bool) (result : MatchResult) :
    result = ofBool decisive ∨ result = ofBool (!decisive) ∨ result.IsIndeterminate := by
  cases result with
  | indeterminate status => exact .inr (.inr ⟨status, rfl⟩)
  | matched => cases decisive <;> simp [ofBool]
  | unmatched => cases decisive <;> simp [ofBool]

theorem not_isIndeterminate_ofBool (truth : Bool) : ¬(ofBool truth).IsIndeterminate := by
  rintro ⟨status, same⟩
  cases truth <;> cases same

theorem failure?_eq_none_iff (decisive : Bool) :
    result.failure? = none ↔ result = ofBool decisive ∨ result = ofBool (!decisive) := by
  cases decisive <;> cases result <;> simp [failure?, ofBool]

theorem failure?_eq_some_iff : result.failure? = some status ↔ result = .indeterminate status := by
  cases result <;> simp [failure?]

theorem SameOutcome.symm (same : result.SameOutcome other) : other.SameOutcome result :=
  same.imp Eq.symm And.symm

theorem SameOutcome.eq_ofBool
    (same : result.SameOutcome other)
    (definite : result = ofBool truth) : other = ofBool truth := by
  rcases same with rfl | ⟨unknown, -⟩
  · exact definite
  · exact absurd (definite ▸ unknown) (not_isIndeterminate_ofBool truth)

theorem ResolvesTo.eq_ofBool
    (resolves : result.ResolvesTo other)
    (definite : result = ofBool truth) : other = ofBool truth := by
  rcases resolves with unknown | rfl
  · exact absurd (definite ▸ unknown) (not_isIndeterminate_ofBool truth)
  · exact definite

/-! ## Conjunctions and disjunctions -/

/-- The result that a decisive truth value leaves, given the failure known before. -/
def settle (decisive : Bool) (failure : Option Status) (members : List MatchResult) :
    MatchResult :=
  if ofBool decisive ∈ members then ofBool decisive
  else (failure.or (members.findSome? failure?)).elim (ofBool (!decisive)) .indeterminate

theorem settle_cons_decisive
    (decisive : Bool)
    (failure : Option Status)
    (members : List MatchResult) :
    settle decisive failure (ofBool decisive :: members) = ofBool decisive :=
  if_pos List.mem_cons_self

theorem settle_cons_neutral (failure : Option Status) :
    settle decisive failure (ofBool (!decisive) :: members) =
      settle decisive failure members := by
  cases decisive <;> simp [settle, ofBool, failure?, List.findSome?_cons]

theorem settle_cons_indeterminate (failure : Option Status) :
    settle decisive failure (.indeterminate status :: members) =
      settle decisive (some (failure.getD status)) members := by
  cases decisive <;> cases failure <;> simp [settle, ofBool, failure?, List.findSome?_cons]

theorem allAfter_eq_settle (failure : Option Status) (members : List MatchResult) :
    allAfter failure members = settle false failure members := by
  fun_induction allAfter failure members with
  | case1 => rfl
  | case2 status => rfl
  | case3 failure rest => exact (settle_cons_decisive false failure rest).symm
  | case4 failure rest inductionHypothesis =>
      exact inductionHypothesis.trans (settle_cons_neutral failure).symm
  | case5 failure status rest inductionHypothesis =>
      exact inductionHypothesis.trans (settle_cons_indeterminate failure).symm

theorem anyAfter_eq_settle (failure : Option Status) (members : List MatchResult) :
    anyAfter failure members = settle true failure members := by
  fun_induction anyAfter failure members with
  | case1 => rfl
  | case2 status => rfl
  | case3 failure rest => exact (settle_cons_decisive true failure rest).symm
  | case4 failure rest inductionHypothesis =>
      exact inductionHypothesis.trans (settle_cons_neutral failure).symm
  | case5 failure status rest inductionHypothesis =>
      exact inductionHypothesis.trans (settle_cons_indeterminate failure).symm

theorem settledBy_of_mem (decided : ofBool decisive ∈ members) :
    SettledBy decisive members (ofBool decisive) := by
  have unlike : ofBool decisive ≠ ofBool (!decisive) := by cases decisive <;> decide
  refine ⟨iff_of_true rfl decided, iff_of_false unlike fun neutral => ?_, fun status =>
    iff_of_false (fun same => ?_) fun undecided => undecided.1 decided⟩
  · exact unlike (neutral _ decided)
  · exact not_isIndeterminate_ofBool decisive ⟨status, same⟩

/-- Without the decisive truth value the first failure is the result, if there is one. -/
theorem settledBy_of_not_mem (undecided : ofBool decisive ∉ members) :
    SettledBy decisive members
      ((members.findSome? failure?).elim (ofBool (!decisive)) .indeterminate) := by
  have neutral_iff : ∀ member ∈ members,
      member.failure? = none ↔ member = ofBool (!decisive) := by
    intro member isMember
    rw [failure?_eq_none_iff decisive]
    exact or_iff_right fun decides => undecided (decides ▸ isMember)
  refine ⟨iff_of_false ?_ undecided, ?_, fun status => ?_⟩
  · cases members.findSome? failure? <;> cases decisive <;> simp [ofBool]
  · have noFailure : (members.findSome? failure?).elim (ofBool (!decisive)) .indeterminate =
        ofBool (!decisive) ↔ members.findSome? failure? = none := by
      cases members.findSome? failure? <;> cases decisive <;> simp [ofBool]
    rw [noFailure, List.findSome?_eq_none_iff]
    exact forall₂_congr neutral_iff
  · have isFailure : (members.findSome? failure?).elim (ofBool (!decisive)) .indeterminate =
        .indeterminate status ↔ members.findSome? failure? = some status := by
      cases members.findSome? failure? <;> cases decisive <;> simp [ofBool]
    rw [isFailure, List.findSome?_eq_some_iff, and_iff_right undecided]
    constructor
    · rintro ⟨before, member, after, rfl, fails, passed⟩
      rw [failure?_eq_some_iff] at fails
      subst fails
      exact ⟨before, after, rfl, fun earlier isEarlier =>
        (neutral_iff earlier (List.mem_append_left _ isEarlier)).mp (passed earlier isEarlier)⟩
    · rintro ⟨before, after, rfl, passed⟩
      exact ⟨before, _, after, rfl, rfl, fun earlier isEarlier =>
        (neutral_iff earlier (List.mem_append_left _ isEarlier)).mpr (passed earlier isEarlier)⟩

theorem settledBy_settle (decisive : Bool) (members : List MatchResult) :
    SettledBy decisive members (settle decisive none members) := by
  by_cases decided : ofBool decisive ∈ members
  · rw [settle, if_pos decided]
    exact settledBy_of_mem decided
  · rw [settle, if_neg decided]
    exact settledBy_of_not_mem decided

theorem isConjunction_all (members : List MatchResult) : IsConjunction members (all members) := by
  rw [all, allAfter_eq_settle]
  exact settledBy_settle false members

theorem isDisjunction_any (members : List MatchResult) : IsDisjunction members (any members) := by
  rw [any, anyAfter_eq_settle]
  exact settledBy_settle true members

/-! ## Members in another order and resolved members -/

namespace SettledBy

/-- Rearranged members have the same outcome. -/
theorem sameOutcome
    (settled : SettledBy decisive members result)
    (otherSettled : SettledBy decisive others other)
    (same : SameMembers SameOutcome members others) :
    result.SameOutcome other := by
  have decisive_iff : result = ofBool decisive ↔ other = ofBool decisive := by
    rw [settled.decisive_iff, otherSettled.decisive_iff]
    constructor
    · intro decides
      obtain ⟨member, isMember, alike⟩ := same.1 _ decides
      exact alike.eq_ofBool rfl ▸ isMember
    · intro decides
      obtain ⟨member, isMember, alike⟩ := same.2 _ decides
      exact alike.symm.eq_ofBool rfl ▸ isMember
  have neutral_iff : result = ofBool (!decisive) ↔ other = ofBool (!decisive) := by
    rw [settled.neutral_iff, otherSettled.neutral_iff]
    constructor
    · intro neutral member isMember
      obtain ⟨earlier, isEarlier, alike⟩ := same.2 member isMember
      exact alike.eq_ofBool (neutral earlier isEarlier)
    · intro neutral member isMember
      obtain ⟨later, isLater, alike⟩ := same.1 member isMember
      exact alike.symm.eq_ofBool (neutral later isLater)
  rcases result.eq_ofBool_or_isIndeterminate decisive with decides | neutral | unknown
  · exact .inl (decides.trans (decisive_iff.mp decides).symm)
  · exact .inl (neutral.trans (neutral_iff.mp neutral).symm)
  · rcases other.eq_ofBool_or_isIndeterminate decisive with decides | neutral | otherUnknown
    · exact .inl ((decisive_iff.mpr decides).trans decides.symm)
    · exact .inl ((neutral_iff.mpr neutral).trans neutral.symm)
    · exact .inr ⟨unknown, otherUnknown⟩

/-- A definite result stays when members are resolved. -/
theorem resolvesTo
    (settled : SettledBy decisive members result)
    (otherSettled : SettledBy decisive others other)
    (resolves : List.Forall₂ ResolvesTo members others) :
    result.ResolvesTo other := by
  rcases result.eq_ofBool_or_isIndeterminate decisive with decides | neutral | unknown
  · right
    have member := settled.decisive_iff.mp decides
    obtain ⟨resolved, isResolved, resolvesMember⟩ :=
      exists_of_forall₂_of_mem resolves.flip member
    rw [decides, otherSettled.decisive_iff, ← ResolvesTo.eq_ofBool resolvesMember rfl]
    exact isResolved
  · right
    rw [neutral, otherSettled.neutral_iff]
    intro resolved isResolved
    obtain ⟨member, isMember, resolvesMember⟩ := exists_of_forall₂_of_mem resolves isResolved
    exact resolvesMember.eq_ofBool (settled.neutral_iff.mp neutral member isMember)
  · exact .inl unknown

end SettledBy
end MatchResult
end PolicyDecision
