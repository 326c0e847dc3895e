import Mathlib.Data.Finset.Defs
import PolicyDecision.Proofs.Combining.Overrides
import PolicyDecision.Proofs.Itemwise

/-!
# Reach of combined decisions

An indeterminate child stands for every outcome that it leaves within reach. The
overrides algorithms combine children to the narrowest decision that still leaves
within reach all the outcomes that the children could have been combined to.
-/

namespace PolicyDecision

/-- A child is resolved to one whose outcome it leaves within reach. -/
def Candidate.ResolvesTo (candidate resolved : Candidate) : Prop :=
  resolved.decision ∈ candidate.decision.reach

/-- A child that applies with a decision and attaches nothing to it. -/
def Candidate.deciding (decision : Decision) : Candidate where
  target := .pure .matched
  outcome := .pure (.ok (.ofDecision decision))

/-- The combined decisions over all ways to resolve the children. -/
def CombiningAlgorithm.resolutions
    (algorithm : CombiningAlgorithm)
    (candidates : List Candidate) : Set Decision :=
  {outcome | ∃ resolved, List.Forall₂ Candidate.ResolvesTo candidates resolved ∧
    (algorithm.combine resolved).result.decision = outcome}

/-! ## Resolved decisions -/

namespace Decision

section Picks

variable
  {decisions picks : List Decision}
  (picked : List.Forall₂ (fun decision pick => pick ∈ decision.reach) decisions picks)

include picked

/-- A definite decision can only be picked to be itself. -/
theorem mem_picks_of_isDefinite
    {decision : Decision}
    (definite : decision.isDefinite = true)
    (member : decision ∈ decisions) :
    decision ∈ picks := by
  induction picked with
  | nil => cases member
  | cons reached _ inductionHypothesis =>
      rcases List.mem_cons.mp member with rfl | later
      · have itself : _ = decision := eq_of_mem_reach_of_isDefinite definite reached
        exact itself ▸ List.mem_cons_self
      · exact List.mem_cons_of_mem _ (inductionHypothesis later)

end Picks

/-- The decisions that let some definite outcome be picked. -/
theorem exists_mem_reach_iff
    {outcome : Decision}
    (definite : outcome.isDefinite = true)
    {decisions : List Decision} :
    (∃ decision ∈ decisions, outcome ∈ decision.reach) ↔
      outcome ∈ decisions ∨ outcome.asIndeterminate ∈ decisions ∨
        .indeterminate ∈ decisions ∨ .indeterminateDenyPermit ∈ decisions := by
  simp only [mem_reach_iff definite]
  constructor
  · rintro ⟨decision, occurs, rfl | rfl | rfl | rfl⟩
    · exact .inl occurs
    · exact .inr (.inl occurs)
    · exact .inr (.inr (.inl occurs))
    · exact .inr (.inr (.inr occurs))
  · rintro (occurs | occurs | occurs | occurs)
    · exact ⟨_, occurs, .inl rfl⟩
    · exact ⟨_, occurs, .inr (.inl rfl)⟩
    · exact ⟨_, occurs, .inr (.inr (.inl rfl))⟩
    · exact ⟨_, occurs, .inr (.inr (.inr rfl))⟩

/-- The overriding outcome is within reach as soon as one decision allows it. -/
theorem overriding_mem_reach_overridden
    {overriding : Decision}
    (definite : overriding.isDefinite = true)
    (decisions : List Decision) :
    overriding ∈ (overridden overriding decisions).reach ↔
      ∃ decision ∈ decisions, overriding ∈ decision.reach := by
  rw [exists_mem_reach_iff definite]
  unfold overridden
  rcases permit_or_deny_of_isDefinite definite with rfl | rfl <;>
    split_ifs <;> simp_all [reach, asIndeterminate, otherDefinite]

/-- The other outcome is within reach as soon as one decision allows it, unless
the overriding one is certain. -/
theorem other_mem_reach_overridden
    {overriding : Decision}
    (definite : overriding.isDefinite = true)
    (decisions : List Decision) :
    overriding.otherDefinite ∈ (overridden overriding decisions).reach ↔
      overriding ∉ decisions ∧
        ∃ decision ∈ decisions, overriding.otherDefinite ∈ decision.reach := by
  rw [exists_mem_reach_iff overriding.otherDefinite_isDefinite]
  unfold overridden
  rcases permit_or_deny_of_isDefinite definite with rfl | rfl <;>
    split_ifs <;> simp_all [reach, asIndeterminate, otherDefinite]

/-- That nothing applies is within reach when no definite outcome is certain, and
also where the reach spans both definite ones. -/
theorem notApplicable_mem_reach_overridden
    {overriding : Decision}
    (definite : overriding.isDefinite = true)
    (decisions : List Decision) :
    .notApplicable ∈ (overridden overriding decisions).reach ↔
      overriding ∉ decisions ∧
        (overriding.otherDefinite ∉ decisions ∨
          ∃ decision ∈ decisions, overriding ∈ decision.reach) := by
  rw [exists_mem_reach_iff definite]
  unfold overridden
  rcases permit_or_deny_of_isDefinite definite with rfl | rfl <;>
    split_ifs <;> simp_all [reach, asIndeterminate, otherDefinite]

/-- The precedence among decisions without errors. -/
theorem overridden_of_resolved
    {overriding : Decision}
    (definite : overriding.isDefinite = true)
    {picks : List Decision}
    (resolved : ∀ pick ∈ picks, pick.isIndeterminate = false) :
    overridden overriding picks =
      if overriding ∈ picks then overriding
      else if overriding.otherDefinite ∈ picks then overriding.otherDefinite
      else .notApplicable := by
  have absent {decision : Decision} (indeterminate : decision.isIndeterminate = true) :
      decision ∉ picks := by
    intro member
    rw [resolved decision member] at indeterminate
    cases indeterminate
  have towardsAbsent := absent (asIndeterminate_isIndeterminate definite)
  have awayAbsent :=
    absent (asIndeterminate_isIndeterminate overriding.otherDefinite_isDefinite)
  have bothAbsent :
      ¬(.indeterminate ∈ picks ∨ .indeterminateDenyPermit ∈ picks) :=
    not_or_intro (absent rfl) (absent rfl)
  rw [overridden, if_neg bothAbsent, if_neg towardsAbsent, if_neg awayAbsent]

/-- The outcome of any picks is within reach of the decision that the picks were
made for. -/
theorem overridden_mem_reach_overridden
    {overriding : Decision}
    (definite : overriding.isDefinite = true)
    {decisions picks : List Decision}
    (picked : List.Forall₂ (fun decision pick => pick ∈ decision.reach) decisions picks) :
    overridden overriding picks ∈ (overridden overriding decisions).reach := by
  have resolved : ∀ pick ∈ picks, pick.isIndeterminate = false := by
    intro pick member
    obtain ⟨_, _, reached⟩ := exists_of_forall₂_of_mem picked member
    exact isIndeterminate_of_mem_reach reached
  have uncertain
      {outcome : Decision} (isDefinite : outcome.isDefinite = true)
      (absent : outcome ∉ picks) : outcome ∉ decisions :=
    fun certain => absent (mem_picks_of_isDefinite picked isDefinite certain)
  rw [overridden_of_resolved definite resolved]
  split_ifs with overrides others
  · exact (overriding_mem_reach_overridden definite decisions).mpr
      (exists_of_forall₂_of_mem picked overrides)
  · exact (other_mem_reach_overridden definite decisions).mpr
      ⟨uncertain definite overrides, exists_of_forall₂_of_mem picked others⟩
  · exact (notApplicable_mem_reach_overridden definite decisions).mpr
      ⟨uncertain definite overrides,
        .inl (uncertain overriding.otherDefinite_isDefinite others)⟩

/-! ## Preferred outcomes -/

/-- The outcome itself where it is within reach, and otherwise that nothing
applies where that is. -/
def prefer (outcome decision : Decision) : Decision :=
  if outcome ∈ decision.reach then outcome
  else if .notApplicable ∈ decision.reach then .notApplicable
  else decision

theorem prefer_mem_reach (outcome decision : Decision) :
    prefer outcome decision ∈ decision.reach := by
  unfold prefer
  split_ifs with reached inapplicable
  · exact reached
  · exact inapplicable
  · cases decision <;> simp_all [reach]

/-- A definite outcome other than the preferred one is only picked where it is
certain. -/
theorem eq_of_prefer_eq
    {outcome preferred decision : Decision}
    (definite : outcome.isDefinite = true)
    (different : outcome ≠ preferred)
    (picked : prefer preferred decision = outcome) :
    decision = outcome := by
  unfold prefer at picked
  split_ifs at picked with reached inapplicable
  · exact absurd picked.symm different
  · rw [← picked] at definite
    cases definite
  · exact picked

theorem not_mem_map_prefer
    {outcome preferred : Decision}
    (definite : outcome.isDefinite = true)
    (different : outcome ≠ preferred)
    {decisions : List Decision}
    (uncertain : outcome ∉ decisions) :
    outcome ∉ decisions.map (prefer preferred) := by
  intro member
  obtain ⟨decision, occurs, picked⟩ := List.mem_map.mp member
  exact uncertain (eq_of_prefer_eq definite different picked ▸ occurs)

theorem mem_map_prefer
    {outcome : Decision}
    {decisions : List Decision}
    (reached : ∃ decision ∈ decisions, outcome ∈ decision.reach) :
    outcome ∈ decisions.map (prefer outcome) := by
  obtain ⟨decision, occurs, reaches⟩ := reached
  exact List.mem_map.mpr ⟨decision, occurs, if_pos reaches⟩

/-- An outcome within reach comes about when every decision that can prefers it,
or else it is that nothing applies and both definite outcomes are within reach. -/
theorem overridden_map_prefer
    {overriding : Decision}
    (definite : overriding.isDefinite = true)
    {decisions : List Decision}
    {outcome : Decision}
    (reached : outcome ∈ (overridden overriding decisions).reach) :
    overridden overriding (decisions.map (prefer outcome)) = outcome ∨
      outcome = .notApplicable ∧
        overriding ∈ (overridden overriding decisions).reach ∧
        overriding.otherDefinite ∈ (overridden overriding decisions).reach := by
  have otherDefinite := overriding.otherDefinite_isDefinite
  have resolved : ∀ pick ∈ decisions.map (prefer outcome), pick.isIndeterminate = false := by
    intro pick member
    obtain ⟨decision, _, rfl⟩ := List.mem_map.mp member
    exact isIndeterminate_of_mem_reach (prefer_mem_reach outcome decision)
  rw [overridden_of_resolved definite resolved]
  rcases eq_of_mem_reach definite reached with rfl | rfl | rfl
  · left
    rw [overriding_mem_reach_overridden definite] at reached
    rw [if_pos (mem_map_prefer reached)]
  · left
    obtain ⟨uncertain, possible⟩ := (other_mem_reach_overridden definite _).mp reached
    rw [if_neg (not_mem_map_prefer definite (ne_otherDefinite definite) uncertain),
      if_pos (mem_map_prefer possible)]
  · obtain ⟨uncertain, cause⟩ := (notApplicable_mem_reach_overridden definite _).mp reached
    by_cases otherCertain : overriding.otherDefinite ∈ decisions
    · right
      have possible := cause.resolve_left (not_not_intro otherCertain)
      refine ⟨rfl, (overriding_mem_reach_overridden definite _).mpr possible, ?_⟩
      exact (other_mem_reach_overridden definite _).mpr
        ⟨uncertain, _, otherCertain, (mem_reach_iff otherDefinite).mpr (.inl rfl)⟩
    · left
      rw [if_neg (not_mem_map_prefer definite (ne_notApplicable definite) uncertain),
        if_neg (not_mem_map_prefer otherDefinite (ne_notApplicable otherDefinite)
          otherCertain)]

end Decision

/-! ## Resolved children -/

theorem Candidate.picked_of_resolves
    {candidates resolved : List Candidate}
    (resolves : List.Forall₂ ResolvesTo candidates resolved) :
    List.Forall₂ (fun decision pick => pick ∈ decision.reach)
      (candidates.map decision) (resolved.map decision) := by
  rw [List.forall₂_map_left_iff, List.forall₂_map_right_iff]
  exact resolves

namespace CombiningAlgorithm

/-- Children that make the same choice within reach of their decisions are a way
to resolve them. -/
theorem mem_resolutions_of_choice
    (algorithm : CombiningAlgorithm)
    {choice : Decision → Decision}
    (within : ∀ decision : Decision, choice decision ∈ decision.reach)
    (candidates : List Candidate) :
    (algorithm.combine (candidates.map fun candidate =>
        .deciding (choice candidate.decision))).result.decision ∈
      algorithm.resolutions candidates := by
  refine ⟨_, ?_, rfl⟩
  rw [List.forall₂_map_right_iff, List.forall₂_same]
  intro candidate _
  exact within candidate.decision

theorem decision_deciding (choice : Decision → Decision) (candidates : List Candidate) :
    (candidates.map fun candidate =>
        Candidate.deciding (choice candidate.decision)).map Candidate.decision =
      (candidates.map Candidate.decision).map choice := by
  rw [List.map_map, List.map_map]
  rfl

/-! ## Overrides algorithms -/

section Overriding

variable
  {algorithm : CombiningAlgorithm}
  {overriding : Decision}
  (overrides : algorithm.overriding? = some overriding)

include overrides

/-- The reach of a combined decision only depends on the decisions of the
children. -/
theorem reach_combine_overriding (candidates : List Candidate) :
    (algorithm.combine candidates).result.decision.reach =
      (Decision.overridden overriding (candidates.map Candidate.decision)).reach := by
  rw [← unified_decision_combine_overriding overrides candidates, Decision.reach_unified]

/-- Every resolution is within reach of the combined decision. -/
theorem resolutions_subset_reach (candidates : List Candidate) :
    algorithm.resolutions candidates ⊆
      ((algorithm.combine candidates).result.decision.reach : Set Decision) := by
  rintro outcome ⟨resolved, resolves, rfl⟩
  have reached :=
    Decision.overridden_mem_reach_overridden (isDefinite_of_overriding overrides)
      (Candidate.picked_of_resolves resolves)
  have decided :=
    Decision.eq_of_unified_eq (unified_decision_combine_overriding overrides resolved)
      (Decision.isIndeterminate_of_mem_reach reached)
  rw [Finset.mem_coe, decided, reach_combine_overriding overrides]
  exact reached

/-- An outcome is a resolution when it comes about as every child that can
prefers it. -/
theorem mem_resolutions_of_preferred
    {candidates : List Candidate}
    {preferred : Decision}
    (determinate : preferred.isIndeterminate = false)
    (comesAbout :
      Decision.overridden overriding
        ((candidates.map Candidate.decision).map (Decision.prefer preferred)) = preferred) :
    preferred ∈ algorithm.resolutions candidates := by
  have chosen := unified_decision_combine_overriding overrides
    (candidates.map fun candidate =>
      .deciding (Decision.prefer preferred candidate.decision))
  rw [decision_deciding, comesAbout] at chosen
  rw [← Decision.eq_of_unified_eq chosen determinate]
  exact mem_resolutions_of_choice algorithm (Decision.prefer_mem_reach preferred) candidates

/-- Every outcome within reach of the combined decision is a resolution, except
that nothing may apply only because both definite outcomes are resolutions. -/
theorem mem_resolutions_of_mem_reach
    {candidates : List Candidate}
    {outcome : Decision}
    (reached : outcome ∈ (algorithm.combine candidates).result.decision.reach) :
    outcome ∈ algorithm.resolutions candidates ∨
      overriding ∈ algorithm.resolutions candidates ∧
        overriding.otherDefinite ∈ algorithm.resolutions candidates := by
  have definite := isDefinite_of_overriding overrides
  rw [reach_combine_overriding overrides] at reached
  have definiteResolves
      {preferred : Decision}
      (isDefinite : preferred.isDefinite = true)
      (possible :
        preferred ∈
          (Decision.overridden overriding (candidates.map Candidate.decision)).reach) :
      preferred ∈ algorithm.resolutions candidates := by
    apply mem_resolutions_of_preferred overrides
      (Decision.isIndeterminate_of_mem_reach possible)
    rcases Decision.overridden_map_prefer definite possible with comesAbout | ⟨rfl, _, _⟩
    · exact comesAbout
    · cases isDefinite
  rcases Decision.overridden_map_prefer definite reached with
    comesAbout | ⟨_, overridingReached, otherReached⟩
  · left
    exact mem_resolutions_of_preferred overrides
      (Decision.isIndeterminate_of_mem_reach reached) comesAbout
  · right
    exact ⟨definiteResolves definite overridingReached,
      definiteResolves overriding.otherDefinite_isDefinite otherReached⟩

end Overriding

/-- An overrides algorithm combines children to the narrowest decision that
leaves within reach every outcome the children can be resolved to. -/
theorem reach_combine_overriding_isLeast
    {algorithm : CombiningAlgorithm}
    {overriding : Decision}
    (overrides : algorithm.overriding? = some overriding)
    (candidates : List Candidate) :
    algorithm.resolutions candidates ⊆
        ((algorithm.combine candidates).result.decision.reach : Set Decision) ∧
      ∀ decision : Decision,
        algorithm.resolutions candidates ⊆ (decision.reach : Set Decision) →
          (algorithm.combine candidates).result.decision.reach ⊆ decision.reach := by
  refine ⟨resolutions_subset_reach overrides candidates, ?_⟩
  intro decision contains outcome reached
  rcases mem_resolutions_of_mem_reach overrides reached with resolution | ⟨towards, away⟩
  · exact contains resolution
  · exact Decision.mem_reach_of_both (isDefinite_of_overriding overrides)
      (contains towards) (contains away) (Decision.isIndeterminate_of_mem_reach reached)

/-- A permit beside an error that may have hidden a denial. -/
theorem reach_combine_denyOverrides_isLeast :
    denyOverrides.overriding? = some .deny ∧
      denyOverrides.resolutions [.deciding .permit, .deciding .indeterminateDeny] ⊆
        (Decision.indeterminateDenyPermit.reach : Set Decision) ∧
      ∀ decision : Decision,
        denyOverrides.resolutions [.deciding .permit, .deciding .indeterminateDeny] ⊆
            (decision.reach : Set Decision) →
          Decision.indeterminateDenyPermit.reach ⊆ decision.reach :=
  ⟨rfl, reach_combine_overriding_isLeast (show denyOverrides.overriding? = some .deny from rfl)
    [.deciding .permit, .deciding .indeterminateDeny]⟩

end CombiningAlgorithm
end PolicyDecision
