import Mathlib.Data.List.Chain
import Mathlib.Data.List.Perm.Subperm
import Mathlib.Tactic.SplitIfs
import PolicyDecision.Store.ReferenceCheck

/-!
# Exactness of the reference check

The search for a cycle of references is exact. An identifier is finished only
when every chain of references from it comes to an end, and a search that fails
reports a walk along references that ends where it has been before.
-/

namespace PolicyDecision

/-- A fold that fails fails at one of its items. -/
theorem exists_of_foldlM_error
    {α σ ε : Type}
    {step : σ → α → Except ε σ}
    {items : List α}
    {start : σ}
    {fault : ε}
    (failed : items.foldlM step start = .error fault) :
    ∃ item ∈ items, ∃ state, step state item = .error fault := by
  induction items generalizing start with
  | nil => cases failed
  | cons item rest inductionHypothesis =>
      rw [List.foldlM_cons] at failed
      cases stepped : step start item with
      | error reported =>
          rw [stepped] at failed
          cases failed
          exact ⟨item, List.mem_cons_self, start, stepped⟩
      | ok state =>
          rw [stepped] at failed
          obtain ⟨later, member, rest⟩ := inductionHypothesis failed
          exact ⟨later, List.mem_cons_of_mem _ member, rest⟩

namespace ReferenceCheck

/-- One identifier refers to another one. -/
def Refers (references : String → Option (List String)) (id target : String) : Prop :=
  ∃ targets, references id = some targets ∧ target ∈ targets

/-- Some identifier leads back to itself along references. -/
def Cyclic (references : String → Option (List String)) : Prop :=
  ∃ id, Relation.TransGen (Refers references) id id

/-- Every chain of references from an identifier comes to an end. -/
def Ends (references : String → Option (List String)) : String → Prop :=
  Acc fun target id => Refers references id target

/-- The identifiers are those with references, and references lead to no other
ones. -/
structure Covers (references : String → Option (List String)) (ids : List String) : Prop where
  mem_iff : ∀ id, id ∈ ids ↔ (references id).isSome
  closed : ∀ id target, Refers references id target → target ∈ ids

/-- A walk along references whose last identifier occurs in it before. -/
def Loops (references : String → Option (List String)) (chain : List String) : Prop :=
  chain.IsChain (Refers references) ∧ ∃ walk last, chain = walk ++ [last] ∧ last ∈ walk

variable {references : String → Option (List String)} {ids : List String}

theorem not_transGen_of_ends {id : String} (ends : Ends references id) :
    ¬Relation.TransGen (Refers references) id id := by
  induction ends with
  | intro id _ inductionHypothesis =>
      intro cycle
      obtain ⟨target, refers, returns⟩ := Relation.TransGen.head'_iff.mp cycle
      exact inductionHypothesis target refers (Relation.TransGen.tail' returns refers)

theorem cyclic_of_loops {chain : List String} (loops : Loops references chain) :
    Cyclic references := by
  obtain ⟨isWalk, walk, last, rfl, before⟩ := loops
  obtain ⟨earlier, later, rfl⟩ := List.append_of_mem before
  rw [List.append_assoc, List.cons_append] at isWalk
  obtain ⟨first, rest⟩ := List.isChain_cons.mp isWalk.right_of_append
  have nonempty : later ++ [last] ≠ [] := by simp
  refine ⟨last, Relation.TransGen.head' (first _ (List.head?_eq_some_head nonempty)) ?_⟩
  simpa using List.relationReflTransGen_of_exists_isChain _ rest nonempty

/-! ## One visit -/

/-- An accepted visit finds its identifier finished, or has no references to
follow, or visits all targets and finishes the identifier. -/
theorem visit_ok_cases
    {depth : Nat}
    {path finished visited : List String}
    {id : String}
    (accepted : visit references depth path finished id = .ok visited) :
    (id ∈ finished ∧ visited = finished) ∨
      (id ∉ path ∧ (depth = 0 ∨ references id = none) ∧ visited = finished) ∨
      id ∉ path ∧ ∃ remaining targets after, depth = remaining + 1 ∧
        references id = some targets ∧
        targets.foldlM (visit references remaining (id :: path)) finished = .ok after ∧
        visited = id :: after := by
  cases depth with
  | zero =>
      unfold visit at accepted
      split_ifs at accepted with known again
      · cases accepted
        exact .inl ⟨by simpa using known, rfl⟩
      · cases accepted
        exact .inr (.inl ⟨by simpa using again, .inl rfl, rfl⟩)
  | succ remaining =>
      unfold visit at accepted
      split_ifs at accepted with known again
      · cases accepted
        exact .inl ⟨by simpa using known, rfl⟩
      · have fresh : id ∉ path := by simpa using again
        cases refers : references id with
        | none =>
            simp only [refers] at accepted
            cases accepted
            exact .inr (.inl ⟨fresh, .inr rfl, rfl⟩)
        | some targets =>
            simp only [refers] at accepted
            split at accepted
            · rename_i after folded
              cases accepted
              exact .inr (.inr ⟨fresh, remaining, targets, after, rfl, rfl, folded, rfl⟩)
            · cases accepted

/-- A visit fails at an identifier of its path or at a target. -/
theorem visit_error_cases
    {depth : Nat}
    {path finished chain : List String}
    {id : String}
    (failed : visit references depth path finished id = .error chain) :
    (id ∈ path ∧ chain = (id :: path).reverse) ∨
      ∃ remaining targets, depth = remaining + 1 ∧ references id = some targets ∧
        targets.foldlM (visit references remaining (id :: path)) finished = .error chain := by
  cases depth with
  | zero =>
      unfold visit at failed
      split_ifs at failed with known again
      cases failed
      exact .inl ⟨by simpa using again, rfl⟩
  | succ remaining =>
      unfold visit at failed
      split_ifs at failed with known again
      · cases failed
        exact .inl ⟨by simpa using again, rfl⟩
      · cases refers : references id with
        | none =>
            simp only [refers] at failed
            cases failed
        | some targets =>
            simp only [refers] at failed
            split at failed
            · cases failed
            · rename_i reported folded
              cases failed
              exact .inr ⟨remaining, targets, rfl, rfl, folded⟩

/-! ## Accepted searches -/

/-- The identifiers finished after a visit of targets: those finished before and
the targets, from all of which every chain of references comes to an end. -/
structure Completes
    (references : String → Option (List String))
    (finished targets visited : List String) : Prop where
  kept : finished ⊆ visited
  reached : targets ⊆ visited
  ends : ∀ id ∈ visited, Ends references id

/-- Visits that complete each target complete all of them in turn. -/
theorem completes_of_foldlM_ok
    {step : List String → String → Except (List String) (List String)}
    {targets finished visited : List String}
    (each : ∀ target ∈ targets, ∀ {before after}, (∀ id ∈ before, Ends references id) →
      step before target = .ok after → Completes references before [target] after)
    (ends : ∀ id ∈ finished, Ends references id)
    (accepted : targets.foldlM step finished = .ok visited) :
    Completes references finished targets visited := by
  induction targets generalizing finished with
  | nil =>
      cases accepted
      exact ⟨List.Subset.refl _, List.nil_subset _, ends⟩
  | cons target rest inductionHypothesis =>
      rw [List.foldlM_cons] at accepted
      cases stepped : step finished target with
      | error chain =>
          rw [stepped] at accepted
          cases accepted
      | ok between =>
          rw [stepped] at accepted
          have first := each target List.mem_cons_self ends stepped
          have others := inductionHypothesis
            (fun later member => each later (List.mem_cons_of_mem _ member)) first.ends accepted
          have reached : target ∈ visited := others.kept (first.reached List.mem_cons_self)
          exact ⟨List.Subset.trans first.kept others.kept,
            List.cons_subset.mpr ⟨reached, others.reached⟩, others.ends⟩

/-- An accepted visit completes its identifier. -/
theorem completes_of_visit_ok
    (covers : Covers references ids)
    {depth : Nat}
    {path finished visited : List String}
    {id : String}
    (room : ids.length ≤ path.length + depth)
    (distinct : path.Nodup)
    (within : path ⊆ ids)
    (member : id ∈ ids)
    (ends : ∀ done ∈ finished, Ends references done)
    (accepted : visit references depth path finished id = .ok visited) :
    Completes references finished [id] visited := by
  induction depth generalizing path finished visited id with
  | zero =>
      rcases visit_ok_cases accepted with ⟨known, rfl⟩ | ⟨fresh, -, -⟩ | ⟨-, _, _, _, ⟨⟩, -⟩
      · exact ⟨List.Subset.refl _, by simpa using known, ends⟩
      · -- The path already has the length of all identifiers, so none is fresh.
        have longer : (id :: path).Nodup := List.nodup_cons.mpr ⟨fresh, distinct⟩
        have fits := (List.subperm_of_subset longer
          (List.cons_subset.mpr ⟨member, within⟩)).length_le
        simp only [List.length_cons] at fits
        omega
  | succ depth inductionHypothesis =>
      rcases visit_ok_cases accepted with
        ⟨known, rfl⟩ | ⟨-, absurdDepth | unknown, -⟩ |
          ⟨fresh, remaining, targets, after, sameDepth, refers, folded, rfl⟩
      · exact ⟨List.Subset.refl _, by simpa using known, ends⟩
      · cases absurdDepth
      · rw [covers.mem_iff, unknown] at member
        cases member
      · cases sameDepth
        have completes : Completes references finished targets after := by
          refine completes_of_foldlM_ok (fun target isTarget => ?_) ends folded
          exact inductionHypothesis (by simp only [List.length_cons]; omega)
            (List.nodup_cons.mpr ⟨fresh, distinct⟩) (List.cons_subset.mpr ⟨member, within⟩)
            (covers.closed id target ⟨targets, refers, isTarget⟩)
        have idEnds : Ends references id := by
          refine Acc.intro id fun target refersTo => ?_
          obtain ⟨sameTargets, same, isTarget⟩ := refersTo
          rw [refers] at same
          cases same
          exact completes.ends target (completes.reached isTarget)
        refine ⟨List.subset_cons_of_subset id completes.kept, by simp, ?_⟩
        exact List.forall_mem_cons.mpr ⟨idEnds, completes.ends⟩

/-! ## Failed searches -/

/-- A failed visit at the end of a walk reports a walk that loops. -/
theorem loops_of_visit_error
    {depth : Nat}
    {path finished chain : List String}
    {id : String}
    (isWalk : (id :: path).IsChain fun later earlier => Refers references earlier later)
    (failed : visit references depth path finished id = .error chain) :
    Loops references chain := by
  induction depth generalizing path finished id with
  | zero =>
      rcases visit_error_cases failed with ⟨again, rfl⟩ | ⟨_, _, ⟨⟩, -⟩
      exact ⟨List.isChain_reverse.mpr isWalk, path.reverse, id, by simp, by simpa using again⟩
  | succ depth inductionHypothesis =>
      rcases visit_error_cases failed with
        ⟨again, rfl⟩ | ⟨remaining, targets, sameDepth, refers, folded⟩
      · exact ⟨List.isChain_reverse.mpr isWalk, path.reverse, id, by simp, by simpa using again⟩
      · cases sameDepth
        obtain ⟨target, isTarget, before, stuck⟩ := exists_of_foldlM_error folded
        exact inductionHypothesis
          (List.isChain_cons_cons.mpr ⟨⟨targets, refers, isTarget⟩, isWalk⟩) stuck

/-- A failed search reports a walk that loops. -/
theorem loops_of_visitAll_error
    {chain : List String}
    (failed : visitAll references ids = .error chain) :
    Loops references chain := by
  obtain ⟨id, -, before, stuck⟩ := exists_of_foldlM_error failed
  exact loops_of_visit_error (List.isChain_singleton id) stuck

/-- After an accepted search every chain of references comes to an end. -/
theorem ends_of_visitAll_ok
    (covers : Covers references ids)
    {visited : List String}
    (accepted : visitAll references ids = .ok visited)
    (id : String) : Ends references id := by
  have completes : Completes references [] ids visited := by
    refine completes_of_foldlM_ok (fun id member => ?_) (by simp) accepted
    exact completes_of_visit_ok covers (by simp) List.nodup_nil (List.nil_subset _) member
  by_cases member : id ∈ ids
  · exact completes.ends id (completes.reached member)
  · refine Acc.intro id fun target refersTo => ?_
    obtain ⟨targets, refers, -⟩ := refersTo
    exact absurd ((covers.mem_iff id).mpr (by simp [refers])) member

/-- The search is accepted exactly when no identifier leads back to itself. -/
theorem visitAll_isOk_iff (covers : Covers references ids) :
    (∃ visited, visitAll references ids = .ok visited) ↔ ¬Cyclic references := by
  constructor
  · rintro ⟨visited, accepted⟩ ⟨id, cycle⟩
    exact not_transGen_of_ends (ends_of_visitAll_ok covers accepted id) cycle
  · intro acyclic
    cases searched : visitAll references ids with
    | ok visited => exact ⟨visited, rfl⟩
    | error chain => exact absurd (cyclic_of_loops (loops_of_visitAll_error searched)) acyclic

end ReferenceCheck
end PolicyDecision
