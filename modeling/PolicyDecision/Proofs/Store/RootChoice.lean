import Mathlib.Data.List.Duplicate
import PolicyDecision.Proofs.Store.Loading

/-!
# The choice of a root

The roots whose targets are not unmatched apply to a request, and one of them is
chosen when it stands alone. The choice goes by the list of roots, so a root that
the list repeats competes with itself; that is the only way in which the choice
depends on more than which roots apply.
-/

namespace PolicyDecision

/-- The target of a definition does not rule a request out. -/
def Definition.Applies (request : IndividualRequest) (root : Definition) : Prop :=
  root.targetMatch request.attributeValues ≠ .unmatched

instance (request : IndividualRequest) : DecidablePred (Definition.Applies request) :=
  fun root => inferInstanceAs (Decidable (root.targetMatch request.attributeValues ≠ .unmatched))

namespace Store

variable {store : Store} {request : IndividualRequest}

/-- The roots that apply, in order. -/
def applicableRoots (store : Store) (request : IndividualRequest) : List Definition :=
  store.roots.filter fun root => root.Applies request

theorem mem_applicableRoots {root : Definition} :
    root ∈ store.applicableRoots request ↔ root ∈ store.roots ∧ root.Applies request := by
  rw [applicableRoots, List.mem_filter, decide_eq_true_eq]

/-- The choice among the roots that apply. -/
def chooseAmong : List Definition → RootLookup Definition
  | [] => .notFound
  | [root] => .found root
  | _ => .failed moreThanOneRoot

theorem chooseAmong_eq_found_iff {roots : List Definition} {root : Definition} :
    chooseAmong roots = .found root ↔ roots = [root] := by
  fun_cases chooseAmong roots <;>
    simp_all [RootLookup.found, RootLookup.notFound, RootLookup.failed]

theorem chooseAmong_eq_notFound_iff {roots : List Definition} :
    chooseAmong roots = .notFound ↔ roots = [] := by
  fun_cases chooseAmong roots with
  | case1 => simp
  | case2 root => simp [RootLookup.found, RootLookup.notFound]
  | case3 roots several =>
      exact ⟨fun chosen => absurd (congrArg RootLookup.status chosen) (by decide),
        fun none => (several none).elim⟩

theorem chooseAmong_eq_failed_iff {roots : List Definition} :
    chooseAmong roots = .failed moreThanOneRoot ↔ 2 ≤ roots.length := by
  match roots with
  | [] => exact ⟨fun chosen => absurd (congrArg RootLookup.status chosen) (by decide), nofun⟩
  | [root] => simp [chooseAmong, RootLookup.found, RootLookup.failed]
  | first :: second :: rest => simp [chooseAmong]

/-- The search for a root stops at the second one that applies. -/
theorem selectRoot_eq_chooseAmong (selected : Option Definition) (roots : List Definition) :
    selectRoot request.attributeValues selected roots =
      chooseAmong (selected.toList ++ roots.filter fun root => root.Applies request) := by
  fun_induction selectRoot request.attributeValues selected roots with
  | case1 => rfl
  | case2 => rfl
  | case3 selected root rest unmatched inductionHypothesis =>
      have ruledOut : ¬root.Applies request := fun applies => applies unmatched
      rw [inductionHypothesis, List.filter_cons_of_neg (by simpa using ruledOut)]
  | case4 root rest matched earlier =>
      have applies : root.Applies request := matched
      rw [List.filter_cons_of_pos (by simpa using applies)]
      rfl
  | case5 root rest matched inductionHypothesis =>
      have applies : root.Applies request := matched
      rw [inductionHypothesis, List.filter_cons_of_pos (by simpa using applies)]
      rfl

/-- The root for a request is chosen among the roots that apply. -/
theorem rootFor_eq_chooseAmong (store : Store) (request : IndividualRequest) :
    store.rootFor request = chooseAmong (store.applicableRoots request) :=
  selectRoot_eq_chooseAmong none store.roots

/-- A root is the only one that applies. -/
def OnlyApplies (store : Store) (request : IndividualRequest) (root : Definition) : Prop :=
  (root ∈ store.roots ∧ root.Applies request) ∧
    ∀ other ∈ store.roots, other.Applies request → other = root

/-- The root for a request goes by which roots apply: it is the only one, there is
none when none applies, and the choice fails when roots with different
identifiers do. -/
structure ChoosesRoot (store : Store) (request : IndividualRequest) : Prop where
  /-- One root applies. -/
  found : ∀ root, store.rootFor request = .found root ↔ store.OnlyApplies request root
  /-- No root applies. -/
  notFound : store.rootFor request = .notFound ↔ ∀ root ∈ store.roots, ¬root.Applies request
  /-- Several roots apply. -/
  ambiguous : store.rootFor request = .failed moreThanOneRoot ↔
    ∃ first ∈ store.roots, ∃ second ∈ store.roots,
      first.Applies request ∧ second.Applies request ∧ first.id ≠ second.id

theorem onlyApplies_iff {root : Definition} :
    store.OnlyApplies request root ↔
      root ∈ store.applicableRoots request ∧
        ∀ other ∈ store.applicableRoots request, other = root := by
  simp only [OnlyApplies, mem_applicableRoots, and_imp]

/-- A root that applies and is repeated among the roots is repeated among those
that apply. -/
theorem duplicate_applicableRoots
    {root : Definition}
    (applies : root.Applies request) :
    List.Duplicate root (store.applicableRoots request) ↔ List.Duplicate root store.roots := by
  rw [List.duplicate_iff_sublist, List.duplicate_iff_sublist]
  constructor
  · exact fun repeated => repeated.trans List.filter_sublist
  · intro repeated
    have kept : [root, root].filter (fun root => root.Applies request) = [root, root] := by
      simp [applies]
    exact kept ▸ repeated.filter _

/-- The only root that applies is chosen when it is listed once. -/
theorem OnlyApplies.applicableRoots_eq
    {root : Definition}
    (only : store.OnlyApplies request root)
    (once : ¬List.Duplicate root store.roots) : store.applicableRoots request = [root] := by
  obtain ⟨member, same⟩ := onlyApplies_iff.mp only
  cases applicable : store.applicableRoots request with
  | nil =>
      rw [applicable] at member
      cases member
  | cons first rest =>
      rw [applicable] at same
      obtain rfl := same first List.mem_cons_self
      cases rest with
      | nil => rfl
      | cons second rest =>
          obtain rfl := same second (List.mem_cons_of_mem _ List.mem_cons_self)
          have repeated : List.Duplicate second (store.applicableRoots request) := by
            rw [applicable]
            exact List.Mem.duplicate_cons_self List.mem_cons_self
          exact absurd ((duplicate_applicableRoots only.1.2).mp repeated) once

/-- Roots with one identifier are the same definition. -/
theorem Sound.root_eq
    (sound : store.Sound)
    {first second : Definition}
    (isFirst : first ∈ store.roots)
    (isSecond : second ∈ store.roots)
    (sameId : first.id = second.id) : first = second :=
  List.inj_on_of_nodup_map sound.distinct (sound.rooted isFirst) (sound.rooted isSecond) sameId

/-- The choice of a root goes by which roots apply when the only one that does is
listed once. -/
theorem Sound.choosesRoot
    (sound : store.Sound)
    (once : ∀ root, store.OnlyApplies request root → ¬List.Duplicate root store.roots) :
    store.ChoosesRoot request := by
  have alone {root : Definition} (only : store.OnlyApplies request root) :
      store.applicableRoots request = [root] := only.applicableRoots_eq (once root only)
  refine ⟨fun root => ?_, ?_, ?_⟩
  · rw [rootFor_eq_chooseAmong, chooseAmong_eq_found_iff]
    refine ⟨fun isAlone => ?_, alone⟩
    rw [onlyApplies_iff, isAlone]
    exact ⟨List.mem_singleton_self root, fun other => List.mem_singleton.mp⟩
  · rw [rootFor_eq_chooseAmong, chooseAmong_eq_notFound_iff, applicableRoots,
      List.filter_eq_nil_iff]
    simp
  · rw [rootFor_eq_chooseAmong, chooseAmong_eq_failed_iff]
    constructor
    · intro several
      by_contra alike
      have some : 0 < (store.applicableRoots request).length := by omega
      obtain ⟨first, isFirst⟩ := List.exists_mem_of_length_pos some
      have firstApplies := mem_applicableRoots.mp isFirst
      have only : store.OnlyApplies request first := by
        refine ⟨firstApplies, fun other isOther otherApplies => ?_⟩
        by_contra different
        exact alike ⟨first, firstApplies.1, other, isOther, firstApplies.2, otherApplies,
          fun sameId => different (sound.root_eq firstApplies.1 isOther sameId).symm⟩
      rw [alone only] at several
      simp at several
    · rintro ⟨first, isFirst, second, isSecond, firstApplies, secondApplies, different⟩
      have firstThere := mem_applicableRoots.mpr ⟨isFirst, firstApplies⟩
      have secondThere := mem_applicableRoots.mpr ⟨isSecond, secondApplies⟩
      by_contra few
      have some := List.length_pos_of_mem firstThere
      have one : (store.applicableRoots request).length = 1 := by omega
      obtain ⟨root, isAlone⟩ := List.length_eq_one_iff.mp one
      rw [isAlone, List.mem_singleton] at firstThere secondThere
      rw [firstThere, secondThere] at different
      exact different rfl

/-- The choice of a root goes by which roots apply unless the only one that does
is listed more than once. -/
theorem Built.choosesRoot_iff
    (built : store.Built)
    (request : IndividualRequest) :
    store.ChoosesRoot request ↔
      ¬∃ root, store.OnlyApplies request root ∧ List.Duplicate root store.roots := by
  constructor
  · rintro chooses ⟨root, only, repeated⟩
    have alone := (chooses.found root).mpr only
    rw [rootFor_eq_chooseAmong, chooseAmong_eq_found_iff] at alone
    have repeatedThere := (duplicate_applicableRoots only.1.2).mpr repeated
    rw [alone] at repeatedThere
    exact List.not_duplicate_singleton root root repeatedThere
  · intro unrepeated
    exact built.sound.choosesRoot fun root only repeated => unrepeated ⟨root, only, repeated⟩

/-- A document is loaded that lists its only root twice. -/
theorem store_of_repeated_root :
    let main : Policy := ⟨.ofAlgorithm "main" .denyOverrides, []⟩
    let document : PolicyDocument := ⟨[main], [], ["main", "main"]⟩
    document.store = .ok ⟨[.policy main], [.policy main, .policy main]⟩ := by
  intro main document
  have combining : ∀ policy ∈ document.policies, policy.CombinesRules := by
    intro policy listed
    cases List.mem_singleton.mp listed
    rfl
  have loadable : document.Loadable :=
    ⟨combining, by decide, acyclic_of_rank (fun _ => 0) (by decide), by decide⟩
  rw [loadable.store_eq]
  rfl

/-- A root that is listed twice is not chosen although it is the only one. -/
theorem rootFor_of_repeated_root :
    let main : Policy := ⟨.ofAlgorithm "main" .denyOverrides, []⟩
    let document : PolicyDocument := ⟨[main], [], ["main", "main"]⟩
    let store : Store := ⟨[.policy main], [.policy main, .policy main]⟩
    let request : IndividualRequest := ⟨.ok, []⟩
    document.store = .ok store ∧ store.OnlyApplies request (.policy main) ∧
      store.rootFor request = .failed moreThanOneRoot := by
  intro main document store request
  refine ⟨store_of_repeated_root, ⟨⟨List.mem_cons_self, by decide⟩, ?_⟩, rfl⟩
  intro other isRoot _
  simpa [store] using isRoot

/-- The choice fails to go by which roots apply in a store whose document repeats
its only root. -/
theorem Built.choosesRoot_iff_of_repeated_root :
    let main : Policy := ⟨.ofAlgorithm "main" .denyOverrides, []⟩
    let store : Store := ⟨[.policy main], [.policy main, .policy main]⟩
    let request : IndividualRequest := ⟨.ok, []⟩
    store.Built ∧ ¬store.ChoosesRoot request := by
  intro main store request
  have built : store.Built := .ofDocument store_of_repeated_root
  refine ⟨built, fun chooses => (built.choosesRoot_iff request).mp chooses ?_⟩
  refine ⟨.policy main, ⟨⟨List.mem_cons_self, by decide⟩, fun other isRoot _ => ?_⟩,
    List.Mem.duplicate_cons_self List.mem_cons_self⟩
  simpa [store] using isRoot

end Store
end PolicyDecision
