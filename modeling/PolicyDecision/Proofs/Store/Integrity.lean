import PolicyDecision.Proofs.Store.Lookup
import PolicyDecision.Proofs.Store.ReferenceCheck
import PolicyDecision.Store.Document

/-!
# Integrity of stores

A store that can be built finds every definition under its identifier, knows
only stored roots and has no cycle of references. A call fails exactly when the
identifier is taken or the definition closes a cycle, and a failed call leaves
no trace.
-/

namespace PolicyDecision

/-- A policy set that does nothing but refer to definitions. -/
def Definition.referring (id : String) (targets : List String) : Definition :=
  .policySet
    ⟨.ofAlgorithm id .denyOverrides, targets.map fun target => .reference ⟨target, none⟩⟩

namespace Store

/-! ## Updates -/

/-- A definition with a fresh identifier is found under it, and all others as
before. -/
theorem get?_put
    {store : Store}
    {definition : Definition}
    (absent : store.get? definition.id = none)
    (id : String) :
    (store.put definition).get? id =
      if id = definition.id then some definition else store.get? id := by
  have appended : (store.put definition).get? id =
      (store.get? id).or (if definition.id = id then some definition else none) := by
    simp [get?, put, List.find?_append, List.find?_singleton]
  rw [appended]
  by_cases same : id = definition.id
  · subst same
    simp [absent]
  · simp [same, Ne.symm same]

/-- Taking a fresh definition out again restores the store. -/
theorem remove_put
    {store : Store}
    {definition : Definition}
    (absent : store.get? definition.id = none) :
    (store.put definition).remove definition.id = store := by
  have kept : store.definitions.filter (fun other => decide (other.id ≠ definition.id)) =
      store.definitions :=
    List.filter_eq_self.mpr fun other member =>
      decide_eq_true (ne_id_of_get?_eq_none absent member)
  simp only [remove, put, List.filter_append, kept, List.filter_singleton]
  simp

/-! ## References -/

/-- A stored definition refers to a stored identifier. -/
def Refers (store : Store) (id target : String) : Prop :=
  ∃ definition, store.get? id = some definition ∧
    target ∈ definition.referencedIds ∧ (store.get? target).isSome

/-- No stored identifier leads back to itself along references. -/
def Acyclic (store : Store) : Prop :=
  ∀ id, ¬Relation.TransGen store.Refers id id

theorem refers_references (store : Store) :
    ReferenceCheck.Refers store.references = store.Refers := by
  funext id target
  apply propext
  constructor
  · rintro ⟨targets, refers, member⟩
    obtain ⟨definition, found, rfl⟩ := Option.map_eq_some_iff.mp refers
    exact ⟨definition, found, List.mem_filter.mp member⟩
  · rintro ⟨definition, found, member⟩
    exact ⟨_, by rw [references, found, Option.map_some], List.mem_filter.mpr member⟩

theorem mem_sortedIds (store : Store) (id : String) :
    id ∈ store.sortedIds ↔ (store.get? id).isSome := by
  rw [get?_isSome_iff, sortedIds, List.mem_mergeSort]

/-- The identifiers that are visited are those with references. -/
theorem covers_sortedIds (store : Store) :
    ReferenceCheck.Covers store.references store.sortedIds where
  mem_iff := fun id => by rw [mem_sortedIds, references, Option.isSome_map]
  closed := fun id target refers => by
    rw [refers_references] at refers
    obtain ⟨definition, -, -, stored⟩ := refers
    exact (store.mem_sortedIds target).mpr stored

/-- Without a cycle every chain of references comes to an end. -/
theorem Acyclic.ends
    {store : Store}
    (acyclic : store.Acyclic)
    (id : String) : ReferenceCheck.Ends store.references id := by
  have noCycle : ¬ReferenceCheck.Cyclic store.references := by
    rw [ReferenceCheck.Cyclic, refers_references, not_exists]
    exact acyclic
  obtain ⟨visited, accepted⟩ :=
    (ReferenceCheck.visitAll_isOk_iff store.covers_sortedIds).mpr noCycle
  exact ReferenceCheck.ends_of_visitAll_ok store.covers_sortedIds accepted id

/-- References are accepted exactly when they have no cycle. -/
theorem checkReferences_eq_ok_iff (store : Store) :
    store.checkReferences = .ok () ↔ store.Acyclic := by
  have exact := ReferenceCheck.visitAll_isOk_iff store.covers_sortedIds
  rw [ReferenceCheck.Cyclic, refers_references, not_exists] at exact
  rw [Acyclic, ← exact, checkReferences]
  cases ReferenceCheck.visitAll store.references store.sortedIds <;> simp

/-- References that always lead to a lower rank have no cycle. -/
theorem acyclic_of_rank
    {store : Store}
    (rank : String → Nat)
    (descends : ∀ definition ∈ store.definitions, ∀ target ∈ definition.referencedIds,
      rank target < rank definition.id) : store.Acyclic := by
  have lower (id target : String) (refers : store.Refers id target) : rank target < rank id := by
    obtain ⟨definition, found, cites, -⟩ := refers
    obtain ⟨member, rfl⟩ := get?_eq_some found
    exact descends definition member target cites
  intro id cycle
  have below : Relation.TransGen (fun first second => second < first) (rank id) (rank id) :=
    cycle.lift rank lower
  rw [Relation.transGen_eq_self] at below
  exact Nat.lt_irrefl _ below

/-! ## Calls -/

/-- A definition is put in when its identifier is fresh and it closes no cycle.
Otherwise nothing is left of it. -/
theorem insert_cases (store : Store) (definition : Definition) :
    (store.get? definition.id = none ∧ (store.put definition).Acyclic) ∧
        store.insert definition = (store.put definition, .ok ()) ∨
      ¬(store.get? definition.id = none ∧ (store.put definition).Acyclic) ∧
        ∃ fault, store.insert definition = (store, .error fault) := by
  cases found : store.get? definition.id with
  | some stored => exact .inr ⟨by simp, .duplicateId definition.id, by simp [insert, found]⟩
  | none =>
      have accepted := checkReferences_eq_ok_iff (store.put definition)
      cases checked : (store.put definition).checkReferences with
      | ok => exact .inl ⟨⟨rfl, accepted.mp checked⟩, by simp [insert, found, checked]⟩
      | error fault =>
          refine .inr ⟨fun taken => ?_, fault, by simp [insert, found, checked, remove_put found]⟩
          rw [accepted.mpr taken.2] at checked
          cases checked

end Store

namespace StoreCall

/-- The roots after a successful call. -/
def rootsAfter (roots : List Definition) : StoreCall → List Definition
  | .add _ => roots
  | .addRoot definition => roots ++ [definition]

/-- The store after a successful call. -/
def extend (store : Store) (call : StoreCall) : Store :=
  { store.put call.definition with roots := call.rootsAfter store.roots }

/-- A call extends the store when the identifier is fresh and the definition closes
no cycle. Otherwise it fails and leaves the store as it was. -/
theorem run_cases (store : Store) (call : StoreCall) :
    (store.get? call.definition.id = none ∧ (store.put call.definition).Acyclic) ∧
        call.run store = (call.extend store, .ok ()) ∨
      ¬(store.get? call.definition.id = none ∧ (store.put call.definition).Acyclic) ∧
        ∃ fault, call.run store = (store, .error fault) := by
  cases call with
  | add definition => exact store.insert_cases definition
  | addRoot definition =>
      rcases store.insert_cases definition with ⟨taken, inserted⟩ | ⟨refused, fault, inserted⟩
      · exact .inl ⟨taken, by rw [run, inserted]; rfl⟩
      · exact .inr ⟨refused, fault, by rw [run, inserted]⟩

/-- A call leads to the extended store exactly when it succeeds. -/
theorem outcome_eq_ok_iff (store extended : Store) (call : StoreCall) :
    call.outcome store = .ok extended ↔
      store.get? call.definition.id = none ∧ (store.put call.definition).Acyclic ∧
        extended = call.extend store := by
  rw [← and_assoc, outcome]
  rcases call.run_cases store with ⟨taken, runs⟩ | ⟨refused, fault, runs⟩
  · simp [runs, taken, eq_comm]
  · simp [runs, refused]

/-- A call succeeds exactly when the identifier is fresh and the definition
closes no cycle. -/
theorem run_succeeds_iff (store : Store) (call : StoreCall) :
    (call.run store).2 = .ok () ↔
      store.get? call.definition.id = none ∧ (store.put call.definition).Acyclic := by
  rcases call.run_cases store with ⟨taken, runs⟩ | ⟨refused, fault, runs⟩
  · simp [runs, taken]
  · simp [runs, refused]

/-- A call fails exactly when the identifier is taken or the definition closes a
cycle. -/
theorem run_fails_iff (store : Store) (call : StoreCall) :
    (∃ fault, (call.run store).2 = .error fault) ↔
      (store.get? call.definition.id).isSome ∨ ¬(store.put call.definition).Acyclic := by
  have failed : (∃ fault, (call.run store).2 = .error fault) ↔ ¬(call.run store).2 = .ok () := by
    cases (call.run store).2 <;> simp
  rw [failed, run_succeeds_iff, not_and_or, ← Option.ne_none_iff_isSome]

/-- A failed call leaves the store as it was. -/
theorem run_fst_of_error
    {store : Store}
    {call : StoreCall}
    {fault : StoreFault}
    (failed : (call.run store).2 = .error fault) : (call.run store).1 = store := by
  rcases call.run_cases store with ⟨-, runs⟩ | ⟨-, reported, runs⟩
  · rw [runs] at failed
    cases failed
  · rw [runs]

/-- A successful call extends the store. -/
theorem run_fst_of_ok
    {store : Store}
    {call : StoreCall}
    (succeeded : (call.run store).2 = .ok ()) : (call.run store).1 = call.extend store := by
  rcases call.run_cases store with ⟨-, runs⟩ | ⟨-, reported, runs⟩
  · rw [runs]
  · rw [runs] at succeeded
    cases succeeded

end StoreCall

namespace Store

/-! ## Integrity -/

/-- The identifiers of a store are distinct, its roots are stored, and its
references have no cycle. -/
structure Sound (store : Store) : Prop where
  distinct : (store.definitions.map Definition.id).Nodup
  rooted : store.roots ⊆ store.definitions
  acyclic : store.Acyclic

theorem sound_empty : empty.Sound where
  distinct := List.nodup_nil
  rooted := List.nil_subset _
  acyclic := (checkReferences_eq_ok_iff empty).mp (by
    simp [checkReferences, sortedIds, empty, ReferenceCheck.visitAll, pure, Except.pure])

/-- A successful call keeps a store sound. -/
theorem Sound.extend
    {store : Store}
    {call : StoreCall}
    (sound : store.Sound)
    (absent : store.get? call.definition.id = none)
    (acyclic : (store.put call.definition).Acyclic) :
    (call.extend store).Sound where
  distinct := by
    have fresh : call.definition.id ∉ store.definitions.map Definition.id := by
      rw [← get?_isSome_iff, absent]
      simp
    change ((store.definitions ++ [call.definition]).map Definition.id).Nodup
    rw [List.map_append, List.map_singleton]
    exact List.nodup_append'.mpr ⟨sound.distinct, List.nodup_singleton _, by simpa using fresh⟩
  rooted := by
    have earlier : store.roots ⊆ store.definitions ++ [call.definition] :=
      List.subset_append_of_subset_left _ sound.rooted
    cases call with
    | add definition => exact earlier
    | addRoot definition =>
        exact List.append_subset.mpr ⟨earlier, List.subset_append_right _ _⟩
  acyclic := acyclic

/-- Every call keeps a store sound. -/
theorem Sound.run
    {store : Store}
    (sound : store.Sound)
    (call : StoreCall) : (call.run store).1.Sound := by
  cases result : (call.run store).2 with
  | error fault => rwa [StoreCall.run_fst_of_error result]
  | ok =>
      obtain ⟨absent, acyclic⟩ := (call.run_succeeds_iff store).mp result
      rw [StoreCall.run_fst_of_ok result]
      exact sound.extend absent acyclic

end Store

namespace PolicyDocument

/-- Definitions that are found distinct have distinct identifiers, none of which
was seen before. -/
theorem nodup_of_checkDistinct
    {seen : List String}
    {definitions : List Definition}
    (accepted : checkDistinct seen definitions = .ok ()) :
    (definitions.map Definition.id).Nodup ∧ ∀ definition ∈ definitions, definition.id ∉ seen := by
  induction definitions generalizing seen with
  | nil => simp
  | cons definition rest inductionHypothesis =>
      unfold checkDistinct at accepted
      split at accepted
      · cases accepted
      · rename_i unseen
        obtain ⟨distinct, fresh⟩ := inductionHypothesis accepted
        have apart : ∀ other ∈ rest, other.id ≠ definition.id := fun other member same =>
          fresh other member (same ▸ List.mem_cons_self)
        refine ⟨?_, List.forall_mem_cons.mpr ⟨by simpa using unseen, ?_⟩⟩
        · rw [List.map_cons, List.nodup_cons, List.mem_map]
          exact ⟨fun ⟨other, member, same⟩ => apart other member same, distinct⟩
        · exact fun other member occurs => fresh other member (List.mem_cons_of_mem _ occurs)

/-- The selected roots are stored. -/
theorem selectRoots_subset
    {store : Store}
    {ids : List String}
    {selected : List Definition}
    (accepted : selectRoots store ids = .ok selected) : selected ⊆ store.definitions := by
  induction ids generalizing selected with
  | nil =>
      cases accepted
      exact List.nil_subset _
  | cons id rest inductionHypothesis =>
      unfold selectRoots at accepted
      split at accepted
      · cases accepted
      · rename_i root found
        split at accepted
        · rename_i others restSelected
          cases accepted
          exact List.cons_subset.mpr
            ⟨(Store.get?_eq_some found).1, inductionHypothesis restSelected⟩
        · cases accepted

/-- A document has a store when its policies combine rules, its identifiers are
distinct, its references have no cycle and its roots are defined. -/
theorem store_eq_ok
    {document : PolicyDocument}
    {store : Store}
    (built : document.store = .ok store) :
    checkRuleAlgorithms document.policies = .ok () ∧
      checkDistinct [] document.definitions = .ok () ∧
      Store.Acyclic ⟨document.definitions, []⟩ ∧
      store.definitions = document.definitions ∧
      (document.roots = [] ∧ store.roots = document.definitions ∨
        selectRoots ⟨document.definitions, []⟩ document.roots = .ok store.roots) := by
  unfold PolicyDocument.store at built
  simp only [bind, Except.bind] at built
  split at built
  · cases built
  rename_i combining
  split at built
  · cases built
  rename_i distinct
  split at built
  · cases built
  rename_i checked
  have acyclic := (Store.checkReferences_eq_ok_iff _).mp checked
  split at built
  · rename_i unrooted
    cases built
    exact ⟨combining, distinct, acyclic, rfl, .inl ⟨List.isEmpty_iff.mp unrooted, rfl⟩⟩
  · split at built
    · cases built
    · rename_i selected
      cases built
      exact ⟨combining, distinct, acyclic, rfl, .inr selected⟩

/-- The store of a document is sound. -/
theorem store_sound
    {document : PolicyDocument}
    {store : Store}
    (built : document.store = .ok store) : store.Sound := by
  obtain ⟨-, distinct, acyclic, same, roots⟩ := store_eq_ok built
  obtain ⟨definitions, _⟩ := store
  cases same
  refine ⟨(nodup_of_checkDistinct distinct).1, ?_, acyclic⟩
  rcases roots with ⟨-, rfl⟩ | selected
  · exact List.Subset.refl _
  · have stored := selectRoots_subset selected
    exact stored

end PolicyDocument

namespace Store

/-- Every store that can be built is sound. -/
theorem Built.sound {store : Store} (built : store.Built) : store.Sound := by
  induction built with
  | empty => exact sound_empty
  | ofDocument loaded => exact PolicyDocument.store_sound loaded
  | call call _ inductionHypothesis => exact inductionHypothesis.run call

/-- A store that can be built can be extended. -/
theorem Built.extend
    {store : Store}
    (built : store.Built)
    (call : StoreCall)
    (absent : store.get? call.definition.id = none)
    (acyclic : (store.put call.definition).Acyclic) : (call.extend store).Built :=
  StoreCall.run_fst_of_ok ((call.run_succeeds_iff store).mpr ⟨absent, acyclic⟩) ▸ .call call built

/-- A store that can be built keeps its definitions under their identifiers, its
roots among them and its references free of cycles. A call on it fails exactly
when the identifier is taken or the definition closes a cycle; a failed call
leaves every lookup and the roots as they were, and a successful one changes the
lookup of the identifier alone. -/
theorem Built.integrity {store : Store} (built : store.Built) :
    (∀ id definition, store.get? id = some definition → definition.id = id) ∧
      (∀ root ∈ store.roots, store.get? root.id = some root) ∧
      store.Acyclic ∧
      ∀ call : StoreCall,
        ((∃ fault, (call.run store).2 = .error fault) ↔
          (store.get? call.definition.id).isSome ∨ ¬(store.put call.definition).Acyclic) ∧
        (∀ fault, (call.run store).2 = .error fault →
          (∀ id, (call.run store).1.get? id = store.get? id) ∧
            (call.run store).1.roots = store.roots) ∧
        ((call.run store).2 = .ok () →
          (∀ id, (call.run store).1.get? id =
            if id = call.definition.id then some call.definition else store.get? id) ∧
            (call.run store).1.roots = call.rootsAfter store.roots) := by
  have sound := built.sound
  refine ⟨fun id definition found => (get?_eq_some found).2,
    fun root member => get?_of_mem sound.distinct (sound.rooted member), sound.acyclic,
    fun call => ⟨call.run_fails_iff store, fun fault failed => ?_, fun succeeded => ?_⟩⟩
  · rw [StoreCall.run_fst_of_error failed]
    exact ⟨fun id => rfl, rfl⟩
  · obtain ⟨absent, -⟩ := (call.run_succeeds_iff store).mp succeeded
    rw [StoreCall.run_fst_of_ok succeeded]
    exact ⟨get?_put absent, rfl⟩

/-- A store whose only definition refers to an identifier that is not stored yet
takes no definition of that identifier which refers back, and stays as it is. -/
theorem Built.integrity_of_pending_reference :
    let pending : Store := ⟨[.referring "outer" ["inner"]], []⟩
    let closing := StoreCall.addRoot (.referring "inner" ["outer"])
    pending.Built ∧ pending.Acyclic ∧
      (∃ fault, (closing.run pending).2 = .error fault) ∧
      (∀ id, (closing.run pending).1.get? id = pending.get? id) ∧
      (closing.run pending).1.roots = [] := by
  intro pending closing
  have built : pending.Built :=
    Built.empty.extend (.add (.referring "outer" ["inner"])) rfl
      (acyclic_of_rank (fun id => if id = "outer" then 1 else 0) (by decide))
  obtain ⟨-, -, acyclic, calls⟩ := built.integrity
  obtain ⟨fails, restores, -⟩ := calls closing
  have closes : ¬(pending.put closing.definition).Acyclic := by
    have inward : (pending.put closing.definition).Refers "outer" "inner" :=
      ⟨_, rfl, List.mem_cons_self, rfl⟩
    have outward : (pending.put closing.definition).Refers "inner" "outer" :=
      ⟨_, rfl, List.mem_cons_self, rfl⟩
    exact fun acyclic => acyclic "outer" (.head inward (.single outward))
  obtain ⟨fault, failed⟩ := fails.mpr (.inr closes)
  obtain ⟨found, roots⟩ := restores fault failed
  exact ⟨built, acyclic, ⟨fault, failed⟩, found, roots⟩

end Store
end PolicyDecision
