import PolicyDecision.Enforcement.Agent
import PolicyDecision.Proofs.Enforcement.Routing
import PolicyDecision.Proofs.SortedMap

/-!
# Discharged obligations

An agent discharges the obligations of a view by their identifiers, so of several
with one identifier only the last reaches its handlers. The obligations of a
result are therefore all honored exactly when their identifiers tell them apart.
-/

namespace PolicyDecision

/-! ## Obligations by identifier -/

section ById

variable {obligations : List Obligation}

/-- The last obligation with an identifier is the one that is kept for it. -/
theorem get?_obligationsById (obligations : List Obligation) (id : String) :
    (obligationsById obligations).get? id =
      obligations.reverse.find? fun obligation => obligation.id = id := by
  rw [obligationsById, SortedMap.get?_ofList, SortedMap.lookup, ← List.map_reverse,
    List.find?_map, Option.map_map]
  exact Option.map_id'

theorem mem_values_obligationsById_iff {obligation : Obligation} :
    obligation ∈ (obligationsById obligations).values ↔
      obligations.reverse.find? (fun kept => kept.id = obligation.id) = some obligation := by
  rw [SortedMap.mem_values_iff]
  constructor
  · rintro ⟨id, kept⟩
    rw [get?_obligationsById] at kept
    have same : obligation.id = id := by simpa using List.find?_some kept
    rw [same]
    exact kept
  · intro kept
    exact ⟨obligation.id, (get?_obligationsById _ _).trans kept⟩

theorem mem_of_mem_values_obligationsById
    {obligation : Obligation}
    (kept : obligation ∈ (obligationsById obligations).values) :
    obligation ∈ obligations :=
  List.mem_reverse.mp (List.mem_of_find?_eq_some (mem_values_obligationsById_iff.mp kept))

/-- Only one obligation is kept for an identifier. -/
theorem singleById_values_obligationsById (obligations : List Obligation) :
    SingleById (obligationsById obligations).values := by
  intro first firstKept second secondKept same
  rw [mem_values_obligationsById_iff] at firstKept secondKept
  rw [same, secondKept] at firstKept
  exact (Option.some.inj firstKept).symm

theorem exists_kept_of_mem
    {obligation : Obligation} (member : obligation ∈ obligations) :
    ∃ kept ∈ (obligationsById obligations).values, kept.id = obligation.id := by
  have found :
      (obligations.reverse.find? fun kept => kept.id = obligation.id).isSome := by
    rw [List.find?_isSome]
    exact ⟨obligation, List.mem_reverse.mpr member, by simp⟩
  obtain ⟨kept, isKept⟩ := Option.isSome_iff_exists.mp found
  have same : kept.id = obligation.id := by simpa using List.find?_some isKept
  refine ⟨kept, mem_values_obligationsById_iff.mpr ?_, same⟩
  rw [same]
  exact isKept

/-- Nothing is dropped among obligations that are told apart by their
identifiers. -/
theorem kept_of_singleById
    (single : SingleById obligations)
    {obligation : Obligation}
    (member : obligation ∈ obligations) :
    obligation ∈ (obligationsById obligations).values := by
  obtain ⟨kept, isKept, same⟩ := exists_kept_of_mem member
  have keptMember := mem_of_mem_values_obligationsById isKept
  rw [← single kept keptMember obligation member same]
  exact isKept

end ById

/-! ## Honored obligations -/

/-- An enforcement honors obligations: it succeeds only when each of them was
handed to all handlers that match it, of which there are some, and it calls no
handler when some obligation has none. -/
structure ObligationRouter.Honors
    {α : Type}
    (router : ObligationRouter)
    (obligations : List Obligation)
    (enforced : List HandlerCall × Except Fault α) : Prop where
  handed : ∀ answer, enforced.2 = .ok answer →
    ∀ obligation ∈ obligations,
      router.Handles obligation ∧
        ∀ handler ∈ router.handlers, handler.handles obligation = true →
          ∃ call ∈ enforced.1,
            call.handler ∈ router.handlers ∧
              call.handler.key = handler.key ∧
              obligation ∈ call.obligations ∧
              call.handler.outcome call.obligations = .ok ()
  refused : ∀ obligation ∈ obligations, ¬router.Handles obligation →
    enforced.1 = [] ∧
      ∃ unhandled ∈ obligations,
        ¬router.Handles unhandled ∧
          enforced.2 = .error (.unhandleableObligation unhandled.id)

/-- Only which obligations there are matters, not their order. -/
theorem ObligationRouter.Honors.congr
    {α : Type}
    {router : ObligationRouter}
    {obligations others : List Obligation}
    {enforced : List HandlerCall × Except Fault α}
    (honors : router.Honors obligations enforced)
    (same : ∀ obligation, obligation ∈ others ↔ obligation ∈ obligations) :
    router.Honors others enforced := by
  constructor
  · intro answer succeeded obligation member
    exact honors.handed answer succeeded obligation ((same obligation).mp member)
  · intro obligation member unhandled
    obtain ⟨noCalls, unmatched, isUnmatched, reported⟩ :=
      honors.refused obligation ((same obligation).mp member) unhandled
    exact ⟨noCalls, unmatched, (same unmatched).mpr isUnmatched, reported⟩

/-- A handler that matches every obligation but one and never fails. -/
noncomputable def ObligationHandler.allBut (excluded : Obligation) : ObligationHandler where
  key := 0
  name := "all-but"
  handles := fun obligation => open Classical in decide (obligation ≠ excluded)
  outcome := fun _ => .ok ()

theorem ObligationRouter.handles_allBut_iff {excluded obligation : Obligation} :
    (⟨[.allBut excluded]⟩ : ObligationRouter).Handles obligation ↔ obligation ≠ excluded := by
  simp [Handles, ObligationHandler.allBut]

namespace EnforcementAgent

variable
  (engine : Engine)
  (configuration : EnforcementConfiguration)
  (router : ObligationRouter)
  (view : EnforcementView)

/-- Without obligations to discharge the routes are empty, so a discharge is the
dispatch of the routes in any case. -/
theorem discharge_eq :
    discharge ⟨engine, configuration, some router⟩ view =
      match router.route view.obligations.values with
      | .error fault => ([], .error fault)
      | .ok routes => ObligationRouter.dispatch routes := by
  unfold discharge
  cases view.obligations.values <;> rfl

/-- The routes of the obligations that are kept by identifier carry each of them
to all handlers that match it. -/
theorem carries_of_route_ok
    {routes : List Route}
    (routed : router.route view.obligations.values = .ok routes) :
    ObligationRouter.Within router.handlers view.obligations.values routes ∧
      ∀ obligation ∈ view.obligations.values,
        router.Handles obligation ∧
          ∀ handler ∈ router.handlers, handler.handles obligation = true →
            ObligationRouter.Carries routes handler obligation := by
  have single : SingleById view.obligations.values :=
    singleById_values_obligationsById view.result.obligations
  have noneRouted : ObligationRouter.Within router.handlers view.obligations.values [] := by
    intro route member
    cases member
  obtain ⟨within, _, carried⟩ :=
    ObligationRouter.carries_of_routeAfter_ok single noneRouted (fun _ member => member) routed
  exact ⟨within, carried⟩

/-- The obligations that are kept by identifier are honored when they are
discharged. -/
theorem discharge_honors :
    router.Honors view.obligations.values
      (discharge ⟨engine, configuration, some router⟩ view) := by
  rw [discharge_eq]
  cases routed : router.route view.obligations.values with
  | error fault =>
      constructor
      · intro answer succeeded
        cases succeeded
      · intro obligation member unhandled
        obtain ⟨unmatched, isUnmatched, unhandleable, rfl⟩ :=
          ObligationRouter.unhandleable_of_routeAfter_error routed
        exact ⟨rfl, unmatched, isUnmatched, unhandleable, rfl⟩
  | ok routes =>
      obtain ⟨within, carried⟩ := carries_of_route_ok router view routed
      constructor
      · intro answer succeeded obligation member
        obtain ⟨handled, carries⟩ := carried obligation member
        refine ⟨handled, fun handler registered handles => ?_⟩
        obtain ⟨route, isRoute, same, isShared⟩ := carries handler registered handles
        obtain ⟨called, succeeds⟩ :=
          ObligationRouter.mem_calls_of_dispatch_ok succeeded isRoute
        exact ⟨_, called, (within route isRoute).1, same, isShared, succeeds⟩
      · intro obligation member unhandled
        exact absurd (carried obligation member).1 unhandled

/-- An enforcement makes the calls of the discharge, and it succeeds only after
the discharge has. -/
theorem enforce_honors_of_discharge
    {obligations : List Obligation}
    (honors : router.Honors obligations
      (discharge ⟨engine, configuration, some router⟩ view)) :
    router.Honors obligations (enforce ⟨engine, configuration, some router⟩ view) := by
  obtain ⟨handed, refused⟩ := honors
  unfold enforce
  split
  · rename_i calls discharged
    rw [discharged] at handed refused
    refine ⟨fun _ _ => handed () rfl, ?_⟩
    intro obligation member unhandled
    obtain ⟨_, _, _, _, failed⟩ := refused obligation member unhandled
    cases failed
  · rename_i calls fault discharged
    rw [discharged] at refused
    constructor
    · intro answer succeeded
      cases succeeded
    intro obligation member unhandled
    obtain ⟨none, unmatched, isUnmatched, unhandleable, failed⟩ :=
      refused obligation member unhandled
    cases failed
    exact ⟨none, unmatched, isUnmatched, unhandleable, rfl⟩

theorem calls_enforce (agent : EnforcementAgent) :
    (agent.enforce view).1 = (agent.discharge view).1 := by
  unfold enforce
  split <;> rename_i discharged <;> rw [discharged]

/-- Some handler is called when all obligations that are kept by identifier have
one, of which there are some. -/
theorem calls_discharge_ne_nil
    {kept : Obligation}
    (isKept : kept ∈ view.obligations.values)
    (handled : ∀ obligation ∈ view.obligations.values, router.Handles obligation) :
    (discharge ⟨engine, configuration, some router⟩ view).1 ≠ [] := by
  rw [discharge_eq]
  cases routed : router.route view.obligations.values with
  | error fault =>
      obtain ⟨unmatched, isUnmatched, unhandleable, _⟩ :=
        ObligationRouter.unhandleable_of_routeAfter_error routed
      exact absurd (handled unmatched isUnmatched) unhandleable
  | ok routes =>
      obtain ⟨_, carried⟩ := carries_of_route_ok router view routed
      obtain ⟨⟨handler, registered, handles⟩, carries⟩ := carried kept isKept
      obtain ⟨route, isRoute, _⟩ := carries handler registered handles
      exact ObligationRouter.calls_dispatch_ne_nil (List.ne_nil_of_mem isRoute)

/-- When an obligation is dropped for another one, a handler of all but the
dropped one is called although the dropped one has none. -/
theorem not_honors_of_dropped
    {dropped : Obligation}
    (member : dropped ∈ view.result.obligations)
    (isDropped : dropped ∉ view.obligations.values) :
    ¬(⟨[.allBut dropped]⟩ : ObligationRouter).Honors view.result.obligations
      (enforce ⟨engine, configuration, some ⟨[.allBut dropped]⟩⟩ view) := by
  intro honors
  obtain ⟨noCalls, _⟩ := honors.refused dropped member
    (fun handled => ObligationRouter.handles_allBut_iff.mp handled rfl)
  rw [calls_enforce] at noCalls
  obtain ⟨kept, isKept, _⟩ := exists_kept_of_mem member
  refine calls_discharge_ne_nil engine configuration _ view isKept ?_ noCalls
  intro obligation obligationKept
  rw [ObligationRouter.handles_allBut_iff]
  rintro rfl
  exact isDropped obligationKept

/-- Enforcement honors the obligations of a result under every router exactly
when no two different ones have the same identifier. -/
theorem enforce_honors_iff :
    (∀ router : ObligationRouter,
        router.Honors view.result.obligations
          (enforce ⟨engine, configuration, some router⟩ view)) ↔
      SingleById view.result.obligations := by
  constructor
  · intro honored first firstMember second secondMember same
    have kept {obligation : Obligation} (member : obligation ∈ view.result.obligations) :
        obligation ∈ view.obligations.values := by
      apply Classical.byContradiction
      intro isDropped
      exact not_honors_of_dropped engine configuration view member isDropped (honored _)
    exact singleById_values_obligationsById view.result.obligations
      first (kept firstMember) second (kept secondMember) same
  · intro single router
    have sameObligations (obligation : Obligation) :
        obligation ∈ view.result.obligations ↔ obligation ∈ view.obligations.values :=
      ⟨kept_of_singleById single, mem_of_mem_values_obligationsById⟩
    apply enforce_honors_of_discharge
    exact (discharge_honors engine configuration router view).congr sameObligations

end EnforcementAgent
end PolicyDecision
