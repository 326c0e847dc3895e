import Mathlib.Tactic.SplitIfs
import PolicyDecision.Enforcement.Router

/-!
# Routed obligations

What routing assigns and what dispatching hands over. A successful routing
carries each obligation to all handlers that match it, and a successful dispatch
hands every share to its handler.
-/

namespace PolicyDecision

theorem Obligation.id_eq_of_beq
    {first second : Obligation} (alike : (first == second) = true) :
    first.id = second.id := by
  have alikeFields :
      (first.id == second.id && first.assignments == second.assignments) = true := alike
  simp only [Bool.and_eq_true, beq_iff_eq] at alikeFields
  exact alikeFields.1

namespace Route

theorem handler_add (route : Route) (obligation : Obligation) :
    (route.add obligation).handler = route.handler := by
  unfold add
  split <;> rfl

theorem mem_share_of_mem_add
    {route : Route} {obligation shared : Obligation}
    (member : shared ∈ (route.add obligation).share) :
    shared ∈ route.share ∨ shared = obligation := by
  unfold add at member
  split at member
  · exact .inl member
  · simpa using member

theorem mem_share_add_of_mem
    {route : Route} {shared : Obligation}
    (obligation : Obligation)
    (member : shared ∈ route.share) :
    shared ∈ (route.add obligation).share := by
  unfold add
  split
  · exact member
  · exact List.mem_append_left _ member

/-- A share that has an equal obligation is left as it is, so an obligation is
sure to be added only where its identifier tells it apart. -/
theorem mem_share_add_self
    {route : Route} {obligation : Obligation}
    (single : ∀ shared ∈ route.share, shared.id = obligation.id → shared = obligation) :
    obligation ∈ (route.add obligation).share := by
  unfold add
  split
  · rename_i held
    obtain ⟨shared, member, alike⟩ := List.contains_iff_exists_mem_beq.mp held
    have same : obligation.id = shared.id := Obligation.id_eq_of_beq alike
    rw [← single shared member same.symm]
    exact member
  · exact List.mem_append_right _ (List.mem_singleton.mpr rfl)

end Route

/-- Obligations with one identifier are the same. -/
def SingleById (obligations : List Obligation) : Prop :=
  ∀ first ∈ obligations, ∀ second ∈ obligations, first.id = second.id → first = second

namespace ObligationRouter

/-- Some route of a handler has an obligation in its share. -/
def Carries
    (routes : List Route)
    (handler : ObligationHandler)
    (obligation : Obligation) : Prop :=
  ∃ route ∈ routes, route.handler.key = handler.key ∧ obligation ∈ route.share

/-- Every route is one of the given handlers with a share of the given
obligations. -/
def Within
    (handlers : List ObligationHandler)
    (obligations : List Obligation)
    (routes : List Route) : Prop :=
  ∀ route ∈ routes, route.handler ∈ handlers ∧ ∀ shared ∈ route.share, shared ∈ obligations

/-! ## Assignment -/

section Assignment

variable
  {handlers : List ObligationHandler}
  {obligations : List Obligation}
  {routes : List Route}
  {obligation : Obligation}

theorem assign_within
    {handler : ObligationHandler}
    (within : Within handlers obligations routes)
    (registered : handler ∈ handlers)
    (member : obligation ∈ obligations) :
    Within handlers obligations (assign obligation handler routes) := by
  induction routes with
  | nil =>
      intro route isNew
      rw [List.mem_singleton.mp isNew]
      exact ⟨registered, fun shared isShared => List.mem_singleton.mp isShared ▸ member⟩
  | cons route rest inductionHypothesis =>
      obtain ⟨⟨routeRegistered, shareWithin⟩, restWithin⟩ := List.forall_mem_cons.mp within
      unfold assign
      split
      · refine List.forall_mem_cons.mpr
          ⟨⟨route.handler_add obligation ▸ routeRegistered, ?_⟩, restWithin⟩
        intro shared isShared
        rcases Route.mem_share_of_mem_add isShared with earlier | rfl
        · exact shareWithin shared earlier
        · exact member
      · exact List.forall_mem_cons.mpr
          ⟨⟨routeRegistered, shareWithin⟩, inductionHypothesis restWithin⟩

/-- An assignment keeps what the routes carry. -/
theorem Carries.assign
    {carrier : ObligationHandler}
    {carried : Obligation}
    (carries : Carries routes carrier carried)
    (obligation : Obligation)
    (handler : ObligationHandler) :
    Carries (assign obligation handler routes) carrier carried := by
  obtain ⟨carrying, member, same, isShared⟩ := carries
  induction routes with
  | nil => cases member
  | cons route rest inductionHypothesis =>
      unfold ObligationRouter.assign
      split
      · rcases List.mem_cons.mp member with rfl | inRest
        · exact ⟨carrying.add obligation, List.mem_cons_self,
            carrying.handler_add obligation ▸ same,
            Route.mem_share_add_of_mem obligation isShared⟩
        · exact ⟨carrying, List.mem_cons_of_mem _ inRest, same, isShared⟩
      · rcases List.mem_cons.mp member with rfl | inRest
        · exact ⟨carrying, List.mem_cons_self, same, isShared⟩
        · obtain ⟨found, foundMember, foundSame, foundShared⟩ := inductionHypothesis inRest
          exact ⟨found, List.mem_cons_of_mem _ foundMember, foundSame, foundShared⟩

/-- An assigned obligation is carried to its handler. -/
theorem carries_assign_self
    (single : SingleById obligations)
    (within : Within handlers obligations routes)
    (member : obligation ∈ obligations)
    (handler : ObligationHandler) :
    Carries (assign obligation handler routes) handler obligation := by
  induction routes with
  | nil => exact ⟨⟨handler, [obligation]⟩, List.mem_cons_self, rfl, List.mem_cons_self⟩
  | cons route rest inductionHypothesis =>
      obtain ⟨⟨_, shareWithin⟩, restWithin⟩ := List.forall_mem_cons.mp within
      unfold assign
      split
      · rename_i same
        refine ⟨route.add obligation, List.mem_cons_self,
          route.handler_add obligation ▸ same, Route.mem_share_add_self ?_⟩
        intro shared isShared
        exact single shared (shareWithin shared isShared) obligation member
      · obtain ⟨found, foundMember, foundSame, foundShared⟩ := inductionHypothesis restWithin
        exact ⟨found, List.mem_cons_of_mem _ foundMember, foundSame, foundShared⟩

theorem assignAll_within
    {matching : List ObligationHandler}
    (within : Within handlers obligations routes)
    (registered : ∀ handler ∈ matching, handler ∈ handlers)
    (member : obligation ∈ obligations) :
    Within handlers obligations (assignAll obligation matching routes) := by
  induction matching generalizing routes with
  | nil => exact within
  | cons handler others inductionHypothesis =>
      obtain ⟨handlerRegistered, othersRegistered⟩ := List.forall_mem_cons.mp registered
      exact inductionHypothesis (assign_within within handlerRegistered member) othersRegistered

theorem Carries.assignAll
    {carrier : ObligationHandler}
    {carried : Obligation}
    (carries : Carries routes carrier carried)
    (obligation : Obligation)
    (matching : List ObligationHandler) :
    Carries (assignAll obligation matching routes) carrier carried := by
  induction matching generalizing routes with
  | nil => exact carries
  | cons handler others inductionHypothesis =>
      exact inductionHypothesis (carries.assign obligation handler)

/-- An obligation is carried to all handlers that it is assigned to. -/
theorem carries_assignAll_self
    {matching : List ObligationHandler}
    (single : SingleById obligations)
    (within : Within handlers obligations routes)
    (registered : ∀ handler ∈ matching, handler ∈ handlers)
    (member : obligation ∈ obligations)
    {handler : ObligationHandler}
    (isMatching : handler ∈ matching) :
    Carries (assignAll obligation matching routes) handler obligation := by
  induction matching generalizing routes with
  | nil => cases isMatching
  | cons first others inductionHypothesis =>
      obtain ⟨firstRegistered, othersRegistered⟩ := List.forall_mem_cons.mp registered
      rcases List.mem_cons.mp isMatching with rfl | isOther
      · exact (carries_assign_self single within member handler).assignAll obligation others
      · exact inductionHypothesis (assign_within within firstRegistered member)
          othersRegistered isOther

end Assignment

/-! ## Routing -/

/-- Some registered handler matches an obligation. -/
def Handles (router : ObligationRouter) (obligation : Obligation) : Prop :=
  ∃ handler ∈ router.handlers, handler.handles obligation = true

/-- A routing that fails names an obligation without a matching handler. -/
theorem unhandleable_of_routeAfter_error
    {router : ObligationRouter}
    {pending : List Obligation}
    {routes : List Route}
    {fault : Fault}
    (failed : router.routeAfter routes pending = .error fault) :
    ∃ obligation ∈ pending,
      ¬router.Handles obligation ∧ fault = .unhandleableObligation obligation.id := by
  induction pending generalizing routes with
  | nil => cases failed
  | cons obligation rest inductionHypothesis =>
      simp only [routeAfter] at failed
      split at failed
      · rename_i noneMatches
        cases failed
        refine ⟨obligation, List.mem_cons_self, ?_, rfl⟩
        rintro ⟨handler, registered, handles⟩
        exact List.filter_eq_nil_iff.mp noneMatches handler registered handles
      · obtain ⟨unmatched, member, reports⟩ := inductionHypothesis failed
        exact ⟨unmatched, List.mem_cons_of_mem _ member, reports⟩

/-- The routes of obligations told apart by their identifiers carry what they
carried before and each obligation to all handlers that match it, of which there
are some. -/
theorem carries_of_routeAfter_ok
    {router : ObligationRouter}
    {obligations pending : List Obligation}
    {routes final : List Route}
    (single : SingleById obligations)
    (within : Within router.handlers obligations routes)
    (included : ∀ obligation ∈ pending, obligation ∈ obligations)
    (succeeded : router.routeAfter routes pending = .ok final) :
    Within router.handlers obligations final ∧
      (∀ handler obligation,
        Carries routes handler obligation → Carries final handler obligation) ∧
      ∀ obligation ∈ pending,
        router.Handles obligation ∧
          ∀ handler ∈ router.handlers, handler.handles obligation = true →
            Carries final handler obligation := by
  induction pending generalizing routes with
  | nil =>
      cases succeeded
      exact ⟨within, fun _ _ carries => carries, by simp⟩
  | cons obligation rest inductionHypothesis =>
      obtain ⟨member, restIncluded⟩ := List.forall_mem_cons.mp included
      simp only [routeAfter] at succeeded
      split at succeeded
      · cases succeeded
      · rename_i first others matching
        rw [← matching] at succeeded
        have registered :
            ∀ handler ∈ router.handlers.filter fun handler => handler.handles obligation,
              handler ∈ router.handlers :=
          fun handler isMatching => (List.mem_filter.mp isMatching).1
        obtain ⟨finalWithin, kept, restCarried⟩ :=
          inductionHypothesis (assignAll_within within registered member) restIncluded succeeded
        refine ⟨finalWithin, fun handler carried carries =>
          kept handler carried (carries.assignAll obligation _),
          List.forall_mem_cons.mpr ⟨⟨?_, ?_⟩, restCarried⟩⟩
        · have isMatching : first ∈ router.handlers.filter fun handler =>
              handler.handles obligation := matching ▸ List.mem_cons_self
          exact ⟨first, List.mem_filter.mp isMatching⟩
        · intro handler isRegistered handles
          exact kept handler obligation
            (carries_assignAll_self single within registered member
              (List.mem_filter.mpr ⟨isRegistered, handles⟩))

/-! ## Dispatch -/

/-- A successful dispatch has handed every share to its handler. -/
theorem mem_calls_of_dispatch_ok
    {routes : List Route}
    (succeeded : (dispatch routes).2 = .ok ())
    {route : Route}
    (member : route ∈ routes) :
    ⟨route.handler, route.share⟩ ∈ (dispatch routes).1 ∧
      route.handler.outcome route.share = .ok () := by
  induction routes with
  | nil => cases member
  | cons first rest inductionHypothesis =>
      simp only [dispatch] at succeeded ⊢
      cases answered : first.handler.outcome first.share with
      | error fault =>
          rw [answered] at succeeded
          cases succeeded
      | ok done =>
          rw [answered] at succeeded
          rcases List.mem_cons.mp member with rfl | inRest
          · exact ⟨List.mem_cons_self, answered⟩
          · obtain ⟨called, succeeds⟩ := inductionHypothesis succeeded inRest
            exact ⟨List.mem_cons_of_mem _ called, succeeds⟩

/-- The handler of the first route is called in any case. -/
theorem calls_dispatch_ne_nil
    {routes : List Route} (some : routes ≠ []) : (dispatch routes).1 ≠ [] := by
  cases routes with
  | nil => exact absurd rfl some
  | cons first rest =>
      simp only [dispatch]
      cases first.handler.outcome first.share <;> simp

end ObligationRouter
end PolicyDecision
