import Mathlib.Data.List.Induction
import PolicyDecision.Proofs.Enforcement.Routing
import PolicyDecision.Proofs.Obligation
import PolicyDecision.Proofs.Union

/-!
# Delivery of obligations

Routing groups obligations by the handlers that they arrive at. Every handler
that matches some obligation gets those that it matches, each once and in order,
and the handlers stand in the order in which they are reached. Dispatching goes
through them up to the first that fails.
-/

namespace PolicyDecision

namespace ObligationHandler

/-- Handlers are told apart by their keys. -/
instance : BEq ObligationHandler := ⟨fun first second => first.key == second.key⟩

theorem beq_iff {first second : ObligationHandler} :
    (first == second) = true ↔ first.key = second.key := by
  change (first.key == second.key) = true ↔ _
  exact beq_iff_eq

theorem beq_self (handler : ObligationHandler) : (handler == handler) = true :=
  beq_iff.mpr rfl

end ObligationHandler

namespace ObligationRouter

variable
  {router : ObligationRouter}
  {obligations : List Obligation}
  {obligation : Obligation}
  {handler : ObligationHandler}

/-! ## Arrivals -/

/-- An obligation that arrives at a handler. -/
structure Arrival where
  handler : ObligationHandler
  obligation : Obligation

/-- The handlers that arrivals reach, each where it is reached first. -/
def reached (arrivals : List Arrival) : List ObligationHandler :=
  (arrivals.map Arrival.handler).eraseDups

/-- The different obligations that arrive at a handler, in order. -/
def shareAt (arrivals : List Arrival) (handler : ObligationHandler) : List Obligation :=
  ((arrivals.filter fun arrival => arrival.handler == handler).map Arrival.obligation).eraseDups

/-- The routes of arrivals. -/
def routesOf (arrivals : List Arrival) : List Route :=
  (reached arrivals).map fun handler => ⟨handler, shareAt arrivals handler⟩

theorem reached_concat (arrivals : List Arrival) (arrival : Arrival) :
    reached (arrivals ++ [arrival]) =
      if (reached arrivals).contains arrival.handler then reached arrivals
      else reached arrivals ++ [arrival.handler] := by
  simp only [reached, List.map_append, List.map_singleton, ← unionWith_nil_eq_eraseDups,
    unionWith_append, unionWith_cons, unionWith_nil]

theorem withoutRepetition_reached (arrivals : List Arrival) :
    WithoutRepetition (reached arrivals) := by
  rw [reached, ← unionWith_nil_eq_eraseDups]
  exact WithoutRepetition.unionWith .nil _

theorem exists_arrival_of_mem_reached
    {arrivals : List Arrival}
    (isReached : handler ∈ reached arrivals) : ∃ arrival ∈ arrivals, arrival.handler = handler := by
  exact List.mem_map.mp (mem_of_mem_eraseDups isReached)

theorem contains_reached_of_mem
    {arrivals : List Arrival}
    {arrival : Arrival}
    (arrives : arrival ∈ arrivals) : (reached arrivals).contains arrival.handler = true := by
  rw [reached, ← unionWith_nil_eq_eraseDups]
  exact contains_unionWith_of_mem (fun handler _ => handler.beq_self) []
    arrival.handler (List.mem_map_of_mem arrives)

/-- What arrives at a handler joins its share as a route is added to. -/
theorem add_shareAt
    (arrivals : List Arrival)
    {arrival : Arrival}
    (same : arrival.handler.key = handler.key) :
    (Route.mk handler (shareAt arrivals handler)).add arrival.obligation =
      ⟨handler, shareAt (arrivals ++ [arrival]) handler⟩ := by
  have arrives : [arrival].filter (fun other => other.handler == handler) = [arrival] :=
    List.filter_cons_of_pos (ObligationHandler.beq_iff.mpr same)
  simp only [Route.add, shareAt, List.filter_append, arrives, List.map_append,
    List.map_singleton, ← unionWith_nil_eq_eraseDups, unionWith_append, unionWith_cons,
    unionWith_nil]
  split <;> rfl

theorem shareAt_concat_of_ne
    (arrivals : List Arrival)
    {arrival : Arrival}
    (different : arrival.handler.key ≠ handler.key) :
    shareAt (arrivals ++ [arrival]) handler = shareAt arrivals handler := by
  have isOther : (arrival.handler == handler) = false :=
    Bool.eq_false_iff.mpr fun same => different (ObligationHandler.beq_iff.mp same)
  simp [shareAt, isOther]

theorem shareAt_eq_nil
    {arrivals : List Arrival}
    (unreached : (reached arrivals).contains handler = false) : shareAt arrivals handler = [] := by
  rw [shareAt, List.filter_eq_nil_iff.mpr, List.map_nil, List.eraseDups_nil]
  intro arrival arrives same
  have known := contains_reached_of_mem arrives
  obtain ⟨held, isReached, isHeld⟩ := List.contains_iff_exists_mem_beq.mp known
  have unknown : ¬(handler == held) = true := fun sameHeld =>
    Bool.false_ne_true (unreached.symm.trans
      (List.contains_iff_exists_mem_beq.mpr ⟨held, isReached, sameHeld⟩))
  rw [ObligationHandler.beq_iff] at same isHeld unknown
  exact unknown (same.symm.trans isHeld)

/-- Among the routes of some handlers an obligation is added to that of its handler,
or makes a new route. -/
theorem assign_map_shareAt
    (arrivals : List Arrival)
    {handlers : List ObligationHandler}
    (distinct : WithoutRepetition handlers)
    (arrival : Arrival) :
    assign arrival.obligation arrival.handler
        (handlers.map fun handler => ⟨handler, shareAt arrivals handler⟩) =
      (handlers.map fun handler => ⟨handler, shareAt (arrivals ++ [arrival]) handler⟩) ++
        if handlers.contains arrival.handler then []
        else [⟨arrival.handler, [arrival.obligation]⟩] := by
  induction handlers with
  | nil => rfl
  | cons handler rest inductionHypothesis =>
      obtain ⟨apart, restDistinct⟩ := List.pairwise_cons.mp distinct
      rw [List.map_cons, assign, List.map_cons, List.contains_cons]
      split
      · rename_i same
        have isSame : (arrival.handler == handler) = true := ObligationHandler.beq_iff.mpr same.symm
        have others :
            rest.map (fun other => Route.mk other (shareAt (arrivals ++ [arrival]) other)) =
              rest.map fun other => Route.mk other (shareAt arrivals other) := by
          refine List.map_congr_left fun other isOther => ?_
          rw [shareAt_concat_of_ne]
          intro sameOther
          have repeated : (other == handler) = true :=
            ObligationHandler.beq_iff.mpr (sameOther.symm.trans same.symm)
          exact Bool.false_ne_true ((apart other isOther).symm.trans repeated)
        rw [add_shareAt arrivals same.symm, others, isSame, Bool.true_or, if_pos rfl,
          List.append_nil]
      · rename_i different
        have isOther : (arrival.handler == handler) = false :=
          Bool.eq_false_iff.mpr fun same => different (ObligationHandler.beq_iff.mp same).symm
        rw [inductionHypothesis restDistinct, shareAt_concat_of_ne arrivals (Ne.symm different),
          isOther, Bool.false_or, List.cons_append]

/-- Assigning an obligation to a handler is one more arrival. -/
theorem assign_routesOf (arrivals : List Arrival) (arrival : Arrival) :
    assign arrival.obligation arrival.handler (routesOf arrivals) =
      routesOf (arrivals ++ [arrival]) := by
  unfold routesOf
  rw [assign_map_shareAt arrivals (withoutRepetition_reached arrivals), reached_concat]
  split
  · rw [List.append_nil]
  · rename_i unreached
    have alone := add_shareAt arrivals (Eq.refl arrival.handler.key)
    rw [shareAt_eq_nil (Bool.eq_false_iff.mpr unreached)] at alone
    rw [List.map_append, List.map_singleton, ← alone]
    rfl

/-- Assigning arrivals one after another gives their routes. -/
theorem foldl_assign_routesOf (arrivals more : List Arrival) :
    more.foldl (fun routes arrival => assign arrival.obligation arrival.handler routes)
        (routesOf arrivals) = routesOf (arrivals ++ more) := by
  induction more generalizing arrivals with
  | nil => rw [List.foldl_nil, List.append_nil]
  | cons arrival rest inductionHypothesis =>
      rw [List.foldl_cons, assign_routesOf, inductionHypothesis, List.append_assoc,
        List.singleton_append]

/-! ## Arrivals of a routing -/

/-- The registered handlers that match an obligation, in order. -/
def matching (router : ObligationRouter) (obligation : Obligation) : List ObligationHandler :=
  router.handlers.filter fun handler => handler.handles obligation

/-- The obligations arrive one after another, each at all handlers that match it in
the order of their registration. -/
def arrivals (router : ObligationRouter) (obligations : List Obligation) : List Arrival :=
  obligations.flatMap fun obligation =>
    (router.matching obligation).map fun handler => ⟨handler, obligation⟩

theorem mem_matching :
    handler ∈ router.matching obligation ↔
      handler ∈ router.handlers ∧ handler.handles obligation = true :=
  List.mem_filter

theorem mem_arrivals {arrival : Arrival} :
    arrival ∈ router.arrivals obligations ↔
      arrival.obligation ∈ obligations ∧ arrival.handler ∈ router.handlers ∧
        arrival.handler.handles arrival.obligation = true := by
  simp only [arrivals, List.mem_flatMap, List.mem_map, mem_matching]
  constructor
  · rintro ⟨obligation, member, handler, registered, rfl⟩
    exact ⟨member, registered⟩
  · rintro ⟨member, registered⟩
    exact ⟨arrival.obligation, member, arrival.handler, registered, rfl⟩

theorem handles_iff_matching_ne_nil :
    router.Handles obligation ↔ router.matching obligation ≠ [] := by
  rw [ne_eq, List.eq_nil_iff_forall_not_mem, not_forall_not]
  simp only [Handles, mem_matching]

theorem routeAfter_cons_of_handles
    (handles : router.Handles obligation)
    (routes : List Route)
    (rest : List Obligation) :
    router.routeAfter routes (obligation :: rest) =
      router.routeAfter (assignAll obligation (router.matching obligation) routes) rest := by
  have someMatch := handles_iff_matching_ne_nil.mp handles
  unfold matching at someMatch ⊢
  rw [routeAfter]
  split
  · rename_i noneMatch
    exact absurd noneMatch someMatch
  · rename_i first others isMatching
    rw [isMatching]

theorem routeAfter_cons_of_not_handles
    (unhandled : ¬router.Handles obligation)
    (routes : List Route)
    (rest : List Obligation) :
    router.routeAfter routes (obligation :: rest) =
      .error (.unhandleableObligation obligation.id) := by
  have noneMatch : router.matching obligation = [] := by
    simpa using handles_iff_matching_ne_nil.not.mp unhandled
  unfold matching at noneMatch
  simp only [routeAfter, noneMatch]

theorem assignAll_routesOf (before : List Arrival) (obligation : Obligation) :
    assignAll obligation (router.matching obligation) (routesOf before) =
      routesOf (before ++ router.arrivals [obligation]) := by
  rw [arrivals, List.flatMap_singleton, ← foldl_assign_routesOf, List.foldl_map, assignAll]

/-- Obligations that all have a handler are routed as they arrive. -/
theorem routeAfter_eq_ok
    (handled : ∀ obligation ∈ obligations, router.Handles obligation)
    (before : List Arrival) :
    router.routeAfter (routesOf before) obligations =
      .ok (routesOf (before ++ router.arrivals obligations)) := by
  induction obligations generalizing before with
  | nil =>
      rw [arrivals, List.flatMap_nil, List.append_nil]
      rfl
  | cons obligation rest inductionHypothesis =>
      obtain ⟨isHandled, restHandled⟩ := List.forall_mem_cons.mp handled
      rw [routeAfter_cons_of_handles isHandled, assignAll_routesOf,
        inductionHypothesis restHandled, List.append_assoc]
      simp only [arrivals, List.flatMap_cons, List.flatMap_nil, List.append_nil]

theorem route_eq_ok (handled : ∀ obligation ∈ obligations, router.Handles obligation) :
    router.route obligations = .ok (routesOf (router.arrivals obligations)) :=
  routeAfter_eq_ok handled []

/-- Routing fails at the first obligation without a handler. -/
theorem routeAfter_eq_error_iff {routes : List Route} {fault : Fault} :
    router.routeAfter routes obligations = .error fault ↔
      ∃ before unhandled after, obligations = before ++ unhandled :: after ∧
        (∀ obligation ∈ before, router.Handles obligation) ∧ ¬router.Handles unhandled ∧
        fault = .unhandleableObligation unhandled.id := by
  induction obligations generalizing routes with
  | nil => simp [routeAfter]
  | cons obligation rest inductionHypothesis =>
      by_cases handled : router.Handles obligation
      · rw [routeAfter_cons_of_handles handled, inductionHypothesis]
        constructor
        · rintro ⟨before, unhandled, after, rfl, allHandled, failing⟩
          exact ⟨obligation :: before, unhandled, after, rfl,
            List.forall_mem_cons.mpr ⟨handled, allHandled⟩, failing⟩
        · rintro ⟨before, unhandled, after, split, allHandled, isUnhandled, isFault⟩
          cases before with
          | nil =>
              cases split
              exact absurd handled isUnhandled
          | cons first others =>
              cases split
              exact ⟨others, unhandled, after, rfl, (List.forall_mem_cons.mp allHandled).2,
                isUnhandled, isFault⟩
      · rw [routeAfter_cons_of_not_handles handled]
        constructor
        · rintro ⟨⟩
          exact ⟨[], obligation, rest, rfl, by simp, handled, rfl⟩
        · rintro ⟨before, unhandled, after, split, allHandled, -, rfl⟩
          cases before with
          | nil =>
              cases split
              rfl
          | cons first others =>
              cases split
              exact absurd (allHandled obligation List.mem_cons_self) handled

/-! ## Shares -/

/-- Registered handlers with one key are the same handler, which may be registered
several times. -/
def Identified (router : ObligationRouter) : Prop :=
  ∀ first ∈ router.handlers, ∀ second ∈ router.handlers, first.key = second.key → first = second

/-- An obligation arrives at a handler as often as the handler is registered, or not
at all. -/
theorem arrivals_at
    (router : ObligationRouter)
    (handler : ObligationHandler)
    (obligations : List Obligation) :
    ((router.arrivals obligations).filter fun arrival => arrival.handler == handler).map
        Arrival.obligation =
      obligations.flatMap fun obligation =>
        List.replicate ((router.matching obligation).countP (· == handler)) obligation := by
  rw [arrivals, List.filter_flatMap, List.map_flatMap]
  congr 1
  funext obligation
  rw [List.filter_map, List.map_map, List.countP_eq_length_filter]
  exact List.map_const' ..

/-- A registered handler gets the obligations that it matches, each once. -/
theorem shareAt_arrivals
    (identified : router.Identified)
    (comparable : ∀ obligation ∈ obligations, obligation.IsComparable)
    (registered : handler ∈ router.handlers) :
    shareAt (router.arrivals obligations) handler =
      (obligations.filter handler.handles).eraseDups := by
  rw [shareAt, arrivals_at, ← unionWith_nil_eq_eraseDups,
    unionWith_flatMap_replicate fun obligation member => (comparable obligation member).beq_self,
    unionWith_nil_eq_eraseDups]
  congr 1
  refine List.filter_congr fun obligation _ => ?_
  rw [Bool.eq_iff_iff, decide_eq_true_iff, List.countP_pos_iff]
  constructor
  · rintro ⟨found, isMatching, same⟩
    obtain ⟨isRegistered, handles⟩ := mem_matching.mp isMatching
    rw [← identified found isRegistered handler registered (ObligationHandler.beq_iff.mp same)]
    exact handles
  · intro handles
    exact ⟨handler, mem_matching.mpr ⟨registered, handles⟩, handler.beq_self⟩

/-- The handlers that are reached are those that match some obligation. -/
theorem mem_reached_arrivals
    (identified : router.Identified) :
    handler ∈ reached (router.arrivals obligations) ↔
      handler ∈ router.handlers ∧
        ∃ obligation ∈ obligations, handler.handles obligation = true := by
  constructor
  · intro isReached
    obtain ⟨arrival, arrives, rfl⟩ := exists_arrival_of_mem_reached isReached
    obtain ⟨member, registered, handles⟩ := mem_arrivals.mp arrives
    exact ⟨registered, arrival.obligation, member, handles⟩
  · rintro ⟨registered, obligation, member, handles⟩
    have arrives : ⟨handler, obligation⟩ ∈ router.arrivals obligations :=
      mem_arrivals.mpr ⟨member, registered, handles⟩
    obtain ⟨held, isReached, same⟩ :=
      List.contains_iff_exists_mem_beq.mp (contains_reached_of_mem arrives)
    obtain ⟨arrival, heldArrives, rfl⟩ := exists_arrival_of_mem_reached isReached
    have heldRegistered := (mem_arrivals.mp heldArrives).2.1
    rw [identified handler registered _ heldRegistered (ObligationHandler.beq_iff.mp same)]
    exact isReached

/-! ## The order of handlers -/

/-- The place of the first obligation that a handler matches. -/
def reachedAt (obligations : List Obligation) (handler : ObligationHandler) : Nat :=
  obligations.findIdx handler.handles

/-- The place at which a handler is registered first. -/
def registeredAt (handlers : List ObligationHandler) (handler : ObligationHandler) : Nat :=
  handlers.findIdx fun registered => registered.key == handler.key

/-- An earlier obligation reaches the first handler, or the same one reaches both and
the first is registered earlier. -/
def Precedes
    (router : ObligationRouter)
    (obligations : List Obligation)
    (first second : ObligationHandler) : Prop :=
  reachedAt obligations first < reachedAt obligations second ∨
    reachedAt obligations first = reachedAt obligations second ∧
      registeredAt router.handlers first < registeredAt router.handlers second

theorem registeredAt_cons_self (handler : ObligationHandler) (rest : List ObligationHandler) :
    registeredAt (handler :: rest) handler = 0 := by
  simp [registeredAt, List.findIdx_cons]

theorem registeredAt_cons_of_ne
    {first : ObligationHandler}
    (different : first.key ≠ handler.key)
    (rest : List ObligationHandler) :
    registeredAt (first :: rest) handler = registeredAt rest handler + 1 := by
  simp [registeredAt, List.findIdx_cons, beq_eq_false_iff_ne.mpr different]

/-- Selected handlers without their repetitions stand in the order of their
registration. -/
theorem pairwise_registeredAt
    {handlers : List ObligationHandler}
    (identified : ∀ first ∈ handlers, ∀ second ∈ handlers, first.key = second.key → first = second)
    (selected : ObligationHandler → Bool) :
    (handlers.filter selected).eraseDups.Pairwise fun first second =>
      registeredAt handlers first < registeredAt handlers second := by
  induction handlers generalizing selected with
  | nil => exact .nil
  | cons head rest inductionHypothesis =>
      have restIdentified := fun first isFirst second isSecond =>
        identified first (List.mem_cons_of_mem _ isFirst) second (List.mem_cons_of_mem _ isSecond)
      -- Both ways of choosing leave handlers of the rest that differ from the head.
      have ordered
          (chosen : ObligationHandler → Bool)
          (others : ∀ handler ∈ rest, chosen handler = true → head.key ≠ handler.key) :
          (rest.filter chosen).eraseDups.Pairwise fun first second =>
            registeredAt (head :: rest) first < registeredAt (head :: rest) second := by
        refine (inductionHypothesis restIdentified chosen).imp_of_mem ?_
        intro first second isFirst isSecond before
        obtain ⟨firstRest, firstChosen⟩ := List.mem_filter.mp (mem_of_mem_eraseDups isFirst)
        obtain ⟨secondRest, secondChosen⟩ := List.mem_filter.mp (mem_of_mem_eraseDups isSecond)
        rw [registeredAt_cons_of_ne (others first firstRest firstChosen),
          registeredAt_cons_of_ne (others second secondRest secondChosen)]
        exact Nat.succ_lt_succ before
      cases isSelected : selected head with
      | false =>
          rw [List.filter_cons_of_neg (by simp [isSelected])]
          refine ordered selected fun handler isRest chosen same => ?_
          rw [← identified head List.mem_cons_self handler (List.mem_cons_of_mem _ isRest) same,
            isSelected] at chosen
          exact Bool.false_ne_true chosen
      | true =>
          rw [List.filter_cons_of_pos isSelected, List.eraseDups_cons, List.filter_filter]
          have differs (handler : ObligationHandler)
              (chosen : (!handler == head && selected handler) = true) :
              head.key ≠ handler.key := by
            intro same
            rw [ObligationHandler.beq_iff.mpr same.symm] at chosen
            cases chosen
          refine List.pairwise_cons.mpr ⟨fun handler isLater => ?_, ordered _ fun handler _ =>
            differs handler⟩
          obtain ⟨-, chosen⟩ := List.mem_filter.mp (mem_of_mem_eraseDups isLater)
          rw [registeredAt_cons_self, registeredAt_cons_of_ne (differs handler chosen)]
          exact Nat.succ_pos _

/-- Another obligation reaches the handlers that match it and were not reached
before. -/
theorem reached_arrivals_concat
    (router : ObligationRouter)
    (earlier : List Obligation)
    (obligation : Obligation) :
    reached (router.arrivals (earlier ++ [obligation])) =
      reached (router.arrivals earlier) ++
        (router.handlers.filter fun handler =>
          !(reached (router.arrivals earlier)).contains handler &&
            handler.handles obligation).eraseDups := by
  have handlers : (router.arrivals (earlier ++ [obligation])).map Arrival.handler =
      (router.arrivals earlier).map Arrival.handler ++ router.matching obligation := by
    simp [arrivals, Function.comp_def]
  rw [reached, handlers, ← unionWith_nil_eq_eraseDups, unionWith_append,
    unionWith_nil_eq_eraseDups, unionWith_eq_append_eraseDups, matching, List.filter_filter]
  rfl

/-- A handler that is reached is reached at the same place when obligations
follow. -/
theorem reachedAt_append
    {earlier : List Obligation}
    (inside : reachedAt earlier handler < earlier.length)
    (later : List Obligation) :
    reachedAt (earlier ++ later) handler = reachedAt earlier handler := by
  rw [reachedAt, List.findIdx_append]
  exact if_pos inside

theorem reachedAt_lt_length
    (isReached : handler ∈ reached (router.arrivals obligations)) :
    reachedAt obligations handler < obligations.length := by
  obtain ⟨arrival, arrives, rfl⟩ := exists_arrival_of_mem_reached isReached
  obtain ⟨member, -, handles⟩ := mem_arrivals.mp arrives
  exact List.findIdx_lt_length_of_exists ⟨arrival.obligation, member, handles⟩

/-- A handler that was not reached before is reached by the first further obligation
that it matches. -/
theorem reachedAt_concat_of_unreached
    {earlier : List Obligation}
    (registered : handler ∈ router.handlers)
    (unreached : (reached (router.arrivals earlier)).contains handler = false)
    (handles : handler.handles obligation = true) :
    reachedAt (earlier ++ [obligation]) handler = earlier.length := by
  have noneEarlier : earlier.findIdx handler.handles = earlier.length := by
    rw [List.findIdx_eq_length]
    intro other member
    refine Bool.eq_false_iff.mpr fun handlesOther => ?_
    have arrives : ⟨handler, other⟩ ∈ router.arrivals earlier :=
      mem_arrivals.mpr ⟨member, registered, handlesOther⟩
    exact Bool.false_ne_true (unreached.symm.trans (contains_reached_of_mem arrives))
  rw [reachedAt, List.findIdx_append, noneEarlier, if_neg (Nat.lt_irrefl _), List.findIdx_cons,
    handles, cond_true, Nat.zero_add]

/-- The handlers stand in the order in which they are reached. -/
theorem pairwise_precedes
    (identified : router.Identified)
    (obligations : List Obligation) :
    (reached (router.arrivals obligations)).Pairwise (router.Precedes obligations) := by
  induction obligations using List.reverseRecOn with
  | nil => exact .nil
  | append_singleton earlier obligation inductionHypothesis =>
      have isNew {handler : ObligationHandler}
          (member : handler ∈ (router.handlers.filter fun handler =>
            !(reached (router.arrivals earlier)).contains handler &&
              handler.handles obligation).eraseDups) :
          reachedAt (earlier ++ [obligation]) handler = earlier.length := by
        obtain ⟨registered, chosen⟩ := List.mem_filter.mp (mem_of_mem_eraseDups member)
        rw [Bool.and_eq_true, Bool.not_eq_true'] at chosen
        exact reachedAt_concat_of_unreached registered chosen.1 chosen.2
      rw [reached_arrivals_concat]
      refine List.pairwise_append.mpr ⟨?_, ?_, ?_⟩
      · refine inductionHypothesis.imp_of_mem fun {first second} isFirst isSecond precedes => ?_
        unfold Precedes at precedes ⊢
        rw [reachedAt_append (reachedAt_lt_length isFirst),
          reachedAt_append (reachedAt_lt_length isSecond)]
        exact precedes
      · refine (pairwise_registeredAt identified _).imp_of_mem ?_
        intro first second isFirst isSecond before
        exact .inr ⟨(isNew isFirst).trans (isNew isSecond).symm, before⟩
      · intro first isFirst second isSecond
        refine .inl ?_
        rw [reachedAt_append (reachedAt_lt_length isFirst), isNew isSecond]
        exact reachedAt_lt_length isFirst

/-- The routes group obligations by handlers: those that match some obligation, in the
order in which they are reached, each with the different obligations that it matches
in their order. -/
structure Groups
    (router : ObligationRouter)
    (obligations : List Obligation)
    (routes : List Route) : Prop where
  reaches : ∀ handler, handler ∈ routes.map Route.handler ↔
    handler ∈ router.handlers ∧ ∃ obligation ∈ obligations, handler.handles obligation = true
  distinct : (routes.map fun route => route.handler.key).Nodup
  shares : ∀ route ∈ routes,
    route.share = (obligations.filter route.handler.handles).eraseDups
  ordered : (routes.map Route.handler).Pairwise (router.Precedes obligations)

theorem groups_routesOf
    (identified : router.Identified)
    (comparable : ∀ obligation ∈ obligations, obligation.IsComparable) :
    router.Groups obligations (routesOf (router.arrivals obligations)) := by
  have handlers : (routesOf (router.arrivals obligations)).map Route.handler =
      reached (router.arrivals obligations) := by
    simp [routesOf, Function.comp_def]
  refine ⟨fun handler => ?_, ?_, ?_, ?_⟩
  · rw [handlers]
    exact mem_reached_arrivals identified
  · have keys := (withoutRepetition_reached (router.arrivals obligations)).imp
      (S := fun first second => first.key ≠ second.key) fun different same =>
        Bool.false_ne_true (different.symm.trans (ObligationHandler.beq_iff.mpr same.symm))
    rw [← handlers, List.pairwise_map] at keys
    exact List.pairwise_map.mpr keys
  · intro route isRoute
    obtain ⟨handler, isReached, rfl⟩ := List.mem_map.mp isRoute
    exact shareAt_arrivals identified comparable ((mem_reached_arrivals identified).mp isReached).1
  · rw [handlers]
    exact pairwise_precedes identified obligations

end ObligationRouter

/-! ## Dispatch -/

namespace Route

/-- The call that hands a handler its share. -/
def call (route : Route) : HandlerCall := ⟨route.handler, route.share⟩

/-- What the handler answers when it is handed its share. -/
def outcome (route : Route) : Except Fault Unit := route.handler.outcome route.share

end Route

namespace ObligationRouter

/-- The calls of a dispatch with its answer: every handler is handed its share in
order, up to and including the first that fails. -/
inductive HandsOver (routes : List Route) : List HandlerCall × Except Fault Unit → Prop
  | completed :
      (∀ route ∈ routes, route.outcome = .ok ()) →
      HandsOver routes (routes.map Route.call, .ok ())
  | failed (before : List Route) {after : List Route} {failing : Route} {fault : Fault} :
      routes = before ++ failing :: after →
      (∀ route ∈ before, route.outcome = .ok ()) →
      failing.outcome = .error fault →
      HandsOver routes ((before ++ [failing]).map Route.call, .error fault)

theorem handsOver_dispatch (routes : List Route) : HandsOver routes (dispatch routes) := by
  induction routes with
  | nil => exact .completed (by simp)
  | cons route rest inductionHypothesis =>
      rw [dispatch]
      cases answered : route.handler.outcome route.share with
      | error fault => exact .failed [] rfl (by simp) answered
      | ok =>
          generalize dispatched : dispatch rest = answer at inductionHypothesis ⊢
          cases inductionHypothesis with
          | completed allSucceed =>
              exact .completed (List.forall_mem_cons.mpr ⟨answered, allSucceed⟩)
          | @failed before after failing fault split succeed fails =>
              exact .failed (route :: before) (by rw [split, List.cons_append])
                (List.forall_mem_cons.mpr ⟨answered, succeed⟩) fails

/-! ## Delivery -/

/-- Routing obligations and dispatching the routes. -/
structure Delivers (router : ObligationRouter) (obligations : List Obligation) : Prop where
  /-- Routing fails at the first obligation that no handler matches, and names it. -/
  refuses : ∀ fault, router.route obligations = .error fault ↔
    ∃ before unhandled after, obligations = before ++ unhandled :: after ∧
      (∀ obligation ∈ before, router.Handles obligation) ∧ ¬router.Handles unhandled ∧
      fault = .unhandleableObligation unhandled.id
  /-- Otherwise it groups the obligations by handlers. -/
  groups : (∀ obligation ∈ obligations, router.Handles obligation) →
    ∃ routes, router.route obligations = .ok routes ∧ router.Groups obligations routes
  /-- The handlers are then handed their shares. -/
  handsOver : ∀ routes, router.route obligations = .ok routes →
    HandsOver routes (dispatch routes)

/-- A router whose handlers are identified by their keys delivers all obligations that
equal themselves. -/
theorem delivers
    {router : ObligationRouter}
    (identified : router.Identified)
    {obligations : List Obligation}
    (comparable : ∀ obligation ∈ obligations, obligation.IsComparable) :
    router.Delivers obligations where
  refuses := fun _ => routeAfter_eq_error_iff
  groups := fun handled => ⟨_, route_eq_ok handled, groups_routesOf identified comparable⟩
  handsOver := fun routes _ => handsOver_dispatch routes

/-- A handler that is registered twice around one that matches everything. The latter
is reached first, and the other one fails after it. -/
theorem delivers_of_repeated_handler :
    let mail : ObligationHandler :=
      ⟨0, "mail", fun obligation => obligation.id == "notify", fun _ => .error (.evaluation "down")⟩
    let audit : ObligationHandler := ⟨1, "audit", fun _ => true, fun _ => .ok ()⟩
    let router : ObligationRouter := ⟨[mail, audit, mail]⟩
    let log : Obligation := ⟨"log", [⟨"to", none, .boolean true⟩]⟩
    let notify : Obligation := ⟨"notify", []⟩
    let obligations := [log, notify, log]
    router.Identified ∧ (∀ obligation ∈ obligations, obligation.IsComparable) ∧
      ∃ routes, router.route obligations = .ok routes ∧ router.Groups obligations routes ∧
        routes = [⟨audit, [log, notify]⟩, ⟨mail, [notify]⟩] ∧
        HandsOver routes (routes.map Route.call, .error (.evaluation "down")) := by
  intro mail audit router log notify obligations
  have identified : router.Identified := by
    simp [Identified, router, mail, audit]
  have comparable : ∀ obligation ∈ obligations, obligation.IsComparable := by
    simp [obligations, log, notify, Obligation.IsComparable, Value.IsComparable]
  have handled : ∀ obligation ∈ obligations, router.Handles obligation := fun obligation _ =>
    ⟨audit, by simp [router], rfl⟩
  have delivery := delivers identified comparable
  obtain ⟨routes, routed, groups⟩ := delivery.groups handled
  have isRoutes : routes = [⟨audit, [log, notify]⟩, ⟨mail, [notify]⟩] := by
    have computed : router.route obligations =
        .ok [⟨audit, [log, notify]⟩, ⟨mail, [notify]⟩] := rfl
    exact Except.ok.inj (routed.symm.trans computed)
  have handed := delivery.handsOver routes routed
  subst isRoutes
  exact ⟨identified, comparable, _, routed, groups, rfl, handed⟩

end ObligationRouter
end PolicyDecision
