import PolicyDecision.Proofs.Decision
import PolicyDecision.Proofs.Engine.Evaluation
import PolicyDecision.Proofs.Obligation
import PolicyDecision.Proofs.SortedMap
import PolicyDecision.Proofs.Union

/-!
# Permissions and decisions

The permissions of a request group what its individual requests are decided. A
decision has an entry for an action when the action is asked for in an
individual request with that decision, and the entry gathers the policies and
obligations of all such results.
-/

namespace PolicyDecision

/-! ## Entries -/

/-- The identifiers of the policies and then of the policy sets of a result. -/
def DecisionResult.contributors (result : DecisionResult) : List String :=
  (result.policyIdentifiers ++ result.policySetIdentifiers).map PolicyIdentifier.id

namespace ActionEntry

theorem foldl_addPolicy (ids : List String) (entry : ActionEntry) :
    ids.foldl addPolicy entry = { entry with policies := unionWith entry.policies ids } := by
  induction ids generalizing entry with
  | nil => rfl
  | cons id rest inductionHypothesis =>
      rw [List.foldl_cons, inductionHypothesis, unionWith_cons, addPolicy]
      split <;> rfl

theorem foldl_addObligation (obligations : List Obligation) (entry : ActionEntry) :
    obligations.foldl addObligation entry =
      { entry with obligations := unionWith entry.obligations obligations } := by
  induction obligations generalizing entry with
  | nil => rfl
  | cons obligation rest inductionHypothesis =>
      rw [List.foldl_cons, inductionHypothesis, unionWith_cons, addObligation]
      split <;> rfl

end ActionEntry

namespace Engine

/-- A result contributes its policies and obligations that are not there yet. -/
theorem contribute_eq (result : DecisionResult) (entry : ActionEntry) :
    contribute result entry =
      ⟨unionWith entry.policies result.contributors,
        unionWith entry.obligations result.obligations⟩ := by
  rw [contribute, ActionEntry.foldl_addPolicy, ActionEntry.foldl_addObligation,
    DecisionResult.contributors]

/-- Results contribute their policies and obligations in first-seen order. -/
theorem foldl_contribute (results : List DecisionResult) (entry : ActionEntry) :
    results.foldl (fun held result => contribute result held) entry =
      ⟨unionWith entry.policies (results.flatMap DecisionResult.contributors),
        unionWith entry.obligations (results.flatMap DecisionResult.obligations)⟩ := by
  induction results generalizing entry with
  | nil => rfl
  | cons result rest inductionHypothesis =>
      rw [List.foldl_cons, inductionHypothesis, contribute_eq, List.flatMap_cons,
        List.flatMap_cons, unionWith_append, unionWith_append]

end Engine

namespace PermissionsResult

/-! ## Grouped entries -/

/-- A change concerns the entry of its own decision and action. -/
theorem get?_actionsOf_change
    (permissions : PermissionsResult)
    (decision : Decision)
    (action : String)
    (update : ActionEntry → ActionEntry)
    (asked : Decision)
    (askedAction : String) :
    ((permissions.change decision action update).actionsOf asked).get? askedAction =
      if decision = asked ∧ action = askedAction then
        some (update (((permissions.actionsOf decision).get? action).getD .empty))
      else (permissions.actionsOf asked).get? askedAction := by
  rw [actionsOf, change, SortedMap.get?_alter]
  by_cases sameDecision : decision = asked
  · subst sameDecision
    rw [if_pos rfl, Option.getD_some, SortedMap.get?_alter]
    by_cases sameAction : action = askedAction
    · rw [if_pos sameAction, if_pos ⟨rfl, sameAction⟩]
      rfl
    · rw [if_neg sameAction, if_neg fun both => sameAction both.2]
      rfl
  · rw [if_neg sameDecision, if_neg fun both => sameDecision both.1]
    rfl

/-- Every decision that is listed has an entry for some action. -/
def Occupied (permissions : PermissionsResult) : Prop :=
  ∀ decision ∈ permissions.decisions,
    ∃ action, ((permissions.actionsOf decision).get? action).isSome

theorem occupied_empty : empty.Occupied := fun _ listed => by cases listed

/-- A change adds no decision without an entry. -/
theorem Occupied.change
    {permissions : PermissionsResult}
    (occupied : permissions.Occupied)
    (decision : Decision)
    (action : String)
    (update : ActionEntry → ActionEntry) :
    (permissions.change decision action update).Occupied := by
  intro asked listed
  by_cases same : decision = asked
  · exact ⟨action, by rw [get?_actionsOf_change, if_pos ⟨same, rfl⟩]; rfl⟩
  · have listedBefore : asked ∈ permissions.decisions := by
      rw [decisions, SortedMap.mem_keys_iff] at listed ⊢
      rwa [PermissionsResult.change, SortedMap.get?_alter, if_neg same] at listed
    obtain ⟨other, hasEntry⟩ := occupied asked listedBefore
    exact ⟨other, by rwa [get?_actionsOf_change, if_neg fun both => same both.1]⟩

theorem mem_decisions_of_isSome
    {permissions : PermissionsResult}
    {decision : Decision}
    {action : String}
    (hasEntry : ((permissions.actionsOf decision).get? action).isSome) :
    decision ∈ permissions.decisions := by
  rw [decisions, SortedMap.mem_keys_iff]
  cases held : permissions.byDecision.get? decision with
  | some actions => rfl
  | none =>
      rw [actionsOf, held] at hasEntry
      cases hasEntry

end PermissionsResult

/-! ## Permissions of decided requests -/

section Decided

variable
  (decision : Decision)
  (action : String)
  (decided : List (IndividualRequest × DecisionResult))

/-- The results with a decision on an action, among those of individual
requests. -/
def resultsOn : List DecisionResult :=
  (decided.filter fun pair => pair.2.decision = decision ∧ action ∈ pair.1.actions).map Prod.snd

/-- The results with a decision on an action, each as often as its individual
request names the action. -/
def occurrencesOn : List DecisionResult :=
  decided.flatMap fun pair =>
    if pair.2.decision = decision then List.replicate (pair.1.actions.count action) pair.2 else []

variable {decision action decided}

theorem occurrencesOn_ne_nil_iff :
    occurrencesOn decision action decided ≠ [] ↔
      ∃ pair ∈ decided, pair.2.decision = decision ∧ action ∈ pair.1.actions := by
  simp [occurrencesOn, List.flatMap_eq_nil_iff, List.count_eq_zero]

/-- What is attached to results is gathered alike from all occurrences and from
one for each result, if it equals itself. -/
theorem unionWith_flatMap_occurrencesOn
    {α : Type} [BEq α]
    {attached : DecisionResult → List α}
    (reflexive : ∀ result ∈ resultsOn decision action decided,
      ∀ item ∈ attached result, (item == item) = true)
    (held : List α) :
    unionWith held ((occurrencesOn decision action decided).flatMap attached) =
      unionWith held ((resultsOn decision action decided).flatMap attached) := by
  induction decided generalizing held with
  | nil => rfl
  | cons pair rest inductionHypothesis =>
      obtain ⟨individual, result⟩ := pair
      rw [occurrencesOn, List.flatMap_cons, ← occurrencesOn, List.flatMap_append, unionWith_append]
      by_cases isOn : result.decision = decision ∧ action ∈ individual.actions
      · have listed : resultsOn decision action ((individual, result) :: rest) =
            result :: resultsOn decision action rest := by
          simp [resultsOn, isOn]
        rw [listed] at reflexive ⊢
        obtain ⟨itself, restReflexive⟩ := List.forall_mem_cons.mp reflexive
        obtain ⟨further, count⟩ : ∃ further, individual.actions.count action = further + 1 :=
          Nat.exists_eq_add_of_lt (List.count_pos_iff.mpr isOn.2) |>.imp fun _ => by omega
        dsimp only
        rw [if_pos isOn.1, count, List.flatMap_def, List.map_replicate,
          unionWith_flatten_replicate itself, inductionHypothesis restReflexive,
          List.flatMap_cons, unionWith_append]
      · have unlisted : resultsOn decision action ((individual, result) :: rest) =
            resultsOn decision action rest := by
          simp [resultsOn, isOn]
        have noOccurrence : (if result.decision = decision then
            List.replicate (individual.actions.count action) result else []) = [] := by
          split
          · rename_i sameDecision
            rw [List.count_eq_zero.mpr fun named => isOn ⟨sameDecision, named⟩]
            rfl
          · rfl
        rw [unlisted] at reflexive ⊢
        dsimp only
        rw [noOccurrence]
        exact inductionHypothesis reflexive held

end Decided

namespace Engine

/-- The entry of a decision on an action after one more result on them. -/
def received (held : Option ActionEntry) (result : DecisionResult) : Option ActionEntry :=
  some (contribute result (held.getD .empty))

/-- An individual request contributes its result to the entry of its decision on
an action, each time that it names the action. -/
theorem get?_actionsOf_addPermission
    (permissions : PermissionsResult)
    (individual : IndividualRequest)
    (result : DecisionResult)
    (decision : Decision)
    (action : String) :
    ((addPermission permissions (individual, result)).actionsOf decision).get? action =
      (if result.decision = decision then
          List.replicate (individual.actions.count action) result
        else []).foldl received ((permissions.actionsOf decision).get? action) := by
  unfold addPermission
  dsimp only
  induction individual.actions generalizing permissions with
  | nil => simp
  | cons first rest inductionHypothesis =>
      rw [List.foldl_cons, inductionHypothesis, PermissionsResult.get?_actionsOf_change]
      by_cases sameDecision : result.decision = decision
      · subst sameDecision
        by_cases isFirst : first = action
        · subst isFirst
          simp [List.replicate_succ, received]
        · simp [isFirst]
      · simp [sameDecision]

/-- The entry of a decision on an action receives all results on them in
order. -/
theorem get?_actionsOf_foldl_addPermission
    (decided : List (IndividualRequest × DecisionResult))
    (permissions : PermissionsResult)
    (decision : Decision)
    (action : String) :
    ((decided.foldl addPermission permissions).actionsOf decision).get? action =
      (occurrencesOn decision action decided).foldl received
        ((permissions.actionsOf decision).get? action) := by
  induction decided generalizing permissions with
  | nil => rfl
  | cons pair rest inductionHypothesis =>
      rw [List.foldl_cons, inductionHypothesis, get?_actionsOf_addPermission, occurrencesOn,
        occurrencesOn, List.flatMap_cons, List.foldl_append]

theorem foldl_received_some (results : List DecisionResult) (entry : ActionEntry) :
    results.foldl received (some entry) =
      some (results.foldl (fun held result => contribute result held) entry) := by
  induction results generalizing entry with
  | nil => rfl
  | cons result rest inductionHypothesis =>
      rw [List.foldl_cons, List.foldl_cons, received, Option.getD_some, inductionHypothesis]

/-- Results make an entry of their policies and obligations, each once. -/
theorem foldl_received_none {results : List DecisionResult} (nonempty : results ≠ []) :
    results.foldl received none =
      some ⟨(results.flatMap DecisionResult.contributors).eraseDups,
        (results.flatMap DecisionResult.obligations).eraseDups⟩ := by
  cases results with
  | nil => exact absurd rfl nonempty
  | cons first rest =>
      have seeded : (first :: rest).foldl received none =
          (first :: rest).foldl received (some .empty) := rfl
      rw [seeded, foldl_received_some, foldl_contribute, ActionEntry.empty,
        unionWith_nil_eq_eraseDups, unionWith_nil_eq_eraseDups]

/-- The permissions of individual requests with their results. -/
def permissionsOf (decided : List (IndividualRequest × DecisionResult)) : PermissionsResult :=
  decided.foldl addPermission .empty

section PermissionsOf

variable
  {decided : List (IndividualRequest × DecisionResult)}
  {decision : Decision}
  {action : String}

theorem get?_actionsOf_permissionsOf :
    ((permissionsOf decided).actionsOf decision).get? action =
      (occurrencesOn decision action decided).foldl received none :=
  get?_actionsOf_foldl_addPermission decided .empty decision action

/-- There is an entry for a decision on an action exactly when there is a result
on them. -/
theorem isSome_get?_actionsOf_permissionsOf_iff :
    (((permissionsOf decided).actionsOf decision).get? action).isSome ↔
      ∃ pair ∈ decided, pair.2.decision = decision ∧ action ∈ pair.1.actions := by
  rw [get?_actionsOf_permissionsOf, ← occurrencesOn_ne_nil_iff]
  by_cases absent : occurrencesOn decision action decided = []
  · simp [absent]
  · simp [absent, foldl_received_none absent]

/-- An entry holds the policies of the results on its decision and action, and
their obligations if these equal themselves. -/
theorem eq_of_get?_actionsOf_permissionsOf
    {entry : ActionEntry}
    (found : ((permissionsOf decided).actionsOf decision).get? action = some entry) :
    entry.policies =
        ((resultsOn decision action decided).flatMap DecisionResult.contributors).eraseDups ∧
      ((∀ result ∈ resultsOn decision action decided,
          ∀ obligation ∈ result.obligations, obligation.IsComparable) →
        entry.obligations =
          ((resultsOn decision action decided).flatMap DecisionResult.obligations).eraseDups) := by
  rw [get?_actionsOf_permissionsOf] at found
  have present : occurrencesOn decision action decided ≠ [] := by
    intro absent
    rw [absent] at found
    cases found
  rw [foldl_received_none present] at found
  cases found
  simp only [← unionWith_nil_eq_eraseDups]
  refine ⟨unionWith_flatMap_occurrencesOn (fun _ _ id _ => beq_self_eq_true id) [],
    fun comparable => unionWith_flatMap_occurrencesOn (fun result isOn obligation member => ?_) []⟩
  exact (comparable result isOn obligation member).beq_self

/-- The decisions are those with an entry. -/
theorem mem_decisions_permissionsOf_iff :
    decision ∈ (permissionsOf decided).decisions ↔
      ∃ action, (((permissionsOf decided).actionsOf decision).get? action).isSome := by
  have occupied : (permissionsOf decided).Occupied :=
    List.foldlRecOn decided addPermission PermissionsResult.occupied_empty fun _ held pair _ =>
      List.foldlRecOn pair.1.actions _ held fun _ kept action _ => kept.change _ action _
  exact ⟨occupied decision, fun ⟨_, hasEntry⟩ =>
    PermissionsResult.mem_decisions_of_isSome hasEntry⟩

end PermissionsOf

/-! ## Agreement -/

/-- The permissions of a request agree with its decisions. A request that does not
split gets the status of its single result and no permissions. Any other gets
one group of permissions, made of the results that its individual requests have
when they are not combined: a decision has an entry for an action exactly when
it is the result of an individual request with that action, and the entry holds
the policies, then policy sets, and the obligations of all such results, each
once in the order of their first occurrence. No other decision is listed. This
supposes that the request has the same individual requests whether or not it
asks for a combined decision, and that their evaluation gives an answer. -/
theorem decidePermissions_agrees_decide (engine : Engine) (request : Request) :
    ((∀ individuals, ¬engine.SplitsInto request individuals) →
        ∃ result, (engine.decide request).results = [result] ∧
          engine.decidePermissions request = ⟨result.status, []⟩) ∧
      ∀ individuals results,
        engine.SplitsInto request individuals →
        engine.SplitsInto { request with combinedDecision := false } individuals →
        engine.Returns individuals →
        (engine.decide { request with combinedDecision := false }).results = results →
        results.length = individuals.length ∧
          ∃ permissions : PermissionsResult,
            engine.decidePermissions request = ⟨.ok, [permissions]⟩ ∧
              (∀ decision action,
                ((permissions.actionsOf decision).get? action).isSome ↔
                  ∃ pair ∈ individuals.zip results,
                    pair.2.decision = decision ∧ action ∈ pair.1.actions) ∧
              (∀ decision action entry,
                (permissions.actionsOf decision).get? action = some entry →
                let involved := resultsOn decision action (individuals.zip results)
                entry.policies = (involved.flatMap DecisionResult.contributors).eraseDups ∧
                  ((∀ result ∈ involved,
                      ∀ obligation ∈ result.obligations, obligation.IsComparable) →
                    entry.obligations =
                      (involved.flatMap DecisionResult.obligations).eraseDups)) ∧
              ∀ decision, decision ∈ permissions.decisions ↔
                ∃ action, ((permissions.actionsOf decision).get? action).isSome := by
  refine ⟨fun unsplit => ?_, fun individuals results splits separate _ isResults => ?_⟩
  · obtain ⟨status, rejected⟩ := exists_intake_error unsplit
    refine ⟨.ofStatus status, results_of_intake_error rejected, ?_⟩
    rw [decidePermissions, rejected]
    rfl
  · have evaluated : engine.evaluateAll individuals = results := by
      rw [← isResults, separate.results rfl]
    refine ⟨by rw [← evaluated, length_evaluateAll], permissionsOf (individuals.zip results), ?_,
      fun _ _ => isSome_get?_actionsOf_permissionsOf_iff,
      fun _ _ _ => eq_of_get?_actionsOf_permissionsOf, fun _ => mem_decisions_permissionsOf_iff⟩
    rw [decidePermissions, intake_eq_ok_iff.mpr splits]
    dsimp only
    rw [evaluated, permissionsOf]

/-- Of three individual requests the first names its action twice and the second
names none. Only the decision of the others is listed, and it has one entry for
their common action. -/
theorem decidePermissions_agrees_decide_of_repeated_action :
    let asking (actions : List String) : IndividualRequest :=
      .ofCategories [⟨actionCategory, [.ofValues actionId (actions.map .string)]⟩]
    let individuals := [asking ["read", "read"], asking [], asking ["write", "read"]]
    let permitted (id : String) : EvaluationResult :=
      ⟨.permit, .ok, [⟨"log", []⟩], [], [⟨id, none⟩], [⟨"root", none⟩]⟩
    let answer (individual : IndividualRequest) : EvaluationResult :=
      match individual.actions with
      | [] => .ofDecision .deny
      | first :: _ => permitted first
    let engine : Engine :=
      ⟨.standard, fun _ => .ok individuals,
        fun individual => .ok (some ⟨individual, .found (.answered (answer individual))⟩), 1⟩
    let request := Request.empty.combined
    engine.SplitsInto request individuals ∧
      engine.SplitsInto { request with combinedDecision := false } individuals ∧
      engine.Returns individuals ∧
      ∃ permissions : PermissionsResult,
        engine.decidePermissions request = ⟨.ok, [permissions]⟩ ∧
          .permit ∈ permissions.decisions ∧ .deny ∉ permissions.decisions ∧
          ∃ entry, (permissions.actionsOf .permit).get? "read" = some entry ∧
            entry.policies = ["read", "root", "write"] := by
  intro asking individuals permitted answer engine request
  have splits : engine.SplitsInto request individuals := ⟨rfl, rfl, List.cons_ne_nil _ _⟩
  have separate : engine.SplitsInto { request with combinedDecision := false } individuals :=
    ⟨rfl, rfl, List.cons_ne_nil _ _⟩
  have returns : engine.Returns individuals := .inr (by decide +kernel)
  obtain ⟨-, agrees⟩ := engine.decidePermissions_agrees_decide request
  obtain ⟨-, permissions, grouped, entries, contents, decisions⟩ :=
    agrees individuals _ splits separate returns rfl
  have hasEntry : ((permissions.actionsOf .permit).get? "read").isSome := by
    rw [entries]
    decide +kernel
  obtain ⟨entry, found⟩ := Option.isSome_iff_exists.mp hasEntry
  have policies : entry.policies = ["read", "root", "write"] := by
    rw [(contents .permit "read" entry found).1]
    decide +kernel
  refine ⟨splits, separate, returns, permissions, grouped,
    (decisions .permit).mpr ⟨"read", hasEntry⟩, ?_, entry, found, policies⟩
  intro listed
  obtain ⟨action, isSome⟩ := (decisions .deny).mp listed
  obtain ⟨pair, isDecided, denies, named⟩ := (entries .deny action).mp isSome
  have unnamed : ∀ pair ∈ individuals.zip
      (engine.decide { request with combinedDecision := false }).results,
      pair.2.decision = .deny → pair.1.actions = [] := by decide +kernel
  rw [unnamed pair isDecided denies] at named
  cases named

/-- A split may read whether a combined decision is asked for. This one asks to read if so
and to write if not, and only reading is permitted. The permissions of the request for a
combined decision then permit to read, and no result of the request without one is a
permit. -/
theorem decidePermissions_disagrees_decide_of_split_by_flag :
    let asking (action : String) : IndividualRequest :=
      .ofCategories [⟨actionCategory, [.ofValues actionId [.string action]]⟩]
    let split (request : Request) : Except Fault (List IndividualRequest) :=
      .ok [asking (if request.combinedDecision then "read" else "write")]
    let answer (individual : IndividualRequest) : EvaluationResult :=
      .ofDecision (if individual.actions = ["read"] then .permit else .deny)
    let engine : Engine :=
      ⟨.standard, split,
        fun individual => .ok (some ⟨individual, .found (.answered (answer individual))⟩), 1⟩
    let request := Request.empty.combined
    let separate := { request with combinedDecision := false }
    (engine.SplitsInto request [asking "read"] ∧ engine.Returns [asking "read"]) ∧
      (engine.SplitsInto separate [asking "write"] ∧ engine.Returns [asking "write"]) ∧
      ∃ permissions : PermissionsResult,
        engine.decidePermissions request = ⟨.ok, [permissions]⟩ ∧
          ((permissions.actionsOf .permit).get? "read").isSome ∧
          ¬∃ result ∈ (engine.decide separate).results, result.decision = .permit := by
  intro asking split answer engine request separate
  refine ⟨⟨⟨rfl, rfl, List.cons_ne_nil _ _⟩, .inr (by decide +kernel)⟩,
    ⟨⟨rfl, rfl, List.cons_ne_nil _ _⟩, .inr (by decide +kernel)⟩, _, rfl, ?_, ?_⟩
  · decide +kernel
  · decide +kernel

end Engine
end PolicyDecision
