import Mathlib.Algebra.Order.Floor.Div
import Mathlib.Logic.Relation
import PolicyDecision.Proofs.Engine.Evaluation

/-!
# Workers

Individual requests may be divided into shares, one for each worker, and the workers
may take their steps in any order. Whatever the order, once nothing is left the
results joined in the order of the shares are those of an evaluation one request
after the other, and every run of the workers comes to that point.
-/

namespace PolicyDecision

/-! ## Shares -/

section Shares

variable {α : Type} {size : Nat}

/-- A list that fits into a number of parts is not divided into more. -/
theorem length_chunksOf_le
    {list : List α}
    {parts : Nat}
    (fits : list.length ≤ size * parts) : (chunksOf size list).length ≤ parts := by
  fun_induction chunksOf size list generalizing parts with
  | case1 => exact Nat.zero_le parts
  | case2 first rest inductionHypothesis =>
      cases parts with
      | zero => simp at fits
      | succ parts =>
          refine Nat.succ_le_succ (inductionHypothesis ?_)
          simp only [List.length_cons, Nat.mul_succ, List.length_drop] at fits ⊢
          omega

/-- No part is empty or longer than the given size. -/
theorem length_of_mem_chunksOf
    (positive : 0 < size)
    {list part : List α}
    (isPart : part ∈ chunksOf size list) : 0 < part.length ∧ part.length ≤ size := by
  fun_induction chunksOf size list with
  | case1 => cases isPart
  | case2 first rest inductionHypothesis =>
      rcases List.mem_cons.mp isPart with rfl | later
      · simp only [List.length_cons, List.length_take]
        omega
      · exact inductionHypothesis later

end Shares

/-- The shares are large enough for the workers to take all items. -/
theorem le_ceilDiv_mul {workers : Nat} (staffed : 1 ≤ workers) (count : Nat) :
    count ≤ (count ⌈/⌉ workers) * workers := by
  rw [Nat.mul_comm]
  exact (ceilDiv_le_iff_le_mul (Nat.lt_of_succ_le staffed)).mp (le_refl _)

theorem ceilDiv_pos
    {count workers : Nat}
    (staffed : 1 ≤ workers)
    (filled : 0 < count) : 0 < count ⌈/⌉ workers := by
  refine Nat.pos_of_ne_zero fun isZero => ?_
  have enough := le_ceilDiv_mul staffed count
  rw [isZero, Nat.zero_mul] at enough
  omega

/-! ## Steps -/

/-- A worker with the individual requests of its share that it has yet to evaluate and
the results it has. -/
structure Worker where
  pending : List IndividualRequest
  results : List DecisionResult

/-- A worker before it evaluates anything of its share. -/
def Worker.beginning (share : List IndividualRequest) : Worker := ⟨share, []⟩

namespace Engine

/-- One of the workers evaluates its next individual request while the others stand
still. -/
inductive Advances (engine : Engine) : List Worker → List Worker → Prop
  | evaluates
      (before after : List Worker)
      {individual : IndividualRequest}
      {rest : List IndividualRequest}
      {results : List DecisionResult}
      {result : DecisionResult} :
      engine.decideIndividual individual = some result →
        Advances engine (before ++ ⟨individual :: rest, results⟩ :: after)
          (before ++ ⟨rest, results ++ [result]⟩ :: after)

/-- The results that the workers have together once all is evaluated. -/
def due (engine : Engine) (workers : List Worker) : List DecisionResult :=
  workers.flatMap fun worker => worker.results ++ worker.pending.map engine.resultOf

/-- The evaluation of everything that is left completes. -/
def CompletesPending (engine : Engine) (workers : List Worker) : Prop :=
  ∀ worker ∈ workers, ∀ individual ∈ worker.pending, engine.Completes individual

variable {engine : Engine} {workers next : List Worker}

/-- A step changes nothing about the results that are due. -/
theorem Advances.due_eq (step : engine.Advances workers next) :
    engine.due next = engine.due workers := by
  cases step with
  | evaluates before after evaluated => simp [due, resultOf, evaluated]

theorem Advances.completesPending
    (step : engine.Advances workers next)
    (completes : engine.CompletesPending workers) : engine.CompletesPending next := by
  cases step with
  | evaluates before after evaluated =>
      intro worker isWorker individual isPending
      rcases List.mem_append.mp isWorker with isBefore | there
      · exact completes worker (List.mem_append_left _ isBefore) individual isPending
      · rcases List.mem_cons.mp there with rfl | isAfter
        · exact completes _ (List.mem_append_right _ List.mem_cons_self) individual
            (List.mem_cons_of_mem _ isPending)
        · exact completes worker (List.mem_append_right _ (List.mem_cons_of_mem _ isAfter))
            individual isPending

/-- As long as something is left, some worker can go on. -/
theorem exists_advances
    (completes : engine.CompletesPending workers)
    {worker : Worker}
    (isWorker : worker ∈ workers)
    (busy : worker.pending ≠ []) : ∃ next, engine.Advances workers next := by
  obtain ⟨before, after, rfl⟩ := List.append_of_mem isWorker
  obtain ⟨pending, results⟩ := worker
  obtain ⟨individual, rest, rfl⟩ := List.exists_cons_of_ne_nil busy
  have evaluated := (completes _ isWorker individual List.mem_cons_self).decideIndividual_eq
  exact ⟨_, .evaluates before after evaluated⟩

/-- The number of individual requests that are left. -/
def pendingCount (workers : List Worker) : Nat :=
  (workers.map fun worker => worker.pending.length).sum

theorem Advances.pendingCount_lt (step : engine.Advances workers next) :
    pendingCount next < pendingCount workers := by
  cases step with
  | evaluates before after evaluated => simp [pendingCount]

/-- The workers cannot go on for ever. -/
theorem wellFounded_advances (engine : Engine) :
    WellFounded fun next workers => engine.Advances workers next :=
  Subrelation.wf Advances.pendingCount_lt (InvImage.wf pendingCount Nat.lt_wfRel.wf)

/-! ## Runs -/

/-- The states that the workers come to from their shares. -/
def RunsTo (engine : Engine) (shares : List (List IndividualRequest)) (workers : List Worker) :
    Prop :=
  Relation.ReflTransGen engine.Advances (shares.map Worker.beginning) workers

variable {shares : List (List IndividualRequest)}

theorem RunsTo.due_eq (run : engine.RunsTo shares workers) :
    engine.due workers = shares.flatten.map engine.resultOf := by
  induction run with
  | refl => simp [due, Worker.beginning, Function.comp_def, List.flatMap_def, List.map_flatten]
  | tail _ step inductionHypothesis => rw [step.due_eq, inductionHypothesis]

theorem RunsTo.completesPending
    (run : engine.RunsTo shares workers)
    (completes : ∀ individual ∈ shares.flatten, engine.Completes individual) :
    engine.CompletesPending workers := by
  induction run with
  | refl =>
      intro worker isWorker individual isPending
      obtain ⟨share, isShare, rfl⟩ := List.mem_map.mp isWorker
      exact completes individual (List.mem_flatten_of_mem isShare isPending)
  | tail _ step inductionHypothesis => exact step.completesPending inductionHypothesis

/-- Workers that cannot go on have the results of all individual requests in order. -/
theorem RunsTo.results_eq
    (run : engine.RunsTo shares workers)
    (completes : ∀ individual ∈ shares.flatten, engine.Completes individual)
    (finished : ¬∃ next, engine.Advances workers next) :
    workers.flatMap Worker.results = shares.flatten.map engine.resultOf := by
  have idle : ∀ worker ∈ workers, worker.pending = [] := fun worker isWorker =>
    Classical.byContradiction fun busy =>
      finished (exists_advances (run.completesPending completes) isWorker busy)
  rw [← run.due_eq, due, List.flatMap_def, List.flatMap_def]
  congr 1
  refine List.map_congr_left fun worker isWorker => ?_
  rw [idle worker isWorker, List.map_nil, List.append_nil]

/-- As long as no evaluation breaks off, the individual requests have the results of an
evaluation one after the other, and so they have when each worker takes its share and
the workers advance in any order: no run goes on for ever, and the results that are
joined at its end are these. The shares are as large as the number of requests divided
by that of the workers, rounded up; they are not empty, and no more than the workers. -/
theorem evaluateAll_agrees_workers
    (engine : Engine)
    (individuals : List IndividualRequest)
    (staffed : 1 ≤ engine.workers)
    (completes : ∀ individual ∈ individuals, engine.Completes individual) :
    let size := individuals.length ⌈/⌉ engine.workers
    let shares := chunksOf size individuals
    (engine.evaluateAll individuals).map some = individuals.map engine.decideIndividual ∧
    (∀ workers : List Worker, engine.RunsTo shares workers →
      (¬∃ next, engine.Advances workers next) →
        workers.flatMap Worker.results = engine.evaluateAll individuals) ∧
    (WellFounded fun next workers => engine.Advances workers next) ∧
    (individuals ≠ [] → 0 < size) ∧
    (engine.configuration.parallelEvaluation = true → 2 ≤ individuals.length →
      engine.shareSize individuals.length = size) ∧
    shares.flatten = individuals ∧ shares.length ≤ engine.workers ∧
    ∀ share ∈ shares, 0 < share.length ∧ share.length ≤ size := by
  intro size shares
  have parts : shares.flatten = individuals := flatten_chunksOf size individuals
  have sequentially := evaluateAll_eq_map completes
  refine ⟨?_, fun workers run finished => ?_, engine.wellFounded_advances, fun filled => ?_,
    fun parallel several => ?_, parts, length_chunksOf_le (le_ceilDiv_mul staffed _),
    fun share isShare => ?_⟩
  · rw [sequentially, List.map_map]
    exact List.map_congr_left fun individual member =>
      ((completes individual member).decideIndividual_eq).symm
  · rw [sequentially, ← parts]
    exact run.results_eq (parts.symm ▸ completes) finished
  · exact ceilDiv_pos staffed (List.length_pos_iff.mpr filled)
  · simp [shareSize, parallel, several, size, Nat.ceilDiv_eq_add_pred_div, Nat.max_eq_right staffed]
  · have filled : individuals ≠ [] := by
      rintro rfl
      simp [shares, chunksOf] at isShare
    exact length_of_mem_chunksOf (ceilDiv_pos staffed (List.length_pos_iff.mpr filled)) isShare

/-- Four workers share five actions, two for each of the first two and one for the
third, so the fourth has none. The third may go first, and the results are joined in
the order of the requests all the same. -/
theorem evaluateAll_agrees_workers_of_shortShare :
    let asking (action : String) : IndividualRequest :=
      ⟨.ok, [⟨actionCategory, [.ofValue actionId (.string action)]⟩]⟩
    let individuals := ["read", "write", "read", "list", "write"].map asking
    let permitsReading (individual : IndividualRequest) : EvaluationContext :=
      ⟨individual, .found (.answered
        (.ofDecision (if individual.actions = ["read"] then .permit else .deny)))⟩
    let engine : Engine :=
      ⟨⟨.deny, true⟩, fun request => .ok request.split,
        fun individual => .ok (some (permitsReading individual)), 4⟩
    let shares := chunksOf 2 individuals
    let permit : DecisionResult := .ofEvaluation (.ofDecision .permit)
    let deny : DecisionResult := .ofEvaluation (.ofDecision .deny)
    let joined : List Worker := [⟨[], [permit, deny]⟩, ⟨[], [permit, deny]⟩, ⟨[], [deny]⟩]
    1 ≤ engine.workers ∧ (∀ individual ∈ individuals, engine.Completes individual) ∧
      engine.shareSize individuals.length = 2 ∧ shares.map List.length = [2, 2, 1] ∧
      engine.RunsTo shares joined ∧
      engine.evaluateAll individuals = [permit, deny, permit, deny, deny] := by
  intro asking individuals permitsReading engine shares permit deny joined
  have completes : ∀ individual ∈ individuals, engine.Completes individual := by
    intro individual _ context isContext isBrokenOff
    cases isContext
    cases isBrokenOff
  obtain ⟨-, ordered, -, -, size, -⟩ :=
    evaluateAll_agrees_workers engine individuals (by decide) completes
  have halves : individuals.length ⌈/⌉ engine.workers = 2 :=
    (Nat.ceilDiv_eq_add_pred_div _ _).trans (by decide)
  rw [halves] at ordered size
  have parts : shares = [[asking "read", asking "write"], [asking "read", asking "list"],
      [asking "write"]] := by simp [shares, individuals, chunksOf]
  have permits : engine.decideIndividual (asking "read") = some permit := by rfl
  have deniesWriting : engine.decideIndividual (asking "write") = some deny := by rfl
  have deniesListing : engine.decideIndividual (asking "list") = some deny := by rfl
  have run : engine.RunsTo shares joined := by
    rw [parts]
    refine .head (.evaluates [_, _] [] deniesWriting) ?_
    refine .head (.evaluates [_] [_] permits) ?_
    refine .head (.evaluates [] [_, _] permits) ?_
    refine .head (.evaluates [_] [_] deniesListing) ?_
    exact .single (.evaluates [] [_, _] deniesWriting)
  have finished : ¬∃ next, engine.Advances joined next := by
    rintro ⟨next, step⟩
    exact Nat.not_lt_zero _ step.pendingCount_lt
  exact ⟨by decide, completes, size rfl (by decide), by simp [parts], run,
    (ordered joined run finished).symm⟩

end Engine
end PolicyDecision
