import PolicyDecision.Proofs.Policy.Tree
import PolicyDecision.Proofs.Store.Integrity

/-!
# Log of the reference check

The search for a cycle of references with a log of what it does: which
identifiers it expands, following their references, and which it finishes. The
log is kept whether the search comes to its end or stops at a cycle. No
identifier is expanded twice, and none that was finished leads into a cycle.
-/

namespace PolicyDecision
namespace ReferenceCheck

/-- The identifiers that were expanded and those that were finished, the latest
first. -/
structure SearchLog where
  expanded : List String
  finished : List String

namespace SearchLog

/-- The log of a search that has done nothing yet. -/
def empty : SearchLog := ⟨[], []⟩

/-- The log with the references of an identifier followed. -/
def expand (log : SearchLog) (id : String) : SearchLog :=
  { log with expanded := id :: log.expanded }

/-- The log with an identifier finished. -/
def finish (log : SearchLog) (id : String) : SearchLog :=
  { log with finished := id :: log.finished }

end SearchLog

/-- The search among pending identifiers, given the path to them with the latest
identifier first. It leads from one log to another and reports a chain if it
stops at an identifier of the path. Nothing bounds its depth. -/
inductive Search (references : String → Option (List String)) :
    List String → SearchLog → List String → SearchLog → Option (List String) → Prop
  | done {path : List String} {log : SearchLog} : Search references path log [] log none
  | known
      {path pending : List String}
      {log after : SearchLog}
      {id : String}
      {stopped : Option (List String)} :
      id ∈ log.finished →
      Search references path log pending after stopped →
      Search references path log (id :: pending) after stopped
  | again {path pending : List String} {log : SearchLog} {id : String} :
      id ∉ log.finished →
      id ∈ path →
      Search references path log (id :: pending) log (some (id :: path).reverse)
  | absent
      {path pending : List String}
      {log after : SearchLog}
      {id : String}
      {stopped : Option (List String)} :
      id ∉ log.finished →
      id ∉ path →
      references id = none →
      Search references path log pending after stopped →
      Search references path log (id :: pending) after stopped
  | finished
      {path pending targets : List String}
      {log between after : SearchLog}
      {id : String}
      {stopped : Option (List String)} :
      id ∉ log.finished →
      id ∉ path →
      references id = some targets →
      Search references (id :: path) (log.expand id) targets between none →
      Search references path (between.finish id) pending after stopped →
      Search references path log (id :: pending) after stopped
  | stopped
      {path pending targets : List String}
      {log after : SearchLog}
      {id : String}
      {chain : List String} :
      id ∉ log.finished →
      id ∉ path →
      references id = some targets →
      Search references (id :: path) (log.expand id) targets after (some chain) →
      Search references path log (id :: pending) after (some chain)

variable
  {references : String → Option (List String)}
  {ids path pending targets : List String}
  {log between after : SearchLog}
  {id : String}
  {stopped : Option (List String)}

/-! ## The visits as a search -/

section Visit

variable {depth : Nat} {finished : List String}

theorem visit_of_mem_finished (known : id ∈ finished) :
    visit references depth path finished id = .ok finished := by
  cases depth <;> simp [visit, known]

theorem visit_of_mem_path
    (unfinished : id ∉ finished)
    (again : id ∈ path) :
    visit references depth path finished id = .error (id :: path).reverse := by
  cases depth <;> simp [visit, unfinished, again]

theorem visit_of_references
    (unfinished : id ∉ finished)
    (fresh : id ∉ path)
    (refers : references id = some targets) :
    visit references (depth + 1) path finished id =
      (targets.foldlM (visit references depth (id :: path)) finished).map (id :: ·) := by
  simp only [visit, List.contains_eq_mem, unfinished, fresh, decide_false, Bool.false_eq_true,
    if_false, refers]
  cases targets.foldlM (visit references depth (id :: path)) finished <;> rfl

end Visit

/-- Pending identifiers are searched after those in front of them. -/
theorem Search.append
    (first : Search references path log targets between none)
    (rest : Search references path between pending after stopped) :
    Search references path log (targets ++ pending) after stopped := by
  generalize isDone : (none : Option (List String)) = ending at first
  induction first with
  | done => exact rest
  | known isKnown _ restHypothesis => exact .known isKnown (restHypothesis rest isDone)
  | again => cases isDone
  | absent unfinished fresh unknown _ restHypothesis =>
      exact .absent unfinished fresh unknown (restHypothesis rest isDone)
  | finished unfinished fresh refers inner _ _ restHypothesis =>
      exact .finished unfinished fresh refers inner (restHypothesis rest isDone)
  | stopped => cases isDone

/-- A search that stops leaves the identifiers behind the stop alone. -/
theorem Search.append_of_stopped
    {chain : List String}
    (first : Search references path log targets after (some chain))
    (pending : List String) :
    Search references path log (targets ++ pending) after (some chain) := by
  generalize isStopped : some chain = ending at first ⊢
  induction first with
  | done => cases isStopped
  | known isKnown _ restHypothesis => exact .known isKnown (restHypothesis isStopped)
  | again unfinished again => exact .again unfinished again
  | absent unfinished fresh unknown _ restHypothesis =>
      exact .absent unfinished fresh unknown (restHypothesis isStopped)
  | finished unfinished fresh refers inner _ _ restHypothesis =>
      exact .finished unfinished fresh refers inner (restHypothesis isStopped)
  | stopped unfinished fresh refers inner => exact .stopped unfinished fresh refers inner

/-- There is one way only to search. -/
theorem Search.unique
    {otherAfter : SearchLog}
    {otherStopped : Option (List String)}
    (search : Search references path log pending after stopped)
    (other : Search references path log pending otherAfter otherStopped) :
    after = otherAfter ∧ stopped = otherStopped := by
  induction search generalizing otherAfter otherStopped with
  | done =>
      cases other
      exact ⟨rfl, rfl⟩
  | known isKnown _ restHypothesis =>
      cases other with
      | known _ rest => exact restHypothesis rest
      | again unfinished => exact absurd isKnown unfinished
      | absent unfinished => exact absurd isKnown unfinished
      | finished unfinished => exact absurd isKnown unfinished
      | stopped unfinished => exact absurd isKnown unfinished
  | again unfinished again =>
      cases other with
      | known isKnown => exact absurd isKnown unfinished
      | again => exact ⟨rfl, rfl⟩
      | absent _ fresh => exact absurd again fresh
      | finished _ fresh => exact absurd again fresh
      | stopped _ fresh => exact absurd again fresh
  | absent unfinished fresh unknown _ restHypothesis =>
      cases other with
      | known isKnown => exact absurd isKnown unfinished
      | again _ again => exact absurd again fresh
      | absent _ _ _ rest => exact restHypothesis rest
      | finished _ _ refers => cases unknown.symm.trans refers
      | stopped _ _ refers => cases unknown.symm.trans refers
  | finished unfinished fresh refers _ _ innerHypothesis restHypothesis =>
      cases other with
      | known isKnown => exact absurd isKnown unfinished
      | again _ again => exact absurd again fresh
      | absent _ _ unknown => cases unknown.symm.trans refers
      | finished _ _ sameRefers inner rest =>
          cases refers.symm.trans sameRefers
          obtain ⟨rfl, -⟩ := innerHypothesis inner
          exact restHypothesis rest
      | stopped _ _ sameRefers inner =>
          cases refers.symm.trans sameRefers
          cases (innerHypothesis inner).2
  | stopped unfinished fresh refers _ innerHypothesis =>
      cases other with
      | known isKnown => exact absurd isKnown unfinished
      | again _ again => exact absurd again fresh
      | absent _ _ unknown => cases unknown.symm.trans refers
      | finished _ _ sameRefers inner =>
          cases refers.symm.trans sameRefers
          cases (innerHypothesis inner).2
      | stopped _ _ sameRefers inner =>
          cases refers.symm.trans sameRefers
          exact innerHypothesis inner

/-- An answer is that of a search: it gives the identifiers that the search
finished, or the chain that the search reports. -/
def AnswersSearch
    (references : String → Option (List String))
    (path : List String)
    (log : SearchLog)
    (pending : List String) : Except (List String) (List String) → Prop
  | .ok visited =>
      ∃ after, after.finished = visited ∧ Search references path log pending after none
  | .error chain => ∃ after, Search references path log pending after (some chain)

theorem answersSearch_foldlM
    (log : SearchLog)
    {step : List String → String → Except (List String) (List String)}
    (each : ∀ target ∈ targets, ∀ log : SearchLog,
      AnswersSearch references path log [target] (step log.finished target)) :
    AnswersSearch references path log targets (targets.foldlM step log.finished) := by
  induction targets generalizing log with
  | nil => exact ⟨log, rfl, .done⟩
  | cons target rest inductionHypothesis =>
      have first := each target List.mem_cons_self log
      rw [List.foldlM_cons]
      cases stepped : step log.finished target with
      | error chain =>
          rw [stepped] at first
          obtain ⟨after, search⟩ := first
          exact ⟨after, search.append_of_stopped rest⟩
      | ok visited =>
          rw [stepped] at first
          obtain ⟨between, rfl, search⟩ := first
          have others := inductionHypothesis between fun later member =>
            each later (List.mem_cons_of_mem _ member)
          change AnswersSearch references path log (target :: rest)
            (rest.foldlM step between.finished)
          cases folded : rest.foldlM step between.finished with
          | error chain =>
              rw [folded] at others
              obtain ⟨after, restSearch⟩ := others
              exact ⟨after, search.append restSearch⟩
          | ok visited =>
              rw [folded] at others
              obtain ⟨after, same, restSearch⟩ := others
              exact ⟨after, same, search.append restSearch⟩

/-- A visit answers a search, since its bound leaves room for every identifier
that is not on the path. -/
theorem answersSearch_visit
    (covers : Covers references ids)
    {depth : Nat}
    (room : ids.length ≤ path.length + depth)
    (distinct : path.Nodup)
    (within : path ⊆ ids)
    (member : id ∈ ids)
    (log : SearchLog) :
    AnswersSearch references path log [id] (visit references depth path log.finished id) := by
  induction depth generalizing path id log with
  | zero =>
      by_cases known : id ∈ log.finished
      · rw [visit_of_mem_finished known]
        exact ⟨log, rfl, .known known .done⟩
      · -- Without room left the path holds every identifier, so this one is met again.
        have again : id ∈ path := by
          by_contra fresh
          have fits := (List.subperm_of_subset (List.nodup_cons.mpr ⟨fresh, distinct⟩)
            (List.cons_subset.mpr ⟨member, within⟩)).length_le
          simp only [List.length_cons] at fits
          omega
        rw [visit_of_mem_path known again]
        exact ⟨log, .again known again⟩
  | succ depth inductionHypothesis =>
      by_cases known : id ∈ log.finished
      · rw [visit_of_mem_finished known]
        exact ⟨log, rfl, .known known .done⟩
      · by_cases again : id ∈ path
        · rw [visit_of_mem_path known again]
          exact ⟨log, .again known again⟩
        · obtain ⟨targets, refers⟩ := Option.isSome_iff_exists.mp ((covers.mem_iff id).mp member)
          have inner : AnswersSearch references (id :: path) (log.expand id) targets
              (targets.foldlM (visit references depth (id :: path)) log.finished) := by
            refine answersSearch_foldlM (log.expand id) fun target isTarget later => ?_
            exact inductionHypothesis (by simp only [List.length_cons]; omega)
              (List.nodup_cons.mpr ⟨again, distinct⟩) (List.cons_subset.mpr ⟨member, within⟩)
              (covers.closed id target ⟨targets, refers, isTarget⟩) later
          rw [visit_of_references known again refers]
          cases folded : targets.foldlM (visit references depth (id :: path)) log.finished with
          | error chain =>
              rw [folded] at inner
              obtain ⟨after, search⟩ := inner
              exact ⟨after, .stopped known again refers search⟩
          | ok visited =>
              rw [folded] at inner
              obtain ⟨between, rfl, search⟩ := inner
              exact ⟨between.finish id, rfl, .finished known again refers search .done⟩

/-- Visiting all identifiers answers the search among them. -/
theorem answersSearch_visitAll (covers : Covers references ids) :
    AnswersSearch references [] .empty ids (visitAll references ids) :=
  answersSearch_foldlM .empty fun _ member log =>
    answersSearch_visit covers (by simp) List.nodup_nil (List.nil_subset _) member log

/-! ## Finished identifiers -/

/-- Chains of references from an identifier end when they do so from its targets. -/
theorem ends_of_targets
    (refers : references id = some targets)
    (each : ∀ target ∈ targets, Ends references target) : Ends references id := by
  refine Acc.intro id fun target refersTo => ?_
  obtain ⟨sameTargets, same, isTarget⟩ := refersTo
  cases refers.symm.trans same
  exact each target isTarget

theorem ends_of_absent (absent : references id = none) : Ends references id := by
  refine Acc.intro id fun target refersTo => ?_
  obtain ⟨targets, refers, -⟩ := refersTo
  cases absent.symm.trans refers

/-- Every chain of references from a finished identifier comes to an end. When a
search comes to its end, so does every chain from the identifiers that were
pending. -/
theorem Search.ends
    (search : Search references path log pending after stopped)
    (ends : ∀ id ∈ log.finished, Ends references id) :
    (∀ id ∈ after.finished, Ends references id) ∧
      (stopped = none → ∀ id ∈ pending, Ends references id) := by
  induction search with
  | done => exact ⟨ends, fun _ _ member => nomatch member⟩
  | known isKnown _ restHypothesis =>
      obtain ⟨afterEnds, pendingEnds⟩ := restHypothesis ends
      exact ⟨afterEnds, fun isDone =>
        List.forall_mem_cons.mpr ⟨ends _ isKnown, pendingEnds isDone⟩⟩
  | again => exact ⟨ends, fun isDone => nomatch isDone⟩
  | absent _ _ unknown _ restHypothesis =>
      obtain ⟨afterEnds, pendingEnds⟩ := restHypothesis ends
      exact ⟨afterEnds, fun isDone =>
        List.forall_mem_cons.mpr ⟨ends_of_absent unknown, pendingEnds isDone⟩⟩
  | finished _ _ refers _ _ innerHypothesis restHypothesis =>
      obtain ⟨betweenEnds, targetsEnd⟩ := innerHypothesis ends
      -- An identifier is finished only once the search among its targets is done.
      have idEnds := ends_of_targets refers (targetsEnd rfl)
      obtain ⟨afterEnds, pendingEnds⟩ :=
        restHypothesis (List.forall_mem_cons.mpr ⟨idEnds, betweenEnds⟩)
      exact ⟨afterEnds, fun isDone => List.forall_mem_cons.mpr ⟨idEnds, pendingEnds isDone⟩⟩
  | stopped _ _ _ _ innerHypothesis =>
      exact ⟨(innerHypothesis ends).1, fun isDone => nomatch isDone⟩

/-- No walk from an identifier whose chains of references all end leads into a
cycle. -/
theorem Ends.not_transGen
    (ends : Ends references id)
    {target : String}
    (reached : Relation.ReflTransGen (Refers references) id target) :
    ¬Relation.TransGen (Refers references) target target := by
  have targetEnds : Ends references target := by
    induction reached with
    | refl => exact ends
    | tail _ refers inductionHypothesis => exact inductionHypothesis.inv refers
  exact not_transGen_of_ends targetEnds

/-! ## Expanded identifiers -/

/-- No identifier was expanded twice, and each one that was expanded is finished or
on the path. -/
structure SearchLog.Tracks (log : SearchLog) (path : List String) : Prop where
  distinct : log.expanded.Nodup
  placed : ∀ id ∈ log.expanded, id ∈ log.finished ∨ id ∈ path

/-- Expanding an identifier that is neither finished nor on the path puts it
there. -/
theorem SearchLog.Tracks.expand
    (tracks : log.Tracks path)
    (unfinished : id ∉ log.finished)
    (fresh : id ∉ path) : (log.expand id).Tracks (id :: path) where
  distinct := List.nodup_cons.mpr
    ⟨fun expanded => (tracks.placed id expanded).elim unfinished fresh, tracks.distinct⟩
  placed := List.forall_mem_cons.mpr ⟨.inr List.mem_cons_self, fun earlier expanded =>
    (tracks.placed earlier expanded).imp_right (List.mem_cons_of_mem id)⟩

/-- Finishing the latest identifier takes it off the path. -/
theorem SearchLog.Tracks.finish (tracks : log.Tracks (id :: path)) :
    (log.finish id).Tracks path where
  distinct := tracks.distinct
  placed := fun earlier expanded => by
    rcases tracks.placed earlier expanded with isFinished | onPath
    · exact .inl (List.mem_cons_of_mem id isFinished)
    · rcases List.mem_cons.mp onPath with rfl | deeper
      · exact .inl List.mem_cons_self
      · exact .inr deeper

/-- A search expands no identifier twice. -/
theorem Search.tracks
    (search : Search references path log pending after stopped)
    (tracks : log.Tracks path) :
    after.expanded.Nodup ∧ (stopped = none → after.Tracks path) := by
  induction search with
  | done => exact ⟨tracks.distinct, fun _ => tracks⟩
  | known _ _ restHypothesis => exact restHypothesis tracks
  | again => exact ⟨tracks.distinct, fun isDone => nomatch isDone⟩
  | absent _ _ _ _ restHypothesis => exact restHypothesis tracks
  | finished unfinished fresh _ _ _ innerHypothesis restHypothesis =>
      exact restHypothesis ((innerHypothesis (tracks.expand unfinished fresh)).2 rfl).finish
  | stopped unfinished fresh _ _ innerHypothesis =>
      exact ⟨(innerHypothesis (tracks.expand unfinished fresh)).1, fun isDone => nomatch isDone⟩

end ReferenceCheck

/-! ## The check of a store -/

namespace Store

/-- The search among the stored identifiers in order, with its log and the chain
that it reports. -/
def Searched
    (store : Store)
    (log : ReferenceCheck.SearchLog)
    (stopped : Option (List String)) : Prop :=
  ReferenceCheck.Search store.references [] .empty store.sortedIds log stopped

/-- What the reference check answers when its search reports a chain or none. -/
def answerOf : Option (List String) → Except StoreFault Unit
  | none => .ok ()
  | some chain => .error (.referenceCycle chain)

/-- The reference check of a store is an exact detector of cycles. -/
structure DetectsCycles (store : Store) : Prop where
  /-- References are stated anywhere in a definition, and lead to what is stored. -/
  refers_iff : ∀ id target, store.Refers id target ↔
    (store.get? target).isSome ∧ ∃ definition, store.get? id = some definition ∧
      ∃ cited, .reference cited ∈ definition.toNode.parts ∧ cited.id = target
  /-- The check fails exactly when there is a cycle. -/
  fails_iff : (∃ fault, store.checkReferences = .error fault) ↔
    ∃ id, Relation.TransGen store.Refers id id
  /-- The reported chain is a walk that ends where it has been before. -/
  reported : ∀ fault, store.checkReferences = .error fault →
    ∃ chain, fault = .referenceCycle chain ∧ chain.IsChain store.Refers ∧
      ∃ walk last, chain = walk ++ [last] ∧ last ∈ walk
  /-- There is a search, and the check gives its answer. -/
  searched : ∃ log stopped, store.Searched log stopped
  answered : ∀ log stopped, store.Searched log stopped → store.checkReferences = answerOf stopped
  /-- The identifiers that all visits together leave are those that the search finished. -/
  visited : ∀ log stopped, store.Searched log stopped → ∀ finished,
    ReferenceCheck.visitAll store.references store.sortedIds = .ok finished →
      stopped = none ∧ log.finished = finished
  /-- No walk from an identifier that was finished leads into a cycle. -/
  finished : ∀ log stopped, store.Searched log stopped → ∀ id ∈ log.finished, ∀ target,
    Relation.ReflTransGen store.Refers id target → ¬Relation.TransGen store.Refers target target
  /-- No identifier is expanded twice. -/
  expanded : ∀ log stopped, store.Searched log stopped → log.expanded.Nodup

theorem refers_iff_parts (store : Store) (id target : String) :
    store.Refers id target ↔
      (store.get? target).isSome ∧ ∃ definition, store.get? id = some definition ∧
        ∃ cited, .reference cited ∈ definition.toNode.parts ∧ cited.id = target := by
  simp only [Refers, Definition.referencedIds, PolicyNode.mem_referencedIds_iff]
  constructor
  · rintro ⟨definition, found, cites, stored⟩
    exact ⟨stored, definition, found, cites⟩
  · rintro ⟨stored, definition, found, cites⟩
    exact ⟨definition, found, cites, stored⟩

theorem exists_searched (store : Store) :
    ∃ log stopped, store.Searched log stopped ∧ store.checkReferences = answerOf stopped := by
  have answers := ReferenceCheck.answersSearch_visitAll store.covers_sortedIds
  unfold checkReferences
  cases visited : ReferenceCheck.visitAll store.references store.sortedIds with
  | ok finished =>
      rw [visited] at answers
      obtain ⟨log, -, search⟩ := answers
      exact ⟨log, none, search, rfl⟩
  | error chain =>
      rw [visited] at answers
      obtain ⟨log, search⟩ := answers
      exact ⟨log, some chain, search, rfl⟩

/-- The check of the references of any store fails exactly when they have a cycle.
It then reports a walk that ends where it has been before. It finishes only
identifiers that lead into no cycle, which are those it leaves when it succeeds,
and expands each one once at most. -/
theorem checkReferences_detectsCycles (store : Store) : store.DetectsCycles where
  refers_iff := store.refers_iff_parts
  fails_iff := by
    have accepted := store.checkReferences_eq_ok_iff
    constructor
    · rintro ⟨fault, failed⟩
      by_contra acyclic
      rw [accepted.mpr (not_exists.mp acyclic)] at failed
      cases failed
    · rintro ⟨id, cycle⟩
      cases checked : store.checkReferences with
      | ok => exact absurd cycle (accepted.mp checked id)
      | error fault => exact ⟨fault, rfl⟩
  reported := by
    intro fault failed
    unfold checkReferences at failed
    split at failed
    · cases failed
    · rename_i chain visited
      cases failed
      have loops := ReferenceCheck.loops_of_visitAll_error visited
      rw [ReferenceCheck.Loops, refers_references] at loops
      exact ⟨chain, rfl, loops⟩
  searched := by
    obtain ⟨log, stopped, search, -⟩ := store.exists_searched
    exact ⟨log, stopped, search⟩
  answered := by
    intro log stopped search
    obtain ⟨_, sameStopped, sameSearch, answer⟩ := store.exists_searched
    obtain ⟨-, rfl⟩ := search.unique sameSearch
    exact answer
  visited := by
    intro log stopped search finished isVisited
    have answers := ReferenceCheck.answersSearch_visitAll store.covers_sortedIds
    rw [isVisited] at answers
    obtain ⟨_, same, sameSearch⟩ := answers
    obtain ⟨rfl, rfl⟩ := search.unique sameSearch
    exact ⟨rfl, same⟩
  finished := by
    intro log stopped search id isFinished target reached
    have ends := (search.ends (by simp [ReferenceCheck.SearchLog.empty])).1 id isFinished
    rw [← refers_references] at reached ⊢
    exact ends.not_transGen reached
  expanded := fun log stopped search =>
    (search.tracks ⟨List.nodup_nil, by simp [ReferenceCheck.SearchLog.empty]⟩).1

end Store
end PolicyDecision
