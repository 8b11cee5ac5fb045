import Playbook.Proofs.Keyed
import Playbook.Proofs.Run.Outputs
import Playbook.Proofs.Run.Scan
import Playbook.Proofs.Run.Snapshot

/-!
The variables of a run. They are those of the request and the outputs of the steps that have
completed so far, and nothing else is ever written. The request cannot set the variable of the
outputs, so the two do not mix. A step sees the variables of the moment at which it is started, and
the results of its predecessors are there by then.
-/
namespace Playbook

open Json (Value)

/-- The outputs of the completed steps among some results: under the id of each its output, in
ascending order of the ids. -/
structure OutputTable (results : List StepResult) (outputs : List (String × Value)) : Prop where
  ascending : Keyed.Ascending outputs
  entry : ∀ id output, (id, output) ∈ outputs ↔
    ∃ r ∈ results, r.stepId = id ∧ r.status = .completed ∧ r.output = output
  objects : ∀ e ∈ outputs, ∃ entries, e.2 = .object entries

/-- The variables that a request and the results so far make up: the variables of the request, none
of which is `steps`, and beside them as `steps` the outputs of the completed steps. -/
def Bag (q : RunRequest) (results : List StepResult) (vars : List (String × Value)) : Prop :=
  Keyed.get? RunContext.stepsVariable (Keyed.ofList q.variables) = none ∧
  ∃ outputs, OutputTable results outputs ∧
    vars = Keyed.put RunContext.stepsVariable (.object outputs) (Keyed.ofList q.variables)

theorem outputTable_foldl {results : List StepResult}
    (nodup : (results.map StepResult.stepId).Nodup) (wrapped : ∀ r ∈ results, r.Wrapped) :
    OutputTable results (results.foldl noteOutput []) := by
  have ascending : Keyed.Ascending (results.foldl noteOutput []) := by
    refine List.foldlRecOn results noteOutput List.Pairwise.nil fun outputs h r _ => ?_
    unfold noteOutput
    split
    · exact h.put
    · exact h
  have entry : ∀ id output, (id, output) ∈ results.foldl noteOutput [] ↔
      ∃ r ∈ results, r.stepId = id ∧ r.status = .completed ∧ r.output = output := by
    intro id output
    rw [Keyed.mem_iff_get? ascending, get?_foldl_noteOutput nodup]
    constructor
    · intro found
      split at found
      · next r hr =>
        split at found
        · next completed =>
          cases found
          exact ⟨r, List.mem_of_find?_eq_some hr, by simpa using List.find?_some hr, completed, rfl⟩
        · cases found
      · cases found
    · rintro ⟨r, mem, rfl, completed, rfl⟩
      rw [First.find?_key nodup mem]
      exact if_pos completed
  refine ⟨ascending, entry, fun (id, output) mem => ?_⟩
  obtain ⟨r, noted, -, completed, rfl⟩ := (entry id output).1 mem
  exact wrapped r noted completed

/-- The context of a request knows the variables of the request, none of which is `steps`, and no
outputs. -/
theorem RunContext.given_of_request {runId : String} {q : RunRequest} {now : Instant}
    {context : RunContext} (h : RunContext.ofRequest runId q now = .ok context) :
    context.given = Keyed.ofList q.variables ∧ context.outputs = [] ∧
      Keyed.get? stepsVariable (Keyed.ofList q.variables) = none := by
  have taken : ∀ (entries : List (String × Value)) (c c' : RunContext),
      entries.foldlM (fun c e => c.setVariable e.1 e.2) c = .ok c' →
      c' = { c with given := entries.foldl (fun table e => Keyed.put e.1 e.2 table) c.given } ∧
      Keyed.get? stepsVariable c'.given = Keyed.get? stepsVariable c.given := by
    intro entries
    induction entries with
    | nil =>
      rintro c c' ⟨⟩
      exact ⟨rfl, rfl⟩
    | cons e rest ih =>
      intro c c' h
      rw [List.foldlM_cons] at h
      unfold setVariable at h
      by_cases reserved : e.1 = stepsVariable
      · simp [reserved, bind, Except.bind] at h
      · simp only [reserved, if_false] at h
        obtain ⟨same, absent⟩ := ih _ _ h
        exact ⟨same, absent.trans (Keyed.get?_put_of_ne (Ne.symm reserved) ..)⟩
  obtain ⟨same, absent⟩ := taken q.variables _ _ h
  subst same
  exact ⟨rfl, rfl, absent⟩

namespace Plan.Attempted

variable {p : Plan} {step : Step} {vars : List (String × Value)} {number : Nat} {r : StepResult}

theorem wrapped (h : p.Attempted step vars number r)
    (objects : (p.attempt vars step number).Yields StepResult.Wrapped) : r.Wrapped := by
  intro completed
  cases h with
  | own outcome result =>
    have status := congrArg StepResult.status result
    have output := congrArg StepResult.output result
    simp only [StepResult.output_timeless] at output
    exact output ▸ objects.of_outcome outcome (status.symm.trans completed)
  | cutOff _ result =>
    have failed : r.status = .failed := congrArg StepResult.status result
    simp [failed] at completed

end Plan.Attempted

theorem Plan.Reported.stepId {p : Plan} {step : Step} {vars : List (String × Value)}
    {r : StepResult} (h : p.Reported step vars r) (hp : p.Sound) : r.stepId = step.id := by
  cases h with
  | attempted attempted => exact attempted.stepId hp
  | panicked _ result => exact congrArg StepResult.stepId result

namespace RunState

variable {p : Plan} {context : RunContext} {cancelled : Bool} {s : RunState}

/-- The results of attempts are those of steps that were started, and these saw nothing but the
variables of that moment. -/
theorem reported_of_reaches (hp : p.Sound) (reached : Reaches .free p (start p context cancelled) s)
    {r : StepResult} (mem : r ∈ s.results) (made : r.attempts ≠ 0) :
    ∃ step vars, Dispatched .free p (start p context cancelled) s step vars ∧
      step.id = r.stepId ∧ p.Reported step vars r := by
  have tracked := Tracked.of_reaches (Job.law_views .free p) reached
  rcases tracked.results r mem with ⟨none, -⟩ | ⟨e, moment, -, rfl, step, vars, dispatched, own, comes⟩
  · exact absurd none made
  · have reported := (e.reported own comes moment).1
    exact ⟨step, vars, dispatched, (reported.stepId hp).symm, reported⟩

/-- The output of a completed step is an object when attempts only yield such outputs. -/
theorem wrapped_of_reaches (hp : p.Sound)
    (objects : ∀ vars step number, (p.attempt vars step number).Yields StepResult.Wrapped)
    (reached : Reaches .free p (start p context cancelled) s) : ∀ r ∈ s.results, r.Wrapped := by
  intro r mem completed
  have status : r.timeless.status = .completed := completed
  cases (Orderly.of_reaches hp reached).accounted.origin mem with
  | unreachable _ result | bypassed _ _ result | late _ _ _ result | abandoned _ _ result =>
    rw [result] at status
    cases status
  | dispatched _ _ attempts =>
    obtain ⟨step, vars, -, -, reported⟩ :=
      reported_of_reaches hp reached mem (Nat.ne_of_gt attempts)
    cases reported with
    | attempted attempted => exact attempted.wrapped (objects ..) completed
    | panicked _ result =>
      rw [result] at status
      cases status

/-- In every state that the run of a request comes to, its variables are those that the request and
the results make up. -/
theorem bag_of_reaches (hp : p.Sound)
    (objects : ∀ vars step number, (p.attempt vars step number).Yields StepResult.Wrapped)
    {runId : String} {q : RunRequest} {now : Instant}
    (request : RunContext.ofRequest runId q now = .ok context)
    (reached : Reaches .free p (start p context cancelled) s) :
    Bag q s.results s.context.variables := by
  obtain ⟨given, outputs, free⟩ := RunContext.given_of_request request
  refine ⟨free, s.results.foldl noteOutput [], ?_, ?_⟩
  · have once := (Orderly.of_reaches hp reached).nodup_resultIds hp
    exact outputTable_foldl once (wrapped_of_reaches hp objects reached)
  · rw [Remembers.of_reaches reached, outputs, ← given]
    rfl

/-- When a step is started, all its predecessors have their results. -/
theorem noted_of_dispatched (hp : p.Sound) {step : Step} {vars : List (String × Value)}
    (reached : Reaches .free p (start p context cancelled) s)
    (h : Dispatched .free p (start p context cancelled) s step vars) :
    ∃ u, Reaches .free p (start p context cancelled) u ∧ Reaches .free p u s ∧
      vars = u.context.variables ∧
      ∀ r ∈ s.results, r.stepId ∈ p.graph.predecessors step.id → r ∈ u.results := by
  obtain ⟨u, v, before, acts, starts, rfl, later⟩ := h
  have after : Reaches .free p u s := .head (.act acts) later
  refine ⟨u, before, after, rfl, fun r mem predecessor => ?_⟩
  have ready := (launches_of_act (act_of_act? acts) starts).ready
  have terminal := ((readiness_eq_ready_iff.1 ready).1 _ predecessor).1
  have same := result?_of_isPrefix after.onward.results terminal
  rw [result?_of_mem ((Orderly.of_reaches hp reached).nodup_resultIds hp) mem] at same
  exact (stepId_of_result? same.symm).2

end RunState

open RunState in
/-- At every point of the run of a request, its variables are those of the request and the outputs
of the steps that have completed so far, and the variables that the run reports at its end are so
too. Each step that is started sees the variables of that moment, among them the outputs of all its
predecessors that complete; and its attempts, in progress, superseded or reported, are attempts on
these variables. -/
theorem variables_follow_results {d : Dispatcher} {program : Program}
    (clean : program.Clean d.registry d.evaluator) {settings : ExecutionSettings} {scope : RunScope}
    {p : Plan} (plan : p = Plan.make d settings program scope) {runId : String} {q : RunRequest}
    {now : Instant} {context : RunContext}
    (request : RunContext.ofRequest runId q now = .ok context) {cancelled : Bool} {s : RunState}
    (reached : Reaches .free p (start p context cancelled) s) :
    Bag q s.results s.context.variables ∧
    (∀ step vars, Dispatched .free p (start p context cancelled) s step vars →
      ∃ before, before <+: s.results ∧ Bag q before vars ∧
        ∀ r ∈ s.results, r.stepId ∈ p.graph.predecessors step.id → r ∈ before) ∧
    (∀ j ∈ s.jobs, Dispatched .free p (start p context cancelled) s j.step j.variables ∧
      Job.Views p j.step j.variables j j.point) ∧
    (∀ r ∈ s.retried, ∃ step vars, Dispatched .free p (start p context cancelled) s step vars ∧
      step.id = r.stepId ∧ p.Superseded step vars r) ∧
    (∀ r ∈ s.results, r.attempts ≠ 0 →
      ∃ step vars, Dispatched .free p (start p context cancelled) s step vars ∧
        step.id = r.stepId ∧ p.Reported step vars r) ∧
    ∀ begun result, s.result p begun = some result → Bag q result.steps result.variables := by
  have hp : p.Sound := plan ▸ Plan.sound_make clean settings scope
  have objects : ∀ vars step number, (p.attempt vars step number).Yields StepResult.Wrapped := by
    rw [plan]
    exact fun vars step number => d.dispatch_yields_wrapped scope vars false step number
  have tracked := Tracked.of_reaches (Job.law_views .free p) reached
  have bag := bag_of_reaches hp objects request reached
  refine ⟨bag, fun step vars dispatched => ?_, tracked.jobs, fun r mem => ?_,
    fun r mem made => reported_of_reaches hp reached mem made, fun begun result hr => ?_⟩
  · obtain ⟨u, before, later, rfl, noted⟩ := noted_of_dispatched hp reached dispatched
    exact ⟨u.results, later.onward.results, bag_of_reaches hp objects request before, noted⟩
  · obtain ⟨e, mem, step, vars, dispatched, own, comes⟩ := tracked.retried r mem
    obtain ⟨number, attempt, attempted, rfl⟩ := (e.reported own comes 0).2 r mem
    exact ⟨step, vars, dispatched, (attempted.stepId hp).symm, number, attempt, attempted, rfl⟩
  · rw [variables_of_result hr, (isOver_of_result hr).2]
    exact bag

/-- At the end of the run of a request with a name, the name and the output of the mail are known. -/
theorem mail_output_is_known : ∃ q context s,
    RunContext.ofRequest "run" q ⟨0, 0⟩ = .ok context ∧
    Reaches .free .fork (RunState.start .fork context false) s ∧ s.isOver = true ∧
    Keyed.get? "name" s.context.variables = some (.text "Ada") ∧
    ∃ outputs entries, OutputTable s.results outputs ∧ ("mail", .object entries) ∈ outputs ∧
      Keyed.get? RunContext.stepsVariable s.context.variables = some (.object outputs) := by
  let q : RunRequest := { tenantId := "tenant", «variables» := [("name", .text "Ada")] }
  let context : RunContext := {
    runId := "run", tenantId := "tenant", given := [("name", .text "Ada")], now := ⟨0, 0⟩ }
  let s := (RunState.drive .fork)^[60] (RunState.start .fork context false)
  have request : RunContext.ofRequest "run" q ⟨0, 0⟩ = .ok context := rfl
  have reached : Reaches .free .fork (RunState.start .fork context false) s :=
    (execution_drive .fork _).reaches 60
  have ended : s.isOver = true ∧
      ∃ r ∈ s.results, r.stepId = "mail" ∧ r.status = .completed := by
    simp only [s, RunState.start, unreachable_fork]
    decide +kernel
  obtain ⟨finished, r, noted, own, completed⟩ := ended
  obtain ⟨⟨-, outputs, table, same⟩, -⟩ := variables_follow_results clean_fork rfl request reached
  have sent := (table.entry "mail" r.output).2 ⟨r, noted, own, completed, rfl⟩
  obtain ⟨entries, object⟩ := table.objects _ sent
  refine ⟨q, context, s, request, reached, finished, ?_, outputs, entries, table, object ▸ sent, ?_⟩
  · rw [same, Keyed.get?_put_of_ne (by decide)]
    rfl
  · rw [same]
    exact Keyed.get?_put_self ..

end Playbook
