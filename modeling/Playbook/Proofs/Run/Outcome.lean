import Playbook.Proofs.Program.Unreachable
import Playbook.Proofs.Run.Termination

/-!
What each step of a run comes to. In a run that was not cancelled the graph and the results of its
predecessors decide whether a step is skipped, and why; any other step was in flight, unless the
deadline of the run kept it from starting.
-/
namespace Playbook

/-- The step was skipped without an attempt. -/
def StepResult.SkippedAs (r : StepResult) (branch : String) : Prop :=
  r.status = .skipped ∧ r.trigger.branch = branch ∧ r.attempts = 0

theorem StepResult.skippedAs_of_timeless {r : StepResult} {branch reason : String}
    (h : r.timeless = .skipped r.stepId 0 (.skip branch reason)) : r.SkippedAs branch := by
  have status := congrArg StepResult.status h
  have trigger := congrArg StepResult.trigger h
  have attempts := congrArg StepResult.attempts h
  simp only [status_timeless, trigger_timeless, attempts_timeless] at status trigger attempts
  exact ⟨status, congrArg Decision.branch trigger, attempts⟩

theorem StepResult.SkippedAs.unique {r : StepResult} {a b : String} (ha : r.SkippedAs a)
    (hb : r.SkippedAs b) : a = b := ha.2.1.symm.trans hb.2.1

/-- The step failed without an attempt, as its run was past its deadline. -/
def StepResult.Expired (p : Plan) (r : StepResult) : Prop :=
  p.isPastDeadline r.startedAt = true ∧ r.status = .failed ∧ r.error = some .deadline ∧
    r.attempts = 0

namespace RunState

variable {p : Plan}

/-- A predecessor of the step has failed, and the run does not go on after its failure. -/
def Blocked (p : Plan) (s : RunState) (id : String) : Prop :=
  ∃ q r, p.graph.Edge q id ∧ s.result? q = some r ∧ r.status = .failed ∧ p.tolerates q = false

/-- The step has predecessors, and all of them were skipped. -/
def Bypassed (p : Plan) (s : RunState) (id : String) : Prop :=
  (∃ q, p.graph.Edge q id) ∧
    ∀ q, p.graph.Edge q id → ∃ r, s.result? q = some r ∧ r.status = .skipped

section results

variable {s : RunState} {id : String}

/-- Only a failure blocks a step, as no result of a step says that it was retried. -/
theorem blocks_eq_true_iff (unretried : ∀ r ∈ s.results, r.status ≠ .retried) {q : String} :
    s.blocks p q = true ↔
      ∃ r, s.result? q = some r ∧ r.status = .failed ∧ p.tolerates q = false := by
  unfold blocks
  cases hr : s.result? q with
  | none => simp
  | some r =>
    have := unretried r (stepId_of_result? hr).2
    simp [this]

theorem isSkipped_eq_true_iff {q : String} :
    s.isSkipped q = true ↔ ∃ r, s.result? q = some r ∧ r.status = .skipped := by
  unfold isSkipped
  cases hr : s.result? q <;> simp

/-- A step whose predecessors have their results is blocked, bypassed or ready. -/
theorem readiness_of_terminal (unretried : ∀ r ∈ s.results, r.status ≠ .retried)
    (settled : s.readiness p id ≠ .waiting) :
    (s.Blocked p id ∧ ∃ reason, s.readiness p id = .skip Branch.upstreamFailed reason) ∨
      (¬ s.Blocked p id ∧ s.Bypassed p id ∧
        ∃ reason, s.readiness p id = .skip Branch.allPredecessorsSkipped reason) ∨
      (¬ s.Blocked p id ∧ ¬ s.Bypassed p id ∧ s.readiness p id = .ready) := by
  have blocked : s.Blocked p id ↔ ∃ q ∈ p.graph.predecessors id, s.blocks p q = true := by
    simp only [Blocked, blocks_eq_true_iff unretried, StepGraph.mem_predecessors]
    refine exists_congr fun q => ⟨?_, ?_⟩
    · rintro ⟨r, edge, h⟩
      exact ⟨edge, r, h⟩
    · rintro ⟨edge, r, h⟩
      exact ⟨r, edge, h⟩
  have bypassed : s.Bypassed p id ↔
      p.graph.predecessors id ≠ [] ∧ ∀ q ∈ p.graph.predecessors id, s.isSkipped q = true := by
    simp only [Bypassed, isSkipped_eq_true_iff, ne_eq,
      List.eq_nil_iff_forall_not_mem, not_forall, not_not, StepGraph.mem_predecessors]
    rfl
  cases hr : s.readiness p id with
  | waiting => exact absurd hr settled
  | skip branch reason =>
    obtain ⟨-, ⟨q, found, rfl, rfl⟩ | ⟨free, ne, skipped, rfl, rfl⟩⟩ := readiness_eq_skip_iff.1 hr
    · have := List.find?_some found
      exact .inl ⟨blocked.2 ⟨q, List.mem_of_find?_eq_some found, this⟩, _, rfl⟩
    · refine .inr (.inl ⟨?_, bypassed.2 ⟨ne, skipped⟩, _, rfl⟩)
      rintro h
      obtain ⟨q, hq, hb⟩ := blocked.1 h
      simp [free q hq] at hb
  | ready =>
    obtain ⟨settled, taken⟩ := readiness_eq_ready_iff.1 hr
    refine .inr (.inr ⟨fun h => ?_, fun h => ?_, rfl⟩)
    · obtain ⟨q, hq, hb⟩ := blocked.1 h
      simp [(settled q hq).2] at hb
    · obtain ⟨ne, skipped⟩ := bypassed.1 h
      rcases taken with root | ⟨q, hq, taken⟩
      · exact ne root
      · simp [skipped q hq] at taken

end results

/-! ### Steps with attempts were in flight -/

/-- A result that a move adds is that of a step in flight, or there was no attempt at the step. -/
theorem Coherent.result_cases {s t : RunState} (h : Coherent p s) (m : Act p s t) {r : StepResult}
    (mem : r ∈ t.results) : r ∈ s.results ∨ r.stepId ∈ s.flightIds ∨ r.attempts = 0 := by
  have takeIn : ∀ {e rest}, s.ended = e :: rest → r ∈ (s.takeIn e rest).results →
      r ∈ s.results ∨ r.stepId ∈ s.flightIds ∨ r.attempts = 0 := by
    intro e rest ended mem
    rw [results_takeIn] at mem
    rcases List.mem_append.1 mem with mem | mem
    · exact .inl mem
    · have step := (e.ofStep_result s.now (h.ended e (by simp [ended]))).1
      rw [List.mem_singleton.1 mem, step]
      exact .inr (.inl (by simp [flightIds, ended]))
  cases m with
  | look | scanned | pass | again | launch => exact .inl mem
  | skip | expire =>
    rcases List.mem_append.1 mem with mem | mem
    · exact .inl mem
    · exact .inr (.inr (List.mem_singleton.1 mem ▸ rfl))
  | leave =>
    unfold RunState.leave at mem
    split at mem <;> exact .inl mem
  | takeIn _ _ ended => exact takeIn ended mem
  | drain _ ended => exact takeIn ended mem
  | finish => exact (mem_results_skips mem).imp_right fun unmade => .inr unmade.1

/-- A step that an attempt was made at was in flight in some state of the run. -/
theorem exists_flight_of_attempts {o : Surroundings} (hp : p.Sound) {context : RunContext}
    {cancelled : Bool} {s : RunState} (h : Reaches o p (RunState.start p context cancelled) s)
    {r : StepResult} (mem : r ∈ s.results) (attempts : r.attempts ≠ 0) :
    ∃ u, Reaches o p (RunState.start p context cancelled) u ∧ Reaches o p u s ∧
      r.stepId ∈ u.flightIds := by
  induction h with
  | refl =>
    exact absurd (of_mem_results_start _ _ _ mem).1 attempts
  | @tail s t h m ih =>
    have coherent := (Orderly.of_reaches hp h).toCoherent
    have before : r ∈ s.results ∨ r.stepId ∈ s.flightIds := by
      cases m with
      | act m =>
        rcases coherent.result_cases (act_of_act? m) mem with mem | flight | none
        · exact .inl mem
        · exact .inr flight
        · exact absurd none attempts
      | poll m => cases poll_of_poll? m <;> exact .inl mem
      | cancel | elapse => exact .inl mem
    rcases before with mem | flight
    · obtain ⟨u, hu, hs, flight⟩ := ih mem
      exact ⟨u, hu, hs.tail m, flight⟩
    · exact ⟨s, h, .single m, flight⟩

/-- In a run that was not cancelled a step that has its result is unreachable, blocked, bypassed, or
else there was an attempt at it or no time for one. -/
theorem Orderly.outcome_cases (hp : p.Sound) {s : RunState} (h : Orderly p s)
    (calm : s.cancelled = false) {id : String} {r : StepResult} (hr : s.result? id = some r) :
    (¬ p.graph.Connected (p.graph.entryPoints p.program) id ∧ r.SkippedAs Branch.unreachable) ∨
      p.graph.Connected (p.graph.entryPoints p.program) id ∧
        (s.Blocked p id ∧ r.SkippedAs Branch.upstreamFailed ∨
          ¬ s.Blocked p id ∧ s.Bypassed p id ∧ r.SkippedAs Branch.allPredecessorsSkipped ∨
          ¬ s.Blocked p id ∧ ¬ s.Bypassed p id ∧ (1 ≤ r.attempts ∨ r.Expired p)) := by
  obtain ⟨rfl, mem⟩ := stepId_of_result? hr
  have node : r.stepId ∈ p.graph.nodes := by
    refine h.places.subset (List.mem_append_right _ (List.mem_append_right _ ?_))
    exact List.mem_map_of_mem mem
  have connected : r.stepId ∉ p.unreachable →
      p.graph.Connected (p.graph.entryPoints p.program) r.stepId := by
    intro reachable
    by_contra unconnected
    exact reachable (hp.mem_unreachable.2 ⟨node, unconnected⟩)
  have decided := @readiness_of_terminal p s r.stepId h.accounted.unretried
  cases h.accounted.origin mem with
  | unreachable hid result =>
    exact .inl ⟨(hp.mem_unreachable.1 hid).2, StepResult.skippedAs_of_timeless result⟩
  | bypassed reachable skips result =>
    have skipped := StepResult.skippedAs_of_timeless result
    rw [skips] at decided
    refine .inr ⟨connected reachable, ?_⟩
    rcases decided Readiness.noConfusion with
      ⟨blocked, _, hs⟩ | ⟨free, bypassed, _, hs⟩ | ⟨-, -, hs⟩
    · cases hs
      exact .inl ⟨blocked, skipped⟩
    · cases hs
      exact .inr (.inl ⟨free, bypassed, skipped⟩)
    · cases hs
  | late reachable ready late result =>
    rw [ready] at decided
    refine .inr ⟨connected reachable, ?_⟩
    rcases decided Readiness.noConfusion with ⟨-, _, hs⟩ | ⟨-, -, _, hs⟩ | ⟨free, taken, -⟩
    · cases hs
    · cases hs
    · refine .inr (.inr ⟨free, taken, .inr ⟨late, ?_, ?_, ?_⟩⟩)
      · exact congrArg StepResult.status result
      · exact congrArg StepResult.error result
      · exact congrArg StepResult.attempts result
  | dispatched reachable ready attempts =>
    rw [ready] at decided
    refine .inr ⟨connected reachable, ?_⟩
    rcases decided Readiness.noConfusion with ⟨-, _, hs⟩ | ⟨-, -, _, hs⟩ | ⟨free, taken, -⟩
    · cases hs
    · cases hs
    · exact .inr (.inr ⟨free, taken, .inl attempts⟩)
  | abandoned _ cancelled => simp [calm] at cancelled

end RunState

/-- What the steps of a run that was not cancelled come to, where a panic of a handler cancels a run
too. A step is skipped as unreachable when no path from an entry point leads to it, which is what
validation warns of; otherwise it is skipped as `upstream_failed` when a predecessor blocks it;
otherwise as `branch_not_taken` when all its predecessors, of which there is one, were skipped; and
otherwise it was in flight, or it failed because the run was past its deadline. -/
theorem outcome_of_step {d : Dispatcher} {program : Program}
    (clean : program.Clean d.registry d.evaluator) {settings : ExecutionSettings} {scope : RunScope}
    {p : Plan} (plan : p = Plan.make d settings program scope) {context : RunContext}
    {cancelled : Bool} {s : RunState}
    (reached : Reaches .free p (RunState.start p context cancelled) s) (finished : s.isOver = true)
    (calm : s.cancelled = false) {id : String} (hid : id ∈ program.steps.map Step.id) :
    ∃ r, s.result? id = some r ∧
      (r.SkippedAs Branch.unreachable ↔ ¬ p.graph.Connected (p.graph.entryPoints program) id) ∧
      ((∃ i ∈ Validation.issues d.registry d.evaluator program,
          i.kind = .unreachableStep ∧ i.stepId = some id) ↔
        ¬ p.graph.Connected (p.graph.entryPoints program) id) ∧
      (p.graph.Connected (p.graph.entryPoints program) id →
        (r.SkippedAs Branch.upstreamFailed ↔ s.Blocked p id) ∧
        (¬ s.Blocked p id →
          (r.SkippedAs Branch.allPredecessorsSkipped ↔ s.Bypassed p id) ∧
          (¬ s.Bypassed p id →
            (1 ≤ r.attempts ∧ ∃ u, Reaches .free p (RunState.start p context cancelled) u ∧
              Reaches .free p u s ∧ id ∈ u.flightIds) ∨
            r.Expired p))) := by
  have hp : p.Sound := plan ▸ Plan.sound_make clean settings scope
  have orderly := RunState.Orderly.of_reaches hp reached
  have program_eq : p.program = program := by rw [plan]; rfl
  have warned := Validation.warned_iff clean hid
  have graph : StepGraph.ofProgram program = p.graph := by rw [plan]; rfl
  rw [graph] at warned
  have mem : id ∈ s.resultIds := by
    rw [(orderly.resultIds_perm finished).mem_iff, hp.mem_nodes, program_eq]
    exact hid
  obtain ⟨r, hr⟩ := Option.isSome_iff_exists.1 (RunState.isTerminal_iff.2 mem)
  refine ⟨r, hr, ?_⟩
  have flight : 1 ≤ r.attempts → ∃ u, Reaches .free p (RunState.start p context cancelled) u ∧
      Reaches .free p u s ∧ id ∈ u.flightIds := by
    intro attempts
    obtain ⟨rfl, noted⟩ := RunState.stepId_of_result? hr
    exact RunState.exists_flight_of_attempts hp reached noted (Nat.ne_of_gt attempts)
  have attempted : 1 ≤ r.attempts ∨ r.Expired p → ∀ branch, ¬ r.SkippedAs branch := by
    rintro (attempts | expired) branch ⟨status, -, none⟩
    · omega
    · simp [expired.2.1] at status
  have cases := orderly.outcome_cases hp calm hr
  rw [program_eq] at cases
  rcases cases with ⟨unconnected, skipped⟩ | ⟨connected, cases⟩
  · exact ⟨iff_of_true skipped unconnected, warned, fun connected => absurd connected unconnected⟩
  · have reachable : ¬ ¬ p.graph.Connected (p.graph.entryPoints program) id := fun h => h connected
    rcases cases with ⟨blocked, skipped⟩ | ⟨free, bypassed, skipped⟩ | ⟨free, taken, attempted'⟩
    · refine ⟨iff_of_false (fun h => ?_) reachable, warned, fun _ => ⟨iff_of_true skipped blocked,
        fun free => absurd blocked free⟩⟩
      exact absurd (h.unique skipped) (by decide)
    · refine ⟨iff_of_false (fun h => ?_) reachable, warned, fun _ =>
        ⟨iff_of_false (fun h => ?_) free, fun _ => ⟨iff_of_true skipped bypassed,
          fun taken => absurd bypassed taken⟩⟩⟩
      · exact absurd (h.unique skipped) (by decide)
      · exact absurd (h.unique skipped) (by decide)
    · have never := attempted attempted'
      refine ⟨iff_of_false (never _) reachable, warned, fun _ => ⟨iff_of_false (never _) free,
        fun _ => ⟨iff_of_false (never _) taken, fun _ => ?_⟩⟩⟩
      exact attempted'.imp_left fun attempts => ⟨attempts, flight attempts⟩

theorem stray_is_skipped : ∃ context s r,
    Reaches .free .fork (RunState.start .fork context false) s ∧ s.isOver = true ∧
    s.cancelled = false ∧ s.result? "stray" = some r ∧ r.SkippedAs Branch.unreachable := by
  let context : RunContext := { runId := "run", tenantId := "tenant", now := ⟨0, 0⟩ }
  let s := (RunState.drive .fork)^[60] (RunState.start .fork context false)
  have ended : s.isOver = true ∧ s.cancelled = false := by
    simp only [s, RunState.start, unreachable_fork]
    decide +kernel
  have reached : Reaches .free .fork (RunState.start .fork context false) s :=
    (execution_drive .fork _).reaches 60
  have stray : ¬ Plan.fork.graph.Connected (Plan.fork.graph.entryPoints .fork) "stray" :=
    ((Plan.sound_make clean_fork _ _).mem_unreachable.1
      (show "stray" ∈ Plan.fork.unreachable by simp [unreachable_fork])).2
  have declared : "stray" ∈ Program.fork.steps.map Step.id := by decide +kernel
  obtain ⟨r, hr, skipped, -⟩ := outcome_of_step clean_fork rfl reached ended.1 ended.2 declared
  exact ⟨context, s, r, reached, ended.1, ended.2, hr, skipped.2 stray⟩

end Playbook
