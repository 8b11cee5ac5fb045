import Playbook.Proofs.Run.Clock
import Playbook.Proofs.Run.Foretold
import Playbook.Proofs.Run.Status

/-!
It makes no difference how many steps run at once. Where the attempts at a step depend on what its
ancestors left behind only, two runs of a program that nothing cuts short give every step the same
result, whichever order their steps ended in: by induction along the graph, a step finds its
predecessors ended alike, and if it starts, its attempts come to the same.
-/
namespace Playbook

open Json (Value)

/-- Attempts of two plans do the same and take as long, if the initial variables are the same and so
are the outputs of the ancestors of the step. -/
def Plan.SameAttempts (p p' : Plan) (c c' : RunContext) : Prop :=
  ∀ step ∈ p.program.steps, ∀ number outputs outputs',
    (∀ a, p.graph.Precedes a step.id → Keyed.get? a outputs = Keyed.get? a outputs') →
    let attempt := p.attempt (RunContext.variables { c with outputs }) step number
    let attempt' := p'.attempt (RunContext.variables { c' with outputs := outputs' }) step number
    attempt.outcome = attempt'.outcome ∧ attempt.duration = attempt'.duration

/-- Plans that differ in how many steps may run at once, and in nothing that attempts do. -/
structure Plan.Alike (p p' : Plan) (c c' : RunContext) : Prop where
  steps : p'.program.steps = p.program.steps
  graph : p'.graph = p.graph
  retries : p'.retry.retries = p.retry.retries
  timeout : p'.program.execution.timeoutSeconds = p.program.execution.timeoutSeconds
  given : c'.given = c.given
  outputs : c'.outputs = c.outputs
  attempts : p.SameAttempts p' c c'

namespace Plan.Alike

variable {p p' : Plan} {c c' : RunContext}

theorem unreachable (h : p.Alike p' c c') : p'.unreachable = p.unreachable := by
  unfold Plan.unreachable StepGraph.entryPoints
  rw [h.graph, h.steps]

theorem tolerates (h : p.Alike p' c c') : p'.tolerates = p.tolerates := by
  funext id
  unfold Plan.tolerates
  rw [h.steps]

theorem attemptEnd (h : p.Alike p' c c') {step : Step} (mem : step ∈ p.program.steps)
    {outputs outputs' : List (String × Value)}
    (same : ∀ a, p.graph.Precedes a step.id → Keyed.get? a outputs = Keyed.get? a outputs')
    (number : Nat) :
    p'.attemptEnd (RunContext.variables { c' with outputs := outputs' }) step number =
      p.attemptEnd (RunContext.variables { c with outputs }) step number := by
  obtain ⟨outcome, duration⟩ := h.attempts step mem number outputs outputs' same
  unfold Plan.attemptEnd Plan.timeoutMs Plan.timeoutSeconds
  simp only [outcome, duration, h.timeout]

theorem verdict (h : p.Alike p' c c') {step : Step} (mem : step ∈ p.program.steps)
    {outputs outputs' : List (String × Value)}
    (same : ∀ a, p.graph.Precedes a step.id → Keyed.get? a outputs = Keyed.get? a outputs')
    (left number : Nat) :
    p'.verdict (RunContext.variables { c' with outputs := outputs' }) step left number =
      p.verdict (RunContext.variables { c with outputs }) step left number := by
  induction left generalizing number with
  | zero => exact h.attemptEnd mem same number
  | succ left ih => simp only [Plan.verdict, h.attemptEnd mem same number, ih]

end Plan.Alike

namespace RunState

/-- A state in which a run ends that nothing cut short. -/
structure Completes (p : Plan) (c : RunContext) (s : RunState) : Prop where
  reached : Reaches .punctual p (RunState.start p c false) s
  finished : s.isOver = true
  calm : s.cancelled = false

theorem Completes.isTerminal_iff {p : Plan} {c : RunContext} {s : RunState} (hp : p.Sound)
    (h : Completes p c s) {id : String} : s.isTerminal id = true ↔ id ∈ p.graph.nodes := by
  rw [RunState.isTerminal_iff]
  exact ((Orderly.of_reaches hp h.reached).resultIds_perm h.finished).mem_iff

/-- How a step comes to its result where there is no deadline: it is unreachable, it is bypassed, or
its attempts come to it. -/
inductive Comes (p : Plan) (c : RunContext) (s : RunState) (id : String) (r : StepResult) : Prop
  | unreachable (unreachable : id ∈ p.unreachable)
      (result : r.timeless = .skipped id 0
        (.skip Branch.unreachable "not reachable from any entry point"))
  | bypassed {branch reason : String} (reachable : id ∉ p.unreachable)
      (skips : s.readiness p id = .skip branch reason)
      (result : r.timeless = .skipped id 0 (.skip branch reason))
  | dispatched {step : Step} {vars : List (String × Value)} (reachable : id ∉ p.unreachable)
      (ready : s.readiness p id = .ready) (foretells : Foretells p c s step vars (.ok r.timeless))
      (own : step.id = id)

theorem Completes.comes {p : Plan} {c : RunContext} {s : RunState} (hp : p.Sound)
    (endless : p.deadline = none) (h : Completes p c s) {id : String} {r : StepResult}
    (hr : s.result? id = some r) : Comes p c s id r := by
  obtain ⟨rfl, mem⟩ := stepId_of_result? hr
  cases (Orderly.of_reaches hp h.reached).accounted.origin mem with
  | unreachable unreachable result => exact .unreachable unreachable result
  | bypassed reachable skips result => exact .bypassed reachable skips result
  | late _ _ late => simp [Plan.isPastDeadline, endless] at late
  | dispatched reachable ready attempts =>
    obtain ⟨step, vars, foretells, own⟩ := (Foretold.of_reaches hp endless h.reached h.calm).results
      r mem (Nat.ne_of_gt attempts)
    exact .dispatched reachable ready foretells own
  | abandoned _ cancelled => simp [h.calm] at cancelled

section alike

variable {p p' : Plan} {c c' : RunContext} {s s' : RunState}

theorem get?_outputs_eq (remembers : Remembers c s) (remembers' : Remembers c' s')
    (nodup : s.resultIds.Nodup) (nodup' : s'.resultIds.Nodup) (outputs : c'.outputs = c.outputs)
    {id : String}
    (same : (s'.result? id).map StepResult.timeless = (s.result? id).map StepResult.timeless) :
    Keyed.get? id s'.context.outputs = Keyed.get? id s.context.outputs := by
  rw [remembers.get?_outputs nodup, remembers'.get?_outputs nodup', outputs]
  cases hr : s.result? id with
  | none =>
    rw [hr, Option.map_none, Option.map_eq_none_iff] at same
    rw [same]
  | some r =>
    rw [hr, Option.map_some, Option.map_eq_some_iff] at same
    obtain ⟨r', hr', heq⟩ := same
    have status : r'.timeless.status = r.timeless.status := by rw [heq]
    have output : r'.timeless.output = r.timeless.output := by rw [heq]
    simp only [StepResult.status_timeless, StepResult.output_timeless] at status output
    simp only [hr', status, output]

/-- A step whose ancestors came to the same comes to the same. -/
theorem Comes.timeless_eq (alike : p.Alike p' c c') (hp : p.Sound) {id : String} {r r' : StepResult}
    (h : Comes p c s id r) (h' : Comes p' c' s' id r')
    (readiness : s'.readiness p' id = s.readiness p id)
    (outputs : ∀ a, p.graph.Precedes a id →
      Keyed.get? a s'.context.outputs = Keyed.get? a s.context.outputs) :
    r'.timeless = r.timeless := by
  cases h with
  | unreachable unreachable result =>
    cases h' with
    | unreachable _ result' => rw [result, result']
    | bypassed reachable | dispatched reachable =>
      exact absurd unreachable (alike.unreachable ▸ reachable)
  | bypassed reachable skips result =>
    cases h' with
    | unreachable unreachable => exact absurd unreachable (alike.unreachable ▸ reachable)
    | bypassed _ skips' result' =>
      rw [skips, skips'] at readiness
      cases readiness
      rw [result, result']
    | dispatched _ ready =>
      rw [skips, ready] at readiness
      cases readiness
  | @dispatched step vars reachable ready foretells own =>
    cases h' with
    | unreachable unreachable => exact absurd unreachable (alike.unreachable ▸ reachable)
    | bypassed _ skips =>
      rw [skips, ready] at readiness
      cases readiness
    | @dispatched step' vars' _ _ foretells' own' =>
      have declared := foretells'.declared
      rw [alike.steps] at declared
      have : step' = step := List.inj_on_of_nodup_map hp.distinct declared foretells.declared
        (own'.trans own.symm)
      subst this own
      obtain ⟨seen, rfl, known⟩ := foretells.sees
      obtain ⟨seen', rfl, known'⟩ := foretells'.sees
      rw [alike.graph] at known'
      have same : ∀ a, p.graph.Precedes a step'.id → Keyed.get? a seen = Keyed.get? a seen' := by
        intro a path
        rw [(known a path).2, (known' a path).2, outputs a path]
      have verdict := alike.verdict foretells.declared same p.retry.retries 1
      rw [foretells.verdict, ← alike.retries, foretells'.verdict] at verdict
      exact Except.ok.inj verdict

theorem Completes.timeless_eq (alike : p.Alike p' c c') (hp : p.Sound) (hp' : p'.Sound)
    (endless : p.deadline = none) (endless' : p'.deadline = none) (h : Completes p c s)
    (h' : Completes p' c' s') (id : String) :
    (s'.result? id).map StepResult.timeless = (s.result? id).map StepResult.timeless := by
  have nodup := (Orderly.of_reaches hp h.reached).nodup_resultIds hp
  have nodup' := (Orderly.of_reaches hp' h'.reached).nodup_resultIds hp'
  have remembers := Remembers.of_reaches h.reached
  have remembers' := Remembers.of_reaches h'.reached
  induction id using (hp.acyclic.wellFounded hp.bounded).induction with
  | _ id known =>
    have terminal : s'.isTerminal id = s.isTerminal id := by
      rw [Bool.eq_iff_iff, h.isTerminal_iff hp, h'.isTerminal_iff hp', alike.graph]
    have readiness : s'.readiness p' id = s.readiness p id := by
      refine readiness_congr alike.graph alike.tolerates fun q hq => ?_
      have same := congrArg (Option.map StepResult.status)
        (known q (.single (StepGraph.mem_predecessors.1 hq)))
      simpa only [Option.map_map, Function.comp_def, StepResult.status_timeless] using same
    have outputs := fun a (path : p.graph.Precedes a id) =>
      get?_outputs_eq remembers remembers' nodup nodup' alike.outputs (known a path)
    unfold isTerminal at terminal
    cases hr : s.result? id with
    | none => simpa [hr] using terminal
    | some r =>
      obtain ⟨r', hr'⟩ : ∃ r', s'.result? id = some r' := by
        simpa [hr, Option.isSome_iff_exists] using terminal
      rw [hr', Option.map_some, Option.map_some, (h.comes hp endless hr).timeless_eq alike hp
        (h'.comes hp' endless' hr') readiness outputs]

theorem mem_timeless_iff (nodup : s.resultIds.Nodup) {x : StepResult} :
    x ∈ s.results.map StepResult.timeless ↔
      (s.result? x.stepId).map StepResult.timeless = some x := by
  rw [List.mem_map, Option.map_eq_some_iff]
  constructor
  · rintro ⟨r, mem, rfl⟩
    exact ⟨r, result?_of_mem nodup mem, rfl⟩
  · rintro ⟨r, hr, heq⟩
    exact ⟨r, (stepId_of_result? hr).2, heq⟩

/-- The results of two runs are the same but for their order and their times. -/
theorem perm_timeless (nodup : s.resultIds.Nodup) (nodup' : s'.resultIds.Nodup)
    (same : ∀ id,
      (s'.result? id).map StepResult.timeless = (s.result? id).map StepResult.timeless) :
    (s'.results.map StepResult.timeless).Perm (s.results.map StepResult.timeless) := by
  have once : ∀ t : RunState, t.resultIds.Nodup → (t.results.map StepResult.timeless).Nodup := by
    intro t h
    refine List.Nodup.of_map StepResult.stepId ?_
    rw [List.map_map]
    exact h
  refine (List.perm_ext_iff_of_nodup (once s' nodup') (once s nodup)).2 fun x => ?_
  rw [mem_timeless_iff nodup, mem_timeless_iff nodup', same]

theorem variables_eq_of_perm (alike : p.Alike p' c c') (remembers : Remembers c s)
    (remembers' : Remembers c' s') (nodup' : s'.resultIds.Nodup)
    (perm : (s'.results.map StepResult.timeless).Perm (s.results.map StepResult.timeless)) :
    s'.context.variables = s.context.variables := by
  have outputs : s'.context.outputs = s.context.outputs := by
    rw [remembers, remembers', alike.outputs]
    exact foldl_noteOutput_eq nodup' perm _
  rw [remembers.context, remembers'.context, outputs]
  simp only [RunContext.variables, alike.given]

theorem tolerated_iff_of_perm (alike : p.Alike p' c c')
    (perm : (s'.results.map StepResult.timeless).Perm (s.results.map StepResult.timeless)) :
    (∀ r ∈ s'.results, r.status = .failed → p'.tolerates r.stepId = true) ↔
      ∀ r ∈ s.results, r.status = .failed → p.tolerates r.stepId = true := by
  have timeless : ∀ t : RunState,
      (∀ x ∈ t.results.map StepResult.timeless, x.status = .failed →
        p.tolerates x.stepId = true) ↔
      ∀ r ∈ t.results, r.status = .failed → p.tolerates r.stepId = true :=
    fun t => List.forall_mem_map
  rw [alike.tolerates, ← timeless s, ← timeless s']
  exact forall_congr' fun x => imp_congr_left perm.mem_iff

end alike

end RunState

open RunState in
/-- Two runs of a program without deadline, with any strategies and limits, end with the same result
for every step, but for its times, and with the same variables and the same status. Neither is
cancelled, which a panic would do too, and what an attempt at a step does depends on the initial
variables and the outputs of the step's ancestors only. The clocks pass no alarm, as attempts would
take longer than they do. -/
theorem same_results_under_any_limit {d : Dispatcher} {program : Program} {strategy : Strategy}
    {parallelLimit hardLimit : Nat} (clean : program.Clean d.registry d.evaluator)
    (clean' : (program.withLimit strategy parallelLimit).Clean d.registry d.evaluator)
    (endless : program.execution.runDeadlineSeconds = none) {settings : ExecutionSettings}
    {scope scope' : RunScope} {p p' : Plan} (plan : p = Plan.make d settings program scope)
    (plan' : p' = Plan.make d { settings with parallelHardLimit := hardLimit }
      (program.withLimit strategy parallelLimit) scope')
    {c c' : RunContext} (given : c'.given = c.given) (outputs : c'.outputs = c.outputs)
    (attempts : p.SameAttempts p' c c') {s s' : RunState} (h : Completes p c s)
    (h' : Completes p' c' s') (start start' : Instant) :
    ∃ result result', s.result p start = some result ∧ s'.result p' start' = some result' ∧
      (∀ id ∈ program.steps.map Step.id, ∃ r r', result.step? id = some r ∧
        result'.step? id = some r' ∧ r'.timeless = r.timeless) ∧
      result'.variables = result.variables ∧ result'.status = result.status := by
  have hp : p.Sound := plan ▸ Plan.sound_make clean settings scope
  have hp' : p'.Sound := plan' ▸ Plan.sound_make clean' _ scope'
  have alike : p.Alike p' c c' := by
    subst plan plan'
    exact ⟨rfl, rfl, rfl, rfl, given, outputs, attempts⟩
  have deadline : p.deadline = none := by
    rw [plan]
    simp [Plan.make, endless]
  have deadline' : p'.deadline = none := by
    rw [plan']
    simp [Plan.make, Program.withLimit, endless]
  have same := h.timeless_eq alike hp hp' deadline deadline' h'
  have nodup := (Orderly.of_reaches hp h.reached).nodup_resultIds hp
  have nodup' := (Orderly.of_reaches hp' h'.reached).nodup_resultIds hp'
  have perm := perm_timeless nodup nodup' same
  obtain ⟨result, hr, steps⟩ := exists_result (p := p) h.finished start
  obtain ⟨result', hr', steps'⟩ := exists_result (p := p') h'.finished start'
  refine ⟨result, result', hr, hr', fun id hid => ?_, ?_, ?_⟩
  · have node : id ∈ p.graph.nodes := by
      rw [hp.mem_nodes, plan]
      exact hid
    obtain ⟨r, hr⟩ := Option.isSome_iff_exists.1 ((h.isTerminal_iff hp).2 node)
    have found := same id
    rw [hr, Option.map_some, Option.map_eq_some_iff] at found
    obtain ⟨r', hr', heq⟩ := found
    unfold RunResult.step?
    rw [steps, steps']
    exact ⟨r, r', hr, hr', heq⟩
  · rw [variables_of_result hr, variables_of_result hr']
    exact variables_eq_of_perm alike (.of_reaches h.reached) (.of_reaches h'.reached) nodup' perm
  · have status := (Told.of_reaches hp h.reached).status_eq_completed_iff h.calm hr
    have status' := (Told.of_reaches hp' h'.reached).status_eq_completed_iff h'.calm hr'
    have same : result'.status = .completed ↔ result.status = .completed :=
      status'.trans ((tolerated_iff_of_perm alike perm).trans status.symm)
    cases hs : result.status <;> cases hs' : result'.status <;> simp_all

/-- Two steps of the forked program at once. -/
def Plan.forkInParallel : Plan :=
  Plan.make .plain { parallelHardLimit := 8 } (Program.fork.withLimit .parallel 2) {
    runId := "again", tenantId := "tenant", userId := none, events := [], now := ⟨0, 0⟩
    personality := {} }

open RunState in
theorem fork_in_parallel : ∃ c s s' result result', Completes .fork c s ∧
    Completes .forkInParallel c s' ∧ s.result .fork ⟨0, 0⟩ = some result ∧
    s'.result .forkInParallel ⟨0, 0⟩ = some result' ∧
    (∀ id ∈ ["ask", "mail", "call", "stray"], ∃ r r', result.step? id = some r ∧
      result'.step? id = some r' ∧ r'.timeless = r.timeless) ∧
    result'.variables = result.variables ∧ result'.status = result.status := by
  let c : RunContext := { runId := "run", tenantId := "tenant", now := ⟨0, 0⟩ }
  let s := (drive .fork)^[60] (RunState.start .fork c false)
  let s' := (drive .forkInParallel)^[60] (RunState.start .forkInParallel c false)
  have clean' : (Program.fork.withLimit .parallel 2).Clean Dispatcher.plain.registry
      Dispatcher.plain.evaluator := clean_fork.withLimit .parallel (by decide)
  have attempts : Plan.fork.SameAttempts .forkInParallel c c := by
    intro step mem number outputs outputs' _
    simp only [Plan.fork, Plan.make, Program.fork, List.mem_cons, List.not_mem_nil, or_false] at mem
    rcases mem with rfl | rfl | rfl | rfl <;> exact ⟨rfl, rfl⟩
  have hp : Plan.fork.Sound := Plan.sound_make clean_fork _ _
  have hp' : Plan.forkInParallel.Sound := Plan.sound_make clean' _ _
  have h : Completes .fork c s := by
    refine ⟨reaches_drive hp c false 60, ?_, ?_⟩ <;>
    · simp only [s, RunState.start, unreachable_fork]
      decide +kernel
  have alike : Plan.fork.Alike .forkInParallel c c := ⟨rfl, rfl, rfl, rfl, rfl, rfl, attempts⟩
  have unreachable : Plan.forkInParallel.unreachable = ["stray"] :=
    alike.unreachable.trans unreachable_fork
  have h' : Completes .forkInParallel c s' := by
    refine ⟨reaches_drive hp' c false 60, ?_, ?_⟩ <;>
    · simp only [s', RunState.start, unreachable]
      decide +kernel
  obtain ⟨result, result', hr, hr', steps, same⟩ := same_results_under_any_limit clean_fork clean'
    rfl rfl rfl rfl rfl attempts h h' ⟨0, 0⟩ ⟨0, 0⟩
  exact ⟨c, s, s', result, result', h, h', hr, hr', steps, same⟩

end Playbook
