import Mathlib.Tactic.Tauto
import Playbook.Proofs.Graph.Acyclicity
import Playbook.Proofs.Run.Yield
import Playbook.Run.Plan

/-!
Programs without blocking issues. Their step ids are distinct, their graph is acyclic and has an
entry point; so a plan that is made for one is sound, which is all that runs rely on.
-/
namespace Playbook

open Expression (Evaluator)
open Validation

/-- No issue of the program keeps it from running. -/
def Program.Clean (registry : Registry) (evaluator : Evaluator) (p : Program) : Prop :=
  ∀ i ∈ Validation.issues registry evaluator p, i.blocksExecution = false

theorem permit_eq_ok {registry : Registry} {evaluator : Evaluator} {p : Program} :
    Plan.permit registry evaluator p = .ok () ↔
      p.status ≠ .archived ∧ p.Clean registry evaluator := by
  have hf : (issues registry evaluator p).filter Issue.blocksExecution = [] ↔
      p.Clean registry evaluator := by
    simp [Program.Clean, List.filter_eq_nil_iff]
  unfold Plan.permit Program.isExecutable
  by_cases hp : p.status = .archived
  · simp [hp]
  · rw [← hf]
    cases (issues registry evaluator p).filter Issue.blocksExecution <;> simp [hp]

/-- Ids without issues are distinct, also from the ids before them. -/
theorem nodup_of_idIssues {earlier ids : List String} (h : idIssues earlier ids = []) :
    ids.Nodup ∧ ∀ id ∈ ids, id ∉ earlier := by
  induction ids generalizing earlier with
  | nil => simp
  | cons id rest ih =>
    rw [idIssues] at h
    split at h
    · simp at h
    · split at h
      · simp at h
      · next fresh =>
        obtain ⟨nodup, disjoint⟩ := ih h
        refine ⟨List.nodup_cons.2 ⟨fun hid => disjoint id hid (by simp), nodup⟩, ?_⟩
        exact List.forall_mem_cons.2
          ⟨fresh, fun x hx he => disjoint x hx (List.mem_cons_of_mem _ he)⟩

/-- All findings about ids block. -/
theorem blocks_of_mem_idIssues {earlier ids : List String} {i : Issue}
    (h : i ∈ idIssues earlier ids) : i.blocksExecution = true := by
  induction ids generalizing earlier with
  | nil => simp [idIssues] at h
  | cons id rest ih =>
    rw [idIssues] at h
    split at h
    · rcases List.mem_cons.1 h with rfl | h
      · rfl
      · exact ih h
    · split at h
      · rcases List.mem_cons.1 h with rfl | h
        · rfl
        · exact ih h
      · exact ih h

namespace Program.Clean

variable {registry : Registry} {evaluator : Evaluator} {p : Program}

/-- Step ids are distinct. -/
theorem distinct (h : p.Clean registry evaluator) : (p.steps.map Step.id).Nodup := by
  have : idIssues [] (p.steps.map Step.id) = [] := by
    refine List.eq_nil_iff_forall_not_mem.2 fun i hi => ?_
    have := h i (by simp [issues, hi])
    simp [blocks_of_mem_idIssues hi] at this
  exact (nodup_of_idIssues this).1

theorem graphIssues (h : p.Clean registry evaluator) :
    ∀ i ∈ Validation.graphIssues p, i.blocksExecution = false :=
  fun i hi => h i (by simp [issues, hi])

theorem steps_ne_nil (h : p.Clean registry evaluator) : p.steps ≠ [] := by
  intro he
  have := h.graphIssues (.ofProgram .missingEntryPoint "program has no steps")
    (by simp [Validation.graphIssues, he])
  simp [Issue.blocksExecution, Issue.ofProgram, IssueKind.blocksExecution] at this

theorem cycleMembers (h : p.Clean registry evaluator) :
    (StepGraph.ofProgram p).cycleMembers = [] := by
  refine List.eq_nil_iff_forall_not_mem.2 fun id hid => ?_
  have := h.graphIssues (.ofStep .cycle id "step is part of a cycle") (by
    simp only [Validation.graphIssues, List.isEmpty_iff, h.steps_ne_nil, if_false]
    exact List.mem_append_left _ (List.mem_map.2 ⟨id, hid, rfl⟩))
  simp [Issue.blocksExecution, Issue.ofStep, IssueKind.blocksExecution] at this

theorem acyclic (h : p.Clean registry evaluator) : (StepGraph.ofProgram p).Acyclic :=
  StepGraph.acyclic_of_cycleMembers (StepGraph.bounded_ofProgram p) h.cycleMembers

theorem entryPoints_ne_nil (h : p.Clean registry evaluator) :
    (StepGraph.ofProgram p).entryPoints p ≠ [] := by
  intro he
  have := h.graphIssues (.ofProgram .missingEntryPoint
      "no root step has an immediate, user_action or time_based trigger") (by
    simp [Validation.graphIssues, h.steps_ne_nil, he])
  simp [Issue.blocksExecution, Issue.ofProgram, IssueKind.blocksExecution] at this

/-- A program with an acyclic graph and an entry point is clean when none of the other checks blocks
it. Steps that cannot be reached are no reason not to run it. -/
theorem of_checks (steps : p.steps.isEmpty = false)
    (acyclic : (StepGraph.ofProgram p).cycleMembers = [])
    (entries : ((StepGraph.ofProgram p).entryPoints p).isEmpty = false)
    (others : (executionIssues p ++ idIssues [] (p.steps.map Step.id) ++ successorIssues p ++
      p.steps.flatMap (stepIssues registry evaluator p.id)).all (fun i => !i.blocksExecution) =
        true) : p.Clean registry evaluator := by
  have graph : ∀ i ∈ Validation.graphIssues p, i.blocksExecution = false := by
    intro i hi
    have warned : i ∈ unreachableIssues (StepGraph.ofProgram p)
        ((StepGraph.ofProgram p).entryPoints p) := by
      simpa [Validation.graphIssues, acyclic, entries, steps] using hi
    obtain ⟨id, -, rfl⟩ := List.mem_map.1 warned
    rfl
  simp only [List.all_append, Bool.and_eq_true, List.all_eq_true, Bool.not_eq_true'] at others
  intro i hi
  have := graph i
  simp only [issues, List.mem_append] at hi
  tauto

end Program.Clean

/-- The program with another strategy and another limit. -/
def Program.withLimit (p : Program) (strategy : Strategy) (parallelLimit : Nat) : Program :=
  { p with execution := { p.execution with strategy, parallelLimit } }

theorem Program.Clean.withLimit {registry : Registry} {evaluator : Evaluator} {p : Program}
    (h : p.Clean registry evaluator) (strategy : Strategy) {parallelLimit : Nat}
    (positive : 0 < parallelLimit) :
    (p.withLimit strategy parallelLimit).Clean registry evaluator := by
  have fewer : ∀ i ∈ executionIssues (p.withLimit strategy parallelLimit),
      i ∈ executionIssues p := by
    intro i hi
    simp only [executionIssues, List.mem_append] at hi ⊢
    rcases hi with ((limit | timeout) | deadline) | steps
    · simp [issueIf, Program.withLimit, Nat.ne_of_gt positive] at limit
    · exact .inl (.inl (.inr timeout))
    · exact .inl (.inr deadline)
    · exact .inr steps
  intro i hi
  simp only [issues, List.mem_append, or_assoc] at hi
  rcases hi with hi | hi
  · exact h i (by simp [issues, fewer i hi])
  · exact h i (by
      simp only [issues, List.mem_append, or_assoc]
      exact .inr hi)

/-- A step that two steps follow, and one that nothing leads to. -/
def Program.fork : Program where
  id := "fork"
  status := .published
  steps := [{ id := "ask", next := ["mail", "call"] }, { id := "mail" }, { id := "call" },
    { id := "stray", trigger := { type := .delayed } }]

/-- Handlers for messages that are sent at once but take a while to arrive. -/
def Dispatcher.plain : Dispatcher where
  registry := {
    steps := [("message", ⟨fun _ => []⟩)]
    triggers := [("immediate", ⟨fun _ _ => return .ok .fire, fun _ _ => []⟩)]
    actions := [("send_message", ⟨fun i => .sleep 5 (return .ok (.text i.stepId)), fun _ => []⟩)] }
  evaluator := ⟨[], {}⟩

/-- Handlers that take no time: messages arrive, tasks panic, and users do not act. -/
def Dispatcher.abrupt : Dispatcher where
  registry := {
    steps := [("message", ⟨fun _ => []⟩)]
    triggers := [("immediate", ⟨fun _ _ => return .ok .fire, fun _ _ => []⟩),
      ("user_action", ⟨fun _ _ => return .ok (.hold "nobody acted"), fun _ _ => []⟩)]
    actions := [("assign_task", ⟨fun _ => .panic "nobody to do it", fun _ => []⟩),
      ("send_message", ⟨fun i => return .ok (.text i.stepId), fun _ => []⟩)] }
  evaluator := ⟨[], {}⟩

/-- Handlers that take their time: a message takes five seconds, a task a minute. -/
def Dispatcher.sluggish : Dispatcher where
  registry := {
    steps := [("message", ⟨fun _ => []⟩)]
    triggers := [("immediate", ⟨fun _ _ => return .ok .fire, fun _ _ => []⟩)]
    actions := [("assign_task", ⟨fun i => .sleep 60000 (return .ok (.text i.stepId)), fun _ => []⟩),
      ("send_message", ⟨fun i => .sleep 5000 (return .ok (.text i.stepId)), fun _ => []⟩)] }
  evaluator := ⟨[], {}⟩

theorem graph_fork : StepGraph.ofProgram .fork =
    ⟨["ask", "mail", "call", "stray"], [("ask", "mail"), ("ask", "call")]⟩ := by
  decide +kernel

/-- The stray step is no reason not to run the program. -/
theorem clean_fork : Program.fork.Clean Dispatcher.plain.registry Dispatcher.plain.evaluator :=
  .of_checks rfl (by decide +kernel) (by decide +kernel) (by decide +kernel)

/-- What runs rely on: the graph is the program's, each step is declared once, no path leads back,
some step may always run, and results of attempts are those of their steps. -/
structure Plan.Sound (p : Plan) : Prop where
  graph : p.graph = StepGraph.ofProgram p.program
  distinct : (p.program.steps.map Step.id).Nodup
  acyclic : p.graph.Acyclic
  slots : 0 < p.limit
  yields : ∀ vars step number,
    (p.attempt vars step number).Yields (StepResult.OfAttempt step.id number)

theorem ExecutionPolicy.limit_pos (e : ExecutionPolicy) (hardLimit : Nat) :
    0 < e.limit hardLimit := by
  unfold limit
  split <;> omega

/-- A plan for a program without blocking issues is sound, whatever handlers do. -/
theorem Plan.sound_make {d : Dispatcher} {program : Program}
    (h : program.Clean d.registry d.evaluator) (settings : ExecutionSettings) (scope : RunScope) :
    (Plan.make d settings program scope).Sound where
  graph := rfl
  distinct := h.distinct
  acyclic := h.acyclic
  slots := program.execution.limit_pos settings.parallelHardLimit
  yields vars step number := d.dispatch_yields scope vars false step number

/-- A plan for the forked program. -/
def Plan.fork : Plan := Plan.make .plain {} .fork {
  runId := "run", tenantId := "tenant", userId := none, events := [], now := ⟨0, 0⟩
  personality := {} }

/-- A plan for a program with handlers that take no time. -/
def Plan.abrupt (program : Program) : Plan := Plan.make .abrupt {} program {
  runId := "run", tenantId := "tenant", userId := none, events := [], now := ⟨0, 0⟩
  personality := {} }

/-- A plan for a program with handlers that take their time. -/
def Plan.sluggish (program : Program) : Plan := Plan.make .sluggish {} program {
  runId := "run", tenantId := "tenant", userId := none, events := [], now := ⟨0, 0⟩
  personality := {} }

theorem unreachable_fork : Plan.fork.unreachable = ["stray"] := by
  have graph : Plan.fork.graph = _ := graph_fork
  have entries : Plan.fork.graph.entryPoints Plan.fork.program = ["ask"] := by decide +kernel
  unfold Plan.unreachable
  rw [entries, graph]
  simp [StepGraph.reachable, StepGraph.spread, StepGraph.successors]

namespace Plan.Sound

variable {p : Plan}

theorem bounded (h : p.Sound) : p.graph.Bounded := h.graph ▸ StepGraph.bounded_ofProgram p.program

theorem mem_nodes (h : p.Sound) {id : String} :
    id ∈ p.graph.nodes ↔ id ∈ p.program.steps.map Step.id := by
  rw [h.graph, StepGraph.mem_nodes_ofProgram]

theorem nodup_nodes (h : p.Sound) : p.graph.nodes.Nodup :=
  h.graph ▸ StepGraph.nodup_nodes_ofProgram p.program

/-- The nodes are the ids of the steps. -/
theorem nodes_perm (h : p.Sound) : p.graph.nodes.Perm (p.program.steps.map Step.id) :=
  (List.perm_ext_iff_of_nodup h.nodup_nodes h.distinct).2 fun _ => h.mem_nodes

/-- Every node is the id of a step that is found under it. -/
theorem step?_isSome (h : p.Sound) {id : String} (hid : id ∈ p.graph.nodes) :
    (p.program.step? id).isSome := by
  obtain ⟨s, hs, rfl⟩ := List.mem_map.1 (h.mem_nodes.1 hid)
  exact List.find?_isSome.2 ⟨s, hs, by simp⟩

theorem mem_unreachable (h : p.Sound) {id : String} :
    id ∈ p.unreachable ↔ id ∈ p.graph.nodes ∧
      ¬ p.graph.Connected (p.graph.entryPoints p.program) id := by
  have entries : ∀ id ∈ p.graph.entryPoints p.program, id ∈ p.graph.nodes := by
    rw [h.graph]
    exact fun id => StepGraph.mem_nodes_of_mem_entryPoints
  simp [unreachable, StepGraph.mem_reachable h.bounded entries]

/-- Every step can be reached where a run may begin with each step that has no predecessors. -/
theorem unreachable_eq_nil (h : p.Sound)
    (roots : ∀ step ∈ p.program.steps, p.graph.predecessors step.id = [] →
      step.trigger.type.isEntryCapable = true) : p.unreachable = [] := by
  have connected : ∀ id ∈ p.graph.nodes,
      p.graph.Connected (p.graph.entryPoints p.program) id := by
    intro id
    induction id using (h.acyclic.wellFounded h.bounded).induction with
    | _ id ih =>
      intro node
      cases before : p.graph.predecessors id with
      | nil =>
        obtain ⟨step, declared, rfl⟩ := List.mem_map.1 (h.mem_nodes.1 node)
        refine ⟨step.id, ?_, .refl⟩
        simp only [StepGraph.entryPoints, List.mem_eraseDups, List.mem_map, List.mem_filter]
        exact ⟨step, ⟨declared, by simp [before, roots step declared before]⟩, rfl⟩
      | cons a rest =>
        have edge : p.graph.Edge a id := StepGraph.mem_predecessors.1 (by simp [before])
        obtain ⟨start, entry, leads⟩ := ih a (.single edge) (h.bounded a id edge).1
        exact ⟨start, entry, leads.tail edge⟩
  refine List.eq_nil_iff_forall_not_mem.2 fun id stray => ?_
  obtain ⟨node, apart⟩ := h.mem_unreachable.1 stray
  exact apart (connected id node)

end Plan.Sound
end Playbook
