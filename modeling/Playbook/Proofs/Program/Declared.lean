import Mathlib.Data.List.Induction
import Playbook.Proofs.Program.Unreachable

/-!
The graph of a program against what the program declares. The nodes are the declared ids, the edges
the declared successors that are ids themselves, and a step is reachable when declared edges lead to
it from an entry point; validation warns of every other id, once.
-/
namespace Playbook

/-- The step is a starting point, or declared edges lead to it from one. -/
def Program.Reaches (p : Program) (starts : List String) (id : String) : Prop :=
  ∃ start ∈ starts, Relation.ReflTransGen p.Declares start id

/-- Of each element the first occurrence is kept, so they stay in the order in which they first
occur. -/
theorem pairwise_idxOf_eraseDups (xs : List String) :
    xs.eraseDups.Pairwise fun a b => xs.idxOf a < xs.idxOf b := by
  induction xs using List.reverseRecOn with
  | nil => exact .nil
  | append_singleton xs x ih =>
    have earlier : ∀ a ∈ xs.eraseDups, (xs ++ [x]).idxOf a = xs.idxOf a := fun a mem =>
      List.idxOf_append_of_mem (List.mem_eraseDups.1 mem)
    have kept : xs.eraseDups.Pairwise fun a b => (xs ++ [x]).idxOf a < (xs ++ [x]).idxOf b :=
      ih.imp_of_mem fun ha hb less => by rwa [earlier _ ha, earlier _ hb]
    rw [List.eraseDups_append]
    by_cases known : x ∈ xs
    · simpa [List.removeAll, known] using kept
    · have first : (xs ++ [x]).idxOf x = xs.length := by
        simp [List.idxOf_append_of_notMem known]
      have last : ([x].removeAll xs).eraseDups = [x] := by
        simp [List.removeAll, known, List.eraseDups_cons]
      rw [last, List.pairwise_append]
      refine ⟨kept, List.pairwise_singleton .., fun a mem b single => ?_⟩
      rw [List.mem_singleton.1 single, first, earlier a mem]
      exact List.idxOf_lt_length_of_mem (List.mem_eraseDups.1 mem)

namespace StepGraph

variable {p : Program} {id : String}

theorem nodup_edges_ofProgram (p : Program) : (ofProgram p).edges.Nodup := by
  dsimp only [ofProgram]
  exact nodup_eraseDups _

theorem nodup_successors (p : Program) (id : String) : ((ofProgram p).successors id).Nodup := by
  refine ((nodup_edges_ofProgram p).filter _).map_on fun e he e' he' same => ?_
  simp only [List.mem_filter, beq_iff_eq] at he he'
  exact Prod.ext (he.2.trans he'.2.symm) same

theorem nodup_predecessors (p : Program) (id : String) : ((ofProgram p).predecessors id).Nodup := by
  refine ((nodup_edges_ofProgram p).filter _).map_on fun e he e' he' same => ?_
  simp only [List.mem_filter, beq_iff_eq] at he he'
  exact Prod.ext same (he.2.trans he'.2.symm)

/-- What the search finds from the entry points is what declared edges lead to from there. -/
theorem mem_reachable_entryPoints :
    id ∈ (ofProgram p).reachable ((ofProgram p).entryPoints p) ↔
      p.Reaches ((ofProgram p).entryPoints p) id := by
  rw [mem_reachable (bounded_ofProgram p) fun id => mem_nodes_of_mem_entryPoints, Connected,
    Program.Reaches]
  unfold Leads
  rw [edge_eq_declares]

end StepGraph

namespace Validation

open Expression (Evaluator)

variable {p : Program} {registry : Registry} {evaluator : Evaluator}

/-- Whether an issue warns that this step cannot be reached. -/
def warnsOf (id : String) (i : Issue) : Bool := warns i && i.stepId == some id

theorem steps_ne_nil_of_entryPoints (entries : (StepGraph.ofProgram p).entryPoints p ≠ []) :
    p.steps ≠ [] := by
  intro none
  refine entries (List.eq_nil_iff_forall_not_mem.2 fun id mem => ?_)
  simpa [none] using StepGraph.mem_nodes_ofProgram.1 (StepGraph.mem_nodes_of_mem_entryPoints mem)

/-- A node that the search does not find is warned of once, and nothing else is. -/
theorem count_warnings (registry : Registry) (evaluator : Evaluator)
    (entries : (StepGraph.ofProgram p).entryPoints p ≠ []) (id : String) :
    (issues registry evaluator p).countP (warnsOf id) =
      ((StepGraph.ofProgram p).nodes.filter fun node => !((StepGraph.ofProgram p).reachable
        ((StepGraph.ofProgram p).entryPoints p)).contains node).count id := by
  have split : (issues registry evaluator p).countP (warnsOf id) =
      ((issues registry evaluator p).filter warns).countP fun i => i.stepId == some id := by
    rw [List.countP_filter]
    congr 1
    funext i
    exact Bool.and_comm ..
  rw [split, filter_warns_issues registry evaluator (steps_ne_nil_of_entryPoints entries) entries,
    unreachableIssues, List.countP_map]
  rfl

/-- A warning is about a node that the search does not find. -/
theorem of_warning (entries : (StepGraph.ofProgram p).entryPoints p ≠ []) {i : Issue}
    (mem : i ∈ issues registry evaluator p) (kind : i.kind = .unreachableStep) :
    ∃ id ∈ (StepGraph.ofProgram p).nodes,
      id ∉ (StepGraph.ofProgram p).reachable ((StepGraph.ofProgram p).entryPoints p) ∧
      i.stepId = some id := by
  have found : i ∈ (issues registry evaluator p).filter warns :=
    List.mem_filter.2 ⟨mem, beq_iff_eq.2 kind⟩
  rw [filter_warns_issues registry evaluator (steps_ne_nil_of_entryPoints entries) entries] at found
  simp only [unreachableIssues, List.mem_map, List.mem_filter, Bool.not_eq_true',
    List.contains_eq_mem, decide_eq_false_iff_not] at found
  obtain ⟨id, ⟨node, missed⟩, rfl⟩ := found
  exact ⟨id, node, missed, rfl⟩

end Validation

open Validation (issues warnsOf)

/-- The graph of a program lists the declared ids, each once and in the order in which they are
first declared, and the declared edges between them, each once in either view. The search finds what
declared edges lead to from the entry points. If there is one, validation warns of every other id,
once, and of nothing else. -/
theorem Program.graph_holds_declarations (p : Program) :
    let g := StepGraph.ofProgram p
    let entries := g.entryPoints p
    (g.nodes.Nodup ∧ (∀ id, id ∈ g.nodes ↔ id ∈ p.ids) ∧
      g.nodes.Pairwise fun a b => p.ids.idxOf a < p.ids.idxOf b) ∧
    (∀ a, (g.successors a).Nodup ∧ (g.predecessors a).Nodup ∧
      ∀ b, (b ∈ g.successors a ↔ p.Declares a b) ∧ (b ∈ g.predecessors a ↔ p.Declares b a)) ∧
    (∀ id, id ∈ g.reachable entries ↔ p.Reaches entries id) ∧
    (entries ≠ [] → ∀ registry evaluator,
      (∀ id ∈ p.ids, ¬p.Reaches entries id →
        (issues registry evaluator p).countP (warnsOf id) = 1) ∧
      ∀ i ∈ issues registry evaluator p, i.kind = .unreachableStep →
        i.kind.severity = .warning ∧
          ∃ id ∈ p.ids, i.stepId = some id ∧ ¬p.Reaches entries id) := by
  intro g entries
  have nodes (id : String) : id ∈ g.nodes ↔ id ∈ p.ids := StepGraph.mem_nodes_ofProgram
  have reachable (id : String) : id ∈ g.reachable entries ↔ p.Reaches entries id :=
    StepGraph.mem_reachable_entryPoints
  have nodup : g.nodes.Nodup := StepGraph.nodup_nodes_ofProgram p
  refine ⟨⟨nodup, nodes, pairwise_idxOf_eraseDups p.ids⟩, fun a => ?_, reachable,
    fun some registry evaluator => ⟨fun id mem missed => ?_, fun i mem kind => ?_⟩⟩
  · refine ⟨StepGraph.nodup_successors p a, StepGraph.nodup_predecessors p a, fun b => ⟨?_, ?_⟩⟩
    · exact StepGraph.mem_successors.trans StepGraph.edge_ofProgram
    · exact StepGraph.mem_predecessors.trans StepGraph.edge_ofProgram
  · rw [Validation.count_warnings registry evaluator some]
    refine List.count_eq_one_of_mem (nodup.filter _) (List.mem_filter.2 ⟨(nodes id).2 mem, ?_⟩)
    simpa using mt (reachable id).1 missed
  · obtain ⟨id, node, missed, step⟩ := Validation.of_warning some mem kind
    rw [kind]
    exact ⟨rfl, id, (nodes id).1 node, step, mt (reachable id).2 missed⟩

/-- Steps with an id declared twice, an edge declared twice, an edge to no step, and loops. -/
def Program.tangle : Program where
  id := "tangle"
  steps := [{ id := "ask", next := ["mail", "mail", "ghost"] }, { id := "mail", next := ["mail"] },
    { id := "ask", next := ["call"] }, { id := "call" },
    { id := "stray", next := ["stray", "call"] }]

theorem Program.tangle_leaves_one_step :
    (StepGraph.ofProgram .tangle).entryPoints .tangle ≠ [] ∧
    Program.tangle.Reaches ["ask"] "call" ∧ ¬Program.tangle.Reaches ["ask"] "stray" ∧
    (issues Dispatcher.plain.registry Dispatcher.plain.evaluator .tangle).countP
      (warnsOf "stray") = 1 := by
  have graph : StepGraph.ofProgram .tangle = ⟨["ask", "mail", "call", "stray"],
      [("ask", "mail"), ("mail", "mail"), ("ask", "call"), ("stray", "stray"),
        ("stray", "call")]⟩ := by
    decide +kernel
  have entries : (StepGraph.ofProgram .tangle).entryPoints .tangle = ["ask"] := by decide +kernel
  have found : (StepGraph.ofProgram .tangle).reachable ["ask"] = ["call", "mail", "ask"] := by
    rw [graph]
    simp [StepGraph.reachable, StepGraph.spread, StepGraph.successors]
  obtain ⟨-, -, reachable, warned⟩ := Program.graph_holds_declarations .tangle
  simp only [entries, found] at reachable warned
  have stray : ¬Program.tangle.Reaches ["ask"] "stray" := mt (reachable "stray").2 (by decide)
  refine ⟨by rw [entries]; exact List.cons_ne_nil _ _, (reachable "call").1 (by decide), stray, ?_⟩
  exact (warned (List.cons_ne_nil _ _) _ _).1 "stray" (by decide) stray

end Playbook
