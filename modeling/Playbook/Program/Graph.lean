import Playbook.Program.Basic

/-!
The graph of a program: its step ids, each once, and the edges between them, each once. Edges to
ids that no step has are left out. Successors and predecessors are two views of the one list of
edges, so they are converses of each other.
-/
namespace Playbook

structure StepGraph where
  /-- step ids in the order in which they are declared -/
  nodes : List String
  /-- pairs of a step and one of its successors -/
  edges : List (String × String)
  deriving DecidableEq, Repr

namespace StepGraph

def ofProgram (p : Program) : StepGraph :=
  let nodes := (p.steps.map Step.id).eraseDups
  let declared := p.steps.flatMap fun s => s.next.map fun next => (s.id, next)
  ⟨nodes, (declared.filter fun e => nodes.contains e.2).eraseDups⟩

def successors (g : StepGraph) (id : String) : List String :=
  (g.edges.filter fun e => e.1 == id).map Prod.snd

def predecessors (g : StepGraph) (id : String) : List String :=
  (g.edges.filter fun e => e.2 == id).map Prod.fst

@[simp] theorem mem_successors {g : StepGraph} {a b : String} :
    b ∈ g.successors a ↔ (a, b) ∈ g.edges := by
  simp [successors]

@[simp] theorem mem_predecessors {g : StepGraph} {a b : String} :
    a ∈ g.predecessors b ↔ (a, b) ∈ g.edges := by
  simp [predecessors]

/-- The steps without predecessors whose trigger fires from outside the run. -/
def entryPoints (g : StepGraph) (p : Program) : List String :=
  ((p.steps.filter fun s =>
    (g.predecessors s.id).isEmpty && s.trigger.type.isEntryCapable).map Step.id).eraseDups

/-- The nodes that are not in a list. -/
def unseen (g : StepGraph) (seen : List String) : Nat :=
  (g.nodes.filter fun id => !seen.contains id).length

theorem unseen_lt {g : StepGraph} {seen : List String} {id : String}
    (mem : id ∈ g.nodes) (fresh : id ∉ seen) : g.unseen (id :: seen) < g.unseen seen := by
  unfold unseen
  generalize g.nodes = nodes at mem
  have le : ∀ nodes : List String,
      (nodes.filter fun x => !(id :: seen).contains x).length ≤
        (nodes.filter fun x => !seen.contains x).length := by
    intro nodes
    rw [← List.countP_eq_length_filter, ← List.countP_eq_length_filter]
    exact List.countP_mono_left fun x _ hx => by simp_all
  induction nodes with
  | nil => simp at mem
  | cons n rest ih =>
    by_cases hn : n = id
    · subst hn
      simpa [fresh] using Nat.lt_succ_of_le (by simpa using le rest)
    · have mem : id ∈ rest := by
        cases mem with
        | head => exact absurd rfl hn
        | tail _ h => exact h
      by_cases hs : n ∈ seen
      · simpa [hs] using ih mem
      · simpa [hs, hn] using ih mem

/-- The seen nodes and all that the waiting ones lead to. -/
def spread (g : StepGraph) (seen : List String) : List String → List String
  | [] => seen
  | id :: waiting =>
    if id ∈ g.nodes ∧ id ∉ seen then spread g (id :: seen) (waiting ++ g.successors id)
    else spread g seen waiting
termination_by waiting => (g.unseen seen, waiting.length)
decreasing_by
  · exact Prod.Lex.left _ _ (unseen_lt (by simp_all) (by simp_all))
  · exact Prod.Lex.right _ (by simp)

/-- The steps that can be reached from some starting points. -/
def reachable (g : StepGraph) (starts : List String) : List String := g.spread [] starts

/-- What a depth-first search has found: the nodes it is done with, and those that close a
cycle. -/
structure Search where
  finished : List String := []
  closing : List String := []

/-- Searches on from a node. The path leads to the node from where the search began; a path holds
no node twice, so as many levels as there are nodes are enough. -/
def search (g : StepGraph) : (levels : Nat) → (path : List String) → String → Search → Search
  | 0, _, _, s => s
  | levels + 1, path, id, s =>
    if id ∈ s.finished then s
    else
      let s := (g.successors id).foldl (fun s next =>
        if next ∈ id :: path then { s with closing := next :: s.closing }
        else g.search levels (id :: path) next s) s
      { s with finished := id :: s.finished }

/-- The steps where a depth-first search closes a cycle, in the order in which they are declared. -/
def cycleMembers (g : StepGraph) : List String :=
  let s := g.nodes.foldl (fun s id => g.search g.nodes.length [] id s) {}
  g.nodes.filter (s.closing.contains ·)

end StepGraph
end Playbook
