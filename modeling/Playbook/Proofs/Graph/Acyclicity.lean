import Mathlib.Data.List.Nodup
import Mathlib.Data.List.Perm.Subperm
import Mathlib.Order.RelClasses
import Mathlib.Order.WellFounded
import Mathlib.Data.Fintype.Order
import Playbook.Proofs.Graph.Reachability

/-!
Cycles in the graph of a program. The depth-first search is done with a node after it is done with
all successors that do not close a cycle; so where nothing closes a cycle there is none, and the
edges can be followed backwards only finitely often.
-/
namespace Playbook
namespace StepGraph

/-- No path leads from a step back to itself. -/
def Acyclic (g : StepGraph) : Prop := ∀ a, ¬ g.Precedes a a

/-- Nodes in the reverse order in which a search was done with them: the successors of each stand
behind it or close a cycle. -/
def Finished (g : StepGraph) (closing : List String) : List String → Prop
  | [] => True
  | id :: rest => (∀ b, g.Edge id b → b ∈ rest ∨ b ∈ closing) ∧ Finished g closing rest

theorem Finished.mono {g : StepGraph} {closing closing' : List String}
    (sub : ∀ b ∈ closing, b ∈ closing') {nodes : List String} (h : Finished g closing nodes) :
    Finished g closing' nodes := by
  induction nodes with
  | nil => trivial
  | cons id rest ih =>
    obtain ⟨hid, hrest⟩ := h
    exact ⟨fun b hb => (hid b hb).imp_right (sub b), ih hrest⟩

/-- An edge to a step that closes no cycle. -/
def OpenEdge (g : StepGraph) (closing : List String) (a b : String) : Prop :=
  g.Edge a b ∧ b ∉ closing

/-- From a node that the search was done with, edges that close no cycle can be followed only
finitely often. -/
theorem Finished.acc {g : StepGraph} {closing nodes : List String} (h : Finished g closing nodes) :
    ∀ a ∈ nodes, Acc (fun b a => g.OpenEdge closing a b) a := by
  induction nodes with
  | nil => simp
  | cons id rest ih =>
    obtain ⟨hid, hrest⟩ := h
    intro a ha
    rcases List.mem_cons.1 ha with rfl | ha
    · refine Acc.intro a fun b hb => ih hrest b ?_
      exact (hid b hb.1).resolve_right hb.2
    · exact ih hrest a ha

/-- What a search keeps: it forgets nothing, and what it is done with stays in order. -/
structure Search.Extends (g : StepGraph) (s t : Search) : Prop where
  finished : ∀ a ∈ s.finished, a ∈ t.finished
  closing : ∀ a ∈ s.closing, a ∈ t.closing
  order : Finished g s.closing s.finished → Finished g t.closing t.finished

theorem Search.Extends.refl {g : StepGraph} (s : Search) : Search.Extends g s s :=
  ⟨fun _ h => h, fun _ h => h, fun h => h⟩

theorem Search.Extends.trans {g : StepGraph} {s t u : Search} (h : Search.Extends g s t)
    (h' : Search.Extends g t u) : Search.Extends g s u :=
  ⟨fun a ha => h'.finished a (h.finished a ha), fun a ha => h'.closing a (h.closing a ha),
    fun ho => h'.order (h.order ho)⟩

/-- Going through some nodes, each of which the search is done with afterwards or which closes a
cycle. -/
theorem foldl_extends {g : StepGraph} (f : Search → String → Search) (nodes : List String)
    (step : ∀ s, ∀ b ∈ nodes,
      Search.Extends g s (f s b) ∧ (b ∈ (f s b).finished ∨ b ∈ (f s b).closing)) (s : Search) :
    Search.Extends g s (nodes.foldl f s) ∧
      ∀ b ∈ nodes, b ∈ (nodes.foldl f s).finished ∨ b ∈ (nodes.foldl f s).closing := by
  induction nodes generalizing s with
  | nil => exact ⟨.refl s, by simp⟩
  | cons n rest ih =>
    obtain ⟨hn, hmem⟩ := step s n (by simp)
    obtain ⟨hrest, hall⟩ := ih (fun s b hb => step s b (List.mem_cons_of_mem _ hb)) (f s n)
    refine ⟨hn.trans hrest, fun b hb => ?_⟩
    rcases List.mem_cons.1 hb with rfl | hb
    · exact hmem.imp (hrest.finished b) (hrest.closing b)
    · exact hall b hb

/-- A search from a node is done with it in the end. A path without repetitions has no more nodes
than there are, so the levels do not run out. -/
theorem search_extends {g : StepGraph} (hg : g.Bounded) (levels : Nat) (path : List String)
    (id : String) (nodup : (id :: path).Nodup) (sub : ∀ a ∈ id :: path, a ∈ g.nodes)
    (enough : g.nodes.length ≤ levels + path.length) (s : Search) :
    Search.Extends g s (g.search levels path id s) ∧ id ∈ (g.search levels path id s).finished := by
  induction levels generalizing path id s with
  | zero =>
    have := nodup.length_le_of_subset sub
    simp only [List.length_cons] at this
    omega
  | succ levels ih =>
    rw [search]
    by_cases hid : id ∈ s.finished
    · rw [if_pos hid]
      exact ⟨.refl s, hid⟩
    · rw [if_neg hid]
      obtain ⟨hs, hall⟩ := foldl_extends (g := g)
        (fun s next =>
          if next ∈ id :: path then { s with closing := next :: s.closing }
          else g.search levels (id :: path) next s)
        (g.successors id)
        (fun s b hb => by
          by_cases hp : b ∈ id :: path
          · rw [if_pos hp]
            have more : ∀ a ∈ s.closing, a ∈ b :: s.closing := fun a => List.mem_cons_of_mem b
            exact ⟨⟨fun a ha => ha, more, Finished.mono more⟩, .inr (by simp)⟩
          · rw [if_neg hp]
            have inside : ∀ a ∈ b :: id :: path, a ∈ g.nodes :=
              List.forall_mem_cons.2 ⟨(hg id b (mem_successors.1 hb)).2, sub⟩
            obtain ⟨he, hm⟩ := ih (id :: path) b (List.nodup_cons.2 ⟨hp, nodup⟩) inside
              (by simp only [List.length_cons]; omega) s
            exact ⟨he, .inl hm⟩) s
      refine ⟨⟨fun a ha => List.mem_cons_of_mem _ (hs.finished a ha), hs.closing, fun ho => ?_⟩,
        by simp⟩
      exact ⟨fun b hb => hall b (mem_successors.2 hb), hs.order ho⟩

theorem not_self_of_acc {α : Type} {r : α → α → Prop} {a : α} (h : Acc r a) : ¬ r a a := by
  induction h with
  | intro a _ ih => exact fun ha => ih a ha ha

/-- The whole search, which begins at each node in turn. -/
def searched (g : StepGraph) : Search :=
  g.nodes.foldl (fun s id => g.search g.nodes.length [] id s) {}

theorem mem_cycleMembers {g : StepGraph} {id : String} :
    id ∈ g.cycleMembers ↔ id ∈ g.nodes ∧ id ∈ g.searched.closing := by
  simp [cycleMembers, searched]

/-- From a node that closes no cycle, edges that close no cycle can be followed only finitely
often. -/
theorem acc_openEdge {g : StepGraph} (hg : g.Bounded) {a : String} (node : a ∈ g.nodes)
    (unclosing : a ∉ g.searched.closing) :
    Acc (fun b a => g.OpenEdge g.searched.closing a b) a := by
  obtain ⟨he, hall⟩ := foldl_extends (g := g)
    (fun s id => g.search g.nodes.length [] id s) g.nodes
    (fun s id hid => by
      obtain ⟨he, hm⟩ := search_extends hg g.nodes.length [] id (by simp) (by simpa using hid)
        (by simp) s
      exact ⟨he, .inl hm⟩) {}
  exact (he.order trivial).acc a ((hall a node).resolve_right unclosing)

/-- Every path from a node back to itself enters a node that closes a cycle. -/
theorem not_transGen_openEdge {g : StepGraph} (hg : g.Bounded) (a : String) :
    ¬ Relation.TransGen (g.OpenEdge g.searched.closing) a a := by
  intro loop
  obtain ⟨b, -, last⟩ := Relation.TransGen.tail'_iff.1 loop
  have backwards := (acc_openEdge hg (hg b a last.1).2 last.2).transGen
  exact not_self_of_acc backwards (Relation.transGen_swap.2 loop)

/-- A graph is acyclic when the search finds nothing that closes a cycle. -/
theorem acyclic_of_cycleMembers {g : StepGraph} (hg : g.Bounded) (h : g.cycleMembers = []) :
    g.Acyclic := by
  have unclosing : ∀ a b, g.Edge a b → b ∉ g.searched.closing := fun a b hab closing =>
    List.not_mem_nil (h ▸ mem_cycleMembers.2 ⟨(hg a b hab).2, closing⟩)
  exact fun a loop => not_transGen_openEdge hg a
    (Relation.TransGen.mono (fun a b hab => ⟨hab, unclosing a b hab⟩) a a loop)

/-- In an acyclic graph, induction over the predecessors of a step is sound. -/
theorem Acyclic.wellFounded {g : StepGraph} (hg : g.Bounded) (h : g.Acyclic) :
    WellFounded g.Precedes := by
  have inside : WellFounded fun a b : { id // id ∈ g.nodes } => g.Precedes a b := by
    have : IsTrans { id // id ∈ g.nodes } fun a b => g.Precedes a b :=
      ⟨fun _ _ _ => Relation.TransGen.trans⟩
    have : Std.Irrefl fun a b : { id // id ∈ g.nodes } => g.Precedes a b := ⟨fun a => h a⟩
    have : Finite { id // id ∈ g.nodes } := List.finite_toSet g.nodes
    exact Finite.wellFounded_of_trans_of_irrefl _
  have node : ∀ a b, g.Precedes a b → a ∈ g.nodes ∧ b ∈ g.nodes := by
    intro a b hab
    obtain ⟨c, hc, -⟩ := Relation.TransGen.head'_iff.1 hab
    obtain ⟨d, -, hd⟩ := Relation.TransGen.tail'_iff.1 hab
    exact ⟨(hg a c hc).1, (hg d b hd).2⟩
  have acc : ∀ b : { id // id ∈ g.nodes }, Acc g.Precedes b := fun b =>
    inside.induction b fun b ih => Acc.intro b.1 fun a hab => ih ⟨a, (node a b hab).1⟩ hab
  exact ⟨fun b => Acc.intro b fun a hab => acc ⟨a, (node a b hab).1⟩⟩

end StepGraph
end Playbook
