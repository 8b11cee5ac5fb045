import Playbook.Proofs.Graph.Acyclicity

/-!
Cycles are found exactly. A step that the depth-first search reports closes a cycle through the path
on which the search stands; and every cycle enters a step that is reported, since edges to the
others can be followed only finitely often.
-/
namespace Playbook

/-- Steps each of which leads to the next one, and the last to the first. -/
def Circuit (leads : String → String → Prop) : List String → Prop
  | [] => False
  | a :: rest => List.IsChain leads (a :: rest ++ [a])

namespace StepGraph

variable {g : StepGraph} {a b id : String} {path rest : List String}

/-- Some cycle leads through a step, and through no step twice. -/
def OnCycle (g : StepGraph) (id : String) : Prop := ∃ c, c.Nodup ∧ Circuit g.Edge c ∧ id ∈ c

/-- The way that a search has come, from where it stands back to where it began. -/
structure Trail (g : StepGraph) (path : List String) : Prop where
  nodup : path.Nodup
  linked : path.IsChain fun b a => g.Edge a b

theorem Trail.single (id : String) : g.Trail [id] := ⟨List.nodup_singleton id, .singleton id⟩

theorem Trail.cons (h : g.Trail (id :: path)) (edge : g.Edge id b) (fresh : b ∉ id :: path) :
    g.Trail (b :: id :: path) :=
  ⟨List.nodup_cons.2 ⟨fresh, h.nodup⟩, .cons_cons edge h.linked⟩

/-- An edge back to the trail closes a cycle: the part of the trail from there on, and the edge. -/
theorem Trail.onCycle (h : g.Trail (id :: path)) (edge : g.Edge id b) (back : b ∈ id :: path) :
    g.OnCycle b := by
  obtain ⟨newer, older, cut⟩ := List.append_of_mem back
  have split : id :: path = newer ++ [b] ++ older := by simp [cut]
  have linked := h.linked
  rw [split] at linked
  have round : List.IsChain (fun b a => g.Edge a b) (b :: (newer ++ [b])) := by
    refine .cons linked.left_of_append fun first mem => ?_
    have stands : (newer ++ [b]).head? = some id := by
      have := congrArg List.head? split
      rw [List.head?_append_of_ne_nil _ (by simp)] at this
      exact this.symm
    rw [stands, Option.mem_some] at mem
    exact mem ▸ edge
  refine ⟨b :: newer.reverse, ?_, ?_, List.mem_cons_self ..⟩
  · have nodup := h.nodup
    rw [split] at nodup
    simpa using (List.nodup_reverse.2 (List.nodup_append.1 nodup).1)
  · have reversed := List.isChain_reverse.2 round
    simpa [Circuit] using reversed

/-- What a search reports lies on a cycle, if it stands at the end of a trail. -/
theorem onCycle_of_search (levels : Nat) {s : Search} (trail : g.Trail (id :: path))
    (known : ∀ a ∈ s.closing, g.OnCycle a) :
    ∀ a ∈ (g.search levels path id s).closing, g.OnCycle a := by
  induction levels generalizing path id s with
  | zero => exact known
  | succ levels ih =>
    rw [search]
    by_cases hid : id ∈ s.finished
    · rwa [if_pos hid]
    · rw [if_neg hid]
      refine List.foldlRecOn (motive := fun s : Search => ∀ a ∈ s.closing, g.OnCycle a) _ _ known ?_
      intro s known b hb
      have edge : g.Edge id b := mem_successors.1 hb
      by_cases back : b ∈ id :: path
      · rw [if_pos back]
        exact List.forall_mem_cons.2 ⟨trail.onCycle edge back, known⟩
      · rw [if_neg back]
        exact ih (trail.cons edge back) known

theorem onCycle_of_mem_cycleMembers (h : id ∈ g.cycleMembers) : g.OnCycle id := by
  have each : ∀ a ∈ g.searched.closing, g.OnCycle a := by
    refine List.foldlRecOn (motive := fun s : Search => ∀ a ∈ s.closing, g.OnCycle a) _ _ ?_ ?_
    · exact fun _ mem => absurd mem List.not_mem_nil
    · exact fun s known start _ => onCycle_of_search _ (.single start) known
  exact each id (mem_cycleMembers.1 h).2

theorem transGen_of_isChain {r : String → String → Prop}
    (h : List.IsChain r (a :: (rest ++ [b]))) : Relation.TransGen r a b := by
  induction rest generalizing a with
  | nil => exact .single (List.isChain_pair.1 h)
  | cons c rest ih =>
    obtain ⟨edge, onward⟩ := List.isChain_cons_cons.1 h
    exact .head edge (ih onward)

/-- Every cycle, and every closed walk, goes through a step that is reported. -/
theorem exists_mem_cycleMembers (hg : g.Bounded) {c : List String} (h : Circuit g.Edge c) :
    ∃ id ∈ c, id ∈ g.cycleMembers := by
  cases c with
  | nil => cases h
  | cons a rest =>
    by_contra none
    have missed : ∀ b ∈ rest ++ [a], b ∈ g.nodes → b ∉ g.searched.closing :=
      fun b mem node closing =>
        none ⟨b, by simpa [or_comm] using mem, mem_cycleMembers.2 ⟨node, closing⟩⟩
    have missing : List.IsChain (g.OpenEdge g.searched.closing) (a :: (rest ++ [a])) := by
      refine List.IsChain.imp_of_mem_tail_imp (fun b c _ mem edge => ?_) h
      exact ⟨edge, missed c mem (hg b c edge).2⟩
    exact not_transGen_openEdge hg a (transGen_of_isChain missing)

/-- The search finds a step of every cycle of declared successors, self-loops included, and no step
that lies on none, each once and in the order in which the steps are declared; so it finds nothing
exactly where they lead from no step back to it. -/
theorem cycles_are_found_exactly (p : Program) :
    (∀ id ∈ (ofProgram p).cycleMembers, ∃ c, c.Nodup ∧ Circuit p.Declares c ∧ id ∈ c) ∧
    (∀ c, Circuit p.Declares c → ∃ id ∈ c, id ∈ (ofProgram p).cycleMembers) ∧
    ((ofProgram p).cycleMembers = [] ↔ ∀ id, ¬ Relation.TransGen p.Declares id id) ∧
    (ofProgram p).cycleMembers.Nodup ∧
    (ofProgram p).cycleMembers.Sublist (p.steps.map Step.id).eraseDups := by
  rw [← edge_eq_declares]
  have sound : ∀ id ∈ (ofProgram p).cycleMembers, (ofProgram p).OnCycle id :=
    fun id mem => onCycle_of_mem_cycleMembers mem
  refine ⟨sound, fun c => exists_mem_cycleMembers (bounded_ofProgram p),
    ⟨acyclic_of_cycleMembers (bounded_ofProgram p), fun acyclic => ?_⟩,
    (nodup_nodes_ofProgram p).filter _, List.filter_sublist⟩
  refine List.eq_nil_iff_forall_not_mem.2 fun id mem => ?_
  obtain ⟨c, -, round, -⟩ := sound id mem
  cases c with
  | nil => cases round
  | cons a rest => exact acyclic a (transGen_of_isChain round)

end StepGraph
end Playbook
