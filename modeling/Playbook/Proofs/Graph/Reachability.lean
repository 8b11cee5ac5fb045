import Mathlib.Data.List.Nodup
import Mathlib.Logic.Relation
import Playbook.Program.Graph

/-!
Paths in the graph of a program. The breadth-first search finds exactly the steps that a path of
edges leads to, so a step is reachable when it is connected to an entry point.
-/
namespace Playbook

theorem nodup_eraseDups {α : Type} [BEq α] [LawfulBEq α] (xs : List α) : xs.eraseDups.Nodup := by
  induction h : xs.length using Nat.strongRecOn generalizing xs with
  | ind n ih =>
    cases xs with
    | nil => simp
    | cons x rest =>
      rw [List.eraseDups_cons, List.nodup_cons]
      refine ⟨by simp [List.mem_eraseDups], ih _ ?_ _ rfl⟩
      have := List.length_filter_le (fun b => !b == x) rest
      simp only [List.length_cons] at h
      omega

/-- The ids of the steps, as they are declared. -/
def Program.ids (p : Program) : List String := p.steps.map Step.id

/-- Some step of the one id declares the other as a successor, and some step has that id. -/
def Program.Declares (p : Program) (a b : String) : Prop :=
  (∃ s ∈ p.steps, s.id = a ∧ b ∈ s.next) ∧ b ∈ p.ids

namespace StepGraph

/-- An edge from a step to one of its successors. -/
def Edge (g : StepGraph) (a b : String) : Prop := (a, b) ∈ g.edges

instance (g : StepGraph) (a b : String) : Decidable (g.Edge a b) :=
  inferInstanceAs (Decidable (_ ∈ _))

/-- A path of any length from a step to another. -/
def Leads (g : StepGraph) : String → String → Prop := Relation.ReflTransGen g.Edge

/-- A path of at least one edge. -/
def Precedes (g : StepGraph) : String → String → Prop := Relation.TransGen g.Edge

/-- A step that a path from some starting point leads to. -/
def Connected (g : StepGraph) (starts : List String) (id : String) : Prop :=
  ∃ start ∈ starts, g.Leads start id

/-- Both ends of every edge are nodes. -/
def Bounded (g : StepGraph) : Prop := ∀ a b, g.Edge a b → a ∈ g.nodes ∧ b ∈ g.nodes

theorem mem_nodes_ofProgram {p : Program} {id : String} :
    id ∈ (ofProgram p).nodes ↔ id ∈ p.steps.map Step.id := by
  simp [ofProgram, List.mem_eraseDups]

theorem nodup_nodes_ofProgram (p : Program) : (ofProgram p).nodes.Nodup := nodup_eraseDups _

/-- The edges are the declared successors that are steps themselves. -/
theorem edge_ofProgram {p : Program} {a b : String} :
    (ofProgram p).Edge a b ↔ p.Declares a b := by
  simp only [Edge, Program.Declares, Program.ids, ofProgram, List.mem_eraseDups, List.mem_filter, List.mem_flatMap, List.mem_map,
    List.contains_iff_mem, Prod.mk.injEq]
  constructor
  · rintro ⟨⟨s, hs, next, hn, rfl, rfl⟩, hb⟩
    exact ⟨⟨s, hs, rfl, hn⟩, hb⟩
  · rintro ⟨⟨s, hs, rfl, hn⟩, hb⟩
    exact ⟨⟨s, hs, b, hn, rfl, rfl⟩, hb⟩

theorem edge_eq_declares (p : Program) : (ofProgram p).Edge = p.Declares :=
  funext fun _ => funext fun _ => propext edge_ofProgram

theorem bounded_ofProgram (p : Program) : (ofProgram p).Bounded := by
  intro a b h
  obtain ⟨⟨s, hs, rfl, -⟩, hb⟩ := edge_ofProgram.1 h
  exact ⟨mem_nodes_ofProgram.2 (List.mem_map_of_mem hs), mem_nodes_ofProgram.2 hb⟩

theorem mem_nodes_of_mem_entryPoints {p : Program} {id : String}
    (h : id ∈ (ofProgram p).entryPoints p) : id ∈ (ofProgram p).nodes := by
  simp only [entryPoints, List.mem_eraseDups, List.mem_map, List.mem_filter] at h
  obtain ⟨s, ⟨hs, -⟩, rfl⟩ := h
  exact mem_nodes_ofProgram.2 (List.mem_map_of_mem hs)

/-- What the search finds was seen before, or something that waited leads there. -/
theorem leads_of_mem_spread {g : StepGraph} {seen waiting : List String} {id : String}
    (h : id ∈ g.spread seen waiting) : id ∈ seen ∨ ∃ w ∈ waiting, g.Leads w id := by
  fun_induction spread g seen waiting with
  | case1 seen => exact .inl h
  | case2 seen w waiting hw ih =>
    rcases ih h with hs | ⟨v, hv, hl⟩
    · rcases List.mem_cons.1 hs with rfl | hs
      · exact .inr ⟨id, by simp, .refl⟩
      · exact .inl hs
    · rcases List.mem_append.1 hv with hv | hv
      · exact .inr ⟨v, List.mem_cons_of_mem _ hv, hl⟩
      · exact .inr ⟨w, by simp, .head (mem_successors.1 hv) hl⟩
  | case3 seen w waiting hw ih =>
    rcases ih h with hs | ⟨v, hv, hl⟩
    · exact .inl hs
    · exact .inr ⟨v, List.mem_cons_of_mem _ hv, hl⟩

/-- The search finds what was seen, the nodes that waited, and all that edges lead to from there,
if edges from what was seen lead to what was seen or waits. -/
theorem spread_closed {g : StepGraph} (hg : g.Bounded) (seen waiting : List String)
    (edges : ∀ a ∈ seen, ∀ b, g.Edge a b → b ∈ seen ∨ b ∈ waiting) :
    (∀ a ∈ seen, a ∈ g.spread seen waiting) ∧
      (∀ a ∈ waiting, a ∈ g.nodes → a ∈ g.spread seen waiting) ∧
      ∀ a ∈ g.spread seen waiting, ∀ b, g.Edge a b → b ∈ g.spread seen waiting := by
  fun_induction spread g seen waiting with
  | case1 seen => exact ⟨fun a ha => ha, by simp, fun a ha b hb => by simpa using edges a ha b hb⟩
  | case2 seen w waiting hw ih =>
    have next : ∀ a ∈ w :: seen, ∀ b, g.Edge a b →
        b ∈ w :: seen ∨ b ∈ waiting ++ g.successors w := by
      intro a ha b hb
      rcases List.mem_cons.1 ha with rfl | ha
      · exact .inr (List.mem_append_right _ (mem_successors.2 hb))
      · rcases edges a ha b hb with h | h
        · exact .inl (List.mem_cons_of_mem _ h)
        · rcases List.mem_cons.1 h with rfl | h
          · exact .inl (by simp)
          · exact .inr (List.mem_append_left _ h)
    obtain ⟨hseen, hwaiting, hclosed⟩ := ih next
    refine ⟨fun a ha => hseen a (List.mem_cons_of_mem _ ha), fun a ha hn => ?_, hclosed⟩
    rcases List.mem_cons.1 ha with rfl | ha
    · exact hseen a (by simp)
    · exact hwaiting a (List.mem_append_left _ ha) hn
  | case3 seen w waiting hw ih =>
    have known : w ∈ g.nodes → w ∈ seen := fun hn => by simpa [hn] using hw
    have next : ∀ a ∈ seen, ∀ b, g.Edge a b → b ∈ seen ∨ b ∈ waiting := by
      intro a ha b hb
      rcases edges a ha b hb with h | h
      · exact .inl h
      · rcases List.mem_cons.1 h with rfl | h
        · exact .inl (known (hg a b hb).2)
        · exact .inr h
    obtain ⟨hseen, hwaiting, hclosed⟩ := ih next
    refine ⟨hseen, fun a ha hn => ?_, hclosed⟩
    rcases List.mem_cons.1 ha with rfl | ha
    · exact hseen a (known hn)
    · exact hwaiting a ha hn

/-- Reachable from some starting points is what paths from them lead to. -/
theorem mem_reachable {g : StepGraph} (hg : g.Bounded) {starts : List String}
    (hs : ∀ id ∈ starts, id ∈ g.nodes) {id : String} :
    id ∈ g.reachable starts ↔ g.Connected starts id := by
  constructor
  · intro h
    rcases leads_of_mem_spread h with h | h
    · simp at h
    · exact h
  · rintro ⟨start, hstart, hl⟩
    obtain ⟨-, hwaiting, hclosed⟩ := spread_closed hg [] starts (by simp)
    induction hl with
    | refl => exact hwaiting start hstart (hs start hstart)
    | tail _ hb ih => exact hclosed _ ih _ hb

end StepGraph
end Playbook
