import Playbook.Run.State

/-!
What a step has to do, seen from the results of its predecessors. Results are only ever added, and
the first result of a step stays its result; so once a step does not have to wait any more, what it
has to do is settled.
-/
namespace Playbook
namespace RunState

/-- The steps that have their result, in the order in which they got it. -/
def resultIds (s : RunState) : List String := s.results.map StepResult.stepId

theorem isTerminal_iff {s : RunState} {id : String} :
    s.isTerminal id = true ↔ id ∈ s.resultIds := by
  simp [isTerminal, result?, resultIds, List.find?_isSome]

theorem stepId_of_result? {s : RunState} {id : String} {r : StepResult}
    (h : s.result? id = some r) : r.stepId = id ∧ r ∈ s.results :=
  ⟨by simpa using List.find?_some h, List.mem_of_find?_eq_some h⟩

/-- Where each step has one result, every result is found under its step. -/
theorem result?_of_mem {s : RunState} (nodup : s.resultIds.Nodup) {r : StepResult}
    (h : r ∈ s.results) : s.result? r.stepId = some r := First.find?_key nodup h

/-- A result stays when others are added. -/
theorem result?_of_isPrefix {s t : RunState} (h : s.results <+: t.results) {id : String}
    (terminal : s.isTerminal id = true) : t.result? id = s.result? id := by
  obtain ⟨more, hm⟩ := h
  obtain ⟨r, hr⟩ := Option.isSome_iff_exists.1 terminal
  unfold result? at *
  rw [← hm, List.find?_append, hr]
  rfl

theorem isTerminal_of_isPrefix {s t : RunState} (h : s.results <+: t.results) {id : String}
    (terminal : s.isTerminal id = true) : t.isTerminal id = true := by
  unfold isTerminal
  rw [result?_of_isPrefix h terminal]
  exact terminal

theorem readiness_eq_waiting_iff {p : Plan} {s : RunState} {id : String} :
    s.readiness p id = .waiting ↔ ∃ q ∈ p.graph.predecessors id, s.isTerminal q = false := by
  unfold readiness
  simp only
  split
  · next waits => simpa using waits
  · next settled =>
    have settled : ¬ ∃ q ∈ p.graph.predecessors id, s.isTerminal q = false := by simpa using settled
    refine iff_of_false ?_ settled
    split
    · simp
    · split <;> simp

theorem readiness_ne_waiting_iff {p : Plan} {s : RunState} {id : String} :
    s.readiness p id ≠ .waiting ↔ ∀ q ∈ p.graph.predecessors id, s.isTerminal q = true := by
  rw [ne_eq, readiness_eq_waiting_iff]
  simp only [not_exists, not_and, Bool.not_eq_false]

/-- What a step has to do depends on the graph and on how its predecessors ended only. -/
theorem readiness_congr {p p' : Plan} {s t : RunState} {id : String} (graph : p'.graph = p.graph)
    (tolerates : p'.tolerates = p.tolerates)
    (h : ∀ q ∈ p.graph.predecessors id,
      (t.result? q).map StepResult.status = (s.result? q).map StepResult.status) :
    t.readiness p' id = s.readiness p id := by
  have terminal : ∀ q ∈ p.graph.predecessors id, t.isTerminal q = s.isTerminal q := by
    intro q hq
    have := congrArg Option.isSome (h q hq)
    rwa [Option.isSome_map, Option.isSome_map] at this
  have blocked : ∀ q ∈ p.graph.predecessors id, t.blocks p' q = s.blocks p q := by
    intro q hq
    have := h q hq
    unfold blocks
    rw [tolerates]
    cases ht : t.result? q <;> cases hs : s.result? q <;> simp_all
  have skipped : ∀ q ∈ p.graph.predecessors id, t.isSkipped q = s.isSkipped q := by
    intro q hq
    have := h q hq
    unfold isSkipped
    cases ht : t.result? q <;> cases hs : s.result? q <;> simp_all
  unfold readiness
  rw [graph]
  generalize p.graph.predecessors id = predecessors at *
  have hany : (predecessors.any fun q => !t.isTerminal q) =
      predecessors.any fun q => !s.isTerminal q := by
    rw [Bool.eq_iff_iff, List.any_eq_true, List.any_eq_true]
    exact exists_congr fun q => and_congr_right fun hq => by rw [terminal q hq]
  have hall : predecessors.all t.isSkipped = predecessors.all s.isSkipped := by
    rw [Bool.eq_iff_iff, List.all_eq_true, List.all_eq_true]
    exact forall₂_congr fun q hq => by rw [skipped q hq]
  have hfind : predecessors.find? (t.blocks p') = predecessors.find? (s.blocks p) := by
    clear hany hall terminal skipped h
    induction predecessors with
    | nil => rfl
    | cons q rest ih =>
      simp only [List.find?_cons, blocked q (by simp),
        ih fun q hq => blocked q (List.mem_cons_of_mem _ hq)]
  simp only [hany, hall, hfind]

/-- What a step has to do is settled once it does not have to wait. -/
theorem readiness_of_isPrefix {p : Plan} {s t : RunState} (h : s.results <+: t.results)
    {id : String} (settled : s.readiness p id ≠ .waiting) :
    t.readiness p id = s.readiness p id := by
  refine readiness_congr rfl rfl fun q hq => congrArg _ (result?_of_isPrefix h ?_)
  exact readiness_ne_waiting_iff.1 settled q hq

/-- A step is ready when its predecessors have their results, none of these blocks it, and it is a
root or one of them was not skipped. -/
theorem readiness_eq_ready_iff {p : Plan} {s : RunState} {id : String} :
    s.readiness p id = .ready ↔
      (∀ q ∈ p.graph.predecessors id, s.isTerminal q = true ∧ s.blocks p q = false) ∧
        (p.graph.predecessors id = [] ∨ ∃ q ∈ p.graph.predecessors id, s.isSkipped q = false) := by
  unfold readiness
  simp only
  split
  · next waits =>
    obtain ⟨q, hq, hw⟩ : ∃ q ∈ p.graph.predecessors id, s.isTerminal q = false := by
      simpa using waits
    refine iff_of_false (by simp) fun h => ?_
    simp [(h.1 q hq).1] at hw
  · next settled =>
    have settled : ∀ q ∈ p.graph.predecessors id, s.isTerminal q = true := by simpa using settled
    split
    · next failed hf =>
      have blocked := List.find?_some hf
      refine iff_of_false (by simp) fun h => ?_
      simp [(h.1 failed (List.mem_of_find?_eq_some hf)).2] at blocked
    · next hf =>
      have free : ∀ q ∈ p.graph.predecessors id, s.blocks p q = false := by simpa using hf
      split
      · next hs =>
        simp only [Bool.and_eq_true, Bool.not_eq_true', List.isEmpty_eq_false_iff,
          List.all_eq_true] at hs
        refine iff_of_false (by simp) fun h => ?_
        rcases h.2 with he | ⟨q, hq, hn⟩
        · exact hs.1 he
        · simp [hs.2 q hq] at hn
      · next hs =>
        refine iff_of_true rfl ⟨fun q hq => ⟨settled q hq, free q hq⟩, ?_⟩
        by_cases he : p.graph.predecessors id = []
        · exact .inl he
        · exact .inr (by simpa [he] using hs)

/-- A step is skipped when a predecessor blocks it, or else when all of them, of which there is one,
were skipped. -/
theorem readiness_eq_skip_iff {p : Plan} {s : RunState} {id branch reason : String} :
    s.readiness p id = .skip branch reason ↔
      (∀ q ∈ p.graph.predecessors id, s.isTerminal q = true) ∧
        ((∃ q, (p.graph.predecessors id).find? (s.blocks p) = some q ∧
            branch = Branch.upstreamFailed ∧ reason = s!"predecessor '{q}' failed") ∨
          (∀ q ∈ p.graph.predecessors id, s.blocks p q = false) ∧ p.graph.predecessors id ≠ [] ∧
            (∀ q ∈ p.graph.predecessors id, s.isSkipped q = true) ∧
            branch = Branch.allPredecessorsSkipped ∧ reason = "every predecessor was skipped") := by
  unfold readiness
  simp only
  split
  · next waits =>
    have waits : ¬ ∀ q ∈ p.graph.predecessors id, s.isTerminal q = true := by simpa using waits
    exact iff_of_false (by simp) fun h => waits h.1
  · next settled =>
    have settled : ∀ q ∈ p.graph.predecessors id, s.isTerminal q = true := by simpa using settled
    split
    · next failed hf =>
      have blocked := List.find?_some hf
      have mem := List.mem_of_find?_eq_some hf
      simp only [Readiness.skip.injEq, hf, Option.some.injEq]
      constructor
      · rintro ⟨rfl, rfl⟩
        exact ⟨settled, .inl ⟨failed, rfl, rfl, rfl⟩⟩
      · rintro ⟨-, ⟨q, rfl, rfl, rfl⟩ | ⟨free, -⟩⟩
        · exact ⟨rfl, rfl⟩
        · simp [free failed mem] at blocked
    · next hf =>
      have free : ∀ q ∈ p.graph.predecessors id, s.blocks p q = false := by simpa using hf
      split
      · next hs =>
        simp only [Bool.and_eq_true, Bool.not_eq_true', List.isEmpty_eq_false_iff,
          List.all_eq_true] at hs
        simp only [Readiness.skip.injEq]
        constructor
        · rintro ⟨rfl, rfl⟩
          exact ⟨settled, .inr ⟨free, hs.1, hs.2, rfl, rfl⟩⟩
        · rintro ⟨-, ⟨q, hq, -⟩ | ⟨-, -, -, rfl, rfl⟩⟩
          · simp [hf] at hq
          · exact ⟨rfl, rfl⟩
      · next hs =>
        refine iff_of_false (by simp) fun h => hs ?_
        rcases h.2 with ⟨q, hq, -⟩ | ⟨-, ne, all, -⟩
        · simp [hf] at hq
        · simpa [ne] using all

end RunState
end Playbook
