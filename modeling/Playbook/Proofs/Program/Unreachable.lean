import Playbook.Proofs.Program.Clean

/-!
The warnings of validation about steps that cannot be reached: they are the steps that no path from
an entry point leads to, each once, and no other check warns of them.
-/
namespace Playbook
namespace Validation

open Expression (Evaluator)

/-- Whether an issue is a warning about a step that cannot be reached. -/
def warns (i : Issue) : Bool := i.kind == .unreachableStep

/-- Issues of other kinds are no warnings. -/
theorem filter_warns_eq_nil {issues : List Issue} (h : ∀ i ∈ issues, i.kind ≠ .unreachableStep) :
    issues.filter warns = [] := by
  simpa [List.filter_eq_nil_iff, warns] using h

theorem kind_of_mem_executionIssues {p : Program} {i : Issue} (h : i ∈ executionIssues p) :
    i.kind = .invalidExecutionConfig := by
  simp only [executionIssues, issueIf, List.mem_append, List.mem_map] at h
  rcases h with ((h | h) | h) | ⟨s, -, rfl⟩
  · split at h <;> simp_all [Issue.ofProgram]
  · split at h <;> simp_all [Issue.ofProgram]
  · split at h <;> simp_all [Issue.ofProgram]
  · rfl

theorem kind_of_mem_idIssues {earlier ids : List String} {i : Issue}
    (h : i ∈ idIssues earlier ids) :
    i.kind = .invalidStepId ∨ i.kind = .duplicateStepId := by
  induction ids generalizing earlier with
  | nil => simp [idIssues] at h
  | cons id rest ih =>
    rw [idIssues] at h
    split at h
    · rcases List.mem_cons.1 h with rfl | h
      · exact .inl rfl
      · exact ih h
    · split at h
      · rcases List.mem_cons.1 h with rfl | h
        · exact .inr rfl
        · exact ih h
      · exact ih h

theorem kind_of_mem_expressionIssues {evaluator : Evaluator} {id label expression : String}
    {i : Issue} (h : i ∈ expressionIssues evaluator id label expression) :
    i.kind = .unknownFunction ∨ i.kind = .malformedCondition := by
  unfold expressionIssues at h
  split at h
  · obtain ⟨f, -, rfl⟩ := List.mem_map.1 h
    exact .inl rfl
  · cases List.mem_singleton.1 h
    exact .inr rfl

theorem kind_of_mem_handlerIssues {α : Type} {unknown : IssueKind} {id : String}
    {handler : Except RegistryError α} {check : α → List String} {i : Issue}
    (h : i ∈ handlerIssues unknown id handler check) :
    i.kind = .stepTypeRule ∨ i.kind = unknown := by
  unfold handlerIssues at h
  split at h
  · obtain ⟨message, -, rfl⟩ := List.mem_map.1 h
    exact .inl rfl
  · cases List.mem_singleton.1 h
    exact .inr rfl

/-- The checks of single steps warn of nothing. -/
theorem kind_of_mem_stepIssues {registry : Registry} {evaluator : Evaluator} {programId : String}
    {s : Step} {i : Issue} (h : i ∈ stepIssues registry evaluator programId s) :
    i.kind ≠ .unreachableStep := by
  have other : ∀ {kind : IssueKind}, kind ≠ .unreachableStep → i.kind = kind →
      i.kind ≠ .unreachableStep := fun ne he => he ▸ ne
  simp only [stepIssues, List.mem_append] at h
  rcases h with ((((h | h) | h) | h) | h) | h
  · unfold issueIf at h
    split at h <;> simp_all [Issue.ofStep]
  · unfold conditionIssues at h
    split at h
    · split at h
      · rcases kind_of_mem_expressionIssues h with hk | hk <;> simp [hk]
      · simp_all [Issue.ofStep]
    · simp at h
  · obtain ⟨expression, -, h⟩ := List.mem_flatMap.1 h
    rcases kind_of_mem_expressionIssues h with hk | hk <;> simp [hk]
  all_goals rcases kind_of_mem_handlerIssues h with hk | hk <;> simp [hk]

/-- Validation warns of the steps that cannot be reached, and of nothing else. -/
theorem filter_warns_issues (registry : Registry) (evaluator : Evaluator) {p : Program}
    (steps : p.steps ≠ []) (entries : (StepGraph.ofProgram p).entryPoints p ≠ []) :
    (issues registry evaluator p).filter warns =
      unreachableIssues (StepGraph.ofProgram p) ((StepGraph.ofProgram p).entryPoints p) := by
  have graph : (graphIssues p).filter warns =
      unreachableIssues (StepGraph.ofProgram p) ((StepGraph.ofProgram p).entryPoints p) := by
    have cycles : ∀ i ∈ (StepGraph.ofProgram p).cycleMembers.map
        (fun id => Issue.ofStep .cycle id "step is part of a cycle"),
        i.kind ≠ .unreachableStep := by
      simp [Issue.ofStep]
    have all : ∀ i ∈ unreachableIssues (StepGraph.ofProgram p)
        ((StepGraph.ofProgram p).entryPoints p),
        warns i = true := by
      intro i hi
      obtain ⟨id, -, rfl⟩ := List.mem_map.1 hi
      rfl
    simp only [graphIssues, List.isEmpty_iff, steps, entries, if_false, List.filter_append,
      filter_warns_eq_nil cycles, List.nil_append]
    exact List.filter_eq_self.2 all
  have successors : ∀ i ∈ successorIssues p, i.kind ≠ .unreachableStep := by
    simp only [successorIssues, List.mem_flatMap, List.mem_map]
    rintro i ⟨s, -, next, -, rfl⟩
    exact IssueKind.noConfusion
  simp only [issues, List.filter_append, graph, filter_warns_eq_nil successors]
  rw [filter_warns_eq_nil fun i hi => by simp [kind_of_mem_executionIssues hi],
    filter_warns_eq_nil fun i hi => by rcases kind_of_mem_idIssues hi with hk | hk <;> simp [hk],
    filter_warns_eq_nil fun i hi => ?_]
  · simp
  · obtain ⟨s, -, hi⟩ := List.mem_flatMap.1 hi
    exact kind_of_mem_stepIssues hi

/-- Validation warns of a step when no path from an entry point leads to it. -/
theorem warned_iff {registry : Registry} {evaluator : Evaluator} {p : Program}
    (clean : p.Clean registry evaluator) {id : String} (hid : id ∈ p.steps.map Step.id) :
    (∃ i ∈ issues registry evaluator p, i.kind = .unreachableStep ∧ i.stepId = some id) ↔
      ¬ (StepGraph.ofProgram p).Connected ((StepGraph.ofProgram p).entryPoints p) id := by
  have node := StepGraph.mem_nodes_ofProgram.2 hid
  rw [← StepGraph.mem_reachable (StepGraph.bounded_ofProgram p)
    fun id => StepGraph.mem_nodes_of_mem_entryPoints]
  have warnings : ∀ i, i ∈ issues registry evaluator p ∧ i.kind = .unreachableStep ↔
      i ∈ unreachableIssues (StepGraph.ofProgram p) ((StepGraph.ofProgram p).entryPoints p) := by
    intro i
    rw [← filter_warns_issues registry evaluator clean.steps_ne_nil clean.entryPoints_ne_nil,
      List.mem_filter]
    simp [warns]
  constructor
  · rintro ⟨i, hi, kind, step⟩
    have := (warnings i).1 ⟨hi, kind⟩
    simp only [unreachableIssues, List.mem_map, List.mem_filter] at this
    obtain ⟨x, ⟨-, hx⟩, rfl⟩ := this
    cases step
    simpa using hx
  · intro h
    obtain ⟨hi, kind⟩ := (warnings (Issue.ofStep .unreachableStep id
      "step cannot be reached from any entry point")).2 (by
        simp only [unreachableIssues, List.mem_map, List.mem_filter]
        exact ⟨id, ⟨node, by simpa using h⟩, rfl⟩)
    exact ⟨_, hi, kind, rfl⟩

end Validation
end Playbook
