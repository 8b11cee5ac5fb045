import Playbook.Handler.Registry
import Playbook.Program.Graph
import Playbook.Template

/-!
Static checks of programs. Each finding is an issue of some kind; an issue of a blocking kind keeps
the program from running, the others show up as failed or skipped steps. Findings stand in a fixed
order: the execution policy, the structure of the graph, then step by step.
-/
namespace Playbook

open Json (Value)
open Expression (Evaluator)

inductive IssueKind where
  | invalidStepId | duplicateStepId | unknownSuccessor | cycle | missingEntryPoint | unreachableStep
  | missingCondition | malformedCondition | unknownFunction
  | unknownStepType | unknownTriggerType | unknownActionType | stepTypeRule
  | invalidExecutionConfig | programMismatch
  deriving DecidableEq, Repr

inductive Severity where
  | error | warning
  deriving DecidableEq, Repr

namespace Severity

def name : Severity → String
  | .error => "error"
  | .warning => "warning"

def title : Severity → String
  | .error => "Error"
  | .warning => "Warning"

end Severity

namespace IssueKind

def name : IssueKind → String
  | .invalidStepId => "invalid_step_id"
  | .duplicateStepId => "duplicate_step_id"
  | .unknownSuccessor => "unknown_successor"
  | .cycle => "cycle"
  | .missingEntryPoint => "missing_entry_point"
  | .unreachableStep => "unreachable_step"
  | .missingCondition => "missing_condition"
  | .malformedCondition => "malformed_condition"
  | .unknownFunction => "unknown_function"
  | .unknownStepType => "unknown_step_type"
  | .unknownTriggerType => "unknown_trigger_type"
  | .unknownActionType => "unknown_action_type"
  | .stepTypeRule => "step_type_rule"
  | .invalidExecutionConfig => "invalid_execution_config"
  | .programMismatch => "program_mismatch"

def severity : IssueKind → Severity
  | .unreachableStep => .warning
  | _ => .error

/-- Whether a program with such an issue is not run at all. -/
def blocksExecution : IssueKind → Bool
  | .unreachableStep | .unknownStepType | .unknownTriggerType | .unknownActionType
  | .stepTypeRule => false
  | _ => true

end IssueKind

structure Issue where
  kind : IssueKind
  stepId : Option String
  message : String
  deriving DecidableEq, Repr

namespace Issue

def ofProgram (kind : IssueKind) (message : String) : Issue := ⟨kind, none, message⟩

def ofStep (kind : IssueKind) (stepId message : String) : Issue := ⟨kind, some stepId, message⟩

def blocksExecution (i : Issue) : Bool := i.kind.blocksExecution

def text (i : Issue) : String :=
  match i.stepId with
  | some id => s!"[{i.kind.name}] step '{id}': {i.message}"
  | none => s!"[{i.kind.name}] {i.message}"

def encode (i : Issue) : Value := .object <|
  [("kind", .text i.kind.name), ("severity", .text i.kind.severity.name)] ++
  (match i.stepId with
  | some id => [("step_id", .text id)]
  | none => []) ++
  [("message", .text i.message)]

end Issue

namespace Validation

/-- The issue, if it is one. -/
def issueIf (found : Bool) (i : Issue) : List Issue := if found then [i] else []

def executionIssues (p : Program) : List Issue :=
  let wrong := Issue.ofProgram .invalidExecutionConfig
  issueIf (p.execution.parallelLimit == 0) (wrong "parallel_limit must be at least 1") ++
  issueIf (p.execution.timeoutSeconds == 0) (wrong "timeout_seconds must be greater than zero") ++
  issueIf (p.execution.runDeadlineSeconds == some 0)
    (wrong "run_deadline_seconds must be greater than zero when set") ++
  (p.steps.filter fun s => s.timeoutSeconds == some 0).map fun s =>
    Issue.ofStep .invalidExecutionConfig s.id
      "step timeout_seconds must be greater than zero when set"

/-- Blank ids and repeated ones, given the ids that stand before. -/
def idIssues (earlier : List String) : List String → List Issue
  | [] => []
  | id :: rest =>
    if Text.allBlank id then
      .ofProgram .invalidStepId "step id must be non-empty" :: idIssues earlier rest
    else if id ∈ earlier then
      .ofStep .duplicateStepId id "step id is declared more than once" :: idIssues earlier rest
    else idIssues (id :: earlier) rest

/-- Successors that no step has as its id; a blank id is none. -/
def successorIssues (p : Program) : List Issue :=
  let known := (p.steps.map Step.id).filter fun id => !Text.allBlank id
  p.steps.flatMap fun s =>
    (s.next.filter fun next => !known.contains next).map fun next =>
      Issue.ofStep .unknownSuccessor s.id s!"successor '{next}' does not exist"

def unreachableIssues (g : StepGraph) (entryPoints : List String) : List Issue :=
  let reachable := g.reachable entryPoints
  (g.nodes.filter fun id => !reachable.contains id).map fun id =>
    Issue.ofStep .unreachableStep id "step cannot be reached from any entry point"

def graphIssues (p : Program) : List Issue :=
  if p.steps.isEmpty then [.ofProgram .missingEntryPoint "program has no steps"]
  else
    let g := StepGraph.ofProgram p
    let entryPoints := g.entryPoints p
    g.cycleMembers.map (fun id => Issue.ofStep .cycle id "step is part of a cycle") ++
      if entryPoints.isEmpty then
        [.ofProgram .missingEntryPoint
          "no root step has an immediate, user_action or time_based trigger"]
      else unreachableIssues g entryPoints

/-- Whether an expression parses and calls known functions only. -/
def expressionIssues (evaluator : Evaluator) (stepId label expression : String) : List Issue :=
  match evaluator.parse expression with
  | .ok parsed =>
    (parsed.root.functions.filter fun f => !evaluator.hasFunction f).map fun f =>
      Issue.ofStep .unknownFunction stepId
        s!"{label} '{expression}' calls unknown function {f}()"
  | .error e =>
    [.ofStep .malformedCondition stepId s!"{label} '{expression}' does not parse: {e.message}"]

def conditionIssues (evaluator : Evaluator) (s : Step) : List Issue :=
  if s.trigger.type = .conditionBased then
    match s.trigger.condition.filter fun c => !Text.allBlank c with
    | some condition => expressionIssues evaluator s.id "condition" condition
    | none => [.ofStep .missingCondition s.id "condition_based trigger has no condition"]
  else []

/-- What a handler says about a step, or that there is none. -/
def handlerIssues {α : Type} (unknown : IssueKind) (stepId : String)
    (handler : Except RegistryError α) (check : α → List String) : List Issue :=
  match handler with
  | .ok h => (check h).map (Issue.ofStep .stepTypeRule stepId)
  | .error e => [.ofStep unknown stepId e.message]

def stepIssues (registry : Registry) (evaluator : Evaluator) (programId : String) (s : Step) :
    List Issue :=
  issueIf (!s.programId.isEmpty && s.programId != programId)
    (.ofStep .programMismatch s.id
      s!"step belongs to program '{s.programId}', not '{programId}'") ++
  conditionIssues evaluator s ++
  (Template.placeholdersIn s.action.params).flatMap
    (expressionIssues evaluator s.id "placeholder") ++
  handlerIssues .unknownStepType s.id (registry.step s.type.id) (fun h => h.check s) ++
  handlerIssues .unknownTriggerType s.id (registry.trigger s.trigger.type.id)
    (fun h => h.check s evaluator) ++
  handlerIssues .unknownActionType s.id (registry.action s.action.type.id) (fun h => h.check s)

/-- Every issue of a program. -/
def issues (registry : Registry) (evaluator : Evaluator) (p : Program) : List Issue :=
  executionIssues p ++ idIssues [] (p.steps.map Step.id) ++ successorIssues p ++ graphIssues p ++
    p.steps.flatMap (stepIssues registry evaluator p.id)

end Validation
end Playbook
