import Playbook.Handler.Registry
import Playbook.Personality
import Playbook.Template
import Playbook.Trace.Event

/-!
One attempt at a step: its handlers are looked up, the trigger decides, the parameters are
rendered, knowledge is fetched, the action runs, and its content is checked against the personality
of the tenant. Whatever goes wrong on the way ends up in the result of the step.
-/
namespace Playbook

open Json (Value)
open Expression (Evaluator)
open Trace (EventKind)

/-- What all attempts of a run share. -/
structure RunScope where
  runId : String
  tenantId : String
  userId : Option String
  events : List String
  now : Instant
  personality : PersonalityPolicy

/-- What all runs of an engine share. -/
structure Dispatcher where
  registry : Registry
  evaluator : Evaluator
  knowledge : KnowledgeProvider := Knowledge.none
  personality : PersonalityProvider := .none
  knowledgeSettings : KnowledgeSettings := {}

namespace Dispatcher

/-- The event of an evaluated condition. -/
def conditionEvent (r : ConditionRecord) : EventKind :=
  match r.outcome with
  | .ok held => .conditionEvaluated r.expression r.inputs (some held) none
  | .error message => .conditionEvaluated r.expression r.inputs none (some message)

/-- The text that knowledge is looked up for. -/
def knowledgeQuery? (params : Value) : Option String :=
  (["knowledge_query", "message", "content"].findSome? (textParam? params)).filter
    fun text => !Text.allBlank text

/-- The chunks for the parameters of an action; none when the provider cannot answer. -/
def knowledgeFor (d : Dispatcher) (tenantId : String) (params : Value) :
    Activity EventKind (List KnowledgeChunk) :=
  match knowledgeQuery? params with
  | none => return []
  | some query => do
    let answer ← (d.knowledge ⟨query, tenantId, d.knowledgeSettings.limit,
      d.knowledgeSettings.threshold⟩).silent
    return answer.toOption.getD []

/-- An output is an object; any other value is put into one. -/
def asOutput : Value → Value
  | .object entries => .object entries
  | v => .object [("value", v)]

/-- Runs an action between the events of its start and its end. -/
def invoke (handler : ActionHandler) (type : String) (i : Invocation) :
    Activity EventKind (Except ActionError Value) := do
  .event (.handlerInvoked type)
  let (elapsed, answer) ← (handler.execute i).silent.timed
  match answer with
  | .ok output => do
    .event (.handlerReturned type elapsed)
    return .ok (asOutput output)
  | .error e => do
    .event (.handlerError type e.message)
    return .error e

/-- What the result of a step says beside its output. -/
abbrev Metadata := List (String × Value)

/-- Scores the content of an output, if there is one. An inconsistent content is an error only
where consistency is required, and so is a provider that cannot answer. -/
def checkConsistency (d : Dispatcher) (step : Step) (tenantId : String) (output : Value) :
    Activity EventKind (Metadata × Option StepError) :=
  match textParam? output "content" with
  | none => return ([], none)
  | some content => do
    let required := step.action.requirePersonalityConsistency
    match ← (d.personality.scoreConsistency content tenantId).silent with
    | .error message =>
      return ([], if required then
        some (.handler s!"personality consistency could not be checked: {message}") else none)
    | .ok answer =>
      let metadata := [("personality_consistent", Value.bool answer.isConsistent),
        ("personality_score", Value.ofSingle answer.score)]
      let score := Decimal.fixed 2 answer.score.toFloat
      return (metadata, if required && !answer.isConsistent then
        some (.handler s!"content failed personality consistency check (score {score})") else none)

/-- The check of a step that uses the personality; others have nothing to check. -/
def checkPersonality (d : Dispatcher) (step : Step) (tenantId : String) (output : Value) :
    Activity EventKind (Metadata × Option StepError) :=
  if step.action.usePersonality then d.checkConsistency step tenantId output
  else return ([], none)

/-- Runs the action of a step whose trigger fired. -/
def act (d : Dispatcher) (scope : RunScope) (vars : List (String × Value)) (cancelled : Bool)
    (step : Step) (attempt : Nat) (decision : Decision) : Activity EventKind StepResult :=
  match d.registry.action step.action.type.id with
  | .error e => return .failed step.id attempt ⟨.unknownHandler, e.message⟩ decision
  | .ok handler =>
    match Template.render d.evaluator ⟨vars, scope.now⟩ step.action.params with
    | .error e =>
      return .failed step.id attempt
        (.evaluation s!"failed rendering parameters: {e.message}") decision
    | .ok params => do
      let useKnowledge := step.action.useKnowledgeContext
      let knowledge ← if useKnowledge then d.knowledgeFor scope.tenantId params else pure []
      let metadata := if useKnowledge then [("knowledge_chunks", Value.ofNat knowledge.length)]
        else []
      let answer ← invoke handler step.action.type.id {
        attempt, params, knowledge, cancelled
        «variables» := vars
        runId := scope.runId
        tenantId := scope.tenantId
        userId := scope.userId
        stepId := step.id
        usePersonality := step.action.usePersonality
        personality := scope.personality
        now := scope.now }
      match answer with
      | .error e => return .failed step.id attempt e.toStepError decision
      | .ok output => do
        let (scores, error) ← d.checkPersonality step scope.tenantId output
        match error with
        | some e =>
          return { StepResult.failed step.id attempt e decision with
            metadata := metadata ++ scores }
        | none =>
          return { StepResult.completed step.id attempt output decision with
            metadata := metadata ++ scores }

/-- One attempt at a step. -/
def dispatch (d : Dispatcher) (scope : RunScope) (vars : List (String × Value))
    (cancelled : Bool) (step : Step) (attempt : Nat) : Activity EventKind StepResult :=
  let unknown (e : RegistryError) : Activity EventKind StepResult :=
    return .failed step.id attempt ⟨.unknownHandler, e.message⟩ .unevaluated
  match d.registry.step step.type.id, d.registry.trigger step.trigger.type.id with
  | .error e, _ => unknown e
  | .ok _, .error e => unknown e
  | .ok _, .ok handler => do
    let answer ← (handler.evaluate step {
      attempt, cancelled
      «variables» := vars
      runId := scope.runId
      tenantId := scope.tenantId
      events := scope.events
      now := scope.now
      evaluator := d.evaluator }).relabel conditionEvent
    match answer with
    | .error e => return .failed step.id attempt e .unevaluated
    | .ok decision =>
      if decision.fired then d.act scope vars cancelled step attempt decision
      else return .skipped step.id attempt decision

end Dispatcher
end Playbook
