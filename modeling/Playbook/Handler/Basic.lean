import Playbook.Activity
import Playbook.Expression.Evaluation
import Playbook.Knowledge
import Playbook.Program.Basic
import Playbook.Run.Result

/-!
Handlers give the types of steps, triggers and actions their meaning. A trigger decides whether its
step goes ahead, an action does the step's work; all three kinds check steps before they run.
-/
namespace Playbook

open Json (Value)
open Expression (Evaluator Environment ExpressionError)

inductive HandlerKind where
  | step | trigger | action
  deriving DecidableEq, Repr

def HandlerKind.name : HandlerKind → String
  | .step => "step"
  | .trigger => "trigger"
  | .action => "action"

/-- A record of one evaluation of a condition: the variables it reads and what came of it. -/
structure ConditionRecord where
  expression : String
  inputs : List (String × Value)
  outcome : Except String Bool

/-- What a trigger can look at. -/
structure TriggerScope where
  runId : String
  tenantId : String
  attempt : Nat
  «variables» : List (String × Value)
  events : List String
  now : Instant
  evaluator : Evaluator
  /-- whether the run is cancelled at the start -/
  cancelled : Bool

def TriggerScope.environment (s : TriggerScope) : Environment := ⟨s.variables, s.now⟩

/-- Why an action did not succeed. -/
inductive ActionError where
  | invalidParams (message : String)
  | failed (message : String)
  | cancelled
  | expression (cause : ExpressionError)

namespace ActionError

def message : ActionError → String
  | .invalidParams message => "invalid parameters: " ++ message
  | .failed message => message
  | .cancelled => "cancelled"
  | .expression cause => cause.message

/-- The error of a step whose action failed. -/
def toStepError : ActionError → StepError
  | .cancelled => .cancelled
  | .expression cause => .evaluation cause.message
  | e => .handler e.message

end ActionError

/-- A call of an action. -/
structure Invocation where
  runId : String
  tenantId : String
  userId : Option String
  stepId : String
  attempt : Nat
  params : Value
  «variables» : List (String × Value)
  knowledge : List KnowledgeChunk
  usePersonality : Bool
  personality : PersonalityPolicy
  /-- the clock of the run, which stands still -/
  now : Instant
  /-- whether the run is cancelled at the start -/
  cancelled : Bool

/-- A text under a key of some parameters. -/
def textParam? (params : Value) (key : String) : Option String := (params.get? key).bind Value.text?

/-- The static rules of a type of steps. -/
structure StepRule where
  check : Step → List String

/-- What decides for a type of triggers whether a step goes ahead. The type of its activities is a
restriction on what it can record: nothing but conditions that it evaluates, each of which stands in
the trace as an event of the step and the attempt that it decides on. It can name no other step, and
it has no way to write an event of the engine. -/
structure TriggerHandler where
  evaluate : Step → TriggerScope → Activity ConditionRecord (Except StepError Decision)
  check : Step → Evaluator → List String

structure ActionHandler where
  execute : Invocation → Activity Empty (Except ActionError Value)
  check : Step → List String

end Playbook
