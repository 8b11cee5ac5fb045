import Playbook.Handler.CallExternal
import Playbook.Handler.Registry
import Playbook.Handler.StepRules
import Playbook.Handler.Triggers

/-!
The registry with every built-in type of steps, triggers and actions.
-/
namespace Playbook

/-- What the built-in handlers work with. -/
structure Services where
  personality : PersonalityProvider := .none
  transport : CallExternal.Transport
  http : HttpSettings := {}

namespace Registry

def builtinTrigger : TriggerType → TriggerHandler
  | .immediate | .custom _ => .immediate
  | .timeBased => .timeBased
  | .conditionBased => .condition
  | .userAction => .userAction
  | .delayed => .delayed

def builtinAction (s : Services) : ActionType → ActionHandler
  | .sendMessage | .custom _ => .sendMessage s.personality
  | .assignTask => .assignTask
  | .sendSurvey => .sendSurvey
  | .wait => .wait
  | .callExternal => CallExternal.handler s.transport s.http

def builtin (s : Services) : Registry where
  steps := Keyed.ofList (StepType.builtin.map fun t => (t.id, StepRule.ofType t))
  triggers := Keyed.ofList (TriggerType.builtin.map fun t => (t.id, builtinTrigger t))
  actions := Keyed.ofList (ActionType.builtin.map fun t => (t.id, builtinAction s t))

end Registry
end Playbook
