import Playbook.Handler.Basic

/-!
The rules of the built-in step types: a built-in action has to suit the type of its step, a
condition step needs a condition, a trigger step a trigger from outside. Custom actions suit every
step.
-/
namespace Playbook.StepRule

/-- The action that a step type is made for. -/
def expectedAction? : StepType → Option ActionType
  | .message => some .sendMessage
  | .task => some .assignTask
  | .survey => some .sendSurvey
  | .wait => some .wait
  | _ => none

/-- A wait step may also wait through its trigger. -/
def waitsByTrigger (type : StepType) (s : Step) : Bool :=
  type == .wait && s.trigger.type == .delayed

def actionIssues (type : StepType) (s : Step) : List String :=
  match expectedAction? type with
  | none => []
  | some expected =>
    if s.action.type.isBuiltin && s.action.type != expected && !waitsByTrigger type s then
      [s!"{type.id} step expects a '{expected.id}' action, found '{s.action.type.id}'"]
    else []

def triggerIssues (type : StepType) (s : Step) : List String :=
  if type == .condition && s.trigger.type != .conditionBased then
    [s!"condition step needs a condition_based trigger, found '{s.trigger.type.id}'"]
  else if type == .trigger && s.trigger.type == .immediate then
    ["trigger step needs an external trigger (time_based, user_action or delayed)"]
  else []

/-- The rules of a built-in step type. -/
def ofType (type : StepType) : StepRule := ⟨fun s => actionIssues type s ++ triggerIssues type s⟩

end Playbook.StepRule
