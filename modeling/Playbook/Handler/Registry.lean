import Playbook.Handler.Basic

/-!
The registry of handlers: one table for each kind, from type ids to handlers. Registering leaves
what is there and uses the id without the blanks around it; replacing takes the id as it is.
-/
namespace Playbook

inductive RegistryError where
  | emptyId (kind : HandlerKind)
  | duplicate (kind : HandlerKind) (id : String)
  | unknown (kind : HandlerKind) (id : String)
  deriving DecidableEq, Repr

def RegistryError.message : RegistryError → String
  | .emptyId kind => s!"validation error: {kind.name} handler type id cannot be empty"
  | .duplicate kind id => s!"{kind.name} handler '{id}' is already registered"
  | .unknown kind id => s!"no {kind.name} handler registered for '{id}'"

/-- Handlers of one kind by their type ids. -/
abbrev HandlerTable (α : Type) := List (String × α)

namespace HandlerTable

variable {α : Type}

def register (kind : HandlerKind) (id : String) (handler : α) (table : HandlerTable α) :
    Except RegistryError (HandlerTable α) :=
  let id := Text.trim id
  if id.isEmpty then .error (.emptyId kind)
  else if Keyed.contains id table then .error (.duplicate kind id)
  else .ok (Keyed.put id handler table)

def replace (id : String) (handler : α) (table : HandlerTable α) : HandlerTable α :=
  Keyed.put id handler table

def lookup (kind : HandlerKind) (id : String) (table : HandlerTable α) : Except RegistryError α :=
  match Keyed.get? id table with
  | some handler => .ok handler
  | none => .error (.unknown kind id)

theorem lookup_eq_ok {kind : HandlerKind} {id : String} {handler : α} {table : HandlerTable α} :
    table.lookup kind id = .ok handler ↔ Keyed.get? id table = some handler := by
  unfold lookup
  cases Keyed.get? id table <;> simp

theorem lookup_eq_error {kind : HandlerKind} {id : String} {e : RegistryError}
    {table : HandlerTable α} :
    table.lookup kind id = .error e ↔ e = .unknown kind id ∧ Keyed.get? id table = none := by
  unfold lookup
  cases Keyed.get? id table <;> simp [eq_comm]

end HandlerTable

structure Registry where
  steps : HandlerTable StepRule := []
  triggers : HandlerTable TriggerHandler := []
  actions : HandlerTable ActionHandler := []

namespace Registry

def registerStep (r : Registry) (id : String) (h : StepRule) : Except RegistryError Registry := do
  .ok { r with steps := ← r.steps.register .step id h }

def registerTrigger (r : Registry) (id : String) (h : TriggerHandler) :
    Except RegistryError Registry := do
  .ok { r with triggers := ← r.triggers.register .trigger id h }

def registerAction (r : Registry) (id : String) (h : ActionHandler) :
    Except RegistryError Registry := do
  .ok { r with actions := ← r.actions.register .action id h }

def replaceStep (r : Registry) (id : String) (h : StepRule) : Registry :=
  { r with steps := r.steps.replace id h }

def replaceTrigger (r : Registry) (id : String) (h : TriggerHandler) : Registry :=
  { r with triggers := r.triggers.replace id h }

def replaceAction (r : Registry) (id : String) (h : ActionHandler) : Registry :=
  { r with actions := r.actions.replace id h }

def step (r : Registry) (id : String) : Except RegistryError StepRule := r.steps.lookup .step id

def trigger (r : Registry) (id : String) : Except RegistryError TriggerHandler :=
  r.triggers.lookup .trigger id

def action (r : Registry) (id : String) : Except RegistryError ActionHandler :=
  r.actions.lookup .action id

/-- The type ids of a kind in ascending order. -/
def ids (r : Registry) : HandlerKind → List String
  | .step => Keyed.keys r.steps
  | .trigger => Keyed.keys r.triggers
  | .action => Keyed.keys r.actions

def contains (r : Registry) (kind : HandlerKind) (id : String) : Bool :=
  match kind with
  | .step => Keyed.contains id r.steps
  | .trigger => Keyed.contains id r.triggers
  | .action => Keyed.contains id r.actions

end Registry
end Playbook
