import Playbook.Instant.Basic
import Playbook.Json.Record

/-!
What a run knows: who asked for it, the variables and events it was given, and the outputs of the
steps that have completed. The outputs are seen as the variable `steps`, which nobody can set.
-/
namespace Playbook

open Json (Value)
open Json.Value (nullable? listOf? entries?)

/-- What a caller submits to start a run. -/
structure RunRequest where
  tenantId : String := ""
  userId : Option String := none
  «variables» : List (String × Value) := []
  events : List String := []
  debugMode : Bool := false

namespace RunRequest

def decode? (v : Value) : Option RunRequest := do
  let r ← v.record? ["tenant_id", "user_id", "variables", "events", "debug_mode"]
  some {
    tenantId := ← r.read "tenant_id" "" Value.text?
    userId := ← r.read "user_id" none (nullable? Value.text?)
    «variables» := ← r.read "variables" [] entries?
    events := ← r.read "events" [] (listOf? Value.text?)
    debugMode := ← r.read "debug_mode" false Value.bool? }

end RunRequest

/-- The only thing that can be wrong with a request. -/
inductive RequestError where
  | reservedVariable
  deriving DecidableEq, Repr

structure RunContext where
  runId : String
  tenantId : String
  userId : Option String := none
  debugMode : Bool := false
  /-- the variables of the request and what was set later -/
  given : List (String × Value) := []
  /-- the outputs of completed steps by step id -/
  outputs : List (String × Value) := []
  /-- event names in ascending order -/
  events : List String := []
  /-- the clock of the run, which stands still -/
  now : Instant

namespace RunContext

/-- The variable that holds the outputs. -/
def stepsVariable : String := "steps"

def requestErrorMessage : RequestError → String
  | .reservedVariable => s!"variable '{stepsVariable}' is reserved for step outputs"

/-- All variables, the outputs among them. -/
def «variables» (c : RunContext) : List (String × Value) :=
  Keyed.put stepsVariable (.object c.outputs) c.given

def setVariable (c : RunContext) (name : String) (v : Value) : Except RequestError RunContext :=
  if name = stepsVariable then .error .reservedVariable
  else .ok { c with given := Keyed.put name v c.given }

def recordOutput (c : RunContext) (stepId : String) (output : Value) : RunContext :=
  { c with outputs := Keyed.put stepId output c.outputs }

def stepOutput (c : RunContext) (stepId : String) : Option Value := Keyed.get? stepId c.outputs

def hasEvent (c : RunContext) (event : String) : Bool := c.events.contains event

/-- The context in which the run of a request starts. -/
def ofRequest (runId : String) (q : RunRequest) (now : Instant) :
    Except RequestError RunContext :=
  let c : RunContext := {
    runId, now
    tenantId := q.tenantId
    userId := q.userId
    debugMode := q.debugMode
    events := Keyed.keys (Keyed.ofList (q.events.map fun e => (e, ()))) }
  q.variables.foldlM (fun c e => c.setVariable e.1 e.2) c

theorem get?_variables_steps (c : RunContext) :
    Keyed.get? stepsVariable c.variables = some (.object c.outputs) :=
  Keyed.get?_put_self ..

theorem get?_variables_of_ne (c : RunContext) {name : String} (h : name ≠ stepsVariable) :
    Keyed.get? name c.variables = Keyed.get? name c.given :=
  Keyed.get?_put_of_ne h ..

end RunContext
end Playbook
