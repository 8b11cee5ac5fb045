import Playbook.Json.Value

/-!
Programs: steps with triggers and actions, joined by edges to their successors, and how they are to
be executed. The types of steps, triggers and actions are open: a few ids are built in, any other
is custom. A program is edited as a draft, then published, and in the end archived.
-/
namespace Playbook

open Json (Value)

inductive StepType where
  | message | task | survey | wait | condition | trigger
  | custom (id : String)
  deriving DecidableEq, Repr

namespace StepType

def builtin : List StepType := [.message, .task, .survey, .wait, .condition, .trigger]

def id : StepType → String
  | .message => "message"
  | .task => "task"
  | .survey => "survey"
  | .wait => "wait"
  | .condition => "condition"
  | .trigger => "trigger"
  | .custom id => id

def ofId (s : String) : StepType := (builtin.find? fun t => t.id == s).getD (.custom s)

def isBuiltin : StepType → Bool
  | .custom _ => false
  | _ => true

end StepType

inductive TriggerType where
  | immediate | timeBased | conditionBased | userAction | delayed
  | custom (id : String)
  deriving DecidableEq, Repr

namespace TriggerType

def builtin : List TriggerType := [.immediate, .timeBased, .conditionBased, .userAction, .delayed]

def id : TriggerType → String
  | .immediate => "immediate"
  | .timeBased => "time_based"
  | .conditionBased => "condition_based"
  | .userAction => "user_action"
  | .delayed => "delayed"
  | .custom id => id

def ofId (s : String) : TriggerType := (builtin.find? fun t => t.id == s).getD (.custom s)

def isBuiltin : TriggerType → Bool
  | .custom _ => false
  | _ => true

/-- Whether the trigger fires from outside a run, so that its step can start without a
predecessor. -/
def isEntryCapable : TriggerType → Bool
  | .immediate | .userAction | .timeBased => true
  | _ => false

end TriggerType

inductive ActionType where
  | sendMessage | assignTask | sendSurvey | wait | callExternal
  | custom (id : String)
  deriving DecidableEq, Repr

namespace ActionType

def builtin : List ActionType := [.sendMessage, .assignTask, .sendSurvey, .wait, .callExternal]

def id : ActionType → String
  | .sendMessage => "send_message"
  | .assignTask => "assign_task"
  | .sendSurvey => "send_survey"
  | .wait => "wait"
  | .callExternal => "call_external"
  | .custom id => id

def ofId (s : String) : ActionType := (builtin.find? fun t => t.id == s).getD (.custom s)

def isBuiltin : ActionType → Bool
  | .custom _ => false
  | _ => true

end ActionType

inductive ProgramStatus where
  | draft | published | archived
  deriving DecidableEq, Repr

namespace ProgramStatus

def name : ProgramStatus → String
  | .draft => "draft"
  | .published => "published"
  | .archived => "archived"

def ofName? (s : String) : Option ProgramStatus :=
  [.draft, .published, .archived].find? fun c => c.name == s

end ProgramStatus

/-- How many steps run at once: one, or several up to a limit. -/
inductive Strategy where
  | sequential | parallel | conditional
  deriving DecidableEq, Repr

namespace Strategy

def name : Strategy → String
  | .sequential => "sequential"
  | .parallel => "parallel"
  | .conditional => "conditional"

def ofName? (s : String) : Option Strategy :=
  [.sequential, .parallel, .conditional].find? fun c => c.name == s

end Strategy

inductive AdaptationLevel where
  | low | medium | high
  deriving DecidableEq, Repr

namespace AdaptationLevel

def name : AdaptationLevel → String
  | .low => "low"
  | .medium => "medium"
  | .high => "high"

def ofName? (s : String) : Option AdaptationLevel :=
  [.low, .medium, .high].find? fun c => c.name == s

end AdaptationLevel

/-- How the steps of a program are executed. -/
structure ExecutionPolicy where
  strategy : Strategy := .sequential
  parallelLimit : Nat := 4
  timeoutSeconds : Nat := 300
  retryFailedSteps : Bool := true
  maxRetries : Nat := 3
  retryBackoffMs : Nat := 1000
  runDeadlineSeconds : Option Nat := none
  deriving DecidableEq, Repr

/-- What is recorded of the runs of a program: aggregates, and every event. -/
structure TrackingPolicy where
  enableTracking : Bool := true
  storeDebugInfo : Bool := false
  deriving DecidableEq, Repr

structure PersonalityPolicy where
  enabled : Bool := false
  adaptationLevel : AdaptationLevel := .medium
  deriving DecidableEq, Repr

/-- Where a step is drawn. -/
structure Position where
  x : Float
  y : Float

structure Trigger where
  type : TriggerType := .immediate
  schedule : Option String := none
  at? : Option String := none
  condition : Option String := none
  delaySeconds : Option Nat := none
  event : Option String := none
  windowSeconds : Option Nat := none
  deriving DecidableEq, Repr

structure Action where
  type : ActionType := .sendMessage
  params : Value := .object []
  useKnowledgeContext : Bool := false
  usePersonality : Bool := false
  requirePersonalityConsistency : Bool := false

structure Step where
  id : String := ""
  programId : String := ""
  name : String := ""
  type : StepType := .message
  trigger : Trigger := {}
  action : Action := {}
  position : Option Position := none
  next : List String := []
  timeoutSeconds : Option Nat := none
  continueOnFailure : Bool := false

structure Program where
  id : String := ""
  creatorId : String := ""
  version : Nat := 1
  name : String := ""
  description : String := ""
  status : ProgramStatus := .draft
  steps : List Step := []
  execution : ExecutionPolicy := {}
  tracking : TrackingPolicy := {}
  personality : PersonalityPolicy := {}

/-- The largest version number. -/
def Program.maxVersion : Nat := Nat.pow 2 32 - 1

/-- Why a program cannot be changed or run in its status. -/
inductive StatusError where
  | published (id : String) (version : Nat)
  | archivedForGood (id : String) (version : Nat)
  | notExecutable (id : String) (version : Nat)
  deriving DecidableEq, Repr

def StatusError.message : StatusError → String
  | .published id version =>
    s!"program '{id}' v{version} is published; create a new version to edit it"
  | .archivedForGood id version => s!"program '{id}' v{version} is archived and cannot be published"
  | .notExecutable id version => s!"program '{id}' v{version} is archived and cannot be executed"

/-- Equality of positions, number by number. -/
def Position.same (a b : Position) : Bool := a.x == b.x && a.y == b.y

/-- Equality of actions; parameters are equal as they are written. -/
def Action.same (a b : Action) : Bool :=
  a.type == b.type && a.params.same b.params && a.useKnowledgeContext == b.useKnowledgeContext &&
    a.usePersonality == b.usePersonality &&
    a.requirePersonalityConsistency == b.requirePersonalityConsistency

/-- Equality of two things that may be missing. -/
def sameOption {α : Type} (same : α → α → Bool) : Option α → Option α → Bool
  | none, none => true
  | some a, some b => same a b
  | _, _ => false

def Step.same (a b : Step) : Bool :=
  a.id == b.id && a.programId == b.programId && a.name == b.name && a.type == b.type &&
    a.trigger == b.trigger && a.action.same b.action && sameOption Position.same a.position b.position &&
    a.next == b.next && a.timeoutSeconds == b.timeoutSeconds &&
    a.continueOnFailure == b.continueOnFailure

namespace Program

def sameSteps : List Step → List Step → Bool
  | [], [] => true
  | a :: as, b :: bs => a.same b && sameSteps as bs
  | _, _ => false

/-- Equality of programs, field by field. -/
def same (a b : Program) : Bool :=
  a.id == b.id && a.creatorId == b.creatorId && a.version == b.version && a.name == b.name &&
    a.description == b.description && a.status == b.status && sameSteps a.steps b.steps &&
    a.execution == b.execution && a.tracking == b.tracking && a.personality == b.personality

/-- The first step with an id. -/
def step? (p : Program) (id : String) : Option Step := p.steps.find? fun s => s.id == id

theorem id_of_step? {p : Program} {id : String} {s : Step} (h : p.step? id = some s) : s.id = id := by
  simpa using List.find?_some h

def isExecutable (p : Program) : Bool := p.status != .archived

/-- A published program is not edited; it gets a new version. -/
def ensureEditable (p : Program) : Except StatusError Unit :=
  if p.status = .published then .error (.published p.id p.version) else .ok ()

/-- A draft of the following version. -/
def nextVersion (p : Program) : Program :=
  { p with version := min (p.version + 1) maxVersion, status := .draft }

def publish (p : Program) : Except StatusError Program :=
  match p.status with
  | .draft | .published => .ok { p with status := .published }
  | .archived => .error (.archivedForGood p.id p.version)

def archive (p : Program) : Program := { p with status := .archived }

end Program
end Playbook
