import Playbook.CommandLine.Fault
import Playbook.CommandLine.Report
import Playbook.Engine
import Playbook.Settings.Document

/-!
One command from its arguments to what it writes. A session sees the files and the environment as
functions, and all that it does is in its answer: lines with the moments at which they are written,
lines for the trace file, and the failure in which it may end.
-/
namespace Playbook.CommandLine

open Json (Value)

/-- What a command finds around it. -/
structure Surroundings where
  /-- what lies at a path -/
  entry? : String → Option Entry
  environment : Settings.Environment
  now : Instant
  /-- the id for a run that is started -/
  runId : String

/-- A line of output and its moment in milliseconds since the start. -/
structure Line where
  moment : Nat := 0
  text : String
  deriving DecidableEq, Repr

structure Session where
  output : List Line := []
  /-- the lines that are added to the trace file -/
  traceLines : List String := []
  failure : Option Failure := none

namespace Surroundings

/-- The text of a file. -/
def text? (s : Surroundings) (path : String) : Option String :=
  match s.entry? path with
  | some (.file text) => some text
  | _ => none

/-- The settings in a file, or the defaults where no file is named. -/
def fileSettings (s : Surroundings) : Option String → Except CommandFault Settings
  | none => .ok {}
  | some path =>
    match s.text? path with
    | none => .error (.unreadableConfig path)
    | some text => ((Settings.parse? text).map .ok).getD (.error (.malformedConfig path))

/-- The settings of a command: those of the file, over them the environment, and last the level of
the log that was asked for. The level is not looked at before an engine is made. -/
def settings (s : Surroundings) (a : Arguments) : Except Failure Settings := do
  let settings ← (s.fileSettings a.config).mapError CommandFault.failure
  let settings ← (settings.override s.environment).mapError Failure.ofEnvironment
  settings.check.mapError Failure.ofSettings
  .ok { settings with
    logging := { settings.logging with level := a.logLevel.getD settings.logging.level } }

def engine (s : Surroundings) (settings : Settings) : Except Failure Engine := do
  let e ← Engine.create settings {} s.now
  match settings.recorder.traceFile with
  | none => .ok e
  | some path =>
    match s.entry? path with
    | some (.folder _) => .error (CommandFault.traceFolder path).failure
    | _ => .ok e

end Surroundings

/-- A session that ends in a failure before anything is written. -/
def Session.failed (f : Failure) : Session := { failure := some f }

def Session.ofExcept : Except Failure Session → Session
  | .ok s => s
  | .error f => .failed f

/-! ### Validation -/

def validate (s : Surroundings) (settings : Settings) (path : String) (output : OutputFormat) :
    Except Failure Session := do
  let e ← s.engine settings
  let programs ← (Entry.programs path (s.entry? path)).mapError Failure.ofLoad
  let checked := programs.map fun p => (p, e.validate p)
  let blocked := (checked.filter fun (_, issues) => Report.isBlocked issues).length
  .ok {
    output := checked.flatMap fun (p, issues) =>
      (Report.issueLines output p issues).map fun text => { text }
    failure :=
      if blocked = 0 then none
      else some (CommandFault.blockedPrograms blocked programs.length).failure }

/-! ### Runs -/

/-- The only program at the path that has the id and the version that are asked for. -/
def selectProgram (s : Surroundings) (o : RunOptions) : Except Failure Program := do
  let programs ← (Entry.programs o.path (s.entry? o.path)).mapError Failure.ofLoad
  let matching := programs.filter fun p => o.program.all (p.id == ·) && o.version.all (p.version == ·)
  match matching with
  | [p] => .ok p
  | [] => .error (CommandFault.noProgram o.path).failure
  | ps => .error (CommandFault.severalPrograms (ps.map fun p => (p.id, p.version))).failure

/-- A variable written as `name=value`; a value that is no JSON is taken as a text. -/
def readVariable (text : String) : Except CommandFault (String × Value) :=
  match text.toList.span (· ≠ '=') with
  | (_, []) => .error (.notAssigned text)
  | (name, _ :: value) =>
    let name := Text.trim (String.ofList name)
    let value := String.ofList value
    if name.isEmpty then .error (.emptyName text)
    else .ok (name, (Json.parse? value).getD (.text value))

/-- The request in a file, or an empty one of the tenant that is asked for. -/
def fileRequest (s : Surroundings) (o : RunOptions) : Except CommandFault RunRequest :=
  match o.context with
  | none => .ok { tenantId := o.tenant }
  | some path =>
    match s.text? path with
    | none => .error (.unreadableContext path)
    | some text =>
      (((Json.parse? text).bind RunRequest.decode?).map .ok).getD (.error (.malformedContext path))

def request (s : Surroundings) (o : RunOptions) : Except CommandFault RunRequest := do
  let q ← fileRequest s o
  let vars ← o.variables.mapM readVariable
  .ok { q with
    userId := o.user.orElse fun _ => q.userId
    «variables» := vars.foldl (fun entries (name, v) => Keyed.put name v entries) q.variables
    events := q.events ++ o.events
    debugMode := q.debugMode || o.debug }

/-- The line of an event at the moment of the event. -/
def followed (s : Surroundings) (output : OutputFormat) (e : Trace.Event) : Line where
  moment := (e.timestamp.millisSince s.now).toNat
  text := Report.eventLine output e

def runProgram (s : Surroundings) (settings : Settings) (o : RunOptions) : Except Failure Session := do
  let program ← selectProgram s o
  let q ← (request s o).mapError CommandFault.failure
  let e ← s.engine settings
  let subscription := e.follow s.runId
  let e ← e.start s.runId program q
  let (e, events, outcome) := e.joinFollowing s.runId subscription
  let result ← outcome
  let shown :=
    if o.follow then events.map (followed s o.output)
    else if q.debugMode then
      ((e.trace? s.runId).getD []).map fun event =>
        ⟨result.elapsedMs, Report.eventLine o.output event⟩
    else []
  .ok {
    output := shown ++ (Report.resultLines o.output result).map fun text => ⟨result.elapsedMs, text⟩
    traceLines := e.traceLines
    failure :=
      if result.isCompleted then none
      else some (CommandFault.incomplete s.runId result.failureReason).failure }

/-! ### Handlers -/

def listHandlers (s : Surroundings) (settings : Settings) : Except Failure Session := do
  let e ← s.engine settings
  let registry := e.scheduler.executor.dispatcher.registry
  let lines := [HandlerKind.step, .trigger, .action].flatMap fun kind =>
    (kind.name ++ " handlers:") :: (registry.ids kind).map ("- " ++ ·)
  .ok { output := lines.map fun text => { text } }

/-- Carries out a command. -/
def Arguments.session (a : Arguments) (s : Surroundings) : Session := .ofExcept do
  let settings ← s.settings a
  match a.command with
  | .validate path output => validate s settings path output
  | .run options => runProgram s settings options
  | .handlers => listHandlers s settings

/-- The line that tells of a failure. -/
def Session.failureLine? (s : Session) : Option String :=
  s.failure.map fun f => "progflow failed: " ++ f.message

end Playbook.CommandLine
