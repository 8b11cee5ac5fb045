import Playbook.Failure
import Playbook.Handler.Builtin
import Playbook.Run.Scheduler
import Playbook.Expression.Builtin

/-!
The engine: a catalog of programs, and the runs that were started of them. Runs go on in the
background while time passes; they can be followed, cancelled and joined.
-/
namespace Playbook

/-- What an engine works with beside its settings. -/
structure EngineServices where
  knowledge : KnowledgeProvider := Knowledge.none
  personality : PersonalityProvider := .none
  transport : CallExternal.Transport := CallExternal.unreachable
  /-- stands instead of the built-in registry -/
  registry : Option Registry := none
  clock : MachineClock := {}

structure Engine where
  settings : Settings
  catalog : Catalog := {}
  scheduler : Scheduler

namespace Engine

/-- An engine whose clock stands at an instant. -/
def create (settings : Settings) (services : EngineServices) (epoch : Instant) :
    Except Failure Engine := do
  settings.check.mapError Failure.ofSettings
  let registry := services.registry.getD
    (Registry.builtin ⟨services.personality, services.transport, settings.http⟩)
  let dispatcher : Dispatcher := {
    registry
    evaluator := Expression.Evaluator.builtin
      ⟨settings.expressions.maxLength, settings.expressions.maxDepth⟩
    knowledge := services.knowledge
    personality := services.personality
    knowledgeSettings := settings.knowledge }
  let recorder : Trace.Recorder := {
    maxRetained := settings.recorder.maxRetainedRuns
    bus := Trace.Bus.ofSize settings.recorder.eventBuffer
    sink := if settings.recorder.traceFile.isSome then .file "" else .absent }
  .ok {
    settings
    scheduler := {
      executor := ⟨dispatcher, settings.execution⟩
      maxRetained := settings.recorder.maxRetainedRuns
      clock := services.clock
      epoch, recorder } }

/-! ### Programs -/

/-- The engine after an operation of its catalog. -/
def withCatalog (e : Engine) (r : Catalog × Except CatalogError Unit) :
    Engine × Except Failure Unit :=
  ({ e with catalog := r.1 }, r.2.mapError Failure.ofCatalog)

def register (e : Engine) (p : Program) : Engine × Except Failure Unit :=
  e.withCatalog (e.catalog.register p)

/-- Registers programs one after the other; the ones before a refused one stay. -/
def registerAll (e : Engine) : List Program → Engine × Except Failure Unit
  | [] => (e, .ok ())
  | p :: rest =>
    match e.register p with
    | (e, .ok ()) => e.registerAll rest
    | (e, .error f) => (e, .error f)

/-- Registers the programs at a place that is written as `path`; the answer is their number. Nothing is
registered unless all of them can be read. -/
def load (e : Engine) (path : String) (entry : Option Entry) : Engine × Except Failure Nat :=
  match Entry.programs path entry with
  | .error f => (e, .error (.ofLoad f))
  | .ok programs =>
    let (e, r) := e.registerAll programs
    (e, r.map fun _ => programs.length)

def publish (e : Engine) (id : String) (version : Nat) : Engine × Except Failure Unit :=
  e.withCatalog (e.catalog.publish id version)

def archive (e : Engine) (id : String) (version : Nat) : Engine × Except Failure Unit :=
  e.withCatalog (e.catalog.archive id version)

def resolve (e : Engine) (id : String) (version : Option Nat) : Except Failure Program :=
  (e.catalog.resolve id version).mapError Failure.ofCatalog

/-- The ids of all programs. -/
def programs (e : Engine) : List String := e.catalog.ids

def validate (e : Engine) (p : Program) : List Issue :=
  let d := e.scheduler.executor.dispatcher
  Validation.issues d.registry d.evaluator p

/-! ### Runs -/

/-- The instant that the clock shows. -/
def now (e : Engine) : Instant := e.scheduler.epoch.addMillis e.scheduler.now

/-- Starts a run of a program. -/
def start (e : Engine) (runId : String) (p : Program) (q : RunRequest) : Except Failure Engine := do
  let context ← (RunContext.ofRequest runId q e.now).mapError Failure.ofRequest
  .ok { e with scheduler := e.scheduler.submit runId p context }

/-- Starts a run of a program of the catalog. -/
def execute (e : Engine) (runId id : String) (version : Option Nat) (q : RunRequest) :
    Except Failure Engine := do
  e.start runId (← e.resolve id version) q

/-- A subscription to the events of a run. -/
def follow (e : Engine) (runId : String) : Trace.Subscription :=
  e.scheduler.recorder.bus.subscribe runId

def advance (e : Engine) (ms : Nat) : Engine :=
  if ms = 0 then e
  else { e with scheduler := e.scheduler.advanceTo (e.scheduler.now + ms) }

/-- What came of a run. -/
def outcome (e : Engine) (runId : String) : Except Failure RunResult :=
  match e.scheduler.run? runId with
  | none => .error (.ofCrash runId "task was cancelled")
  | some r =>
    match r.stage with
    | .rejected cause => .error (.ofRejection cause)
    | .active .. =>
      match e.scheduler.result? runId with
      | some result => .ok result
      | none => .error (.ofCrash runId "task was cancelled")
    | _ => .error (.ofCrash runId "task panicked")

/-- Waits for a run. -/
def join (e : Engine) (runId : String) : Engine × Except Failure RunResult :=
  let e := { e with scheduler := e.scheduler.join runId }
  (e, e.outcome runId)

/-- Waits for a run and reads its events as they come. -/
def joinFollowing (e : Engine) (runId : String) (s : Trace.Subscription) :
    Engine × List Trace.Event × Except Failure RunResult :=
  let (scheduler, events) := e.scheduler.joinFollowing runId s []
  let e := { e with scheduler }
  (e, events, e.outcome runId)

/-- Where a run stands that is still shown. -/
def phase? (e : Engine) (runId : String) : Option RunPhase := e.scheduler.table.phase? runId

/-- Cancels a run through its handle. -/
def cancelHandle (e : Engine) (runId : String) : Engine :=
  { e with scheduler := e.scheduler.cancel runId }

/-- Cancels a run that is shown as running; the answer tells whether it was. -/
def cancel (e : Engine) (runId : String) : Engine × Bool :=
  match e.phase? runId with
  | some .running => (e.cancelHandle runId, true)
  | _ => (e, false)

/-! ### What is recorded -/

def trace? (e : Engine) (runId : String) : Option (List Trace.Event) :=
  e.scheduler.recorder.trace runId

def summary? (e : Engine) (runId : String) : Option Trace.Summary :=
  e.scheduler.recorder.summarize runId

def analytics (e : Engine) (programId : String) : Trace.Analytics :=
  e.scheduler.recorder.analytics programId

/-- The lines of the trace file. -/
def traceLines (e : Engine) : List String := e.scheduler.recorder.sink.lines

/-- The events of a followed run that are there. -/
def receive (e : Engine) (s : Trace.Subscription) : List Trace.Event × Trace.Subscription :=
  e.scheduler.recorder.bus.drain s

end Engine
end Playbook
