import Playbook.Json.Printer
import Playbook.Retention
import Playbook.Sum
import Playbook.Text.Blank
import Playbook.Trace.Bus

/-!
The recorder of runs. It numbers the events of each run from one, keeps totals, and in debug mode
the events themselves; every event goes to the trace file and to the bus as well. Of the runs, the
oldest finished ones make room for new ones.
-/
namespace Playbook.Trace

open Json (Value)

/-- What is counted of a run. -/
structure Totals where
  completed : Nat := 0
  skipped : Nat := 0
  failed : Nat := 0
  retries : Nat := 0
  latencyMs : Nat := 0
  branches : List (String × Nat) := []
  failedSteps : List (String × Nat) := []
  events : Nat := 0
  deriving DecidableEq, Repr

/-- Adds to the count of a key. -/
def count (key : String) (n : Nat) (counts : List (String × Nat)) : List (String × Nat) :=
  Keyed.put key ((Keyed.get? key counts).getD 0 + n) counts

namespace Totals

/-- The totals after one more event of a step or of the run itself. -/
def observe (t : Totals) (stepId : Option String) (kind : EventKind) : Totals :=
  let t := { t with events := t.events + 1 }
  match kind with
  | .stepCompleted branch durationMs =>
    { t with
      completed := t.completed + 1
      latencyMs := t.latencyMs + durationMs
      branches := count branch 1 t.branches }
  | .stepSkipped branch _ =>
    { t with skipped := t.skipped + 1, branches := count branch 1 t.branches }
  | .stepFailed branch _ durationMs =>
    { t with
      failed := t.failed + 1
      latencyMs := t.latencyMs + durationMs
      branches := count branch 1 t.branches
      failedSteps := match stepId with
        | some id => count id 1 t.failedSteps
        | none => t.failedSteps }
  | .stepRetried .. => { t with retries := t.retries + 1 }
  | _ => t

/-- The mean of some samples, zero when there are none. -/
def mean (sum samples : Nat) : Float :=
  if samples = 0 then 0 else Float.ofNat sum / Float.ofNat samples

end Totals

structure RunRecord where
  programId : String
  version : Nat
  /-- whether the events are kept -/
  debug : Bool
  nextSequence : Nat := 1
  events : List Event := []
  totals : Totals := {}
  status : Option RunStatus := none
  failureReason : Option FailureReason := none
  elapsedMs : Option Nat := none

namespace RunRecord

/-- The record after one more event. -/
def observe (r : RunRecord) (e : Event) : RunRecord :=
  let r := { r with
    nextSequence := r.nextSequence + 1
    events := if r.debug then r.events ++ [e] else r.events
    totals := r.totals.observe e.stepId e.kind }
  match e.kind with
  | .runCompleted status reason elapsedMs =>
    { r with status := some status, failureReason := reason, elapsedMs := some elapsedMs }
  | _ => r

def isFinished (r : RunRecord) : Bool := r.status.isSome

end RunRecord

/-- Where events are written beside the recorder. -/
inductive Sink where
  | absent
  | failing
  | file (text : String)
  deriving DecidableEq, Repr

/-- Ends the file with a line for an event. -/
def Sink.write (s : Sink) (e : Event) : Sink :=
  match s with
  | .file text => .file (text ++ e.encode.print ++ "\n")
  | s => s

def Sink.lines : Sink → List String
  | .file text => Text.lines text
  | _ => []

structure Recorder where
  maxRetained : Nat
  runs : List (String × RunRecord) := []
  /-- run ids in the order in which the runs began -/
  order : List String := []
  bus : Bus := Bus.ofSize 256
  sink : Sink := .absent

namespace Recorder

/-- Whether a run is finished or gone. -/
def isSettled (r : Recorder) (runId : String) : Bool :=
  match Keyed.get? runId r.runs with
  | some run => run.isFinished
  | none => true

/-- Drops the oldest finished runs until at most `keep` are left. -/
def evict (r : Recorder) (keep : Nat) : Recorder :=
  let gone := Retention.retired r.isSettled keep r.order
  { r with
    order := Retention.retain r.isSettled keep r.order
    runs := r.runs.filter fun e => !gone.contains e.1 }

/-- Begins to record a run, unless neither tracking nor debugging asks for it. -/
def beginRun (r : Recorder) (runId programId : String) (version : Nat) (tracking debug : Bool) :
    Recorder :=
  if tracking || debug then
    let r := r.evict (max r.maxRetained 1 - 1)
    { r with
      order := r.order ++ [runId]
      runs := Keyed.put runId { programId, version, debug } r.runs }
  else r

/-- Records an event and gives its number, or none when the run is not recorded. -/
def record (r : Recorder) (timestamp : Instant) (runId : String) (stepId : Option String)
    (attempt : Option Nat) (kind : EventKind) : Recorder × Option Nat :=
  match Keyed.get? runId r.runs with
  | none => (r, none)
  | some run =>
    let e : Event := ⟨runId, run.nextSequence, timestamp, stepId, attempt, kind⟩
    ({ r with
        runs := Keyed.put runId (run.observe e) r.runs
        bus := r.bus.publish e
        sink := r.sink.write e },
      some e.sequence)

/-- The events of a run that is retained; none of them unless it is debugged. -/
def trace (r : Recorder) (runId : String) : Option (List Event) :=
  (Keyed.get? runId r.runs).map RunRecord.events

def retained (r : Recorder) : Nat := r.order.length

end Recorder

/-! ### Summaries -/

structure Summary where
  runId : String
  record : RunRecord

namespace Summary

/-- The number of steps with a result. -/
def stepCount (s : Summary) : Nat :=
  s.record.totals.completed + s.record.totals.skipped + s.record.totals.failed

def meanLatencyMs (s : Summary) : Float :=
  Totals.mean s.record.totals.latencyMs (s.record.totals.completed + s.record.totals.failed)

def encode (s : Summary) : Value := .object <|
  [("run_id", .text s.runId), ("program_id", .text s.record.programId),
    ("version", .ofNat s.record.version)] ++
  optionalEntry "status" (fun status => .text (RunStatus.name status)) s.record.status ++
  optionalEntry "failure_reason" FailureReason.encode s.record.failureReason ++
  [("step_count", .ofNat s.stepCount), ("completed", .ofNat s.record.totals.completed),
    ("skipped", .ofNat s.record.totals.skipped), ("failed", .ofNat s.record.totals.failed),
    ("retries", .ofNat s.record.totals.retries),
    ("mean_step_latency_ms", .float s.meanLatencyMs),
    ("branch_histogram", .object (Keyed.mapValues Value.ofNat s.record.totals.branches)),
    ("event_count", .ofNat s.record.totals.events)] ++
  optionalEntry "elapsed_ms" Value.ofNat s.record.elapsedMs

end Summary

/-- The totals of the retained runs of a program. -/
structure Analytics where
  programId : String
  records : List RunRecord

namespace Analytics

def runs (a : Analytics) : Nat := a.records.length

def withStatus (a : Analytics) (status : Option RunStatus) : Nat :=
  (a.records.filter fun r => r.status == status).length

def meanDurationMs (a : Analytics) : Float :=
  let samples := a.records.filterMap RunRecord.elapsedMs
  Totals.mean (sumOf id samples) samples.length

def stepFailures (a : Analytics) : List (String × Nat) :=
  (a.records.flatMap fun r => r.totals.failedSteps).foldl (fun counts e => count e.1 e.2 counts) []

def encode (a : Analytics) : Value := .object [
  ("program_id", .text a.programId),
  ("runs", .ofNat a.runs),
  ("completed", .ofNat (a.withStatus (some .completed))),
  ("failed", .ofNat (a.withStatus (some .failed))),
  ("in_flight", .ofNat (a.withStatus none)),
  ("mean_run_duration_ms", .float a.meanDurationMs),
  ("step_failures", .object (Keyed.mapValues Value.ofNat a.stepFailures))]

end Analytics

namespace Recorder

def summarize (r : Recorder) (runId : String) : Option Summary :=
  (Keyed.get? runId r.runs).map fun record => ⟨runId, record⟩

def analytics (r : Recorder) (programId : String) : Analytics :=
  ⟨programId, (Keyed.values r.runs).filter fun run => run.programId == programId⟩

end Recorder
end Playbook.Trace
