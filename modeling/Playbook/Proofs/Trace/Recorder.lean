import Mathlib.Data.List.Basic
import Playbook.Proofs.Keyed
import Playbook.Trace.Recorder

/-!
What calls do to a recorder. To begin a run gives it a new record, and may make the recorder forget
others; to record an event changes the record of one run. A record that some notes are entered into
numbers them one after the other, and keeps the events that they become when it is debugged.
-/
namespace Playbook.Trace

/-- What is told of a run at some moment, before it is numbered. -/
structure Note where
  timestamp : Instant
  stepId : Option String
  attempt : Option Nat
  kind : EventKind

namespace Note

def event (n : Note) (runId : String) (sequence : Nat) : Event :=
  ⟨runId, sequence, n.timestamp, n.stepId, n.attempt, n.kind⟩

/-- Whether the run is told to be over. -/
def isEnd (n : Note) : Bool := n.kind matches .runCompleted ..

end Note

variable {runId : String} {first : Nat} {notes : List Note}

/-- The events that notes become when they are numbered from a number on. -/
def numbered (runId : String) (first : Nat) (notes : List Note) : List Event :=
  (notes.zipIdx first).map fun e => e.1.event runId e.2

@[simp] theorem numbered_nil (runId : String) (first : Nat) : numbered runId first [] = [] := rfl

@[simp] theorem numbered_cons (runId : String) (first : Nat) (n : Note) (notes : List Note) :
    numbered runId first (n :: notes) = n.event runId first :: numbered runId (first + 1) notes := by
  simp [numbered]

/-- The events tell what the notes tell. -/
theorem map_numbered {α : Type} {g : Event → α} (f : Note → α)
    (same : ∀ (n : Note) sequence, g (n.event runId sequence) = f n) :
    (numbered runId first notes).map g = notes.map f := by
  induction notes generalizing first with
  | nil => rfl
  | cons n rest ih => simp [same, ih]

namespace RunRecord

variable {r : RunRecord}

@[simp] theorem debug_observe (r : RunRecord) (e : Event) : (r.observe e).debug = r.debug := by
  unfold observe
  cases e.kind <;> rfl

@[simp] theorem nextSequence_observe (r : RunRecord) (e : Event) :
    (r.observe e).nextSequence = r.nextSequence + 1 := by
  unfold observe
  cases e.kind <;> rfl

theorem events_observe (r : RunRecord) (e : Event) :
    (r.observe e).events = if r.debug then r.events ++ [e] else r.events := by
  unfold observe
  cases e.kind <;> rfl

theorem isFinished_observe (r : RunRecord) (n : Note) (sequence : Nat) :
    (r.observe (n.event runId sequence)).isFinished = (r.isFinished || n.isEnd) := by
  unfold observe isFinished Note.isEnd Note.event
  cases n.kind <;> simp

/-- The record after some notes. -/
def replay (r : RunRecord) (runId : String) (notes : List Note) : RunRecord :=
  notes.foldl (fun r n => r.observe (n.event runId r.nextSequence)) r

@[simp] theorem replay_nil (r : RunRecord) (runId : String) : r.replay runId [] = r := rfl

@[simp] theorem replay_cons (r : RunRecord) (runId : String) (n : Note) (notes : List Note) :
    r.replay runId (n :: notes) = (r.observe (n.event runId r.nextSequence)).replay runId notes :=
  rfl

@[simp] theorem debug_replay : (r.replay runId notes).debug = r.debug := by
  induction notes generalizing r with
  | nil => rfl
  | cons n rest ih => rw [replay_cons, ih, debug_observe]

/-- In debug mode the events are kept in order, numbered one after the other; else none are. -/
theorem events_replay : (r.replay runId notes).events =
    if r.debug then r.events ++ numbered runId r.nextSequence notes else r.events := by
  induction notes generalizing r with
  | nil => simp
  | cons n rest ih =>
    rw [replay_cons, ih, debug_observe, events_observe, nextSequence_observe, numbered_cons]
    by_cases debug : r.debug <;> simp [debug]

end RunRecord

/-! ### Calls -/

namespace Recorder

/-- What a recorder is called for. -/
inductive Call where
  | beginRun (runId programId : String) (version : Nat) (tracking debug : Bool)
  | record (runId : String) (note : Note)

/-- The run whose recording begins with a call. -/
def Call.begun? : Call → Option String
  | .beginRun runId _ _ tracking debug => if tracking || debug then some runId else none
  | .record .. => none

/-- The runs whose recording begins with some calls, one after the other. -/
def begun (calls : List Call) : List String := calls.filterMap Call.begun?

/-- The recorder after a call, and the number that the call is answered with. -/
def call (r : Recorder) : Call → Recorder × Option Nat
  | .beginRun runId programId version tracking debug =>
    (r.beginRun runId programId version tracking debug, none)
  | .record runId n => r.record n.timestamp runId n.stepId n.attempt n.kind

/-- The recorder after some calls. -/
def after (r : Recorder) (calls : List Call) : Recorder := calls.foldl (fun r c => (r.call c).1) r

variable {r : Recorder} {calls : List Call} {c : Call} {id runId : String}

@[simp] theorem after_nil (r : Recorder) : r.after [] = r := rfl

@[simp] theorem after_cons (r : Recorder) (c : Call) (calls : List Call) :
    r.after (c :: calls) = (r.call c).1.after calls := rfl

theorem after_concat (r : Recorder) (calls : List Call) (c : Call) :
    r.after (calls ++ [c]) = ((r.after calls).call c).1 := by
  simp [after]

theorem begun_concat (calls : List Call) (c : Call) :
    begun (calls ++ [c]) = begun calls ++ c.begun?.toList := by
  cases h : c.begun? <;> simp [begun, h]

theorem get?_record (r : Recorder) (timestamp : Instant) (runId : String)
    (stepId : Option String) (attempt : Option Nat) (kind : EventKind) (id : String) :
    Keyed.get? id (r.record timestamp runId stepId attempt kind).1.runs =
      if id = runId then (Keyed.get? id r.runs).map fun run =>
        run.observe ⟨runId, run.nextSequence, timestamp, stepId, attempt, kind⟩
      else Keyed.get? id r.runs := by
  unfold record
  split
  · next unknown =>
    split
    · next same => simp [same, unknown]
    · rfl
  · next run found =>
    split
    · next same => simp [same, found]
    · next other => exact Keyed.get?_put_of_ne other ..

/-- Of each run the recorder forgets all or nothing. -/
theorem get?_evict (r : Recorder) (keep : Nat) (id : String) :
    Keyed.get? id (r.evict keep).runs = Keyed.get? id r.runs ∨
      Keyed.get? id (r.evict keep).runs = none := by
  unfold evict
  rw [Keyed.get?_filter fun key => !(Retention.retired r.isSettled keep r.order).contains key]
  split
  · exact .inl rfl
  · exact .inr rfl

theorem get?_beginRun_of_ne (r : Recorder) (other : id ≠ runId) (programId : String)
    (version : Nat) (tracking debug : Bool) :
    Keyed.get? id (r.beginRun runId programId version tracking debug).runs =
        Keyed.get? id r.runs ∨
      Keyed.get? id (r.beginRun runId programId version tracking debug).runs = none := by
  unfold beginRun
  split
  · simp only
    rw [Keyed.get?_put_of_ne other]
    exact r.get?_evict _ id
  · exact .inl rfl

/-- A run whose recording begins has a new record. -/
theorem get?_beginRun (r : Recorder) {tracking debug : Bool}
    (enabled : (tracking || debug) = true) (runId programId : String) (version : Nat) :
    Keyed.get? runId (r.beginRun runId programId version tracking debug).runs =
      some { programId, version, debug } := by
  unfold beginRun
  rw [if_pos enabled]
  exact Keyed.get?_put_self ..

/-- Without tracking and debugging nothing is recorded. -/
theorem beginRun_disabled (r : Recorder) {tracking debug : Bool}
    (disabled : (tracking || debug) = false) (runId programId : String) (version : Nat) :
    r.beginRun runId programId version tracking debug = r := by
  unfold beginRun
  rw [disabled]
  rfl

/-- A run that begins has a new record, or none. -/
theorem get?_beginRun_self (r : Recorder) (unknown : Keyed.get? runId r.runs = none)
    (programId : String) (version : Nat) (tracking debug : Bool) :
    ∀ run ∈ Keyed.get? runId (r.beginRun runId programId version tracking debug).runs,
      run = { programId, version, debug } := by
  intro run mem
  cases enabled : tracking || debug with
  | true =>
    rw [r.get?_beginRun enabled] at mem
    exact (Option.some.inj mem).symm
  | false =>
    rw [r.beginRun_disabled enabled, unknown] at mem
    cases mem

/-- A call about a run that is not recorded is answered with nothing, and does nothing. -/
theorem call_record_of_unknown (unknown : Keyed.get? runId r.runs = none) (n : Note) :
    r.call (.record runId n) = (r, none) := by
  simp [call, record, unknown]

/-- A call about a run that is recorded enters the note under the next number. -/
theorem call_record_of_known {run : RunRecord} (known : Keyed.get? runId r.runs = some run)
    (n : Note) :
    let e := n.event runId run.nextSequence
    r.call (.record runId n) =
      ({ r with
          runs := Keyed.put runId (run.observe e) r.runs
          bus := r.bus.publish e
          sink := r.sink.write e }, some run.nextSequence) := by
  simp only [call, record, known]
  rfl

theorem get?_call_record (r : Recorder) (runId : String) (n : Note) (id : String) :
    Keyed.get? id (r.call (.record runId n)).1.runs =
      if id = runId then (Keyed.get? id r.runs).map fun run =>
        run.observe (n.event runId run.nextSequence)
      else Keyed.get? id r.runs :=
  r.get?_record ..

end Recorder
end Playbook.Trace
