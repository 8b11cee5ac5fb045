import Playbook.Run.Plan

/-!
A step in flight. A job makes attempts at its step until one succeeds, is held, or may not be
repeated; it waits while an attempt lets time pass and between attempts. Whoever runs it polls it:
a poll goes on to the next wait or to the end. Each wait has alarms, the moments at which polling
again makes sense.
-/
namespace Playbook

open Json (Value)
open Trace (EventKind)

/-- An event of a run, with the moment at which it happened. -/
structure LogEntry where
  moment : Nat
  stepId : Option String
  attempt : Option Nat
  kind : EventKind

/-- A moment to wake up at, and the number of the poll in which it was set. -/
structure Alarm where
  due : Nat
  turn : Nat
  deriving DecidableEq, Repr

def Alarm.rings (a : Alarm) (now : Nat) : Bool := a.due ≤ now

/-- An attempt that lets time pass. -/
structure Working where
  startedAt : Nat
  /-- when the attempt is cut off -/
  cut : Alarm
  /-- whether it is the deadline of the run that cuts it off -/
  byDeadline : Bool
  /-- when the attempt goes on -/
  wake : Alarm
  rest : Activity EventKind StepResult

inductive JobPhase where
  | starting
  | working (w : Working)
  | backingOff (wake : Alarm) (last : StepResult)

structure Job where
  step : Step
  /-- the variables at the moment of dispatch, which all attempts see -/
  «variables» : List (String × Value)
  attempt : Nat := 1
  retriesLeft : Nat
  backoffMs : Nat
  /-- the results of the attempts that were followed by another one -/
  superseded : List StepResult := []
  phase : JobPhase := .starting

/-- What a job ends with. -/
inductive JobOutcome where
  | finished (result : StepResult) (superseded : List StepResult)
  | panicked (message : String)

/-- A job after a poll: it waits again, or it has ended. -/
inductive Polled where
  | waiting (j : Job)
  | ended (outcome : JobOutcome)

namespace Job

/-- A new job for a step. -/
def ofStep (p : Plan) (s : Step) (vars : List (String × Value)) : Job where
  step := s
  «variables» := vars
  retriesLeft := p.retry.retries
  backoffMs := p.retry.initialBackoffMs

def entry (j : Job) (now : Nat) (kind : EventKind) : LogEntry :=
  ⟨now, some j.step.id, some j.attempt, kind⟩

/-- The result of an attempt that did not come to one of its own. -/
def broken (j : Job) (e : StepError) (startedAt now : Nat) : StepResult :=
  (StepResult.failed j.step.id j.attempt e .unevaluated).between startedAt now

/-- How an attempt goes on up to its next wait. -/
inductive Stretch where
  | result (r : StepResult)
  | panicked (message : String)
  | asleep (w : Working)

/-- The error of an attempt that is cut off. -/
def cutError (p : Plan) (j : Job) (w : Working) : StepError :=
  if w.byDeadline then .deadline else .timeout (p.timeoutSeconds j.step)

/-- Goes on with what is left of an attempt. It ends when it is done, even in the moment in which
it would be cut off. -/
def goOn (p : Plan) (now turn : Nat) (j : Job) (w : Working) : List LogEntry × Stretch :=
  let (events, halt) := w.rest.advance
  let log := events.map (j.entry now)
  match halt with
  | .done r => (log, .result (r.between w.startedAt now))
  | .panic message => (log, .panicked message)
  | .asleep ms rest =>
    if w.cut.rings now then (log, .result (j.broken (j.cutError p w) w.startedAt now))
    else (log, .asleep { w with wake := ⟨now + ms, turn⟩, rest })

/-- Begins an attempt. Nothing begins after the deadline, and a cancelled attempt ends where it
begins. -/
def start (p : Plan) (now turn : Nat) (cancelled : Bool) (j : Job) : List LogEntry × Stretch :=
  if p.isPastDeadline now then ([], .result (j.broken .deadline now now))
  else
    let started := j.entry now .stepStarted
    if cancelled then ([started], .result (j.broken .cancelled now now))
    else
      let timeout := p.timeoutMs j.step
      let byDeadline := match p.deadline with
        | some deadline => decide (deadline - now < timeout)
        | none => false
      let budget := match p.deadline with
        | some deadline => min (deadline - now) timeout
        | none => timeout
      let (log, stretch) := j.goOn p now turn {
        startedAt := now
        cut := ⟨now + budget, turn⟩
        byDeadline
        wake := ⟨now, turn⟩
        rest := p.attempt j.variables j.step j.attempt }
      (started :: log, stretch)

/-- Whether the result of an attempt may be followed by another attempt. -/
def mayRetry (cancelled : Bool) (r : StepResult) : Bool :=
  r.isFailed && !cancelled && r.errorKind.any StepErrorKind.isRetryable

/-- The job for the next attempt. -/
def next (p : Plan) (j : Job) (r : StepResult) : Job :=
  { j with
    attempt := j.attempt + 1
    backoffMs := p.retry.nextBackoffMs j.backoffMs
    superseded := j.superseded ++ [{ r with status := .retried }]
    phase := .starting }

def retriedEntry (j : Job) (now : Nat) (r : StepResult) : LogEntry :=
  j.entry now (.stepRetried (r.error.getD (.handler "")) j.backoffMs)

/-- Goes on from the result of an attempt: the job ends with it, waits for the next attempt, or
begins it at once. No more attempts follow than there are retries left. -/
def conclude (p : Plan) (now turn : Nat) (cancelled : Bool) :
    (retriesLeft : Nat) → Job → StepResult → List LogEntry × Polled
  | 0, j, r => ([], .ended (.finished r j.superseded))
  | left + 1, j, r =>
    if mayRetry cancelled r then
      let retried := j.retriedEntry now r
      let j := { j with retriesLeft := left }
      if 0 < j.backoffMs then
        ([retried], .waiting { j with phase := .backingOff ⟨now + j.backoffMs, turn⟩ r })
      else
        let following := j.next p r
        match following.start p now turn cancelled with
        | (log, .panicked message) => (retried :: log, .ended (.panicked message))
        | (log, .asleep w) => (retried :: log, .waiting { following with phase := .working w })
        | (log, .result r') =>
          let (rest, polled) := conclude p now turn cancelled left following r'
          (retried :: log ++ rest, polled)
    else ([], .ended (.finished r j.superseded))

/-- Goes on from where a stretch of an attempt has led. -/
def settle (p : Plan) (now turn : Nat) (cancelled : Bool) (j : Job) :
    List LogEntry × Stretch → List LogEntry × Polled
  | (log, .panicked message) => (log, .ended (.panicked message))
  | (log, .asleep w) => (log, .waiting { j with phase := .working w })
  | (log, .result r) =>
    let (rest, polled) := j.conclude p now turn cancelled j.retriesLeft r
    (log ++ rest, polled)

/-- Polls a job. A cancelled one ends, whatever it waits for. -/
def poll (p : Plan) (now turn : Nat) (cancelled : Bool) (j : Job) : List LogEntry × Polled :=
  match j.phase with
  | .starting => j.settle p now turn cancelled (j.start p now turn cancelled)
  | .working w =>
    if cancelled then
      j.settle p now turn cancelled ([], .result (j.broken .cancelled w.startedAt now))
    else if w.wake.rings now then j.settle p now turn cancelled (j.goOn p now turn w)
    else if w.cut.rings now then
      j.settle p now turn cancelled ([], .result (j.broken (j.cutError p w) w.startedAt now))
    else ([], .waiting j)
  | .backingOff wake last =>
    if cancelled then ([], .ended (.finished last j.superseded))
    else if wake.rings now then
      let following := j.next p last
      following.settle p now turn cancelled (following.start p now turn cancelled)
    else ([], .waiting j)

/-- The moments at which a waiting job wakes up. -/
def alarms (j : Job) : List Alarm :=
  match j.phase with
  | .starting => []
  | .working w => [w.wake, w.cut]
  | .backingOff wake _ => [wake]

/-- Whether polling the job now makes it go on. -/
def isReady (now : Nat) (cancelled : Bool) (j : Job) : Bool :=
  match j.phase with
  | .starting => true
  | _ => cancelled || j.alarms.any (Alarm.rings · now)

end Job
end Playbook
