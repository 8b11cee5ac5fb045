import Playbook.Proofs.Run.Marks
import Playbook.Proofs.Run.Reason
import Playbook.Proofs.Run.Summary

/-!
The grammar of traces. The events of a debugged run are numbered from one without gaps; the first one
is its start and the last one its end. Of each step they tell attempt after attempt, each in its
course, and then the verdict on the step, which is that of its result.
-/
namespace Playbook

open Trace (Event EventKind)

/-- What an event or an entry tells: of which step, of which attempt, and what. -/
abbrev Telling := Option String × Option Nat × EventKind

def Trace.Event.telling (e : Event) : Telling := (e.stepId, e.attempt, e.kind)

def LogEntry.telling (e : LogEntry) : Telling := (e.stepId, e.attempt, e.kind)

/-- The events tell what the entries tell, one for one. -/
def Retold (events : List Event) (log : List LogEntry) : Prop :=
  events.map Event.telling = log.map LogEntry.telling

namespace Retold

variable {events : List Event} {log : List LogEntry}

theorem filter (h : Retold events log) (P : Telling → Bool) :
    Retold (events.filter fun e => P e.telling) (log.filter fun e => P e.telling) := by
  have same := congrArg (List.filter P) h
  rw [List.filter_map, List.filter_map] at same
  exact same

theorem filterMap {β : Type} (h : Retold events log) (f : Telling → Option β) :
    (events.filterMap fun e => f e.telling) = log.filterMap fun e => f e.telling := by
  have same := congrArg (List.filterMap f) h
  rw [List.filterMap_map, List.filterMap_map] at same
  exact same

end Retold

namespace Trace

/-- The marks that some events tell of an attempt. -/
def marksOf (number : Nat) (events : List Event) : List Mark :=
  (events.filter fun e => e.attempt == some number).filterMap fun e => e.kind.mark?

/-- The events are numbered from one. They open with the start of a run and close with its end,
neither of which is told anywhere else. -/
structure Whole (events : List Event) : Prop where
  numbered : events.map Event.sequence = List.range' 1 events.length
  framed : ∃ first inner last, events = first :: (inner ++ [last]) ∧
    (∃ id version strategy, first.kind = .runStarted id version strategy) ∧
    (∃ status reason elapsedMs, last.kind = .runCompleted status reason elapsedMs) ∧
    ∀ e ∈ inner, e.kind.isFrame = false

end Trace

namespace ScheduledRun

variable {r : ScheduledRun}

end ScheduledRun

namespace RunState

variable {o : Surroundings} {p : Plan} {context : RunContext} {cancelled : Bool} {s : RunState}
  {events : List Event}

end RunState

end Playbook
