import Playbook.Keyed
import Playbook.Retention
import Playbook.Run.Result

/-!
The table of runs: where each run stands, as long as it is shown. When too many runs are shown the
oldest ones that are settled go; a run that is running stays.
-/
namespace Playbook

/-- Where a run stands. -/
inductive RunPhase where
  | running
  | finished (result : RunResult)
  | rejected (message : String)

def RunPhase.isRunning : RunPhase → Bool
  | .running => true
  | _ => false

structure RunTable where
  phases : Keyed RunPhase := []
  /-- the runs in the order in which they were submitted -/
  order : List String := []

namespace RunTable

def phase? (t : RunTable) (runId : String) : Option RunPhase := Keyed.get? runId t.phases

def isRunning (t : RunTable) (runId : String) : Bool := (t.phase? runId).any RunPhase.isRunning

/-- Drops the oldest settled runs until at most `limit` are left, or one if that is none. -/
def evict (t : RunTable) (limit : Nat) : RunTable :=
  let settled := fun runId => !t.isRunning runId
  let surplus := t.phases.length - max limit 1
  { phases := t.phases.filter fun e => !(Retention.dropped settled surplus t.order).contains e.1
    order := Retention.drop settled surplus t.order }

/-- Shows a run that has just been submitted. -/
def insert (t : RunTable) (runId : String) (limit : Nat) : RunTable :=
  evict ⟨Keyed.put runId .running t.phases, t.order ++ [runId]⟩ limit

/-- Notes where a run that is still shown has come to. -/
def settle (t : RunTable) (runId : String) (phase : RunPhase) : RunTable :=
  if Keyed.contains runId t.phases then { t with phases := Keyed.put runId phase t.phases } else t

end RunTable
end Playbook
