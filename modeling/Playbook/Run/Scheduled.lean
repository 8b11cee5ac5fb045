import Playbook.Run.Weight

/-!
A run among others: it is submitted, begins, is rejected or goes on until it is over. Its own clock
starts when it is submitted, and the alarms of its jobs are seen on the clock that all runs share.
-/
namespace Playbook

inductive Stage where
  | submitted (program : Program) (context : RunContext)
  | active (plan : Plan) (state : RunState)
  | rejected (cause : Rejection)
  /-- the run broke off because the clock cannot tell its deadline -/
  | crashed

namespace Stage

/-- Whether nothing more will come of the run. -/
def isSettled : Stage → Bool
  | .active _ s => s.isOver
  | .rejected _ => true
  | _ => false

/-- Whether the run goes no further: it is settled or broke off. -/
def hasEnded : Stage → Bool
  | .crashed => true
  | s => s.isSettled

/-- A measure of the state of an active run; zero for others. -/
def share (f : RunState → Nat) : Stage → Nat
  | .active _ s => f s
  | _ => 0

/-- One for a run that has not begun. -/
def unbegun : Stage → Nat
  | .submitted .. => 1
  | _ => 0

end Stage

structure ScheduledRun where
  id : String
  /-- when the run was submitted -/
  startedAt : Nat
  cancelled : Bool := false
  /-- how many events of the run are recorded -/
  recorded : Nat := 0
  stage : Stage

/-- What is polled: the loop of a run, or one of its jobs. -/
inductive Task where
  | loop (runId : String)
  | job (runId stepId : String)
  deriving DecidableEq, Repr

namespace ScheduledRun

/-- The alarms of the jobs of a run that wait, with the tasks that they wake. -/
def alarms (r : ScheduledRun) : List (Alarm × Task) :=
  match r.stage with
  | .active _ s => (s.jobs.filter fun j => !j.isReady s.now s.cancelled).flatMap fun j =>
      j.alarms.map fun a => (⟨r.startedAt + a.due, a.turn⟩, Task.job r.id j.step.id)
  | _ => []

/-- Sets the clock of a run forward. -/
def elapseTo (moment : Nat) (r : ScheduledRun) : ScheduledRun :=
  match r.stage with
  | .active p s => { r with stage := .active p (s.elapse (moment - r.startedAt - s.now)) }
  | _ => r

theorem share_elapseTo {f : RunState → Nat} (h : ∀ s ms, f (RunState.elapse ms s) = f s)
    (moment : Nat) (r : ScheduledRun) :
    Stage.share f (r.elapseTo moment).stage = Stage.share f r.stage := by
  unfold elapseTo
  split
  · next hs => simp [hs, Stage.share, h]
  · rfl

theorem unbegun_elapseTo (moment : Nat) (r : ScheduledRun) :
    (r.elapseTo moment).stage.unbegun = r.stage.unbegun := by
  unfold elapseTo
  split
  · next hs => simp [hs, Stage.unbegun]
  · rfl

theorem effort_elapseTo_le (moment : Nat) (r : ScheduledRun) :
    Stage.share RunState.effort (r.elapseTo moment).stage ≤
      Stage.share RunState.effort r.stage := by
  unfold elapseTo
  split
  · next hs => simpa [hs, Stage.share] using RunState.effort_elapse_le _ _
  · exact Nat.le_refl _

/-- When an alarm of a run rings there is less left to do in the run. -/
theorem effort_elapseTo_lt {r : ScheduledRun} {alarm : Alarm} {task : Task}
    (h : (alarm, task) ∈ r.alarms) :
    Stage.share RunState.effort (r.elapseTo alarm.due).stage <
      Stage.share RunState.effort r.stage := by
  unfold alarms at h
  split at h
  · next hs =>
    obtain ⟨j, hj, h⟩ := List.mem_flatMap.1 h
    obtain ⟨a, ha, he⟩ := List.mem_map.1 h
    cases he
    obtain ⟨hj, waits⟩ := List.mem_filter.1 hj
    simp only [elapseTo, hs, Stage.share]
    refine RunState.effort_elapse_lt hj (by simpa using waits) ha ?_
    simp only [Alarm.rings, decide_eq_true_eq]
    omega
  · simp at h

end ScheduledRun
end Playbook
