import Playbook.Run.Scheduled
import Playbook.Run.Table
import Playbook.Trace.Recorder

/-!
Runs side by side on one clock. Tasks are polled one at a time in the order in which they were
woken; a task that is polled goes on until it waits. Only when no task is left does time pass, up to
the next alarm, and alarms of one moment ring in the order in which they were set. What runs record
goes to one recorder. Every step makes some run lighter or the queue shorter, so the scheduler comes
to rest at every moment.
-/
namespace Playbook

open Json (Value)

/-- What runs are executed with. -/
structure Executor where
  dispatcher : Dispatcher
  settings : ExecutionSettings := {}

/-- The clock that deadlines are reckoned on. It went before the time of a scheduler began, and cannot
tell every second to come. -/
structure MachineClock where
  /-- what it reads when the time of the scheduler is zero, in milliseconds -/
  origin : Nat := 1000
  lastSecond : Nat := Nat.pow 2 63 - 1

/-- Whether the clock can tell the moment that lies some seconds after a moment of the scheduler. -/
def MachineClock.tells (c : MachineClock) (moment seconds : Nat) : Bool :=
  (c.origin + moment) / 1000 + seconds ≤ c.lastSecond

structure Scheduler where
  executor : Executor
  /-- the instant at which the clock stood at zero -/
  epoch : Instant
  clock : MachineClock := {}
  recorder : Trace.Recorder
  maxRetained : Nat := 1000
  now : Nat := 0
  turn : Nat := 0
  queue : List Task := []
  runs : List ScheduledRun := []
  table : RunTable := {}

namespace Scheduler

def isRun (id : String) (r : ScheduledRun) : Bool := r.id == id

def run? (w : Scheduler) (id : String) : Option ScheduledRun := w.runs.find? (isRun id)

/-- Whether a run goes no further. -/
def hasEnded (w : Scheduler) (id : String) : Bool :=
  match w.run? id with
  | some r => r.stage.hasEnded
  | none => true

/-- Wakes a task unless it is awake. -/
def wake (queue : List Task) (t : Task) : List Task := if t ∈ queue then queue else queue ++ [t]

/-- Submits a run; it does nothing before it is polled. -/
def submit (w : Scheduler) (id : String) (program : Program) (context : RunContext) : Scheduler :=
  { w with
    runs := w.runs ++ [{ id, startedAt := w.now, stage := .submitted program context }]
    table := w.table.insert id w.maxRetained
    queue := w.queue ++ [.loop id] }

/-- Shows what has come of a run, and makes room for others. -/
def settle (w : Scheduler) (id : String) (phase : RunPhase) : Scheduler :=
  { w with table := (w.table.settle id phase).evict w.maxRetained }

/-- Records the events of a run that are not recorded yet. -/
def record (w : Scheduler) (r : ScheduledRun) (log : List LogEntry) : Scheduler :=
  { w with recorder := (log.drop r.recorded).foldl (fun recorder e =>
      (recorder.record (w.epoch.addMillis (r.startedAt + e.moment)) r.id e.stepId e.attempt
        e.kind).1) w.recorder }

/-- The tasks that a change of a run's state wakes: the loop when a job has ended, new jobs, and
all jobs when the run is cancelled. -/
def woken (runId : String) (before after : RunState) : List Task :=
  let jobs := after.jobs.map fun j => Task.job runId j.step.id
  (if before.ended.length < after.ended.length then [.loop runId] else []) ++
    if after.cancelled && !before.cancelled then jobs ++ [.loop runId]
    else jobs.drop before.jobs.length

/-- Puts a run into another stage. -/
def put (w : Scheduler) (r : ScheduledRun) : Scheduler :=
  { w with runs := First.replace (isRun r.id) r w.runs }

/-- Puts a run into another state, records its events and wakes what has to go on. The result of a
run that is over is shown. -/
def advanceRun (w : Scheduler) (r : ScheduledRun) (p : Plan) (before after : RunState) : Scheduler :=
  let w := (w.record r after.log).put
    { r with stage := .active p after, recorded := after.log.length }
  let w := { w with queue := (woken r.id before after).foldl wake w.queue, turn := w.turn + 1 }
  match after.result p (w.epoch.addMillis r.startedAt) with
  | some result => w.settle r.id (.finished result)
  | none => w

/-- Begins a submitted run. It breaks off if the clock cannot tell its deadline. -/
def beginRun (w : Scheduler) (r : ScheduledRun) (program : Program) (context : RunContext) :
    Scheduler :=
  let d := w.executor.dispatcher
  match Plan.permit d.registry d.evaluator program with
  | .error cause => (w.put { r with stage := .rejected cause }).settle r.id (.rejected cause.message)
  | .ok () =>
    let p := Plan.make d w.executor.settings program {
      runId := r.id
      tenantId := context.tenantId
      userId := context.userId
      events := context.events
      now := context.now
      personality := program.personality }
    let s := RunState.start p context r.cancelled
    let debug := program.tracking.storeDebugInfo || context.debugMode
    let recorder := w.recorder.beginRun r.id program.id program.version
      program.tracking.enableTracking debug
    let w := { w with recorder }
    if program.execution.runDeadlineSeconds.any (!w.clock.tells r.startedAt ·) then
      (w.record r (s.log.take 1)).put { r with stage := .crashed }
    else (w.record r s.log).put { r with stage := .active p s, recorded := s.log.length }

/-- One step of a task, or none when it has to wait. -/
def act? (w : Scheduler) : Task → Option Scheduler
  | .loop id =>
    match w.run? id with
    | none => none
    | some r =>
      match r.stage with
      | .submitted program context => some (w.beginRun r program context)
      | .active p s => (s.act? p).map (w.advanceRun r p s)
      | _ => none
  | .job id stepId =>
    match w.run? id with
    | none => none
    | some r =>
      match r.stage with
      | .active p s => (s.poll? p w.turn stepId).map (w.advanceRun r p s)
      | _ => none

/-! ### Coming to rest -/

/-- The sum of a measure over all stages. -/
def total (f : Stage → Nat) (runs : List ScheduledRun) : Nat :=
  sumOf (fun r => f r.stage) runs

/-- The weight of all runs; the length of the queue comes after it. -/
def weight (w : Scheduler) : Nat × Nat × Nat × Nat × Nat :=
  (total Stage.unbegun w.runs, total (Stage.share RunState.undecided) w.runs,
    total (Stage.share RunState.promised) w.runs, total (Stage.share RunState.effort) w.runs,
    w.queue.length)

/-- The order in which weights are compared. -/
instance : WellFoundedRelation (Nat × Nat × Nat × Nat × Nat) := inferInstance

@[simp] theorem runs_settle (w : Scheduler) (id : String) (phase : RunPhase) :
    (w.settle id phase).runs = w.runs := rfl

@[simp] theorem runs_record (w : Scheduler) (r : ScheduledRun) (log : List LogEntry) :
    (w.record r log).runs = w.runs := rfl

theorem runs_advanceRun (w : Scheduler) (r : ScheduledRun) (p : Plan) (before after : RunState) :
    (w.advanceRun r p before after).runs =
      First.replace (isRun r.id) { r with stage := .active p after, recorded := after.log.length }
        w.runs := by
  unfold advanceRun
  simp only
  split <;> rfl

theorem run?_id {w : Scheduler} {id : String} {r : ScheduledRun} (h : w.run? id = some r) :
    r.id = id := by
  simpa [isRun] using List.find?_some h

/-- A state of one run that is lighter makes the scheduler lighter. -/
theorem advanceRun_lighter {w : Scheduler} {id : String} {r : ScheduledRun} {p : Plan}
    {s s' : RunState} (hr : w.run? id = some r) (hs : r.stage = .active p s)
    (h : s'.Lighter s) :
    WellFoundedRelation.rel (w.advanceRun r p s s').weight w.weight := by
  have hid := run?_id hr
  subst hid
  have sums (f : Stage → Nat) : total f (w.advanceRun r p s s').runs + f (.active p s) =
      total f w.runs + f (.active p s') := by
    rw [runs_advanceRun, ← hs]
    exact First.sum_replace (fun r => f r.stage) hr
  have h0 := sums Stage.unbegun
  have h1 := sums (Stage.share RunState.undecided)
  have h2 := sums (Stage.share RunState.promised)
  have h3 := sums (Stage.share RunState.effort)
  simp only [Stage.unbegun, Stage.share] at h0 h1 h2 h3
  have same {n m k : Nat} (h : n + k = m + k) : n = m := Nat.add_right_cancel h
  have less {n m k l : Nat} (h : n + k = m + l) (hl : l < k) : n < m := by omega
  unfold weight
  rw [same h0]
  apply Prod.Lex.right
  rcases h with hu | ⟨hu, hp | ⟨hp, he⟩⟩
  · exact Prod.Lex.left _ _ (less h1 hu)
  · rw [hu] at h1
    rw [same h1]
    exact Prod.Lex.right _ (Prod.Lex.left _ _ (less h2 hp))
  · rw [hu] at h1
    rw [hp] at h2
    rw [same h1, same h2]
    exact Prod.Lex.right _ (Prod.Lex.right _ (Prod.Lex.left _ _ (less h3 he)))

theorem beginRun_lighter {w : Scheduler} {id : String} {r : ScheduledRun} {program : Program}
    {context : RunContext} (hr : w.run? id = some r) (hs : r.stage = .submitted program context) :
    WellFoundedRelation.rel (w.beginRun r program context).weight w.weight := by
  have hid := run?_id hr
  subst hid
  have falls : ∀ r' : ScheduledRun, r'.stage.unbegun = 0 → ∀ w' : Scheduler,
      w'.runs = First.replace (isRun r.id) r' w.runs →
      WellFoundedRelation.rel w'.weight w.weight := by
    intro r' h' w' hw
    have := First.sum_replace (fun r => Stage.unbegun r.stage) (a := r') hr
    rw [hs, h', ← hw] at this
    exact Prod.Lex.left _ _ (Nat.lt_of_succ_le (Nat.le_of_eq this))
  unfold beginRun
  simp only
  split
  · exact falls _ rfl _ rfl
  · split
    · exact falls _ rfl _ rfl
    · exact falls _ rfl _ rfl

theorem act_lighter {w w' : Scheduler} {t : Task} (h : w.act? t = some w') :
    WellFoundedRelation.rel w'.weight w.weight := by
  cases t with
  | loop id =>
    simp only [act?] at h
    split at h
    · simp at h
    · next r hr =>
      split at h
      · next hs => cases h; exact beginRun_lighter hr hs
      · next hs =>
        obtain ⟨s', hs', rfl⟩ := Option.map_eq_some_iff.1 h
        exact advanceRun_lighter hr hs (RunState.act_lighter hs')
      · simp at h
  | job id stepId =>
    simp only [act?] at h
    split at h
    · simp at h
    · next r hr =>
      split at h
      · next hs =>
        obtain ⟨s', hs', rfl⟩ := Option.map_eq_some_iff.1 h
        exact advanceRun_lighter hr hs (RunState.poll_lighter hs')
      · simp at h

/-! ### Time -/

def alarms (w : Scheduler) : List (Alarm × Task) := w.runs.flatMap ScheduledRun.alarms

/-- The moment of the next alarm. -/
def nextDue? (w : Scheduler) : Option Nat := (w.alarms.map fun a => a.1.due).min?

/-- Lets time pass up to a moment and wakes the jobs whose alarms ring then, in the order in which
the alarms were set. -/
def elapseTo (w : Scheduler) (moment : Nat) : Scheduler :=
  let ringing := w.alarms.filter fun a => a.1.rings moment
  let ordered := ringing.mergeSort fun a b => a.1.turn ≤ b.1.turn
  { w with
    now := max w.now moment
    runs := w.runs.map (ScheduledRun.elapseTo moment)
    queue := (ordered.map Prod.snd).foldl wake w.queue }

/-- The next thing that happens: the first task of the queue goes on, or leaves the queue because it
has to wait; when the queue is empty time passes up to the next alarm, if that is early enough. -/
def step? (early : Nat → Bool) (w : Scheduler) : Option Scheduler :=
  match w.queue with
  | t :: rest => some ((w.act? t).getD { w with queue := rest })
  | [] =>
    match w.nextDue? with
    | some due => if early due then some (w.elapseTo due) else none
    | none => none

theorem total_elapseTo {f : Stage → Nat} {moment : Nat}
    (h : ∀ r : ScheduledRun, f (r.elapseTo moment).stage = f r.stage) (w : Scheduler) :
    total f (w.elapseTo moment).runs = total f w.runs := by
  simp [total, elapseTo, h]

/-- When an alarm rings the scheduler gets lighter. -/
theorem elapseTo_lighter {w : Scheduler} {due : Nat} (h : w.nextDue? = some due) :
    WellFoundedRelation.rel (w.elapseTo due).weight w.weight := by
  have falls : total (Stage.share RunState.effort) (w.elapseTo due).runs <
      total (Stage.share RunState.effort) w.runs := by
    simp only [total, elapseTo, sumOf_map]
    refine sumOf_lt_sumOf (fun r _ => r.effort_elapseTo_le due) ?_
    obtain ⟨_, ha, rfl⟩ := List.mem_map.1 (List.min?_mem h)
    obtain ⟨r, hr, ha⟩ := List.mem_flatMap.1 ha
    exact ⟨r, hr, ScheduledRun.effort_elapseTo_lt ha⟩
  unfold weight
  rw [total_elapseTo (ScheduledRun.unbegun_elapseTo due),
    total_elapseTo (ScheduledRun.share_elapseTo (fun _ _ => rfl) due),
    total_elapseTo (ScheduledRun.share_elapseTo (fun _ _ => rfl) due)]
  exact Prod.Lex.right _ (Prod.Lex.right _ (Prod.Lex.right _ (Prod.Lex.left _ _ falls)))

/-- Whatever happens makes the scheduler lighter. -/
theorem step_lighter {early : Nat → Bool} {w w' : Scheduler} (h : w.step? early = some w') :
    WellFoundedRelation.rel w'.weight w.weight := by
  unfold step? at h
  split at h
  · next t rest hq =>
    cases ha : w.act? t with
    | some w'' =>
      simp only [ha, Option.getD_some, Option.some.injEq] at h
      exact h ▸ act_lighter ha
    | none =>
      simp only [ha, Option.getD_none, Option.some.injEq] at h
      subst h
      exact Prod.Lex.right _ (Prod.Lex.right _ (Prod.Lex.right _ (Prod.Lex.right _ (hq ▸ Nat.lt_succ_self _))))
  · split at h
    · next hd =>
      split at h
      · cases h; exact elapseTo_lighter hd
      · simp at h
    · simp at h

/-- Goes on while there is something to do and nothing that is waited for has come about. -/
def runUntil (awaited : Scheduler → Bool) (early : Nat → Bool) (w : Scheduler) : Scheduler :=
  if awaited w then w
  else
    match _h : w.step? early with
    | some w' => w'.runUntil awaited early
    | none => w
termination_by w.weight
decreasing_by exact step_lighter _h

/-- Goes on until a run has ended. -/
def join (id : String) (w : Scheduler) : Scheduler :=
  w.runUntil (fun w => w.hasEnded id) fun _ => true

/-- Goes on until a run has ended, and reads the events of a subscription as they come. -/
def joinFollowing (id : String) (s : Trace.Subscription) (seen : List Trace.Event) (w : Scheduler) :
    Scheduler × List Trace.Event :=
  let (events, s) := w.recorder.bus.drain s
  let seen := seen ++ events
  if w.hasEnded id then (w, seen)
  else
    match _h : w.step? fun _ => true with
    | some w' => w'.joinFollowing id s seen
    | none => (w, seen)
termination_by w.weight
decreasing_by exact step_lighter _h

/-- Lets time pass up to a moment. What happens before it happens; tasks that are awake at the
moment itself are not polled. -/
def advanceTo (moment : Nat) (w : Scheduler) : Scheduler :=
  (w.runUntil (fun _ => false) (· < moment)).elapseTo moment

/-- Cancels a run, which wakes all of its tasks. -/
def cancel (id : String) (w : Scheduler) : Scheduler :=
  match w.run? id with
  | none => w
  | some r =>
    match r.stage with
    | .active p s => w.advanceRun { r with cancelled := true } p s s.cancel
    | _ => w.put { r with cancelled := true }

/-- The result of a run that is over. -/
def result? (w : Scheduler) (id : String) : Option RunResult := do
  let r ← w.run? id
  match r.stage with
  | .active p s => s.result p (w.epoch.addMillis r.startedAt)
  | _ => none

end Scheduler
end Playbook
