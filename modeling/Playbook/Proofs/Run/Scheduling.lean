import Playbook.Proofs.Program.Clean
import Playbook.Proofs.Run.Move
import Playbook.Run.Scheduler

/-!
Runs side by side. Whatever happens to a scheduler, each of its runs does nothing but move: a task
that goes on is an act of the loop or a poll of a job, and beside that the run may be cancelled, and
time passes. So every run that has begun is one of a program without blocking issues, in a state
that its plan reaches.
-/
namespace Playbook

/-- A stage to which a run can come: if it has begun, its program may run, and it has only moved
since. -/
def Stage.Genuine (x : Executor) : Stage → Prop
  | .active p s => ∃ program context scope cancelled,
      (program.status ≠ .archived ∧
        program.Clean x.dispatcher.registry x.dispatcher.evaluator) ∧
      p = Plan.make x.dispatcher x.settings program scope ∧
      Reaches .free p (RunState.start p context cancelled) s
  | _ => True

theorem Stage.Genuine.move {x : Executor} {p : Plan} {s t : RunState}
    (h : Genuine x (.active p s)) (m : Move .free p s t) : Genuine x (.active p t) := by
  obtain ⟨program, context, scope, cancelled, permitted, plan, reached⟩ := h
  exact ⟨program, context, scope, cancelled, permitted, plan, reached.tail m⟩

theorem ScheduledRun.genuine_elapseTo {x : Executor} {r : ScheduledRun} (h : r.stage.Genuine x)
    (moment : Nat) : (r.elapseTo moment).stage.Genuine x := by
  unfold elapseTo
  split
  · next active =>
    rw [active] at h
    exact h.move (.elapse trivial)
  · exact h

namespace Scheduler

/-- What can happen to a scheduler. -/
inductive Happens (w : Scheduler) : Scheduler → Prop
  | submit (id : String) (program : Program) (context : RunContext) :
      Happens w (w.submit id program context)
  | cancel (id : String) : Happens w (w.cancel id)
  | step {early : Nat → Bool} {w' : Scheduler} (h : w.step? early = some w') : Happens w w'
  | elapse (moment : Nat) : Happens w (w.elapseTo moment)

/-- How a task goes on: a submitted run begins, or a run that has begun moves. -/
inductive Acts (w : Scheduler) : Task → Scheduler → Prop
  | begins {r : ScheduledRun} {program : Program} {context : RunContext}
      (found : w.run? r.id = some r) (submitted : r.stage = .submitted program context) :
      Acts w (.loop r.id) (w.beginRun r program context)
  | loop {r : ScheduledRun} {p : Plan} {s t : RunState} (found : w.run? r.id = some r)
      (active : r.stage = .active p s) (acts : s.act? p = some t) :
      Acts w (.loop r.id) (w.advanceRun r p s t)
  | job {r : ScheduledRun} {p : Plan} {s t : RunState} {stepId : String}
      (found : w.run? r.id = some r) (active : r.stage = .active p s)
      (polls : s.poll? p w.turn stepId = some t) :
      Acts w (.job r.id stepId) (w.advanceRun r p s t)

/-- What happens next: the first task of the queue goes on, or leaves the queue; or time passes. -/
inductive Steps (w : Scheduler) : Scheduler → Prop
  | goes {t : Task} {rest : List Task} {w' : Scheduler} (queue : w.queue = t :: rest)
      (acts : Acts w t w') : Steps w w'
  | waits {t : Task} {rest : List Task} (queue : w.queue = t :: rest) (waits : w.act? t = none) :
      Steps w { w with queue := rest }
  | elapses {due : Nat} (queue : w.queue = []) (next : w.nextDue? = some due) :
      Steps w (w.elapseTo due)

variable {x : Executor} {w w' : Scheduler}

theorem acts_of_act? {t : Task} (h : w.act? t = some w') : Acts w t w' := by
  cases t with
  | loop id =>
    simp only [act?] at h
    split at h
    · cases h
    · next r found =>
      obtain rfl := run?_id found
      split at h
      · next submitted =>
        cases h
        exact .begins found submitted
      · next active =>
        obtain ⟨t, acts, rfl⟩ := Option.map_eq_some_iff.1 h
        exact .loop found active acts
      · cases h
  | job id stepId =>
    simp only [act?] at h
    split at h
    · cases h
    · next r found =>
      obtain rfl := run?_id found
      split at h
      · next active =>
        obtain ⟨t, polls, rfl⟩ := Option.map_eq_some_iff.1 h
        exact .job found active polls
      · cases h

theorem steps_of_step? {early : Nat → Bool} (h : w.step? early = some w') : Steps w w' := by
  unfold step? at h
  split at h
  · next t rest queue =>
    cases acts : w.act? t with
    | some w'' =>
      rw [acts] at h
      cases h
      exact .goes queue (acts_of_act? acts)
    | none =>
      rw [acts] at h
      cases h
      exact .waits queue acts
  · next queue =>
    split at h
    · next next =>
      split at h
      · cases h
        exact .elapses queue next
      · cases h
    · cases h

/-- A run that is replaced is found in its new form, the others as they were. -/
theorem run?_of_replace {r r' : ScheduledRun} (found : w.run? r.id = some r)
    (runs : w'.runs = First.replace (isRun r.id) r' w.runs) (same : r'.id = r.id) :
    w'.run? r.id = some r' ∧ ∀ id, id ≠ r.id → w'.run? id = w.run? id := by
  constructor
  · unfold run? at found ⊢
    rw [runs]
    exact First.find?_replace found (by simp [isRun, same])
  · intro id other
    unfold run?
    rw [runs]
    refine First.find?_replace_of_disjoint (fun x hx => ?_) ?_ _
    · simpa [isRun, show x.id = r.id by simpa [isRun] using hx] using other.symm
    · simpa [isRun, same] using other.symm

theorem run?_elapseTo (w : Scheduler) (moment : Nat) (id : String) :
    (w.elapseTo moment).run? id = (w.run? id).map (ScheduledRun.elapseTo moment) := by
  have same : isRun id ∘ ScheduledRun.elapseTo moment = isRun id := by
    funext r
    unfold Function.comp ScheduledRun.elapseTo isRun
    split <;> rfl
  unfold run? Scheduler.elapseTo
  rw [List.find?_map, same]

theorem run?_submit (w : Scheduler) (id : String) (program : Program) (context : RunContext)
    (x : String) : (w.submit id program context).run? x = (w.run? x).or
      (if id = x then some { id, startedAt := w.now, stage := .submitted program context }
        else none) := by
  unfold run? Scheduler.submit
  rw [List.find?_append]
  by_cases same : id = x <;> simp [isRun, same]

/-- All runs of the scheduler have come to their stages by its executor. -/
structure AllGenuine (x : Executor) (w : Scheduler) : Prop where
  executor : w.executor = x
  runs : ∀ r ∈ w.runs, r.stage.Genuine x

theorem AllGenuine.of_replace (h : AllGenuine x w) {matching : ScheduledRun → Bool}
    {r : ScheduledRun} (executor : w'.executor = x)
    (runs : w'.runs = First.replace matching r w.runs) (genuine : r.stage.Genuine x) :
    AllGenuine x w' where
  executor := executor
  runs r' hr' := by
    rw [runs] at hr'
    rcases First.mem_of_mem_replace hr' with rfl | hr'
    · exact genuine
    · exact h.runs r' hr'

theorem AllGenuine.advanceRun (h : AllGenuine x w) (r : ScheduledRun) {p : Plan} (s : RunState)
    {t : RunState} (genuine : Stage.Genuine x (.active p t)) :
    AllGenuine x (w.advanceRun r p s t) := by
  refine h.of_replace ?_ (runs_advanceRun w r p s t) genuine
  unfold Scheduler.advanceRun
  simp only
  split <;> exact h.executor

/-- A submitted run begins: it is rejected, breaks off, or stands at the start of its plan. -/
theorem AllGenuine.beginRun (h : AllGenuine x w) (r : ScheduledRun) (program : Program)
    (context : RunContext) : AllGenuine x (w.beginRun r program context) := by
  obtain rfl := h.executor
  unfold Scheduler.beginRun
  simp only
  split
  · exact h.of_replace rfl rfl trivial
  · next permitted =>
    split
    · exact h.of_replace rfl rfl trivial
    · exact h.of_replace rfl rfl
        ⟨program, context, _, r.cancelled, permit_eq_ok.1 permitted, rfl, .refl⟩

theorem AllGenuine.act (h : AllGenuine x w) {t : Task} (acts : Acts w t w') :
    AllGenuine x w' := by
  have stage : ∀ {id r}, w.run? id = some r → r.stage.Genuine x := fun found =>
    h.runs _ (List.mem_of_find?_eq_some found)
  cases acts with
  | begins => exact h.beginRun ..
  | @loop r p s t found active acts =>
    have genuine := stage found
    rw [active] at genuine
    exact h.advanceRun r s (genuine.move (.act acts))
  | @job r p s t _ found active polls =>
    have genuine := stage found
    rw [active] at genuine
    exact h.advanceRun r s (genuine.move (.poll polls))

theorem AllGenuine.elapseTo (h : AllGenuine x w) (moment : Nat) :
    AllGenuine x (w.elapseTo moment) where
  executor := h.executor
  runs r' hr' := by
    obtain ⟨r, hr, rfl⟩ := List.mem_map.1 hr'
    exact ScheduledRun.genuine_elapseTo (h.runs r hr) moment

theorem AllGenuine.cancel (h : AllGenuine x w) (id : String) : AllGenuine x (w.cancel id) := by
  unfold Scheduler.cancel
  split
  · exact h
  · next r found =>
    have genuine := h.runs r (List.mem_of_find?_eq_some found)
    split
    · next p s active =>
      rw [active] at genuine
      exact h.advanceRun _ s (genuine.move (.cancel trivial))
    · exact h.of_replace h.executor rfl genuine

/-- Whatever happens, the runs of a scheduler only move. -/
theorem AllGenuine.happens (h : AllGenuine x w) (m : Happens w w') : AllGenuine x w' := by
  cases m with
  | submit id program context =>
    refine ⟨h.executor, fun r hr => ?_⟩
    rcases List.mem_append.1 hr with hr | hr
    · exact h.runs r hr
    · rw [List.mem_singleton.1 hr]
      trivial
  | cancel id => exact h.cancel id
  | elapse moment => exact h.elapseTo moment
  | step m =>
    cases steps_of_step? m with
    | goes _ acts => exact h.act acts
    | waits => exact ⟨h.executor, h.runs⟩
    | elapses => exact h.elapseTo _

/-- Whatever happens to a scheduler, each of its runs that has begun is in a state that its plan
reaches. -/
theorem genuine_of_happens (empty : w.runs = []) (h : Relation.ReflTransGen Happens w w') :
    AllGenuine w.executor w' := by
  induction h with
  | refl => exact ⟨rfl, fun r hr => by simp [empty] at hr⟩
  | tail _ m ih => exact ih.happens m

/-- Going on is nothing but step after step. -/
theorem reflTransGen_runUntil {R : Scheduler → Scheduler → Prop} {early : Nat → Bool}
    (steps : ∀ w w', w.step? early = some w' → R w w') (awaited : Scheduler → Bool)
    (w : Scheduler) : Relation.ReflTransGen R w (w.runUntil awaited early) := by
  fun_induction runUntil awaited early w with
  | case1 w => exact .refl
  | case2 w _ w' step ih => exact .head (steps w w' step) ih
  | case3 w => exact .refl

/-- To join a run and follow it is nothing but step after step. -/
theorem reflTransGen_joinFollowing {R : Scheduler → Scheduler → Prop}
    (steps : ∀ w w', w.step? (fun _ => true) = some w' → R w w') (id : String)
    (s : Trace.Subscription) (seen : List Trace.Event) (w : Scheduler) :
    Relation.ReflTransGen R w (w.joinFollowing id s seen).1 := by
  induction s, seen, w using joinFollowing.induct id with
  | case1 s seen w events s' drained ended =>
    rw [joinFollowing, drained]
    dsimp only
    rw [if_pos ended]
  | case2 s seen w events s' drained seen' going w' step ih =>
    rw [joinFollowing, drained]
    dsimp only
    rw [if_neg going]
    split
    · next again =>
      cases step.symm.trans again
      exact .head (steps w w' step) ih
    · next stuck => cases step.symm.trans stuck
  | case3 s seen w events s' drained going stuck =>
    rw [joinFollowing, drained]
    dsimp only
    rw [if_neg going]
    split
    · next step => cases stuck.symm.trans step
    · exact .refl

end Scheduler
end Playbook
