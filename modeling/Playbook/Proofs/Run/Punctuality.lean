import Playbook.Proofs.Run.Clock
import Playbook.Proofs.Run.Scheduling

/-!
A scheduler sleeps only when there is nothing to do. Whatever can go on is in its queue, so where
the queue is empty everything waits; and its clock is set no further than to the next alarm. So each
of its runs is one on a virtual clock, and a run that is joined ends.
-/
namespace Playbook

namespace RunState

variable {p : Plan} {s t : RunState}

/-- The loop lets no time pass, and adds jobs behind those that there are. -/
theorem jobs_prefix_of_act (m : Act p s t) : s.jobs <+: t.jobs ∧ t.now = s.now := by
  cases m with
  | look | scanned | pass | skip | expire | again => exact ⟨List.prefix_refl _, rfl⟩
  | launch => exact ⟨List.prefix_append .., rfl⟩
  | leave =>
    unfold RunState.leave
    split <;> exact ⟨List.prefix_refl _, rfl⟩
  | takeIn | drain => exact ⟨jobs_takeIn .. ▸ List.prefix_refl _, now_takeIn ..⟩
  | finish =>
    have frame := sameFrame_skips s.pending Branch.cancelled
      (if s.fault.isSome then "run aborted after engine fault" else "run cancelled") s
    exact ⟨frame.jobs ▸ List.prefix_refl s.jobs, frame.now⟩

/-- Time alone does not let the loop go on. -/
theorem act?_elapse_eq_none_iff {ms : Nat} : (s.elapse ms).act? p = none ↔ s.act? p = none := by
  rw [act?_eq_none_iff, act?_eq_none_iff]
  rfl

/-- A poll lets the loop go on only where a job has ended. -/
theorem act?_of_poll {turn : Nat} {id : String} (m : Poll p turn id s t) (acts : t.act? p ≠ none) :
    s.act? p ≠ none ∨ s.ended.length < t.ended.length := by
  by_cases still : s.act? p = none
  · refine .inr (Nat.lt_of_not_le fun few => acts (act?_eq_none_iff.2 ?_))
    have frame := m.frame
    refine (act?_eq_none_iff.1 still).imp (fun ends => ?_) fun ⟨waits, ended, jobs⟩ => ?_
    · unfold isOver at *
      rwa [frame.control]
    · have none : t.ended = [] := List.eq_nil_of_length_eq_zero (by simpa [ended] using few)
      have same := frame.inFlight
      simp only [inFlight, ended, none, List.length_nil, Nat.add_zero] at same
      refine ⟨?_, none, fun empty => jobs (List.eq_nil_of_length_eq_zero ?_)⟩
      · unfold awaits at *
        rwa [frame.control, frame.cancelled]
      · simpa [empty] using same.symm
  · exact .inl still

/-- A job that waits after a poll is still that of its step. -/
theorem Coherent.step_of_waiting (hp : p.Sound) (ho : Coherent p s) {turn : Nat} {j j' : Job}
    {log : List LogEntry} (mem : j ∈ s.jobs)
    (polled : j.poll p s.now turn s.cancelled = (log, .waiting j')) : j'.step = j.step := by
  have after := (Job.kept_faithful hp s.now turn s.cancelled j.step j.variables).poll
    (ho.jobs j mem).2
  rw [polled] at after
  exact after.1

end RunState

namespace ScheduledRun

/-- What can go on in a run: its loop, or one of its jobs. -/
def Busy (r : ScheduledRun) (t : Task) : Prop :=
  match r.stage with
  | .submitted .. => t = .loop r.id
  | .active p s => t = .loop r.id ∧ s.act? p ≠ none ∨
      ∃ j ∈ s.jobs, t = .job r.id j.step.id ∧ j.isReady s.now s.cancelled = true
  | _ => False

end ScheduledRun

/-- A stage to which a run has come on a virtual clock. -/
def Stage.Patient : Stage → Prop
  | .active p s => p.Sound ∧ ∃ context cancelled,
      Reaches (.patient p) p (RunState.start p context cancelled) s
  | _ => True

theorem Stage.Patient.move {p : Plan} {s t : RunState} (h : Patient (.active p s))
    (m : Move (.patient p) p s t) : Patient (.active p t) := by
  obtain ⟨hp, context, cancelled, reached⟩ := h
  exact ⟨hp, context, cancelled, reached.tail m⟩

namespace Scheduler

/-- What can happen to a scheduler on its own clock: time passes only where its queue is empty, and
no further than to the next alarm. -/
inductive Passes (w : Scheduler) : Scheduler → Prop
  | submit (id : String) (program : Program) (context : RunContext) :
      Passes w (w.submit id program context)
  | cancel (id : String) : Passes w (w.cancel id)
  | step {early : Nat → Bool} {w' : Scheduler} (h : w.step? early = some w') : Passes w w'
  | elapse {moment : Nat} (idle : w.queue = [])
      (early : ∀ due, w.nextDue? = some due → moment ≤ due) : Passes w (w.elapseTo moment)

/-- Whatever can go on is in the queue, and each run has come to its stage on a virtual clock. -/
structure Awake (w : Scheduler) : Prop where
  queued : ∀ id r, w.run? id = some r → ∀ t, r.Busy t → t ∈ w.queue
  runs : ∀ id r, w.run? id = some r → r.stage.Patient

variable {w w' : Scheduler}

theorem mem_wake {queue : List Task} {t x : Task} : x ∈ wake queue t ↔ x ∈ queue ∨ x = t := by
  unfold wake
  split
  · next known => exact ⟨.inl, fun h => h.elim id fun same => same ▸ known⟩
  · simp

theorem mem_foldl_wake {queue tasks : List Task} {x : Task} :
    x ∈ tasks.foldl wake queue ↔ x ∈ queue ∨ x ∈ tasks := by
  induction tasks generalizing queue with
  | nil => simp
  | cons t rest ih => rw [List.foldl_cons, ih, mem_wake, List.mem_cons, or_assoc]

theorem queue_advanceRun (w : Scheduler) (r : ScheduledRun) (p : Plan) (s t : RunState) :
    (w.advanceRun r p s t).queue = (woken r.id s t).foldl wake w.queue := by
  unfold advanceRun
  simp only
  split <;> rfl

theorem mem_woken_of_ended {id : String} {s t : RunState} (h : s.ended.length < t.ended.length) :
    Task.loop id ∈ woken id s t := by
  simp [woken, h]

theorem mem_woken_of_cancelled {id : String} {s t : RunState} (calm : s.cancelled = false)
    (cut : t.cancelled = true) :
    Task.loop id ∈ woken id s t ∧ ∀ j ∈ t.jobs, Task.job id j.step.id ∈ woken id s t := by
  unfold woken
  simp only [calm, cut, Bool.not_false, Bool.and_self, if_true]
  refine ⟨by simp, fun j job => List.mem_append_right _ (List.mem_append_left _ ?_)⟩
  exact List.mem_map_of_mem job

theorem mem_woken_of_new {id : String} {s t : RunState} {new : List Job}
    (jobs : s.jobs ++ new = t.jobs) {j : Job} (mem : j ∈ new) :
    Task.job id j.step.id ∈ woken id s t := by
  unfold woken
  rw [← jobs, List.map_append]
  refine List.mem_append_right _ ?_
  have among : Task.job id j.step.id ∈ new.map fun j => Task.job id j.step.id :=
    List.mem_map_of_mem mem
  split
  · exact List.mem_append_left _ (List.mem_append_right _ among)
  · simpa using among

/-- One run changes, and what can go on in it then is in the queue. -/
theorem Awake.of_replace (h : Awake w) {r r' : ScheduledRun} (found : w.run? r.id = some r)
    (runs : w'.runs = First.replace (isRun r.id) r' w.runs) (same : r'.id = r.id)
    (queue : w.queue ⊆ w'.queue) (busy : ∀ t, r'.Busy t → t ∈ w'.queue)
    (patient : r'.stage.Patient) : Awake w' := by
  obtain ⟨replaced, kept⟩ := run?_of_replace found runs same
  refine ⟨fun id x hx task goes => ?_, fun id x hx => ?_⟩
  · by_cases own : id = r.id
    · subst own
      cases replaced.symm.trans hx
      exact busy task goes
    · exact queue (h.queued id x (kept id own ▸ hx) task goes)
  · by_cases own : id = r.id
    · subst own
      cases replaced.symm.trans hx
      exact patient
    · exact h.runs id x (kept id own ▸ hx)

/-- A run that moves wakes what can go on then and could not before. -/
theorem Awake.advanceRun (h : Awake w) {r : ScheduledRun} (found : w.run? r.id = some r) {p : Plan}
    {s t : RunState} (active : r.stage = .active p s) (m : Move (.patient p) p s t)
    (cancelled : Bool)
    (loop : t.act? p ≠ none → Task.loop r.id ∈ w.queue ∨ Task.loop r.id ∈ woken r.id s t)
    (jobs : ∀ j ∈ t.jobs, j.isReady t.now t.cancelled = true →
      Task.job r.id j.step.id ∈ w.queue ∨ Task.job r.id j.step.id ∈ woken r.id s t) :
    Awake (w.advanceRun { r with cancelled } p s t) := by
  have patient := h.runs r.id r found
  rw [active] at patient
  refine h.of_replace found (runs_advanceRun ..) rfl (fun x mem => ?_) (fun x busy => ?_)
    (patient.move m)
  · rw [queue_advanceRun, mem_foldl_wake]
    exact .inl mem
  · rw [queue_advanceRun, mem_foldl_wake]
    rcases busy with ⟨rfl, acts⟩ | ⟨j, job, rfl, ready⟩
    · exact loop acts
    · exact jobs j job ready

/-- A job that can go on after an act of the loop could do so before, or is woken. -/
theorem Awake.act (h : Awake w) {r : ScheduledRun} (found : w.run? r.id = some r) {p : Plan}
    {s t : RunState} (active : r.stage = .active p s) (acts : s.act? p = some t)
    (queued : Task.loop r.id ∈ w.queue) : Awake (w.advanceRun r p s t) := by
  refine h.advanceRun found active (.act acts) r.cancelled (fun _ => .inl queued)
    fun j job ready => ?_
  obtain ⟨⟨new, jobs⟩, now⟩ := RunState.jobs_prefix_of_act (RunState.act_of_act? acts)
  by_cases same : t.cancelled = s.cancelled
  · rcases List.mem_append.1 (jobs ▸ job) with old | added
    · rw [now, same] at ready
      refine .inl (h.queued r.id r found _ ?_)
      unfold ScheduledRun.Busy
      rw [active]
      exact .inr ⟨j, old, rfl, ready⟩
    · exact .inr (mem_woken_of_new jobs added)
  · have stays := (Move.act (o := .patient p) acts).onward.cancelled
    cases calm : s.cancelled with
    | true => exact absurd (calm ▸ stays calm) same
    | false =>
      have cut : t.cancelled = true := by simpa [calm] using same
      exact .inr ((mem_woken_of_cancelled calm cut).2 j job)

/-- A poll lets its own job go on, or the loop. -/
theorem Awake.poll (h : Awake w) {r : ScheduledRun} (found : w.run? r.id = some r) {p : Plan}
    {s t : RunState} (active : r.stage = .active p s) {turn : Nat} {stepId : String}
    (polls : s.poll? p turn stepId = some t) (queued : Task.job r.id stepId ∈ w.queue) :
    Awake (w.advanceRun r p s t) := by
  have busy : ∀ {x}, (x = Task.loop r.id ∧ s.act? p ≠ none ∨
      ∃ j ∈ s.jobs, x = .job r.id j.step.id ∧ j.isReady s.now s.cancelled = true) →
      x ∈ w.queue := by
    intro x goes
    refine h.queued r.id r found x ?_
    unfold ScheduledRun.Busy
    rw [active]
    exact goes
  have m := RunState.poll_of_poll? polls
  refine h.advanceRun found active (.poll polls) r.cancelled (fun acts => ?_) fun j job ready => ?_
  · exact (RunState.act?_of_poll m acts).imp (fun acts => busy (.inl ⟨rfl, acts⟩))
      mem_woken_of_ended
  · left
    cases m with
    | @waits j₀ j' log known _ polled =>
      rcases First.mem_of_mem_replace job with rfl | old
      · have patient := h.runs r.id r found
        rw [active] at patient
        obtain ⟨hp, _, _, reached⟩ := patient
        have ho := RunState.Orderly.of_reaches hp reached
        rw [ho.step_of_waiting hp (List.mem_of_find?_eq_some known) polled,
          RunState.id_of_find?_job known]
        exact queued
      · exact busy (.inr ⟨j, old, rfl, ready⟩)
    | ends => exact busy (.inr ⟨j, First.mem_of_mem_remove job, rfl, ready⟩)

theorem Awake.begin (h : Awake w) {r : ScheduledRun} (found : w.run? r.id = some r)
    {program : Program} {context : RunContext} (queued : Task.loop r.id ∈ w.queue) :
    Awake (w.beginRun r program context) := by
  unfold Scheduler.beginRun
  simp only
  split
  · exact h.of_replace found rfl rfl (fun _ mem => mem) (fun _ => False.elim) trivial
  · next permitted =>
    split
    · exact h.of_replace found rfl rfl (fun _ mem => mem) (fun _ => False.elim) trivial
    · refine h.of_replace found rfl rfl (fun _ mem => mem) (fun t busy => ?_)
        ⟨Plan.sound_make (permit_eq_ok.1 permitted).2 _ _, context, r.cancelled, .refl⟩
      rcases busy with ⟨rfl, -⟩ | ⟨j, job, -⟩
      · exact queued
      · simp at job

theorem Awake.goes (h : Awake w) {t : Task} (acts : Acts w t w') (queued : t ∈ w.queue) :
    Awake w' := by
  cases acts with
  | begins found => exact h.begin found queued
  | loop found active acts => exact h.act found active acts queued
  | job found active polls => exact h.poll found active polls queued

theorem Awake.cancel (h : Awake w) (id : String) : Awake (w.cancel id) := by
  unfold Scheduler.cancel
  split
  · exact h
  · next r found =>
    obtain rfl := run?_id found
    split
    · next p s active =>
      by_cases cut : s.cancelled = true
      · have same : s.cancel = s := by
          unfold RunState.cancel
          rw [← cut]
        have busy : ∀ x, r.Busy x → x ∈ w.queue := h.queued r.id r found
        unfold ScheduledRun.Busy at busy
        rw [active] at busy
        refine h.advanceRun found active (.cancel trivial) true (fun acts => ?_)
          fun j job ready => ?_
        · exact .inl (busy _ (.inl ⟨rfl, same ▸ acts⟩))
        · exact .inl (busy _ (.inr ⟨j, job, rfl, by rw [cut]; exact ready⟩))
      · obtain ⟨loop, jobs⟩ :=
          mem_woken_of_cancelled (t := s.cancel) (Bool.eq_false_iff.2 cut) rfl
        exact h.advanceRun found active (.cancel trivial) true (fun _ => .inr loop)
          fun j job _ => .inr (jobs j job)
    · exact h.of_replace found rfl rfl (fun _ mem => mem) (h.queued r.id r found)
        (h.runs r.id r found)

theorem mem_alarms {r : ScheduledRun} (found : w.run? r.id = some r) {p : Plan} {s : RunState}
    (active : r.stage = .active p s) {j : Job} (job : j ∈ s.jobs)
    (waits : j.isReady s.now s.cancelled = false) {a : Alarm} (set : a ∈ j.alarms) :
    (⟨r.startedAt + a.due, a.turn⟩, Task.job r.id j.step.id) ∈ w.alarms := by
  refine List.mem_flatMap.2 ⟨r, List.mem_of_find?_eq_some found, ?_⟩
  unfold ScheduledRun.alarms
  rw [active]
  have asleep : j ∈ s.jobs.filter fun j => !j.isReady s.now s.cancelled :=
    List.mem_filter.2 ⟨job, by simp [waits]⟩
  exact List.mem_flatMap.2 ⟨j, asleep, List.mem_map.2 ⟨a, set, rfl⟩⟩

/-- An alarm that is set rings no earlier than the next one. -/
theorem exists_nextDue {a : Alarm} {t : Task} (set : (a, t) ∈ w.alarms) :
    ∃ due, w.nextDue? = some due ∧ due ≤ a.due := by
  have among : a.due ∈ w.alarms.map fun a => a.1.due := List.mem_map.2 ⟨_, set, rfl⟩
  obtain ⟨due, next⟩ := Option.isSome_iff_exists.1 (List.isSome_min?_of_mem among)
  exact ⟨due, next, (List.min?_eq_some_iff.1 next).2 _ among⟩

/-- Where the queue is empty, everything in a run waits until the next alarm. -/
theorem Awake.rests (h : Awake w) (idle : w.queue = []) {moment : Nat}
    (early : ∀ due, w.nextDue? = some due → moment ≤ due) {r : ScheduledRun}
    (found : w.run? r.id = some r) {p : Plan} {s : RunState} (active : r.stage = .active p s) :
    s.Rests p (moment - r.startedAt - s.now) := by
  have asleep : ∀ x, ¬ r.Busy x := fun x busy => by
    simpa [idle] using h.queued r.id r found x busy
  unfold ScheduledRun.Busy at asleep
  rw [active] at asleep
  have waits : ∀ j ∈ s.jobs, j.isReady s.now s.cancelled = false := fun j job =>
    Bool.eq_false_iff.2 fun ready => asleep _ (.inr ⟨j, job, rfl, ready⟩)
  refine ⟨?_, waits, fun a set => ?_⟩
  · by_contra acts
    exact asleep _ (.inl ⟨rfl, acts⟩)
  · obtain ⟨j, job, woken⟩ := List.mem_flatMap.1 set
    obtain ⟨alarm, own, rfl⟩ := List.mem_map.1 woken
    have later : s.now < alarm.due := by
      by_contra passed
      have ready := RunState.isReady_of_rings own (by omega : alarm.due ≤ s.now) s.cancelled
      simp [waits j job] at ready
    obtain ⟨due, next, first⟩ := exists_nextDue (mem_alarms found active job (waits j job) own)
    have := early due next
    change due ≤ r.startedAt + alarm.due at first
    change s.now + (moment - r.startedAt - s.now) ≤ alarm.due
    omega

theorem mem_queue_elapseTo {moment : Nat} {a : Alarm} {t : Task} (set : (a, t) ∈ w.alarms)
    (rings : a.due ≤ moment) : t ∈ (w.elapseTo moment).queue := by
  unfold Scheduler.elapseTo
  refine mem_foldl_wake.2 (.inr (List.mem_map.2 ⟨(a, t), List.mem_mergeSort.2 ?_, rfl⟩))
  exact List.mem_filter.2 ⟨set, by simpa [Alarm.rings] using rings⟩

/-- A job that can go on later, but not now, has an alarm that rings until then. -/
theorem exists_ringing {j : Job} {now later : Nat} {cancelled : Bool}
    (waits : j.isReady now cancelled = false) (ready : j.isReady later cancelled = true) :
    ∃ a ∈ j.alarms, a.due ≤ later := by
  unfold Job.isReady at waits ready
  cases phase : j.phase with
  | starting => simp [phase] at waits
  | working | backingOff =>
    simp only [phase, Bool.or_eq_false_iff, Bool.or_eq_true, List.any_eq_true] at waits ready
    obtain ⟨a, set, rings⟩ := ready.resolve_left (by simp [waits.1])
    exact ⟨a, set, by simpa [Alarm.rings] using rings⟩

/-- When time passes, the alarms that ring wake what can go on then. -/
theorem Awake.elapseTo (h : Awake w) (idle : w.queue = []) {moment : Nat}
    (early : ∀ due, w.nextDue? = some due → moment ≤ due) : Awake (w.elapseTo moment) := by
  refine ⟨fun id x hx task busy => ?_, fun id x hx => ?_⟩
  · rw [run?_elapseTo] at hx
    obtain ⟨r, found, rfl⟩ := Option.map_eq_some_iff.1 hx
    obtain rfl := run?_id found
    have asleep : ¬ r.Busy task := fun goes => by
      simpa [idle] using h.queued r.id r found task goes
    unfold ScheduledRun.elapseTo at busy
    split at busy
    · next p s active =>
      have rests := h.rests idle early found active
      rcases busy with ⟨-, acts⟩ | ⟨j, job, rfl, ready⟩
      · exact absurd (RunState.act?_elapse_eq_none_iff.2 rests.still) acts
      · have waits := rests.idle j job
        obtain ⟨a, set, rings⟩ := exists_ringing waits ready
        have later : s.now < a.due := by
          by_contra passed
          simp [RunState.isReady_of_rings set (Nat.le_of_not_lt passed)] at waits
        refine mem_queue_elapseTo (mem_alarms found active job waits set) ?_
        change a.due ≤ s.now + (moment - r.startedAt - s.now) at rings
        change r.startedAt + a.due ≤ moment
        omega
    · exact absurd busy asleep
  · rw [run?_elapseTo] at hx
    obtain ⟨r, found, rfl⟩ := Option.map_eq_some_iff.1 hx
    obtain rfl := run?_id found
    have patient := h.runs r.id r found
    unfold ScheduledRun.elapseTo
    split
    · next active =>
      rw [active] at patient
      exact patient.move (.elapse (RunState.rests_iff.2 (h.rests idle early found active)))
    · exact patient

theorem Awake.act?_ne_none (h : Awake w) {r : ScheduledRun} (found : w.run? r.id = some r)
    {t : Task} (busy : r.Busy t) : w.act? t ≠ none := by
  have patient := h.runs r.id r found
  unfold ScheduledRun.Busy at busy
  split at busy
  · next submitted =>
    subst busy
    simp [act?, found, submitted]
  · next p s active =>
    rcases busy with ⟨rfl, acts⟩ | ⟨j, job, rfl, ready⟩
    · simpa [act?, found, active] using acts
    · rw [active] at patient
      obtain ⟨hp, _, _, reached⟩ := patient
      have known := (RunState.Orderly.of_reaches hp reached).find?_job hp job
      obtain ⟨t, polls⟩ := RunState.exists_polled (p := p) known ready w.turn
      simp [act?, found, active, polls]
  · exact busy.elim

theorem Awake.waits (h : Awake w) {t : Task} {rest : List Task} (queue : w.queue = t :: rest)
    (waits : w.act? t = none) : Awake { w with queue := rest } := by
  refine ⟨fun id r found x busy => ?_, h.runs⟩
  have mem := h.queued id r found x busy
  rw [queue] at mem
  rcases List.mem_cons.1 mem with rfl | mem
  · exact absurd waits (h.act?_ne_none (run?_id found ▸ found) busy)
  · exact mem

theorem Awake.submit (h : Awake w) (id : String) (program : Program) (context : RunContext) :
    Awake (w.submit id program context) := by
  have queue : (w.submit id program context).queue = w.queue ++ [.loop id] := rfl
  refine ⟨fun x r hr task busy => ?_, fun x r hr => ?_⟩
  · rw [run?_submit, Option.or_eq_some_iff] at hr
    rw [queue]
    rcases hr with found | ⟨none, new⟩
    · exact List.mem_append_left _ (h.queued x r found task busy)
    · split at new
      · cases new
        exact List.mem_append_right _ (List.mem_singleton.2 busy)
      · cases new
  · rw [run?_submit, Option.or_eq_some_iff] at hr
    rcases hr with found | ⟨none, new⟩
    · exact h.runs x r found
    · split at new
      · cases new
        trivial
      · cases new

/-- Whatever happens on its own clock, what can go on is in the queue of the scheduler. -/
theorem Awake.passes (h : Awake w) (m : Passes w w') : Awake w' := by
  cases m with
  | submit id program context => exact h.submit id program context
  | cancel id => exact h.cancel id
  | elapse idle early => exact h.elapseTo idle early
  | step m =>
    cases steps_of_step? m with
    | goes queue acts => exact h.goes acts (by simp [queue])
    | waits queue waits => exact h.waits queue waits
    | elapses idle next =>
      exact h.elapseTo idle fun due same => (Option.some.inj (next.symm.trans same)).le

/-- A scheduler on its own clock forgets nothing that can go on, and its runs are on a virtual
clock. -/
theorem awake_of_passes (empty : w.runs = []) (h : Relation.ReflTransGen Passes w w') :
    Awake w' := by
  induction h with
  | refl => exact ⟨by simp [run?, empty], by simp [run?, empty]⟩
  | tail _ m ih => exact ih.passes m

/-! ### What a session does -/

theorem passes_runUntil (awaited : Scheduler → Bool) (early : Nat → Bool) (w : Scheduler) :
    Relation.ReflTransGen Passes w (w.runUntil awaited early) :=
  reflTransGen_runUntil (fun _ _ => .step) awaited w

/-- A scheduler goes on until what is awaited has come about, or nothing happens early enough. -/
theorem awaited_or_stuck_runUntil (awaited : Scheduler → Bool) (early : Nat → Bool)
    (w : Scheduler) : awaited (w.runUntil awaited early) = true ∨
      (w.runUntil awaited early).step? early = none := by
  fun_induction runUntil awaited early w with
  | case1 w done => exact .inl done
  | case2 w _ w' step ih => exact ih
  | case3 w _ stuck => exact .inr stuck

/-- Where nothing happens any more, no run is left that could go on later. -/
theorem Awake.hasEnded (h : Awake w) (stuck : w.step? (fun _ => true) = none) (id : String) :
    w.hasEnded id = true := by
  obtain ⟨idle, silent⟩ : w.queue = [] ∧ w.nextDue? = none := by
    unfold step? at stuck
    split at stuck
    · cases stuck
    · next idle =>
      refine ⟨idle, Option.eq_none_iff_forall_ne_some.2 fun due next => ?_⟩
      simp [next] at stuck
  unfold Scheduler.hasEnded
  split
  · next r found =>
    have asleep : ∀ t, ¬ r.Busy t := fun t busy => by
      simpa [idle] using h.queued id r found t busy
    obtain rfl := run?_id found
    unfold ScheduledRun.Busy at asleep
    cases stage : r.stage with
    | submitted program context => simp [stage] at asleep
    | rejected | crashed => rfl
    | active p s =>
      have rests := h.rests idle (fun _ _ => Nat.zero_le _) found stage
      -- a run that is not over waits for a job, and the job has set an alarm
      by_contra going
      have still := RunState.act?_eq_none_iff.1 rests.still
      obtain ⟨-, -, jobs⟩ := still.resolve_left going
      obtain ⟨j, rest, first⟩ := List.exists_cons_of_ne_nil jobs
      have job : j ∈ s.jobs := by simp [first]
      have waits := rests.idle j job
      obtain ⟨later, ready⟩ := RunState.exists_isReady s.now s.cancelled j
      obtain ⟨a, set, -⟩ := exists_ringing waits (ready later (Nat.le_refl later))
      obtain ⟨due, next, -⟩ := exists_nextDue (mem_alarms found stage job waits set)
      simp [silent] at next
  · rfl

/-- Whoever joins a run sees it end. -/
theorem hasEnded_join (empty : w.runs = []) (h : Relation.ReflTransGen Passes w w') (id : String) :
    (w'.join id).hasEnded id = true := by
  unfold join
  refine (awaited_or_stuck_runUntil (fun w => w.hasEnded id) (fun _ => true) w').elim
    (fun ended => ended) ?_
  exact fun stuck => (awake_of_passes empty (h.trans (passes_runUntil ..))).hasEnded stuck id

end Scheduler
end Playbook
