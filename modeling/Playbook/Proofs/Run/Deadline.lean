import Playbook.Proofs.Run.Overrun

/-!
How long a run with a deadline takes on a virtual clock. No attempt goes on past the deadline, and
no step is started after it. But the pauses between the attempts at a step do not look at the
deadline, and the failure that the deadline brings about may be followed by another attempt like any
other. So after the deadline a run may go on waiting for as long as the pauses between all attempts
at one step add up to, and no longer.
-/
namespace Playbook

open Json (Value)

namespace RetryPolicy

/-- What the pauses before some further attempts add up to, when the first of them takes `current`
milliseconds. -/
def pausesFrom (p : RetryPolicy) : (attempts current : Nat) → Nat
  | 0, _ => 0
  | n + 1, current => current + p.pausesFrom n (p.nextBackoffMs current)

/-- What the pauses between all attempts at a step add up to. -/
def pauses (p : RetryPolicy) : Nat := p.pausesFrom p.retries p.initialBackoffMs

end RetryPolicy

theorem Plan.isPastDeadline_iff {p : Plan} {deadline now : Nat} (timed : p.deadline = some deadline) :
    p.isPastDeadline now = true ↔ deadline ≤ now := by
  simp [isPastDeadline, timed]

theorem Plan.lt_of_onTime {p : Plan} {deadline now : Nat} (timed : p.deadline = some deadline)
    (onTime : p.isPastDeadline now = false) : now < deadline := by
  simpa [isPastDeadline, timed] using onTime

namespace Job

/-- The pauses that a job may still make add up to this. -/
def pausesLeft (p : Plan) (j : Job) : Nat := p.retry.pausesFrom j.retriesLeft j.backoffMs

/-- A job keeps to the deadline, prolonged by the pauses that it has made: its attempts begin before
the deadline and are cut off there, and from now on, or from the end of its pause on, there is time
for the pauses that are left. -/
def InTime (p : Plan) (deadline now : Nat) (step : Step) (vars : List (String × Value)) (j : Job)
    (q : Point) : Prop :=
  j.step = step ∧ j.variables = vars ∧
    match q with
    | .starting | .concluded _ => j.pausesLeft p ≤ p.retry.pauses ∧
        now + j.pausesLeft p ≤ deadline + p.retry.pauses
    | .working w => j.pausesLeft p ≤ p.retry.pauses ∧
        w.startedAt < deadline ∧ now ≤ w.cut.due ∧ w.cut.due ≤ deadline
    | .backingOff wake r => (j.next p r).pausesLeft p ≤ p.retry.pauses ∧
        now ≤ wake.due ∧ wake.due + (j.next p r).pausesLeft p ≤ deadline + p.retry.pauses

variable {p : Plan} {deadline now : Nat} {step : Step} {vars : List (String × Value)} {j : Job}
  {q : Point}

/-- The deadline is not passed by more than all pauses. -/
theorem InTime.now_le (h : InTime p deadline now step vars j q) :
    now ≤ deadline + p.retry.pauses := by
  obtain ⟨-, -, hq⟩ := h
  cases q with
  | starting | concluded | working | backingOff => simp only at hq; omega

theorem leads_goOn_inTime {turn : Nat} {w : Working}
    (h : InTime p deadline now step vars j (.working w)) :
    Leads (InTime p deadline now step vars) (fun _ => True) j (j.goOn p now turn w).2 := by
  obtain ⟨hs, hv, left, begun, early, limited⟩ := h
  rcases goOn_cases p now turn j w with
    ⟨r, -, hg⟩ | ⟨message, -, hg⟩ | ⟨ms, rest, -, ⟨-, hg⟩ | ⟨-, hg⟩⟩
  · rw [hg]
    exact ⟨hs, hv, left, by omega⟩
  · rw [hg]
    trivial
  · rw [hg]
    exact ⟨hs, hv, left, by omega⟩
  · rw [hg]
    exact ⟨hs, hv, left, begun, early, limited⟩

theorem kept_inTime (timed : p.deadline = some deadline) (now turn : Nat) (cancelled : Bool)
    (step : Step) (vars : List (String × Value)) :
    Kept p now turn cancelled (InTime p deadline now step vars) fun _ => True where
  phase := by
    rintro j q phase ⟨hs, hv, hq⟩
    cases q <;> exact ⟨hs, hv, hq⟩
  start := by
    rintro j ⟨hs, hv, left, early⟩
    rcases start_cases p now turn cancelled j with ⟨-, h⟩ | ⟨-, -, h⟩ | ⟨onTime, -, h⟩
    · exact h ▸ ⟨hs, hv, left, early⟩
    · exact h ▸ ⟨hs, hv, left, early⟩
    · have onTime := Plan.lt_of_onTime timed onTime
      refine h ▸ leads_goOn_inTime ⟨hs, hv, left, onTime, Nat.le_add_right .., ?_⟩
      simp only [opening, timed]
      omega
  goOn j w h _ _ := leads_goOn_inTime h
  interrupt := by
    rintro j w ⟨hs, hv, left, -, early, limited⟩ -
    exact ⟨hs, hv, left, by omega⟩
  cut := by
    rintro j w ⟨hs, hv, left, -, early, limited⟩ - - -
    exact ⟨hs, hv, left, by omega⟩
  giveUp _ _ _ _ := trivial
  retryLater := by
    rintro j r left ⟨hs, hv, hleft, early⟩ retries -
    simp only [pausesLeft, retries, RetryPolicy.pausesFrom] at hleft early
    refine ⟨hs, hv, ?_, Nat.le_add_right .., ?_⟩ <;> simp only [pausesLeft, next] <;> omega
  resume := by
    rintro j wake r ⟨hs, hv, left, early, enough⟩ rings
    simp only [Alarm.rings, decide_eq_true_eq] at rings
    exact ⟨hs, hv, left, by omega⟩
  abandon _ _ _ _ _ := trivial

/-- Keeping to the prolonged deadline is a law of jobs on a virtual clock. -/
theorem law_inTime (timed : p.deadline = some deadline) :
    Law (.patient p) p (InTime p deadline) fun _ _ _ _ => True where
  own h := ⟨h.1, h.2.1⟩
  begins := by
    rintro now step - onTime vars
    have early := Plan.lt_of_onTime timed onTime
    exact ⟨rfl, rfl, Nat.le_refl _, Nat.add_le_add_right early.le p.retry.pauses⟩
  kept now turn cancelled step vars := kept_inTime timed now turn cancelled step vars
  elapses := by
    rintro s ms rests j hj ⟨hs, hv, hq⟩
    obtain ⟨-, idle, early⟩ := RunState.rests_iff.1 rests
    have idle := idle j hj
    have early : ∀ a ∈ j.alarms, s.now + ms ≤ a.due := fun a set =>
      early _ (RunState.mem_alarms hj set)
    refine ⟨hs, hv, ?_⟩
    unfold isReady at idle
    unfold alarms at early
    unfold point at hq ⊢
    cases phase : j.phase with
    | starting => simp [phase] at idle
    | working w =>
      simp only [phase] at hq early ⊢
      exact ⟨hq.1, hq.2.1, early w.cut (by simp), hq.2.2.2⟩
    | backingOff wake r =>
      simp only [phase] at hq early ⊢
      exact ⟨hq.1, early wake (by simp), hq.2.2⟩
  lasts _ _ := trivial

end Job

namespace RunState

variable {o : Surroundings} {p : Plan} {deadline : Nat} {context : RunContext} {cancelled : Bool}
  {s t : RunState}

/-- What the loop does takes no time. -/
theorem now_of_act (m : Act p s t) : t.now = s.now := by
  cases m with
  | look | scanned | pass | skip | expire | launch | again => rfl
  | leave =>
    unfold RunState.leave
    split <;> rfl
  | takeIn | drain => exact now_takeIn ..
  | finish => exact (sameFrame_skips ..).now

theorem now_of_poll {turn : Nat} {id : String} (m : Poll p turn id s t) : t.now = s.now := by
  cases m <;> rfl

/-- Where everything waits and the run is not over, there is a job. -/
theorem Rests.jobs_ne_nil {ms : Nat} (h : s.Rests p ms) (going : s.isOver = false) : s.jobs ≠ [] :=
  ((act?_eq_none_iff.1 h.still).resolve_left (by simp [going])).2.2

section timed

variable (timed : p.deadline = some deadline)
  (reached : Reaches (.patient p) p (start p context cancelled) s)

include timed reached

theorem inTime_of_reaches {j : Job} (hj : j ∈ s.jobs) :
    Job.InTime p deadline s.now j.step j.variables j j.point :=
  ((Tracked.of_reaches (Job.law_inTime timed) reached).jobs j hj).2

/-- No attempt goes on past the deadline. -/
theorem working_in_time {j : Job} (hj : j ∈ s.jobs) {w : Working} (phase : j.phase = .working w) :
    w.startedAt < deadline ∧ s.now ≤ w.cut.due ∧ w.cut.due ≤ deadline := by
  obtain ⟨-, -, inTime⟩ := inTime_of_reaches timed reached hj
  simp only [Job.point, phase] at inTime
  exact inTime.2

/-- After the deadline time passes only for the pauses between attempts. -/
theorem backingOff_of_late (m : Move (.patient p) p s t) (late : deadline ≤ s.now)
    (passes : s.now < t.now) : ∀ j ∈ s.jobs, ∃ wake last, j.phase = .backingOff wake last := by
  intro j hj
  cases m with
  | act m => simp [now_of_act (act_of_act? m)] at passes
  | poll m => simp [now_of_poll (poll_of_poll? m)] at passes
  | cancel => simp [RunState.cancel] at passes
  | @elapse ms rests =>
    have passes : s.now < s.now + ms := passes
    have rests := rests_iff.1 rests
    cases phase : j.phase with
    | starting => simpa [Job.isReady, phase] using rests.idle j hj
    | working w =>
      have limited := (working_in_time timed reached hj phase).2.2
      have early : s.now + ms ≤ w.cut.due :=
        rests.early _ (mem_alarms hj (by simp [Job.alarms, phase]))
      omega
    | backingOff wake last => exact ⟨wake, last, rfl⟩

theorem now_le_of_move (m : Move (.patient p) p s t) (going : s.isOver = false)
    (bound : s.now ≤ deadline + p.retry.pauses) : t.now ≤ deadline + p.retry.pauses := by
  cases m with
  | act m => exact now_of_act (act_of_act? m) ▸ bound
  | poll m => exact now_of_poll (poll_of_poll? m) ▸ bound
  | cancel => exact bound
  | @elapse ms rests =>
    obtain ⟨j, rest, hj⟩ := List.exists_cons_of_ne_nil ((rests_iff.1 rests).jobs_ne_nil going)
    have mem : j ∈ (s.elapse ms).jobs := by simp [RunState.elapse, hj]
    exact (inTime_of_reaches timed (reached.tail (.elapse rests)) mem).now_le

theorem now_le_of_going (hp : p.Sound) (going : s.isOver = false) :
    s.now ≤ deadline + p.retry.pauses := by
  induction reached with
  | refl => simp
  | @tail s t reached m ih =>
    cases finished : s.isOver with
    | true =>
      have still := ((Orderly.of_reaches hp reached).result_of_move finished m).1
      simp [still] at going
    | false => exact now_le_of_move timed reached m finished (ih finished)

/-- A run goes on after the deadline for no longer than all pauses take. -/
theorem elapsed_le (hp : p.Sound) {begun : Instant} {result : RunResult}
    (hr : s.result p begun = some result) : result.elapsedMs ≤ deadline + p.retry.pauses := by
  obtain ⟨before, after, reached, going, m, -, elapsed⟩ := exists_last_move hp reached hr
  rw [elapsed]
  exact now_le_of_move timed reached m going (now_le_of_going timed reached hp going)

end timed

/-- A step that is not started any more: it is pending, or has its result without an attempt. -/
def Unattempted (s : RunState) (id : String) : Prop :=
  id ∈ s.pending ∨ ∃ r ∈ s.results, r.stepId = id ∧ r.attempts = 0

/-- After the deadline no step is started. -/
theorem Unattempted.act {id : String} (h : s.Unattempted id) (late : p.isPastDeadline s.now = true)
    (m : Act p s t) : t.Unattempted id := by
  rcases h with pending | ⟨r, mem, own⟩
  · have decided : ∀ x : StepResult, x.attempts = 0 → (s.decide x).Unattempted id := by
      intro x none
      by_cases same : x.stepId = id
      · exact .inr ⟨x, List.mem_append_right _ (List.mem_singleton.2 rfl), same, none⟩
      · exact .inl ((List.mem_erase_of_ne (Ne.symm same)).2 pending)
    cases m with
    | look | scanned | pass | again => exact .inl pending
    | skip | expire => exact decided _ rfl
    | launch _ _ _ _ early => simp [late] at early
    | leave =>
      unfold RunState.leave
      split <;> exact .inl pending
    | @takeIn _ e rest | @drain e rest => exact .inl (by rwa [pending_takeIn])
    | finish =>
      obtain ⟨r, mem, own, skipped⟩ := skippedAs_of_skips pending s
      exact .inr ⟨r, mem, own, skipped.2.2⟩
  · exact .inr ⟨r, (onward_of_act m).results.subset mem, own⟩

theorem Unattempted.move {id : String} (h : s.Unattempted id)
    (late : p.isPastDeadline s.now = true) (m : Move o p s t) : t.Unattempted id := by
  cases m with
  | act m => exact h.act late (act_of_act? m)
  | poll m =>
    have frame := (poll_of_poll? m).frame
    unfold Unattempted at *
    rwa [frame.pending, frame.results]
  | cancel | elapse => exact h

theorem Unattempted.reaches {id : String} (h : s.Unattempted id)
    (late : p.isPastDeadline s.now = true) (later : Reaches o p s t) : t.Unattempted id := by
  induction later with
  | refl => exact h
  | tail later m ih => exact ih.move (p.isPastDeadline_mono (Reaches.onward later).now late) m

/-- A step without an attempt was skipped, or failed since the deadline had passed. -/
theorem Origin.skipped_or_expired {r : StepResult} (h : Origin p s r) (none : r.attempts = 0) :
    r.status = .skipped ∨ r.Expired p := by
  cases h with
  | unreachable _ result | bypassed _ _ result | abandoned _ _ result =>
    exact .inl (congrArg StepResult.status result)
  | late _ _ late result =>
    exact .inr ⟨late, congrArg StepResult.status result, congrArg StepResult.error result, none⟩
  | dispatched _ _ attempts => omega

end RunState

open RunState in
/-- A run with a deadline on a virtual clock comes to its end after the deadline and the pauses
between all attempts at one step, at the latest; where failed steps are not tried again that is the
deadline. No attempt goes on past the deadline, time passes after it only while all jobs pause
between attempts, and the steps that were not started by then are skipped, or fail unattempted. -/
theorem ends_within_deadline_and_pauses {d : Dispatcher} {program : Program}
    (clean : program.Clean d.registry d.evaluator) {settings : ExecutionSettings} {scope : RunScope}
    {p : Plan} (plan : p = Plan.make d settings program scope) {seconds : Nat}
    (limited : program.execution.runDeadlineSeconds = some seconds) {context : RunContext}
    {cancelled : Bool} {σ : ℕ → RunState} (execution : Execution p σ)
    (first : σ 0 = start p context cancelled)
    (patient : ∀ n, Move (.patient p) p (σ n) (σ (n + 1))) (begun : Instant) :
    (∃ result n, (∀ m, n ≤ m → (σ m).result p begun = some result) ∧
      result.elapsedMs ≤ seconds * 1000 + p.retry.pauses ∧
      ∀ k, seconds * 1000 ≤ (σ k).now → ∀ id ∈ (σ k).pending,
        ∃ r ∈ result.steps, r.stepId = id ∧ (r.status = .skipped ∨ r.Expired p)) ∧
    ∀ k, (∀ j ∈ (σ k).jobs, ∀ w, j.phase = .working w → w.startedAt < seconds * 1000 ∧
        (σ k).now ≤ w.cut.due ∧ w.cut.due ≤ seconds * 1000) ∧
      (seconds * 1000 ≤ (σ k).now → (σ k).now < (σ (k + 1)).now →
        ∀ j ∈ (σ k).jobs, ∃ wake last, j.phase = .backingOff wake last) := by
  have hp : p.Sound := plan ▸ Plan.sound_make clean settings scope
  have timed : p.deadline = some (seconds * 1000) := by
    rw [plan]
    simp [Plan.make, limited]
  have reached : ∀ n, Reaches (.patient p) p (start p context cancelled) (σ n) :=
    first ▸ Reaches.of_moves patient
  refine ⟨?_, fun k => ⟨fun j hj w phase => working_in_time timed (reached k) hj phase,
    backingOff_of_late timed (reached k) (patient k)⟩⟩
  obtain ⟨result, n, stays, -⟩ := hp.execution_ends .refl execution first begun
  refine ⟨result, n, stays, ?_, fun k late id pending => ?_⟩
  · exact elapsed_le timed (reached n) hp (stays n (Nat.le_refl n))
  · have hr := stays (max n k) (Nat.le_max_left n k)
    have orderly := Orderly.of_reaches hp (reached (max n k))
    obtain ⟨finished, steps⟩ := isOver_of_result hr
    have past := (Plan.isPastDeadline_iff timed).2 late
    rcases Unattempted.reaches (.inl pending) past (execution.later (Nat.le_max_right n k)) with
      pending | ⟨r, mem, own, none⟩
    · simp [(orderly.idle finished).1] at pending
    · exact ⟨r, steps ▸ mem, own, (orderly.accounted.origin mem).skipped_or_expired none⟩

/-- A program with a call that takes a minute, a deadline of one second, and a pause of five seconds
before a second attempt. -/
def Program.stalled : Program where
  id := "letters"
  status := .published
  execution := { maxRetries := 1, retryBackoffMs := 5000, runDeadlineSeconds := some 1 }
  steps := [{ id := "call", action := { type := .assignTask } }]

theorem clean_stalled :
    Program.stalled.Clean Dispatcher.sluggish.registry Dispatcher.sluggish.evaluator :=
  .of_checks rfl (by decide +kernel) (by decide +kernel) (by decide +kernel)

def Plan.stalled : Plan := .sluggish .stalled

theorem sound_stalled : Plan.stalled.Sound := Plan.sound_make clean_stalled ..

theorem unreachable_stalled : Plan.stalled.unreachable = [] := by
  have capable : ∀ step ∈ Program.stalled.steps, step.trigger.type.isEntryCapable = true := by decide
  exact sound_stalled.unreachable_eq_nil fun step declared _ => capable step declared

/-- The call gets one second and a pause of five. -/
theorem stalled_ends_in_time : ∃ context σ result n, Execution .stalled σ ∧
    σ 0 = RunState.start .stalled context false ∧
    (∀ n, Move (.patient .stalled) .stalled (σ n) (σ (n + 1))) ∧
    (∀ m, n ≤ m → (σ m).result .stalled ⟨0, 0⟩ = some result) ∧ result.elapsedMs ≤ 6000 := by
  have execution : Execution .stalled Plan.stalled.after := execution_drive .stalled _
  have patient : ∀ n, Move (.patient .stalled) .stalled (Plan.stalled.after n)
      (Plan.stalled.after (n + 1)) := by
    intro n
    unfold Plan.after
    rw [Function.iterate_succ_apply']
    exact (RunState.Orderly.of_reaches sound_stalled (sound_stalled.reaches_after n)).move_drive
      sound_stalled
  obtain ⟨⟨result, n, stays, bound, -⟩, -⟩ :=
    ends_within_deadline_and_pauses clean_stalled rfl rfl execution rfl patient ⟨0, 0⟩
  have total : 1 * 1000 + Plan.stalled.retry.pauses = 6000 := rfl
  exact ⟨_, _, result, n, execution, rfl, patient, stays, bound.trans (Nat.le_of_eq total)⟩

/-- With a deadline of one second the run takes six on the virtual clock: the attempt at the call is
cut off by the deadline, and the run waits for the pause before another attempt, which fails as it
begins. -/
theorem call_outlives_deadline :
    Program.stalled.Clean Dispatcher.sluggish.registry Dispatcher.sluggish.evaluator ∧
    Program.stalled.execution.runDeadlineSeconds = some 1 ∧
    ∃ context s result,
      Reaches (.patient .stalled) .stalled (RunState.start .stalled context false) s ∧
      s.result .stalled ⟨0, 0⟩ = some result ∧ result.elapsedMs = 6000 := by
  let s₁ := Plan.stalled.after 4
  let s₂ := (RunState.drive .stalled)^[1] (s₁.elapse 1000)
  let s₃ := (RunState.drive .stalled)^[5] (s₂.elapse 5000)
  have facts : s₁.rests .stalled 1000 = true ∧ s₂.rests .stalled 5000 = true ∧
      (s₃.result .stalled ⟨0, 0⟩).map RunResult.elapsedMs = some 6000 := by
    simp only [s₁, s₂, s₃, Plan.after, RunState.start, unreachable_stalled]
    decide +kernel
  obtain ⟨rests₁, rests₂, ends⟩ := facts
  have reached := RunState.reaches_rested sound_stalled (RunState.reaches_rested sound_stalled
    (sound_stalled.reaches_after 4) rests₁ 1) rests₂ 5
  obtain ⟨result, hr, elapsed⟩ := Option.map_eq_some_iff.1 ends
  exact ⟨clean_stalled, rfl, _, s₃, result, reached, hr, elapsed⟩

end Playbook
