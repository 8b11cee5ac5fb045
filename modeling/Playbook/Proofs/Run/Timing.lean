import Playbook.Proofs.Run.Overrun
import Playbook.Proofs.Run.Retries

/-!
When attempts end. An attempt begins before the deadline and is cut off when its timeout is over,
but at the deadline at the latest. Where the clock passes no alarm, it comes to its own result if it
would be done by then, even in that very moment, and else to the error of the timeout or of the
deadline; unless a cancellation is first.
-/
namespace Playbook

open Json (Value)
open Trace (EventKind)

namespace Plan

/-- When an attempt is cut off that begins at a moment. -/
def cutoff (p : Plan) (step : Step) (moment : Nat) : Nat :=
  match p.deadline with
  | some deadline => min (moment + p.timeoutMs step) deadline
  | none => moment + p.timeoutMs step

/-- Whether it is the deadline that cuts the attempt off. -/
def capped (p : Plan) (step : Step) (moment : Nat) : Bool :=
  p.deadline.any fun deadline => deadline < moment + p.timeoutMs step

def cutoffError (p : Plan) (step : Step) (moment : Nat) : StepError :=
  if p.capped step moment then .deadline else .timeout (p.timeoutSeconds step)

/-- What an attempt comes to that begins at a moment, if nothing cancels it. -/
def fate (p : Plan) (t : Trial) (moment : Nat) : Except String StepResult :=
  if moment + (p.trial t).duration ≤ p.cutoff t.step moment then
    (p.trial t).outcome.map fun r => r.between moment (moment + (p.trial t).duration)
  else
    .ok ((StepResult.failed t.step.id t.number (p.cutoffError t.step moment) .unevaluated).between
      moment (p.cutoff t.step moment))

/-- What an attempt has come to that began at a moment, and whether it was cancelled. -/
inductive Fated (p : Plan) (t : Trial) (moment : Nat) : Bool → Except String StepResult → Prop
  | undisturbed : Fated p t moment false (p.fate t moment)
  | cancelled {now : Nat} (since : moment ≤ now) (inTime : now ≤ p.cutoff t.step moment) :
      Fated p t moment true
        (.ok ((StepResult.failed t.step.id t.number .cancelled .unevaluated).between moment now))

/-- What an attempt has recorded and come to: it was refused, or it began before the deadline. -/
inductive Timed (p : Plan) (cancelled : Bool) (t : Trial) :
    List LogEntry → Except String StepResult → Prop
  | refused {now : Nat} (late : p.isPastDeadline now = true) : Timed p cancelled t []
      (.ok ((StepResult.failed t.step.id t.number .deadline .unevaluated).between now now))
  | made {moment : Nat} {log : List LogEntry} {came : Except String StepResult}
      (begun : t.Begun moment log) (early : p.isPastDeadline moment = false)
      (fated : p.Fated t moment cancelled came) : Timed p cancelled t log came

variable {p : Plan} {t : Trial} {moment : Nat} {step : Step}

theorem le_cutoff (early : p.isPastDeadline moment = false) : moment ≤ p.cutoff step moment := by
  unfold cutoff
  unfold isPastDeadline at early
  cases limit : p.deadline with
  | none => exact Nat.le_add_right ..
  | some deadline =>
    simp only [limit, decide_eq_false_iff_not] at early
    exact Nat.le_min.2 ⟨Nat.le_add_right .., by omega⟩

theorem fate_of_done {now : Nat} (done : moment + (p.trial t).duration = now)
    (inTime : now ≤ p.cutoff t.step moment) :
    p.fate t moment = (p.trial t).outcome.map fun r => r.between moment now := by
  subst done
  exact if_pos inTime

theorem fate_of_late (late : p.cutoff t.step moment < moment + (p.trial t).duration) :
    p.fate t moment =
      .ok ((StepResult.failed t.step.id t.number (p.cutoffError t.step moment) .unevaluated).between
        moment (p.cutoff t.step moment)) :=
  if_neg (Nat.not_le_of_lt late)

/-- An attempt is over when it is cut off. -/
theorem Fated.finishedAt_le {cancelled : Bool} {r : StepResult}
    (h : p.Fated t moment cancelled (.ok r)) :
    r.startedAt = moment ∧ r.finishedAt ≤ p.cutoff t.step moment := by
  generalize hcame : Except.ok r = came at h
  cases h with
  | cancelled since inTime =>
    cases hcame
    exact ⟨rfl, inTime⟩
  | undisturbed =>
    unfold fate at hcame
    split at hcame
    · next inTime =>
      cases outcome : (p.trial t).outcome with
      | error message => simp [outcome, Except.map] at hcame
      | ok own =>
        rw [outcome] at hcame
        cases hcame
        exact ⟨rfl, inTime⟩
    · cases hcame
      exact ⟨rfl, Nat.le_refl _⟩

theorem Timed.attempted {cancelled : Bool} {log : List LogEntry} {r : StepResult}
    (h : p.Timed cancelled t log (.ok r)) : p.Attempted t.step t.variables t.number r := by
  generalize hcame : Except.ok r = came at h
  cases h with
  | refused =>
    cases hcame
    exact .cutOff (.inl rfl) rfl
  | made _ _ fated =>
    cases fated with
    | cancelled =>
      cases hcame
      exact .cutOff (.inr rfl) rfl
    | undisturbed =>
      unfold fate at hcame
      split at hcame
      · cases outcome : (p.trial t).outcome with
        | error message => simp [outcome, Except.map] at hcame
        | ok own =>
          rw [outcome] at hcame
          cases hcame
          exact .own outcome rfl
      · cases hcame
        refine .cutOff (.inl ?_) rfl
        unfold cutoffError
        split <;> rfl

/-- An attempt that goes on has begun before the deadline, its alarms are still to come or ring now,
and what is left of it will be done when all of it would have been. -/
structure OnSchedule (p : Plan) (now : Nat) (t : Trial) (log : List LogEntry) (w : Working) :
    Prop where
  begun : t.Begun w.startedAt log
  early : p.isPastDeadline w.startedAt = false
  since : w.startedAt ≤ now
  inTime : now ≤ w.cut.due
  awake : now ≤ w.wake.due
  cut : w.cut.due = p.cutoff t.step w.startedAt
  byDeadline : w.byDeadline = p.capped t.step w.startedAt
  left : w.rest.Suffix (p.trial t)
  ends : w.wake.due + w.rest.duration = w.startedAt + (p.trial t).duration

end Plan

namespace Job

variable {p : Plan} {now turn : Nat} {j : Job} {log : List LogEntry} {w : Working}

theorem cutError_eq (h : p.OnSchedule now j.trial log w) :
    j.cutError p w = p.cutoffError j.step w.startedAt := by
  unfold cutError Plan.cutoffError
  rw [h.byDeadline]
  rfl

/-- An attempt that begins is on schedule. -/
theorem onSchedule_opening (early : p.isPastDeadline now = false) :
    p.OnSchedule now j.trial [j.entry now .stepStarted] (j.opening p now turn) where
  begun := ⟨[], rfl, by simp⟩
  early := early
  since := Nat.le_refl now
  inTime := Nat.le_add_right ..
  awake := Nat.le_refl now
  cut := by
    unfold Plan.isPastDeadline at early
    unfold opening Plan.cutoff trial
    cases limit : p.deadline with
    | none => rfl
    | some deadline =>
      simp only [limit, decide_eq_false_iff_not] at early ⊢
      omega
  byDeadline := by
    unfold Plan.isPastDeadline at early
    unfold opening Plan.capped trial
    cases limit : p.deadline with
    | none => rfl
    | some deadline =>
      simp only [limit, decide_eq_false_iff_not, Option.any_some, decide_eq_decide] at early ⊢
      omega
  left := .refl
  ends := rfl

theorem due_of_rings (h : p.OnSchedule now j.trial log w) (rings : w.wake.rings now = true) :
    w.wake.due = now := by
  have passed : w.wake.due ≤ now := by simpa [Alarm.rings] using rings
  exact Nat.le_antisymm passed h.awake

/-- What is left of an attempt ends now, so all of it does. -/
theorem timed_of_done (discreet : p.Discreet) (h : p.OnSchedule now j.trial log w)
    (rings : w.wake.rings now = true) {events : List EventKind}
    {halt : Activity.Halt EventKind StepResult} (ahead : w.rest.advance = (events, halt))
    (done : w.rest.duration = 0) :
    p.Timed false j.trial (log ++ events.map (j.entry now))
      (w.rest.outcome.map fun r => r.between w.startedAt now) := by
  have whole : w.startedAt + (p.trial j.trial).duration = now := by
    rw [← h.ends, done, Nat.add_zero]
    exact due_of_rings h rings
  rw [h.left.outcome, ← Plan.fate_of_done whole (h.cut ▸ h.inTime)]
  exact .made (begun_of_advance discreet ⟨h.begun, h.left⟩ ahead) h.early .undisturbed

/-- An attempt is cut off now, and it would have gone on. -/
theorem timed_of_cut (h : p.OnSchedule now j.trial log w) (cut : w.cut.rings now = true)
    (late : now < w.wake.due + w.rest.duration) {entries : List LogEntry}
    (begun : j.trial.Begun w.startedAt entries) :
    p.Timed false j.trial entries (.ok (j.broken (j.cutError p w) w.startedAt now)) := by
  have passed : w.cut.due ≤ now := by simpa [Alarm.rings] using cut
  have moment : p.cutoff j.step w.startedAt = now :=
    h.cut.symm.trans (Nat.le_antisymm passed h.inTime)
  have later : p.cutoff j.step w.startedAt < w.startedAt + (p.trial j.trial).duration := by
    rw [moment, ← h.ends]
    exact late
  have cutOff := Plan.fate_of_late (t := j.trial) later
  have same : p.fate j.trial w.startedAt =
      .ok (j.broken (j.cutError p w) w.startedAt now) := by
    rw [cutOff, cutError_eq h]
    change Except.ok ((StepResult.failed j.step.id j.attempt _ .unevaluated).between _
      (p.cutoff j.step w.startedAt)) = _
    rw [moment]
    rfl
  exact same ▸ .made begun h.early .undisturbed

/-- Where no alarm is passed, attempts that begin stay on schedule. -/
theorem trials_timed (discreet : p.Discreet) : Trials .punctual p p.OnSchedule p.Timed where
  refuse _ _ _ late := .refused late
  halt now j early :=
    .made ⟨[], rfl, by simp⟩ early (.cancelled (Nat.le_refl now) (Plan.le_cutoff early))
  opens _ _ _ early := onSchedule_opening early
  ends := by
    intro now j log w events r h rings ahead
    obtain ⟨outcome, done⟩ : w.rest.outcome = .ok r ∧ w.rest.duration = 0 := by
      simpa only [ahead] using w.rest.advance_cases
    have timed := timed_of_done discreet h rings ahead done
    rw [outcome] at timed
    exact timed
  breaks := by
    intro now j log w events message h rings ahead
    obtain ⟨outcome, done⟩ : w.rest.outcome = .error message ∧ w.rest.duration = 0 := by
      simpa only [ahead] using w.rest.advance_cases
    have timed := timed_of_done discreet h rings ahead done
    rw [outcome] at timed
    exact timed
  expires := by
    intro now j log w events ms rest h rings ahead cut
    obtain ⟨takes, -, left⟩ : 0 < ms ∧ w.rest.outcome = rest.outcome ∧
        w.rest.duration = ms + rest.duration := by
      simpa only [ahead] using w.rest.advance_cases
    have due := due_of_rings h rings
    exact timed_of_cut h cut (by omega) (begun_of_advance discreet ⟨h.begun, h.left⟩ ahead)
  sleeps := by
    intro now turn j log w events ms rest h rings ahead uncut
    obtain ⟨takes, -, left⟩ : 0 < ms ∧ w.rest.outcome = rest.outcome ∧
        w.rest.duration = ms + rest.duration := by
      simpa only [ahead] using w.rest.advance_cases
    have due := due_of_rings h rings
    have ends := h.ends
    exact {
      h with
      begun := begun_of_advance discreet ⟨h.begun, h.left⟩ ahead
      awake := Nat.le_add_right ..
      left := (Activity.suffix_of_advance (by rw [ahead])).trans h.left
      ends := by change now + ms + rest.duration = w.startedAt + _; omega }
  interrupt h := .made h.begun h.early (.cancelled h.since (h.cut ▸ h.inTime))
  cut := by
    intro now j log w h asleep cut
    have later : now < w.wake.due := by simpa [Alarm.rings] using asleep
    exact timed_of_cut h cut (by omega) h.begun
  elapses := by
    intro s ms allowed j mem w phase log h
    have early : ∀ a ∈ j.alarms, s.now + ms ≤ a.due := fun a set =>
      allowed (a, j.step.id) (RunState.mem_alarms mem set)
    unfold alarms at early
    rw [phase] at early
    exact {
      h with
      since := Nat.le_add_right_of_le h.since
      inTime := early w.cut (by simp)
      awake := early w.wake (by simp) }

end Job

namespace Trial.Begun

variable {t : Trial} {moment : Nat} {log : List LogEntry} {e : LogEntry}

theorem of_start (h : t.Begun moment log) (mem : e ∈ log) (started : e.kind = .stepStarted) :
    e = ⟨moment, some t.step.id, some t.number, .stepStarted⟩ := by
  obtain ⟨inner, rfl, others⟩ := h
  rcases List.mem_cons.1 mem with rfl | mem
  · rfl
  · simpa [started, EventKind.ofHandler] using (others e mem).2.2

/-- Whatever an attempt records, it has recorded its start. -/
theorem exists_start (h : t.Begun moment log) (mem : e ∈ log) :
    ∃ f ∈ log, f.kind = .stepStarted ∧ f.stepId = e.stepId ∧ f.attempt = e.attempt := by
  obtain ⟨step, number, -⟩ := Trial.Entries.of_mem (.inr ⟨moment, h⟩) mem
  obtain ⟨inner, rfl, others⟩ := h
  exact ⟨_, List.mem_cons_self, rfl, step.symm, number.symm⟩

end Trial.Begun

theorem Plan.Timed.of_mem {p : Plan} {c : Bool} {t : Trial} {log : List LogEntry}
    {came : Except String StepResult} (h : p.Timed c t log came) {e : LogEntry} (mem : e ∈ log) :
    ∃ moment, t.Begun moment log ∧ p.isPastDeadline moment = false ∧ p.Fated t moment c came := by
  cases h with
  | refused => cases mem
  | made begun early fated => exact ⟨_, begun, early, fated⟩

namespace RunState

/-- What an attempt of a step has come to is told: an entry says that another attempt follows, or it
is what the job of the step has ended with. -/
def ToldOf (p : Plan) (s : RunState) (id : String) (number : Nat)
    (came : Except String StepResult) : Prop :=
  (∃ r e, came = .ok r ∧ Job.Renewed p id number r e ∧ e ∈ s.log) ∨
    ∃ past, Ended s id (.ofLast past came)

/-- The result is that of an attempt that has kept to its limits. -/
def Timely (o : Surroundings) (p : Plan) (origin s : RunState) (r : StepResult) : Prop :=
  ∃ step vars cancelled entries, Dispatched o p origin s step vars ∧ step.id = r.stepId ∧
    p.Timed cancelled ⟨step, vars, r.attempts⟩ entries (.ok r) ∧ entries ⊆ s.log ∧
    (cancelled = true → CalledOff o p origin s step.id)

section reached

variable {p : Plan} {context : RunContext} {cancelled : Bool} {s : RunState} (hp : p.Sound)
  (discreet : p.Discreet) {settings : ExecutionSettings}
  (policy : p.retry = .ofSettings settings p.program.execution)
  (reached : Reaches .punctual p (start p context cancelled) s)

include hp

/-- What a job has ended with, and what it has superseded, are results of attempts that have kept to
their limits. -/
theorem timely_of_concluded {id : String} {r : StepResult} {past : List StepResult}
    {log : List LogEntry} (h : Concluded (Job.Closes p.Timed p) .punctual p
      (start p context cancelled) s ⟨id, .finished r past⟩ log) (within : log ⊆ s.log) :
    Timely .punctual p (start p context cancelled) s r ∧ ∀ x ∈ past, ∃ y : StepResult,
      x = { y with status := .retried } ∧ Timely .punctual p (start p context cancelled) s y := by
  obtain ⟨before, job, -, dispatched, polls, -, -, lawful, later⟩ := h
  have after := Relation.ReflTransGen.head (.poll polls) later
  obtain ⟨earlier, entries, tail, past', c, came, tale, made, cut, rfl, last, -⟩ := lawful.last
  cases came with
  | error message => cases last
  | ok r' =>
    cases last
    refine ⟨?_, fun x mem => ?_⟩
    · refine ⟨_, _, c, entries, dispatched.later after, (made.attempted.stepId hp).symm, ?_,
        fun _ hx => within (List.mem_append_right _ (List.mem_append_left _ hx)), fun short => ?_⟩
      · rw [made.attempted.attempts hp]
        exact made
      · exact ⟨_, _, before, after, cut short, job, rfl⟩
    · obtain ⟨own, rfl, results⟩ := tale.own
      obtain ⟨y, among, rfl⟩ := List.mem_map.1 mem
      obtain ⟨k, place⟩ := List.mem_iff_getElem?.1 among
      obtain ⟨entries, e, made, -, among⟩ := results k y place
      refine ⟨y, rfl, _, _, false, entries, dispatched.later after,
        (made.attempted.stepId hp).symm, ?_, fun _ hx => ?_, Bool.noConfusion⟩
      · rw [made.attempted.attempts hp]
        exact made
      · exact within (List.mem_append_left _ (among (List.mem_append_left _ hx)))

include discreet policy reached

theorem chronicled_timed : Chronicled (Dispatched .punctual p (start p context cancelled) s)
    (Concluded (Job.Closes p.Timed p) .punctual p (start p context cancelled) s)
    (Job.Tells p.OnSchedule p.Timed p false) s :=
  .of_reaches (Job.logLaw_tells (Job.trials_timed discreet) (policy ▸ Nat.le_max_right ..)) hp
    reached

theorem timely_of_result {r : StepResult} (mem : r ∈ s.results) (attempted : 1 ≤ r.attempts)
    (calm : ¬ StepPanicked .punctual p (start p context cancelled) s r.stepId) :
    Timely .punctual p (start p context cancelled) s r := by
  obtain ⟨past, log, moment, closed, entries, -⟩ :=
    (chronicled_timed hp discreet policy reached).finished_of_result mem attempted calm
  refine (timely_of_concluded hp closed fun _ hx => ?_).1
  exact entriesOf_subset r.stepId s.log (entries ▸ List.mem_append_left _ hx)

theorem timely_of_retried {r : StepResult} (mem : r ∈ s.retried) : ∃ x : StepResult,
    r = { x with status := .retried } ∧ Timely .punctual p (start p context cancelled) s x := by
  have chronicled := chronicled_timed hp discreet policy reached
  have among : r ∈ retriedOf r.stepId s := List.mem_filter.2 ⟨mem, beq_self_eq_true _⟩
  have terminal : s.isTerminal r.stepId = true := by
    by_contra fresh
    rw [chronicled.unabsorbed r.stepId (Bool.eq_false_iff.2 fresh)] at among
    cases among
  obtain ⟨noted, result, same⟩ := List.mem_map.1 (isTerminal_iff.1 terminal)
  have entered := chronicled.results noted result
  have within : entriesOf noted.stepId s.log ⊆ s.log := entriesOf_subset ..
  rw [← same] at among
  generalize entriesOf noted.stepId s.log = log, retriedOf noted.stepId s = retried
    at entered among within
  cases entered with
  | unattempted => cases among
  | @attempted e moment log closed own result =>
    obtain ⟨id, outcome⟩ := e
    cases outcome with
    | panicked message => cases among
    | finished r' past =>
      exact (timely_of_concluded hp closed fun _ hx =>
        within (List.mem_append_left _ hx)).2 r among

/-- What an attempt has recorded that has begun, and whether it goes on or what it has come to. -/
theorem begun_of_mem {e : LogEntry} (mem : e ∈ s.log)
    (own : e.kind = .stepStarted ∨ e.kind.ofHandler = true) :
    ∃ t moment entries, Dispatched .punctual p (start p context cancelled) s t.step t.variables ∧
      t.Begun moment entries ∧ entries ⊆ s.log ∧ e ∈ entries ∧ p.isPastDeadline moment = false ∧
      ((∃ j ∈ s.jobs, ∃ w, j.trial = t ∧ j.phase = .working w ∧ w.startedAt = moment ∧
          s.now ≤ p.cutoff t.step moment) ∨
        ∃ c came, p.Fated t moment c came ∧ ToldOf p s t.step.id t.number came ∧
          (c = true → CalledOff .punctual p (start p context cancelled) s t.step.id)) := by
  have untold : ∀ {id number r}, ¬ Job.Renewed p id number r e := by
    intro id number r renewed
    obtain ⟨error, delay, -, -, -, kind⟩ := renewed.kind
    rw [kind] at own
    simp [EventKind.ofHandler] at own
  obtain ⟨step, vars, dispatched, explained⟩ :=
    explained (chronicled_timed hp discreet policy reached) (plain_of_run reached) mem fun plain => by
      rcases own with started | told
      · simp [LogEntry.isStart, Plain, started] at plain
      · simp [plain.2.2] at told
  cases explained with
  | @going j w entries job phase going within mem =>
    refine ⟨j.trial, w.startedAt, entries, dispatched, going.begun, within, mem, going.early,
      .inl ⟨j, job, w, rfl, phase, rfl, ?_⟩⟩
    exact going.cut ▸ going.inTime
  | followed followed =>
    obtain ⟨number, r, entries, e', made, renewed, within, mem | rfl⟩ := followed
    · obtain ⟨moment, begun, early, fated⟩ := made.of_mem mem
      refine ⟨⟨step, vars, number⟩, moment, entries, dispatched, begun,
        fun _ hx => within (List.mem_append_left _ hx), mem, early,
        .inr ⟨false, _, fated, .inl ⟨r, e', rfl, renewed, within (by simp)⟩, Bool.noConfusion⟩⟩
    · exact absurd renewed untold
  | @last _ _ number past c entries came made cut ended within mem =>
    obtain ⟨moment, begun, early, fated⟩ := made.of_mem mem
    exact ⟨⟨step, vars, number⟩, moment, entries, dispatched, begun, within, mem, early,
      .inr ⟨c, came, fated, .inr ⟨past, ended⟩, cut⟩⟩

end reached
end RunState

open RunState in
/-- The attempts at the steps of a run on a clock that passes no alarm. Each one that has begun did so
before the deadline. It goes on, until it is cut off at the latest; or it has ended by then, with its
own result or a panic of its own if it would be done by then, and else with the error of the timeout
or of the deadline, unless the run was cancelled while the step was in flight. Handlers record
nothing outside of such attempts. And the results of the steps, unless the last attempt has panicked,
and those of superseded attempts are what such attempts have come to, or the error of an attempt that
was refused after the deadline. -/
theorem attempts_keep_to_limits {d : Dispatcher} {program : Program}
    (clean : program.Clean d.registry d.evaluator) {settings : ExecutionSettings} {scope : RunScope}
    {p : Plan} (plan : p = Plan.make d settings program scope) {context : RunContext}
    {cancelled : Bool} {s : RunState}
    (reached : Reaches .punctual p (start p context cancelled) s) :
    (∀ e ∈ s.log, e.kind = .stepStarted → ∃ t,
      Dispatched .punctual p (start p context cancelled) s t.step t.variables ∧
      e.stepId = some t.step.id ∧ e.attempt = some t.number ∧ p.isPastDeadline e.moment = false ∧
      ((∃ j ∈ s.jobs, ∃ w, j.trial = t ∧ j.phase = .working w ∧ w.startedAt = e.moment ∧
          s.now ≤ p.cutoff t.step e.moment) ∨
        ∃ c came, p.Fated t e.moment c came ∧ ToldOf p s t.step.id t.number came ∧
          (∀ r, came = .ok r → r.startedAt = e.moment ∧
            r.finishedAt ≤ p.cutoff t.step e.moment) ∧
          (c = true → CalledOff .punctual p (start p context cancelled) s t.step.id))) ∧
    (∀ e ∈ s.log, e.kind.ofHandler = true → ∃ f ∈ s.log, f.kind = .stepStarted ∧
      f.stepId = e.stepId ∧ f.attempt = e.attempt) ∧
    (∀ r ∈ s.results, 1 ≤ r.attempts →
      ¬ StepPanicked .punctual p (start p context cancelled) s r.stepId →
      Timely .punctual p (start p context cancelled) s r) ∧
    ∀ r ∈ s.retried, ∃ x : StepResult, r = { x with status := .retried } ∧
      Timely .punctual p (start p context cancelled) s x := by
  have hp : p.Sound := plan ▸ Plan.sound_make clean settings scope
  have discreet : p.Discreet := plan ▸ Plan.discreet_make d settings program scope
  have policy : p.retry = .ofSettings settings p.program.execution := by rw [plan]; rfl
  refine ⟨fun e mem started => ?_, fun e mem told => ?_,
    fun r => timely_of_result hp discreet policy reached,
    fun r => timely_of_retried hp discreet policy reached⟩
  · obtain ⟨t, moment, entries, dispatched, begun, -, mem, early, comes⟩ :=
      begun_of_mem hp discreet policy reached mem (.inl started)
    obtain rfl := begun.of_start mem started
    refine ⟨t, dispatched, rfl, rfl, early, comes.imp_right ?_⟩
    rintro ⟨c, came, fated, told, cut⟩
    refine ⟨c, came, fated, told, fun r same => ?_, cut⟩
    subst same
    exact fated.finishedAt_le
  · obtain ⟨t, moment, entries, -, begun, within, mem, -⟩ :=
      begun_of_mem hp discreet policy reached mem (.inr told)
    obtain ⟨f, started, same⟩ := begun.exists_start mem
    exact ⟨f, within started, same⟩

/-- The call is cut off by its timeout of a second, and the mail by the deadline. -/
theorem call_and_mail_are_cut_off : ∃ context s call mail,
    Reaches .punctual .overdue (RunState.start .overdue context false) s ∧
    s.results = [call, mail] ∧ call.error = some (.timeout 1) ∧ call.finishedAt = 1000 ∧
    mail.error = some .deadline ∧ mail.finishedAt = 3000 ∧
    RunState.Timely .punctual .overdue (RunState.start .overdue context false) s call ∧
    RunState.Timely .punctual .overdue (RunState.start .overdue context false) s mail := by
  have ends : RunState.overdue.fault = none ∧ RunState.overdue.isOver = true ∧
      RunState.overdue.results.map (fun r => (r.attempts, r.error, r.finishedAt)) =
        [(1, some (.timeout 1), 1000), (1, some .deadline, 3000)] := by
    simp only [RunState.overdue, Plan.after, RunState.start, unreachable_overdue]
    decide +kernel
  obtain ⟨calm, finished, told⟩ := ends
  obtain ⟨call, mail, results⟩ : ∃ call mail, RunState.overdue.results = [call, mail] :=
    List.length_eq_two.1 (by simpa using congrArg List.length told)
  simp only [results, List.map_cons, List.map_nil, List.cons.injEq, Prod.mk.injEq, and_true] at told
  obtain ⟨⟨once, timeout, early⟩, once', deadline, late⟩ := told
  have ho : RunState.Orderly .overdue RunState.overdue := .of_reaches sound_overdue reaches_overdue
  have timely := (attempts_keep_to_limits clean_overdue rfl reaches_overdue.punctual).2.2.1
  have quiet : ∀ {origin id},
      ¬ RunState.StepPanicked .punctual .overdue origin RunState.overdue id := fun panicked => by
    simpa [calm] using panicked.isSome_fault ho finished
  exact ⟨_, RunState.overdue, call, mail, reaches_overdue.punctual, results, timeout, early,
    deadline, late, timely call (by simp [results]) (by omega) quiet,
    timely mail (by simp [results]) (by omega) quiet⟩

end Playbook
