import Playbook.Proofs.Run.Clock
import Playbook.Proofs.Run.Reason

/-!
When a run counts as overdue. It does when its first blocking failure is a timeout and the deadline
has passed by the end of the run. A failure that the deadline has brought about is always reported
so, since no result is finished after the end; but so is a step's own timeout that elapsed earlier,
if other steps go on until the deadline.
-/
namespace Playbook

open Json (Value)

namespace Job

/-- What an attempt has come to was finished no later than now. -/
def Stamped (now : Nat) (step : Step) (vars : List (String × Value)) (j : Job) (q : Point) : Prop :=
  j.step = step ∧ j.variables = vars ∧
    match q with
    | .starting | .working _ => True
    | .concluded r | .backingOff _ r => r.finishedAt ≤ now

theorem leads_goOn_stamped {p : Plan} {now turn : Nat} {step : Step} {vars : List (String × Value)}
    {j : Job} {w : Working} (hs : j.step = step) (hv : j.variables = vars) :
    Leads (Stamped now step vars) (EndsWith fun r => r.finishedAt ≤ now) j
      (j.goOn p now turn w).2 := by
  rcases goOn_cases p now turn j w with
    ⟨r, -, hg⟩ | ⟨message, -, hg⟩ | ⟨ms, rest, -, ⟨-, hg⟩ | ⟨-, hg⟩⟩
  · rw [hg]
    exact ⟨hs, hv, Nat.le_refl now⟩
  · rw [hg]
    trivial
  · rw [hg]
    exact ⟨hs, hv, Nat.le_refl now⟩
  · rw [hg]
    exact ⟨hs, hv, trivial⟩

theorem kept_stamped (p : Plan) (now turn : Nat) (cancelled : Bool) (step : Step)
    (vars : List (String × Value)) :
    Kept p now turn cancelled (Stamped now step vars) (EndsWith fun r => r.finishedAt ≤ now) where
  phase := by
    rintro j q phase ⟨hs, hv, hq⟩
    cases q <;> exact ⟨hs, hv, hq⟩
  start := by
    rintro j ⟨hs, hv, -⟩
    rcases start_cases p now turn cancelled j with ⟨-, h⟩ | ⟨-, -, h⟩ | ⟨-, -, h⟩
    · exact h ▸ ⟨hs, hv, Nat.le_refl now⟩
    · exact h ▸ ⟨hs, hv, Nat.le_refl now⟩
    · exact h ▸ leads_goOn_stamped hs hv
  goOn j w h _ _ := leads_goOn_stamped h.1 h.2.1
  interrupt j w h _ := ⟨h.1, h.2.1, Nat.le_refl now⟩
  cut j w h _ _ _ := ⟨h.1, h.2.1, Nat.le_refl now⟩
  giveUp j r h _ := h.2.2
  retryLater j r left h _ _ := h
  resume j wake r h _ := ⟨h.1, h.2.1, trivial⟩
  abandon j wake r h _ := h.2.2

theorem law_stamped (o : Surroundings) (p : Plan) :
    Law o p Stamped fun now _ _ => EndsWith fun r => r.finishedAt ≤ now where
  own h := ⟨h.1, h.2.1⟩
  begins _ _ vars := ⟨rfl, rfl, trivial⟩
  kept now turn cancelled step vars := kept_stamped p now turn cancelled step vars
  elapses := by
    rintro s ms - j - ⟨hs, hv, hq⟩
    refine ⟨hs, hv, ?_⟩
    cases point : j.point with
    | starting | working => trivial
    | concluded r | backingOff wake r =>
      rw [point] at hq
      exact hq.trans (Nat.le_add_right ..)
  lasts := by
    intro now step vars outcome h ms
    cases outcome with
    | finished r superseded => exact Nat.le_trans h (Nat.le_add_right ..)
    | panicked message => trivial

end Job

theorem Plan.isPastDeadline_mono (p : Plan) {now later : Nat} (h : now ≤ later)
    (past : p.isPastDeadline now = true) : p.isPastDeadline later = true := by
  unfold isPastDeadline at *
  cases limit : p.deadline with
  | none => simp [limit] at past
  | some deadline =>
    simp only [limit, decide_eq_true_eq] at past ⊢
    exact Nat.le_trans past h

namespace RunState

variable {o : Surroundings} {p : Plan} {context : RunContext} {cancelled : Bool} {s t : RunState}

/-- No result was finished later than now. -/
theorem finishedAt_le (reached : Reaches o p (start p context cancelled) s) {r : StepResult}
    (mem : r ∈ s.results) : r.finishedAt ≤ s.now := by
  have tracked := Tracked.of_reaches (Job.law_stamped o p) reached
  rcases tracked.results r mem with ⟨-, past⟩ | ⟨⟨id, outcome⟩, moment, past, rfl, -, -, -, -, stamped⟩
  · exact past
  · cases outcome with
    | finished r superseded => exact stamped
    | panicked message => exact past

theorem elapsed_close {interrupted : Bool} {begun : Instant} {result : RunResult}
    (hr : (s.close p interrupted).result p begun = some result) : result.elapsedMs = s.now := by
  cases hr
  rfl

/-- A run has taken as long as the clock shows when it comes to its end. -/
theorem elapsed_of_move (m : Move o p s t) (going : s.isOver = false) {begun : Instant}
    {result : RunResult} (hr : t.result p begun = some result) : result.elapsedMs = t.now := by
  have kept : t.control = s.control → result.elapsedMs = t.now := fun same => by
    have finished := (isOver_of_result hr).1
    unfold isOver at finished going
    simp [same, going] at finished
  cases m with
  | act m =>
    cases act_of_act? m with
    | look =>
      unfold rescan at hr
      cases hc : s.cancelled <;> simp [hc, RunState.result] at hr
    | scanned | pass | skip | expire | launch | again | takeIn => simp [RunState.result] at hr
    | leave =>
      unfold RunState.leave at hr ⊢
      split at hr
      · simp [RunState.result] at hr
      · next finished =>
        rw [if_neg finished]
        exact elapsed_close hr
    | drain => exact kept (control_takeIn ..)
    | finish => exact elapsed_close hr
  | poll m => exact kept (poll_of_poll? m).frame.control
  | cancel | elapse => exact kept rfl

/-- The result of a run is there since the move with which the run came to its end. -/
theorem exists_last_move (hp : p.Sound) (reached : Reaches o p (start p context cancelled) s)
    {begun : Instant} {result : RunResult} (hr : s.result p begun = some result) :
    ∃ before after, Reaches o p (start p context cancelled) before ∧ before.isOver = false ∧
      Move o p before after ∧ after.result p begun = some result ∧
      result.elapsedMs = after.now := by
  induction reached with
  | refl => simp [RunState.result] at hr
  | @tail s t reached m ih =>
    cases finished : s.isOver with
    | true =>
      have same := ((Orderly.of_reaches hp reached).result_of_move finished m).2 begun
      exact ih (same.symm.trans hr)
    | false => exact ⟨s, t, reached, finished, m, hr, elapsed_of_move m finished hr⟩

/-- No result was finished after the end of the run. -/
theorem finishedAt_le_elapsed (hp : p.Sound) (reached : Reaches o p (start p context cancelled) s)
    {begun : Instant} {result : RunResult} (hr : s.result p begun = some result) {r : StepResult}
    (mem : r ∈ result.steps) : r.finishedAt ≤ result.elapsedMs := by
  obtain ⟨before, after, reached, -, m, hr, elapsed⟩ := exists_last_move hp reached hr
  rw [elapsed]
  exact finishedAt_le (reached.tail m) ((isOver_of_result hr).2 ▸ mem)

end RunState

open RunState in
/-- A run that fails neither for a fault nor because it was cancelled is reported as overdue exactly
when its first blocking failure is a timeout and the deadline has passed by the end of the run; else
that step is named. So a timeout at or after the deadline always counts as overdue, and none does
in a run that ends before the deadline. -/
theorem overdue_iff_past_deadline_at_end {d : Dispatcher} {program : Program}
    (clean : program.Clean d.registry d.evaluator) {settings : ExecutionSettings} {scope : RunScope}
    {p : Plan} (plan : p = Plan.make d settings program scope) {context : RunContext}
    {cancelled : Bool} {s : RunState} (reached : Reaches .free p (start p context cancelled) s)
    {begun : Instant} {result : RunResult} (hr : s.result p begun = some result) :
    (result.failureReason = some .deadlineExceeded → ∃ r, program.FirstBlocking result.steps r ∧
      r.errorKind = some .timeout ∧ p.isPastDeadline result.elapsedMs = true) ∧
    ∀ r, program.FirstBlocking result.steps r →
      (∀ text, result.failureReason ≠ some (.engineFault text)) →
      result.failureReason ≠ some .cancelled →
      (result.failureReason = some .deadlineExceeded ↔
        r.errorKind = some .timeout ∧ p.isPastDeadline result.elapsedMs = true) ∧
      (result.failureReason ≠ some .deadlineExceeded →
        result.failureReason = some (.stepFailed r.stepId)) ∧
      (r.errorKind = some .timeout → p.isPastDeadline r.finishedAt = true →
        result.failureReason = some .deadlineExceeded) ∧
      (p.isPastDeadline result.elapsedMs = false →
        p.isPastDeadline r.finishedAt = false ∧
          result.failureReason = some (.stepFailed r.stepId)) := by
  have hp : p.Sound := plan ▸ Plan.sound_make clean settings scope
  have program_eq : p.program = program := by rw [plan]; rfl
  subst program_eq
  have because := ((Told.of_reaches hp reached).because hr).1
  have steps := (isOver_of_result hr).2
  refine ⟨fun reason => ?_, fun r blocking faultless uncut => ?_⟩
  · cases because with
    | fault _ other | cancelled _ other | completed _ _ other => simp [reason] at other
    | @blocked r _ blocking told =>
      rw [reason] at told
      split at told
      · next late => exact ⟨r, blocking, by simpa [and_comm] using late⟩
      · cases told
  · have late : p.isPastDeadline r.finishedAt = true → p.isPastDeadline result.elapsedMs = true :=
      p.isPastDeadline_mono (finishedAt_le_elapsed hp reached hr blocking.mem)
    cases because with
    | fault _ reason => exact absurd reason (faultless _)
    | cancelled _ reason => exact absurd reason uncut
    | completed _ unblocked => exact absurd blocking.1 (unblocked r blocking.mem)
    | @blocked r' _ first reason =>
      rw [steps] at blocking first
      obtain rfl := Option.some.inj ((firstBlockingFailure_eq_some_iff.2 first).symm.trans
        (firstBlockingFailure_eq_some_iff.2 blocking))
      rw [reason]
      cases past : p.isPastDeadline result.elapsedMs with
      | false => simp [past] at late; simp [late]
      | true => by_cases timeout : r'.errorKind = some .timeout <;> simp [timeout]

/-- A program with a call that times out after a second, and mail that the deadline cuts off after
three. -/
def Program.overdue : Program where
  id := "letters"
  status := .published
  execution := {
    strategy := .parallel, parallelLimit := 2, retryFailedSteps := false
    runDeadlineSeconds := some 3 }
  steps := [{ id := "call", action := { type := .assignTask }, timeoutSeconds := some 1 },
    { id := "mail" }]

theorem clean_overdue :
    Program.overdue.Clean Dispatcher.sluggish.registry Dispatcher.sluggish.evaluator :=
  .of_checks rfl (by decide +kernel) (by decide +kernel) (by decide +kernel)

def Plan.overdue : Plan := .sluggish .overdue

theorem sound_overdue : Plan.overdue.Sound := Plan.sound_make clean_overdue ..

theorem unreachable_overdue : Plan.overdue.unreachable = [] := by
  have capable : ∀ step ∈ Program.overdue.steps, step.trigger.type.isEntryCapable = true := by decide
  exact sound_overdue.unreachable_eq_nil fun step declared _ => capable step declared

/-- The end of the run on the virtual clock: the call times out after a second, and the run goes on
with the mail until the deadline. -/
def RunState.overdue : RunState :=
  (drive .overdue)^[8] (((drive .overdue)^[4] ((Plan.overdue.after 6).elapse 1000)).elapse 2000)

theorem reaches_overdue : Reaches (.patient .overdue) .overdue
    (RunState.start .overdue { runId := "run", tenantId := "tenant", now := ⟨0, 0⟩ } false)
    RunState.overdue := by
  have waits : (Plan.overdue.after 6).rests .overdue 1000 = true ∧
      RunState.rests .overdue 2000
        ((RunState.drive .overdue)^[4] ((Plan.overdue.after 6).elapse 1000)) = true := by
    simp only [Plan.after, RunState.start, unreachable_overdue]
    decide +kernel
  exact RunState.reaches_rested sound_overdue (RunState.reaches_rested sound_overdue
    (sound_overdue.reaches_after 6) waits.1 4) waits.2 8

theorem overdue_run : ∃ context s result r,
    Reaches (.patient .overdue) .overdue (RunState.start .overdue context false) s ∧
    s.result .overdue ⟨0, 0⟩ = some result ∧
    Program.overdue.FirstBlocking result.steps r ∧ r.stepId = "call" ∧
    r.error = some (.timeout 1) ∧ r.finishedAt = 1000 ∧ result.elapsedMs = 3000 ∧
    result.failureReason = some .deadlineExceeded := by
  have ends : (RunState.overdue.firstBlockingFailure .overdue).map
        (fun r => (r.stepId, r.error, r.finishedAt)) = some ("call", some (.timeout 1), 1000) ∧
      (RunState.overdue.result .overdue ⟨0, 0⟩).map (fun r => (r.elapsedMs, r.failureReason)) =
        some (3000, some .deadlineExceeded) := by
    simp only [RunState.overdue, Plan.after, RunState.start, unreachable_overdue]
    decide +kernel
  obtain ⟨blocks, told⟩ := ends
  obtain ⟨r, hr, own⟩ := Option.map_eq_some_iff.1 blocks
  obtain ⟨result, hresult, told⟩ := Option.map_eq_some_iff.1 told
  simp only [Prod.mk.injEq] at own told
  refine ⟨_, _, result, r, reaches_overdue, hresult, ?_, own.1, own.2.1, own.2.2, told⟩
  exact (RunState.isOver_of_result hresult).2 ▸ RunState.firstBlockingFailure_eq_some_iff.1 hr

/-- The deadline has passed when the mail is cut off. -/
theorem mail_is_cut_off_late : ∃ context s result r,
    Reaches .free .overdue (RunState.start .overdue context false) s ∧
    s.result .overdue ⟨0, 0⟩ = some result ∧ Program.overdue.FirstBlocking result.steps r ∧
    r.errorKind = some .timeout ∧ Plan.overdue.isPastDeadline result.elapsedMs = true := by
  obtain ⟨context, s, result, -, reached, hr, -, -, -, -, -, reason⟩ := overdue_run
  obtain ⟨r, blocking, timeout, late⟩ :=
    (overdue_iff_past_deadline_at_end clean_overdue rfl reached.free hr).1 reason
  exact ⟨context, s, result, r, reached.free, hr, blocking, timeout, late⟩

/-- The run is reported as overdue although its first blocking failure is a timeout of the step
itself that elapsed two seconds before the deadline. -/
theorem call_failed_before_deadline :
    Program.overdue.Clean Dispatcher.sluggish.registry Dispatcher.sluggish.evaluator ∧
    ∃ context s result r,
      Reaches (.patient .overdue) .overdue (RunState.start .overdue context false) s ∧
      s.result .overdue ⟨0, 0⟩ = some result ∧
      Program.overdue.FirstBlocking result.steps r ∧ r.stepId = "call" ∧
      r.error = some (.timeout 1) ∧ Plan.overdue.isPastDeadline r.finishedAt = false ∧
      result.failureReason = some .deadlineExceeded := by
  obtain ⟨context, s, result, r, reached, hr, blocking, own, error, moment, -, reason⟩ := overdue_run
  refine ⟨clean_overdue, context, s, result, r, reached, hr, blocking, own, error, ?_, reason⟩
  rw [moment]
  rfl

end Playbook
