import Playbook.Expression.Builtin
import Playbook.Handler.Builtin

/-!
What the checks of the built-in triggers promise. A trigger on an event or a delay that passes its
check comes to a decision, whatever the variables, the events and the clock are. So does a trigger
on the clock, unless it has a schedule and an instant beside it: its check reads the schedule then,
and its evaluation the instant.
-/
namespace Playbook.TriggerHandler

open Expression (Evaluator)

variable {step : Step} {s : TriggerScope} {v : Evaluator}

/-- A trigger has an instant that cannot be read and is not checked, as a schedule stands beside
it. -/
structure Unchecked (t : Trigger) (message : String) : Prop where
  schedule : t.schedule.isSome
  instant : ∃ text, t.at? = some text ∧ instant? text = .error message

theorem issueOf_eq_nil {α : Type} {r : Except String α} (h : issueOf r = []) : ∃ a, r = .ok a := by
  cases r with
  | ok a => exact ⟨a, rfl⟩
  | error message => cases h

/-! ### The clock -/

theorem timeDecision_at {t : Trigger} {text : String} (given : t.at? = some text) (now : Instant) :
    timeDecision t now = (instant? text).map fun i => atInstant i now := by
  unfold timeDecision
  rw [given]
  dsimp only
  cases instant? text <;> rfl

theorem timeDecision_schedule {t : Trigger} {text : String} {search : Search}
    (without : t.at? = none) (given : t.schedule = some text) (now : Instant) :
    timeDecision t now search = (schedule? text).map fun schedule =>
      atOccurrence text schedule (t.windowSeconds.getD defaultWindowSeconds) now search := by
  unfold timeDecision
  rw [without, given]
  dsimp only
  cases schedule? text <;> rfl

theorem outcome_timeBased {search : Search} (step : Step) (s : TriggerScope) :
    ((timeBased search).evaluate step s).outcome =
      .ok ((timeDecision step.trigger s.now search).mapError StepError.evaluation) := rfl

theorem timeBased_fails {message : String} (h : Unchecked step.trigger message) :
    (timeBased.evaluate step s).outcome = .ok (.error (.evaluation message)) := by
  obtain ⟨text, given, unreadable⟩ := h.instant
  rw [outcome_timeBased, timeDecision_at given, unreadable]
  rfl

/-- A checked trigger on the clock decides, unless it has an instant that was not checked. -/
theorem timeBased_decides (checked : timeBased.check step v = [])
    (read : ∀ message, ¬ Unchecked step.trigger message) :
    ∃ decision, (timeBased.evaluate step s).outcome = .ok (.ok decision) := by
  unfold timeBased at checked
  dsimp only at checked
  rw [outcome_timeBased]
  cases given : step.trigger.at? with
  | some text =>
    have readable : ∃ i, instant? text = .ok i := by
      cases schedule : step.trigger.schedule with
      | some expression =>
        cases instant : instant? text with
        | ok i => exact ⟨i, rfl⟩
        | error message => exact absurd ⟨by simp [schedule], text, given, instant⟩ (read message)
      | none =>
        rw [schedule, given] at checked
        exact issueOf_eq_nil checked
    obtain ⟨i, instant⟩ := readable
    rw [timeDecision_at given, instant]
    exact ⟨_, rfl⟩
  | none =>
    cases schedule : step.trigger.schedule with
    | some expression =>
      rw [schedule] at checked
      obtain ⟨parsed, parse⟩ := issueOf_eq_nil checked
      rw [timeDecision_schedule given schedule, parse]
      exact ⟨_, rfl⟩
    | none =>
      rw [schedule, given] at checked
      cases checked

/-! ### Events and delays -/

theorem userAction_decides (checked : userAction.check step v = []) :
    ∃ decision, (userAction.evaluate step s).outcome = .ok (.ok decision) := by
  unfold userAction at checked ⊢
  dsimp only at checked ⊢
  cases present : present? step.trigger.event with
  | none => simp [present] at checked
  | some event =>
    dsimp only
    split
    · exact ⟨_, rfl⟩
    · exact ⟨_, rfl⟩

theorem delayed_decides (live : s.cancelled = false) :
    ∃ decision, (delayed.evaluate step s).outcome = .ok (.ok decision) := by
  unfold delayed
  dsimp only
  split
  · exact ⟨_, rfl⟩
  · rw [live]
    exact ⟨_, rfl⟩

/-- Triggers that pass their check decide while the run is not cancelled. The one exception is an
instant beside a schedule, which is not checked: where it cannot be read the trigger fails. -/
theorem checked_trigger_decides_unless_unchecked
    (type : step.trigger.type = .timeBased ∨ step.trigger.type = .userAction ∨
      step.trigger.type = .delayed)
    (checked : (Registry.builtinTrigger step.trigger.type).check step v = [])
    (live : s.cancelled = false) :
    (∀ message, step.trigger.type = .timeBased → Unchecked step.trigger message →
      ((Registry.builtinTrigger step.trigger.type).evaluate step s).outcome =
        .ok (.error (.evaluation message))) ∧
    ((step.trigger.type = .timeBased → ∀ message, ¬ Unchecked step.trigger message) →
      ∃ decision, ((Registry.builtinTrigger step.trigger.type).evaluate step s).outcome =
        .ok (.ok decision)) := by
  rcases type with type | type | type <;> rw [type] at checked ⊢
  · exact ⟨fun _ _ => timeBased_fails, fun read => timeBased_decides checked (read rfl)⟩
  · exact ⟨fun _ => nofun, fun _ => userAction_decides checked⟩
  · exact ⟨fun _ => nofun, fun _ => delayed_decides live⟩

/-- A reminder at nine every day, with an instant beside its schedule. -/
def reminder (instant : String) : Step where
  id := "remind"
  trigger := { type := .timeBased, schedule := some "0 0 9 * * *", at? := some instant }

/-- A run that is not cancelled, at the start of the clock. -/
def atStart : TriggerScope where
  runId := "run"
  tenantId := "tenant"
  attempt := 1
  «variables» := []
  events := []
  now := ⟨0, 0⟩
  evaluator := .builtin {}
  cancelled := false

/-- The check of a reminder reads its schedule only. -/
theorem check_reminder (instant : String) (v : Evaluator) :
    timeBased.check (reminder instant) v = [] := by
  change issueOf (schedule? "0 0 9 * * *") = []
  decide +kernel

theorem reminder_with_instant_decides :
    (Registry.builtinTrigger .timeBased).check (reminder "2024-03-15T12:00:00Z") (.builtin {}) =
      [] ∧
    atStart.cancelled = false ∧
    ∃ decision, ((Registry.builtinTrigger .timeBased).evaluate (reminder "2024-03-15T12:00:00Z")
      atStart).outcome = .ok (.ok decision) := by
  have checked := check_reminder "2024-03-15T12:00:00Z" (.builtin {})
  have read : ∀ message, ¬ Unchecked (reminder "2024-03-15T12:00:00Z").trigger message := by
    rintro message ⟨-, text, given, unreadable⟩
    cases given
    have readable : (instant? "2024-03-15T12:00:00Z").toOption.isSome := by decide +kernel
    rw [unreadable] at readable
    cases readable
  obtain ⟨-, decides⟩ :=
    @checked_trigger_decides_unless_unchecked (reminder "2024-03-15T12:00:00Z") atStart
      (.builtin {}) (.inl rfl) checked rfl
  exact ⟨checked, rfl, decides fun _ => read⟩

/-- A reminder passes its check and fails, as its instant is no instant. -/
theorem reminder_soon_fails :
    (reminder "soon").trigger.type = .timeBased ∧
    (Registry.builtinTrigger .timeBased).check (reminder "soon") (.builtin {}) = [] ∧
    atStart.cancelled = false ∧
    ∃ message, ((Registry.builtinTrigger .timeBased).evaluate (reminder "soon") atStart).outcome =
      .ok (.error (.evaluation message)) := by
  refine ⟨rfl, check_reminder "soon" (.builtin {}), rfl, ?_⟩
  have unreadable : (instant? "soon").toOption.isNone := by decide +kernel
  cases came : instant? "soon" with
  | ok i =>
    rw [came] at unreadable
    cases unreadable
  | error message => exact ⟨message, timeBased_fails ⟨rfl, "soon", rfl, came⟩⟩

end Playbook.TriggerHandler
