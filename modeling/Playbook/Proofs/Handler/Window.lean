import Playbook.Proofs.Cron.Search
import Playbook.Proofs.Handler.TriggerCheck

/-!
The window of a trigger on the clock. With a search that finds the next occurrence, the trigger fires
exactly when its schedule has an occurrence in the window; so a wider window fires whenever a narrower
one does, and checks whose windows reach back to the check before miss no occurrence. The search of
the program is such a search where it starts in a year of the schedule.
-/
namespace Playbook.TriggerHandler

open Cron (Schedule)

variable {search : Search} {step : Step} {s : TriggerScope} {expression : String}
  {schedule : Schedule} {t now : Instant} {window : Nat}

/-- How many seconds the window of a step reaches back. -/
def reach (step : Step) : Nat := min (step.trigger.windowSeconds.getD 60) (366 * 24 * 3600)

/-- An instant after the start of a window, and not after its end. -/
def InWindow (seconds : Nat) (now t : Instant) : Prop :=
  (now.addSeconds (-seconds)).lt t = true ∧ t.le now = true

def Fires (search : Search) (step : Step) (s : TriggerScope) : Prop :=
  ∃ d, ((timeBased search).evaluate step s).outcome = .ok (.ok d) ∧ d.fired = true

/-- The same step with another window. -/
def withWindow (step : Step) (seconds : Nat) : Step :=
  { step with trigger := { step.trigger with windowSeconds := some seconds } }

theorem InWindow.widen {m n : Nat} (h : InWindow m now t) (le : m ≤ n) : InWindow n now t :=
  ⟨Instant.lt_of_le_of_lt (Instant.addSeconds_neg_antitone le) h.1, h.2⟩

theorem sound_schedule? (valid : schedule? expression = .ok schedule) : schedule.Sound := by
  unfold schedule? at valid
  split at valid
  next parsed =>
    cases valid
    exact Schedule.sound_parse? parsed
  next => cases valid

/-! ### One check -/

/-- The first occurrence after the start of the window decides for all: it is in the window if any
of them is. -/
theorem fired_atOccurrence_iff
    (next : schedule.NextIs (now.addSeconds (-(min window maxWindowSeconds : Nat)))
      (search schedule (now.addSeconds (-(min window maxWindowSeconds : Nat))))) :
    (atOccurrence expression schedule window now search).fired = true ↔
      ∃ t, schedule.Occurs t ∧ InWindow (min window maxWindowSeconds) now t := by
  unfold atOccurrence
  dsimp only
  cases found : search schedule (now.addSeconds (-(min window maxWindowSeconds : Nat))) with
  | none =>
    rw [found] at next
    refine ⟨nofun, ?_⟩
    rintro ⟨t, occurs, later, -⟩
    rw [next t occurs] at later
    cases later
  | some u =>
    rw [found] at next
    obtain ⟨occurs, later, least⟩ := next
    dsimp only
    split
    next reached => exact ⟨fun _ => ⟨u, occurs, later, reached⟩, fun _ => rfl⟩
    next ahead =>
      refine ⟨nofun, ?_⟩
      rintro ⟨t, occurs', later', reached⟩
      exact absurd (Instant.le_trans (least t occurs' later') reached) ahead

theorem decides_by_schedule (without : step.trigger.at? = none)
    (given : step.trigger.schedule = some expression) (valid : schedule? expression = .ok schedule) :
    ((timeBased search).evaluate step s).outcome = .ok (.ok (atOccurrence expression schedule
      (step.trigger.windowSeconds.getD defaultWindowSeconds) s.now search)) := by
  rw [outcome_timeBased, timeDecision_schedule without given, valid]
  rfl

/-- The trigger comes to a decision, and it is to fire when an occurrence lies in the window. -/
theorem decides_by_window (without : step.trigger.at? = none)
    (given : step.trigger.schedule = some expression) (valid : schedule? expression = .ok schedule)
    (next : schedule.NextIs (s.now.addSeconds (-reach step))
      (search schedule (s.now.addSeconds (-reach step)))) :
    ∃ d, ((timeBased search).evaluate step s).outcome = .ok (.ok d) ∧
      (d.fired = true ↔ ∃ t, schedule.Occurs t ∧ InWindow (reach step) s.now t) :=
  ⟨_, decides_by_schedule without given valid, fired_atOccurrence_iff next⟩

theorem fires_iff (without : step.trigger.at? = none)
    (given : step.trigger.schedule = some expression) (valid : schedule? expression = .ok schedule)
    (next : schedule.NextIs (s.now.addSeconds (-reach step))
      (search schedule (s.now.addSeconds (-reach step)))) :
    Fires search step s ↔ ∃ t, schedule.Occurs t ∧ InWindow (reach step) s.now t := by
  obtain ⟨d, came, fired⟩ := decides_by_window without given valid next
  rw [← fired, Fires, came]
  simp

/-! ### Checks one after the other -/

/-- Each check but the first looks back to the one before it at least. -/
def Linked (seconds : Nat) (checks : List TriggerScope) : Prop :=
  checks.IsChain fun earlier later => (later.now.addSeconds (-seconds)).le earlier.now = true

/-- Between the first of linked checks and a later one, each instant lies in a window: in that of the
first check that it does not lie after. -/
theorem exists_inWindow {seconds : Nat} {first : TriggerScope} {checks : List TriggerScope}
    (linked : Linked seconds (first :: checks)) (after : first.now.lt t = true)
    (before : ∃ s ∈ checks, t.le s.now = true) : ∃ s ∈ checks, InWindow seconds s.now t := by
  induction checks generalizing first with
  | nil => simp at before
  | cons check rest ih =>
    obtain ⟨near, linked⟩ := List.isChain_cons_cons.1 linked
    by_cases reached : t.le check.now = true
    · exact ⟨check, by simp, Instant.lt_of_le_of_lt near after, reached⟩
    · have before' : ∃ s ∈ rest, t.le s.now = true := by simpa [reached] using before
      obtain ⟨s, mem, inside⟩ := ih linked (Instant.lt_of_not_le reached) before'
      exact ⟨s, List.mem_cons_of_mem _ mem, inside⟩

/-- With a search that finds the next occurrence, a trigger with a schedule fires exactly when an
occurrence lies after the start of its window and not after the check. So it still fires with a wider
window, and of checks whose windows reach back to the check before one fires for each occurrence. -/
theorem fires_on_occurrence_in_window (without : step.trigger.at? = none)
    (given : step.trigger.schedule = some expression) (valid : schedule? expression = .ok schedule)
    (next : ∀ t, schedule.NextIs t (search schedule t)) :
    (∀ s, ∃ d, ((timeBased search).evaluate step s).outcome = .ok (.ok d) ∧
      (d.fired = true ↔ ∃ t, schedule.Occurs t ∧ InWindow (reach step) s.now t)) ∧
    (∀ s wider, step.trigger.windowSeconds.getD 60 ≤ wider → Fires search step s →
      Fires search (withWindow step wider) s) ∧
    ∀ first checks, Linked (reach step) (first :: checks) → ∀ t, schedule.Occurs t →
      first.now.lt t = true → (∃ s ∈ checks, t.le s.now = true) →
      ∃ s ∈ checks, InWindow (reach step) s.now t ∧ Fires search step s := by
  refine ⟨fun s => decides_by_window without given valid (next _), ?_, ?_⟩
  · intro s wider le fires
    have wide : reach step ≤ reach (withWindow step wider) := min_le_min_right _ le
    obtain ⟨t, occurs, inside⟩ := (fires_iff without given valid (next _)).1 fires
    have widened : Fires search (withWindow step wider) s ↔
        ∃ t, schedule.Occurs t ∧ InWindow (reach (withWindow step wider)) s.now t :=
      fires_iff without given valid (next _)
    exact widened.2 ⟨t, occurs, inside.widen wide⟩
  · intro first checks linked t occurs after before
    obtain ⟨s, mem, inside⟩ := exists_inWindow linked after before
    exact ⟨s, mem, inside, (fires_iff without given valid (next _)).2 ⟨t, occurs, inside⟩⟩

/-- A reminder at every full hour, with a window of a quarter of an hour. -/
def hourly : Step where
  id := "remind"
  trigger := { type := .timeBased, schedule := some "0 0 * * * *", windowSeconds := some 900 }

/-- Twelve o'clock, and ten minutes and a quarter of a second later. -/
def twelve : Instant := ⟨1710504000, 0⟩
def pastTwelve : TriggerScope := { atStart with now := ⟨1710504600, 250000000⟩ }

theorem hourly_fires_past_twelve : ∃ schedule, hourly.trigger.at? = none ∧
    hourly.trigger.schedule = some "0 0 * * * *" ∧ schedule? "0 0 * * * *" = .ok schedule ∧
    (∀ t, schedule.NextIs t (schedule.soonest? t)) ∧
    schedule.soonest? (pastTwelve.now.addSeconds (-reach hourly)) =
      schedule.next? (pastTwelve.now.addSeconds (-reach hourly)) ∧
    ∃ d, ((timeBased Schedule.soonest?).evaluate hourly pastTwelve).outcome = .ok (.ok d) ∧
      d.fired = true := by
  obtain ⟨schedule, named⟩ : ∃ schedule, Schedule.named? "@hourly" = some schedule := ⟨_, rfl⟩
  have valid : schedule? "0 0 * * * *" = .ok schedule := by
    have read : (schedule? "0 0 * * * *").toOption = Schedule.named? "@hourly" := by decide +kernel
    rw [named] at read
    cases came : schedule? "0 0 * * * *" with
    | error message => simp [came, Except.toOption] at read
    | ok parsed =>
      rw [came] at read
      exact congrArg _ (Option.some.inj read)
  have sound := sound_schedule? valid
  have next := Schedule.nextIs_soonest? sound
  have starts : schedule.StartsInYear (pastTwelve.now.addSeconds (-reach hourly)) := by
    cases named
    exact .inl ⟨2024, by decide +kernel, by decide +kernel⟩
  have occurs : schedule.Occurs twelve := by
    cases named
    exact ⟨rfl, by decide +kernel⟩
  obtain ⟨decides, -⟩ :=
    @fires_on_occurrence_in_window Schedule.soonest? hourly _ schedule rfl rfl valid next
  obtain ⟨d, came, fired⟩ := decides pastTwelve
  exact ⟨schedule, rfl, rfl, valid, next, (Schedule.next?_eq_soonest? sound starts).symm, d, came,
    fired.2 ⟨twelve, occurs, by decide, by decide⟩⟩

/-- The trigger as it is built in, where its window starts in a year of the schedule. -/
theorem builtin_fires_on_occurrence_in_window (without : step.trigger.at? = none)
    (given : step.trigger.schedule = some expression) (valid : schedule? expression = .ok schedule)
    (starts : schedule.StartsInYear (s.now.addSeconds (-reach step))) :
    ∃ d, ((Registry.builtinTrigger .timeBased).evaluate step s).outcome = .ok (.ok d) ∧
      (d.fired = true ↔ ∃ t, schedule.Occurs t ∧ InWindow (reach step) s.now t) :=
  decides_by_window without given valid (Schedule.nextIs_next? (sound_schedule? valid) starts)

-- Ten seconds into 1970 the window starts before the first year that a schedule can have, and the
-- trigger holds though each of the ten seconds is an occurrence.
example : (schedule? "* * * * * *").toOption.map (fun schedule =>
    (atOccurrence "* * * * * *" schedule 60 ⟨10, 0⟩).fired) = some false := by
  decide +kernel

end Playbook.TriggerHandler
