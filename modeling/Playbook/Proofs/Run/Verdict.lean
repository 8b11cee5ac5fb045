import Playbook.Proofs.Run.Attempts

/-!
What the attempts at a step come to, told beforehand. An attempt comes to its own result unless it
takes longer than its timeout, and attempts follow each other while they may be repeated. Where the
clock lets no alarm pass unnoticed and nothing cuts a run short, a job comes to exactly this.
-/
namespace Playbook

open Json (Value)

namespace Activity

variable {ε α : Type}

/-- Up to its next halt an activity takes no time. -/
theorem advance_cases (a : Activity ε α) :
    match a.advance.2 with
    | .done r => a.outcome = .ok r ∧ a.duration = 0
    | .panic message => a.outcome = .error message ∧ a.duration = 0
    | .asleep ms rest => 0 < ms ∧ a.outcome = rest.outcome ∧ a.duration = ms + rest.duration := by
  induction a with
  | done | panic => exact ⟨rfl, rfl⟩
  | record e rest ih => exact ih
  | sleep ms rest ih =>
    by_cases hms : ms = 0
    · simp only [advance, hms, if_true, outcome, duration, Nat.zero_add]
      exact ih
    · simp only [advance, hms, if_false]
      exact ⟨Nat.pos_of_ne_zero hms, rfl, rfl⟩

end Activity

namespace Plan

/-- What an attempt at a step comes to: its own result or a panic, if it takes no longer than its
timeout. -/
def attemptEnd (p : Plan) (vars : List (String × Value)) (step : Step) (number : Nat) :
    Except String StepResult :=
  let attempt := p.attempt vars step number
  if attempt.duration ≤ p.timeoutMs step then attempt.outcome.map StepResult.timeless
  else .ok (StepResult.failed step.id number (.timeout (p.timeoutSeconds step)) .unevaluated)

/-- What the attempts at a step come to, from one of them on. -/
def verdict (p : Plan) (vars : List (String × Value)) (step : Step) :
    (retriesLeft number : Nat) → Except String StepResult
  | 0, number => p.attemptEnd vars step number
  | left + 1, number =>
    match p.attemptEnd vars step number with
    | .ok r => if Job.mayRetry false r then p.verdict vars step left (number + 1) else .ok r
    | .error message => .error message

/-- What the attempts at a step come to when one of them comes to something. -/
def verdictAfter (p : Plan) (vars : List (String × Value)) (step : Step)
    (retriesLeft number : Nat) : Except String StepResult → Except String StepResult
  | .error message => .error message
  | .ok r =>
    match retriesLeft with
    | 0 => .ok r
    | left + 1 => if Job.mayRetry false r then p.verdict vars step left (number + 1) else .ok r

theorem verdict_eq (p : Plan) (vars : List (String × Value)) (step : Step) (left number : Nat) :
    p.verdict vars step left number =
      p.verdictAfter vars step left number (p.attemptEnd vars step number) := by
  cases left <;> cases h : p.attemptEnd vars step number <;> simp [verdict, verdictAfter, h]

end Plan

namespace Job

@[simp] theorem mayRetry_timeless (cancelled : Bool) (r : StepResult) :
    mayRetry cancelled r.timeless = mayRetry cancelled r := rfl

/-- What an attempt that lets time pass comes to. -/
def comesTo (p : Plan) (j : Job) (w : Working) : Except String StepResult :=
  if w.wake.due + w.rest.duration ≤ w.cut.due then w.rest.outcome.map StepResult.timeless
  else .ok (StepResult.failed j.step.id j.attempt (.timeout (p.timeoutSeconds j.step)) .unevaluated)

/-- A job whose attempts come to a known end. No alarm of its attempt has passed unnoticed. -/
def Foreseen (p : Plan) (step : Step) (vars : List (String × Value)) (e : Except String StepResult)
    (now : Nat) (j : Job) (q : Point) : Prop :=
  j.step = step ∧ j.variables = vars ∧
    match q with
    | .starting => p.verdict vars step j.retriesLeft j.attempt = e
    | .working w => w.byDeadline = false ∧ now ≤ w.wake.due ∧ now ≤ w.cut.due ∧
        p.verdictAfter vars step j.retriesLeft j.attempt (j.comesTo p w) = e
    | .concluded r => p.verdictAfter vars step j.retriesLeft j.attempt (.ok r.timeless) = e
    | .backingOff _ _ => p.verdict vars step j.retriesLeft (j.attempt + 1) = e

/-- Time that passes no alarm of the job does not change what it comes to. -/
theorem Foreseen.elapse {p : Plan} {step : Step} {vars : List (String × Value)}
    {e : Except String StepResult} {now ms : Nat} {j : Job}
    (h : Foreseen p step vars e now j j.point)
    (punctual : ∀ a ∈ j.alarms, now + ms ≤ a.due) :
    Foreseen p step vars e (now + ms) j j.point := by
  obtain ⟨hs, hv, he⟩ := h
  refine ⟨hs, hv, ?_⟩
  unfold alarms at punctual
  unfold point at he ⊢
  cases hp : j.phase with
  | starting | backingOff =>
    rw [hp] at he
    exact he
  | working w =>
    rw [hp] at he punctual
    obtain ⟨own, -, -, he⟩ := he
    exact ⟨own, punctual w.wake (by simp), punctual w.cut (by simp), he⟩

/-- The outcome is the known end, or a panic. -/
def Meets (e : Except String StepResult) : JobOutcome → Prop :=
  EndsWith fun r => e = .ok r.timeless

theorem comesTo_of_cut {p : Plan} {j : Job} {w : Working}
    (h : w.cut.due < w.wake.due + w.rest.duration) (own : w.byDeadline = false) (now : Nat) :
    j.comesTo p w = .ok (j.broken (j.cutError p w) w.startedAt now).timeless := by
  unfold comesTo cutError
  rw [if_neg (Nat.not_le_of_lt h), own]
  rfl

/-- Going on with an attempt in the moment of its alarm leads where it was known to lead. -/
theorem leads_goOn_foreseen {p : Plan} {now turn : Nat} {step : Step} {vars : List (String × Value)}
    {e : Except String StepResult} {j : Job} {w : Working}
    (h : Foreseen p step vars e now j (.working w)) (rings : w.wake.rings now = true) :
    Leads (Foreseen p step vars e now) (Meets e) j (j.goOn p now turn w).2 := by
  obtain ⟨hs, hv, own, early, inTime, he⟩ := h
  have moment : w.wake.due = now := by
    simp only [Alarm.rings, decide_eq_true_eq] at rings
    omega
  have ahead := w.rest.advance_cases
  rcases goOn_cases p now turn j w with
    ⟨r, hr, hg⟩ | ⟨message, -, hg⟩ | ⟨ms, rest, hr, ⟨cut, hg⟩ | ⟨uncut, hg⟩⟩
  · rw [hr] at ahead
    rw [hg]
    refine ⟨hs, hv, ?_⟩
    have comes : j.comesTo p w = .ok r.timeless := by
      unfold comesTo
      rw [ahead.2, if_pos (by omega), ahead.1]
      rfl
    rw [comes] at he
    exact he
  · rw [hg]
    trivial
  · rw [hr] at ahead
    rw [hg]
    refine ⟨hs, hv, ?_⟩
    simp only [Alarm.rings, decide_eq_true_eq] at cut
    rw [comesTo_of_cut (by omega) own now] at he
    exact he
  · rw [hr] at ahead
    rw [hg]
    simp only [Alarm.rings, decide_eq_false_iff_not, Nat.not_le] at uncut
    refine ⟨hs, hv, own, Nat.le_add_right now ms, inTime, ?_⟩
    have comes : j.comesTo p { w with wake := ⟨now + ms, turn⟩, rest } = j.comesTo p w := by
      unfold comesTo
      rw [ahead.2.1, ahead.2.2, moment, Nat.add_assoc]
    rw [comes]
    exact he

/-- Without a deadline and a cancellation every poll keeps what a job comes to. -/
theorem kept_foreseen {p : Plan} (endless : p.deadline = none) (now turn : Nat) (step : Step)
    (vars : List (String × Value)) (e : Except String StepResult) :
    Kept p now turn false (Foreseen p step vars e now) (Meets e) where
  phase := by
    rintro j q phase ⟨hs, hv, hq⟩
    cases q <;> exact ⟨hs, hv, hq⟩
  start := by
    rintro j ⟨hs, hv, he⟩
    have onTime : p.isPastDeadline now = false := by simp [Plan.isPastDeadline, endless]
    rcases start_cases p now turn false j with ⟨late, -⟩ | ⟨-, cancelled, -⟩ | ⟨-, -, h⟩
    · simp [onTime] at late
    · cases cancelled
    · rw [h]
      refine leads_goOn_foreseen ⟨hs, hv, ?_, Nat.le_refl now, Nat.le_add_right .., ?_⟩
        (by simp [opening, Alarm.rings])
      · simp [opening, endless]
      · have comes : j.comesTo p (j.opening p now turn) = p.attemptEnd vars step j.attempt := by
          unfold comesTo Plan.attemptEnd opening
          simp only [endless, hs, hv, Nat.add_le_add_iff_left]
        rw [comes, ← p.verdict_eq]
        exact he
  goOn := fun j w h _ rings => leads_goOn_foreseen h rings
  interrupt := fun j w _ cancelled => Bool.noConfusion cancelled
  cut := by
    rintro j w ⟨hs, hv, own, early, inTime, he⟩ - asleep cut
    refine ⟨hs, hv, ?_⟩
    simp only [Alarm.rings, decide_eq_true_eq, decide_eq_false_iff_not] at asleep cut
    rw [comesTo_of_cut (by omega) own now] at he
    exact he
  giveUp := by
    rintro j r ⟨-, -, he⟩ last
    change e = .ok r.timeless
    rw [← he]
    unfold Plan.verdictAfter
    rcases last with last | last
    · simp [last]
    · simp only [mayRetry_timeless, last]
      split <;> simp_all
  retryLater := by
    rintro j r left ⟨hs, hv, he⟩ hleft retry
    refine ⟨hs, hv, ?_⟩
    rw [hleft] at he
    simpa [Plan.verdictAfter, retry] using he
  resume := fun j wake r h _ => h
  abandon := fun j wake r _ cancelled => Bool.noConfusion cancelled

end Job
end Playbook
