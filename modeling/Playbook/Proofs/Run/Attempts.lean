import Playbook.Proofs.Program.Clean
import Playbook.Run.Job

/-!
What polls keep of a job. A poll takes a job from one point of its attempts to another; a property
that each of these small steps keeps holds after every poll, and what it says of the end holds of
the outcome. The first property that is kept this way: a job stays with its step and the variables
of its dispatch, and ends with a result of its step.
-/
namespace Playbook
namespace Job

/-- Where a job stands between the small steps of a poll. -/
inductive Point where
  | starting
  | working (w : Working)
  | concluded (r : StepResult)
  | backingOff (wake : Alarm) (r : StepResult)

/-- Where a waiting job stands. -/
def point (j : Job) : Point :=
  match j.phase with
  | .starting => .starting
  | .working w => .working w
  | .backingOff wake last => .backingOff wake last

/-- Where a stretch of an attempt leads to. -/
def Leads (I : Job → Point → Prop) (F : JobOutcome → Prop) (j : Job) : Stretch → Prop
  | .result r => I j (.concluded r)
  | .panicked message => F (.panicked message)
  | .asleep w => I j (.working w)

/-- What a poll leads to. -/
def Settles (I : Job → Point → Prop) (F : JobOutcome → Prop) : Polled → Prop
  | .waiting j => I j j.point
  | .ended outcome => F outcome

/-- A property of jobs at points and of what has been recorded until then that every small step
keeps, and a property of their outcomes. -/
structure Logged (p : Plan) (now turn : Nat) (cancelled : Bool)
    (I : List LogEntry → Job → Point → Prop) (F : List LogEntry → JobOutcome → Prop) : Prop where
  phase : ∀ log j q phase, I log j q → I log { j with phase } q
  start : ∀ log j, I log j .starting →
    Leads (I (log ++ (j.start p now turn cancelled).1)) (F (log ++ (j.start p now turn cancelled).1))
      j (j.start p now turn cancelled).2
  goOn : ∀ log j w, I log j (.working w) → cancelled = false → w.wake.rings now = true →
    Leads (I (log ++ (j.goOn p now turn w).1)) (F (log ++ (j.goOn p now turn w).1)) j
      (j.goOn p now turn w).2
  interrupt : ∀ log j w, I log j (.working w) → cancelled = true →
    I log j (.concluded (j.broken .cancelled w.startedAt now))
  cut : ∀ log j w, I log j (.working w) → cancelled = false → w.wake.rings now = false →
    w.cut.rings now = true → I log j (.concluded (j.broken (j.cutError p w) w.startedAt now))
  giveUp : ∀ log j r, I log j (.concluded r) → j.retriesLeft = 0 ∨ mayRetry cancelled r = false →
    F log (.finished r j.superseded)
  retryLater : ∀ log j r left, I log j (.concluded r) → j.retriesLeft = left + 1 →
    mayRetry cancelled r = true →
    I (log ++ [j.retriedEntry now r]) { j with retriesLeft := left }
      (.backingOff ⟨now + j.backoffMs, turn⟩ r)
  resume : ∀ log j wake r, I log j (.backingOff wake r) → cancelled = false →
    wake.rings now = true → I log (j.next p r) .starting
  abandon : ∀ log j wake r, I log j (.backingOff wake r) → cancelled = true →
    F log (.finished r j.superseded)

section logged

variable {p : Plan} {now turn : Nat} {cancelled : Bool} {I : List LogEntry → Job → Point → Prop}
  {F : List LogEntry → JobOutcome → Prop}

theorem Logged.conclude (k : Logged p now turn cancelled I F) {left : Nat} {log : List LogEntry}
    {j : Job} {r : StepResult} (hleft : j.retriesLeft = left) (h : I log j (.concluded r)) :
    Settles (I (log ++ (conclude p now turn cancelled left j r).1))
      (F (log ++ (conclude p now turn cancelled left j r).1))
      (conclude p now turn cancelled left j r).2 := by
  induction left generalizing log j r with
  | zero => exact (log.append_nil).symm ▸ k.giveUp log j r h (.inl hleft)
  | succ left ih =>
    rw [Job.conclude]
    by_cases retry : mayRetry cancelled r = true
    · have later := k.retryLater log j r left h hleft retry
      have calm : cancelled = false := by
        simp only [mayRetry, Bool.and_eq_true, Bool.not_eq_true'] at retry
        exact retry.1.2
      simp only [retry, if_true]
      by_cases pause : 0 < j.backoffMs
      · simp only [pause, if_true]
        exact k.phase _ _ _ _ later
      · simp only [pause, if_false]
        have rings : Alarm.rings ⟨now + j.backoffMs, turn⟩ now = true := by
          simp [Alarm.rings, Nat.eq_zero_of_not_pos pause]
        have started := k.start _ _ (k.resume _ _ _ r later calm rings)
        rw [List.append_assoc] at started
        split
        · next heq =>
          rw [heq] at started
          exact started
        · next w heq =>
          rw [heq] at started
          exact k.phase _ _ (.working w) _ started
        · next more r' heq =>
          rw [heq] at started
          have settles := ih rfl started
          rw [List.append_assoc] at settles
          exact settles
    · simp only [retry, Bool.false_eq_true, if_false, List.append_nil]
      exact k.giveUp log j r h (.inr (by simpa using retry))

theorem Logged.settle (k : Logged p now turn cancelled I F) {log : List LogEntry} {j : Job}
    {stretch : List LogEntry × Stretch}
    (h : Leads (I (log ++ stretch.1)) (F (log ++ stretch.1)) j stretch.2) :
    Settles (I (log ++ (j.settle p now turn cancelled stretch).1))
      (F (log ++ (j.settle p now turn cancelled stretch).1))
      (j.settle p now turn cancelled stretch).2 := by
  obtain ⟨more, stretch⟩ := stretch
  cases stretch with
  | result r =>
    have settles := k.conclude rfl h
    rw [List.append_assoc] at settles
    exact settles
  | panicked message => exact h
  | asleep w => exact k.phase _ _ _ _ h

/-- Every poll keeps what every small step keeps. -/
theorem Logged.poll (k : Logged p now turn cancelled I F) (log : List LogEntry) {j : Job}
    (h : I log j j.point) :
    Settles (I (log ++ (j.poll p now turn cancelled).1)) (F (log ++ (j.poll p now turn cancelled).1))
      (j.poll p now turn cancelled).2 := by
  have silent : ∀ {q}, I log j q → I (log ++ []) j q := fun hq => (log.append_nil).symm ▸ hq
  unfold Job.poll
  cases hp : j.phase with
  | starting =>
    rw [point, hp] at h
    exact k.settle (k.start log j h)
  | working w =>
    rw [point, hp] at h
    simp only
    split
    · next hc => exact k.settle (silent (k.interrupt log j w h hc))
    · next hc =>
      rw [Bool.not_eq_true] at hc
      split
      · next hw => exact k.settle (k.goOn log j w h hc hw)
      · next hw =>
        split
        · next hcut => exact k.settle (silent (k.cut log j w h hc (by simpa using hw) hcut))
        · refine silent ?_
          rw [point, hp]
          exact h
  | backingOff wake last =>
    rw [point, hp] at h
    simp only
    split
    · next hc => exact (log.append_nil).symm ▸ k.abandon log j wake last h hc
    · next hc =>
      rw [Bool.not_eq_true] at hc
      split
      · next rings => exact k.settle (k.start _ _ (k.resume log j wake last h hc rings))
      · refine silent ?_
        rw [point, hp]
        exact h

end logged

/-- A property of jobs at points that every small step keeps, whatever is recorded, and a property of
their outcomes. -/
structure Kept (p : Plan) (now turn : Nat) (cancelled : Bool) (I : Job → Point → Prop)
    (F : JobOutcome → Prop) : Prop where
  phase : ∀ j q phase, I j q → I { j with phase } q
  start : ∀ j, I j .starting → Leads I F j (j.start p now turn cancelled).2
  goOn : ∀ j w, I j (.working w) → cancelled = false → w.wake.rings now = true →
    Leads I F j (j.goOn p now turn w).2
  interrupt : ∀ j w, I j (.working w) → cancelled = true →
    I j (.concluded (j.broken .cancelled w.startedAt now))
  cut : ∀ j w, I j (.working w) → cancelled = false → w.wake.rings now = false →
    w.cut.rings now = true → I j (.concluded (j.broken (j.cutError p w) w.startedAt now))
  giveUp : ∀ j r, I j (.concluded r) → j.retriesLeft = 0 ∨ mayRetry cancelled r = false →
    F (.finished r j.superseded)
  retryLater : ∀ j r left, I j (.concluded r) → j.retriesLeft = left + 1 →
    mayRetry cancelled r = true →
    I { j with retriesLeft := left } (.backingOff ⟨now + j.backoffMs, turn⟩ r)
  resume : ∀ j wake r, I j (.backingOff wake r) → wake.rings now = true →
    I (j.next p r) .starting
  abandon : ∀ j wake r, I j (.backingOff wake r) → cancelled = true →
    F (.finished r j.superseded)

/-- Every poll keeps what every small step keeps. -/
theorem Kept.poll {p : Plan} {now turn : Nat} {cancelled : Bool} {I : Job → Point → Prop}
    {F : JobOutcome → Prop} (k : Kept p now turn cancelled I F) {j : Job} (h : I j j.point) :
    Settles I F (j.poll p now turn cancelled).2 := by
  have logged : Logged p now turn cancelled (fun _ => I) fun _ => F := {
    phase := fun _ => k.phase
    start := fun _ => k.start
    goOn := fun _ => k.goOn
    interrupt := fun _ => k.interrupt
    cut := fun _ => k.cut
    giveUp := fun _ => k.giveUp
    retryLater := fun _ => k.retryLater
    resume := fun _ j wake r h _ rings => k.resume j wake r h rings
    abandon := fun _ => k.abandon }
  exact logged.poll [] h

/-- Going on with an attempt comes to its result, to a panic, to its cut, or to another sleep. -/
theorem goOn_cases (p : Plan) (now turn : Nat) (j : Job) (w : Working) :
    (∃ r, w.rest.advance.2 = .done r ∧
        (j.goOn p now turn w).2 = .result (r.between w.startedAt now)) ∨
      (∃ message, w.rest.advance.2 = .panic message ∧
        (j.goOn p now turn w).2 = .panicked message) ∨
      ∃ ms rest, w.rest.advance.2 = .asleep ms rest ∧
        (w.cut.rings now = true ∧
            (j.goOn p now turn w).2 = .result (j.broken (j.cutError p w) w.startedAt now) ∨
          w.cut.rings now = false ∧
            (j.goOn p now turn w).2 = .asleep { w with wake := ⟨now + ms, turn⟩, rest }) := by
  unfold goOn
  split
  next events halt heq =>
    cases halt with
    | done r => exact .inl ⟨r, by rw [heq], rfl⟩
    | panic message => exact .inr (.inl ⟨message, by rw [heq], rfl⟩)
    | asleep ms rest =>
      refine .inr (.inr ⟨ms, rest, by rw [heq], ?_⟩)
      cases hc : w.cut.rings now
      · exact .inr ⟨rfl, rfl⟩
      · exact .inl ⟨rfl, rfl⟩

theorem log_goOn (p : Plan) (now turn : Nat) (j : Job) (w : Working) :
    (j.goOn p now turn w).1 = w.rest.advance.1.map (j.entry now) := by
  unfold goOn
  split
  next events halt heq =>
    cases halt with
    | done | panic => rw [heq]
    | asleep ms rest =>
      rw [heq]
      simp only
      split <;> rfl

/-- The attempt with which a job starts, in the moment in which it starts. -/
def opening (p : Plan) (now turn : Nat) (j : Job) : Working where
  startedAt := now
  cut := ⟨now + (match p.deadline with
    | some deadline => min (deadline - now) (p.timeoutMs j.step)
    | none => p.timeoutMs j.step), turn⟩
  byDeadline := match p.deadline with
    | some deadline => decide (deadline - now < p.timeoutMs j.step)
    | none => false
  wake := ⟨now, turn⟩
  rest := p.attempt j.variables j.step j.attempt

/-- An attempt does not begin after the deadline, ends at once when the run is cancelled, and else
goes on from its opening. -/
theorem start_cases (p : Plan) (now turn : Nat) (cancelled : Bool) (j : Job) :
    (p.isPastDeadline now = true ∧
        (j.start p now turn cancelled).2 = .result (j.broken .deadline now now)) ∨
      (p.isPastDeadline now = false ∧ cancelled = true ∧
        (j.start p now turn cancelled).2 = .result (j.broken .cancelled now now)) ∨
      (p.isPastDeadline now = false ∧ cancelled = false ∧
        (j.start p now turn cancelled).2 = (j.goOn p now turn (j.opening p now turn)).2) := by
  unfold start
  cases hd : p.isPastDeadline now
  · cases cancelled
    · exact .inr (.inr ⟨rfl, rfl, rfl⟩)
    · exact .inr (.inl ⟨rfl, rfl, rfl⟩)
  · exact .inl ⟨rfl, rfl⟩

/-- A refused attempt records nothing, and any other one its start. -/
theorem log_start (p : Plan) (now turn : Nat) (cancelled : Bool) (j : Job) :
    (j.start p now turn cancelled).1 =
      if p.isPastDeadline now then []
      else j.entry now .stepStarted ::
        if cancelled then [] else (j.goOn p now turn (j.opening p now turn)).1 := by
  unfold start
  split
  · rfl
  · cases cancelled <;> rfl

/-- A result of a step that has been dispatched. -/
def OfStep (stepId : String) (r : StepResult) : Prop := ∃ n, 1 ≤ n ∧ r.OfAttempt stepId n

/-- A job stays with its step and variables, and its attempts come to results of the step. -/
def Faithful (step : Step) (vars : List (String × Json.Value)) (j : Job) (q : Point) : Prop :=
  j.step = step ∧ j.variables = vars ∧ 1 ≤ j.attempt ∧
    match q with
    | .starting => True
    | .working w => w.rest.Yields (StepResult.OfAttempt step.id j.attempt)
    | .concluded r | .backingOff _ r => OfStep step.id r

/-- An outcome that is a result of a step, or a panic. -/
def EndsWith (P : StepResult → Prop) : JobOutcome → Prop
  | .finished r _ => P r
  | .panicked _ => True

theorem ofStep_broken (j : Job) (e : StepError) (startedAt now : Nat) (h : 1 ≤ j.attempt) :
    OfStep j.step.id (j.broken e startedAt now) :=
  ⟨j.attempt, h, rfl, rfl, StepStatus.noConfusion⟩

theorem leads_goOn_faithful {p : Plan} {now turn : Nat} {step : Step}
    {vars : List (String × Json.Value)} {j : Job} {w : Working}
    (h : Faithful step vars j (.working w)) :
    Leads (Faithful step vars) (EndsWith (OfStep step.id)) j (j.goOn p now turn w).2 := by
  obtain ⟨hs, hv, ha, hw⟩ := h
  have hw := Activity.Yields.advance hw
  rcases goOn_cases p now turn j w with
    ⟨r, hr, hg⟩ | ⟨message, -, hg⟩ | ⟨ms, rest, hr, ⟨-, hg⟩ | ⟨-, hg⟩⟩
  · rw [hr] at hw
    rw [hg]
    exact ⟨hs, hv, ha, j.attempt, ha, hw.step, hw.attempts, hw.status⟩
  · rw [hg]
    trivial
  · rw [hg]
    exact ⟨hs, hv, ha, hs ▸ ofStep_broken j _ _ _ ha⟩
  · rw [hr] at hw
    rw [hg]
    exact ⟨hs, hv, ha, hw⟩

theorem kept_faithful {p : Plan} (hp : p.Sound) (now turn : Nat) (cancelled : Bool) (step : Step)
    (vars : List (String × Json.Value)) :
    Kept p now turn cancelled (Faithful step vars) (EndsWith (OfStep step.id)) where
  phase := by
    rintro j q phase ⟨hs, hv, ha, hq⟩
    cases q <;> exact ⟨hs, hv, ha, hq⟩
  start := by
    rintro j ⟨hs, hv, ha, -⟩
    have broken : ∀ e, Leads (Faithful step vars) (EndsWith (OfStep step.id)) j
        (.result (j.broken e now now)) := fun e => ⟨hs, hv, ha, hs ▸ ofStep_broken j _ _ _ ha⟩
    rcases start_cases p now turn cancelled j with ⟨-, h⟩ | ⟨-, -, h⟩ | ⟨-, -, h⟩
    · exact h ▸ broken _
    · exact h ▸ broken _
    · rw [h]
      exact leads_goOn_faithful ⟨hs, hv, ha, hs ▸ hp.yields ..⟩
  goOn := fun j w h _ _ => leads_goOn_faithful h
  interrupt := by
    rintro j w ⟨hs, hv, ha, -⟩ -
    exact ⟨hs, hv, ha, hs ▸ ofStep_broken j _ _ _ ha⟩
  cut := by
    rintro j w ⟨hs, hv, ha, -⟩ - - -
    exact ⟨hs, hv, ha, hs ▸ ofStep_broken j _ _ _ ha⟩
  giveUp := fun j r h _ => h.2.2.2
  retryLater := fun j r left h _ _ => h
  resume := fun j wake r h _ => ⟨h.1, h.2.1, Nat.le_succ_of_le h.2.2.1, trivial⟩
  abandon := fun j wake r h _ => h.2.2.2

end Job
end Playbook
