import Playbook.Run.State

/-!
Why a run ends. The weight of a state has three parts, compared one after the other: the steps that
are still pending, the attempts that its jobs may still begin, and what is left to do before one of
these falls. Every act of the loop and every poll that does something makes the state lighter, and
so does a cancellation; time that passes never makes it heavier.
-/
namespace Playbook

open Trace (EventKind)

namespace Job

/-- The attempts that may still begin, each twice, and once more for one that is about to. -/
def promise (j : Job) : Nat :=
  2 * j.retriesLeft + match j.phase with
    | .working _ => 0
    | _ => 1

/-- What is left of the attempt that is going on; a job that has to wait weighs one more. -/
def effort (now : Nat) (cancelled : Bool) (j : Job) : Nat :=
  (match j.phase with
  | .working w => 2 * w.rest.size + 2
  | _ => 0) + if j.isReady now cancelled then 0 else 1

theorem promise_of_conclude {p : Plan} {now turn : Nat} {cancelled : Bool} {left : Nat}
    {j j' : Job} {r : StepResult} {log : List LogEntry}
    (h : conclude p now turn cancelled left j r = (log, .waiting j')) :
    j'.promise < 2 * left := by
  induction left generalizing j r log with
  | zero => simp [conclude] at h
  | succ left ih =>
    rw [conclude] at h
    split at h
    · simp only at h
      split at h
      · obtain ⟨-, h⟩ := Prod.mk.inj h
        cases h
        simp [promise]; omega
      · split at h
        · simp at h
        · obtain ⟨-, h⟩ := Prod.mk.inj h
          cases h
          simp [promise, next]
        · obtain ⟨-, h⟩ := Prod.mk.inj h
          have := ih (Prod.ext rfl h)
          omega
    · simp at h

theorem settle_waiting {p : Plan} {now turn : Nat} {cancelled : Bool} {j j' : Job}
    {stretch : List LogEntry × Stretch} {log : List LogEntry}
    (h : j.settle p now turn cancelled stretch = (log, .waiting j')) :
    (∃ w, stretch.2 = .asleep w ∧ j' = { j with phase := .working w }) ∨
      j'.promise < 2 * j.retriesLeft := by
  obtain ⟨events, stretch⟩ := stretch
  cases stretch with
  | panicked message => simp [settle] at h
  | asleep w =>
    simp only [settle, Prod.mk.injEq, Polled.waiting.injEq] at h
    exact .inl ⟨w, rfl, h.2.symm⟩
  | result r =>
    simp only [settle, Prod.mk.injEq] at h
    exact .inr (promise_of_conclude (Prod.ext rfl h.2))

theorem size_lt_of_goOn {p : Plan} {now turn : Nat} {j : Job} {w w' : Working}
    (h : (j.goOn p now turn w).2 = .asleep w') : w'.rest.size < w.rest.size := by
  unfold goOn at h
  split at h
  next events halt heq =>
    cases halt with
    | done r => simp at h
    | panic message => simp at h
    | asleep ms rest =>
      simp only at h
      split at h
      · simp at h
      · simp only [Stretch.asleep.injEq] at h
        rw [← h]
        exact Activity.size_lt_of_advance heq

/-- A poll that does something brings the job nearer to its end. -/
theorem poll_falls {p : Plan} {now turn : Nat} {cancelled : Bool} {j j' : Job}
    {log : List LogEntry} (ready : j.isReady now cancelled)
    (h : j.poll p now turn cancelled = (log, .waiting j')) :
    j'.promise < j.promise ∨
      j'.promise = j.promise ∧ j'.effort now cancelled < j.effort now cancelled := by
  unfold poll at h
  cases hp : j.phase with
  | starting =>
    rw [hp] at h
    rcases settle_waiting h with ⟨w, -, rfl⟩ | h
    · left; simp [promise, hp]
    · left; simp [promise, hp]; simp [promise] at h; omega
  | working w =>
    rw [hp] at h
    simp only at h
    split at h
    · rcases settle_waiting h with ⟨w', hw, -⟩ | h
      · cases hw
      · left; simpa [promise, hp] using h
    · split at h
      · rcases settle_waiting h with ⟨w', hw, rfl⟩ | h
        · right
          have := size_lt_of_goOn hw
          refine ⟨by simp [promise, hp], ?_⟩
          simp only [effort, hp, ready, if_true]
          split <;> omega
        · left; simpa [promise, hp] using h
      · split at h
        · rcases settle_waiting h with ⟨w', hw, -⟩ | h
          · cases hw
          · left; simpa [promise, hp] using h
        · simp_all [isReady, alarms]
  | backingOff wake last =>
    rw [hp] at h
    simp only at h
    split at h
    · simp at h
    · split at h
      · rcases settle_waiting h with ⟨w, -, rfl⟩ | h
        · left; simp [promise, hp, next]
        · left; simp [promise, hp]; simp [promise, next] at h; omega
      · simp_all [isReady, alarms]

/-- Time that passes brings every job nearer to its end. -/
theorem effort_mono {now later : Nat} (h : now ≤ later) (cancelled : Bool) (j : Job) :
    j.effort later cancelled ≤ j.effort now cancelled := by
  have : j.isReady now cancelled → j.isReady later cancelled := by
    unfold isReady
    split
    · simp
    · intro hr
      rcases Bool.or_eq_true _ _ ▸ hr with hr | hr
      · simp [hr]
      · obtain ⟨a, ha, hr⟩ := List.any_eq_true.1 hr
        refine Bool.or_eq_true _ _ ▸ .inr (List.any_eq_true.2 ⟨a, ha, ?_⟩)
        simp only [Alarm.rings, decide_eq_true_eq] at hr ⊢
        omega
  unfold effort
  refine Nat.add_le_add_left ?_ _
  by_cases hr : j.isReady now cancelled
  · simp [hr, this hr]
  · simp only [hr, Bool.false_eq_true, if_false]
    split <;> omega

end Job

namespace RunState

/-- How far the loop is from its next wait. -/
def rank (pending : Nat) : Control → Nat
  | .looking => pending + 4
  | .scanning rest progressed => rest.length + 3 + if progressed then pending + 4 else 0
  | .choosing progressed => 2 + if progressed then pending + 4 else 0
  | .draining => 1
  | .over .. => 0

def undecided (s : RunState) : Nat := 2 * s.pending.length + if s.cancelled then 0 else 1

def promised (s : RunState) : Nat := sumOf Job.promise s.jobs

def effort (s : RunState) : Nat :=
  sumOf (fun j => j.effort s.now s.cancelled + (s.pending.length + 7)) s.jobs +
    s.ended.length * (s.pending.length + 6) + rank s.pending.length s.control

/-- The weight of the first state falls below that of the second. -/
def Lighter (s t : RunState) : Prop :=
  s.undecided < t.undecided ∨ s.undecided = t.undecided ∧
    (s.promised < t.promised ∨ s.promised = t.promised ∧ s.effort < t.effort)

theorem decide_lighter {s : RunState} {r : StepResult} (mem : r.stepId ∈ s.pending)
    (control : Control) : Lighter { s.decide r with control } s := by
  left
  have := List.length_erase_of_mem mem
  have := List.length_pos_of_mem mem
  refine Nat.add_lt_add_right ?_ _
  simp only [decide]
  omega

theorem launch_lighter {p : Plan} {s : RunState} {step : Step} (mem : step.id ∈ s.pending)
    (control : Control) : Lighter { s.launch p step with control } s := by
  left
  have := List.length_erase_of_mem mem
  have := List.length_pos_of_mem mem
  refine Nat.add_lt_add_right ?_ _
  simp only [launch]
  omega

theorem visit_lighter (p : Plan) (s : RunState) (id : String) (rest : List String)
    (progressed : Bool) (h : s.control = .scanning (id :: rest) progressed) :
    Lighter { (s.visit p id).1 with
      control := .scanning rest (progressed || (s.visit p id).2) } s := by
  have stay : Lighter { s with control := .scanning rest (progressed || false) } s := by
    right
    refine ⟨rfl, .inr ⟨rfl, ?_⟩⟩
    simp only [effort, h, rank, Bool.or_false, List.length_cons]
    omega
  unfold visit
  split
  · exact stay
  · have mem : id ∈ s.pending := by simp_all
    split
    · exact stay
    · exact decide_lighter mem _
    · split
      · exact stay
      · split
        · exact decide_lighter mem _
        · split
          next step hs =>
            have := List.find?_some hs
            exact launch_lighter (by simp_all) _
          next => exact stay

section takeIn

variable (e : EndedJob) (rest : List EndedJob) (s : RunState)

@[simp] theorem pending_takeIn : (s.takeIn e rest).pending = s.pending := by
  unfold takeIn absorb; split <;> rfl

@[simp] theorem jobs_takeIn : (s.takeIn e rest).jobs = s.jobs := by
  unfold takeIn absorb; split <;> rfl

@[simp] theorem ended_takeIn : (s.takeIn e rest).ended = rest := by
  unfold takeIn absorb; split <;> rfl

@[simp] theorem now_takeIn : (s.takeIn e rest).now = s.now := by
  unfold takeIn absorb; split <;> rfl

@[simp] theorem control_takeIn : (s.takeIn e rest).control = s.control := by
  unfold takeIn absorb; split <;> rfl

theorem cancelled_takeIn (h : s.cancelled = true) : (s.takeIn e rest).cancelled = true := by
  unfold takeIn absorb; split <;> simp_all [finish]

end takeIn

/-- Taking in an ended job frees what it weighed, which is enough to scan again. -/
theorem lighter_of_freed {s t : RunState} (pending : t.pending = s.pending) (jobs : t.jobs = s.jobs)
    (now : t.now = s.now) (ended : t.ended.length + 1 = s.ended.length)
    (cancelled : s.cancelled = true → t.cancelled = true)
    (cheap : rank s.pending.length t.control ≤ s.pending.length + 3 + rank s.pending.length s.control) :
    Lighter t s := by
  by_cases hc : t.cancelled = s.cancelled
  · right
    refine ⟨by simp only [undecided, pending, hc], .inr ⟨by simp only [promised, jobs], ?_⟩⟩
    simp only [effort, jobs, now, hc, pending, ← ended, Nat.add_mul]
    omega
  · left
    have hs : s.cancelled = false := by cases h : s.cancelled <;> simp_all
    have ht : t.cancelled = true := by cases h : t.cancelled <;> simp_all
    simp [undecided, pending, hs, ht]

theorem control_lighter {s : RunState} {control : Control} {log : List LogEntry}
    (h : rank s.pending.length control < rank s.pending.length s.control) :
    Lighter { s with control, log } s := by
  right
  refine ⟨rfl, .inr ⟨rfl, ?_⟩⟩
  simp only [effort]
  omega

theorem leave_lighter (p : Plan) {s : RunState} {progressed : Bool}
    (h : s.control = .choosing progressed) : Lighter (s.leave p) s := by
  unfold leave
  split
  · exact control_lighter (by simp only [h, rank]; omega)
  · exact control_lighter (by simp only [h, rank]; omega)

theorem finishDraining_lighter (p : Plan) {s : RunState} (h : s.control = .draining) :
    Lighter (s.finishDraining p) s := by
  have skips : ∀ (ids : List String) (reason : String) (t : RunState),
      let t' := ids.foldl (fun s id => s.skip id Branch.cancelled reason) t
      t'.jobs = t.jobs ∧ t'.ended = t.ended ∧ t'.now = t.now ∧ t'.cancelled = t.cancelled ∧
        t'.pending.length ≤ t.pending.length := by
    intro ids reason
    induction ids with
    | nil => intro t; simp
    | cons id ids ih =>
      intro t
      obtain ⟨h1, h2, h3, h4, h5⟩ := ih (t.skip id Branch.cancelled reason)
      refine ⟨h1, h2, h3, h4, Nat.le_trans h5 ?_⟩
      exact (List.erase_sublist).length_le
  have close_lighter : ∀ t : RunState, t.jobs = s.jobs → t.ended = s.ended → t.now = s.now →
      t.cancelled = s.cancelled → t.pending.length ≤ s.pending.length →
      Lighter (t.close p true) s := by
    intro t h1 h2 h3 h4 h5
    rcases Nat.lt_or_eq_of_le h5 with h5 | h5
    · left
      simp only [undecided, close, h4]
      omega
    · right
      refine ⟨by simp only [undecided, close, h4, h5], .inr ⟨by simp [promised, close, h1], ?_⟩⟩
      simp [effort, close, h1, h2, h3, h4, h5, h, rank]
  unfold finishDraining
  obtain ⟨h1, h2, h3, h4, h5⟩ := skips s.pending
    (if s.fault.isSome then "run aborted after engine fault" else "run cancelled") s
  exact close_lighter _ h1 h2 h3 h4 h5

/-- Every act of the loop makes the state lighter. -/
theorem act_lighter {p : Plan} {s s' : RunState} (h : s.act? p = some s') : Lighter s' s := by
  unfold act? at h
  cases hc : s.control with
  | looking =>
    rw [hc] at h
    cases h
    refine control_lighter ?_
    rw [hc]
    split
    · simp only [rank, Bool.false_eq_true, if_false]
      omega
    · simp [rank]
  | scanning rest progressed =>
    rw [hc] at h
    cases rest with
    | nil =>
      cases h
      exact control_lighter (by simp only [hc, rank, List.length_nil]; omega)
    | cons id rest =>
      cases h
      exact visit_lighter p s id rest progressed hc
  | choosing progressed =>
    rw [hc] at h
    simp only at h
    split at h
    · split at h
      · next hp =>
        cases h
        have hn : s.cancelled = false := by simp_all
        have hp : progressed = true := by simp_all
        refine control_lighter ?_
        simp only [hc, hp, rank, if_true]
        omega
      · cases h
        exact leave_lighter p hc
    · split at h
      · cases h
        exact leave_lighter p hc
      · split at h
        · simp at h
        · next e rest he =>
          cases h
          refine lighter_of_freed (by simp) (by simp) (by simp) (by simp [he])
            (cancelled_takeIn e rest s) ?_
          simp only [hc, rank]
          omega
  | draining =>
    rw [hc] at h
    simp only at h
    split at h
    · next e rest he =>
      cases h
      exact lighter_of_freed (by simp) (by simp) (by simp) (by simp [he])
        (cancelled_takeIn e rest s) (by simp)
    · split at h
      · cases h
        exact finishDraining_lighter p hc
      · simp at h
  | _ => simp [hc] at h

/-- Every poll that does something makes the state lighter. -/
theorem poll_lighter {p : Plan} {turn : Nat} {id : String} {s s' : RunState}
    (h : s.poll? p turn id = some s') : Lighter s' s := by
  unfold poll? at h
  split at h
  · simp at h
  · next j hj =>
    split at h
    · next ready =>
      simp only at h
      split at h
      · next j' hp =>
        cases h
        rcases Job.poll_falls ready (Prod.ext rfl hp) with hp | ⟨hp, he⟩
        · right
          refine ⟨rfl, .inl ?_⟩
          have := First.sum_replace Job.promise (a := j') hj
          simp only [promised]
          omega
        · right
          have := First.sum_replace Job.promise (a := j') hj
          refine ⟨rfl, .inr ⟨by simp only [promised]; omega, ?_⟩⟩
          have := First.sum_replace
            (fun j => j.effort s.now s.cancelled + (s.pending.length + 7)) (a := j') hj
          simp only [effort]
          omega
      · next outcome hp =>
        cases h
        right
        refine ⟨rfl, ?_⟩
        have hpromise := First.sum_remove Job.promise hj
        have heffort := First.sum_remove
          (fun j => j.effort s.now s.cancelled + (s.pending.length + 7)) hj
        simp only [promised, effort, List.length_append, List.length_singleton, Nat.add_mul]
        omega
    · simp at h

theorem cancel_lighter {s : RunState} (h : s.cancelled = false) : Lighter s.cancel s := by
  left
  simp [undecided, cancel, h]

theorem effort_elapse_le (ms : Nat) (s : RunState) : (s.elapse ms).effort ≤ s.effort := by
  have : sumOf (fun j => j.effort (s.now + ms) s.cancelled + (s.pending.length + 7)) s.jobs ≤
      sumOf (fun j => j.effort s.now s.cancelled + (s.pending.length + 7)) s.jobs :=
    sumOf_le_sumOf fun j _ => Nat.add_le_add_right (j.effort_mono (Nat.le_add_right ..) _) _
  simp only [effort, elapse]
  omega

/-- When an alarm rings the state gets lighter. -/
theorem effort_elapse_lt {ms : Nat} {s : RunState} {j : Job} {a : Alarm} (hj : j ∈ s.jobs)
    (waits : j.isReady s.now s.cancelled = false) (ha : a ∈ j.alarms) (rings : a.rings (s.now + ms)) :
    (s.elapse ms).effort < s.effort := by
  have : sumOf (fun j => j.effort (s.now + ms) s.cancelled + (s.pending.length + 7)) s.jobs <
      sumOf (fun j => j.effort s.now s.cancelled + (s.pending.length + 7)) s.jobs := by
    refine sumOf_lt_sumOf
      (fun j _ => Nat.add_le_add_right (j.effort_mono (Nat.le_add_right ..) _) _) ⟨j, hj, ?_⟩
    have ready : j.isReady (s.now + ms) s.cancelled := by
      unfold Job.isReady
      split
      · rfl
      · exact Bool.or_eq_true _ _ ▸ .inr (List.any_eq_true.2 ⟨a, ha, rings⟩)
    refine Nat.add_lt_add_right ?_ _
    simp only [Job.effort, waits, ready, if_true, Bool.false_eq_true, if_false]
    omega
  simp only [effort, elapse]
  omega

end RunState
end Playbook
