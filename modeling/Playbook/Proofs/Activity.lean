import Playbook.Activity

/-!
Laws of activities. They make a monad, and an activity that follows another one comes to what both
come to, one behind the other, and records what both record. What an activity yields is a property
of the result that it comes to, if it comes to one; so it is read off the outcome.
-/
namespace Playbook.Activity

variable {ε δ α β γ : Type}

theorem bind_bind (x : Activity ε α) (f : α → Activity ε β) (g : β → Activity ε γ) :
    x >>= f >>= g = x >>= fun a => f a >>= g := by
  change (x.bind f).bind g = x.bind fun a => (f a).bind g
  induction x with
  | done a => rfl
  | panic message => rfl
  | record e rest ih => exact congrArg (record e) ih
  | sleep ms rest ih => exact congrArg (sleep ms) ih

theorem bind_done_self (x : Activity ε α) : x.bind done = x := by
  induction x with
  | done a => rfl
  | panic message => rfl
  | record e rest ih => exact congrArg (record e) ih
  | sleep ms rest ih => exact congrArg (sleep ms) ih

instance : LawfulMonad (Activity ε) :=
  .mk' (Activity ε) (fun x => bind_done_self x) (fun _ _ => rfl) bind_bind

theorem relabel_bind (g : ε → δ) (x : Activity ε α) (f : α → Activity ε β) :
    (x >>= f).relabel g = x.relabel g >>= fun a => (f a).relabel g := by
  change (x.bind f).relabel g = (x.relabel g).bind fun a => (f a).relabel g
  induction x with
  | done a => rfl
  | panic message => rfl
  | record e rest ih => exact congrArg (record (g e)) ih
  | sleep ms rest ih => exact congrArg (sleep ms) ih

/-! ### Outcomes -/

theorem outcome_bind (x : Activity ε α) (f : α → Activity ε β) :
    (x >>= f).outcome = x.outcome >>= fun a => (f a).outcome := by
  change (x.bind f).outcome = _
  induction x with
  | done a => rfl
  | panic message => rfl
  | record e rest ih => exact ih
  | sleep ms rest ih => exact ih

theorem outcome_bind_eq_ok {x : Activity ε α} {f : α → Activity ε β} {b : β} :
    (x >>= f).outcome = .ok b ↔ ∃ a, x.outcome = .ok a ∧ (f a).outcome = .ok b := by
  rw [outcome_bind]
  cases x.outcome with
  | ok a => simp [Bind.bind, Except.bind]
  | error message => simp [Bind.bind, Except.bind]

/-- What follows an activity starts from what it comes to. -/
theorem bind_eq_of_outcome {x : Activity ε α} {a : α} (h : x.outcome = .ok a)
    (f : α → Activity ε β) : x >>= f = x >>= fun _ => f a := by
  change x.bind f = x.bind fun _ => f a
  induction x with
  | done b =>
    cases h
    rfl
  | panic message => cases h
  | record e rest ih => exact congrArg (record e) (ih h)
  | sleep ms rest ih => exact congrArg (sleep ms) (ih h)

@[simp] theorem outcome_relabel (g : ε → δ) (x : Activity ε α) :
    (x.relabel g).outcome = x.outcome := by
  induction x <;> simp_all [relabel, outcome]

@[simp] theorem outcome_silent (x : Activity Empty α) :
    (x.silent : Activity ε α).outcome = x.outcome := outcome_relabel _ x

theorem outcome_timed (x : Activity ε α) :
    x.timed.outcome = x.outcome.map fun a => (x.duration, a) := by
  have since : ∀ elapsed, (x.timedFrom elapsed).outcome =
      x.outcome.map fun a => (elapsed + x.duration, a) := by
    induction x with
    | done a => exact fun _ => rfl
    | panic message => exact fun _ => rfl
    | record e rest ih => exact ih
    | sleep ms rest ih =>
      intro elapsed
      rw [timedFrom, outcome, ih, outcome, duration, Nat.add_assoc]
  simpa [timed] using since 0

theorem outcome_timed_eq_ok {x : Activity ε α} {y : Nat × α} :
    x.timed.outcome = .ok y ↔ x.outcome = .ok y.2 ∧ y.1 = x.duration := by
  rw [outcome_timed]
  cases x.outcome with
  | ok a => simp [Except.map, Prod.ext_iff, and_comm, eq_comm]
  | error message => simp [Except.map]

@[simp] theorem duration_silent (x : Activity Empty α) :
    (x.silent : Activity ε α).duration = x.duration := by
  rw [silent]
  induction x <;> simp_all [relabel, duration]

/-- The activity comes to its end. -/
def Ends (a : Activity ε α) : Prop := ∃ r, a.outcome = .ok r

theorem Ends.pure (a : α) : (pure a : Activity ε α).Ends := ⟨a, rfl⟩

theorem Ends.bind {x : Activity ε α} {f : α → Activity ε β} (h : x.Ends)
    (next : ∀ a, x.outcome = .ok a → (f a).Ends) : (x >>= f).Ends := by
  obtain ⟨a, came⟩ := h
  obtain ⟨b, ended⟩ := next a came
  exact ⟨b, outcome_bind_eq_ok.2 ⟨a, came, ended⟩⟩

theorem Ends.relabel {x : Activity ε α} (h : x.Ends) (g : ε → δ) : (x.relabel g).Ends :=
  h.imp fun _ came => (outcome_relabel g x).trans came

theorem Ends.silent {x : Activity Empty α} (h : x.Ends) : (x.silent : Activity ε α).Ends :=
  h.relabel _

/-! ### What an activity yields -/

/-- A property that the result of an activity has, if it comes to one. -/
def Yields (P : α → Prop) : Activity ε α → Prop
  | done a => P a
  | panic _ => True
  | record _ rest => rest.Yields P
  | sleep _ rest => rest.Yields P

theorem yields_iff {P : α → Prop} {a : Activity ε α} :
    a.Yields P ↔ ∀ r, a.outcome = .ok r → P r := by
  induction a with
  | done own => simp [Yields, outcome]
  | panic message => simp [Yields, outcome]
  | record e rest ih => exact ih
  | sleep ms rest ih => exact ih

theorem Yields.of_outcome {P : α → Prop} {a : Activity ε α} (h : a.Yields P) {r : α}
    (outcome : a.outcome = .ok r) : P r := yields_iff.1 h r outcome

theorem yields_outcome (a : Activity ε α) : a.Yields fun r => a.outcome = .ok r :=
  yields_iff.2 fun _ came => came

theorem Yields.mono {P Q : α → Prop} {a : Activity ε α} (h : a.Yields P)
    (weaker : ∀ r, P r → Q r) : a.Yields Q :=
  yields_iff.2 fun r came => weaker r (h.of_outcome came)

/-- What an activity yields may be used for what follows it. -/
theorem Yields.bind {P : β → Prop} {Q : α → Prop} {x : Activity ε α} (h : x.Yields Q)
    {f : α → Activity ε β} (next : ∀ a, Q a → (f a).Yields P) : (x >>= f).Yields P := by
  refine yields_iff.2 fun b came => ?_
  obtain ⟨a, first, second⟩ := outcome_bind_eq_ok.1 came
  exact (next a (h.of_outcome first)).of_outcome second

theorem yields_bind {P : β → Prop} (x : Activity ε α) {f : α → Activity ε β}
    (h : ∀ a, (f a).Yields P) : (x >>= f).Yields P := x.yields_outcome.bind fun a _ => h a

theorem Yields.relabel {P : α → Prop} {a : Activity ε α} (h : a.Yields P) (f : ε → δ) :
    (a.relabel f).Yields P :=
  yields_iff.2 fun _ came => h.of_outcome ((outcome_relabel f a).symm.trans came)

theorem Yields.timed {P : α → Prop} {a : Activity ε α} (h : a.Yields P) :
    a.timed.Yields fun x => P x.2 :=
  yields_iff.2 fun _ came => h.of_outcome (outcome_timed_eq_ok.1 came).1

/-- What holds of the result holds of it when the activity comes to its end, and of what is left
when it falls asleep. -/
theorem Yields.advance {P : α → Prop} {a : Activity ε α} (h : a.Yields P) :
    match a.advance.2 with
    | .done r => P r
    | .panic _ => True
    | .asleep _ rest => rest.Yields P := by
  induction a with
  | done r => exact h
  | panic message => trivial
  | record e rest ih => exact ih h
  | sleep ms rest ih =>
    by_cases hms : ms = 0
    · simp only [Activity.advance, hms, if_true]
      exact ih h
    · simp only [Activity.advance, hms, if_false]
      exact h

/-! ### What an activity records -/

theorem events_bind (x : Activity ε α) (f : α → Activity ε β) :
    (x >>= f).events = x.events ++
      match x.outcome with
      | .ok a => (f a).events
      | .error _ => [] := by
  change (x.bind f).events = _
  induction x with
  | done a => rfl
  | panic message => rfl
  | record e rest ih => exact congrArg (e :: ·) ih
  | sleep ms rest ih => exact ih

/-- What is recorded is recorded before a result or after it. -/
theorem mem_events_bind {x : Activity ε α} {f : α → Activity ε β} {e : ε}
    (h : e ∈ (x >>= f).events) : e ∈ x.events ∨ ∃ a, e ∈ (f a).events := by
  rw [events_bind] at h
  refine (List.mem_append.1 h).imp_right fun h => ?_
  cases outcome : x.outcome with
  | ok a =>
    rw [outcome] at h
    exact ⟨a, h⟩
  | error message =>
    rw [outcome] at h
    cases h

theorem mem_events_of_mem_advance {a : Activity ε α} {e : ε} (h : e ∈ a.advance.1) :
    e ∈ a.events := by
  induction a with
  | done | panic => exact h
  | record own rest ih =>
    rcases List.mem_cons.1 h with rfl | h
    · exact List.mem_cons_self
    · exact List.mem_cons_of_mem own (ih h)
  | sleep ms rest ih =>
    by_cases hms : ms = 0
    · simp only [Activity.advance, hms, if_true] at h
      exact ih h
    · simp [Activity.advance, hms] at h

@[simp] theorem events_relabel {δ : Type} (f : ε → δ) (a : Activity ε α) :
    (a.relabel f).events = a.events.map f := by
  induction a <;> simp_all [relabel, events]

@[simp] theorem events_silent (a : Activity Empty α) : (a.silent : Activity ε α).events = [] := by
  have none : a.events = [] := List.eq_nil_iff_forall_not_mem.2 fun e => e.elim
  rw [silent, events_relabel, none, List.map_nil]

@[simp] theorem events_timed (a : Activity ε α) : a.timed.events = a.events := by
  have since : ∀ elapsed, (a.timedFrom elapsed).events = a.events := by
    induction a <;> simp_all [timedFrom, events]
  exact since 0

end Playbook.Activity
