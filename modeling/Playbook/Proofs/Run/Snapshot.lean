import Playbook.Proofs.Run.Provenance
import Playbook.Proofs.Run.Verdict

/-!
What the attempts at a step see. All of them run on the variables of the moment at which the step
was started, however long they take and however often the step is tried again.
-/
namespace Playbook

open Json (Value)

namespace Activity

variable {ε α : Type} {rest a b : Activity ε α}

/-- The first activity is what is left of the second one after some of its acts. -/
inductive Suffix (rest : Activity ε α) : Activity ε α → Prop
  | refl : Suffix rest rest
  | record {e : ε} {a : Activity ε α} (h : Suffix rest a) : Suffix rest (.record e a)
  | sleep {ms : Nat} {a : Activity ε α} (h : Suffix rest a) : Suffix rest (.sleep ms a)

theorem Suffix.trans (h : rest.Suffix a) (h' : a.Suffix b) : rest.Suffix b := by
  induction h' with
  | refl => exact h
  | record _ ih => exact .record ih
  | sleep _ ih => exact .sleep ih

theorem Suffix.outcome (h : rest.Suffix a) : rest.outcome = a.outcome := by
  induction h with
  | refl => rfl
  | record _ ih | sleep _ ih => exact ih

theorem suffix_of_advance {ms : Nat} (h : a.advance.2 = .asleep ms rest) : rest.Suffix a := by
  induction a with
  | done | panic => cases h
  | record e next ih => exact .record (ih h)
  | sleep n next ih =>
    by_cases hn : n = 0
    · simp only [advance, hn, if_true] at h
      exact .sleep (ih h)
    · simp only [advance, hn, if_false] at h
      cases h
      exact .sleep .refl

end Activity

namespace Plan

/-- What an attempt at a step comes to that does not panic: to its own result, or the engine cuts
it off before it begins or while it lets time pass. -/
inductive Attempted (p : Plan) (step : Step) (vars : List (String × Value)) (number : Nat)
    (r : StepResult) : Prop
  | own {own : StepResult} (outcome : (p.attempt vars step number).outcome = .ok own)
      (result : r.timeless = own.timeless)
  | cutOff {e : StepError} (kind : e.kind = .timeout ∨ e.kind = .cancelled)
      (result : r.timeless = .failed step.id number e .unevaluated)

theorem Attempted.stepId {p : Plan} {step : Step} {vars : List (String × Value)} {number : Nat}
    {r : StepResult} (h : p.Attempted step vars number r) (hp : p.Sound) : r.stepId = step.id := by
  cases h with
  | own outcome result =>
    exact (congrArg StepResult.stepId result).trans ((hp.yields ..).of_outcome outcome).step
  | cutOff _ result => exact congrArg StepResult.stepId result

theorem Attempted.attempts {p : Plan} {step : Step} {vars : List (String × Value)} {number : Nat}
    {r : StepResult} (h : p.Attempted step vars number r) (hp : p.Sound) : r.attempts = number := by
  cases h with
  | own outcome result =>
    exact (congrArg StepResult.attempts result).trans ((hp.yields ..).of_outcome outcome).attempts
  | cutOff _ result => exact congrArg StepResult.attempts result

/-- The result of an attempt that was followed by another one. -/
def Superseded (p : Plan) (step : Step) (vars : List (String × Value)) (r : StepResult) : Prop :=
  ∃ number own, p.Attempted step vars number own ∧ r = { own with status := .retried }

/-- The result of a step that was started: that of its last attempt, or what is noted of a panic. -/
inductive Reported (p : Plan) (step : Step) (vars : List (String × Value)) (r : StepResult) : Prop
  | attempted {number : Nat} (attempted : p.Attempted step vars number r)
  | panicked {number : Nat} {message : String}
      (outcome : (p.attempt vars step number).outcome = .error message)
      (result : r.timeless = .failed step.id 1
        (.handler s!"step '{step.id}' panicked: {message}") .unevaluated)

end Plan

namespace Job

/-- A job makes each of its attempts with the variables of its dispatch. -/
def Views (p : Plan) (step : Step) (vars : List (String × Value)) (j : Job) (q : Point) : Prop :=
  j.step = step ∧ j.variables = vars ∧ (∀ r ∈ j.superseded, p.Superseded step vars r) ∧
    match q with
    | .starting => True
    | .working w => w.rest.Suffix (p.attempt vars step j.attempt)
    | .concluded r | .backingOff _ r => p.Attempted step vars j.attempt r

/-- What a job ends with comes of attempts with the variables of its dispatch. -/
def ComesOf (p : Plan) (step : Step) (vars : List (String × Value)) : JobOutcome → Prop
  | .finished r superseded =>
    (∃ number, p.Attempted step vars number r) ∧ ∀ x ∈ superseded, p.Superseded step vars x
  | .panicked message => ∃ number, (p.attempt vars step number).outcome = .error message

variable {p : Plan} {step : Step} {vars : List (String × Value)} {j : Job}

theorem kind_cutError (p : Plan) (j : Job) (w : Working) : (j.cutError p w).kind = .timeout := by
  unfold cutError
  split <;> rfl

theorem leads_goOn_views {now turn : Nat} {w : Working} (h : Views p step vars j (.working w)) :
    Leads (Views p step vars) (ComesOf p step vars) j (j.goOn p now turn w).2 := by
  obtain ⟨rfl, rfl, past, left⟩ := h
  have ahead := w.rest.advance_cases
  rcases goOn_cases p now turn j w with
    ⟨r, hr, hg⟩ | ⟨message, hr, hg⟩ | ⟨ms, rest, hr, ⟨-, hg⟩ | ⟨-, hg⟩⟩
  · rw [hr] at ahead
    rw [hg]
    have own : (p.attempt j.variables j.step j.attempt).outcome = .ok r := left.outcome ▸ ahead.1
    exact ⟨rfl, rfl, past, .own own rfl⟩
  · rw [hr] at ahead
    rw [hg]
    exact ⟨j.attempt, left.outcome ▸ ahead.1⟩
  · rw [hg]
    exact ⟨rfl, rfl, past, .cutOff (.inl (j.kind_cutError p w)) rfl⟩
  · rw [hg]
    exact ⟨rfl, rfl, past, (Activity.suffix_of_advance hr).trans left⟩

theorem kept_views (p : Plan) (now turn : Nat) (cancelled : Bool) (step : Step)
    (vars : List (String × Value)) :
    Kept p now turn cancelled (Views p step vars) (ComesOf p step vars) where
  phase := by
    rintro j q phase ⟨hs, hv, past, hq⟩
    cases q <;> exact ⟨hs, hv, past, hq⟩
  start := by
    rintro j ⟨rfl, rfl, past, -⟩
    rcases start_cases p now turn cancelled j with ⟨-, h⟩ | ⟨-, -, h⟩ | ⟨-, -, h⟩
    · rw [h]
      exact ⟨rfl, rfl, past, .cutOff (.inl rfl) rfl⟩
    · rw [h]
      exact ⟨rfl, rfl, past, .cutOff (.inr rfl) rfl⟩
    · rw [h]
      exact leads_goOn_views ⟨rfl, rfl, past, .refl⟩
  goOn j w h _ _ := leads_goOn_views h
  interrupt := by
    rintro j w ⟨rfl, rfl, past, -⟩ -
    exact ⟨rfl, rfl, past, .cutOff (.inr rfl) rfl⟩
  cut := by
    rintro j w ⟨rfl, rfl, past, -⟩ - - -
    exact ⟨rfl, rfl, past, .cutOff (.inl (j.kind_cutError p w)) rfl⟩
  giveUp j r h _ := ⟨⟨j.attempt, h.2.2.2⟩, h.2.2.1⟩
  retryLater j r left h _ _ := h
  resume := by
    rintro j wake r ⟨hs, hv, past, last⟩ -
    refine ⟨hs, hv, fun x hx => ?_, trivial⟩
    rcases List.mem_append.1 hx with hx | hx
    · exact past x hx
    · exact ⟨j.attempt, r, last, List.mem_singleton.1 hx⟩
  abandon j wake r h _ := ⟨⟨j.attempt, h.2.2.2⟩, h.2.2.1⟩

/-- That all attempts see the variables of the dispatch is a law of jobs. -/
theorem law_views (o : Surroundings) (p : Plan) :
    Law o p (fun _ => Views p) (fun _ => ComesOf p) where
  own h := ⟨h.1, h.2.1⟩
  begins _ _ vars := ⟨rfl, rfl, by simp [ofStep], trivial⟩
  kept now turn cancelled step vars := kept_views p now turn cancelled step vars
  elapses _ _ _ h := h
  lasts h _ := h

end Job

/-- What is noted of a job that has ended by the law is a result of its attempts. -/
theorem EndedJob.reported {p : Plan} {step : Step} {vars : List (String × Value)} {e : EndedJob}
    (own : step.id = e.stepId) (h : Job.ComesOf p step vars e.outcome) (now : Nat) :
    p.Reported step vars (e.result now) ∧ ∀ r ∈ e.superseded, p.Superseded step vars r := by
  unfold EndedJob.result EndedJob.superseded
  cases outcome : e.outcome with
  | finished r superseded =>
    rw [outcome] at h
    obtain ⟨⟨number, attempted⟩, past⟩ := h
    exact ⟨.attempted attempted, past⟩
  | panicked message =>
    rw [outcome] at h
    obtain ⟨number, broken⟩ := h
    exact ⟨.panicked broken (own ▸ rfl), by simp⟩

end Playbook
