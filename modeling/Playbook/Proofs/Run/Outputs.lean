import Mathlib.Data.String.Basic
import Playbook.Proofs.Run.Onward
import Playbook.Proofs.Run.Readiness
import Playbook.Proofs.Run.Yield

/-!
What a run remembers of its steps. Its context is the one that it was given, with the outputs of the
completed steps put into it one after the other; and since each step has one result, it does not
matter in which order.
-/
namespace Playbook

open Json (Value)

namespace Keyed

theorem put_comm {α : Type} {key other : String} (h : key ≠ other) (v w : α)
    (entries : List (String × α)) :
    put key v (put other w entries) = put other w (put key v entries) := by
  induction entries with
  | nil =>
    rcases lt_or_gt_of_ne h with hl | hl
    · simp [put, h, h.symm, hl, not_lt_of_gt hl]
    · simp [put, h, h.symm, hl, not_lt_of_gt hl]
  | cons e rest ih =>
    obtain ⟨k, x⟩ := e
    rcases lt_trichotomy k key with hk | rfl | hk <;>
      rcases lt_trichotomy k other with ho | rfl | ho
    · simp [put, hk.ne, ho.ne, not_lt_of_gt hk, not_lt_of_gt ho, ih]
    · simp [put, hk.ne, not_lt_of_gt hk]
    · have := ho.trans hk
      simp [put, hk.ne, ho.ne', not_lt_of_gt hk, ho, h.symm, not_lt_of_gt this]
    · simp [put, ho.ne, not_lt_of_gt ho]
    · exact absurd rfl h
    · simp [put, ho.ne', ho, not_lt_of_gt ho, h.symm]
    · have := hk.trans ho
      simp [put, hk.ne', ho.ne, hk, not_lt_of_gt ho, h, not_lt_of_gt this]
    · simp [put, hk.ne', hk, not_lt_of_gt hk, h]
    · rcases lt_or_gt_of_ne h with hl | hl
      · simp [put, hk.ne', ho.ne', hk, ho, h, h.symm, hl, not_lt_of_gt hl]
      · simp [put, hk.ne', ho.ne', hk, ho, h, h.symm, hl, not_lt_of_gt hl]

end Keyed

/-- The outputs with that of a step, if it was completed. -/
def noteOutput (outputs : List (String × Value)) (r : StepResult) : List (String × Value) :=
  if r.status = .completed then Keyed.put r.stepId r.output outputs else outputs

/-- The output that is noted last for a step is that of its result. -/
theorem get?_foldl_noteOutput {results : List StepResult}
    (nodup : (results.map StepResult.stepId).Nodup) (outputs : List (String × Value))
    (id : String) :
    Keyed.get? id (results.foldl noteOutput outputs) =
      match results.find? fun r => r.stepId == id with
      | some r => if r.status = .completed then some r.output else Keyed.get? id outputs
      | none => Keyed.get? id outputs := by
  induction results generalizing outputs with
  | nil => rfl
  | cons x rest ih =>
    obtain ⟨fresh, nodup⟩ := List.nodup_cons.1 nodup
    rw [List.foldl_cons, ih nodup]
    by_cases hx : x.stepId = id
    · subst hx
      have absent : rest.find? (fun r => r.stepId == x.stepId) = none :=
        List.find?_eq_none.2 fun r hr he => fresh (List.mem_map.2 ⟨r, hr, by simpa using he⟩)
      simp only [absent, List.find?_cons, beq_self_eq_true, noteOutput]
      split
      · exact Keyed.get?_put_self ..
      · rfl
    · have same : Keyed.get? id (noteOutput outputs x) = Keyed.get? id outputs := by
        unfold noteOutput
        split
        · exact Keyed.get?_put_of_ne (Ne.symm hx) ..
        · rfl
      simp only [same, List.find?_cons, beq_eq_false_iff_ne.2 hx]

/-- The order of results does not matter for the outputs, and neither do their times. -/
theorem foldl_noteOutput_eq {xs ys : List StepResult} (nodup : (xs.map StepResult.stepId).Nodup)
    (perm : (xs.map StepResult.timeless).Perm (ys.map StepResult.timeless))
    (outputs : List (String × Value)) :
    xs.foldl noteOutput outputs = ys.foldl noteOutput outputs := by
  have timeless : ∀ zs : List StepResult,
      (zs.map StepResult.timeless).foldl noteOutput outputs = zs.foldl noteOutput outputs :=
    fun zs => List.foldl_map ..
  have once : ((xs.map StepResult.timeless).map StepResult.stepId).Nodup := by
    rw [List.map_map]
    exact nodup
  rw [← timeless xs, ← timeless ys]
  refine perm.foldl_eq' (fun x hx y hy outputs => ?_) outputs
  by_cases hxy : x = y
  · rw [hxy]
  · have ne : x.stepId ≠ y.stepId := fun he => hxy (List.inj_on_of_nodup_map once hx hy he)
    unfold noteOutput
    split <;> split <;> first | rfl | exact Keyed.put_comm ne.symm ..

namespace RunState

/-- The context is the one of the start with the outputs of the completed steps. -/
def Remembers (c : RunContext) (s : RunState) : Prop :=
  s.context = { c with outputs := s.results.foldl noteOutput c.outputs }

variable {c : RunContext}

theorem Remembers.decide {s : RunState} (h : Remembers c s) (r : StepResult) :
    Remembers c (s.decide r) := by
  unfold Remembers at *
  simp only [RunState.decide, finish, List.foldl_append, List.foldl_cons, List.foldl_nil]
  rw [h]
  unfold noteOutput RunContext.recordOutput
  split <;> rfl

theorem Remembers.takeIn {s : RunState} (h : Remembers c s) (e : EndedJob) (rest : List EndedJob) :
    Remembers c (s.takeIn e rest) := by
  obtain ⟨id, outcome⟩ := e
  cases outcome with
  | finished r superseded => exact h.decide r
  | panicked message => exact h.decide _

theorem Remembers.skips {s : RunState} (h : Remembers c s) (ids : List String)
    (branch reason : String) :
    Remembers c (ids.foldl (fun s id => s.skip id branch reason) s) := by
  induction ids generalizing s with
  | nil => exact h
  | cons id rest ih => exact ih (h.decide _)

theorem Remembers.act {p : Plan} {s t : RunState} (h : Remembers c s) (m : Act p s t) :
    Remembers c t := by
  cases m with
  | look | scanned | pass | again | launch => exact h
  | @skip id _ _ branch reason =>
    have kept : Remembers c (s.skip id branch reason) := h.decide _
    exact kept
  | @expire id =>
    have kept := h.decide ((StepResult.failed id 0 .deadline .unevaluated).between s.now s.now)
    exact kept
  | leave =>
    unfold RunState.leave
    split <;> exact h
  | takeIn | drain => exact h.takeIn _ _
  | finish => exact h.skips ..

theorem Remembers.move {o : Surroundings} {p : Plan} {s t : RunState} (h : Remembers c s)
    (m : Move o p s t) : Remembers c t := by
  cases m with
  | act m => exact h.act (act_of_act? m)
  | poll m => cases poll_of_poll? m <;> exact h
  | cancel | elapse => exact h

/-- In every state that a run reaches its context is told by its results. -/
theorem Remembers.of_reaches {o : Surroundings} {p : Plan} {cancelled : Bool} {s : RunState}
    (h : Reaches o p (start p c cancelled) s) : Remembers c s :=
  have first : ∀ s : RunState, s.context = c → s.results = [] → Remembers c s := by
    intro s context results
    rw [Remembers, context, results]
    rfl
  h.keeps (fun _ _ hs m => hs.move m) ((first _ rfl rfl).skips ..)

theorem Remembers.context {s : RunState} (h : Remembers c s) :
    s.context = { c with outputs := s.context.outputs } := by
  rw [h]

/-- The output of a step is that of its result, once it was completed. -/
theorem Remembers.get?_outputs {s : RunState} (h : Remembers c s) (nodup : s.resultIds.Nodup)
    (id : String) :
    Keyed.get? id s.context.outputs =
      match s.result? id with
      | some r => if r.status = .completed then some r.output else Keyed.get? id c.outputs
      | none => Keyed.get? id c.outputs := by
  rw [h]
  exact get?_foldl_noteOutput nodup ..

end RunState
end Playbook
