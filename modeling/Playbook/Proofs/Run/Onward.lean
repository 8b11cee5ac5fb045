import Mathlib.Data.List.Nodup
import Playbook.Proofs.Run.Move
import Playbook.Run.Weight

/-!
What no move takes back: results and events that are noted stay noted, the clock does not go back,
and a cancelled run stays cancelled.
-/
namespace Playbook
namespace RunState

/-- A state that may come after another one. -/
structure Onward (s t : RunState) : Prop where
  results : s.results <+: t.results
  log : s.log <+: t.log
  now : s.now ≤ t.now
  cancelled : s.cancelled = true → t.cancelled = true

theorem Onward.refl (s : RunState) : Onward s s :=
  ⟨List.prefix_refl _, List.prefix_refl _, Nat.le_refl _, id⟩

theorem Onward.of_same {s t : RunState} (results : t.results = s.results) (log : t.log = s.log)
    (now : t.now = s.now) (cancelled : s.cancelled = true → t.cancelled = true) : Onward s t :=
  ⟨results ▸ List.prefix_refl _, log ▸ List.prefix_refl _, Nat.le_of_eq now.symm, cancelled⟩

theorem Onward.trans {s t u : RunState} (h : Onward s t) (h' : Onward t u) : Onward s u :=
  ⟨h.results.trans h'.results, h.log.trans h'.log, Nat.le_trans h.now h'.now,
    fun hc => h'.cancelled (h.cancelled hc)⟩

theorem onward_decide (s : RunState) (r : StepResult) : Onward s (s.decide r) :=
  ⟨List.prefix_append .., List.prefix_append .., Nat.le_refl _, id⟩

theorem onward_takeIn (s : RunState) (e : EndedJob) (rest : List EndedJob) :
    Onward s (s.takeIn e rest) := by
  refine ⟨?_, ?_, Nat.le_of_eq (now_takeIn e rest s).symm, cancelled_takeIn e rest s⟩
  · unfold takeIn absorb
    split <;> exact List.prefix_append ..
  · unfold takeIn absorb
    split <;> exact List.prefix_append ..

/-- A property that each of some skips keeps, one after the other. The steps have to be pending,
each once. -/
theorem skips_keep {P : RunState → Prop} {ids : List String} {branch reason : String}
    (skip : ∀ t, ∀ id ∈ ids, id ∈ t.pending → P t → P (t.skip id branch reason)) {s : RunState}
    (nodup : ids.Nodup) (pending : ∀ id ∈ ids, id ∈ s.pending) (start : P s) :
    P (ids.foldl (fun s id => s.skip id branch reason) s) := by
  induction ids generalizing s with
  | nil => exact start
  | cons id rest ih =>
    obtain ⟨fresh, nodup⟩ := List.nodup_cons.1 nodup
    refine ih (fun t x hx => skip t x (List.mem_cons_of_mem id hx)) nodup (fun x hx => ?_)
      (skip s id (by simp) (pending id (by simp)) start)
    have ne : x ≠ id := fun he => fresh (he ▸ hx)
    exact (List.mem_erase_of_ne ne).2 (pending x (List.mem_cons_of_mem id hx))

/-- Skips take the steps out of the pending ones. -/
theorem pending_skips (ids : List String) (branch reason : String) (s : RunState) :
    (ids.foldl (fun s id => s.skip id branch reason) s).pending = s.pending.diff ids := by
  induction ids generalizing s with
  | nil => exact (List.diff_nil _).symm
  | cons id rest ih => exact (ih _).trans (List.diff_cons ..).symm

/-- Skipped steps are not pending any more, and others stay so. -/
theorem mem_pending_skips {ids : List String} {branch reason : String} {s : RunState}
    (nodup : s.pending.Nodup) {id : String} :
    id ∈ (ids.foldl (fun s id => s.skip id branch reason) s).pending ↔
      id ∈ s.pending ∧ id ∉ ids := by
  rw [pending_skips, nodup.mem_sdiff_iff]

/-- What skips leave as it is. -/
structure SameFrame (s t : RunState) : Prop where
  jobs : t.jobs = s.jobs
  ended : t.ended = s.ended
  control : t.control = s.control
  now : t.now = s.now
  cancelled : t.cancelled = s.cancelled
  fault : t.fault = s.fault
  retried : t.retried = s.retried

theorem sameFrame_skips (ids : List String) (branch reason : String) (s : RunState) :
    SameFrame s (ids.foldl (fun s id => s.skip id branch reason) s) := by
  induction ids generalizing s with
  | nil => exact ⟨rfl, rfl, rfl, rfl, rfl, rfl, rfl⟩
  | cons id rest ih =>
    obtain ⟨jobs, ended, control, now, cancelled, fault, retried⟩ := ih (s.skip id branch reason)
    exact ⟨jobs, ended, control, now, cancelled, fault, retried⟩

theorem onward_skips (ids : List String) (branch reason : String) (s : RunState) :
    Onward s (ids.foldl (fun s id => s.skip id branch reason) s) := by
  induction ids generalizing s with
  | nil => exact .refl s
  | cons id rest ih => exact (onward_decide s _).trans (ih _)

/-- Skips add results of steps without attempts, at the moment at which they are done. -/
theorem mem_results_skips {ids : List String} {branch reason : String} {s : RunState}
    {r : StepResult} (h : r ∈ (ids.foldl (fun s id => s.skip id branch reason) s).results) :
    r ∈ s.results ∨ r.attempts = 0 ∧ r.finishedAt = s.now := by
  induction ids generalizing s with
  | nil => exact .inl h
  | cons id rest ih =>
    rcases ih h with h | none
    · rcases List.mem_append.1 h with h | h
      · exact .inl h
      · exact .inr (List.mem_singleton.1 h ▸ ⟨rfl, rfl⟩)
    · exact .inr none

section start

variable (p : Plan) (context : RunContext) (cancelled : Bool)

@[simp] theorem control_start : (start p context cancelled).control = .looking :=
  (sameFrame_skips ..).control

@[simp] theorem jobs_start : (start p context cancelled).jobs = [] := (sameFrame_skips ..).jobs

@[simp] theorem ended_start : (start p context cancelled).ended = [] := (sameFrame_skips ..).ended

@[simp] theorem now_start : (start p context cancelled).now = 0 := (sameFrame_skips ..).now

@[simp] theorem fault_start : (start p context cancelled).fault = none := (sameFrame_skips ..).fault

@[simp] theorem retried_start : (start p context cancelled).retried = [] :=
  (sameFrame_skips ..).retried

/-- The results with which a run begins are those of steps without attempts. -/
theorem of_mem_results_start {r : StepResult} (h : r ∈ (start p context cancelled).results) :
    r.attempts = 0 ∧ r.finishedAt = 0 :=
  (mem_results_skips h).resolve_left List.not_mem_nil

end start

theorem onward_close (p : Plan) (s : RunState) (interrupted : Bool) :
    Onward s (s.close p interrupted) :=
  ⟨List.prefix_refl _, List.prefix_append .., Nat.le_refl _, id⟩

theorem onward_leave (p : Plan) (s : RunState) : Onward s (s.leave p) := by
  unfold leave
  split
  · refine ⟨List.prefix_refl _, ?_, Nat.le_refl _, id⟩
    change s.log <+: if s.fault.isNone then s.log ++ [s.runEntry .runCancelled] else s.log
    split
    · exact List.prefix_append ..
    · exact List.prefix_refl _
  · exact onward_close p s false

theorem onward_of_act {p : Plan} {s t : RunState} (h : Act p s t) : Onward s t := by
  cases h with
  | look | scanned | pass | again | launch => exact .of_same rfl rfl rfl id
  | skip | expire => exact (onward_decide s _).trans (.of_same rfl rfl rfl id)
  | leave => exact onward_leave p s
  | @takeIn _ e rest => exact (onward_takeIn s e rest).trans (.of_same rfl rfl rfl id)
  | @drain e rest => exact onward_takeIn s e rest
  | finish => exact (onward_skips _ _ _ s).trans (onward_close p _ true)

/-- The loop makes no step pending again. -/
theorem pending_sublist_of_act {p : Plan} {s t : RunState} (h : Act p s t) :
    t.pending.Sublist s.pending := by
  cases h with
  | look | scanned | pass | again => exact .refl _
  | skip | expire | launch => exact List.erase_sublist
  | leave =>
    unfold leave
    split <;> exact .refl _
  | @takeIn _ e rest | @drain e rest =>
    have same : (s.takeIn e rest).pending = s.pending := pending_takeIn e rest s
    exact same ▸ .refl _
  | finish =>
    have rest : (s.finishDraining p).pending = s.pending.diff s.pending := pending_skips ..
    exact rest ▸ List.diff_sublist ..

theorem onward_of_poll {p : Plan} {turn : Nat} {id : String} {s t : RunState}
    (h : Poll p turn id s t) : Onward s t := by
  cases h with
  | waits | ends => exact ⟨List.prefix_refl _, List.prefix_append .., Nat.le_refl _, fun h => h⟩

end RunState

theorem Move.onward {o : Surroundings} {p : Plan} {s t : RunState} (h : Move o p s t) :
    s.Onward t := by
  cases h with
  | act h => exact RunState.onward_of_act (RunState.act_of_act? h)
  | poll h => exact RunState.onward_of_poll (RunState.poll_of_poll? h)
  | cancel => exact .of_same rfl rfl rfl fun _ => rfl
  | elapse => exact ⟨List.prefix_refl _, List.prefix_refl _, Nat.le_add_right .., id⟩

theorem Reaches.onward {o : Surroundings} {p : Plan} {s t : RunState} (h : Reaches o p s t) :
    s.Onward t := by
  induction h with
  | refl => exact .refl s
  | tail _ hm ih => exact ih.trans hm.onward

end Playbook
