import Playbook.Proofs.Run.Layout

/-!
The course of an attempt, as its entries tell it. An attempt begins, its action is invoked, and the
action answers; it may break off after any of these, but none of them comes twice or out of turn. As
the attempts at a step are made one after the other, their numbers ascend along the entries of the
step.
-/
namespace Playbook

open Json (Value)
open Trace (EventKind)

/-- What an event marks in the course of an attempt: that it has begun, that its action was invoked,
or that the action has answered. -/
inductive Mark where
  | begun | invoked | answered
  deriving DecidableEq, Repr

/-- The marks of an attempt that runs its course. -/
def Mark.course : List Mark := [.begun, .invoked, .answered]

def Trace.EventKind.mark? : EventKind → Option Mark
  | .stepStarted => some .begun
  | .handlerInvoked _ => some .invoked
  | .handlerReturned .. | .handlerError .. => some .answered
  | _ => none

/-! ### What an activity records -/

namespace Activity

variable {ε α β : Type}

/-- What is recorded after a halt. -/
def Halt.left : Halt ε α → List ε
  | .asleep _ rest => rest.events
  | .done _ | .panic _ => []

/-- The marks that an activity leaves. -/
def marks (a : Activity EventKind α) : List Mark := a.events.filterMap EventKind.mark?

end Activity

namespace Dispatcher

end Dispatcher

/-! ### What an attempt has recorded -/

namespace Plan

/-- While an attempt goes on, its action is invoked once at most, and answers once at most. -/
def Marked (p : Plan) : Prop := ∀ t, (p.trial t).marks <+: [.invoked, .answered]

/-- An attempt that was not refused has recorded its start and the first of what it records. -/
def Scripts (p : Plan) (_ : Bool) (t : Trial) (log : List LogEntry)
    (_ : Except String StepResult) : Prop :=
  log = [] ∨ ∃ told, log.map LogEntry.kind = .stepStarted :: told ∧ told <+: (p.trial t).events

end Plan

namespace Job

variable {o : Surroundings} {p : Plan}

/-- Two laws of single attempts hold together. -/
theorem Trials.and {G G' : Nat → Trial → List LogEntry → Working → Prop}
    {E E' : Bool → Trial → List LogEntry → Except String StepResult → Prop} (h : Trials o p G E)
    (h' : Trials o p G' E') :
    Trials o p (fun now t log w => G now t log w ∧ G' now t log w)
      fun cancelled t log came => E cancelled t log came ∧ E' cancelled t log came where
  refuse c now j late := ⟨h.refuse c now j late, h'.refuse c now j late⟩
  halt now j early := ⟨h.halt now j early, h'.halt now j early⟩
  opens now turn j early := ⟨h.opens now turn j early, h'.opens now turn j early⟩
  ends going rings ahead := ⟨h.ends going.1 rings ahead, h'.ends going.2 rings ahead⟩
  breaks going rings ahead := ⟨h.breaks going.1 rings ahead, h'.breaks going.2 rings ahead⟩
  expires going rings ahead cut :=
    ⟨h.expires going.1 rings ahead cut, h'.expires going.2 rings ahead cut⟩
  sleeps := by
    intro now turn j log w events ms rest going rings ahead uncut
    exact ⟨h.sleeps turn going.1 rings ahead uncut, h'.sleeps turn going.2 rings ahead uncut⟩
  interrupt going := ⟨h.interrupt going.1, h'.interrupt going.2⟩
  cut going asleep cut := ⟨h.cut going.1 asleep cut, h'.cut going.2 asleep cut⟩
  elapses allowed j mem w phase log going :=
    ⟨h.elapses allowed j mem w phase log going.1, h'.elapses allowed j mem w phase log going.2⟩

end Job

/-! ### Attempt after attempt -/

/-- The marks that some entries tell of an attempt. -/
def marksOf (number : Nat) (log : List LogEntry) : List Mark :=
  (log.filter fun e => e.attempt == some number).filterMap fun e => e.kind.mark?

theorem marksOf_append (number : Nat) (log more : List LogEntry) :
    marksOf number (log ++ more) = marksOf number log ++ marksOf number more := by
  simp [marksOf]

theorem marksOf_own {number : Nat} {log : List LogEntry}
    (own : ∀ e ∈ log, e.attempt = some number) :
    marksOf number log = log.filterMap fun e => e.kind.mark? := by
  unfold marksOf
  rw [List.filter_eq_self.2 fun e mem => by simp [own e mem]]

theorem marksOf_other {number : Nat} {log : List LogEntry}
    (others : ∀ e ∈ log, e.attempt ≠ some number) : marksOf number log = [] := by
  unfold marksOf
  rw [List.filter_eq_nil_iff.2 fun e mem => by simp [others e mem]]
  rfl

/-- The entries of a step tell of attempt after attempt, up to the one of a number, each of which
runs its course or breaks off. -/
structure Graded (last : Nat) (log : List LogEntry) : Prop where
  ascending : (log.filterMap LogEntry.attempt).Pairwise (· ≤ ·)
  within : ∀ number ∈ log.filterMap LogEntry.attempt, number ≤ last
  course : ∀ number, marksOf number log <+: Mark.course

namespace Graded

variable {last : Nat} {log : List LogEntry}

theorem nil : Graded 0 [] := ⟨.nil, nofun, fun _ => List.nil_prefix⟩

/-- The entries of the next attempt follow. -/
theorem next (h : Graded last log) {entries : List LogEntry}
    (own : ∀ e ∈ entries, e.attempt = some (last + 1))
    (marks : entries.filterMap (fun e => e.kind.mark?) <+: Mark.course) :
    Graded (last + 1) (log ++ entries) := by
  have numbers : ∀ number ∈ entries.filterMap LogEntry.attempt, number = last + 1 := by
    intro number mem
    obtain ⟨e, among, attempt⟩ := List.mem_filterMap.1 mem
    rw [own e among, Option.some.injEq] at attempt
    exact attempt.symm
  refine ⟨?_, fun number mem => ?_, fun number => ?_⟩
  · rw [List.filterMap_append, List.pairwise_append]
    refine ⟨h.ascending, List.pairwise_of_forall_mem_list fun a ha b hb => ?_, fun a ha b hb => ?_⟩
    · rw [numbers a ha, numbers b hb]
    · rw [numbers b hb]
      exact Nat.le_succ_of_le (h.within a ha)
  · rw [List.filterMap_append] at mem
    rcases List.mem_append.1 mem with mem | mem
    · exact Nat.le_succ_of_le (h.within number mem)
    · exact Nat.le_of_eq (numbers number mem)
  · rw [marksOf_append]
    by_cases new : number = last + 1
    · have fresh : marksOf number log = [] := by
        refine marksOf_other fun e mem attempt => ?_
        have before := h.within number (List.mem_filterMap.2 ⟨e, mem, attempt⟩)
        omega
      rw [fresh, List.nil_append, marksOf_own (new ▸ own)]
      exact marks
    · have others : marksOf number entries = [] := by
        refine marksOf_other fun e mem attempt => new ?_
        rw [own e mem, Option.some.injEq] at attempt
        exact attempt.symm
      rw [others, List.append_nil]
      exact h.course number

/-- An entry without a mark follows that is of the last attempt, or of none. -/
theorem concat (h : Graded last log) {e : LogEntry}
    (attempt : e.attempt = none ∨ e.attempt = some last) (unmarked : e.kind.mark? = none) :
    Graded last (log ++ [e]) := by
  refine ⟨?_, fun number mem => ?_, fun number => ?_⟩
  · rcases attempt with none | same
    · simpa [List.filterMap_append, none] using h.ascending
    · simpa [List.filterMap_append, same, List.pairwise_append] using
        ⟨h.ascending, fun a x mem attempt => h.within a (List.mem_filterMap.2 ⟨x, mem, attempt⟩)⟩
  · rcases List.mem_filterMap.1 mem with ⟨x, mem, own⟩
    rcases List.mem_append.1 mem with mem | mem
    · exact h.within number (List.mem_filterMap.2 ⟨x, mem, own⟩)
    · rw [List.mem_singleton.1 mem] at own
      rcases attempt with none | same
      · rw [none] at own
        cases own
      · rw [same, Option.some.injEq] at own
        exact Nat.le_of_eq own.symm
  · have silent : marksOf number [e] = [] := by
      unfold marksOf
      rw [List.filter_singleton]
      cases e.attempt == some number <;> simp [unmarked]
    rw [marksOf_append, silent, List.append_nil]
    exact h.course number

end Graded

namespace Job

variable {p : Plan} {step : Step} {vars : List (String × Value)} {log : List LogEntry}
  {past : List StepResult}

/-- What is known of an attempt that has ended: its entries, and of them the first ones of what it
records. -/
abbrev Scripted (p : Plan) (cancelled : Bool) (t : Trial) (log : List LogEntry)
    (came : Except String StepResult) : Prop :=
  p.Makes cancelled t log came ∧ p.Scripts cancelled t log came

theorem Scripted.marks (marked : p.Marked) {cancelled : Bool} {t : Trial}
    {came : Except String StepResult} (h : Scripted p cancelled t log came) :
    log.filterMap (fun e => e.kind.mark?) <+: Mark.course := by
  rcases h.2 with rfl | ⟨told, begun, first⟩
  · exact List.nil_prefix
  · have marks : log.filterMap (fun e => e.kind.mark?) =
        (log.map LogEntry.kind).filterMap EventKind.mark? := by
      rw [List.filterMap_map]
      rfl
    rw [marks, begun]
    exact List.cons_prefix_cons.2 ⟨rfl, (first.filterMap _).trans (marked t)⟩

theorem Scripted.attempts {cancelled : Bool} {t : Trial} {came : Except String StepResult}
    (h : Scripted p cancelled t log came) : ∀ e ∈ log, e.attempt = some t.number :=
  fun _ mem => (h.1.entries.of_mem mem).2.1

end Job

namespace RunState

variable {o : Surroundings} {p : Plan} {context : RunContext} {cancelled : Bool} {s : RunState}

end RunState
end Playbook
