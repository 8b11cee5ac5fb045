/-!
What a piece of work does until it ends: it records events, lets time pass, and at last gives a
result or breaks off with a panic. An activity is a finite list of such acts, so every one ends
after `duration` milliseconds; whoever runs it may stop in between.
-/
namespace Playbook

inductive Activity (ε α : Type) where
  | done (result : α)
  | panic (message : String)
  | record (event : ε) (rest : Activity ε α)
  | sleep (ms : Nat) (rest : Activity ε α)

namespace Activity

variable {ε α β : Type}

def bind : Activity ε α → (α → Activity ε β) → Activity ε β
  | done a, f => f a
  | panic message, _ => panic message
  | record e rest, f => record e (rest.bind f)
  | sleep ms rest, f => sleep ms (rest.bind f)

instance : Monad (Activity ε) where
  pure := done
  bind := bind

/-- Records one event. -/
def event (e : ε) : Activity ε Unit := record e (done ())

/-- Lets some milliseconds pass. -/
def pause (ms : Nat) : Activity ε Unit := sleep ms (done ())

/-- The same activity with other events. -/
def relabel {δ : Type} (f : ε → δ) : Activity ε α → Activity δ α
  | done a => done a
  | panic message => panic message
  | record e rest => record (f e) (rest.relabel f)
  | sleep ms rest => sleep ms (rest.relabel f)

/-- An activity that cannot record events, seen as one that can. -/
def silent (a : Activity Empty α) : Activity ε α := a.relabel Empty.elim

/-- The milliseconds that pass until the end. -/
def duration : Activity ε α → Nat
  | done _ | panic _ => 0
  | record _ rest => rest.duration
  | sleep ms rest => ms + rest.duration

/-- The recorded events in order. -/
def events : Activity ε α → List ε
  | done _ | panic _ => []
  | record e rest => e :: rest.events
  | sleep _ rest => rest.events

/-- The result at the end, or the message of the panic. -/
def outcome : Activity ε α → Except String α
  | done a => .ok a
  | panic message => .error message
  | record _ rest => rest.outcome
  | sleep _ rest => rest.outcome

/-- The number of acts. -/
def size : Activity ε α → Nat
  | done _ | panic _ => 0
  | record _ rest => rest.size + 1
  | sleep _ rest => rest.size + 1

/-- The activity with the milliseconds that it took beside its result. -/
def timedFrom (elapsed : Nat) : Activity ε α → Activity ε (Nat × α)
  | done a => done (elapsed, a)
  | panic message => panic message
  | record e rest => record e (rest.timedFrom elapsed)
  | sleep ms rest => sleep ms (rest.timedFrom (elapsed + ms))

def timed (a : Activity ε α) : Activity ε (Nat × α) := a.timedFrom 0

/-- The activity cut off after some milliseconds; what ends in the last of them counts. -/
def within (limit : Nat) : Activity ε α → Activity ε (Option α)
  | done a => done (some a)
  | panic message => panic message
  | record e rest => record e (rest.within limit)
  | sleep ms rest =>
    if ms ≤ limit then sleep ms (rest.within (limit - ms)) else sleep limit (done none)

/-- Where an activity comes to a halt: at its end, or at a sleep that takes time. -/
inductive Halt (ε α : Type) where
  | done (result : α)
  | panic (message : String)
  | asleep (ms : Nat) (rest : Activity ε α)

/-- The events up to the next halt, and the halt. -/
def advance : Activity ε α → List ε × Halt ε α
  | done a => ([], .done a)
  | panic message => ([], .panic message)
  | record e rest =>
    let (events, halt) := rest.advance
    (e :: events, halt)
  | sleep ms rest => if ms = 0 then rest.advance else ([], .asleep ms rest)

theorem size_lt_of_advance {a rest : Activity ε α} {events : List ε} {ms : Nat}
    (h : a.advance = (events, .asleep ms rest)) : rest.size < a.size := by
  induction a generalizing events with
  | done | panic => simp [advance] at h
  | record e next ih =>
    simp only [advance] at h
    obtain ⟨_, h⟩ := Prod.mk.inj h
    exact Nat.lt_succ_of_lt (ih (Prod.ext rfl h))
  | sleep n next ih =>
    by_cases hn : n = 0
    · simp only [advance, hn, if_true] at h
      exact Nat.lt_succ_of_lt (ih h)
    · simp only [advance, hn, if_false, Prod.mk.injEq, Halt.asleep.injEq] at h
      simp [size, ← h.2.2]

@[simp] theorem bind_done (a : α) (f : α → Activity ε β) : (done a).bind f = f a := rfl

end Activity
end Playbook
