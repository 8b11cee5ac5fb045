import Mathlib.Tactic.Common
import Playbook.Cron.Schedule

/-!
Searches in parts. Members that stand in order are searched part by part, in the order of the parts,
and a start restricts the part that it lies in and rules out those before; so the first member that
is found is the least one that is not before the start. Hours, minutes and seconds are parts of this
kind, and years, months and days.
-/
namespace Playbook.Cron

variable {α β : Type} {place : α → Int} {P Q R : α → Prop} {part : α → Nat} {xs : List Nat}

/-- What a search for the first member with a property comes to, where members stand at places. -/
inductive Finds (place : α → Int) (P : α → Prop) : Option α → Prop
  | found {a : α} (holds : P a) (least : ∀ b, P b → place a ≤ place b) : Finds place P (some a)
  | absent (nowhere : ∀ a, ¬P a) : Finds place P none

theorem findSome?_congr {f g : α → Option β} {as : List α} (same : ∀ a ∈ as, f a = g a) :
    as.findSome? f = as.findSome? g := by
  induction as with
  | nil => rfl
  | cons a rest ih =>
    rw [List.findSome?_cons, List.findSome?_cons, same a (by simp),
      ih fun b mem => same b (List.mem_cons_of_mem _ mem)]

namespace Finds

theorem congr {r : Option α} (h : Finds place P r) (same : ∀ a, P a ↔ Q a) : Finds place Q r := by
  obtain rfl : P = Q := funext fun a => propext (same a)
  exact h

/-- A search carried over to other members, in the same order. -/
theorem map {r : Option α} {place' : β → Int} {P' : β → Prop} {f : α → β} {g : β → α}
    (h : Finds place P r) (forth : ∀ a, P a → P' (f a)) (back : ∀ b, P' b → P (g b))
    (ordered : ∀ a b, P a → P' b → place a ≤ place (g b) → place' (f a) ≤ place' b) :
    Finds place' P' (r.map f) := by
  cases h with
  | found holds least =>
    exact .found (forth _ holds) fun b hb => ordered _ b holds hb (least _ (back b hb))
  | absent nowhere => exact .absent fun b hb => nowhere _ (back b hb)

variable (part) in
/-- Parts that are searched one after the other. -/
theorem findSome? {f : Nat → Option α} (ascending : xs.Pairwise (· < ·))
    (covers : ∀ a, P a → part a ∈ xs)
    (ordered : ∀ a b, P a → P b → part a < part b → place a ≤ place b)
    (each : ∀ n ∈ xs, Finds place (fun a => P a ∧ part a = n) (f n)) :
    Finds place P (xs.findSome? f) := by
  induction xs with
  | nil => exact .absent fun a holds => absurd (covers a holds) List.not_mem_nil
  | cons n rest ih =>
    obtain ⟨least, ascending⟩ := List.pairwise_cons.1 ascending
    have first := each n (by simp)
    rw [List.findSome?_cons]
    generalize f n = own at first
    cases first with
    | @found a both before =>
      refine .found both.1 fun b holds => ?_
      rcases List.mem_cons.1 (covers b holds) with same | later
      · exact before b ⟨holds, same⟩
      · exact ordered a b both.1 holds (both.2 ▸ least _ later)
    | absent nowhere =>
      refine ih ascending (fun a holds => ?_) fun m mem => each m (List.mem_cons_of_mem _ mem)
      exact (List.mem_cons.1 (covers a holds)).resolve_left fun same => nowhere a ⟨holds, same⟩

/-- Parts that are searched from that of a start on. Only the part of the start is searched from the
start on; the members of later parts are all behind it, so these are searched from their beginning. -/
theorem fromStart {start : Option α} {f : Nat → Option α → Option α}
    (ascending : xs.Pairwise (· < ·))
    (ordered : ∀ a b, R a → R b → part a < part b → place a < place b)
    (covers : ∀ a, Q a → R a ∧ part a ∈ xs) (within : ∀ a ∈ start, R a)
    (each : ∀ n ∈ xs, ∀ own : Option α, (∀ a ∈ own, a ∈ start ∧ part a = n) →
      Finds place (fun a => (Q a ∧ part a = n) ∧ ∀ b ∈ own, place b ≤ place a) (f n own)) :
    Finds place (fun a => Q a ∧ ∀ b ∈ start, place b ≤ place a)
      ((Schedule.fromStart xs (start.map part)).findSome? fun n =>
        f n (if Schedule.atStart (start.map part) n then start else none)) := by
  have inOrder : ∀ a b, Q a → Q b → part a < part b → place a ≤ place b :=
    fun a b ha hb less => Int.le_of_lt (ordered a b (covers a ha).1 (covers b hb).1 less)
  cases start with
  | none =>
    refine findSome? part ascending (fun a h => (covers a h.1).2)
      (fun a b ha hb => inOrder a b ha.1 hb.1) fun n mem => ?_
    exact (each n mem none nofun).congr fun a => by simp
  | some b =>
    have start : R b := within b rfl
    have behind : ∀ a, Q a → part b < part a → ∀ c ∈ some b, place c ≤ place a := by
      rintro a ha less c ⟨⟩
      exact Int.le_of_lt (ordered b a start (covers a ha).1 less)
    refine findSome? part (ascending.filter _) (fun a h => ?_)
      (fun a a' ha ha' => inOrder a a' ha.1 ha'.1) fun n mem => ?_
    · obtain ⟨own, known⟩ := covers a h.1
      refine List.mem_filter.2 ⟨known, decide_eq_true (Nat.le_of_not_lt fun less => ?_)⟩
      exact absurd (h.2 b rfl) (Int.not_le.2 (ordered a b own start less))
    obtain ⟨known, fromPart⟩ := List.mem_filter.1 mem
    rcases Nat.eq_or_lt_of_le (of_decide_eq_true fromPart) with same | later
    · have here : Schedule.atStart ((some b).map part) n = true := by
        simp [Schedule.atStart, same]
      rw [here, if_pos rfl]
      refine (each n known (some b) ?_).congr fun a => and_right_comm
      rintro a ⟨⟩
      exact ⟨rfl, same⟩
    · have apart : Schedule.atStart ((some b).map part) n = false := by
        simp [Schedule.atStart, Nat.ne_of_lt later]
      rw [apart, if_neg (by decide)]
      refine (each n known none nofun).congr fun a => ?_
      exact ⟨fun ⟨⟨holds, here⟩, _⟩ => ⟨⟨holds, behind a holds (here ▸ later)⟩, here⟩,
        fun ⟨⟨holds, _⟩, here⟩ => ⟨⟨holds, here⟩, nofun⟩⟩

end Finds
end Playbook.Cron
