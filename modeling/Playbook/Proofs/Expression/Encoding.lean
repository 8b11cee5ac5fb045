import Playbook.Proofs.Decimal.Whole
import Playbook.Proofs.Expression.Comparison

/-!
Equality and the two ways of writing a whole number. A value may write a number as an integer or as
the float that stands for the same number. Two numbers are compared by what they stand for, so there
the way of writing is not seen; what lies inside a list or an object is compared as it is written.
-/
namespace Playbook

namespace Decimal

theorem beq_symm {x y : Float} (h : (x == y) = true) : (y == x) = true := by
  obtain ⟨hx, hy⟩ := isNaN_of_beq h
  exact (beq_iff_place hy hx).2 ((beq_iff_place hx hy).1 h).symm

theorem beq_self {x : Float} (h : x.isNaN = false) : (x == x) = true := (beq_iff_place h h).2 rfl

/-- Equal floats equal the same floats. -/
theorem beq_congr_left {x y : Float} (h : (x == y) = true) (z : Float) : (x == z) = (y == z) := by
  rw [Bool.eq_iff_iff]
  exact ⟨beq_trans (beq_symm h), beq_trans h⟩

theorem beq_congr_right {x y : Float} (h : (x == y) = true) (z : Float) : (z == x) = (z == y) := by
  rw [Bool.eq_iff_iff]
  exact ⟨fun h' => beq_trans h' h, fun h' => beq_trans h' (beq_symm h)⟩

end Decimal

namespace Json

/-- One number written twice: in one form both times, or once as an integer and once as the float
that stands for it. -/
inductive Number.Recoded : Number → Number → Prop where
  | int (n : Int) : Recoded (.int n) (.int n)
  | float {x : Float} (number : x.isNaN = false) : Recoded (.float x) (.float x)
  | asFloat {n : Int} {x : Float} (whole : Decimal.isWhole x = true)
      (value : Decimal.truncate? x = some n) : Recoded (.int n) (.float x)
  | asInt {n : Int} {x : Float} (whole : Decimal.isWhole x = true)
      (value : Decimal.truncate? x = some n) : Recoded (.float x) (.int n)

namespace Value

mutual

/-- One value written twice, with numbers inside it in one form or the other. -/
inductive Recoded : Value → Value → Prop where
  | null : Recoded .null .null
  | bool (b : Bool) : Recoded (.bool b) (.bool b)
  | number {m n : Number} (h : m.Recoded n) : Recoded (.number m) (.number n)
  | text (s : String) : Recoded (.text s) (.text s)
  | list {vs ws : List Value} (h : RecodedItems vs ws) : Recoded (.list vs) (.list ws)
  | object {vs ws : List (String × Value)} (h : RecodedEntries vs ws) :
      Recoded (.object vs) (.object ws)

inductive RecodedItems : List Value → List Value → Prop where
  | nil : RecodedItems [] []
  | cons {v w : Value} {vs ws : List Value} (first : v.Recoded w) (others : RecodedItems vs ws) :
      RecodedItems (v :: vs) (w :: ws)

inductive RecodedEntries : List (String × Value) → List (String × Value) → Prop where
  | nil : RecodedEntries [] []
  | cons {k : String} {v w : Value} {vs ws : List (String × Value)} (first : v.Recoded w)
      (others : RecodedEntries vs ws) : RecodedEntries ((k, v) :: vs) ((k, w) :: ws)

end

end Value

theorem Number.Recoded.beq {m n : Number} (h : m.Recoded n) : (m.toFloat == n.toFloat) = true := by
  cases h with
  | int n => exact Decimal.beq_self (Decimal.isNaN_floatOfInt n)
  | float number => exact Decimal.beq_self number
  | asFloat whole value => exact Decimal.ofInt_beq whole value
  | asInt whole value => exact Decimal.beq_symm (Decimal.ofInt_beq whole value)

/-- Written alike, two forms of one number are one form. -/
theorem Number.Recoded.same_iff {m n : Number} (h : m.Recoded n) : m.same n = true ↔ m = n := by
  cases h with
  | int n => simp [Number.same]
  | float number => simp [Number.same, Decimal.beq_self number]
  | asFloat whole value => simp [Number.same]
  | asInt whole value => simp [Number.same]

namespace Value

mutual

theorem Recoded.same_iff : ∀ {v w : Value}, v.Recoded w → (v.same w = true ↔ v = w)
  | _, _, .null => by simp [same]
  | _, _, .bool b => by simp [same]
  | _, _, .number h => by simp [same, h.same_iff]
  | _, _, .text s => by simp [same]
  | _, _, .list h => by simp [same, h.same_iff]
  | _, _, .object h => by simp [same, h.same_iff]

theorem RecodedItems.same_iff : ∀ {vs ws : List Value}, RecodedItems vs ws →
    (sameItems vs ws = true ↔ vs = ws)
  | _, _, .nil => by simp [sameItems]
  | _, _, .cons first others => by simp [sameItems, first.same_iff, others.same_iff]

theorem RecodedEntries.same_iff : ∀ {vs ws : List (String × Value)}, RecodedEntries vs ws →
    (sameEntries vs ws = true ↔ vs = ws)
  | _, _, .nil => by simp [sameEntries]
  | _, _, .cons first others => by simp [sameEntries, first.same_iff, others.same_iff]

end

end Value
end Json

namespace Expression

open Json (Value Number)

/-- No equality with a third value tells the two apart. -/
def Interchangeable (v w : Value) : Prop :=
  ∀ op ∈ [BinaryOp.eq, .notEq], ∀ u,
    applyBinary op v u = applyBinary op w u ∧ applyBinary op u v = applyBinary op u w

section
variable {v w : Value}

theorem interchangeable_of_equal (left : ∀ u, equal v u = equal w u)
    (right : ∀ u, equal u v = equal u w) : Interchangeable v w := by
  intro op mem u
  simp only [List.mem_cons, List.not_mem_nil, or_false] at mem
  rcases mem with rfl | rfl
  · exact ⟨by rw [applyBinary, left, applyBinary], by rw [applyBinary, right, applyBinary]⟩
  · exact ⟨by rw [applyBinary, left, applyBinary], by rw [applyBinary, right, applyBinary]⟩

/-- Two forms of one number are interchangeable. -/
theorem interchangeable_numbers {m n : Number} (h : m.Recoded n) :
    Interchangeable (.number m) (.number n) := by
  refine interchangeable_of_equal (fun u => ?_) fun u => ?_
  · cases u with
    | number k => rw [equal, equal, Decimal.beq_congr_left h.beq]
    | _ => rfl
  · cases u with
    | number k => rw [equal, equal, Decimal.beq_congr_right h.beq]
    | _ => rfl

/-- Of one value written twice, equality says that it is the same one where the two are numbers, and
otherwise whether they are written alike. -/
theorem equal_recoded (h : v.Recoded w) :
    ∃ answer, equal v w = .ok answer ∧ (answer = true ↔ v = w ∨ v.kind = .number) := by
  have alike := h.same_iff
  cases h with
  | null => exact ⟨_, rfl, by simp⟩
  | bool b => exact ⟨_, rfl, by simp⟩
  | number h => exact ⟨_, rfl, by simp [h.beq, Value.kind]⟩
  | text s => exact ⟨_, rfl, by simp⟩
  | list h => exact ⟨_, rfl, by simpa [Value.kind] using alike⟩
  | object h => exact ⟨_, rfl, by simpa [Value.kind] using alike⟩

/-- One value written twice is equal to itself, and interchangeable with itself, where the two are
numbers or do not differ; two lists or two objects in which a number is written in another form are
different. -/
theorem forms_count_inside (h : v.Recoded w) :
    (v = w ∨ v.kind = .number → Holds .eq v w ∧ Fails .notEq v w ∧ Interchangeable v w) ∧
    (¬(v = w ∨ v.kind = .number) → Fails .eq v w ∧ Holds .notEq v w) := by
  obtain ⟨answer, answered, same⟩ := equal_recoded h
  have eq := applyBinary_eq answered
  have notEq := applyBinary_notEq answered
  constructor
  · intro alike
    obtain rfl := same.2 alike
    refine ⟨eq, notEq, ?_⟩
    rcases alike with rfl | number
    · exact fun _ _ _ => ⟨rfl, rfl⟩
    · cases h with
      | number h => exact interchangeable_numbers h
      | _ => cases number
  · intro differ
    obtain rfl : answer = false := Bool.eq_false_iff.2 (mt same.1 differ)
    exact ⟨eq, notEq⟩

end

theorem recoded_one : Number.Recoded (.int 1) (.float 1.0) :=
  .asFloat (by decide +kernel) (by decide +kernel)

theorem one_is_one : Holds .eq (.int 1) (.float 1.0) ∧ Interchangeable (.int 1) (.float 1.0) ∧
    Fails .eq (.object [("a", .int 1)]) (.object [("a", .float 1.0)]) := by
  have numbers := (forms_count_inside (.number recoded_one)).1 (.inr rfl)
  have objects := (forms_count_inside (.object (.cons (k := "a") (.number recoded_one) .nil))).2
    (by simp [Value.kind])
  exact ⟨numbers.1, numbers.2.2, objects.1⟩

/-- A list with an integer in it is not the list with the float of that integer. -/
theorem lists_of_one_differ :
    Value.Recoded (.list [.int 1]) (.list [.float 1.0]) ∧
    Fails .eq (.list [.int 1]) (.list [.float 1.0]) ∧
    Holds .notEq (.list [.int 1]) (.list [.float 1.0]) := by
  have differ : equal (.list [.int 1]) (.list [.float 1.0]) = .ok false := rfl
  exact ⟨.list (.cons (.number recoded_one) .nil), applyBinary_eq differ, applyBinary_notEq differ⟩

end Expression
end Playbook
