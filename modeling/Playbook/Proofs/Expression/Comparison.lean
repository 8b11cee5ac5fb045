import Playbook.Expression.Operator
import Playbook.Proofs.Decimal.Order
import Playbook.Proofs.Instant.Order

/-!
The comparison operators taken together. Numbers are ordered by their places among the floats. Two
texts are ordered as instants when both are, and by their characters otherwise, so that texts which
are no instants may stand between two instants in the wrong way.
-/
namespace Playbook.Expression

open Json (Value Number)
open Decimal (place lt_iff_place beq_iff_place)

/-- The operator answers true. -/
def Holds (op : BinaryOp) (a b : Value) : Prop := applyBinary op a b = .ok (.bool true)

/-- The operator answers false. -/
def Fails (op : BinaryOp) (a b : Value) : Prop := applyBinary op a b = .ok (.bool false)

/-- Of less, equal and greater one holds and the other two fail. -/
inductive OneOfThree (a b : Value) : Prop where
  | less (lt : Holds .lt a b) (eq : Fails .eq a b) (gt : Fails .gt a b)
  | equal (lt : Fails .lt a b) (eq : Holds .eq a b) (gt : Fails .gt a b)
  | greater (lt : Fails .lt a b) (eq : Fails .eq a b) (gt : Holds .gt a b)

/-! ### Operators by the order -/

section
variable {a b : Value} {o : Ordering}

theorem holds_iff {op : BinaryOp} {answer : Bool} (h : applyBinary op a b = .ok (.bool answer)) :
    Holds op a b ↔ answer = true := by
  simp [Holds, h]

theorem fails_iff {op : BinaryOp} {answer : Bool} (h : applyBinary op a b = .ok (.bool answer)) :
    Fails op a b ↔ answer = false := by
  simp [Fails, h]

theorem applyBinary_lt (h : order a b = .ok o) : applyBinary .lt a b = .ok (.bool (o == .lt)) := by
  rw [applyBinary, h]
  rfl

theorem applyBinary_lte (h : order a b = .ok o) :
    applyBinary .lte a b = .ok (.bool (o != .gt)) := by
  rw [applyBinary, h]
  rfl

theorem applyBinary_gt (h : order a b = .ok o) : applyBinary .gt a b = .ok (.bool (o == .gt)) := by
  rw [applyBinary, h]
  rfl

theorem applyBinary_gte (h : order a b = .ok o) :
    applyBinary .gte a b = .ok (.bool (o != .lt)) := by
  rw [applyBinary, h]
  rfl

theorem applyBinary_eq {same : Bool} (h : equal a b = .ok same) :
    applyBinary .eq a b = .ok (.bool same) := by
  rw [applyBinary, h]
  rfl

theorem applyBinary_notEq {same : Bool} (h : equal a b = .ok same) :
    applyBinary .notEq a b = .ok (.bool !same) := by
  rw [applyBinary, h]
  rfl

theorem holds_lt_iff (h : order a b = .ok o) : Holds .lt a b ↔ o = .lt := by
  rw [holds_iff (applyBinary_lt h), beq_iff_eq]

theorem holds_gt_iff (h : order a b = .ok o) : Holds .gt a b ↔ o = .gt := by
  rw [holds_iff (applyBinary_gt h), beq_iff_eq]

theorem holds_lte_iff (h : order a b = .ok o) : Holds .lte a b ↔ o ≠ .gt := by
  rw [holds_iff (applyBinary_lte h), bne_iff_ne]

theorem holds_gte_iff (h : order a b = .ok o) : Holds .gte a b ↔ o ≠ .lt := by
  rw [holds_iff (applyBinary_gte h), bne_iff_ne]

theorem fails_lt_iff (h : order a b = .ok o) : Fails .lt a b ↔ o ≠ .lt := by
  rw [fails_iff (applyBinary_lt h), beq_eq_false_iff_ne]

theorem fails_gt_iff (h : order a b = .ok o) : Fails .gt a b ↔ o ≠ .gt := by
  rw [fails_iff (applyBinary_gt h), beq_eq_false_iff_ne]

/-- Where equality goes by the order, the order decides among the three. -/
theorem oneOfThree (ordered : order a b = .ok o) (same : equal a b = .ok (o == .eq)) :
    OneOfThree a b := by
  have lt := applyBinary_lt ordered
  have eq := applyBinary_eq same
  have gt := applyBinary_gt ordered
  cases o with
  | lt => exact .less lt eq gt
  | eq => exact .equal lt eq gt
  | gt => exact .greater lt eq gt

end

/-! ### Numbers -/

section
variable {x y : Float}

theorem orderFloats_eq_compare (hx : x.isNaN = false) (hy : y.isNaN = false) :
    orderFloats x y = compare (place x) (place y) := by
  unfold orderFloats
  rcases lt_trichotomy (place x) (place y) with less | same | greater
  · rw [if_pos ((lt_iff_place hx hy).2 less), compare_lt_iff_lt.2 less]
  · have level : ¬x < y := fun less => same.not_lt ((lt_iff_place hx hy).1 less)
    have level' : ¬y < x := fun less => same.not_gt ((lt_iff_place hy hx).1 less)
    rw [if_neg level, if_neg level', compare_eq_iff_eq.2 same]
  · have above : ¬x < y := fun less => greater.not_gt ((lt_iff_place hx hy).1 less)
    rw [if_neg above, if_pos ((lt_iff_place hy hx).2 greater), compare_gt_iff_gt.2 greater]

theorem beq_eq_compare (hx : x.isNaN = false) (hy : y.isNaN = false) :
    (x == y) = (compare (place x) (place y) == .eq) := by
  rw [Bool.eq_iff_iff, beq_iff_place hx hy, beq_iff_eq, compare_eq_iff_eq]

end

/-- A number of the data format, which has no value for what is no number. -/
def Proper : Number → Prop
  | .int _ => True
  | .float x => x.isNaN = false

theorem Proper.isNaN {n : Number} (h : Proper n) : n.toFloat.isNaN = false := by
  cases n with
  | int n => exact Decimal.isNaN_floatOfInt n
  | float x => exact h

theorem order_number {m n : Number} (hm : Proper m) (hn : Proper n) :
    order (.number m) (.number n) = .ok (compare (place m.toFloat) (place n.toFloat)) := by
  rw [order, orderFloats_eq_compare hm.isNaN hn.isNaN]

theorem equal_number {m n : Number} (hm : Proper m) (hn : Proper n) :
    equal (.number m) (.number n) =
      .ok (compare (place m.toFloat) (place n.toFloat) == .eq) := by
  rw [equal, beq_eq_compare hm.isNaN hn.isNaN]

/-! ### Texts -/

section
variable {a b c : String} {s t : Instant}

theorem orderTexts_instants (ha : Instant.parse? a = some s) (hb : Instant.parse? b = some t) :
    orderTexts a b = s.cmp t := by
  rw [orderTexts, ha, hb]

/-- As instants, if they both are, two texts are ordered as by their characters. -/
def Alike (a b : String) : Prop :=
  ∀ s t, Instant.parse? a = some s → Instant.parse? b = some t → s.cmp t = compare a b

theorem orderTexts_alike (h : Alike a b) : orderTexts a b = compare a b := by
  unfold orderTexts
  split
  · exact h _ _ ‹_› ‹_›
  · rfl

/-- Two different texts of one instant. -/
inductive SameInstant : Value → Value → Prop where
  | mk {a b : String} {s : Instant} (differ : a ≠ b) (ha : Instant.parse? a = some s)
      (hb : Instant.parse? b = some s) : SameInstant (.text a) (.text b)

theorem orderTexts_eq_iff (h : ¬SameInstant (.text a) (.text b)) :
    orderTexts a b = .eq ↔ a = b := by
  unfold orderTexts
  split
  · rename_i s t ha hb
    rw [Instant.cmp_eq_eq_iff]
    constructor
    · rintro rfl
      exact not_not.1 fun differ => h ⟨differ, ha, hb⟩
    · rintro rfl
      exact Option.some.inj (ha.symm.trans hb)
  · exact Std.compare_eq_iff_eq

theorem equal_text (h : ¬SameInstant (.text a) (.text b)) :
    equal (.text a) (.text b) = .ok (orderTexts a b == .eq) := by
  rw [equal]
  congr 1
  rw [Bool.eq_iff_iff, beq_iff_eq, beq_iff_eq, orderTexts_eq_iff h]

end

/-! ### Values of one type -/

/-- Two numbers or two texts. -/
inductive Comparable : Value → Value → Prop where
  | numbers {m n : Number} (hm : Proper m) (hn : Proper n) : Comparable (.number m) (.number n)
  | texts {a b : String} : Comparable (.text a) (.text b)

/-- Three numbers, three instants, or three texts among which no two instants are set against their
characters. -/
inductive Orderly : Value → Value → Value → Prop where
  | numbers {l m n : Number} (hl : Proper l) (hm : Proper m) (hn : Proper n) :
      Orderly (.number l) (.number m) (.number n)
  | instants {a b c : String} {s t u : Instant} (ha : Instant.parse? a = some s)
      (hb : Instant.parse? b = some t) (hc : Instant.parse? c = some u) :
      Orderly (.text a) (.text b) (.text c)
  | texts {a b c : String} (ab : Alike a b) (bc : Alike b c) (ac : Alike a c) :
      Orderly (.text a) (.text b) (.text c)

section
variable {a b c : Value}

theorem Comparable.exists_order (h : Comparable a b) : ∃ o, order a b = .ok o := by
  cases h with
  | numbers hm hn => exact ⟨_, order_number hm hn⟩
  | texts => exact ⟨_, rfl⟩

theorem Comparable.exists_equal (h : Comparable a b) : ∃ same, equal a b = .ok same := by
  cases h with
  | numbers hm hn => exact ⟨_, equal_number hm hn⟩
  | texts => exact ⟨_, rfl⟩

theorem Comparable.answers (h : Comparable a b) {op : BinaryOp}
    (mem : op ∈ [.lt, .lte, .gt, .gte, .eq, .notEq]) : Holds op a b ∨ Fails op a b := by
  obtain ⟨o, ordered⟩ := h.exists_order
  obtain ⟨same, equal⟩ := h.exists_equal
  have answered : ∃ answer, applyBinary op a b = .ok (.bool answer) := by
    simp only [List.mem_cons, List.not_mem_nil, or_false] at mem
    rcases mem with rfl | rfl | rfl | rfl | rfl | rfl
    · exact ⟨_, applyBinary_lt ordered⟩
    · exact ⟨_, applyBinary_lte ordered⟩
    · exact ⟨_, applyBinary_gt ordered⟩
    · exact ⟨_, applyBinary_gte ordered⟩
    · exact ⟨_, applyBinary_eq equal⟩
    · exact ⟨_, applyBinary_notEq equal⟩
  obtain ⟨_ | _, answered⟩ := answered
  · exact .inr answered
  · exact .inl answered

theorem Comparable.oneOfThree (h : Comparable a b) (h' : ¬SameInstant a b) : OneOfThree a b := by
  cases h with
  | numbers hm hn => exact Expression.oneOfThree (order_number hm hn) (equal_number hm hn)
  | texts => exact Expression.oneOfThree rfl (equal_text h')

theorem Orderly.lt_trans (h : Orderly a b c) (less : Holds .lt a b) (less' : Holds .lt b c) :
    Holds .lt a c := by
  cases h with
  | numbers hl hm hn =>
    rw [holds_lt_iff (order_number ‹_› ‹_›), compare_lt_iff_lt] at *
    exact less.trans less'
  | instants ha hb hc =>
    rw [holds_lt_iff rfl, orderTexts_instants ‹_› ‹_›] at *
    exact Instant.cmp_lt_trans less less'
  | texts ab bc ac =>
    rw [holds_lt_iff rfl, orderTexts_alike ‹_›] at *
    exact Std.TransCmp.lt_trans less less'

end

/-- Comparisons of two numbers or of two texts answer, and consistently, save for what two texts of
one instant say to equality; two instants are compared as instants by all operators; and less is
transitive where no text comes between two instants in the wrong way. -/
theorem comparisons_are_consistent :
    (∀ a b, Comparable a b →
      (∀ op ∈ [.lt, .lte, .gt, .gte, .eq, .notEq], Holds op a b ∨ Fails op a b) ∧
      (Holds .lte a b ↔ Fails .gt a b) ∧ (Holds .gte a b ↔ Fails .lt a b) ∧
      (Holds .notEq a b ↔ Fails .eq a b) ∧ (¬SameInstant a b → OneOfThree a b)) ∧
    (∀ a b c, Orderly a b c → Holds .lt a b → Holds .lt b c → Holds .lt a c) ∧
    ∀ a b s t, Instant.parse? a = some s → Instant.parse? b = some t →
      (Holds .lt (.text a) (.text b) ↔ s.cmp t = .lt) ∧
      (Holds .lte (.text a) (.text b) ↔ s.cmp t ≠ .gt) ∧
      (Holds .gt (.text a) (.text b) ↔ s.cmp t = .gt) ∧
      (Holds .gte (.text a) (.text b) ↔ s.cmp t ≠ .lt) ∧
      (¬SameInstant (.text a) (.text b) →
        (Holds .eq (.text a) (.text b) ↔ s.cmp t = .eq) ∧
        (Holds .notEq (.text a) (.text b) ↔ s.cmp t ≠ .eq)) := by
  refine ⟨fun a b h => ?_, fun a b c h => h.lt_trans, fun a b s t ha hb => ?_⟩
  · obtain ⟨o, ordered⟩ := h.exists_order
    obtain ⟨same, equal⟩ := h.exists_equal
    refine ⟨fun op => h.answers, ?_, ?_, ?_, h.oneOfThree⟩
    · rw [holds_lte_iff ordered, fails_gt_iff ordered]
    · rw [holds_gte_iff ordered, fails_lt_iff ordered]
    · rw [holds_iff (applyBinary_notEq equal), fails_iff (applyBinary_eq equal), Bool.not_eq_true']
  · have ordered : order (.text a) (.text b) = .ok (s.cmp t) :=
      congrArg Except.ok (orderTexts_instants ha hb)
    refine ⟨holds_lt_iff ordered, holds_lte_iff ordered, holds_gt_iff ordered,
      holds_gte_iff ordered, fun h => ?_⟩
    have equal := equal_text h
    rw [orderTexts_instants ha hb] at equal
    rw [holds_iff (applyBinary_eq equal), holds_iff (applyBinary_notEq equal), beq_iff_eq]
    simp

theorem three_mornings_are_ordered :
    let a := "2024-01-01T10:00:00+05:00"
    let b := "2024-01-01T06:00:00Z"
    let c := "2024-01-01T06:00:00-01:00"
    OneOfThree (.number (.int 2)) (.number (.float 2.5)) ∧ OneOfThree (.text a) (.text b) ∧
    (Holds .lt (.text a) (.text b) ∧ Holds .lt (.text b) (.text c) ∧
      Holds .lt (.text a) (.text c)) ∧
    Instant.parse? a = some ⟨1704085200, 0⟩ ∧ Instant.parse? c = some ⟨1704092400, 0⟩ ∧
    (Holds .notEq (.text a) (.text c) ↔ Instant.cmp ⟨1704085200, 0⟩ ⟨1704092400, 0⟩ ≠ .eq) := by
  intro a b c
  obtain ⟨pairs, transitive, instants⟩ := comparisons_are_consistent
  have ha : Instant.parse? a = some ⟨1704085200, 0⟩ := by decide +kernel
  have hb : Instant.parse? b = some ⟨1704088800, 0⟩ := by decide +kernel
  have hc : Instant.parse? c = some ⟨1704092400, 0⟩ := by decide +kernel
  have apart {a b : String} {s t : Instant} (ha : Instant.parse? a = some s)
      (hb : Instant.parse? b = some t) (differ : s ≠ t) : ¬SameInstant (.text a) (.text b) := by
    rintro ⟨-, ha', hb'⟩
    rw [ha] at ha'
    rw [hb] at hb'
    exact differ (Option.some.inj (ha'.trans hb'.symm))
  have ab : Holds .lt (.text a) (.text b) := (instants a b _ _ ha hb).1.2 (by decide)
  have bc : Holds .lt (.text b) (.text c) := (instants b c _ _ hb hc).1.2 (by decide)
  refine ⟨?_, ?_, ⟨ab, bc, transitive _ _ _ (.instants ha hb hc) ab bc⟩, ha, hc, ?_⟩
  · have number : Float.isNaN 2.5 = false := by decide +kernel
    exact (pairs (.number (.int 2)) (.number (.float 2.5)) (.numbers trivial number)).2.2.2.2 nofun
  · exact (pairs _ _ .texts).2.2.2.2 (apart ha hb (by decide))
  · exact ((instants a c _ _ ha hc).2.2.2.2 (apart ha hc (by decide))).2

/-- An offset makes ten o'clock earlier than six, and a text that is no instant goes by what is
written. -/
theorem mixed_texts_are_not_transitive :
    Holds .lt (.text "2024-01-01T10:00:00+05:00") (.text "2024-01-01T06:00:00Z") ∧
    Holds .lt (.text "2024-01-01T06:00:00Z") (.text "2024-01-01T08") ∧
    ¬Holds .lt (.text "2024-01-01T10:00:00+05:00") (.text "2024-01-01T08") := by
  refine ⟨(holds_lt_iff rfl).2 ?_, (holds_lt_iff rfl).2 ?_, mt (holds_lt_iff rfl).1 ?_⟩ <;>
    decide +kernel

end Playbook.Expression
