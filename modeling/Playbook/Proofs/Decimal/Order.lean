import Mathlib
import Playbook.Decimal.Binary

/-!
The order of floats. Apart from the value that is no number, floats are ordered linearly, with the
two zeros at one place; so comparing them is comparing their places. No whole number turns into the
value that is no number.
-/
namespace Playbook.Decimal

open Float.Model (Format UnpackedFloat)
open Float.Model.UnpackedFloat (Sign pack unpack packComponents unpackExponent_packComponents
  unpackMantissa_packComponents roundWithAccuracy)

/-- The place of a float in the order: its side of zero, then exponent and significand, which both
grow away from zero. -/
def placeOf : UnpackedFloat → ℤ ×ₗ ℤ ×ₗ ℤ
  | .infinity .negative => toLex (-2, toLex (0, 0))
  | .finite .negative m e _ => toLex (-1, toLex (-e, -m))
  | .zero _ | .notANumber => toLex (0, toLex (0, 0))
  | .finite .positive m e _ => toLex (1, toLex (e, m))
  | .infinity .positive => toLex (2, toLex (0, 0))

section
variable {a b : UnpackedFloat}

theorem lt_iff_placeOf (ha : a.isNaN = false) (hb : b.isNaN = false) :
    a.lt b = true ↔ placeOf a < placeOf b := by
  rw [UnpackedFloat.lt, beq_iff_eq]
  rcases a with (_ | _) | _ | _ | ⟨_ | _, m, e, _⟩ <;>
  rcases b with (_ | _) | _ | _ | ⟨_ | _, m', e', _⟩ <;>
  simp_all [UnpackedFloat.isNaN, UnpackedFloat.compare, placeOf, Prod.Lex.toLex_lt_toLex]
  case infinity.negative.infinity.positive => rfl
  case finite.negative.finite.negative =>
    rw [Ordering.then_eq_gt, compare_gt_iff_gt, compare_gt_iff_gt, compare_eq_iff_eq]
  case finite.positive.finite.positive =>
    rw [Ordering.then_eq_lt, compare_lt_iff_lt, compare_lt_iff_lt, compare_eq_iff_eq]

theorem beq_iff_placeOf (ha : a.isNaN = false) (hb : b.isNaN = false) :
    a.beq b = true ↔ placeOf a = placeOf b := by
  rw [UnpackedFloat.beq, beq_iff_eq]
  rcases a with (_ | _) | _ | _ | ⟨_ | _, m, e, _⟩ <;>
  rcases b with (_ | _) | _ | _ | ⟨_ | _, m', e', _⟩ <;>
  simp_all [UnpackedFloat.isNaN, UnpackedFloat.compare, placeOf, Ordering.then_eq_eq]
  case infinity.negative.infinity.negative => rfl
  case infinity.positive.infinity.positive => rfl

end

/-- The place of a float in the order. -/
def place (x : Float) : ℤ ×ₗ ℤ ×ₗ ℤ := placeOf x.toModel.unpack

section
variable {x y : Float}

theorem lt_iff_place (hx : x.isNaN = false) (hy : y.isNaN = false) : x < y ↔ place x < place y :=
  Iff.trans decide_eq_true_iff (lt_iff_placeOf hx hy)

theorem beq_iff_place (hx : x.isNaN = false) (hy : y.isNaN = false) :
    (x == y) = true ↔ place x = place y :=
  beq_iff_placeOf hx hy

end

/-- The place of a float of single precision in the order. -/
def placeSingle (x : Float32) : ℤ ×ₗ ℤ ×ₗ ℤ := placeOf x.toModel.unpack

section
variable {x y : Float32}

theorem lt_iff_placeSingle (hx : x.isNaN = false) (hy : y.isNaN = false) :
    x < y ↔ placeSingle x < placeSingle y :=
  Iff.trans decide_eq_true_iff (lt_iff_placeOf hx hy)

theorem beq_iff_placeSingle (hx : x.isNaN = false) (hy : y.isNaN = false) :
    (x == y) = true ↔ placeSingle x = placeSingle y :=
  beq_iff_placeOf hx hy

end

/-- The value that is no number equals nothing. -/
theorem isNaN_of_beq {a b : UnpackedFloat} (h : a.beq b = true) :
    a.isNaN = false ∧ b.isNaN = false := by
  rw [UnpackedFloat.beq, beq_iff_eq] at h
  cases a <;> cases b <;> simp_all [UnpackedFloat.isNaN, UnpackedFloat.compare]

/-- The value that is no number reaches nothing. -/
theorem isNaN_of_le {a b : UnpackedFloat} (h : a.le b = true) : b.isNaN = false := by
  rw [UnpackedFloat.le] at h
  cases a <;> cases b <;> simp_all [UnpackedFloat.isNaN, UnpackedFloat.compare]

/-- What equals an equal float is equal. -/
theorem beq_trans {x y z : Float} (hxy : (x == y) = true) (hyz : (y == z) = true) :
    (x == z) = true := by
  obtain ⟨hx, hy⟩ := isNaN_of_beq hxy
  obtain ⟨-, hz⟩ := isNaN_of_beq hyz
  have first := (beq_iff_place hx hy).1 hxy
  have second := (beq_iff_place hy hz).1 hyz
  exact (beq_iff_place hx hz).2 (first.trans second)

/-- Bits are no number only with the greatest exponent and a fraction. -/
theorem isNaN_unpack_packComponents {f : Format} {s : Sign} {e : BitVec f.exponentBits}
    {m : BitVec f.mantissaBitsWithoutImplicit} (h : e = -1#_ → m = 0#_) :
    (unpack f (packComponents f s e m)).isNaN = false := by
  simp only [unpack, unpackExponent_packComponents, unpackMantissa_packComponents]
  split
  · rw [if_pos (h ‹_›)]
    rfl
  · split <;> (try split) <;> rfl

theorem isNaN_unpack_pack {f : Format} {u : UnpackedFloat} (h : u.isNaN = false) :
    (unpack f (pack f u)).isNaN = false := by
  fun_cases pack with
  | case1 => cases h
  | case2 s => exact isNaN_unpack_packComponents fun _ => rfl
  | case3 s => exact isNaN_unpack_packComponents fun _ => rfl
  | case4 s m e => exact isNaN_unpack_packComponents fun _ => rfl
  | case5 s m e _ _ biased small =>
    refine isNaN_unpack_packComponents fun greatest => absurd (congrArg BitVec.toNat greatest) ?_
    rw [BitVec.neg_one_eq_allOnes, BitVec.toNat_allOnes, BitVec.toNat_ofNat,
      Nat.mod_eq_of_lt (by omega)]
    omega
  | case6 s m e =>
    refine isNaN_unpack_packComponents fun greatest => absurd (congrArg BitVec.toNat greatest) ?_
    have := Nat.one_lt_two_pow f.he.ne'
    rw [BitVec.neg_one_eq_allOnes, BitVec.toNat_allOnes, BitVec.toNat_zero]
    omega

theorem isNaN_roundWithAccuracy (f : Format) (s : Sign) (m : Nat) (e : Int)
    (accuracy : UnpackedFloat.Accuracy) : (roundWithAccuracy f s m e accuracy).isNaN = false := by
  simp only [roundWithAccuracy]
  split <;> rfl

theorem isNaN_ofScientific (f : Format) (m : Nat) (e : Int) (whole : 0 ≤ e) :
    (UnpackedFloat.ofScientific f m e).isNaN = false := by
  rw [UnpackedFloat.ofScientific]
  split_ifs
  · rfl
  · rfl
  · rfl
  · exact isNaN_roundWithAccuracy ..

theorem isNaN_mul {f : Format} {u : UnpackedFloat} (h : u.isNaN = false) (s m e pos) :
    (u.mul f (.finite s m e pos)).isNaN = false := by
  cases u with
  | notANumber => cases h
  | infinity s => rfl
  | zero s => rfl
  | finite s m e pos => exact isNaN_roundWithAccuracy ..

theorem isNaN_ofInt (f : Format) (n : Int) : (UnpackedFloat.ofInt f n).isNaN = false := by
  rw [UnpackedFloat.ofInt, UnpackedFloat.normalize]
  split
  · exact isNaN_roundWithAccuracy ..
  · rfl
  · exact isNaN_roundWithAccuracy ..

theorem isNaN_neg {u : UnpackedFloat} (h : u.isNaN = false) : u.neg.isNaN = false := by
  cases u with
  | notANumber => cases h
  | infinity s => rfl
  | zero s => rfl
  | finite s m e pos => rfl

/-- The least power of ten is one. -/
theorem unpack_powerOfTen_zero : Float.exactlyRepresentablePowersOfTen[0].toModel.unpack =
    .finite .positive (2 ^ 52) (-52) (by decide) := rfl

theorem isNaN_ofNat (n : Nat) : (Float.ofNat n).isNaN = false := by
  change (Float.ofScientific n false 0).isNaN = false
  rw [Float.ofScientific]
  split
  · refine isNaN_unpack_pack ?_
    rw [unpack_powerOfTen_zero]
    exact isNaN_mul (isNaN_unpack_pack (isNaN_ofInt ..)) ..
  · exact isNaN_unpack_pack (isNaN_ofScientific _ _ _ (by decide))

/-- The float of an integer is a number, if need be an infinity. -/
theorem isNaN_floatOfInt (n : Int) : (Float.ofInt n).isNaN = false := by
  cases n with
  | ofNat n => exact isNaN_ofNat n
  | negSucc n => exact isNaN_unpack_pack (isNaN_neg (isNaN_ofNat (n + 1)))

end Playbook.Decimal
