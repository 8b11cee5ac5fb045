import Playbook.Proofs.Decimal.Exact

/-!
Whole numbers that floats stand for. A finite float with no fraction is the float of the whole number
that its exact parts give, however large that number is.
-/
namespace Playbook.Decimal

open Float.Model (Format UnpackedFloat)
open Float.Model.UnpackedFloat (Sign pack unpack roundWithAccuracy)

/-! ### The parts of a finite float -/

/-- A significand of fewer than 53 bits with the least exponent, or one of all 53 bits. -/
theorem parts_of_unpack {b : BitVec 64} {s : Sign} {m : Nat} {e : Int} {pos : 0 < m}
    (h : unpack Format.binary64 b = .finite s m e pos) :
    m < 2 ^ 52 ∧ e = -1074 ∨ Normal m e := by
  have width : b.toNat / 2 ^ 52 % 2 ^ 11 < 2 ^ 11 := Nat.mod_lt _ (by decide)
  have fraction : b.toNat % 2 ^ 52 < 2 ^ 52 := Nat.mod_lt _ (by decide)
  have exponent := @toNat_unpackExponent b
  rw [unpack] at h
  dsimp only at h
  split at h
  · split at h <;> cases h
  · rename_i notGreatest
    rw [unpackExponent_eq_greatest_iff] at notGreatest
    split at h
    · rename_i least
      rw [unpackExponent_eq_zero_iff] at least
      split at h
      · cases h
      · cases h
        rw [toNat_unpackMantissa, exponent, least]
        exact .inl ⟨fraction, rfl⟩
    · rename_i notLeast
      rw [unpackExponent_eq_zero_iff] at notLeast
      cases h
      rw [toNat_append_one, toNat_unpackMantissa, exponent]
      have bias : ((Format.binary64.exponentBias : Nat) : Int) +
          (Format.binary64.mantissaBitsWithoutImplicit : Nat) = 1075 := rfl
      rw [bias]
      exact .inr ⟨by omega, by omega, by omega, by omega⟩

/-! ### From whole numbers to floats -/

section
variable {m n k : Nat} {e : Int}

theorem log2_shifted (pos : 0 < n) (k : Nat) : (n * 2 ^ k).log2 = n.log2 + k := by
  induction k with
  | zero => simp
  | succ k ih =>
    have nonzero : n * 2 ^ k ≠ 0 := (Nat.mul_pos pos (Nat.two_pow_pos k)).ne'
    rw [Nat.pow_succ', Nat.mul_left_comm, Nat.log2_two_mul nonzero, ih, Nat.add_assoc]

/-- A whole number with a significand of 53 bits and zeros behind it has these parts. -/
theorem unpack_ofNat_shifted (h : Normal m k) :
    (Float.ofNat (m * 2 ^ k)).toModel.unpack = .finite .positive m k h.pos := by
  have lower := h.lower
  have greatest := h.greatest
  have pos : m * 2 ^ k ≠ 0 := (Nat.mul_pos h.pos (Nat.two_pow_pos k)).ne'
  rcases Nat.eq_zero_or_pos k with rfl | shifted
  · have width : m.log2 = 52 := by simpa using h.log2 0
    have unfilled : filling m = 0 := by rw [filling, width]
    have whole := unpack_nearest h.pos h.upper
    rw [nearest_whole h.pos h.upper] at whole
    simp only [unfilled, Nat.pow_zero, Nat.mul_one] at whole ⊢
    exact whole
  · have large : ¬(m * 2 ^ k < 2 ^ 53 ∧ 0 ≤ 22) := by
      have double := Nat.pow_le_pow_right (n := 2) (by decide) shifted
      have := Nat.mul_le_mul lower double
      omega
    change (Float.ofScientific (m * 2 ^ k) false 0).toModel.unpack = _
    rw [Float.ofScientific, dif_neg large]
    change unpack Format.binary64 (pack Format.binary64
      (UnpackedFloat.ofScientific Format.binary64 (m * 2 ^ k) 0)) = _
    have product : UnpackedFloat.ofScientific Format.binary64 (m * 2 ^ k) 0 =
        roundWithAccuracy Format.binary64 .positive (m * 2 ^ (k + 53)) ((k : Int) - (k + 53 : Nat))
          .exact := by
      have least : ¬(0 : Int) < -(2 ^ Format.binary64.exponentBits + ((m * 2 ^ k).log2 : Nat)) :=
        not_lt.2 (Int.neg_nonpos_of_nonneg (by positivity))
      rw [UnpackedFloat.ofScientific, dif_neg pos, if_neg (by decide), if_neg least,
        if_pos le_rfl, Nat.pow_add, ← Nat.mul_assoc]
      change roundWithAccuracy Format.binary64 .positive ((m * 2 ^ k) <<< 53 * 1) (-53 + 0) .exact = _
      rw [Nat.shiftLeft_eq, Nat.mul_one]
      congr 1
      push_cast
      omega
    rw [product, h.roundWithAccuracy, h.unpack_pack]

/-- So has one whose significand ends in the zeros that a fraction would take. -/
theorem unpack_ofNat_filled (h : Normal (n * 2 ^ k) (-k)) :
    (Float.ofNat n).toModel.unpack = .finite .positive (n * 2 ^ k) (-k) h.pos := by
  have pos : 0 < n := Nat.pos_of_ne_zero fun zero => by simpa [zero] using h.pos
  have width : n.log2 + k = 52 := by
    rw [← log2_shifted pos]
    simpa using h.log2 0
  have small : n < 2 ^ 53 := by
    refine lt_of_le_of_lt ?_ h.upper
    exact Nat.le_mul_of_pos_right n (Nat.two_pow_pos k)
  have unfilled : filling n = k := by rw [filling]; omega
  have whole := unpack_nearest pos small
  rw [nearest_whole pos small] at whole
  simp only [unfilled] at whole
  exact whole

/-- A magnitude without a fraction ends in the zeros that a fraction would take. -/
theorem dvd_of_whole (whole : (cutMagnitude m (Int.negSucc k)).2 = true) : 2 ^ (k + 1) ∣ m :=
  Nat.dvd_of_mod_eq_zero (of_decide_eq_true whole)

theorem large_of_whole (pos : 0 < m) (deep : 52 ≤ k + 1)
    (whole : (cutMagnitude m (Int.negSucc k)).2 = true) : 2 ^ 52 ≤ m :=
  (Nat.pow_le_pow_right (by decide) deep).trans (Nat.le_of_dvd pos (dvd_of_whole whole))

/-- The whole number that the parts of a float give, if they leave no fraction. -/
theorem unpack_ofNat_cut (h : Normal m e) (whole : (cutMagnitude m e).2 = true) :
    (Float.ofNat (cutMagnitude m e).1).toModel.unpack = .finite .positive m e h.pos := by
  cases e with
  | ofNat k => exact unpack_ofNat_shifted h
  | negSucc k =>
    obtain ⟨n, rfl⟩ := dvd_of_whole whole
    have cut : (cutMagnitude (2 ^ (k + 1) * n) (Int.negSucc k)).1 = n :=
      Nat.mul_div_cancel_left n (Nat.two_pow_pos (k + 1))
    rw [cut]
    have shape : Normal (n * 2 ^ (k + 1)) (-(k + 1 : Nat)) := by rwa [Nat.mul_comm] at h
    have filled := unpack_ofNat_filled shape
    rw [filled]
    congr 1
    exact Nat.mul_comm ..

theorem cut_zero (e : Int) : (cutMagnitude 0 e).1 = 0 := by
  cases e with
  | ofNat k => exact Nat.zero_mul _
  | negSucc k => exact Nat.zero_div _

theorem cut_pos (pos : 0 < m) (whole : (cutMagnitude m e).2 = true) : 0 < (cutMagnitude m e).1 := by
  cases e with
  | ofNat k => exact Nat.mul_pos pos (Nat.two_pow_pos k)
  | negSucc k => exact Nat.div_pos (Nat.le_of_dvd pos (dvd_of_whole whole)) (Nat.two_pow_pos _)

/-- The float of the whole number with a sign that such parts give. -/
theorem unpack_ofInt_signed (h : Normal m e) (whole : (cutMagnitude m e).2 = true) (s : Sign) :
    (Float.ofInt (signed (s == .negative) (cutMagnitude m e).1)).toModel.unpack =
      .finite s m e h.pos := by
  have magnitude := unpack_ofNat_cut h whole
  cases s with
  | positive => exact magnitude
  | negative =>
    obtain ⟨c, cut⟩ := Nat.exists_eq_succ_of_ne_zero (cut_pos h.pos whole).ne'
    rw [cut] at magnitude ⊢
    change unpack Format.binary64 (pack Format.binary64 (Float.ofNat (c + 1)).toModel.unpack.neg) = _
    rw [magnitude]
    exact h.unpack_pack .negative

end

/-- The float of a whole number that a float stands for is that float, up to the sign of a zero. -/
theorem ofInt_beq {x : Float} {n : Int} (whole : isWhole x = true) (cut : truncate? x = some n) :
    (Float.ofInt n == x) = true := by
  change (Float.ofInt n).toModel.unpack.beq x.toModel.unpack = true
  rw [isWhole, ofFloat_eq] at whole
  rw [truncate?, ofFloat_eq] at cut
  cases parts : x.toModel.unpack with
  | notANumber => simp [parts, partsOf] at whole
  | infinity s => simp [parts, partsOf] at whole
  | zero s =>
    rw [parts, partsOf] at cut
    obtain rfl : n = 0 := by
      simp only [cut_zero, Option.some.injEq] at cut
      rw [← cut, signed]
      split <;> rfl
    cases s <;> rfl
  | finite s m e pos =>
    simp only [parts, partsOf] at whole cut
    obtain rfl := Option.some.inj cut
    rcases parts_of_unpack parts with ⟨small, least⟩ | normal
    · rw [least] at whole
      exact absurd small (not_lt.2 (large_of_whole pos (by decide) whole))
    · rw [unpack_ofInt_signed normal whole s]
      cases s <;> simp [UnpackedFloat.beq, UnpackedFloat.compare]

end Playbook.Decimal
