import Playbook.Proofs.Decimal.Order

/-!
Whole numbers below `2 ^ 53` as floats. Each is a float exactly, so the float of its decimal digits
is whole and counts to the number itself.
-/
namespace Playbook.Decimal

open Float.Model (Format UnpackedFloat totalExponent)
open Float.Model.UnpackedFloat (Sign pack unpack packComponents unpackExponent unpackMantissa
  unpackSign unpackExponent_packComponents unpackMantissa_packComponents roundWithAccuracy
  shiftToTargetExponent shiftToExponent ExtendedMantissa Accuracy)

/-! ### Exact parts -/

/-- The exact parts of an unpacked float; a zero has the least exponent. -/
def partsOf : UnpackedFloat → Binary
  | .infinity s => .infinite (s == .negative)
  | .notANumber => .notANumber
  | .zero s => .finite (s == .negative) 0 (-1074)
  | .finite s m e _ => .finite (s == .negative) m e

section fields
variable {b : BitVec 64}

theorem toNat_unpackMantissa : (@unpackMantissa Format.binary64 b).toNat = b.toNat % 2 ^ 52 := by
  simp [unpackMantissa]

theorem toNat_unpackExponent :
    (@unpackExponent Format.binary64 b).toNat = b.toNat / 2 ^ 52 % 2 ^ 11 := by
  simp [unpackExponent, Nat.shiftRight_eq_div_pow]

theorem toNat_unpackSign : (@unpackSign Format.binary64 b).toNat = b.toNat / 2 ^ 63 := by
  have small : b.toNat < 2 ^ 64 := b.isLt
  have one : b.toNat / 2 ^ 63 % 2 = b.toNat / 2 ^ 63 := by omega
  simpa [unpackSign, Nat.shiftRight_eq_div_pow] using one

theorem ofBitVec_unpackSign :
    (Sign.ofBitVec (@unpackSign Format.binary64 b) == .negative) = (b.toNat / 2 ^ 63 == 1) := by
  have small : b.toNat < 2 ^ 64 := b.isLt
  rw [← toNat_unpackSign]
  generalize @unpackSign Format.binary64 b = s
  rcases BitVec.eq_zero_or_eq_one s with rfl | rfl <;> rfl

theorem unpackMantissa_eq_zero_iff :
    @unpackMantissa Format.binary64 b = 0#52 ↔ b.toNat % 2 ^ 52 = 0 := by
  rw [← toNat_unpackMantissa, ← BitVec.toNat_inj]
  rfl

theorem unpackExponent_eq_zero_iff :
    @unpackExponent Format.binary64 b = 0#11 ↔ b.toNat / 2 ^ 52 % 2 ^ 11 = 0 := by
  rw [← toNat_unpackExponent, ← BitVec.toNat_inj]
  rfl

theorem unpackExponent_eq_greatest_iff :
    @unpackExponent Format.binary64 b = -1#11 ↔ b.toNat / 2 ^ 52 % 2 ^ 11 + 1 = 2 ^ 11 := by
  rw [← toNat_unpackExponent, ← BitVec.toNat_inj]
  exact (Nat.add_left_inj (n := 1)).symm

theorem toNat_append_one (m : BitVec 52) : (1#1 ++ m).toNat = 2 ^ 52 + m.toNat := by
  rw [BitVec.toNat_append, ← Nat.shiftLeft_add_eq_or_of_lt m.isLt]
  rfl

end fields

theorem ofBits_double (bits : Nat) : Binary.ofBits .double bits =
    if bits / 2 ^ 52 % 2 ^ 11 + 1 = 2 ^ 11 then
      if bits % 2 ^ 52 = 0 then .infinite (bits / 2 ^ 63 == 1) else .notANumber
    else if bits / 2 ^ 52 % 2 ^ 11 = 0 then .finite (bits / 2 ^ 63 == 1) (bits % 2 ^ 52) (-1074)
    else .finite (bits / 2 ^ 63 == 1) (2 ^ 52 + bits % 2 ^ 52)
      ((bits / 2 ^ 52 % 2 ^ 11 : Nat) - 1 + -1074) := rfl

/-- The exact parts that are read off the bits are those of the unpacked float. -/
theorem ofFloat_eq (x : Float) : Binary.ofFloat x = partsOf x.toModel.unpack := by
  change Binary.ofBits .double x.toModel.toBits.toBitVec.toNat =
    partsOf (unpack Format.binary64 x.toModel.toBits.toBitVec)
  generalize x.toModel.toBits.toBitVec = b
  have exponent := @toNat_unpackExponent b
  have sign := @ofBitVec_unpackSign b
  rw [ofBits_double, unpack]
  dsimp only
  by_cases greatest : b.toNat / 2 ^ 52 % 2 ^ 11 + 1 = 2 ^ 11
  · rw [if_pos greatest, if_pos (unpackExponent_eq_greatest_iff.2 greatest)]
    by_cases whole : b.toNat % 2 ^ 52 = 0
    · rw [if_pos whole, if_pos (unpackMantissa_eq_zero_iff.2 whole), partsOf, sign]
    · rw [if_neg whole, if_neg (mt unpackMantissa_eq_zero_iff.1 whole), partsOf]
  rw [if_neg greatest, if_neg (mt unpackExponent_eq_greatest_iff.1 greatest)]
  by_cases least : b.toNat / 2 ^ 52 % 2 ^ 11 = 0
  · rw [if_pos least, if_pos (unpackExponent_eq_zero_iff.2 least)]
    by_cases whole : b.toNat % 2 ^ 52 = 0
    · rw [dif_pos (unpackMantissa_eq_zero_iff.2 whole), partsOf, sign, whole]
    · rw [dif_neg (mt unpackMantissa_eq_zero_iff.1 whole), partsOf, sign, toNat_unpackMantissa,
        exponent, least]
      rfl
  · have bias : ((b.toNat / 2 ^ 52 % 2 ^ 11 : Nat) : Int) - 1 + -1074 =
        (b.toNat / 2 ^ 52 % 2 ^ 11 : Nat) - (1023 + 52) := by omega
    rw [if_neg least, if_neg (mt unpackExponent_eq_zero_iff.1 least), partsOf, sign,
      toNat_append_one, toNat_unpackMantissa, exponent, bias]
    rfl

/-! ### Rounding that loses nothing -/

/-- A significand of all 53 bits with an exponent in range. -/
structure Normal (m : Nat) (e : Int) : Prop where
  lower : 2 ^ 52 ≤ m
  upper : m < 2 ^ 53
  least : -1074 ≤ e
  greatest : e ≤ 971

section
variable {m : Nat} {e : Int}

theorem Normal.pos (h : Normal m e) : 0 < m := Nat.lt_of_lt_of_le (by decide) h.lower

theorem Normal.log2 (h : Normal m e) (shift : Nat) : (m * 2 ^ shift).log2 = 52 + shift := by
  have lower := Nat.mul_le_mul_right (2 ^ shift) h.lower
  have upper := Nat.mul_lt_mul_of_pos_right h.upper (Nat.two_pow_pos shift)
  rw [← Nat.pow_add] at lower upper
  have pos := Nat.mul_pos h.pos (Nat.two_pow_pos shift)
  refine (Nat.log2_eq_iff pos.ne').2 ⟨lower, ?_⟩
  rwa [show 52 + shift + 1 = 53 + shift by omega]

/-- However many zeros its significand ends in, a float is to have its own exponent. -/
theorem Normal.targetExponent (h : Normal m e) (shift : Nat) :
    Format.binary64.targetExponent (totalExponent (m * 2 ^ shift) (e - shift)) = e := by
  have least := h.least
  simp only [Format.targetExponent, totalExponent, h.log2, Format.mantissaBits, Format.minExponent]
  omega

/-- Zeros are shifted out without a residue. -/
theorem shiftRight_exact (m shift : Nat) :
    ExtendedMantissa.ofMantissaAndAccuracy (m * 2 ^ shift) .exact >>> shift =
      ExtendedMantissa.ofMantissaAndAccuracy m .exact := by
  induction shift generalizing m with
  | zero => rw [Nat.pow_zero, Nat.mul_one]; rfl
  | succ shift ih =>
    have split : m * 2 ^ (shift + 1) = m * 2 * 2 ^ shift := by rw [Nat.pow_succ', Nat.mul_assoc]
    change ExtendedMantissa.shiftRightOne
      (ExtendedMantissa.ofMantissaAndAccuracy (m * 2 ^ (shift + 1)) .exact >>> shift) = _
    rw [split, ih]
    simp [ExtendedMantissa.shiftRightOne, ExtendedMantissa.ofMantissaAndAccuracy]

theorem Normal.shiftToTargetExponent (h : Normal m e) (shift : Nat) :
    shiftToTargetExponent Format.binary64 (m * 2 ^ shift) (e - shift) .exact =
      (ExtendedMantissa.ofMantissaAndAccuracy m .exact, e) := by
  have amount : (e - (e - shift)).toNat = shift := by omega
  simp only [UnpackedFloat.shiftToTargetExponent, shiftToExponent, h.targetExponent, amount,
    shiftRight_exact]
  rw [Int.sub_add_cancel]

theorem roundedMantissa_exact (m : Nat) :
    (ExtendedMantissa.ofMantissaAndAccuracy m .exact).roundedMantissa = m := rfl

theorem Normal.roundWithAccuracy (h : Normal m e) (s : Sign) (shift : Nat) :
    roundWithAccuracy Format.binary64 s (m * 2 ^ shift) (e - shift) .exact =
      .finite s m e h.pos := by
  -- the second shift finds nothing left to do
  have again := h.shiftToTargetExponent 0
  rw [Nat.pow_zero, Nat.mul_one, Int.natCast_zero, Int.sub_zero] at again
  simp only [UnpackedFloat.roundWithAccuracy, h.shiftToTargetExponent, roundedMantissa_exact, again]
  exact dif_neg h.pos.ne'

theorem unpackSign_packComponents (s : Sign) (e : BitVec 11) (m : BitVec 52) :
    unpackSign (packComponents Format.binary64 s e m) = s.toBitVec := by
  change (s.toBitVec ++ e ++ m).extractLsb' 63 1 = s.toBitVec
  rw [BitVec.extractLsb'_append_eq_of_le (by decide),
    BitVec.extractLsb'_append_eq_of_le (by decide)]
  cases s <;> rfl

/-- The bits of a normal float, apart from its leading one. -/
theorem Normal.pack (h : Normal m e) (s : Sign) :
    pack Format.binary64 (.finite s m e h.pos) =
      packComponents Format.binary64 s (BitVec.ofNat 11 (e + 1075).toNat) (BitVec.ofNat 52 m) := by
  have greatest := h.greatest
  have log := h.log2 0
  rw [Nat.pow_zero, Nat.mul_one] at log
  have biased : e + Format.binary64.exponentBias + (52 : Nat) = e + 1075 := by
    change e + 1023 + 52 = e + 1075
    omega
  have small : ¬2 ^ 11 ≤ (e + 1075).toNat + 1 := by omega
  rw [UnpackedFloat.pack]
  dsimp only
  rw [biased, if_neg small, log]
  exact if_pos rfl

theorem Normal.unpack_pack (h : Normal m e) (s : Sign) :
    unpack Format.binary64 (UnpackedFloat.pack Format.binary64 (.finite s m e h.pos)) =
      .finite s m e h.pos := by
  have least := h.least
  have greatest := h.greatest
  have lower := h.lower
  have upper := h.upper
  have exponent : (BitVec.ofNat 11 (e + 1075).toNat).toNat = (e + 1075).toNat := by
    rw [BitVec.toNat_ofNat, Nat.mod_eq_of_lt (by omega)]
  have top : BitVec.ofNat 11 (e + 1075).toNat ≠ -1#11 := fun top => by
    have : (e + 1075).toNat = 2047 := exponent.symm.trans (congrArg BitVec.toNat top)
    omega
  have bottom : BitVec.ofNat 11 (e + 1075).toNat ≠ 0#11 := fun bottom => by
    have : (e + 1075).toNat = 0 := exponent.symm.trans (congrArg BitVec.toNat bottom)
    omega
  have significand : (1#1 ++ BitVec.ofNat 52 m).toNat = m := by
    rw [toNat_append_one, BitVec.toNat_ofNat]
    omega
  have unbiased : ((e + 1075).toNat : Int) - (1023 + (52 : Nat)) = e := by omega
  rw [h.pack, unpack]
  simp only [unpackExponent_packComponents, unpackMantissa_packComponents,
    unpackSign_packComponents]
  rw [if_neg top, if_neg bottom]
  simp only [significand, exponent]
  congr 1
  · cases s <;> rfl

end

/-! ### Whole numbers -/

section
variable {n : Nat}

/-- The zeros that fill up a whole number to a significand. -/
def filling (n : Nat) : Nat := 52 - n.log2

theorem normal_filled (pos : 0 < n) (small : n < 2 ^ 53) :
    Normal (n * 2 ^ filling n) (-filling n) := by
  have log : n.log2 ≤ 52 := Nat.le_of_lt_succ ((Nat.log2_lt pos.ne').2 small)
  have lower := Nat.mul_le_mul_right (2 ^ filling n) (Nat.log2_self_le pos.ne')
  have upper := Nat.mul_lt_mul_of_pos_right (@Nat.lt_log2_self n) (Nat.two_pow_pos (filling n))
  have width : n.log2 + filling n = 52 := by rw [filling]; omega
  rw [← Nat.pow_add] at lower upper
  rw [width] at lower
  rw [Nat.add_right_comm, width] at upper
  exact ⟨lower, upper, by omega, by omega⟩

theorem round_whole (pos : 0 < n) (small : n < 2 ^ 53) :
    UnpackedFloat.round Format.binary64 .positive n 0 =
      .finite .positive (n * 2 ^ filling n) (-filling n) (normal_filled pos small).pos := by
  have log : n.log2 ≤ 52 := Nat.le_of_lt_succ ((Nat.log2_lt pos.ne').2 small)
  have target : Format.binary64.targetExponent (totalExponent n 0) = -filling n := by
    simp only [Format.targetExponent, totalExponent, Format.mantissaBits, Format.minExponent,
      filling]
    omega
  have amount : (0 - -(filling n : Int)).toNat = filling n := by omega
  have exact := (normal_filled pos small).roundWithAccuracy .positive 0
  rw [Nat.pow_zero, Nat.mul_one, Int.natCast_zero, Int.sub_zero] at exact
  simp only [UnpackedFloat.round, UnpackedFloat.decreaseExponent, target, amount, Nat.shiftLeft_eq]
  rw [Int.zero_sub, exact]

theorem ofNat_whole (pos : 0 < n) (small : n < 2 ^ 53) :
    UnpackedFloat.ofNat Format.binary64 n =
      .finite .positive (n * 2 ^ filling n) (-filling n) (normal_filled pos small).pos := by
  have above : compare (n : Int) 0 = .gt := compare_gt_iff_gt.2 (by omega)
  simp only [UnpackedFloat.ofNat, UnpackedFloat.ofInt, UnpackedFloat.normalize, above,
    Int.toNat_natCast, round_whole pos small]

theorem nearest_whole (pos : 0 < n) (small : n < 2 ^ 53) :
    nearest n 0 = Float.ofScientific n false 0 := by
  have width : (Nat.toDigits 10 n).length ≤ 16 :=
    (Nat.length_toDigits_le_iff (by decide) (by decide)).2 (small.trans (by decide))
  unfold nearest
  rw [if_neg pos.ne']
  dsimp only
  rw [if_neg (by omega), if_neg (by omega)]

theorem unpack_nearest (pos : 0 < n) (small : n < 2 ^ 53) : (nearest n 0).toModel.unpack =
      .finite .positive (n * 2 ^ filling n) (-filling n) (normal_filled pos small).pos := by
  have converted : n.toUInt64.toFloat.toModel.unpack =
      .finite .positive (n * 2 ^ filling n) (-filling n) (normal_filled pos small).pos := by
    have same : n.toUInt64.toNat = n := Nat.mod_eq_of_lt (small.trans (by decide))
    change unpack Format.binary64 (pack Format.binary64
      (UnpackedFloat.ofNat Format.binary64 n.toUInt64.toNat)) = _
    rw [same, ofNat_whole pos small, (normal_filled pos small).unpack_pack]
  rw [nearest_whole pos small, Float.ofScientific, dif_pos ⟨small, by decide⟩]
  change unpack Format.binary64 (pack Format.binary64 (UnpackedFloat.mul Format.binary64
    n.toUInt64.toFloat.toModel.unpack
    Float.exactlyRepresentablePowersOfTen[0].toModel.unpack)) = _
  rw [converted, unpack_powerOfTen_zero]
  change unpack Format.binary64 (pack Format.binary64 (roundWithAccuracy Format.binary64 .positive
    (n * 2 ^ filling n * 2 ^ 52) (-filling n - (52 : Nat)) .exact)) = _
  rw [(normal_filled pos small).roundWithAccuracy, (normal_filled pos small).unpack_pack]

/-- A whole number has exactly the parts that it should have. -/
theorem ofFloat_nearest (pos : 0 < n) (small : n < 2 ^ 53) :
    Binary.ofFloat (nearest n 0) = .finite false (n * 2 ^ filling n) (-filling n) := by
  rw [ofFloat_eq, unpack_nearest pos small]
  rfl

theorem cutMagnitude_filled (n k : Nat) : cutMagnitude (n * 2 ^ k) (-k) = (n, true) := by
  cases k with
  | zero =>
    change (n * 2 ^ 0 * 2 ^ 0, true) = (n, true)
    rw [Nat.pow_zero, Nat.mul_one, Nat.mul_one]
  | succ k =>
    change (n * 2 ^ (k + 1) / 2 ^ (k + 1), decide (n * 2 ^ (k + 1) % 2 ^ (k + 1) = 0)) = (n, true)
    rw [Nat.mul_div_left _ (Nat.two_pow_pos _), Nat.mul_mod_left, decide_eq_true rfl]

theorem exists_ofFloat_nearest (small : n < 2 ^ 53) : ∃ m e,
    Binary.ofFloat (nearest n 0) = .finite false m e ∧ cutMagnitude m e = (n, true) := by
  rcases Nat.eq_zero_or_pos n with rfl | pos
  · have cut (k : Nat) : cutMagnitude 0 (-k) = (0, true) := by
      simpa using cutMagnitude_filled 0 k
    refine ⟨0, -1074, ?_, cut 1074⟩
    rw [ofFloat_eq]
    rfl
  · exact ⟨_, _, ofFloat_nearest pos small, cutMagnitude_filled ..⟩

theorem isWhole_nearest (small : n < 2 ^ 53) : isWhole (nearest n 0) = true := by
  obtain ⟨m, e, parts, cut⟩ := exists_ofFloat_nearest small
  rw [isWhole, parts]
  exact congrArg Prod.snd cut

theorem toCount_nearest (small : n < 2 ^ 53) : toCount (nearest n 0) = n := by
  obtain ⟨m, e, parts, cut⟩ := exists_ofFloat_nearest small
  have bound : (n : Int) ≤ Nat.pow 2 64 - 1 := by
    change (n : Int) ≤ 18446744073709551616 - 1
    omega
  rw [toCount, parts]
  dsimp only
  rw [cut, clamp, signed, if_neg (by decide), min_eq_right bound, max_eq_right (by omega)]
  rfl

theorem zero_le_nearest (small : n < 2 ^ 53) : 0.0 ≤ nearest n 0 := by
  refine decide_eq_true (p := (0.0 : Float).toModel ≤ (nearest n 0).toModel) ?_
  change (0.0 : Float).toModel.unpack.le (nearest n 0).toModel.unpack = true
  have zero : (0.0 : Float).toModel.unpack = .zero .positive := rfl
  rcases Nat.eq_zero_or_pos n with rfl | pos
  · rfl
  · rw [zero, unpack_nearest pos small]
    rfl

end

end Playbook.Decimal
