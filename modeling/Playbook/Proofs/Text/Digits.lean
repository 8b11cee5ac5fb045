import Mathlib.Data.String.Basic
import Playbook.Text.Blank

/-!
Digits at the front of a text: how far they go, and that they are no blanks. A text has no more
characters than bytes.
-/
namespace Playbook.Text

variable {c : Char} {rest more : List Char}

theorem toNat_of_isBlank (h : isBlank c = true) : c.toNat ≤ 32 ∨ 133 ≤ c.toNat := by
  simp only [isBlank, Bool.or_eq_true, Bool.and_eq_true, decide_eq_true_eq, beq_iff_eq] at h
  omega

theorem toNat_of_isDigit (h : c.isDigit = true) : 48 ≤ c.toNat ∧ c.toNat ≤ 57 := by
  simpa [Char.isDigit, UInt32.le_iff_toNat_le] using h

theorem isBlank_of_isDigit (h : c.isDigit = true) : isBlank c = false := by
  refine Bool.eq_false_iff.2 fun blank => ?_
  have bounds := toNat_of_isBlank blank
  have code := toNat_of_isDigit h
  omega

theorem isDigit_toDigits (n : Nat) : ∀ d ∈ Nat.toDigits 10 n, d.isDigit = true :=
  fun _ => Nat.isDigit_of_mem_toDigits (by decide) (by decide)

/-- Digits that are summed up from the left are a number of base ten. -/
theorem foldl_digits (digits : List Char) :
    digits.foldl (fun n c => n * 10 + (c.toNat - '0'.toNat)) 0 = Nat.ofDigitChars 10 digits 0 := by
  simp only [Nat.ofDigitChars_eq_foldl, Nat.mul_comm]

/-- A stretch is all of a list up to what does not belong to it. -/
theorem takeWhile_append_of_all {p : Char → Bool} (all : ∀ d ∈ rest, p d = true)
    (stop : ∀ d ∈ more.head?, p d = false) :
    (rest ++ more).takeWhile p = rest ∧ (rest ++ more).dropWhile p = more := by
  induction rest with
  | nil =>
    cases more with
    | nil => exact ⟨rfl, rfl⟩
    | cons d more => simp [stop d rfl]
  | cons d rest ih =>
    obtain ⟨belongs, all⟩ := List.forall_mem_cons.1 all
    simp [belongs, ih all]

/-- A character takes a byte at least. -/
theorem length_le_utf8ByteSize (s : String) : s.length ≤ s.utf8ByteSize := by
  rw [← String.length_toList, ← String.utf8Len_toList]
  induction s.toList with
  | nil => exact Nat.le_refl 0
  | cons c cs ih => exact Nat.add_le_add ih c.utf8Size_pos

end Playbook.Text
