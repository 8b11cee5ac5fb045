import Mathlib.Data.List.TakeWhile
import Mathlib.Order.Basic
import Mathlib.Tactic.Common
import Mathlib.Tactic.IntervalCases
import Playbook.Json.Printer
import Playbook.Json.Reader
import Playbook.Proofs.Text.Digits

/-!
Numbers that are read back. A numeral is read up to a comma or a closing bracket, whatever follows;
an integer that fits 64 bits is read from its digits, and a float where its shortest digits are
close enough.
-/
namespace Playbook.Json

open Numeral (Power Parts gatherWhole limit digitOf)

/-- What may follow a value inside another one: nothing, a comma or a closing bracket. -/
def Ends (rest : List Char) : Prop := ∀ c ∈ rest.head?, c = ',' ∨ c = ']' ∨ c = '\x7d'

/-- A number that its text is read as. -/
def Number.Legible (n : Number) : Prop := readNumber? n.print.toList = some (n, [])

/-! ### The parts of a numeral -/

def sign (cs : List Char) : Bool × List Char :=
  match cs with
  | '-' :: rest => (true, rest)
  | _ => (false, cs)

def fraction? (cs : List Char) : Option (Option (List Char) × List Char) :=
  match cs with
  | '.' :: rest => (digits? rest).map fun (ds, rest) => (some ds, rest)
  | _ => some (none, cs)

def powerSign (cs : List Char) : Bool × List Char :=
  match cs with
  | '-' :: rest => (true, rest)
  | '+' :: rest => (false, rest)
  | _ => (false, cs)

def power? (cs : List Char) : Option (Option Power × List Char) :=
  match cs with
  | c :: rest =>
    if c = 'e' ∨ c = 'E' then
      (digits? (powerSign rest).2).map fun (ds, r) => (some ⟨(powerSign rest).1, ds⟩, r)
    else some (none, cs)
  | [] => some (none, cs)

theorem fraction?_of_no_point {cs : List Char} (other : ∀ rest, cs = '.' :: rest → False) :
    fraction? cs = some (none, cs) := by
  unfold fraction?
  split
  · exact (other _ rfl).elim
  · rfl

theorem bind_power? {β : Type} (k : Option Power × List Char → Option β) (cs : List Char) :
    (match cs with
      | c :: rest =>
        if c = 'e' ∨ c = 'E' then
          ((digits? (powerSign rest).2).map fun (ds, r) => (some ⟨(powerSign rest).1, ds⟩, r)).bind k
        else (some (none, cs)).bind k
      | [] => (some (none, cs)).bind k) = (power? cs).bind k := by
  unfold power?
  split
  · split <;> rfl
  · rfl

theorem readNumber?_eq (cs : List Char) :
    readNumber? cs =
      (digits? (sign cs).2).bind fun (whole, cs') =>
        if whole.length > 1 ∧ whole.head? = some '0' then none
        else (fraction? cs').bind fun (fraction, cs') =>
          (power? cs').bind fun (power, cs') =>
            (Parts.number? ⟨(sign cs).1, whole, fraction, power⟩).bind fun n => some (n, cs') := by
  unfold readNumber?
  change (digits? (sign cs).2).bind _ = _
  cases digits? (sign cs).2 with
  | none => rfl
  | some parts =>
    obtain ⟨whole, cs'⟩ := parts
    simp only [Option.bind_some]
    split
    · rfl
    · split
      · exact congrArg (Option.bind _) (funext fun _ => bind_power? _ _)
      · rename_i other
        rw [fraction?_of_no_point other]
        exact bind_power? _ _

/-! ### Numerals followed by something -/

section
variable {cs rest r ds : List Char} {n : Number}

theorem digits?_eq_some :
    digits? cs = some (ds, r) ↔
      ds ≠ [] ∧ cs.takeWhile Char.isDigit = ds ∧ cs.dropWhile Char.isDigit = r := by
  unfold digits?
  split
  · rename_i empty
    exact ⟨nofun, fun ⟨nonempty, taken, _⟩ => absurd (taken.symm.trans empty) nonempty⟩
  · rename_i nonempty
    constructor
    · intro h
      cases h
      exact ⟨nonempty, rfl, rfl⟩
    · rintro ⟨-, rfl, rfl⟩
      rfl

theorem takeWhile_isDigit_append (cs : List Char) (ends : Ends rest) :
    (cs ++ rest).takeWhile Char.isDigit = cs.takeWhile Char.isDigit ∧
      (cs ++ rest).dropWhile Char.isDigit = cs.dropWhile Char.isDigit ++ rest := by
  induction cs with
  | nil =>
    cases rest with
    | nil => simp
    | cons c rest =>
      have stop : c.isDigit = false := by
        rcases ends c rfl with rfl | rfl | rfl <;> rfl
      simp [stop]
  | cons c cs ih =>
    by_cases digit : c.isDigit = true <;> simp [digit, ih]

theorem digits?_append (ends : Ends rest) (h : digits? cs = some (ds, r)) :
    digits? (cs ++ rest) = some (ds, r ++ rest) := by
  obtain ⟨nonempty, rfl, rfl⟩ := digits?_eq_some.1 h
  obtain ⟨taken, dropped⟩ := takeWhile_isDigit_append cs ends
  exact digits?_eq_some.2 ⟨nonempty, taken, dropped⟩

theorem fraction?_append (ends : Ends rest) {fraction : Option (List Char)}
    (h : fraction? cs = some (fraction, r)) : fraction? (cs ++ rest) = some (fraction, r ++ rest) := by
  by_cases point : ∃ inner, cs = '.' :: inner
  · obtain ⟨inner, rfl⟩ := point
    obtain ⟨⟨ds, r'⟩, read, same⟩ := Option.map_eq_some_iff.1 h
    cases same
    exact Option.map_eq_some_iff.2 ⟨_, digits?_append ends read, rfl⟩
  · rw [not_exists] at point
    rw [fraction?_of_no_point point] at h
    cases h
    refine fraction?_of_no_point fun inner same => ?_
    cases cs with
    | nil => rcases ends '.' (by rw [← List.nil_append rest, same]; rfl) with h | h | h <;> cases h
    | cons c cs =>
      cases same
      exact point _ rfl

theorem sign_append (nonempty : cs ≠ []) : sign (cs ++ rest) = ((sign cs).1, (sign cs).2 ++ rest) := by
  cases cs with
  | nil => exact absurd rfl nonempty
  | cons c cs =>
    by_cases minus : c = '-'
    · subst minus
      rfl
    · simp [sign, minus]

theorem powerSign_append (nonempty : cs ≠ []) :
    powerSign (cs ++ rest) = ((powerSign cs).1, (powerSign cs).2 ++ rest) := by
  cases cs with
  | nil => exact absurd rfl nonempty
  | cons c cs =>
    by_cases minus : c = '-'
    · subst minus
      rfl
    · by_cases plus : c = '+'
      · subst plus
        rfl
      · simp [powerSign, minus, plus]

theorem power?_append (ends : Ends rest) {power : Option Power} (h : power? cs = some (power, r)) :
    power? (cs ++ rest) = some (power, r ++ rest) := by
  cases cs with
  | nil =>
    cases h
    cases rest with
    | nil => rfl
    | cons c rest =>
      have other : ¬(c = 'e' ∨ c = 'E') := by
        rcases ends c rfl with rfl | rfl | rfl <;> decide
      exact if_neg other
  | cons c cs =>
    by_cases exponent : c = 'e' ∨ c = 'E'
    · rw [power?, if_pos exponent] at h
      obtain ⟨⟨ds, r'⟩, read, same⟩ := Option.map_eq_some_iff.1 h
      cases same
      have nonempty : cs ≠ [] := by
        rintro rfl
        cases read
      rw [List.cons_append, power?, if_pos exponent, powerSign_append nonempty]
      exact Option.map_eq_some_iff.2 ⟨_, digits?_append ends read, rfl⟩
    · rw [power?, if_neg exponent] at h
      cases h
      exact if_neg exponent

/-- What follows a numeral does not change what it is read as. -/
theorem readNumber?_append (ends : Ends rest) (h : readNumber? cs = some (n, r)) :
    readNumber? (cs ++ rest) = some (n, r ++ rest) := by
  rw [readNumber?_eq, Option.bind_eq_some_iff] at h
  obtain ⟨⟨whole, afterWhole⟩, read, h⟩ := h
  rw [Option.ite_none_left_eq_some] at h
  obtain ⟨unpadded, h⟩ := h
  obtain ⟨⟨fraction, afterFraction⟩, readFraction, h⟩ := Option.bind_eq_some_iff.1 h
  obtain ⟨⟨power, afterPower⟩, readPower, h⟩ := Option.bind_eq_some_iff.1 h
  obtain ⟨n, number, same⟩ := Option.bind_eq_some_iff.1 h
  cases same
  have nonempty : cs ≠ [] := by
    rintro rfl
    cases read
  rw [readNumber?_eq, sign_append nonempty]
  simp [digits?_append ends read, unpadded, fraction?_append ends readFraction,
    power?_append ends readPower, number]

/-- A numeral starts with a sign or a digit. -/
theorem head_of_readNumber? {c : Char} (h : readNumber? (c :: cs) = some (n, r)) :
    c = '-' ∨ c.isDigit = true := by
  by_cases minus : c = '-'
  · exact .inl minus
  · rw [readNumber?_eq, Option.bind_eq_some_iff] at h
    obtain ⟨⟨whole, afterWhole⟩, read, -⟩ := h
    have unsigned : (sign (c :: cs)).2 = c :: cs := by simp [sign, minus]
    rw [unsigned] at read
    obtain ⟨nonempty, rfl, -⟩ := digits?_eq_some.1 read
    by_cases digit : c.isDigit = true
    · exact .inr digit
    · simp [digit] at nonempty

end

/-! ### Integers -/

theorem le_ofDigitChars (cs : List Char) (s : Nat) : s ≤ Nat.ofDigitChars 10 cs s := by
  induction cs generalizing s with
  | nil => exact Nat.le_refl s
  | cons c cs ih =>
    have later := ih (10 * s + (c.toNat - '0'.toNat))
    rw [Nat.ofDigitChars_cons]
    omega

/-- Digits of a number that fits are all taken. -/
theorem gatherWhole_of_le {cs : List Char} {s : Nat} (fits : Nat.ofDigitChars 10 cs s ≤ limit) :
    gatherWhole cs s = ⟨Nat.ofDigitChars 10 cs s, 0⟩ := by
  induction cs generalizing s with
  | nil => rfl
  | cons c cs ih =>
    rw [Nat.ofDigitChars_cons] at fits ⊢
    have next : s * 10 + digitOf c = 10 * s + (c.toNat - '0'.toNat) := by
      rw [digitOf, Nat.mul_comm]
    have below := (le_ofDigitChars cs _).trans fits
    rw [gatherWhole, next, if_neg (by omega), ih fits]

theorem head?_toDigits_ne_zero {m : Nat} (pos : 0 < m) : (Nat.toDigits 10 m).head? ≠ some '0' := by
  induction m using Nat.strong_induction_on with
  | _ m ih =>
    rw [Nat.toDigits_eq_if (by decide)]
    split
    · rename_i small
      interval_cases m <;> decide
    · have shorter := ih (m / 10) (by omega) (by omega)
      obtain ⟨c, cs, digits⟩ := List.exists_cons_of_ne_nil (@Nat.toDigits_ne_nil (m / 10) 10)
      rw [digits] at shorter ⊢
      exact shorter

theorem sign_toDigits (m : Nat) : sign (Nat.toDigits 10 m) = (false, Nat.toDigits 10 m) := by
  obtain ⟨c, cs, digits⟩ := List.exists_cons_of_ne_nil (@Nat.toDigits_ne_nil m 10)
  have digit : c.isDigit = true := Text.isDigit_toDigits m c (by simp [digits])
  rw [digits]
  unfold sign
  split
  · rename_i same
    cases same
    cases digit
  · rfl

theorem digits?_toDigits (m : Nat) : digits? (Nat.toDigits 10 m) = some (Nat.toDigits 10 m, []) := by
  have all : ∀ c ∈ Nat.toDigits 10 m, c.isDigit = true := Text.isDigit_toDigits m
  refine digits?_eq_some.2 ⟨Nat.toDigits_ne_nil, ?_, ?_⟩
  · exact List.takeWhile_eq_self_iff.2 all
  · exact List.dropWhile_eq_nil_iff.2 all

theorem unpadded_toDigits (m : Nat) :
    ¬((Nat.toDigits 10 m).length > 1 ∧ (Nat.toDigits 10 m).head? = some '0') := by
  rintro ⟨long, zero⟩
  rcases Nat.eq_zero_or_pos m with rfl | pos
  · exact absurd long (by decide)
  · exact head?_toDigits_ne_zero pos zero

theorem gatherWhole_toDigits {m : Nat} (fits : m ≤ limit) :
    gatherWhole (Nat.toDigits 10 m) 0 = ⟨m, 0⟩ := by
  have value : Nat.ofDigitChars 10 (Nat.toDigits 10 m) 0 = m := Nat.ofDigitChars_ten_toDigits
  rw [gatherWhole_of_le (by rwa [value]), value]

/-- An integer that fits 64 bits, with or without sign, is read back. -/
theorem Number.legible_int {n : Int} (low : -(2 ^ 63) ≤ n) (high : n < 2 ^ 64) :
    (Number.int n).Legible := by
  rw [Legible, readNumber?_eq]
  cases n with
  | ofNat m =>
    have fits : m ≤ limit := Nat.le_sub_one_of_lt (Int.ofNat_lt.1 high)
    have digits : (Number.int (.ofNat m)).print.toList = Nat.toDigits 10 m := Nat.toList_repr
    rw [digits, sign_toDigits]
    simp [digits?_toDigits, unpadded_toDigits, fraction?, power?, Parts.number?,
      gatherWhole_toDigits fits]
  | negSucc m =>
    have small : m + 1 ≤ 2 ^ 63 := by
      rw [Int.negSucc_eq] at low
      omega
    have fits : m + 1 ≤ limit := small.trans (by decide)
    have digits : (Number.int (.negSucc m)).print.toList = '-' :: Nat.toDigits 10 (m + 1) := by
      rw [print, Int.toString_eq_repr, Int.repr]
      simp [String.toList_append, Nat.toList_repr]
    rw [digits]
    have number : Parts.number? ⟨true, Nat.toDigits 10 (m + 1), none, none⟩ =
        some (.int (.negSucc m)) := by
      simp only [Parts.number?, gatherWhole_toDigits fits]
      rw [if_neg (by decide), if_neg (by decide), if_neg (Nat.succ_ne_zero m)]
      exact if_pos small
    simp [sign, digits?_toDigits, unpadded_toDigits, fraction?, power?, number]

end Playbook.Json
