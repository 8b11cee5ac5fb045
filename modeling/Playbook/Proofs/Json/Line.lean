import Mathlib.Data.List.Basic
import Playbook.Json.Printer
import Playbook.Proofs.Text.Digits
import Playbook.Proofs.Text.Lines

/-!
The compact text of a value is one line: what would break it is escaped in texts and in keys, and
nothing else is written that could.
-/
namespace Playbook

open Text (Unbroken)

/-! ### Numbers -/

section
variable {cs : List Char}

theorem unbroken_of_isDigit (h : ∀ c ∈ cs, c.isDigit = true) : Unbroken cs := by
  intro c mem
  have code := Text.toNat_of_isDigit (h c mem)
  omega

theorem unbroken_toDigits (n : Nat) : Unbroken (Nat.toDigits 10 n) :=
  unbroken_of_isDigit (Text.isDigit_toDigits n)

namespace Decimal

theorem unbroken_zeros (n : Nat) : Unbroken (zeros n) :=
  unbroken_of_isDigit fun c mem => by
    rw [(List.mem_replicate.1 mem).2]
    rfl

theorem unbroken_positional (keepsPoint : Bool) (digits : Unbroken cs) (exponent : Int) :
    Unbroken (positional keepsPoint cs exponent) := by
  cases exponent with
  | ofNat e => cases keepsPoint <;> simp [positional, digits, unbroken_zeros]
  | negSucc e =>
    have first (n : Nat) : Unbroken (cs.take n) := fun c mem => digits c (List.mem_of_mem_take mem)
    have later (n : Nat) : Unbroken (cs.drop n) := fun c mem => digits c (List.mem_of_mem_drop mem)
    unfold positional
    dsimp only
    split <;> simp [digits, first, later, unbroken_zeros]

theorem unbroken_scientific (plusSign : Bool) (digits : Unbroken cs) (leading : Int) :
    Unbroken (scientific plusSign cs leading) := by
  have sign : Unbroken (if leading < 0 then ['-'] else if plusSign then ['+'] else []) := by
    repeat' split
    all_goals simp
  have power : Unbroken (Nat.toDigits 10 leading.natAbs) := unbroken_toDigits _
  unfold scientific
  match cs, digits with
  | [], _ => simp [sign, power]
  | [d], digits => simpa [sign, power] using digits
  | d :: d' :: ds, digits => simpa [sign, power] using digits

theorem unbroken_decimal (s : Style) (d : Scaled) : Unbroken (s.decimal d) :=
  iteInduction (fun _ => unbroken_scientific _ (unbroken_toDigits _) _)
    fun _ => unbroken_positional _ (unbroken_toDigits _) _

theorem unbroken_format (s : Style) (x : Float) : Unbroken (s.format x).toList := by
  unfold Style.format
  cases Binary.ofFloat x with
  | notANumber => simp [Style.formatBinary]
  | infinite negative => cases negative <;> simp [Style.formatBinary]
  | finite negative m e =>
    have body : Unbroken (if m = 0 then positional s.keepsPoint ['0'] 0
        else s.decimal (shortest .double m e)) :=
      iteInduction (fun _ => unbroken_positional _ (by simp) _) fun _ => unbroken_decimal s _
    cases negative <;> simpa [Style.formatBinary] using body

end Decimal
end

namespace Json

theorem Number.unbroken_print (n : Number) : Unbroken n.print.toList := by
  cases n with
  | int n =>
    rw [print, Int.toString_eq_repr]
    cases n <;> simp [Int.repr, unbroken_toDigits]
  | float x => exact Decimal.unbroken_format _ x

/-! ### Texts and values -/

theorem unbroken_escapeChar (c : Char) : Unbroken (escapeChar c) := by
  have hex : ∀ d < 16, 32 ≤ (hexDigit d).toNat := by decide
  unfold escapeChar
  -- the seven characters that have an escape of their own
  iterate 7 refine iteInduction (fun _ => by simp) fun _ => ?_
  refine iteInduction (fun control => ?_) fun visible => ?_
  · simp [hex (c.toNat / 16) (by omega), hex (c.toNat % 16) (by omega)]
  · simpa using visible

theorem unbroken_quote (s : String) : Unbroken (quote s).toList := by
  have inside : Unbroken (s.toList.flatMap escapeChar) := by
    intro d mem
    obtain ⟨c, -, written⟩ := List.mem_flatMap.1 mem
    exact unbroken_escapeChar c d written
  simp [quote, inside]

mutual

theorem Value.unbroken_print : (v : Value) → Unbroken v.print.toList
  | .null => by simp [Value.print]
  | .bool true => by simp [Value.print]
  | .bool false => by simp [Value.print]
  | .number n => n.unbroken_print
  | .text s => unbroken_quote s
  | .list items => by simp [Value.print, unbroken_printItems items]
  | .object entries => by simp [Value.print, unbroken_printEntries entries]

theorem unbroken_printItems : (items : List Value) → Unbroken (printItems items).toList
  | [] => by simp [printItems]
  | [v] => by simpa [printItems] using v.unbroken_print
  | v :: w :: rest => by
    simp [printItems, v.unbroken_print, unbroken_printItems (w :: rest)]

theorem unbroken_printEntries :
    (entries : List (String × Value)) → Unbroken (printEntries entries).toList
  | [] => by simp [printEntries]
  | [(k, v)] => by simp [printEntries, unbroken_quote, v.unbroken_print]
  | (k, v) :: e :: rest => by
    simp [printEntries, unbroken_quote, v.unbroken_print, unbroken_printEntries (e :: rest)]

end

end Json
end Playbook
