import Playbook.Json.Value

/-!
Reading a number. A whole numeral that fits 64 bits is an integer. Any other numeral is a float:
its digits are gathered into a 64-bit significand as long as the next digit still fits, and the
significand, rounded to a float, is scaled by one power of ten (by several when the power is below
`10 ^ -308`). A numeral whose float would not be finite is refused.
-/
namespace Playbook.Json.Numeral

/-- The largest significand. -/
def limit : Nat := Nat.pow 2 64 - 1

def digitOf (c : Char) : Nat := c.toNat - '0'.toNat

/-- A significand and a power of ten. -/
structure Scaled where
  significand : Nat
  exponent : Int

/-- Takes the digits before the point; those that no longer fit only raise the exponent. -/
def gatherWhole : List Char → (significand : Nat) → Scaled
  | [], s => ⟨s, 0⟩
  | c :: rest, s =>
    if s * 10 + digitOf c > limit then ⟨s, rest.length + 1⟩
    else gatherWhole rest (s * 10 + digitOf c)

/-- Takes the digits after the point up to the first that no longer fits. -/
def gatherFraction (digits : List Char) (s : Scaled) : Scaled :=
  match digits with
  | [] => s
  | c :: rest =>
    if s.significand * 10 + digitOf c > limit then s
    else gatherFraction rest ⟨s.significand * 10 + digitOf c, s.exponent - 1⟩

def powerOfTen (e : Nat) : Float := Float.ofScientific 1 false e

/-- Scales a float down in steps of at most `10 ^ 308`. -/
def scaleDown : (steps : Nat) → Float → Nat → Float
  | 0, x, e => x / powerOfTen e
  | steps + 1, x, e =>
    if e ≤ 308 then x / powerOfTen e
    else if x == 0 then x
    else scaleDown steps (x / powerOfTen 308) (e - 308)

/-- The float of a significand and an exponent, none when it is too large. -/
def Scaled.toFloat? (s : Scaled) : Option Float :=
  let x := Float.ofNat s.significand
  match s.exponent with
  | .ofNat e =>
    if e ≤ 308 then
      let y := x * powerOfTen e
      if y.toBits = (1.0 / 0.0 : Float).toBits then none else some y
    else if s.significand = 0 then some x else none
  | .negSucc e =>
    -- after four steps of 308 nothing is left of a 64-bit significand
    some (scaleDown 4 x (min (e + 1) 1500))

def Scaled.number? (s : Scaled) (negative : Bool) : Option Number :=
  s.toFloat?.map fun x => .float (if negative then -x else x)

/-- The exponent that is written after an `e`. -/
structure Power where
  negative : Bool
  digits : List Char

def Power.magnitude (p : Power) : Nat :=
  p.digits.foldl (fun n c => if n > Nat.pow 2 31 then n else n * 10 + digitOf c) 0

/-- A numeral cut into its parts. -/
structure Parts where
  negative : Bool
  whole : List Char
  fraction : Option (List Char)
  power : Option Power

/-- An exponent that does not fit 31 bits leaves zero, or is refused when it is positive. -/
def Scaled.raise (s : Scaled) (negative : Bool) (p : Power) : Option Number :=
  if p.magnitude > Nat.pow 2 31 - 1 then
    if s.significand ≠ 0 ∧ p.negative = false then none
    else some (.float (if negative then -0.0 else 0.0))
  else
    let e : Int := p.magnitude
    Scaled.number? ⟨s.significand, if p.negative then s.exponent - e else s.exponent + e⟩ negative

/-- The number of a numeral. -/
def Parts.number? (p : Parts) : Option Number :=
  let whole := gatherWhole p.whole 0
  match p.fraction, p.power with
  | none, none =>
    if whole.exponent ≠ 0 then whole.number? p.negative
    else if p.negative = false then some (.int whole.significand)
    else if whole.significand = 0 then some (.float (-0.0))
    else if whole.significand ≤ Nat.pow 2 63 then some (.int (-(whole.significand : Int)))
    else some (.float (-(Float.ofNat whole.significand)))
  | some fraction, none => (gatherFraction fraction whole).number? p.negative
  | some fraction, some power => (gatherFraction fraction whole).raise p.negative power
  | none, some power => whole.raise p.negative power

end Playbook.Json.Numeral
