/-!
The exact value of a float: sign, significand and power of two, read off its bits. What the
library asks of floats beyond arithmetic and order (whole numbers, rounding to a whole number, the
nearest float of a decimal) is answered from these exact parts.
-/
namespace Playbook.Decimal

/-- What a float stands for: a signed dyadic number, a signed infinity, or no number. -/
inductive Binary where
  | finite (negative : Bool) (significand : Nat) (exponent : Int)
  | infinite (negative : Bool)
  | notANumber
  deriving DecidableEq, Repr

/-- A width of floats: the bits of the fraction and of the exponent, and the least exponent of a
last bit. -/
structure Width where
  fractionBits : Nat
  exponentBits : Nat
  leastExponent : Int
  deriving DecidableEq, Repr

/-- Floats of 64 bits. -/
def Width.double : Width := ⟨52, 11, -1074⟩

/-- Floats of 32 bits. -/
def Width.single : Width := ⟨23, 8, -149⟩

/-- Splits bits into sign, exponent field and fraction field. -/
def Binary.ofBits (w : Width) (bits : Nat) : Binary :=
  let negative := bits / Nat.pow 2 (w.fractionBits + w.exponentBits) == 1
  let field : Nat := bits / Nat.pow 2 w.fractionBits % Nat.pow 2 w.exponentBits
  let fraction : Nat := bits % Nat.pow 2 w.fractionBits
  if field + 1 = Nat.pow 2 w.exponentBits then
    (if fraction = 0 then .infinite negative else .notANumber)
  else if field = 0 then .finite negative fraction w.leastExponent
  else .finite negative (Nat.pow 2 w.fractionBits + fraction) (field - 1 + w.leastExponent)

def Binary.ofFloat (x : Float) : Binary := Binary.ofBits .double x.toBits.toNat

def Binary.ofFloat32 (x : Float32) : Binary := Binary.ofBits .single x.toBits.toNat

/-- The magnitude cut to a whole number, and whether nothing was cut off. -/
def cutMagnitude (significand : Nat) (exponent : Int) : Nat × Bool :=
  match exponent with
  | .ofNat e => (significand * Nat.pow 2 e, true)
  | .negSucc e =>
    let unit := Nat.pow 2 (e + 1)
    (significand / unit, significand % unit = 0)

def signed (negative : Bool) (magnitude : Nat) : Int :=
  if negative then -(magnitude : Int) else magnitude

/-- The integer part, toward zero; none for an infinity or no number. -/
def truncate? (x : Float) : Option Int :=
  match Binary.ofFloat x with
  | .finite negative m e => some (signed negative (cutMagnitude m e).1)
  | _ => none

/-- Whether a float is finite and has no fraction. -/
def isWhole (x : Float) : Bool :=
  match Binary.ofFloat x with
  | .finite _ m e => (cutMagnitude m e).2
  | _ => false

/-- The nearest whole number, a half going away from zero; none when there is none. -/
def roundHalfAway? (x : Float) : Option Int :=
  match Binary.ofFloat x with
  | .finite negative m (.ofNat e) => some (signed negative (m * Nat.pow 2 e))
  | .finite negative m (.negSucc e) =>
    let unit := Nat.pow 2 (e + 1)
    some (signed negative ((2 * m + unit) / (2 * unit)))
  | _ => none

/-- A quotient to the nearest whole number, a half going to the even one. -/
def divideHalfEven (num den : Nat) : Nat :=
  let q := num / den
  let twice := 2 * (num % den)
  if twice > den ∨ (twice = den ∧ q % 2 = 1) then q + 1 else q

/-- How many units a magnitude is, to the nearest unit, a half going to the even one. -/
def unitsOf (unitsPerOne significand : Nat) (exponent : Int) : Nat :=
  match exponent with
  | .ofNat e => significand * Nat.pow 2 e * unitsPerOne
  | .negSucc e => divideHalfEven (significand * unitsPerOne) (Nat.pow 2 (e + 1))

/-- Keeps an integer between two bounds. -/
def clamp (low high n : Int) : Int := max low (min high n)

/-- A float cut to a 64-bit count: what is below zero or no number becomes 0, what is too large
the largest count. -/
def toCount (x : Float) : Nat :=
  match Binary.ofFloat x with
  | .infinite negative => if negative then 0 else Nat.pow 2 64 - 1
  | .notANumber => 0
  | .finite negative m e =>
    (clamp 0 (Nat.pow 2 64 - 1) (signed negative (cutMagnitude m e).1)).toNat

/-- The nearest float of `digits * 10 ^ exponent`, an infinity when that is too large. -/
def nearest (digits : Nat) (exponent : Int) : Float :=
  if digits = 0 then 0
  else
    let width : Int := (Nat.toDigits 10 digits).length
    if width + exponent > 400 then 1.0 / 0.0
    else if width + exponent < -400 then 0
    else match exponent with
      | .ofNat e => Float.ofScientific digits false e
      | .negSucc e => Float.ofScientific digits true (e + 1)

end Playbook.Decimal
