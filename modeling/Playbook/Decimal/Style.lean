import Playbook.Decimal.Shortest

/-!
How a float is written. A style fixes where positional writing ends, whether a whole number keeps
its point, how the exponent is signed, and the texts of the infinities and of no number; the digits
are always the shortest ones. Three styles occur: data, messages, and quoted tokens.
-/
namespace Playbook.Decimal

structure Style where
  /-- least exponent of the leading digit that is written positionally -/
  positionalFrom : Option Int
  /-- first exponent of the leading digit that is no longer written positionally -/
  positionalBelow : Option Int
  /-- whether a whole number is written with `.0` -/
  keepsPoint : Bool
  /-- whether a positive exponent carries a plus sign -/
  plusSign : Bool

/-- Numbers inside data: positional from 0.00001 up to 16 digits. -/
def Style.data : Style := ⟨some (-5), some 16, true, true⟩

/-- Numbers inside messages: always positional, whole numbers without a point. -/
def Style.message : Style := ⟨none, none, false, false⟩

/-- Numbers inside quoted tokens: positional from 0.0001 up to 16 digits. -/
def Style.token : Style := ⟨some (-4), some 16, true, false⟩

def zeros (n : Nat) : List Char := List.replicate n '0'

/-- Digits with the point placed by the exponent. -/
def positional (keepsPoint : Bool) (digits : List Char) (exponent : Int) : List Char :=
  match exponent with
  | .ofNat e => digits ++ zeros e ++ (if keepsPoint then ['.', '0'] else [])
  | .negSucc e =>
    let places := e + 1
    if digits.length ≤ places then
      ['0', '.'] ++ zeros (places - digits.length) ++ digits
    else
      digits.take (digits.length - places) ++ ['.'] ++ digits.drop (digits.length - places)

/-- One digit before the point and the exponent of ten after an `e`. -/
def scientific (plusSign : Bool) (digits : List Char) (leading : Int) : List Char :=
  let head := match digits with
    | [d] => [d]
    | d :: ds => d :: '.' :: ds
    | [] => []
  let power := (toString leading.natAbs).toList
  head ++ ['e'] ++ (if leading < 0 then ['-'] else if plusSign then ['+'] else []) ++ power

def Style.decimal (s : Style) (d : Scaled) : List Char :=
  let digits := Nat.toDigits 10 d.digits
  let leading := d.exponent + digits.length - 1
  let low := match s.positionalFrom with
    | some e => decide (leading < e)
    | none => false
  let high := match s.positionalBelow with
    | some e => decide (e ≤ leading)
    | none => false
  if low || high then scientific s.plusSign digits leading
  else positional s.keepsPoint digits d.exponent

/-- The text of what a float of a width stands for. -/
def Style.formatBinary (s : Style) (w : Width) : Binary → String
  | .notANumber => "NaN"
  | .infinite negative => if negative then "-inf" else "inf"
  | .finite negative m e =>
    let body := if m = 0 then positional s.keepsPoint ['0'] 0 else s.decimal (shortest w m e)
    String.ofList (if negative then '-' :: body else body)

/-- The text of a float in a style. -/
def Style.format (s : Style) (x : Float) : String := s.formatBinary .double (.ofFloat x)

/-- The text of a float in single precision. -/
def Style.formatSingle (s : Style) (x : Float32) : String := s.formatBinary .single (.ofFloat32 x)

/-- A nonnegative fraction with a fixed number of places, a half going to the even digit. -/
def fixedPlaces (places : Nat) (r : Ratio) : String :=
  let q := divideHalfEven (r.num * Nat.pow 10 places) r.den
  let digits := Nat.toDigits 10 q
  let digits := zeros (places + 1 - digits.length) ++ digits
  let whole := digits.take (digits.length - places)
  let fraction := digits.drop (digits.length - places)
  String.ofList (if places = 0 then whole else whole ++ '.' :: fraction)

/-- A float with a fixed number of places. -/
def fixed (places : Nat) (x : Float) : String :=
  match Binary.ofFloat x with
  | .notANumber => "NaN"
  | .infinite negative => if negative then "-inf" else "inf"
  | .finite negative m e =>
    let r : Ratio := match e with
      | .ofNat e => ⟨m * Nat.pow 2 e, 1⟩
      | .negSucc e => ⟨m, Nat.pow 2 (e + 1)⟩
    (if negative then "-" else "") ++ fixedPlaces places r

end Playbook.Decimal
