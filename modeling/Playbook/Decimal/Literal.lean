import Playbook.Decimal.Binary

/-!
Reading a float from a decimal literal: a sign, digits with a point anywhere among them, and a power
of ten.
-/
namespace Playbook.Decimal

def digitValue (c : Char) : Nat := c.toNat - '0'.toNat

/-- The number that decimal digits write. -/
def ofDigits (digits : List Char) : Nat := digits.foldl (fun n c => n * 10 + digitValue c) 0

/-- A sign at the front and whether it is a minus. -/
def splitSign : List Char → Bool × List Char
  | '-' :: rest => (true, rest)
  | '+' :: rest => (false, rest)
  | cs => (false, cs)

def splitDigits (cs : List Char) : List Char × List Char :=
  (cs.takeWhile Char.isDigit, cs.dropWhile Char.isDigit)

/-- The power of ten at the end of a literal; zero when there is nothing. -/
def readPower? : List Char → Option Int
  | [] => some 0
  | c :: rest =>
    if c = 'e' || c = 'E' then
      let (negative, digits) := splitSign rest
      if digits.isEmpty || !digits.all Char.isDigit then none
      else some (if negative then -(ofDigits digits : Int) else ofDigits digits)
    else none

/-- The float of a literal, none when the text is no literal. -/
def readFloat? (cs : List Char) : Option Float := do
  let (negative, cs) := splitSign cs
  let (whole, cs) := splitDigits cs
  let (fraction, cs) := match cs with
    | '.' :: rest => splitDigits rest
    | cs => ([], cs)
  let power ← readPower? cs
  if whole.isEmpty && fraction.isEmpty then none
  else
    let x := nearest (ofDigits (whole ++ fraction)) (power - fraction.length)
    some (if negative then -x else x)

end Playbook.Decimal
