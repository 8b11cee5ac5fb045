import Playbook.Decimal.Literal
import Playbook.Decimal.Style
import Playbook.Json.Record

/-!
Values of a document. A plain scalar is null, a boolean, a number or a text, whichever its spelling
says first; an integer has to fit 64 bits. Entries of a table have values as keys, each once.
-/
namespace Playbook.Yaml

inductive Value where
  | null
  | bool (b : Bool)
  | int (n : Int)
  | float (x : Float)
  | text (s : String)
  | list (items : List Value)
  | table (entries : List (Value × Value))
  | tagged (tag : String) (v : Value)

/-! ### Plain scalars -/

def isNull (s : String) : Bool := ["null", "Null", "NULL", "~"].contains s

def readBool? (s : String) : Option Bool :=
  if ["true", "True", "TRUE"].contains s then some true
  else if ["false", "False", "FALSE"].contains s then some false
  else none

/-- Digits that a zero stands before are a text. -/
def isPaddedNumber (cs : List Char) : Bool :=
  match (Decimal.splitSign cs).2 with
  | '0' :: rest => !rest.isEmpty && rest.all Char.isDigit
  | _ => false

/-- The value of a digit in a base up to sixteen. -/
def digitIn? (base : Nat) (c : Char) : Option Nat :=
  let d := if c.isDigit then Decimal.digitValue c
    else if 'a' ≤ c && c ≤ 'f' then c.toNat - 'a'.toNat + 10
    else if 'A' ≤ c && c ≤ 'F' then c.toNat - 'A'.toNat + 10
    else base
  if d < base then some d else none

/-- The number that digits of a base write. -/
def magnitude? (base : Nat) (cs : List Char) : Option Nat :=
  if cs.isEmpty then none
  else cs.foldlM (fun n c => (digitIn? base c).map (n * base + ·)) 0

/-- A magnitude in the base that its first two characters name, or in decimal. -/
def readMagnitude? (cs : List Char) : Option Nat :=
  match cs with
  | '0' :: 'x' :: rest => magnitude? 16 rest
  | '0' :: 'o' :: rest => magnitude? 8 rest
  | '0' :: 'b' :: rest => magnitude? 2 rest
  | cs => if isPaddedNumber cs then none else magnitude? 10 cs

/-- What a scalar says about integers. -/
inductive IntegerReading where
  | integer (n : Int)
  /-- an integer of more than 64 bits, but not of more than 128 -/
  | tooLarge
  | other

def readInteger (cs : List Char) : IntegerReading :=
  let (negative, digits) := Decimal.splitSign cs
  match readMagnitude? digits with
  | none => .other
  | some m =>
    let bits (n : Nat) : Nat := if negative then Nat.pow 2 (n - 1) else Nat.pow 2 n - 1
    if m ≤ bits 64 then .integer (if negative then -(m : Int) else m)
    else if m ≤ bits 128 then .tooLarge
    else .other

def readFloat? (cs : List Char) : Option Float :=
  let (negative, body) := Decimal.splitSign cs
  if [".inf", ".Inf", ".INF"].contains (String.ofList body) then
    some (if negative then -1.0 / 0.0 else 1.0 / 0.0)
  else if [".nan", ".NaN", ".NAN"].contains (String.ofList cs) then some (0.0 / 0.0)
  else if isPaddedNumber cs then none
  else (Decimal.readFloat? cs).filter Float.isFinite

/-- The value of a plain scalar. -/
def plainValue? (s : String) : Option Value :=
  if s.isEmpty || isNull s then some .null
  else match readBool? s with
  | some b => some (.bool b)
  | none =>
    match readInteger s.toList with
    | .integer n => some (.int n)
    | .tooLarge => none
    | .other =>
      match readFloat? s.toList with
      | some x => some (.float x)
      | none => some (.text s)

namespace Value

/-! ### Equality -/

/-- Whether two floats are one key. -/
def sameFloat (x y : Float) : Bool := x == y || (x.isNaN && y.isNaN)

mutual

/-- Whether two values are one key; tables are compared as they are written. -/
def same : Value → Value → Bool
  | .null, .null => true
  | .bool a, .bool b => a == b
  | .int a, .int b => a == b
  | .float a, .float b => sameFloat a b
  | .text a, .text b => a == b
  | .list a, .list b => sameItems a b
  | .table a, .table b => sameEntries a b
  | .tagged s a, .tagged t b => s == t && same a b
  | _, _ => false

def sameItems : List Value → List Value → Bool
  | [], [] => true
  | a :: as, b :: bs => same a b && sameItems as bs
  | _, _ => false

def sameEntries : List (Value × Value) → List (Value × Value) → Bool
  | [], [] => true
  | (k, a) :: as, (l, b) :: bs => same k l && same a b && sameEntries as bs
  | _, _ => false

end

/-- Whether no key occurs twice. -/
def distinctKeys : List (Value × Value) → Bool
  | [] => true
  | (k, _) :: rest => !rest.any (fun e => same k e.1) && distinctKeys rest

/-! ### As data -/

/-- The text of a key that can stand in an object. -/
def keyText? : Value → Option String
  | .bool b => some (if b then "true" else "false")
  | .int n => some (toString n)
  | .float x => if x.isFinite then some (Decimal.Style.data.format x) else none
  | .text s => some s
  | _ => none

mutual

/-- The value as a value of the data format, none when a key cannot be written. A tag becomes the
key of an object. -/
def toJson? : Value → Option Json.Value
  | .null => some .null
  | .bool b => some (.bool b)
  | .int n => some (.int n)
  | .float x => some (if x.isFinite then .float x else .null)
  | .text s => some (.text s)
  | .list items => (itemsToJson? items).map .list
  | .table entries => (entriesToJson? entries).map Json.Value.table
  | .tagged tag v => (toJson? v).map fun v => .object [("!" ++ tag, v)]

def itemsToJson? : List Value → Option (List Json.Value)
  | [] => some []
  | v :: rest => do
    let v ← toJson? v
    some (v :: (← itemsToJson? rest))

def entriesToJson? : List (Value × Value) → Option (List (String × Json.Value))
  | [] => some []
  | (k, v) :: rest => do
    let k ← keyText? k
    let v ← toJson? v
    some ((k, v) :: (← entriesToJson? rest))

end

end Value
end Playbook.Yaml
