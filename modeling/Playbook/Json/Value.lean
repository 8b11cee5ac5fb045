import Playbook.Keyed
import Playbook.Decimal.Binary

/-!
Values of the data format: null, booleans, numbers, texts, lists and objects. Integers and floats
stay apart; an integer is one that fits 64 bits with or without sign. An object holds its entries
in the order in which they are written; the ones that stand for tables are ascending, as `Keyed`
builds them.
-/
namespace Playbook.Json

inductive Number where
  | int (n : Int)
  | float (x : Float)
  deriving Inhabited

/-- The float that a number stands for. -/
def Number.toFloat : Number → Float
  | .int n => Float.ofInt n
  | .float x => x

/-- Equality of numbers as they are written: an integer never equals a float. -/
def Number.same : Number → Number → Bool
  | .int a, .int b => a == b
  | .float a, .float b => a == b
  | _, _ => false

inductive Value where
  | null
  | bool (b : Bool)
  | number (n : Number)
  | text (s : String)
  | list (items : List Value)
  | object (entries : List (String × Value))
  deriving Inhabited

namespace Value

/-- The kinds of values that messages name. -/
inductive Kind where
  | null | boolean | number | string | array | object
  deriving DecidableEq, Repr

def Kind.name : Kind → String
  | .null => "null"
  | .boolean => "boolean"
  | .number => "number"
  | .string => "string"
  | .array => "array"
  | .object => "object"

def kind : Value → Kind
  | .null => .null
  | .bool _ => .boolean
  | .number _ => .number
  | .text _ => .string
  | .list _ => .array
  | .object _ => .object

def int (n : Int) : Value := .number (.int n)

def float (x : Float) : Value := .number (.float x)

def ofNat (n : Nat) : Value := .int n

/-- A text, or null when there is none. -/
def ofText? : Option String → Value
  | none => .null
  | some s => .text s

/-- A natural number, or null when there is none. -/
def ofNat? : Option Nat → Value
  | none => .null
  | some n => .ofNat n

/-- A list of texts. -/
def texts (items : List String) : Value := .list (items.map .text)

def bool? : Value → Option Bool
  | .bool b => some b
  | _ => none

def text? : Value → Option String
  | .text s => some s
  | _ => none

def float? : Value → Option Float
  | .number n => some n.toFloat
  | _ => none

/-- The value under a key of an object. -/
def get? (key : String) : Value → Option Value
  | .object entries => Keyed.get? key entries
  | _ => none

mutual

/-- Equality of values as they are written: numbers by `Number.same`, objects entry by entry. -/
def same : Value → Value → Bool
  | .null, .null => true
  | .bool a, .bool b => a == b
  | .number a, .number b => a.same b
  | .text a, .text b => a == b
  | .list a, .list b => sameItems a b
  | .object a, .object b => sameEntries a b
  | _, _ => false

def sameItems : List Value → List Value → Bool
  | [], [] => true
  | a :: as, b :: bs => same a b && sameItems as bs
  | _, _ => false

def sameEntries : List (String × Value) → List (String × Value) → Bool
  | [], [] => true
  | (k, a) :: as, (l, b) :: bs => k == l && same a b && sameEntries as bs
  | _, _ => false

end

/-- A computed number: an integer when it is whole and below 9e15 in size, a float otherwise, and
null when it is not finite. -/
def ofComputed (x : Float) : Value :=
  match Decimal.truncate? x with
  | none => .null
  | some n =>
    if Decimal.isWhole x && decide (n.natAbs < 9000000000000000) then .int n else .float x

end Value
end Playbook.Json
