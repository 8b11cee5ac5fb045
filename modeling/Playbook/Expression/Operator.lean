import Playbook.Expression.Error
import Playbook.Instant.Stamp

/-!
What the operators do to values. Null equals only null; numbers compare as floats; two texts that
both denote instants are ordered by their instants and all others by code points; lists and objects
are equal when they are written alike. A sum of two texts joins them.
-/
namespace Playbook.Expression

open Json (Value)

abbrev Result (α : Type) := Except ExpressionError α

def mismatch {α : Type} (m : Mismatch) : Result α := .error (.typeMismatch m)

def expectBool (op : String) (v : Value) : Result Bool :=
  match v.bool? with
  | some b => .ok b
  | none => mismatch (.boolean op v.kind)

/-- Equality of two values. -/
def equal (l r : Value) : Result Bool :=
  match l, r with
  | .null, .null => .ok Bool.true
  | .null, _ => .ok Bool.false
  | _, .null => .ok Bool.false
  | .number a, .number b => .ok (a.toFloat == b.toFloat)
  | .text a, .text b => .ok (a == b)
  | .bool a, .bool b => .ok (a == b)
  | .list a, .list b => .ok ((Value.list a).same (.list b))
  | .object a, .object b => .ok ((Value.object a).same (.object b))
  | l, r => mismatch (.compare l.kind r.kind)

/-- The order of two floats, neither of which is no number. -/
def orderFloats (a b : Float) : Ordering := if a < b then .lt else if b < a then .gt else .eq

/-- The order of two texts. -/
def orderTexts (a b : String) : Ordering :=
  match Instant.parse? a, Instant.parse? b with
  | some a, some b => a.cmp b
  | _, _ => compare a b

/-- The order of two values. -/
def order (l r : Value) : Result Ordering :=
  match l, r with
  | .number a, .number b => .ok (orderFloats a.toFloat b.toFloat)
  | .text a, .text b => .ok (orderTexts a b)
  | l, r => mismatch (.order l.kind r.kind)

def numbers (op : String) (l r : Value) : Result (Float × Float) :=
  match l.float?, r.float? with
  | some a, some b => .ok (a, b)
  | _, _ => mismatch (.numbers op l.kind r.kind)

def arithmetic (op : String) (f : Float → Float → Float) (l r : Value) : Result Value := do
  let (a, b) ← numbers op l r
  .ok (.ofComputed (f a b))

/-- A binary operator on evaluated operands; `AND` and `OR` are no more than their right operand
here, since the left one is looked at before. -/
def applyBinary (op : BinaryOp) (l r : Value) : Result Value :=
  match op with
  | .eq => return .bool (← equal l r)
  | .notEq => return .bool (!(← equal l r))
  | .gt => return .bool ((← order l r) == .gt)
  | .gte => return .bool ((← order l r) != .lt)
  | .lt => return .bool ((← order l r) == .lt)
  | .lte => return .bool ((← order l r) != .gt)
  | .add =>
    match l, r with
    | .text a, .text b => .ok (.text (a ++ b))
    | l, r => arithmetic "+" (· + ·) l r
  | .sub => arithmetic "-" (· - ·) l r
  | .mul => arithmetic "*" (· * ·) l r
  | .div => do
    let (a, b) ← numbers "/" l r
    if b == 0.0 then .error .divisionByZero else .ok (.ofComputed (a / b))
  | .and => return .bool (← expectBool "AND" r)
  | .or => return .bool (← expectBool "OR" r)

def applyUnary (op : UnaryOp) (v : Value) : Result Value :=
  match op with
  | .not => return .bool (!(← expectBool "NOT" v))
  | .negate =>
    match v.float? with
    | some x => .ok (.ofComputed (-x))
    | none => mismatch (.negate v.kind)

/-- The position that a number denotes in a list. -/
def position? (x : Float) : Option Nat :=
  if Decimal.isWhole x && (0.0 ≤ x) then some (Decimal.toCount x) else none

/-- The position that a member name denotes in a list. -/
def positionOfName? (segment : String) : Option Nat :=
  let cs := segment.toList
  if !cs.isEmpty && cs.all Char.isDigit then
    some (cs.foldl (fun n c => n * 10 + (c.toNat - '0'.toNat)) 0)
  else none

/-- A member of a value; `place` is how messages name the value. -/
def member (place : String) (v : Value) (segment : String) : Result Value :=
  let missing : Result Value := .error (.unknownIdentifier (place ++ "." ++ segment))
  match v with
  | .object entries =>
    match Keyed.get? segment entries with
    | some v => .ok v
    | none => missing
  | .list items =>
    match (positionOfName? segment).bind (items[·]?) with
    | some v => .ok v
    | none => missing
  | v => mismatch (.member segment v.kind)

/-- An element of a value; `place` is how messages name the value. -/
def element (place : String) (v i : Value) (indexText : String) : Result Value :=
  let missing : Result Value := .error (.unknownIdentifier (place ++ "[" ++ indexText ++ "]"))
  match v, i with
  | .list items, .number n =>
    match (position? n.toFloat).bind (items[·]?) with
    | some v => .ok v
    | none => missing
  | .object entries, .text key =>
    match Keyed.get? key entries with
    | some v => .ok v
    | none => missing
  | v, i => mismatch (.index v.kind i.kind)

end Playbook.Expression
