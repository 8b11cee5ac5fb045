import Playbook.Expression.Evaluation
import Playbook.Pattern.Parser

/-!
The functions that every evaluator knows: counting and folding lists, the clock, letter case and
searching texts and collections.
-/
namespace Playbook.Expression.Builtin

open Json (Value)

def stringArg (function : String) (v : Value) : Result String :=
  match v.text? with
  | some s => .ok s
  | none => mismatch (.string function v.kind)

/-- The numbers of a list. -/
def numericItems (function : String) (v : Value) : Result (List Float) :=
  match v with
  | .list items => items.mapM fun item =>
    match item.float? with
    | some x => .ok x
    | none => mismatch (.numericItem function item.kind)
  | v => mismatch (.array function v.kind)

def sum (xs : List Float) : Float := xs.foldl (· + ·) 0.0

/-- Folds the numbers of a list that is not empty; null for an empty one. -/
def reduce (f : Float → Float → Float) : List Float → Value
  | [] => .null
  | x :: xs => .ofComputed (xs.foldl f x)

def smaller (a b : Float) : Float := if b < a then b else a
def larger (a b : Float) : Float := if a < b then b else a

def count (v : Value) : Result Value :=
  match v with
  | .list items => .ok (.ofComputed (Float.ofNat items.length))
  | .object entries => .ok (.ofComputed (Float.ofNat entries.length))
  | v => mismatch (.collection "COUNT" v.kind)

def average (xs : List Float) : Value :=
  if xs.isEmpty then .ofComputed 0.0 else .ofComputed (sum xs / Float.ofNat xs.length)

/-- The instant a number of days before another, to the nearest second. -/
def daysAgo (now : Instant) (v : Value) : Result Value :=
  match v.float? with
  | none => mismatch (.number "DAYS_AGO" v.kind)
  | some days =>
    match (Decimal.roundHalfAway? (days * 86400.0)).bind fun s => now.addSeconds? (-s) with
    | some t => .ok (.text t.format)
    | none => mismatch (.daysOutOfRange days)

/-- Whether two values are equal; values that cannot be compared are not. -/
def looselyEqual (l r : Value) : Bool :=
  match equal l r with
  | .ok b => b
  | .error _ => Bool.false

def containsValue (within wanted : Value) : Result Value :=
  match within, wanted with
  | .text s, .text part => .ok (.bool (Text.hasInfix part.toList s.toList))
  | .list items, wanted => .ok (.bool (items.any (looselyEqual · wanted)))
  | .object entries, .text key => .ok (.bool (Keyed.contains key entries))
  | within, wanted => mismatch (.search within.kind wanted.kind)

def matchesPattern (s p : Value) : Result Value := do
  let text ← stringArg "MATCHES" s
  let source ← stringArg "MATCHES" p
  match Pattern.parse? source with
  | some pattern => .ok (.bool (pattern.isIn text))
  | none => mismatch (.invalidPattern source)

/-- A function of one argument. -/
def unary (f : Value → Environment → Result Value) : Function :=
  ⟨1, fun args env => f (args.headD .null) env⟩

/-- A function of two arguments. -/
def binary (f : Value → Value → Result Value) : Function :=
  ⟨2, fun args _ => f (args.headD .null) (args.getD 1 .null)⟩

def table : List (String × Function) := Keyed.ofList [
  ("COUNT", unary fun v _ => count v),
  ("SUM", unary fun v _ => return .ofComputed (sum (← numericItems "SUM" v))),
  ("AVG", unary fun v _ => return average (← numericItems "AVG" v)),
  ("MIN", unary fun v _ => return reduce smaller (← numericItems "MIN" v)),
  ("MAX", unary fun v _ => return reduce larger (← numericItems "MAX" v)),
  ("NOW", ⟨0, fun _ env => .ok (.text env.now.format)⟩),
  ("DAYS_AGO", unary fun v env => daysAgo env.now v),
  ("LOWER", unary fun v _ => return .text (Text.lower (← stringArg "LOWER" v))),
  ("UPPER", unary fun v _ => return .text (Text.upper (← stringArg "UPPER" v))),
  ("CONTAINS", binary containsValue),
  ("MATCHES", binary matchesPattern)]

end Playbook.Expression.Builtin

namespace Playbook.Expression

/-- The evaluator that knows the built-in functions and no others. -/
def Evaluator.builtin (limits : Limits) : Evaluator := ⟨Builtin.table, limits⟩

end Playbook.Expression
