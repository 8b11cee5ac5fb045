import Playbook.Expression.Parser

/-!
Why the evaluation of an expression fails, each cause with its message.
-/
namespace Playbook.Expression

open Json.Value (Kind)

/-- Operands, arguments or results of a kind that does not fit. -/
inductive Mismatch where
  | condition (got : Kind)
  | boolean (op : String) (got : Kind)
  | negate (got : Kind)
  | compare (left right : Kind)
  | order (left right : Kind)
  | numbers (op : String) (left right : Kind)
  | member (segment : String) (got : Kind)
  | index (target index : Kind)
  | collection (function : String) (got : Kind)
  | array (function : String) (got : Kind)
  | numericItem (function : String) (got : Kind)
  | number (function : String) (got : Kind)
  | string (function : String) (got : Kind)
  | search (within wanted : Kind)
  | daysOutOfRange (days : Float)
  | invalidPattern (pattern : String)

def Mismatch.message : Mismatch → String
  | .condition got => s!"condition must evaluate to a boolean, got {got.name}"
  | .boolean op got => s!"operator '{op}' expects booleans, got {got.name}"
  | .negate got => s!"cannot negate {got.name}"
  | .compare left right => s!"cannot compare {left.name} with {right.name}"
  | .order left right => s!"cannot order {left.name} and {right.name}"
  | .numbers op left right =>
    s!"operator '{op}' expects numbers, got {left.name} and {right.name}"
  | .member segment got => s!"cannot read member '{segment}' of {got.name}"
  | .index target key => s!"cannot index {target.name} with {key.name}"
  | .collection function got => s!"{function} expects a collection, got {got.name}"
  | .array function got => s!"{function} expects an array, got {got.name}"
  | .numericItem function got => s!"{function} expects numeric items, found {got.name}"
  | .number function got => s!"{function} expects a number, got {got.name}"
  | .string function got => s!"{function} expects a string, got {got.name}"
  | .search within wanted => s!"CONTAINS cannot search {within.name} for {wanted.name}"
  | .daysOutOfRange days =>
    s!"DAYS_AGO argument {Decimal.Style.message.format days} is out of range"
  | .invalidPattern pattern => s!"invalid regex '{pattern}'"

inductive ExpressionError where
  | parse (cause : ParseError)
  | unknownIdentifier (name : String)
  | unknownFunction (name : String)
  | typeMismatch (cause : Mismatch)
  | divisionByZero
  | arity (function : String) (expected actual : Nat)

def ExpressionError.message : ExpressionError → String
  | .parse cause => "expression parse error: " ++ cause.message
  | .unknownIdentifier name => s!"unknown identifier '{name}'"
  | .unknownFunction name => s!"unknown function '{name}'"
  | .typeMismatch cause => "type mismatch: " ++ cause.message
  | .divisionByZero => "division by zero"
  | .arity function expected actual =>
    s!"function '{function}' expects {expected} argument(s), got {actual}"

end Playbook.Expression
