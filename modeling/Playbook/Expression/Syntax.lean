import Playbook.Json.Value
import Playbook.Keyed

/-!
Syntax trees of expressions, and what can be read off a tree without evaluating it: the functions it
calls and the variables it reads.
-/
namespace Playbook.Expression

inductive UnaryOp where
  | not | negate
  deriving DecidableEq, Repr

inductive BinaryOp where
  | or | and
  | eq | notEq | gt | gte | lt | lte
  | add | sub | mul | div
  deriving DecidableEq, Repr

/-- An expression; the names of called functions are in upper case. -/
inductive Expr where
  | variable (name : String)
  | literal (v : Json.Value)
  | unary (op : UnaryOp) (operand : Expr)
  | binary (left : Expr) (op : BinaryOp) (right : Expr)
  | access (target : Expr) (segment : String)
  | index (target : Expr) (index : Expr)
  | call (name : String) (args : List Expr)
  deriving Inhabited

namespace Expr

mutual

/-- The called functions, in the order in which they stand. -/
def calls : Expr → List String
  | .variable _ => []
  | .literal _ => []
  | .unary _ e => e.calls
  | .binary l _ r => l.calls ++ r.calls
  | .access t _ => t.calls
  | .index t i => t.calls ++ i.calls
  | .call name args => name :: callsAll args

def callsAll : List Expr → List String
  | [] => []
  | e :: es => e.calls ++ callsAll es

end

mutual

/-- The variables that are read, in the order in which they stand. -/
def reads : Expr → List String
  | .variable name => [name]
  | .literal _ => []
  | .unary _ e => e.reads
  | .binary l _ r => l.reads ++ r.reads
  | .access t _ => t.reads
  | .index t i => t.reads ++ i.reads
  | .call _ args => readsAll args

def readsAll : List Expr → List String
  | [] => []
  | e :: es => e.reads ++ readsAll es

end

/-- Names in ascending order, each once. -/
def ascending (names : List String) : List String :=
  Keyed.keys (Keyed.ofList (names.map fun n => (n, ())))

def functions (e : Expr) : List String := ascending e.calls

def identifiers (e : Expr) : List String := ascending e.reads

/-- How messages name the place that an expression denotes. -/
def describe : Expr → String
  | .variable name => name
  | .access t segment => t.describe ++ "." ++ segment
  | .index t _ => t.describe ++ "[..]"
  | .call name _ => name ++ "(..)"
  | _ => "<expression>"

mutual

/-- The height of a tree; a leaf has height 1. -/
def height : Expr → Nat
  | .variable _ => 1
  | .literal _ => 1
  | .unary _ e => e.height + 1
  | .binary l _ r => max l.height r.height + 1
  | .access t _ => t.height + 1
  | .index t i => max t.height i.height + 1
  | .call _ args => heightAll args + 1

def heightAll : List Expr → Nat
  | [] => 0
  | e :: es => max e.height (heightAll es)

end

end Expr
end Playbook.Expression
