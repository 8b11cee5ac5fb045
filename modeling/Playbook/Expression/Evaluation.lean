import Playbook.Expression.Operator
import Playbook.Json.Printer

/-!
Evaluation of expressions against the variables and the instant of an environment. The functions
that can be called stand in a table of the evaluator under upper-case names, each with its arity.
`AND` and `OR` look at their right operand only when the left one leaves the answer open.
-/
namespace Playbook.Expression

open Json (Value)

/-- What an expression can see. -/
structure Environment where
  «variables» : List (String × Value)
  now : Instant

/-- A function with a fixed number of arguments. -/
structure Function where
  arity : Nat
  call : List Value → Environment → Result Value

structure Evaluator where
  functions : List (String × Function)
  limits : Limits := {}

mutual

/-- The value of an expression. -/
def eval (functions : List (String × Function)) (env : Environment) : Expr → Result Value
  | .variable name =>
    match Keyed.get? name env.variables with
    | some v => .ok v
    | none => .error (.unknownIdentifier name)
  | .literal v => .ok v
  | .unary op e => do applyUnary op (← eval functions env e)
  | .binary l .and r => do
    if ← expectBool "AND" (← eval functions env l) then
      applyBinary .and .null (← eval functions env r)
    else .ok (.bool Bool.false)
  | .binary l .or r => do
    if ← expectBool "OR" (← eval functions env l) then .ok (.bool Bool.true)
    else applyBinary .or .null (← eval functions env r)
  | .binary l op r => do
    let a ← eval functions env l
    let b ← eval functions env r
    applyBinary op a b
  | .access t segment => do member t.describe (← eval functions env t) segment
  | .index t i => do
    let v ← eval functions env t
    let i ← eval functions env i
    element t.describe v i i.print
  | .call name args =>
    match Keyed.get? name functions with
    | none => .error (.unknownFunction name)
    | some f =>
      if args.length ≠ f.arity then .error (.arity name f.arity args.length)
      else do f.call (← evalAll functions env args) env

/-- The values of several expressions, from left to right. -/
def evalAll (functions : List (String × Function)) (env : Environment) :
    List Expr → Result (List Value)
  | [] => .ok []
  | e :: es => do
    let v ← eval functions env e
    let vs ← evalAll functions env es
    .ok (v :: vs)

end

/-- A value that answers a condition. -/
def conditionOf (v : Value) : Result Bool :=
  match v.bool? with
  | some b => .ok b
  | none => mismatch (.condition v.kind)

namespace Evaluator

/-- Whether a function is known, in any letter case. -/
def hasFunction (e : Evaluator) (name : String) : Bool :=
  Keyed.contains (Text.asciiUpper name) e.functions

def functionNames (e : Evaluator) : List String := Keyed.keys e.functions

/-- Adds a function or replaces the one of that name, in any letter case. -/
def register (e : Evaluator) (name : String) (f : Function) : Evaluator :=
  { e with functions := Keyed.put (Text.asciiUpper name) f e.functions }

def parse (e : Evaluator) (source : String) : Result Parsed :=
  (Expression.parse e.limits source).mapError .parse

def evaluateParsed (e : Evaluator) (p : Parsed) (env : Environment) : Result Value :=
  eval e.functions env p.root

def evaluate (e : Evaluator) (source : String) (env : Environment) : Result Value := do
  e.evaluateParsed (← e.parse source) env

/-- Evaluates an expression that has to answer true or false. -/
def evaluateCondition (e : Evaluator) (source : String) (env : Environment) : Result Bool := do
  conditionOf (← e.evaluate source env)

end Evaluator
end Playbook.Expression
