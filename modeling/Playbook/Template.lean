import Playbook.Expression.Evaluation

/-!
Texts with placeholders. A placeholder is `$` and an expression in braces, up to the first closing
brace. `Piece.split` cuts a text into literal pieces and placeholders; rendering replaces each
placeholder by the text of its value, and a text that is one placeholder by the value itself.
-/
namespace Playbook.Template

open Json (Value)
open Expression (Evaluator Environment Result)

/-- A stretch of literal text, or the expression of a placeholder as it is written. -/
inductive Piece where
  | literal (text : List Char)
  | placeholder (expression : List Char)
  deriving DecidableEq, Repr

/-- The text that a piece was cut from. -/
def Piece.source : Piece → List Char
  | .literal text => text
  | .placeholder e => ['$', '\x7b'] ++ e ++ ['\x7d']

/-- The expression at the front of a text that follows an opening, and what comes after it. -/
def closing? (cs : List Char) : Option (List Char × List Char) :=
  match cs.dropWhile (· ≠ '\x7d') with
  | _ :: rest => some (cs.takeWhile (· ≠ '\x7d'), rest)
  | [] => none

/-- The first placeholder of a text with what stands before and after it. -/
def firstPlaceholder? : List Char → Option (List Char × List Char × List Char)
  | [] => none
  | c :: rest =>
    let later := (firstPlaceholder? rest).map fun (before, e, after) => (c :: before, e, after)
    match rest with
    | d :: inner =>
      if c = '$' ∧ d = '\x7b' then (closing? inner).map fun (e, after) => ([], e, after)
      else later
    | [] => none

def literalPiece (text : List Char) : List Piece := if text.isEmpty then [] else [.literal text]

/-- The pieces of a text from left to right. -/
def splitFrom : (fuel : Nat) → List Char → List Piece
  | 0, cs => literalPiece cs
  | fuel + 1, cs =>
    match firstPlaceholder? cs with
    | some (before, e, after) => literalPiece before ++ .placeholder e :: splitFrom fuel after
    | none => literalPiece cs

def Piece.split (s : String) : List Piece := splitFrom s.length s.toList

def Piece.expression? : Piece → Option String
  | .literal _ => none
  | .placeholder e => some (String.ofList e)

def hasPlaceholders (s : String) : Bool := (Piece.split s).any fun p => p.expression?.isSome

/-- The expressions of the placeholders of a text, without blanks at their ends. -/
def placeholders (s : String) : List String :=
  ((Piece.split s).filterMap Piece.expression?).map Text.trim

/-- The text that a value leaves inside a longer one. -/
def inlineText : Value → String
  | .text s => s
  | .null => ""
  | v => v.print

/-- The pieces with each placeholder replaced by the text of its value. -/
def renderPieces (evaluator : Evaluator) (env : Environment) : List Piece → Result String
  | [] => .ok ""
  | .literal text :: rest => do
    .ok (String.ofList text ++ (← renderPieces evaluator env rest))
  | .placeholder e :: rest => do
    let v ← evaluator.evaluate (String.ofList e) env
    .ok (inlineText v ++ (← renderPieces evaluator env rest))

def renderText (evaluator : Evaluator) (env : Environment) (s : String) : Result Value :=
  match Piece.split s with
  | [.placeholder e] => evaluator.evaluate (String.ofList e) env
  | pieces => do .ok (.text (← renderPieces evaluator env pieces))

mutual

/-- A value with every text inside it rendered. -/
def render (evaluator : Evaluator) (env : Environment) : Value → Result Value
  | .text s => renderText evaluator env s
  | .list items => do .ok (.list (← renderItems evaluator env items))
  | .object entries => do .ok (.object (← renderEntries evaluator env entries))
  | v => .ok v

def renderItems (evaluator : Evaluator) (env : Environment) : List Value → Result (List Value)
  | [] => .ok []
  | v :: vs => do
    let v ← render evaluator env v
    let vs ← renderItems evaluator env vs
    .ok (v :: vs)

def renderEntries (evaluator : Evaluator) (env : Environment) :
    List (String × Value) → Result (List (String × Value))
  | [] => .ok []
  | (k, v) :: vs => do
    let v ← render evaluator env v
    let vs ← renderEntries evaluator env vs
    .ok ((k, v) :: vs)

end

mutual

/-- The expressions of all placeholders inside a value. -/
def placeholdersIn : Value → List String
  | .text s => placeholders s
  | .list items => placeholdersInItems items
  | .object entries => placeholdersInEntries entries
  | _ => []

def placeholdersInItems : List Value → List String
  | [] => []
  | v :: vs => placeholdersIn v ++ placeholdersInItems vs

def placeholdersInEntries : List (String × Value) → List String
  | [] => []
  | (_, v) :: vs => placeholdersIn v ++ placeholdersInEntries vs

end

end Playbook.Template
