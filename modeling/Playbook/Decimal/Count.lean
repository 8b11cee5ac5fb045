import Playbook.Decimal.Literal

/-!
Reading a count, which is at most a given limit. Of several faults in one text the leftmost counts.
-/
namespace Playbook.Decimal

inductive CountFault where
  | empty
  | invalidDigit
  | tooLarge
  deriving DecidableEq, Repr

def CountFault.message : CountFault → String
  | .empty => "cannot parse integer from empty string"
  | .invalidDigit => "invalid digit found in string"
  | .tooLarge => "number too large to fit in target type"

/-- One more digit of a count. -/
def pushDigit (limit n : Nat) (c : Char) : Except CountFault Nat :=
  if !c.isDigit then .error .invalidDigit
  else
    let n := n * 10 + digitValue c
    if n ≤ limit then .ok n else .error .tooLarge

/-- The count that a text writes; a plus may stand before it. -/
def readCount (limit : Nat) (s : String) : Except CountFault Nat :=
  match s.toList with
  | [] => .error .empty
  | '+' :: c :: rest => (c :: rest).foldlM (pushDigit limit) 0
  | cs => cs.foldlM (pushDigit limit) 0

end Playbook.Decimal
