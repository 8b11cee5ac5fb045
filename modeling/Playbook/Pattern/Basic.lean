import Playbook.Pattern.CharSet

/-!
Text patterns and the question whether a text holds a match of one. A pattern is compiled into a
program of choices, tests and jumps; the program is run on all its threads at once, one character at
a time, so that the work grows only with the product of pattern and text.
-/
namespace Playbook.Pattern

/-- What can be asked about a position between two characters. -/
inductive Assertion where
  | textStart | textEnd
  | lineStart | lineEnd
  | lineStartCrlf | lineEndCrlf
  | boundary (ascii : Bool) | notBoundary (ascii : Bool)
  | wordStart (ascii : Bool) | wordEnd (ascii : Bool)
  | halfStart (ascii : Bool) | halfEnd (ascii : Bool)
  deriving DecidableEq, Repr

/-- Patterns as trees. How greedy a repetition is does not matter for whether there is a match. -/
inductive Tree where
  | empty
  | set (s : CharSet)
  | assert (a : Assertion)
  | seq (a b : Tree)
  | alt (a b : Tree)
  | many (p : Tree)
  deriving Inhabited

namespace Tree

def sequence : List Tree → Tree
  | [] => .empty
  | [p] => p
  | p :: ps => .seq p (sequence ps)

def copies (p : Tree) : Nat → Tree
  | 0 => .empty
  | 1 => p
  | n + 1 => .seq p (copies p n)

/-- At most `n` matches, one after another. -/
def upTo (p : Tree) : Nat → Tree
  | 0 => .empty
  | n + 1 => .alt (.seq p (upTo p n)) .empty

/-- At least `low` and, if there is a bound, at most `high` matches. -/
def repeated (p : Tree) (low : Nat) (high : Option Nat) : Tree :=
  match high with
  | none => .seq (copies p low) (.many p)
  | some high => .seq (copies p low) (upTo p (high - low))

/-- The length of the program of a pattern. -/
def size : Tree → Nat
  | .empty => 0
  | .set _ => 1
  | .assert _ => 1
  | .seq a b => a.size + b.size
  | .alt a b => a.size + b.size + 2
  | .many p => p.size + 2

end Tree

/-- One instruction; addresses are absolute. -/
inductive Instr where
  | take (s : CharSet)
  | test (a : Assertion)
  | fork (a b : Nat)
  | jump (a : Nat)
  | accept

/-- The program of a pattern that is placed at an address. -/
def compile : Tree → (start : Nat) → List Instr
  | .empty, _ => []
  | .set s, _ => [.take s]
  | .assert a, _ => [.test a]
  | .seq a b, start => compile a start ++ compile b (start + a.size)
  | .alt a b, start =>
    let second := start + a.size + 2
    .fork (start + 1) second :: compile a (start + 1) ++
      .jump (second + b.size) :: compile b second
  | .many p, start =>
    .fork (start + 1) (start + p.size + 2) :: compile p (start + 1) ++ [.jump start]

def wordAt (ascii : Bool) : Option Char → Bool
  | none => false
  | some c => if ascii then CharSet.asciiWord.has c.toNat else Text.isWordChar c

/-- Whether an assertion holds between two neighbours. -/
def Assertion.holds (a : Assertion) (before after : Option Char) : Bool :=
  match a with
  | .textStart => before.isNone
  | .textEnd => after.isNone
  | .lineStart => before.isNone || before == some '\n'
  | .lineEnd => after.isNone || after == some '\n'
  | .lineStartCrlf =>
    before.isNone || before == some '\n' || (before == some '\r' && after != some '\n')
  | .lineEndCrlf =>
    after.isNone || after == some '\r' || (after == some '\n' && before != some '\r')
  | .boundary ascii => wordAt ascii before != wordAt ascii after
  | .notBoundary ascii => wordAt ascii before == wordAt ascii after
  | .wordStart ascii => !wordAt ascii before && wordAt ascii after
  | .wordEnd ascii => wordAt ascii before && !wordAt ascii after
  | .halfStart ascii => !wordAt ascii before
  | .halfEnd ascii => !wordAt ascii after

/-- Marks every address that the pending ones lead to without taking a character. -/
def reach (program : Array Instr) (before after : Option Char) :
    (fuel : Nat) → (pending : List Nat) → (seen : Array Bool) → Array Bool
  | 0, _, seen => seen
  | _ + 1, [], seen => seen
  | fuel + 1, pc :: pending, seen =>
    if seen[pc]?.getD true then reach program before after fuel pending seen
    else
      let seen := seen.setIfInBounds pc true
      let pending := match program[pc]? with
        | some (.fork a b) => a :: b :: pending
        | some (.jump a) => a :: pending
        | some (.test a) => if a.holds before after then (pc + 1) :: pending else pending
        | _ => pending
      reach program before after fuel pending seen

def accepted (program : Array Instr) (seen : Array Bool) : Bool :=
  (List.range program.size).any fun pc =>
    seen[pc]?.getD false && (match program[pc]? with
      | some Instr.accept => true
      | _ => false)

/-- The addresses after those that take a character. -/
def advance (program : Array Instr) (seen : Array Bool) (c : Char) : List Nat :=
  (List.range program.size).filterMap fun pc =>
    if seen[pc]?.getD false then
      match program[pc]? with
      | some (Instr.take s) => if s.has c.toNat then some (pc + 1) else none
      | _ => none
    else none

/-- Runs the program over the rest of a text; a new thread starts at every position. -/
def search (program : Array Instr) (before : Option Char) (pending : List Nat) :
    List Char → Bool
  | [] =>
    let fuel := 4 * program.size + 8
    let seen := reach program before none fuel (pending ++ [0])
      (Array.replicate program.size false)
    accepted program seen
  | c :: rest =>
    let fuel := 4 * program.size + 8
    let seen := reach program before (some c) fuel (pending ++ [0])
      (Array.replicate program.size false)
    accepted program seen || search program (some c) (advance program seen c) rest

/-- Whether a text holds a match of the pattern. -/
def Tree.isIn (p : Tree) (text : String) : Bool :=
  search (compile p 0 ++ [Instr.accept]).toArray none [] text.toList

end Playbook.Pattern
