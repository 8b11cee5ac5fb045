import Playbook.Text.Blank
import Playbook.Text.LetterCase

/-!
Sets of characters as text patterns write them: ranges, the classes of digits, blanks and word
characters, and what is built from sets by joining, cutting and complementing. Closing a set under
case adds every character that differs from a member by case alone.
-/
namespace Playbook.Pattern

inductive CharSet where
  | none
  | range (low high : Nat)
  | digit
  | blank
  | word
  | union (a b : CharSet)
  | inter (a b : CharSet)
  | diff (a b : CharSet)
  | complement (a : CharSet)
  | anyCase (a : CharSet)
  deriving Inhabited

namespace CharSet

def has : CharSet → Nat → Bool
  | .none, _ => false
  | .range low high, n => low ≤ n && n ≤ high
  | .digit, n => Text.isDecimalDigit (Char.ofNat n)
  | .blank, n => Text.isBlank (Char.ofNat n)
  | .word, n => Text.isWordChar (Char.ofNat n)
  | .union a b, n => a.has n || b.has n
  | .inter a b, n => a.has n && b.has n
  | .diff a b, n => a.has n && !b.has n
  | .complement a, n => !a.has n
  | .anyCase a, n => a.has n || (Text.LetterCase.variants n).any a.has

def char (c : Char) : CharSet := .range c.toNat c.toNat

/-- The union of several ranges. -/
def ranges (rs : List (Nat × Nat)) : CharSet :=
  rs.foldr (fun r s => .union (.range r.1 r.2) s) .none

def symmetric (a b : CharSet) : CharSet := .union (.diff a b) (.diff b a)

def asciiDigit : CharSet := .range 0x30 0x39
def asciiBlank : CharSet := ranges [(0x9, 0xd), (0x20, 0x20)]
def asciiWord : CharSet := ranges [(0x30, 0x39), (0x41, 0x5a), (0x5f, 0x5f), (0x61, 0x7a)]

/-- The ASCII classes that stand between `[:` and `:]`. -/
def named? : String → Option CharSet
  | "alnum" => some (ranges [(0x30, 0x39), (0x41, 0x5a), (0x61, 0x7a)])
  | "alpha" => some (ranges [(0x41, 0x5a), (0x61, 0x7a)])
  | "ascii" => some (.range 0 0x7f)
  | "blank" => some (ranges [(0x9, 0x9), (0x20, 0x20)])
  | "cntrl" => some (ranges [(0, 0x1f), (0x7f, 0x7f)])
  | "digit" => some asciiDigit
  | "graph" => some (.range 0x21 0x7e)
  | "lower" => some (.range 0x61 0x7a)
  | "print" => some (.range 0x20 0x7e)
  | "punct" => some (ranges [(0x21, 0x2f), (0x3a, 0x40), (0x5b, 0x60), (0x7b, 0x7e)])
  | "space" => some asciiBlank
  | "upper" => some (.range 0x41 0x5a)
  | "word" => some asciiWord
  | "xdigit" => some (ranges [(0x30, 0x39), (0x41, 0x46), (0x61, 0x66)])
  | _ => Option.none

/-- A name without what does not count in it: case, blanks, hyphens and low lines, letters outside
ASCII, and `is` at the start. -/
def looseName (name : String) : String :=
  let cs := (Text.asciiLower name).toList
  let cs := match cs with
    | 'i' :: 's' :: rest => rest
    | cs => cs
  String.ofList (cs.filter fun c => c ≠ '_' && c ≠ '-' && c ≠ ' ' && c.toNat < 0x80)

/-- Letters in circles and squares, which are alphabetic but count as symbols. -/
def enclosedLetters : List (Nat × Nat) :=
  [(0x24b6, 0x24e9), (0x1f130, 0x1f149), (0x1f150, 0x1f169), (0x1f170, 0x1f189)]

/-- The properties that can be asked for by name. -/
def property? (name : String) : Option CharSet :=
  let key := looseName name
  let table (t : List (Nat × Nat)) (ascii : List (Nat × Nat)) : CharSet := ranges (ascii ++ t)
  match key with
  | "any" => some (.range 0 0x10ffff)
  | "ascii" => some (.range 0 0x7f)
  | "alphabetic" | "alpha" =>
    some (table Text.Property.alphabetic [(0x41, 0x5a), (0x61, 0x7a)])
  | "n" | "number" => some (table Text.Property.numeric [(0x30, 0x39)])
  | "nd" | "decimalnumber" | "digit" => some .digit
  | "m" | "mark" | "combiningmark" => some (table Text.Property.mark [])
  | "pc" | "connectorpunctuation" => some (table Text.Property.connector [(0x5f, 0x5f)])
  | "whitespace" | "wspace" | "space" => some .blank
  | "l" | "letter" =>
    some (.diff (.diff (.diff (table Text.Property.alphabetic [(0x41, 0x5a), (0x61, 0x7a)])
      (table Text.Property.mark [])) (table Text.Property.numeric [])) (ranges enclosedLetters))
  | "uppercase" | "upper" | "lu" | "uppercaseletter" =>
    some (ranges ((0x41, 0x5a) :: Text.LetterCase.lowerRuns.flatMap
      fun r => (List.range ((r.last - r.first) / r.step + 1)).map
        fun i => (r.first + i * r.step, r.first + i * r.step)))
  | "lowercase" | "lower" | "ll" | "lowercaseletter" =>
    some (ranges ((0x61, 0x7a) :: (0xdf, 0xdf) :: Text.LetterCase.upperRuns.flatMap
      fun r => (List.range ((r.last - r.first) / r.step + 1)).map
        fun i => (r.first + i * r.step, r.first + i * r.step)))
  | _ => Option.none

end CharSet
end Playbook.Pattern
