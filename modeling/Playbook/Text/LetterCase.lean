import Playbook.Text.LetterCase.Table
import Playbook.Text.Property

/-!
Upper and lower case of a text. Some characters become two or three; a capital sigma at the end of
a word becomes the final small sigma. Folding sends the characters that differ only by case to one
of them.
-/
namespace Playbook.Text.LetterCase

def mapChar (runs : List Run) (long : List (Nat × List Nat)) (c : Char) : List Char :=
  match long.find? (fun e => e.1 == c.toNat) with
  | some (_, image) => image.map Char.ofNat
  | none => [Char.ofNat (applyRuns runs c.toNat)]

def upperChar (c : Char) : List Char :=
  if c.toNat < 0x80 then [c.toUpper] else mapChar upperRuns upperLong c

def lowerChar (c : Char) : List Char :=
  if c.toNat < 0x80 then [c.toLower] else mapChar lowerRuns lowerLong c

/-- Whether the first character that is not ignorable is cased. -/
def startsCased (cs : List Char) : Bool :=
  match cs.dropWhile (fun c => inRanges ignorable c.toNat) with
  | c :: _ => inRanges cased c.toNat
  | [] => false

/-- The lower case of `rest`, where `before` holds what precedes it, last character first. -/
def lowerFrom (before : List Char) : List Char → List Char
  | [] => []
  | c :: rest =>
    let image :=
      if c.toNat = 0x3a3 then
        [Char.ofNat (if startsCased before && !startsCased rest then 0x3c2 else 0x3c3)]
      else lowerChar c
    image ++ lowerFrom (c :: before) rest

/-- The simple case folding of a code point. -/
def fold (n : Nat) : Nat :=
  if n < 0x80 then (if 0x41 ≤ n && n ≤ 0x5a then n + 32 else n) else applyRuns foldRuns n

/-- All code points with the folding of `n`. -/
def variants (n : Nat) : List Nat :=
  let f := fold n
  f :: preimages foldRuns f

end LetterCase

/-- The text in upper case. -/
def upper (s : String) : String := String.ofList (s.toList.flatMap LetterCase.upperChar)

/-- The text in lower case. -/
def lower (s : String) : String := String.ofList (LetterCase.lowerFrom [] s.toList)

end Playbook.Text
