import Playbook.Instant.Stamp
import Playbook.Text.Blank

/-!
Instants in data. They are read more freely than RFC 3339 has it: blanks may stand before each part,
a number may have fewer digits, a year may have a sign and then any number of them, and the offset
may be `UTC` or lack its colon. What is wrong with a text is not told.
-/
namespace Playbook.Instant

/-- Leaves out the blanks at the front. -/
def skipBlanks (cs : List Char) : List Char := cs.dropWhile Text.isBlank

/-- A number at the front, of one digit at least and `width` at most. -/
def numberUpTo? (width : Nat) (cs : List Char) : Option (Nat × List Char) :=
  match (cs.takeWhile Char.isDigit).take width with
  | [] => none
  | digits => some (Nat.ofDigitChars 10 digits 0, cs.drop digits.length)

/-- One or two digits after blanks. -/
def looseTwo? (cs : List Char) : Option (Nat × List Char) := numberUpTo? 2 (skipBlanks cs)

/-- A year of up to four digits, or of any number of them after a sign. -/
def looseYear? (cs : List Char) : Option (Int × List Char) :=
  match skipBlanks cs with
  | '-' :: rest => (numberUpTo? rest.length rest).map fun (n, rest) => (-(n : Int), rest)
  | '+' :: rest => (numberUpTo? rest.length rest).map fun (n, rest) => ((n : Int), rest)
  | cs => (numberUpTo? 4 cs).map fun (n, rest) => ((n : Int), rest)

/-- What follows a mark that stands after blanks. -/
def mark? (mark : Char) (cs : List Char) : Option (List Char) :=
  match skipBlanks cs with
  | c :: rest => if c = mark then some rest else none
  | [] => none

def looseDate? (cs : List Char) : Option (Date × List Char) := do
  let (year, cs) ← looseYear? cs
  let (month, cs) ← looseTwo? (← mark? '-' cs)
  let (day, cs) ← looseTwo? (← mark? '-' cs)
  some (⟨year, month, day⟩, cs)

/-- A time, in which the second may be 60, and its fraction in nanoseconds. -/
def looseTime? (cs : List Char) : Option (Clock × Nat × List Char) := do
  let (hour, cs) ← looseTwo? cs
  let (minute, cs) ← looseTwo? (← mark? ':' cs)
  let (second, cs) ← looseTwo? (← mark? ':' cs)
  let (nanos, cs) ← match cs with
    | '.' :: rest => (readFraction rest).toOption
    | _ => some (0, cs)
  some (⟨hour, minute, second⟩, nanos, cs)

/-- The offset from UTC in seconds. -/
def looseOffset? (cs : List Char) : Option (Int × List Char) :=
  let cs := skipBlanks cs
  if (cs.take 3).map Char.toUpper = ['U', 'T', 'C'] then some (0, cs.drop 3)
  else match cs with
    | c :: rest =>
      if c = 'Z' ∨ c = 'z' then some (0, rest)
      else if c = '+' ∨ c = '-' ∨ c = '−' then do
        let (hours, rest) ← (readDigits 2 0 rest).toOption
        let rest := rest.dropWhile fun c => c = ':' || Text.isBlank c
        let (minutes, rest) ← (readDigits 2 0 rest).toOption
        if 60 ≤ minutes then none
        else
          let seconds : Int := hours * 3600 + minutes * 60
          some (if c = '+' then seconds else -seconds, rest)
      else none
    | [] => none

/-- The first and the last year of the calendar. -/
def minYear : Int := -262143
def maxYear : Int := 262142

/-- The instant of a date and a time at an offset; a second of 60 is a leap second. -/
def ofParts? (date : Date) (c : Clock) (nanos : Nat) (offset : Int) : Option Instant :=
  let (c, nanos) := if c.second = 60 then ({ c with second := 59 }, nanos + 1000000000) else (c, nanos)
  if date.isValid && minYear ≤ date.year && date.year ≤ maxYear && c.hour < 24 && c.minute < 60 &&
      c.second < 60 && -secondsPerDay < offset && offset < secondsPerDay then
    let t := ofDate date c nanos
    let t := { t with seconds := t.seconds - offset }
    if t.inRange then some t else none
  else none

/-- Reads the text of an instant in data. -/
def parseLoose? (s : String) : Option Instant := do
  let (date, cs) ← looseDate? s.toList
  let cs ← match cs with
    | c :: rest => if c = 'T' ∨ c = 't' ∨ c = ' ' then some rest else none
    | [] => none
  let (clock, nanos, cs) ← looseTime? cs
  let (offset, cs) ← looseOffset? cs
  if (skipBlanks cs).isEmpty then ofParts? date clock nanos offset else none

end Playbook.Instant
