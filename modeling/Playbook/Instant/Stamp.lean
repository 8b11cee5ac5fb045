import Playbook.Instant.Basic

/-!
Texts of instants after RFC 3339. Reading takes a date, a separator (`T`, `t` or a blank), a time
whose second may be 60, a fraction of which nine digits count, and an offset; it tells which of
four things is wrong. Writing has a form for data, in seconds, and one for messages.
-/
namespace Playbook.Instant

/-- What is wrong with the text of an instant. -/
inductive StampError where
  | tooShort | invalid | outOfRange | trailing
  deriving DecidableEq, Repr

def StampError.message : StampError → String
  | .tooShort => "premature end of input"
  | .invalid => "input contains invalid characters"
  | .outOfRange => "input is out of range"
  | .trailing => "trailing input"

def readDigit : List Char → Except StampError (Nat × List Char)
  | [] => .error .tooShort
  | c :: rest => if c.isDigit then .ok (c.toNat - '0'.toNat, rest) else .error .invalid

/-- Exactly `n` digits. -/
def readDigits : (n : Nat) → (value : Nat) → List Char → Except StampError (Nat × List Char)
  | 0, value, cs => .ok (value, cs)
  | n + 1, value, cs => do
    let (d, cs) ← readDigit cs
    readDigits n (value * 10 + d) cs

def readOne (allowed : List Char) : List Char → Except StampError (Unit × List Char)
  | [] => .error .tooShort
  | c :: rest => if allowed.contains c then .ok ((), rest) else .error .invalid

/-- The fraction after its point, in nanoseconds; digits after the ninth do not count. -/
def readFraction (cs : List Char) : Except StampError (Nat × List Char) :=
  match cs with
  | [] => .error .tooShort
  | _ =>
    let digits := cs.takeWhile Char.isDigit
    if digits.isEmpty then .error .invalid
    else
      let kept := digits.take 9
      let value := kept.foldl (fun n c => n * 10 + (c.toNat - '0'.toNat)) 0
      .ok (value * Nat.pow 10 (9 - kept.length), cs.dropWhile Char.isDigit)

/-- The offset from UTC in seconds: a zulu mark, or a sign, hours, a colon and minutes. -/
def readOffset : List Char → Except StampError (Int × List Char)
  | [] => .error .tooShort
  | c :: rest =>
    if c = 'Z' ∨ c = 'z' then .ok (0, rest)
    else if c = '+' ∨ c = '-' ∨ c = '−' then do
      let size (cs : List Char) : Nat := (String.ofList (cs.take 2)).utf8ByteSize
      if size rest < 2 then .error .tooShort
      let (hours, rest) ← readDigits 2 0 rest
      let (_, rest) ← readOne [':'] rest
      if size rest < 2 then .error .tooShort
      let (tens, rest) ← readDigit rest
      let (units, rest) ← readDigit rest
      if 6 ≤ tens then .error .outOfRange
      let seconds : Int := hours * 3600 + (tens * 10 + units) * 60
      .ok (if c = '+' then seconds else -seconds, rest)
    else .error .invalid

/-- Reads the text of an instant. -/
def parse (s : String) : Except StampError Instant := do
  if s.utf8ByteSize < 19 then .error .tooShort
  let (year, cs) ← readDigits 4 0 s.toList
  let (_, cs) ← readOne ['-'] cs
  let (month, cs) ← readDigits 2 0 cs
  let (_, cs) ← readOne ['-'] cs
  let (day, cs) ← readDigits 2 0 cs
  let date : Date := ⟨year, month, day⟩
  if !date.isValid then .error .outOfRange
  let (_, cs) ← readOne ['T', 't', ' '] cs
  let (hour, cs) ← readDigits 2 0 cs
  let (_, cs) ← readOne [':'] cs
  let (minute, cs) ← readDigits 2 0 cs
  let (_, cs) ← readOne [':'] cs
  let (second, cs) ← readDigits 2 0 cs
  let (nanos, cs) ← match cs with
    | '.' :: rest => readFraction rest
    | _ => .ok (0, cs)
  let (second, nanos) := if second = 60 then (59, nanos + 1000000000) else (second, nanos)
  if 24 ≤ hour ∨ 60 ≤ minute ∨ 60 ≤ second then .error .outOfRange
  let (offset, cs) ← readOffset cs
  if !cs.isEmpty then .error .trailing
  if offset ≤ -secondsPerDay ∨ secondsPerDay ≤ offset then .error .outOfRange
  let t := ofDate date ⟨hour, minute, second⟩ nanos
  .ok { t with seconds := t.seconds - offset }

def parse? (s : String) : Option Instant := (parse s).toOption

/-- A number with at least `width` digits. -/
def padded (width n : Nat) : String :=
  let digits := Nat.toDigits 10 n
  String.ofList (List.replicate (width - digits.length) '0' ++ digits)

/-- Four digits, or a sign and at least four digits outside the years 0 to 9999. -/
def yearText (year : Int) : String :=
  if 0 ≤ year ∧ year ≤ 9999 then padded 4 year.toNat
  else (if year < 0 then "-" else "+") ++ padded 4 year.natAbs

def dateText (d : Date) : String :=
  yearText d.year ++ "-" ++ padded 2 d.month ++ "-" ++ padded 2 d.day

/-- The time of day in seconds; a leap second is the second after the 59th. -/
def clockText (t : Instant) : String :=
  let c := t.clock
  let second := if t.nanos < 1000000000 then c.second else c.second + 1
  padded 2 c.hour ++ ":" ++ padded 2 c.minute ++ ":" ++ padded 2 second

/-- The fraction in three, six or nine digits, whichever is exact; none for a whole second. -/
def fractionText (nanos : Nat) : String :=
  let n := nanos % 1000000000
  if n = 0 then ""
  else if n % 1000000 = 0 then "." ++ padded 3 (n / 1000000)
  else if n % 1000 = 0 then "." ++ padded 6 (n / 1000)
  else "." ++ padded 9 n

/-- The form for data: seconds, no fraction, zulu time. -/
def format (t : Instant) : String := dateText t.date ++ "T" ++ clockText t ++ "Z"

/-- The form for data with its fraction. -/
def formatStamp (t : Instant) : String :=
  dateText t.date ++ "T" ++ clockText t ++ fractionText t.nanos ++ "Z"

/-- The form for data with its fraction and a numeric offset. -/
def formatOffset (t : Instant) : String :=
  dateText t.date ++ "T" ++ clockText t ++ fractionText t.nanos ++ "+00:00"

/-- The form for messages. -/
def formatMessage (t : Instant) : String :=
  dateText t.date ++ " " ++ clockText t ++ fractionText t.nanos ++ " UTC"

end Playbook.Instant
