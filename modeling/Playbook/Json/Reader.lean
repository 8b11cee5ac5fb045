import Playbook.Json.Numeral

/-!
Reading a value from its text. The whole text must be one value between blanks; nesting is bounded;
of two entries with one key the later wins. What is wrong with a text is not told.
-/
namespace Playbook.Json

/-- The deepest nesting that is read. -/
def maxNesting : Nat := 127

def isSpace (c : Char) : Bool := c = ' ' || c = '\n' || c = '\t' || c = '\r'

def skipSpaces (cs : List Char) : List Char := cs.dropWhile isSpace

def hexValue? (c : Char) : Option Nat :=
  if '0' ≤ c ∧ c ≤ '9' then some (c.toNat - '0'.toNat)
  else if 'a' ≤ c ∧ c ≤ 'f' then some (c.toNat - 'a'.toNat + 10)
  else if 'A' ≤ c ∧ c ≤ 'F' then some (c.toNat - 'A'.toNat + 10)
  else none

/-- Four hexadecimal digits. -/
def hexUnit? : List Char → Option (Nat × List Char)
  | a :: b :: c :: d :: rest => do
    let a ← hexValue? a
    let b ← hexValue? b
    let c ← hexValue? c
    let d ← hexValue? d
    some (((a * 16 + b) * 16 + c) * 16 + d, rest)
  | _ => none

/-- The character of a `\u` escape; two units are joined where the first is a leading half, and a
half on its own is refused. -/
def unicodeEscape? (cs : List Char) : Option (Char × List Char) := do
  let (unit, rest) ← hexUnit? cs
  if 0xdc00 ≤ unit ∧ unit ≤ 0xdfff then none
  else if 0xd800 ≤ unit ∧ unit ≤ 0xdbff then
    match rest with
    | '\\' :: 'u' :: rest =>
      let (low, rest) ← hexUnit? rest
      if 0xdc00 ≤ low ∧ low ≤ 0xdfff then
        some (Char.ofNat (0x10000 + (unit - 0xd800) * 0x400 + (low - 0xdc00)), rest)
      else none
    | _ => none
  else some (Char.ofNat unit, rest)

/-- The rest of a quoted text, up to its closing quote. -/
def readText? : (fuel : Nat) → List Char → (acc : List Char) → Option (String × List Char)
  | 0, _, _ => none
  | _ + 1, [], _ => none
  | fuel + 1, c :: rest, acc =>
    if c = '"' then some (String.ofList acc.reverse, rest)
    else if c.toNat < 32 then none
    else if c ≠ '\\' then readText? fuel rest (c :: acc)
    else match rest with
      | '"' :: rest => readText? fuel rest ('"' :: acc)
      | '\\' :: rest => readText? fuel rest ('\\' :: acc)
      | '/' :: rest => readText? fuel rest ('/' :: acc)
      | 'b' :: rest => readText? fuel rest (Char.ofNat 8 :: acc)
      | 'f' :: rest => readText? fuel rest (Char.ofNat 12 :: acc)
      | 'n' :: rest => readText? fuel rest ('\n' :: acc)
      | 'r' :: rest => readText? fuel rest ('\r' :: acc)
      | 't' :: rest => readText? fuel rest ('\t' :: acc)
      | 'u' :: rest =>
        match unicodeEscape? rest with
        | some (c, rest) => readText? fuel rest (c :: acc)
        | none => none
      | _ => none

/-- The digits at the front, at least one. -/
def digits? (cs : List Char) : Option (List Char × List Char) :=
  match cs.takeWhile Char.isDigit with
  | [] => none
  | ds => some (ds, cs.dropWhile Char.isDigit)

/-- A number at the front; no zero may stand before another digit. -/
def readNumber? (cs : List Char) : Option (Number × List Char) := do
  let (negative, cs) := match cs with
    | '-' :: rest => (true, rest)
    | _ => (false, cs)
  let (whole, cs) ← digits? cs
  if whole.length > 1 ∧ whole.head? = some '0' then none
  else
    let (fraction, cs) ← match cs with
      | '.' :: rest => (digits? rest).map fun (ds, rest) => (some ds, rest)
      | _ => some (none, cs)
    let (power, cs) ← match cs with
      | c :: rest =>
        if c = 'e' ∨ c = 'E' then
          let (negative, rest) := match rest with
            | '-' :: rest => (true, rest)
            | '+' :: rest => (false, rest)
            | _ => (false, rest)
          (digits? rest).map fun (ds, rest) => (some (⟨negative, ds⟩ : Numeral.Power), rest)
        else some (none, cs)
      | [] => some (none, cs)
    let number ← Numeral.Parts.number? ⟨negative, whole, fraction, power⟩
    some (number, cs)

mutual

/-- A value at the front; `room` levels of nesting are left. -/
def readValue? (room : Nat) : (fuel : Nat) → List Char → Option (Value × List Char)
  | 0, _ => none
  | fuel + 1, cs =>
    match skipSpaces cs with
    | 'n' :: 'u' :: 'l' :: 'l' :: rest => some (.null, rest)
    | 't' :: 'r' :: 'u' :: 'e' :: rest => some (.bool true, rest)
    | 'f' :: 'a' :: 'l' :: 's' :: 'e' :: rest => some (.bool false, rest)
    | '"' :: rest => (readText? (rest.length + 1) rest []).map fun (s, rest) => (.text s, rest)
    | '[' :: rest =>
      if room = 0 then none
      else match skipSpaces rest with
        | ']' :: rest => some (.list [], rest)
        | _ => readItems? (room - 1) fuel rest []
    | c :: rest =>
      if c = '\x7b' then
        if room = 0 then none
        else match skipSpaces rest with
          | d :: rest' =>
            if d = '\x7d' then some (.object [], rest')
            else readEntries? (room - 1) fuel rest []
          | [] => none
      else (readNumber? (c :: rest)).map fun (n, rest) => (.number n, rest)
    | [] => none

def readItems? (room : Nat) :
    (fuel : Nat) → List Char → (acc : List Value) → Option (Value × List Char)
  | 0, _, _ => none
  | fuel + 1, cs, acc =>
    match readValue? room fuel cs with
    | none => none
    | some (v, rest) =>
      match skipSpaces rest with
      | ',' :: rest => readItems? room fuel rest (v :: acc)
      | ']' :: rest => some (.list (v :: acc).reverse, rest)
      | _ => none

def readEntries? (room : Nat) :
    (fuel : Nat) → List Char → (acc : List (String × Value)) → Option (Value × List Char)
  | 0, _, _ => none
  | fuel + 1, cs, acc =>
    match skipSpaces cs with
    | '"' :: rest =>
      match readText? (rest.length + 1) rest [] with
      | none => none
      | some (key, rest) =>
        match skipSpaces rest with
        | ':' :: rest =>
          match readValue? room fuel rest with
          | none => none
          | some (v, rest) =>
            match skipSpaces rest with
            | ',' :: rest => readEntries? room fuel rest (Keyed.put key v acc)
            | c :: rest =>
              if c = '\x7d' then some (.object (Keyed.put key v acc), rest) else none
            | [] => none
        | _ => none
    | _ => none

end

/-- The value that a text holds, if it holds one. -/
def parse? (s : String) : Option Value :=
  let cs := s.toList
  match readValue? maxNesting (2 * cs.length + 2) cs with
  | some (v, rest) => if (skipSpaces rest).isEmpty then some v else none
  | none => none

end Playbook.Json
