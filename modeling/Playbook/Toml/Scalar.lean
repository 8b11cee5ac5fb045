import Playbook.Decimal.Literal
import Playbook.Instant.Calendar
import Playbook.Json.Reader
import Playbook.Text.Blank
import Playbook.Toml.Value

/-!
Texts, numbers, truth values and times of TOML. Every reader takes what it reads from the front and
gives the rest; what is wrong with a text is not told.
-/
namespace Playbook.Toml

/-- The characters that comments and texts of one line may hold: no control characters except tabs. -/
def isPrintable (c : Char) : Bool := c = '\t' || (32 ≤ c.toNat && c.toNat ≠ 127)

def isBlank (c : Char) : Bool := c = ' ' || c = '\t'

def skipBlanks (cs : List Char) : List Char := cs.dropWhile isBlank

/-- What follows the end of a line. -/
def afterLine? : List Char → Option (List Char)
  | '\n' :: rest => some rest
  | '\r' :: '\n' :: rest => some rest
  | _ => none

/-! ### Texts -/

/-- The character that so many hexadecimal digits name. -/
def codePoint? (digits : Nat) (cs : List Char) : Option (Char × List Char) := do
  let values ← (cs.take digits).mapM Json.hexValue?
  let n := values.foldl (fun n d => n * 16 + d) 0
  if values.length = digits && decide (n.isValidChar) then some (Char.ofNat n, cs.drop digits) else none

/-- The character that is written after a backslash. -/
def escape? : List Char → Option (Char × List Char)
  | 'b' :: rest => some (Char.ofNat 8, rest)
  | 't' :: rest => some ('\t', rest)
  | 'n' :: rest => some ('\n', rest)
  | 'f' :: rest => some (Char.ofNat 12, rest)
  | 'r' :: rest => some ('\r', rest)
  | '"' :: rest => some ('"', rest)
  | '\\' :: rest => some ('\\', rest)
  | 'u' :: rest => codePoint? 4 rest
  | 'U' :: rest => codePoint? 8 rest
  | _ => none

/-- Leaves out blanks and line ends. -/
def skipBlankLines : List Char → List Char
  | '\r' :: '\n' :: rest => skipBlankLines rest
  | c :: rest => if isBlank c || c = '\n' then skipBlankLines rest else c :: rest
  | [] => []

/-- What follows a line end that a backslash hides, with the blanks around it. -/
def afterHidden? (cs : List Char) : Option (List Char) := do
  some (skipBlankLines (← afterLine? (skipBlanks cs)))

/-- The rest of a quoted text. One of several lines ends with three quotes, before which two more may
stand as its own; escapes are read between double quotes only. -/
def readText? (quote : Char) (manyLines : Bool) :
    (fuel : Nat) → List Char → (acc : List Char) → Option (String × List Char)
  | 0, _, _ => none
  | _ + 1, [], _ => none
  | fuel + 1, c :: rest, acc =>
    if c = quote then
      if manyLines then
        let quotes := min 5 (c :: rest |>.takeWhile (· = quote)).length
        if quotes < 3 then readText? quote manyLines fuel rest (c :: acc)
        else
          let own := List.replicate (quotes - 3) quote
          some (String.ofList (own ++ acc).reverse, (c :: rest).drop quotes)
      else some (String.ofList acc.reverse, rest)
    else if c = '\\' && quote = '"' then
      match if manyLines then afterHidden? rest else none with
      | some rest => readText? quote manyLines fuel rest acc
      | none => do
        let (x, rest) ← escape? rest
        readText? quote manyLines fuel rest (x :: acc)
    else if isPrintable c then readText? quote manyLines fuel rest (c :: acc)
    else if manyLines then do
      readText? quote manyLines fuel (← afterLine? (c :: rest)) ('\n' :: acc)
    else none

/-- A quoted text on one line, as keys may be. -/
def lineText? : List Char → Option (String × List Char)
  | c :: rest =>
    if c = '"' || c = '\'' then readText? c false (rest.length + 1) rest [] else none
  | [] => none

/-- A quoted text; a line end right after three opening quotes does not belong to it. -/
def text? (cs : List Char) : Option (String × List Char) :=
  match cs with
  | c :: d :: e :: rest =>
    if c = d && d = e && (c = '"' || c = '\'') then
      let body := (afterLine? rest).getD rest
      readText? c true (body.length + 1) body []
    else lineText? cs
  | cs => lineText? cs

/-! ### Numbers -/

/-- Digits at the front, at least one; a low line may stand between two of them. -/
def digits? (isDigit : Char → Bool) (cs : List Char) : Option (List Char × List Char) :=
  let (run, rest) := cs.span fun c => isDigit c || c = '_'
  let groups := Text.splitOn '_' run
  if groups.any List.isEmpty then none else some (groups.flatten, rest)

/-- Digits of a whole number, which begin with a zero only if that is all. -/
def wholeDigits? (cs : List Char) : Option (List Char × List Char) := do
  let (ds, rest) ← digits? Char.isDigit cs
  if ds.head? = some '0' && ds.length != 1 then none else some (ds, rest)

def radixDigits? (radix : Nat) (cs : List Char) : Option (Value × List Char) := do
  let (ds, rest) ← digits? (fun c => (Json.hexValue? c).any (· < radix)) cs
  let n := (ds.filterMap Json.hexValue?).foldl (fun n d => n * radix + d) 0
  if n < Nat.pow 2 63 then some (.int n, rest) else none

/-- A whole number that fits 64 bits. -/
def wholeNumber? (negative : Bool) (ds : List Char) : Option Value :=
  let n := Decimal.ofDigits ds
  if negative then (if n ≤ Nat.pow 2 63 then some (.int (-(n : Int))) else none)
  else if n < Nat.pow 2 63 then some (.int n) else none

/-- A float that is not too large; too far below zero is no fault. -/
def decimal? (negative : Bool) (literal : List Char) : Option Value := do
  let x ← Decimal.readFloat? literal
  if negative then some (.float (-x))
  else if x.isInf then none else some (.float x)

/-- An exponent at the front, as it is written in a literal. -/
def power? : List Char → Option (List Char × List Char)
  | c :: rest =>
    if c = 'e' || c = 'E' then do
      let (sign, rest) := match rest with
        | '-' :: rest => (['-'], rest)
        | '+' :: rest => ([], rest)
        | rest => ([], rest)
      let (ds, rest) ← digits? Char.isDigit rest
      some ('e' :: sign ++ ds, rest)
    else some ([], c :: rest)
  | [] => some ([], [])

/-- A number after its sign. -/
def unsigned? (negative : Bool) : List Char → Option (Value × List Char)
  | 'i' :: 'n' :: 'f' :: rest =>
    let x : Float := 1.0 / 0.0
    some (.float (if negative then -x else x), rest)
  | 'n' :: 'a' :: 'n' :: rest => some (.float (0.0 / 0.0), rest)
  | cs => do
    let (whole, rest) ← wholeDigits? cs
    match rest with
    | '.' :: rest => do
      let (fraction, rest) ← digits? Char.isDigit rest
      let (power, rest) ← power? rest
      some (← decimal? negative (whole ++ '.' :: fraction ++ power), rest)
    | rest => do
      let (power, rest) ← power? rest
      if power.isEmpty then some (← wholeNumber? negative whole, rest)
      else some (← decimal? negative (whole ++ power), rest)

def number? : List Char → Option (Value × List Char)
  | '0' :: 'x' :: rest => radixDigits? 16 rest
  | '0' :: 'o' :: rest => radixDigits? 8 rest
  | '0' :: 'b' :: rest => radixDigits? 2 rest
  | '-' :: rest => unsigned? true rest
  | '+' :: rest => unsigned? false rest
  | cs => unsigned? false cs

/-! ### Times -/

/-- A number of so many digits, within bounds. -/
def field? (width low high : Nat) (cs : List Char) : Option (Nat × List Char) :=
  let ds := cs.take width
  let n := Decimal.ofDigits ds
  if ds.length = width && ds.all Char.isDigit && low ≤ n && n ≤ high then some (n, cs.drop width)
  else none

def sign? (c : Char) : List Char → Option (List Char)
  | d :: rest => if c = d then some rest else none
  | [] => none

/-- What follows a day of the calendar. -/
def afterDate? (cs : List Char) : Option (List Char) := do
  let (year, cs) ← field? 4 0 9999 cs
  let (month, cs) ← field? 2 1 12 (← sign? '-' cs)
  let (_, cs) ← field? 2 1 (Date.daysInMonth year month) (← sign? '-' cs)
  some cs

/-- What follows a time of the day. -/
def afterClock? (cs : List Char) : Option (List Char) := do
  let (_, cs) ← field? 2 0 23 cs
  let (_, cs) ← field? 2 0 59 (← sign? ':' cs)
  let (_, cs) ← field? 2 0 60 (← sign? ':' cs)
  match cs with
  | '.' :: rest => if (rest.head?.any Char.isDigit) then some (rest.dropWhile Char.isDigit) else none
  | cs => some cs

/-- What follows the offset of a time, if there is one. -/
def afterOffset? : List Char → Option (List Char)
  | [] => some []
  | c :: rest =>
    if c = 'Z' || c = 'z' then some rest
    else if c = '+' || c = '-' then do
      let (_, cs) ← field? 2 0 23 rest
      let (_, cs) ← field? 2 0 59 (← sign? ':' cs)
      some cs
    else some (c :: rest)

/-- What follows a date, a time of the day, or both. -/
def afterTime? (cs : List Char) : Option (List Char) :=
  match afterDate? cs with
  | none => afterClock? cs
  | some rest =>
    let clock := match rest with
      | c :: after => if c = 'T' || c = 't' || c = ' ' then afterClock? after else none
      | [] => none
    match clock with
    | none => some rest
    | some rest => afterOffset? rest

def time? (cs : List Char) : Option (Value × List Char) := do
  let rest ← afterTime? cs
  some (.time (String.ofList (cs.take (cs.length - rest.length))), rest)

/-- A value that has no parts. -/
def scalar? (cs : List Char) : Option (Value × List Char) :=
  match cs with
  | 't' :: 'r' :: 'u' :: 'e' :: rest => some (.bool true, rest)
  | 'f' :: 'a' :: 'l' :: 's' :: 'e' :: rest => some (.bool false, rest)
  | '"' :: _ | '\'' :: _ => (text? cs).map fun (s, rest) => (.text s, rest)
  | cs => (time? cs).orElse fun _ => number? cs

end Playbook.Toml
