import Playbook.Json.Value
import Playbook.Decimal.Style

/-!
The text of a value. The compact form has no blanks; the wide form puts each item on a line of its
own, two blanks deeper than what holds it. Entries are written in the order in which they stand.
-/
namespace Playbook.Json

def hexDigit (n : Nat) : Char :=
  if n < 10 then Char.ofNat ('0'.toNat + n) else Char.ofNat ('a'.toNat + (n - 10))

/-- A quote, a backslash and the characters below a blank are escaped; all others stand for
themselves. -/
def escapeChar (c : Char) : List Char :=
  if c = '"' then ['\\', '"']
  else if c = '\\' then ['\\', '\\']
  else if c = '\n' then ['\\', 'n']
  else if c = '\r' then ['\\', 'r']
  else if c = '\t' then ['\\', 't']
  else if c.toNat = 8 then ['\\', 'b']
  else if c.toNat = 12 then ['\\', 'f']
  else if c.toNat < 32 then
    ['\\', 'u', '0', '0', hexDigit (c.toNat / 16), hexDigit (c.toNat % 16)]
  else [c]

def quote (s : String) : String :=
  String.ofList ('"' :: s.toList.flatMap escapeChar ++ ['"'])

def Number.print : Number → String
  | .int n => toString n
  | .float x => Decimal.Style.data.format x

mutual

/-- The compact text of a value. -/
def Value.print : Value → String
  | .null => "null"
  | .bool true => "true"
  | .bool false => "false"
  | .number n => n.print
  | .text s => quote s
  | .list items => "[" ++ printItems items ++ "]"
  | .object entries => "\x7b" ++ printEntries entries ++ "\x7d"

def printItems : List Value → String
  | [] => ""
  | [v] => v.print
  | v :: rest => v.print ++ "," ++ printItems rest

def printEntries : List (String × Value) → String
  | [] => ""
  | [(k, v)] => quote k ++ ":" ++ v.print
  | (k, v) :: rest => quote k ++ ":" ++ v.print ++ "," ++ printEntries rest

end

def indent (depth : Nat) : String := String.ofList (List.replicate (2 * depth) ' ')

mutual

/-- The wide text of a value that stands `depth` levels deep. -/
def Value.printWide (depth : Nat) : Value → String
  | .list [] => "[]"
  | .list items => "[\n" ++ printWideItems (depth + 1) items ++ "\n" ++ indent depth ++ "]"
  | .object [] => "\x7b\x7d"
  | .object entries =>
    "\x7b\n" ++ printWideEntries (depth + 1) entries ++ "\n" ++ indent depth ++ "\x7d"
  | .null => "null"
  | .bool true => "true"
  | .bool false => "false"
  | .number n => n.print
  | .text s => quote s

def printWideItems (depth : Nat) : List Value → String
  | [] => ""
  | [v] => indent depth ++ v.printWide depth
  | v :: rest => indent depth ++ v.printWide depth ++ ",\n" ++ printWideItems depth rest

def printWideEntries (depth : Nat) : List (String × Value) → String
  | [] => ""
  | [(k, v)] => indent depth ++ quote k ++ ": " ++ v.printWide depth
  | (k, v) :: rest =>
    indent depth ++ quote k ++ ": " ++ v.printWide depth ++ ",\n" ++ printWideEntries depth rest

end

end Playbook.Json
