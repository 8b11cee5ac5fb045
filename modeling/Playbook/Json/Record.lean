import Playbook.Json.Value

/-!
Reading records out of values. A record is written as an object, by the names of its fields, or as
a list, by their order. A field that is missing takes its default; a field that is there must have
the right form.
-/
namespace Playbook.Json

/-- The fields of a record that are there. -/
abbrev Record := String → Option Value

/-- The fields of a record with the given field names. Unknown names are passed over; a list may
be short but not longer than the names. -/
def Value.record? (names : List String) : Value → Option Record
  | .object entries => some fun name => Keyed.get? name entries
  | .list items =>
    if items.length ≤ names.length then some fun name => Keyed.get? name (names.zip items) else none
  | _ => none

namespace Record

/-- A field that has a default. -/
def read {α : Type} (r : Record) (name : String) (default : α) (decode? : Value → Option α) :
    Option α :=
  match r name with
  | none => some default
  | some v => decode? v

/-- A field that has none. -/
def required {α : Type} (r : Record) (name : String) (decode? : Value → Option α) : Option α :=
  (r name).bind decode?

end Record

namespace Value

/-- Something that may be null. -/
def nullable? {α : Type} (decode? : Value → Option α) : Value → Option (Option α)
  | .null => some none
  | v => (decode? v).map some

/-- An integer from zero up to a limit. -/
def natUpTo? (limit : Nat) : Value → Option Nat
  | .number (.int (.ofNat n)) => if n ≤ limit then some n else none
  | _ => none

/-- The largest 32-bit count. -/
def maxCount32 : Nat := Nat.pow 2 32 - 1

/-- The largest 64-bit count. -/
def maxCount64 : Nat := Nat.pow 2 64 - 1

def count32? : Value → Option Nat := natUpTo? maxCount32

def count64? : Value → Option Nat := natUpTo? maxCount64

def listOf? {α : Type} (decode? : Value → Option α) : Value → Option (List α)
  | .list items => items.mapM decode?
  | _ => none

def entries? : Value → Option (List (String × Value))
  | .object entries => some entries
  | _ => none

/-- The name of one of several choices: a text, or an object with that one key and null in it. -/
def choice? {α : Type} (ofName? : String → Option α) : Value → Option α
  | .text s => ofName? s
  | .object [(s, .null)] => ofName? s
  | _ => none

/-- A number in single precision. -/
def single? : Value → Option Float32
  | .number (.int (.ofNat n)) => some n.toUInt64.toFloat32
  | .number (.int n) => some (-n.natAbs.toUInt64.toFloat32)
  | .number (.float x) => some x.toFloat32
  | _ => none

/-- A number in single precision, written in double precision; null when it is not finite. -/
def ofSingle (x : Float32) : Value := if x.isFinite then .float x.toFloat else .null

/-- An object whose entries stand in ascending order of key. -/
def table (entries : List (String × Value)) : Value := .object (Keyed.ofList entries)

end Value
end Playbook.Json
