import Playbook.Json.Value

/-!
Values of TOML, and how a document makes its tables out of pairs and headers. A table remembers how
it came about, because that decides what may still be added to it: `Table.add` follows a key with
points, `Table.within` the header of a table.
-/
namespace Playbook.Toml

/-- How a table came about. -/
inductive TableForm where
  /-- written in one piece between braces -/
  | closed
  /-- so far only on the way to a header -/
  | implied
  /-- under a header of its own -/
  | headed
  /-- by a key with points -/
  | dotted
  deriving DecidableEq, Repr

inductive Value where
  | text (s : String)
  | int (n : Int)
  | float (x : Float)
  | bool (b : Bool)
  /-- a date, a time or both, as it is written -/
  | time (text : String)
  | array (items : List Value)
  | table (form : TableForm) (entries : List (String × Value))
  /-- tables under headers of one name, the latest first -/
  | tables (latest : List (String × Value)) (earlier : List (List (String × Value)))
  deriving Inhabited

/-- The entries of a table in ascending order of key. -/
abbrev Table := List (String × Value)

namespace Table

/-- Adds a value under a key whose points lead through `parents`. A table on the way is made by such
keys; one that waits for its header, or the latest of several tables, may be passed through but gets
no value of its own. -/
def add (name : String) (value : Value) : (parents : List String) → Table → Option Table
  | [], t => if Keyed.contains name t then none else some (Keyed.put name value t)
  | p :: rest, t =>
    match Keyed.get? p t with
    | none => do some (Keyed.put p (.table .dotted (← add name value rest [])) t)
    | some (.table .dotted inner) => do
      some (Keyed.put p (.table .dotted (← add name value rest inner)) t)
    | some (.table .implied inner) =>
      if rest.isEmpty then none
      else do some (Keyed.put p (.table .implied (← add name value rest inner)) t)
    | some (.tables latest earlier) =>
      if rest.isEmpty then none
      else do some (Keyed.put p (.tables (← add name value rest latest) earlier) t)
    | some _ => none

/-- Changes the table to which a path of names leads; of several tables the latest is meant. -/
def within (change : Table → Option Table) : (path : List String) → Table → Option Table
  | [], t => change t
  | p :: rest, t =>
    match Keyed.get? p t with
    | none => do some (Keyed.put p (.table .implied (← within change rest [])) t)
    | some (.table form inner) =>
      if form = .closed then none
      else do some (Keyed.put p (.table form (← within change rest inner)) t)
    | some (.tables latest earlier) => do
      some (Keyed.put p (.tables (← within change rest latest) earlier) t)
    | some _ => none

/-- Makes room for the table of a header, which nothing but a longer header may have named before. -/
def head (name : String) (t : Table) : Option Table :=
  match Keyed.get? name t with
  | none => some (Keyed.put name (.table .headed []) t)
  | some (.table .implied inner) => some (Keyed.put name (.table .headed inner) t)
  | some _ => none

/-- Begins one more table under a header of a list of tables. -/
def headNext (name : String) (t : Table) : Option Table :=
  match Keyed.get? name t with
  | none => some (Keyed.put name (.tables [] []) t)
  | some (.tables latest earlier) => some (Keyed.put name (.tables [] (latest :: earlier)) t)
  | some _ => none

end Table

namespace Value

mutual

/-- The value of the data format that says the same; a time becomes an object with one nameless
entry. -/
def toJson : Value → Json.Value
  | .text s => .text s
  | .int n => .int n
  | .float x => .float x
  | .bool b => .bool b
  | .time s => .object [("", .text s)]
  | .array items => .list (itemsToJson items)
  | .table _ entries => .object (entriesToJson entries)
  | .tables latest earlier => .list (tablesToJson earlier [.object (entriesToJson latest)])

def itemsToJson : List Value → List Json.Value
  | [] => []
  | v :: rest => v.toJson :: itemsToJson rest

def entriesToJson : List (String × Value) → List (String × Json.Value)
  | [] => []
  | (k, v) :: rest => (k, v.toJson) :: entriesToJson rest

/-- Puts tables that stand latest first before later ones. -/
def tablesToJson : List (List (String × Value)) → List Json.Value → List Json.Value
  | [], later => later
  | entries :: rest, later => tablesToJson rest (.object (entriesToJson entries) :: later)

end

end Value
end Playbook.Toml
