import Playbook.Text.Blank

/-!
Fields of a cron schedule. A field is a list of parts between commas; a part is a set of ordinals
(all, a range, a point), which a step may thin out. Each unit knows its bounds and the names of its
ordinals.
-/
namespace Playbook.Cron

/-- The seven units that a schedule restricts, in the order of its fields. -/
inductive Slot where
  | second | minute | hour | dayOfMonth | month | dayOfWeek | year
  deriving DecidableEq, Repr

namespace Slot

def least : Slot → Nat
  | .second => 0
  | .minute => 0
  | .hour => 0
  | .dayOfMonth => 1
  | .month => 1
  | .dayOfWeek => 1
  | .year => 1970

def greatest : Slot → Nat
  | .second => 59
  | .minute => 59
  | .hour => 23
  | .dayOfMonth => 31
  | .month => 12
  | .dayOfWeek => 7
  | .year => 2100

def holds (u : Slot) (n : Nat) : Bool := u.least ≤ n && n ≤ u.greatest

/-- The ordinals from `a` to `b`. -/
def interval (a b : Nat) : List Nat := (List.range (b + 1 - a)).map (· + a)

def all (u : Slot) : List Nat := interval u.least u.greatest

def monthNames : List (List String) :=
  [["jan", "january"], ["feb", "february"], ["mar", "march"], ["apr", "april"], ["may"],
    ["jun", "june"], ["jul", "july"], ["aug", "august"], ["sep", "september"],
    ["oct", "october"], ["nov", "november"], ["dec", "december"]]

def weekdayNames : List (List String) :=
  [["sun", "sunday"], ["mon", "monday"], ["tue", "tues", "tuesday"], ["wed", "wednesday"],
    ["thu", "thurs", "thursday"], ["fri", "friday"], ["sat", "saturday"]]

/-- The ordinal of a name in lower case; months and weekdays count from 1. -/
def ofName? (u : Slot) (name : String) : Option Nat :=
  match u with
  | .month => (monthNames.findIdx? (·.contains name)).map (· + 1)
  | .dayOfWeek => (weekdayNames.findIdx? (·.contains name)).map (· + 1)
  | _ => none

end Slot

/-- A set of ordinals as it is written. -/
inductive Base where
  | all
  | point (n : Nat)
  | range (a b : Nat)
  deriving DecidableEq, Repr

/-- A base, every `n`-th of a base, or a named ordinal. -/
inductive Part where
  | plain (b : Base)
  | stepped (b : Base) (n : Nat)
  deriving DecidableEq, Repr

/-- The ordinals of a base; none when it leaves the unit's bounds or runs backwards. -/
def Base.ordinals? (u : Slot) : Base → Option (List Nat)
  | .all => some u.all
  | .point n => if u.holds n then some [n] else none
  | .range a b => if u.holds a && u.holds b && a ≤ b then some (Slot.interval a b) else none

/-- Every `n`-th element, the first included. -/
def everyNth (n : Nat) (xs : List Nat) : List Nat :=
  (xs.zipIdx.filter (fun e => e.2 % n == 0)).map Prod.fst

/-- The ordinals of a part. A point with a step starts a range up to the unit's greatest ordinal. -/
def Part.ordinals? (u : Slot) : Part → Option (List Nat)
  | .plain b => b.ordinals? u
  | .stepped b n =>
    if n = 0 then none
    else match b with
      | .point a => (Base.range a u.greatest).ordinals? u |>.map (everyNth n)
      | b => (b.ordinals? u).map (everyNth n)

/-- The ordinals of a field in ascending order. -/
def ordinals? (u : Slot) (parts : List Part) : Option (List Nat) := do
  let sets ← parts.mapM (Part.ordinals? u)
  some (u.all.filter fun n => sets.any (·.contains n))

def isGap (c : Char) : Bool := c = ' ' || c = '\t' || c = '\r' || c = '\n'

def skipGap (cs : List Char) : List Char := cs.dropWhile isGap

/-- Ordinals are read up to 32 bits; blanks may stand around them. -/
def readOrdinal? (cs : List Char) : Option (Nat × List Char) :=
  let cs := skipGap cs
  match cs.takeWhile Char.isDigit with
  | [] => none
  | ds =>
    let n := ds.foldl (fun n c => n * 10 + (c.toNat - '0'.toNat)) 0
    if n < Nat.pow 2 32 then some (n, skipGap (cs.dropWhile Char.isDigit)) else none

/-- Blanks may stand around a name. -/
def readName? (u : Slot) (cs : List Char) : Option (Nat × List Char) :=
  let cs := skipGap cs
  match cs.takeWhile Char.isAlpha with
  | [] => none
  | name =>
    (u.ofName? (Text.asciiLower (String.ofList name))).map fun n =>
      (n, skipGap (cs.dropWhile Char.isAlpha))

/-- A base in figures or a range of names; `any` admits the question mark of the day fields. -/
def readBase? (u : Slot) (any : Bool) (cs : List Char) : Option (Base × List Char) :=
  match cs with
  | '*' :: rest => some (.all, rest)
  | '?' :: rest => if any then some (.all, rest) else none
  | _ =>
    match readOrdinal? cs with
    | some (a, '-' :: rest) =>
      match readOrdinal? rest with
      | some (b, rest) => some (.range a b, rest)
      | none => some (.point a, '-' :: rest)
    | some (a, rest) => some (.point a, rest)
    | none =>
      match readName? u cs with
      | some (a, '-' :: rest) =>
        match readName? u rest with
        | some (b, rest) => some (.range a b, rest)
        | none => none
      | _ => none

/-- One part; a single name takes no step. -/
def readPart? (u : Slot) (any : Bool) (cs : List Char) : Option (Part × List Char) :=
  match readBase? u any cs with
  | some (b, '/' :: rest) =>
    match readOrdinal? rest with
    | some (n, rest) => some (.stepped b n, rest)
    | none => some (.plain b, '/' :: rest)
  | some (b, rest) => some (.plain b, rest)
  | none => (readName? u cs).map fun (n, rest) => (.plain (.point n), rest)

/-- Parts between commas; a comma that no part follows is left. -/
def readParts (u : Slot) (any : Bool) :
    (fuel : Nat) → List Char → (acc : List Part) → List Part × List Char
  | fuel + 1, ',' :: rest, acc =>
    match readPart? u any rest with
    | some (p, rest) => readParts u any fuel rest (p :: acc)
    | none => (acc.reverse, ',' :: rest)
  | _, cs, acc => (acc.reverse, cs)

/-- A field and the blanks around it. -/
def readField? (u : Slot) (cs : List Char) : Option (List Nat × List Char) := do
  let any := u = .dayOfMonth || u = .dayOfWeek
  let (first, rest) ← readPart? u any (skipGap cs)
  let (parts, rest) := readParts u any rest.length rest [first]
  let ordinals ← ordinals? u parts
  some (ordinals, skipGap rest)

end Playbook.Cron
