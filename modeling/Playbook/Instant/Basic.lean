import Playbook.Instant.Calendar

/-!
Instants: whole seconds since 1970 and nanoseconds within the second. A leap second is the second
before it with a second of nanoseconds more. Instants are compared by seconds first.
-/
namespace Playbook

structure Instant where
  seconds : Int
  nanos : Nat
  deriving DecidableEq, Repr, Inhabited

namespace Instant

def secondsPerDay : Int := 86400

def ofDate (d : Date) (c : Clock) (nanos : Nat) : Instant :=
  ⟨d.toDays * secondsPerDay + (c.hour * 3600 + c.minute * 60 + c.second : Nat), nanos⟩

def days (t : Instant) : Int := t.seconds / secondsPerDay

def date (t : Instant) : Date := Date.ofDays t.days

def clock (t : Instant) : Clock :=
  let s := (t.seconds % secondsPerDay).toNat
  ⟨s / 3600, s / 60 % 60, s % 60⟩

/-- Earlier, at the same time, or later. -/
def cmp (a b : Instant) : Ordering :=
  (compare a.seconds b.seconds).then (compare a.nanos b.nanos)

def le (a b : Instant) : Bool := a.cmp b != .gt

def lt (a b : Instant) : Bool := a.cmp b == .lt

/-- The first and the last second that an instant can lie in. -/
def minSeconds : Int := (⟨-262143, 1, 1⟩ : Date).toDays * secondsPerDay
def maxSeconds : Int := (⟨262142, 12, 31⟩ : Date).toDays * secondsPerDay + 86399

def inRange (t : Instant) : Bool := minSeconds ≤ t.seconds && t.seconds ≤ maxSeconds

/-- Moves an instant by whole seconds. A leap second that is left becomes an ordinary one: the
second it extends when going forward, the one after it when going back. -/
def addSeconds (t : Instant) (n : Int) : Instant :=
  if t.nanos < 1000000000 ∨ n = 0 then ⟨t.seconds + n, t.nanos⟩
  else if 0 < n then ⟨t.seconds + n, t.nanos - 1000000000⟩
  else ⟨t.seconds + 1 + n, t.nanos - 1000000000⟩

/-- Moves an instant by whole seconds unless it leaves the range. -/
def addSeconds? (t : Instant) (n : Int) : Option Instant :=
  let moved := t.addSeconds n
  if moved.inRange then some moved else none

/-- Moves an instant that is no leap second forward by milliseconds. -/
def addMillis (t : Instant) (ms : Nat) : Instant :=
  let nanos := t.nanos + ms % 1000 * 1000000
  ⟨t.seconds + (ms / 1000 : Nat) + (nanos / 1000000000 : Nat), nanos % 1000000000⟩

/-- The milliseconds from one instant to another. -/
def millisSince (t start : Instant) : Int :=
  (t.seconds - start.seconds) * 1000 + ((t.nanos : Int) - start.nanos) / 1000000

end Instant
end Playbook
