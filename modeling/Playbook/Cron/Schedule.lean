import Playbook.Cron.Field
import Playbook.Instant.Basic

/-!
Cron schedules: six or seven fields, or one of five names. A schedule matches the whole seconds
whose units are all in its fields, the day of the month and the weekday both. The search for the
next occurrence after an instant takes each unit's start from the instant as long as the units
before it stand at their start, and from its least ordinal afterwards; the first year that is
searched counts as the start year.
-/
namespace Playbook.Cron

structure Schedule where
  seconds : List Nat
  minutes : List Nat
  hours : List Nat
  daysOfMonth : List Nat
  months : List Nat
  daysOfWeek : List Nat
  years : List Nat
  deriving DecidableEq, Repr

namespace Schedule

/-- The five schedules that have a name. -/
def named? : String → Option Schedule
  | "@yearly" => some ⟨[0], [0], [0], [1], [1], Slot.all .dayOfWeek, Slot.all .year⟩
  | "@monthly" => some ⟨[0], [0], [0], [1], Slot.all .month, Slot.all .dayOfWeek, Slot.all .year⟩
  | "@weekly" => some ⟨[0], [0], [0], Slot.all .dayOfMonth, Slot.all .month, [1], Slot.all .year⟩
  | "@daily" =>
    some ⟨[0], [0], [0], Slot.all .dayOfMonth, Slot.all .month, Slot.all .dayOfWeek, Slot.all .year⟩
  | "@hourly" =>
    some ⟨[0], [0], Slot.all .hour, Slot.all .dayOfMonth, Slot.all .month, Slot.all .dayOfWeek,
      Slot.all .year⟩
  | _ => none

/-- Six fields, a seventh for the years if there is more, and nothing after them. -/
def readFields? (cs : List Char) : Option Schedule := do
  let (seconds, cs) ← readField? .second cs
  let (minutes, cs) ← readField? .minute cs
  let (hours, cs) ← readField? .hour cs
  let (daysOfMonth, cs) ← readField? .dayOfMonth cs
  let (months, cs) ← readField? .month cs
  let (daysOfWeek, cs) ← readField? .dayOfWeek cs
  let (years, cs) := (readField? .year cs).getD (Slot.all .year, cs)
  if cs.isEmpty then some ⟨seconds, minutes, hours, daysOfMonth, months, daysOfWeek, years⟩
  else none

def parse? (s : String) : Option Schedule :=
  (named? s).or (readFields? s.toList)

/-- Whether a whole second matches every field. -/
def admits (s : Schedule) (t : Instant) : Bool :=
  let d := t.date
  let c := t.clock
  s.years.any (fun y => (y : Int) == d.year) && s.months.contains d.month &&
    s.daysOfMonth.contains d.day && s.daysOfWeek.contains (Date.weekday t.days) &&
    s.hours.contains c.hour && s.minutes.contains c.minute && s.seconds.contains c.second

/-- The ordinals that are searched: all of them, or those from a start on. -/
def fromStart (ordinals : List Nat) (start : Option Nat) : List Nat :=
  match start with
  | none => ordinals
  | some a => ordinals.filter (a ≤ ·)

/-- Whether an ordinal still stands at its start. -/
def atStart (start : Option Nat) (n : Nat) : Bool := start == some n

/-- The first time of day, from a start on if one is given. -/
def firstClock (s : Schedule) (start : Option Clock) : Option Clock :=
  (fromStart s.hours (start.map Clock.hour)).findSome? fun hour =>
    let start := if atStart (start.map Clock.hour) hour then start else none
    (fromStart s.minutes (start.map Clock.minute)).findSome? fun minute =>
      let start := if atStart (start.map Clock.minute) minute then start else none
      (fromStart s.seconds (start.map Clock.second)).head?.map fun second =>
        ⟨hour, minute, second⟩

/-- The first occurrence in a month. A start day after the month's last counts as the last. -/
def firstInMonth (s : Schedule) (year month : Nat) (start : Option (Nat × Clock)) :
    Option Instant :=
  let last := Date.daysInMonth year month
  let first := match start with
    | none => 1
    | some (day, _) => min day last
  let days := s.daysOfMonth.filter fun d => first ≤ d && d ≤ last
  days.findSome? fun day =>
    let date : Date := ⟨year, month, day⟩
    if s.daysOfWeek.contains (Date.weekday date.toDays) then
      let clock := match start with
        | some (startDay, clock) =>
          if s.daysOfMonth.contains startDay && day == first then some clock else none
        | none => none
      (s.firstClock clock).map fun c => Instant.ofDate date c 0
    else none

/-- The first occurrence in a year. -/
def firstInYear (s : Schedule) (year : Nat) (start : Option (Date × Clock)) : Option Instant :=
  (fromStart s.months (start.map (·.1.month))).findSome? fun month =>
    let start :=
      if atStart (start.map (·.1.month)) month then start.map fun (d, c) => (d.day, c) else none
    s.firstInMonth year month start

/-- The next occurrence after an instant. -/
def next? (s : Schedule) (after : Instant) : Option Instant :=
  let t := after.addSeconds 1
  let d := t.date
  let start := (d, t.clock)
  if d.year < 0 then none
  else
    match s.years.filter (fun y : Nat => decide (d.year ≤ (y : Int))) with
    | [] => none
    | y :: ys => (s.firstInYear y (some start)).or (ys.findSome? fun y => s.firstInYear y none)

end Schedule
end Playbook.Cron
