import Mathlib.Tactic.Common
import Playbook.Cron.Schedule

/-!
Schedules that are read. Each of their fields lists ordinals of its unit, in ascending order and
within the bounds of the unit.
-/
namespace Playbook.Cron

/-- Ordinals of a unit, in ascending order. -/
structure Slot.Lists (u : Slot) (ordinals : List Nat) : Prop where
  ascending : ordinals.Pairwise (· < ·)
  bounds : ∀ n ∈ ordinals, u.least ≤ n ∧ n ≤ u.greatest

theorem Slot.lists_all (u : Slot) : u.Lists u.all where
  ascending := by
    unfold all interval
    exact List.pairwise_map.2 (List.pairwise_lt_range.imp fun less => by omega)
  bounds n mem := by
    unfold all interval at mem
    obtain ⟨k, below, rfl⟩ := List.mem_map.1 mem
    rw [List.mem_range] at below
    omega

section
variable {u : Slot} {ordinals : List Nat} {cs rest : List Char}

theorem lists_ordinals? {parts : List Part} (read : ordinals? u parts = some ordinals) :
    u.Lists ordinals := by
  obtain ⟨sets, -, same⟩ := Option.bind_eq_some_iff.1 read
  cases same
  exact ⟨u.lists_all.ascending.filter _, fun n mem => u.lists_all.bounds n (List.mem_filter.1 mem).1⟩

theorem lists_readField? (read : readField? u cs = some (ordinals, rest)) : u.Lists ordinals := by
  unfold readField? at read
  obtain ⟨⟨first, after⟩, -, read⟩ := Option.bind_eq_some_iff.1 read
  obtain ⟨held, listed, same⟩ := Option.bind_eq_some_iff.1 read
  cases same
  exact lists_ordinals? listed

end

namespace Schedule

/-- Each field but that of the weekday, whose order does not matter, lists ordinals of its unit. -/
structure Sound (s : Schedule) : Prop where
  seconds : Slot.second.Lists s.seconds
  minutes : Slot.minute.Lists s.minutes
  hours : Slot.hour.Lists s.hours
  daysOfMonth : Slot.dayOfMonth.Lists s.daysOfMonth
  months : Slot.month.Lists s.months
  years : Slot.year.Lists s.years

variable {s : Schedule}

theorem Sound.year_pos (h : s.Sound) {year : Nat} (mem : year ∈ s.years) : 0 < year :=
  Nat.lt_of_lt_of_le (by decide) (h.years.bounds year mem).1

theorem sound_named? {text : String} (read : named? text = some s) : s.Sound := by
  unfold named? at read
  split at read <;> cases read
  all_goals
    constructor <;> first | exact Slot.lists_all _ | exact ⟨by decide, by decide⟩

theorem sound_readFields? {cs : List Char} (read : readFields? cs = some s) : s.Sound := by
  unfold readFields? at read
  obtain ⟨⟨seconds, cs⟩, readSeconds, read⟩ := Option.bind_eq_some_iff.1 read
  obtain ⟨⟨minutes, cs⟩, readMinutes, read⟩ := Option.bind_eq_some_iff.1 read
  obtain ⟨⟨hours, cs⟩, readHours, read⟩ := Option.bind_eq_some_iff.1 read
  obtain ⟨⟨daysOfMonth, cs⟩, readDays, read⟩ := Option.bind_eq_some_iff.1 read
  obtain ⟨⟨months, cs⟩, readMonths, read⟩ := Option.bind_eq_some_iff.1 read
  obtain ⟨⟨daysOfWeek, cs⟩, -, read⟩ := Option.bind_eq_some_iff.1 read
  have years : Slot.year.Lists ((readField? .year cs).getD (Slot.all .year, cs)).1 := by
    cases given : readField? .year cs with
    | none => exact Slot.lists_all _
    | some field => exact lists_readField? given
  obtain ⟨-, same⟩ := Option.ite_none_right_eq_some.1 read
  cases same
  exact ⟨lists_readField? readSeconds, lists_readField? readMinutes, lists_readField? readHours,
    lists_readField? readDays, lists_readField? readMonths, years⟩

theorem sound_parse? {text : String} (read : parse? text = some s) : s.Sound := by
  rcases Option.or_eq_some_iff.1 read with named | ⟨-, fields⟩
  · exact sound_named? named
  · exact sound_readFields? fields

end Schedule
end Playbook.Cron
