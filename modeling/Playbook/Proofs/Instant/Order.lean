import Mathlib.Tactic.Common
import Playbook.Proofs.Instant.Calendar

/-!
Instants in order. An instant is its date, its time of day and its fraction, and the seconds of
instants are in the order of their dates first and then of their times of day.
-/
namespace Playbook

namespace Clock

/-- The seconds since midnight. -/
def sinceMidnight (c : Clock) : Nat := c.hour * 3600 + c.minute * 60 + c.second

structure InDay (c : Clock) : Prop where
  hour : c.hour < 24
  minute : c.minute < 60
  second : c.second < 60

theorem InDay.sinceMidnight_lt {c : Clock} (h : c.InDay) : c.sinceMidnight < 86400 := by
  obtain ⟨hour, minute, second⟩ := h
  unfold sinceMidnight
  omega

end Clock

namespace Instant

variable {s t u : Instant}

/-! ### Comparison -/

theorem cmp_eq_lt_iff : s.cmp t = .lt ↔
    s.seconds < t.seconds ∨ s.seconds = t.seconds ∧ s.nanos < t.nanos := by
  rw [cmp, Ordering.then_eq_lt, compare_lt_iff_lt, compare_eq_iff_eq, compare_lt_iff_lt]

theorem cmp_eq_eq_iff : s.cmp t = .eq ↔ s = t := by
  rw [cmp, Ordering.then_eq_eq, compare_eq_iff_eq, compare_eq_iff_eq]
  cases s
  cases t
  simp

theorem cmp_lt_trans (h : s.cmp t = .lt) (h' : t.cmp u = .lt) : s.cmp u = .lt := by
  rw [cmp_eq_lt_iff] at *
  omega

theorem cmp_swap (s t : Instant) : (s.cmp t).swap = t.cmp s := by
  rw [cmp, cmp, Ordering.swap_then, ← Std.OrientedCmp.eq_swap, ← Std.OrientedCmp.eq_swap]

theorem cmp_eq_gt_iff : s.cmp t = .gt ↔ t.cmp s = .lt := by
  rw [← cmp_swap t s, Ordering.swap_eq_gt]

theorem lt_iff : s.lt t = true ↔
    s.seconds < t.seconds ∨ s.seconds = t.seconds ∧ s.nanos < t.nanos := by
  rw [lt, beq_iff_eq, cmp_eq_lt_iff]

theorem le_iff : s.le t = true ↔
    s.seconds < t.seconds ∨ s.seconds = t.seconds ∧ s.nanos ≤ t.nanos := by
  rw [le, bne_iff_ne, Ne, cmp_eq_gt_iff, cmp_eq_lt_iff]
  omega

theorem lt_of_le_of_lt (h : s.le t = true) (h' : t.lt u = true) : s.lt u = true := by
  rw [le_iff] at h
  rw [lt_iff] at *
  omega

theorem lt_of_not_le (h : ¬t.le s = true) : s.lt t = true := by
  rw [le_iff] at h
  rw [lt_iff]
  omega

theorem le_trans (h : s.le t = true) (h' : t.le u = true) : s.le u = true := by
  rw [le_iff] at *
  omega

/-! ### Date and time of day -/

theorem clock_bounds (t : Instant) :
    t.clock.hour < 24 ∧ t.clock.minute < 60 ∧ t.clock.second < 60 := by
  have low := Int.emod_nonneg t.seconds (b := secondsPerDay) (by decide)
  have high := Int.emod_lt_of_pos t.seconds (b := secondsPerDay) (by decide)
  simp only [clock]
  unfold secondsPerDay at *
  omega

theorem inDay_clock (t : Instant) : t.clock.InDay :=
  let ⟨hour, minute, second⟩ := t.clock_bounds
  ⟨hour, minute, second⟩

/-- An instant is its date and its time of day. -/
theorem ofDate_date (t : Instant) : ofDate t.date t.clock t.nanos = t := by
  have low := Int.emod_nonneg t.seconds (b := secondsPerDay) (by decide)
  have high := Int.emod_lt_of_pos t.seconds (b := secondsPerDay) (by decide)
  have day := Int.mul_ediv_add_emod t.seconds secondsPerDay
  obtain ⟨seconds, nanos⟩ := t
  simp only [ofDate, date, Date.toDays_ofDays, days, clock, Instant.mk.injEq, and_true] at *
  unfold secondsPerDay at *
  omega

theorem isValid_date (t : Instant) : t.date.isValid = true := Date.isValid_ofDays t.days

theorem toDays_date (t : Instant) : t.date.toDays = t.days := Date.toDays_ofDays t.days

theorem seconds_eq (t : Instant) : t.seconds = t.date.toDays * 86400 + t.clock.sinceMidnight :=
  (congrArg seconds t.ofDate_date).symm

theorem seconds_lt_of_toDays_lt (days : t.date.toDays < u.date.toDays) : t.seconds < u.seconds := by
  have midnight := t.inDay_clock.sinceMidnight_lt
  rw [seconds_eq t, seconds_eq u]
  omega

theorem seconds_le_iff_of_date_eq (same : t.date = u.date) :
    t.seconds ≤ u.seconds ↔ (t.clock.sinceMidnight : Int) ≤ u.clock.sinceMidnight := by
  rw [seconds_eq t, seconds_eq u, same]
  omega

section
variable {d : Date} {c : Clock} {n : Nat}

theorem days_ofDate (inDay : c.InDay) : (ofDate d c n).days = d.toDays := by
  have midnight := inDay.sinceMidnight_lt
  unfold Clock.sinceMidnight at midnight
  simp only [ofDate, days]
  unfold secondsPerDay
  omega

theorem date_ofDate (valid : d.isValid = true) (inDay : c.InDay) : (ofDate d c n).date = d := by
  rw [date, days_ofDate inDay, Date.ofDays_toDays valid]

theorem clock_ofDate (inDay : c.InDay) : (ofDate d c n).clock = c := by
  have midnight := inDay.sinceMidnight_lt
  have rest : ((ofDate d c n).seconds % secondsPerDay).toNat = c.sinceMidnight := by
    unfold Clock.sinceMidnight at midnight ⊢
    simp only [ofDate]
    unfold secondsPerDay
    omega
  obtain ⟨hour, minute, second⟩ := c
  obtain ⟨-, minutes, seconds⟩ := inDay
  rw [clock, rest]
  simp only [Clock.sinceMidnight, Clock.mk.injEq] at minutes seconds ⊢
  omega

end

/-! ### Moving by seconds -/

/-- The second after an instant, a leap second or not. -/
theorem seconds_addSeconds_one (t : Instant) : (t.addSeconds 1).seconds = t.seconds + 1 := by
  unfold addSeconds
  split <;> rfl

/-- Further back is not later. -/
theorem addSeconds_neg_antitone {m n : Nat} (le : m ≤ n) :
    (t.addSeconds (-n)).le (t.addSeconds (-m)) = true := by
  rw [le_iff]
  unfold addSeconds
  repeat' split
  all_goals
    dsimp only
    omega

end Instant
end Playbook
