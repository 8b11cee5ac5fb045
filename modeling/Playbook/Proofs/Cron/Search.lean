import Playbook.Proofs.Cron.Parts
import Playbook.Proofs.Cron.Reading
import Playbook.Proofs.Instant.Order

/-!
The search for the next occurrence of a schedule. It goes through years, months, days, hours, minutes
and seconds part by part, and so comes to the least occurrence that is not before the start. As the
program searches, the first year counts as the start year even when it is a later one; then
occurrences at the beginning of that year are passed over.
-/
namespace Playbook.Cron.Schedule

/-! ### Occurrences -/

structure AdmitsClock (s : Schedule) (c : Clock) : Prop where
  hour : c.hour ∈ s.hours
  minute : c.minute ∈ s.minutes
  second : c.second ∈ s.seconds

structure AdmitsDate (s : Schedule) (d : Date) : Prop where
  year : ∃ y ∈ s.years, (y : Int) = d.year
  month : d.month ∈ s.months
  day : d.day ∈ s.daysOfMonth
  weekday : Date.weekday d.toDays ∈ s.daysOfWeek

/-- A whole second that matches every field. -/
def Occurs (s : Schedule) (t : Instant) : Prop := t.nanos = 0 ∧ s.admits t = true

variable {s : Schedule} {t u : Instant}

theorem occurs_iff :
    s.Occurs t ↔ t.nanos = 0 ∧ s.AdmitsDate t.date ∧ s.AdmitsClock t.clock := by
  unfold Occurs admits
  simp only [Bool.and_eq_true, List.any_eq_true, beq_iff_eq, List.contains_iff_mem]
  rw [← t.toDays_date]
  constructor
  · rintro ⟨whole, ⟨⟨⟨⟨⟨year, month⟩, day⟩, weekday⟩, hour⟩, minute⟩, second⟩
    exact ⟨whole, ⟨year, month, day, weekday⟩, hour, minute, second⟩
  · rintro ⟨whole, ⟨year, month, day, weekday⟩, hour, minute, second⟩
    exact ⟨whole, ⟨⟨⟨⟨⟨year, month⟩, day⟩, weekday⟩, hour⟩, minute⟩, second⟩

theorem AdmitsClock.inDay (h : s.Sound) {c : Clock} (admits : s.AdmitsClock c) : c.InDay := by
  have hour := (h.hours.bounds _ admits.hour).2
  have minute := (h.minutes.bounds _ admits.minute).2
  have second := (h.seconds.bounds _ admits.second).2
  exact ⟨Nat.lt_succ_of_le hour, Nat.lt_succ_of_le minute, Nat.lt_succ_of_le second⟩

/-! ### Times of day -/

section
variable {start : Option Clock} {hour minute : Nat}

/-- The first time in a minute. -/
def firstInMinute (s : Schedule) (hour minute : Nat) (start : Option Clock) : Option Clock :=
  (fromStart s.seconds (start.map Clock.second)).head?.map fun second => ⟨hour, minute, second⟩

/-- The first time in an hour. -/
def firstInHour (s : Schedule) (hour : Nat) (start : Option Clock) : Option Clock :=
  (fromStart s.minutes (start.map Clock.minute)).findSome? fun minute =>
    s.firstInMinute hour minute (if atStart (start.map Clock.minute) minute then start else none)

theorem firstClock_eq : s.firstClock start =
    (fromStart s.hours (start.map Clock.hour)).findSome? fun hour =>
      s.firstInHour hour (if atStart (start.map Clock.hour) hour then start else none) := rfl

theorem firstInMinute_finds (h : s.Sound) (hourIn : hour ∈ s.hours) (minuteIn : minute ∈ s.minutes)
    (own : ∀ c ∈ start, c.InDay ∧ c.hour = hour ∧ c.minute = minute) :
    Finds (fun c => (c.sinceMidnight : Int))
      (fun c => ((s.AdmitsClock c ∧ c.hour = hour) ∧ c.minute = minute) ∧
        ∀ b ∈ start, (b.sinceMidnight : Int) ≤ c.sinceMidnight) (s.firstInMinute hour minute start) := by
  have search : s.firstInMinute hour minute start =
      (fromStart s.seconds (start.map Clock.second)).findSome? fun second =>
        some ⟨hour, minute, second⟩ := by
    unfold firstInMinute
    cases fromStart s.seconds (start.map Clock.second) <;> rfl
  rw [search]
  refine Finds.fromStart (R := fun c => c.hour = hour ∧ c.minute = minute)
    (f := fun second _ => some ⟨hour, minute, second⟩) h.seconds.ascending ?_ ?_
    (fun c hc => (own c hc).2) ?_
  · rintro b c ⟨rfl, rfl⟩ ⟨hour, minute⟩ less
    simp only [Clock.sinceMidnight]
    omega
  · rintro c ⟨⟨admits, sameHour⟩, sameMinute⟩
    exact ⟨⟨sameHour, sameMinute⟩, admits.second⟩
  · intro second known own' here
    refine .found ⟨⟨⟨⟨⟨hourIn, minuteIn, known⟩, rfl⟩, rfl⟩, rfl⟩, fun b hb => ?_⟩ ?_
    · obtain ⟨mem, same⟩ := here b hb
      obtain ⟨-, sameHour, sameMinute⟩ := own b mem
      simp only [Clock.sinceMidnight]
      omega
    · rintro c ⟨⟨⟨⟨-, sameHour⟩, sameMinute⟩, same⟩, -⟩
      simp only [Clock.sinceMidnight]
      omega

theorem firstInHour_finds (h : s.Sound) (hourIn : hour ∈ s.hours)
    (own : ∀ c ∈ start, c.InDay ∧ c.hour = hour) :
    Finds (fun c => (c.sinceMidnight : Int))
      (fun c => (s.AdmitsClock c ∧ c.hour = hour) ∧
        ∀ b ∈ start, (b.sinceMidnight : Int) ≤ c.sinceMidnight) (s.firstInHour hour start) := by
  refine Finds.fromStart (R := fun c => c.InDay ∧ c.hour = hour) h.minutes.ascending ?_
    (fun c hc => ⟨⟨hc.1.inDay h, hc.2⟩, hc.1.minute⟩) own ?_
  · rintro b c ⟨inDay, rfl⟩ ⟨-, same⟩ less
    have := inDay.second
    simp only [Clock.sinceMidnight]
    omega
  · intro minute known own' here
    refine firstInMinute_finds h hourIn known fun c hc => ?_
    obtain ⟨mem, same⟩ := here c hc
    exact ⟨(own c mem).1, (own c mem).2, same⟩

variable (start) in
/-- The search for a time of day. -/
theorem firstClock_finds (h : s.Sound) (inDay : ∀ c ∈ start, c.InDay) :
    Finds (fun c => (c.sinceMidnight : Int))
      (fun c => s.AdmitsClock c ∧ ∀ b ∈ start, (b.sinceMidnight : Int) ≤ c.sinceMidnight)
      (s.firstClock start) := by
  rw [firstClock_eq]
  refine Finds.fromStart (R := Clock.InDay) h.hours.ascending ?_
    (fun c hc => ⟨hc.inDay h, hc.hour⟩) inDay ?_
  · intro b c before after less
    have := before.minute
    have := before.second
    simp only [Clock.sinceMidnight]
    omega
  · intro hour known own here
    exact firstInHour_finds h known fun c hc => ⟨inDay c (here c hc).1, (here c hc).2⟩

end

/-! ### Dates -/

section
variable {start : Option Instant} {year month : Nat} {d : Date}

/-- The first occurrence on a day. -/
def firstOnDay (s : Schedule) (d : Date) (start : Option Clock) : Option Instant :=
  if s.daysOfWeek.contains (Date.weekday d.toDays) then
    (s.firstClock start).map fun c => Instant.ofDate d c 0
  else none

variable (start) in
theorem firstOnDay_finds (h : s.Sound) (valid : d.isValid = true)
    (listed : Date.weekday d.toDays ∈ s.daysOfWeek → s.AdmitsDate d) (own : ∀ t ∈ start, t.date = d) :
    Finds Instant.seconds
      (fun u => (s.Occurs u ∧ u.date = d) ∧ ∀ t ∈ start, t.seconds ≤ u.seconds)
      (s.firstOnDay d (start.map Instant.clock)) := by
  have late {u : Instant} (date : u.date = d) : (∀ t ∈ start, t.seconds ≤ u.seconds) ↔
      ∀ c ∈ start.map Instant.clock, (c.sinceMidnight : Int) ≤ u.clock.sinceMidnight := by
    cases start with
    | none => simp
    | some t => simpa using Instant.seconds_le_iff_of_date_eq ((own t rfl).trans date.symm)
  unfold firstOnDay
  split
  next weekday =>
    have admitted := listed (List.contains_iff_mem.1 weekday)
    have search := firstClock_finds (start.map Instant.clock) h fun c mem => by
      obtain ⟨t, -, rfl⟩ := Option.mem_map.1 mem
      exact t.inDay_clock
    refine search.map (g := Instant.clock) ?_ ?_ ?_
    · rintro c ⟨admits, after⟩
      have date := Instant.date_ofDate (n := 0) valid (admits.inDay h)
      have clock := Instant.clock_ofDate (d := d) (n := 0) (admits.inDay h)
      exact ⟨⟨occurs_iff.2 ⟨rfl, by rwa [date], by rwa [clock]⟩, date⟩,
        (late date).2 (by rwa [clock])⟩
    · rintro u ⟨⟨occurs, date⟩, after⟩
      exact ⟨(occurs_iff.1 occurs).2.2, (late date).1 after⟩
    · rintro c u ⟨admits, -⟩ ⟨⟨-, date⟩, -⟩ le
      have date' := Instant.date_ofDate (n := 0) valid (admits.inDay h)
      rwa [Instant.seconds_le_iff_of_date_eq (date'.trans date.symm),
        Instant.clock_ofDate (admits.inDay h)]
  next weekday =>
    refine .absent ?_
    rintro u ⟨⟨occurs, rfl⟩, -⟩
    exact weekday (List.contains_iff_mem.2 (occurs_iff.1 occurs).2.1.weekday)

/-- From a start on that lies in the month, the days of the month are searched as the other units
are. -/
theorem firstInMonth_eq (h : s.Sound)
    (own : ∀ t ∈ start, t.date.year = (year : Int) ∧ t.date.month = month) :
    s.firstInMonth year month (start.map fun t => (t.date.day, t.clock)) =
      (fromStart (s.daysOfMonth.filter fun day => decide (day ≤ Date.daysInMonth year month))
        (start.map fun t => t.date.day)).findSome? fun day =>
          s.firstOnDay ⟨year, month, day⟩
            ((if atStart (start.map fun t => t.date.day) day then start else none).map
              Instant.clock) := by
  cases start with
  | none =>
    have all : s.daysOfMonth.filter
        (fun day => decide (1 ≤ day) && decide (day ≤ Date.daysInMonth year month)) =
        s.daysOfMonth.filter fun day => decide (day ≤ Date.daysInMonth year month) :=
      List.filter_congr fun day mem => by
        have : 1 ≤ day := (h.daysOfMonth.bounds day mem).1
        simp [this]
    simp only [firstInMonth, Option.map_none, all]
    rfl
  | some t =>
    obtain ⟨sameYear, sameMonth⟩ := own t rfl
    have inMonth : min t.date.day (Date.daysInMonth year month) = t.date.day :=
      Nat.min_eq_left (sameYear ▸ sameMonth ▸ Date.day_le_of_isValid t.isValid_date)
    simp only [firstInMonth, Option.map_some, inMonth, fromStart, List.filter_filter]
    refine findSome?_congr fun day mem => ?_
    have known : day ∈ s.daysOfMonth := (List.mem_filter.1 mem).1
    by_cases same : t.date.day = day
    · subst same
      simp [firstOnDay, atStart, known]
    · simp [firstOnDay, atStart, same, Ne.symm same]

theorem date_eq_iff {day : Nat} (pos : 0 < year) : d = ⟨year, month, day⟩ ↔
    d.year.toNat = year ∧ d.month = month ∧ d.day = day := by
  obtain ⟨y, m, k⟩ := d
  rw [Date.mk.injEq]
  dsimp only
  omega

theorem firstInMonth_finds (h : s.Sound) (yearIn : year ∈ s.years) (monthIn : month ∈ s.months)
    (own : ∀ t ∈ start, t.date.year = (year : Int) ∧ t.date.month = month) :
    Finds Instant.seconds
      (fun u => ((s.Occurs u ∧ u.date.year.toNat = year) ∧ u.date.month = month) ∧
        ∀ t ∈ start, t.seconds ≤ u.seconds)
      (s.firstInMonth year month (start.map fun t => (t.date.day, t.clock))) := by
  have pos := h.year_pos yearIn
  obtain ⟨january, december⟩ := h.months.bounds month monthIn
  rw [firstInMonth_eq h own]
  refine Finds.fromStart (R := fun u => u.date.year = (year : Int) ∧ u.date.month = month)
    (f := fun day own => s.firstOnDay ⟨year, month, day⟩ (own.map Instant.clock))
    (h.daysOfMonth.ascending.filter _) ?_ ?_ own ?_
  · rintro t u ⟨sameYear, sameMonth⟩ ⟨sameYear', sameMonth'⟩ less
    exact Instant.seconds_lt_of_toDays_lt (Date.toDays_lt_of_day_lt (sameYear.trans sameYear'.symm)
      (sameMonth.trans sameMonth'.symm) less)
  · rintro u ⟨⟨occurs, sameYear⟩, rfl⟩
    have inYear : u.date.year = (year : Int) := by omega
    refine ⟨⟨inYear, rfl⟩, List.mem_filter.2 ⟨(occurs_iff.1 occurs).2.1.day, decide_eq_true ?_⟩⟩
    exact inYear ▸ Date.day_le_of_isValid u.isValid_date
  · intro day mem own' here
    obtain ⟨known, inMonth⟩ := List.mem_filter.1 mem
    have first : 1 ≤ day := (h.daysOfMonth.bounds day known).1
    have valid : (⟨year, month, day⟩ : Date).isValid = true := by
      simp only [Date.isValid, Bool.and_eq_true, decide_eq_true_eq]
      exact ⟨⟨⟨january, december⟩, first⟩, of_decide_eq_true inMonth⟩
    have search := firstOnDay_finds own' h valid
      (fun weekday => ⟨⟨year, yearIn, rfl⟩, monthIn, known, weekday⟩) fun t mem => by
        obtain ⟨given, rfl⟩ := here t mem
        obtain ⟨sameYear, sameMonth⟩ := own t given
        rw [← sameYear, ← sameMonth]
    exact search.congr fun u => by simp only [date_eq_iff pos, and_assoc]

theorem firstInYear_finds (h : s.Sound) (yearIn : year ∈ s.years)
    (own : ∀ t ∈ start, t.date.year = (year : Int)) :
    Finds Instant.seconds
      (fun u => (s.Occurs u ∧ u.date.year.toNat = year) ∧ ∀ t ∈ start, t.seconds ≤ u.seconds)
      (s.firstInYear year (start.map fun t => (t.date, t.clock))) := by
  have pos := h.year_pos yearIn
  have search : s.firstInYear year (start.map fun t => (t.date, t.clock)) =
      (fromStart s.months (start.map fun t => t.date.month)).findSome? fun month =>
        s.firstInMonth year month
          ((if atStart (start.map fun t => t.date.month) month then start else none).map
            fun t => (t.date.day, t.clock)) := by
    unfold firstInYear
    rw [Option.map_map]
    refine findSome?_congr fun month _ => ?_
    dsimp only
    rw [Option.map_map, apply_ite (Option.map _), Option.map_none]
    rfl
  rw [search]
  refine Finds.fromStart (R := fun u => u.date.year = (year : Int))
    (f := fun month own =>
      s.firstInMonth year month (own.map fun t : Instant => (t.date.day, t.clock)))
    h.months.ascending ?_ ?_ own ?_
  · intro t u sameYear sameYear' less
    exact Instant.seconds_lt_of_toDays_lt (Date.toDays_lt_of_month_lt t.isValid_date u.isValid_date
      (sameYear.trans sameYear'.symm) less)
  · rintro u ⟨occurs, sameYear⟩
    exact ⟨by omega, (occurs_iff.1 occurs).2.1.month⟩
  · intro month known own' here
    exact firstInMonth_finds h yearIn known fun t mem => ⟨own t (here t mem).1, (here t mem).2⟩

end

/-! ### The next occurrence -/

/-- The least occurrence from an instant on: the years are searched as the other units are. -/
def firstFrom (s : Schedule) (t : Instant) : Option Instant :=
  (fromStart s.years (some t.date.year.toNat)).findSome? fun year =>
    s.firstInYear year (if atStart (some t.date.year.toNat) year then some (t.date, t.clock) else none)

theorem firstFrom_finds (h : s.Sound) (t : Instant) :
    Finds Instant.seconds (fun u => s.Occurs u ∧ t.seconds ≤ u.seconds) (s.firstFrom t) := by
  have search : s.firstFrom t =
      (fromStart s.years ((some t).map fun t => t.date.year.toNat)).findSome? fun year =>
        s.firstInYear year
          ((if atStart ((some t).map fun t => t.date.year.toNat) year then some t else none).map
            fun t => (t.date, t.clock)) := by
    refine findSome?_congr fun year _ => ?_
    dsimp only [Option.map_some]
    split <;> rfl
  have found : Finds Instant.seconds
      (fun u => s.Occurs u ∧ ∀ b ∈ some t, b.seconds ≤ u.seconds) (s.firstFrom t) := by
    rw [search]
    -- A start before the year 0 is put into the year 0, which is before all years of a schedule.
    refine Finds.fromStart (R := fun _ => True)
      (f := fun year own => s.firstInYear year (own.map fun t : Instant => (t.date, t.clock)))
      h.years.ascending ?_ ?_ (fun _ _ => trivial) ?_
    · intro t u _ _ less
      exact Instant.seconds_lt_of_toDays_lt
        (Date.toDays_lt_toDays_of_year_lt t.isValid_date u.isValid_date (by omega))
    · intro u occurs
      obtain ⟨year, known, same⟩ := (occurs_iff.1 occurs).2.1.year
      refine ⟨trivial, ?_⟩
      rwa [← same, Int.toNat_natCast]
    · intro year known own here
      have pos := h.year_pos known
      exact firstInYear_finds h known fun t mem => by
        have := (here t mem).2
        omega
  exact found.congr fun u => by simp

/-- What the next occurrence after an instant has to be: the least one that is strictly later. -/
def NextIs (s : Schedule) (t : Instant) : Option Instant → Prop
  | some u => s.Occurs u ∧ t.lt u = true ∧ ∀ v, s.Occurs v → t.lt v = true → u.le v = true
  | none => ∀ u, s.Occurs u → t.lt u = false

/-- The least occurrence after an instant. -/
def soonest? (s : Schedule) (t : Instant) : Option Instant := s.firstFrom (t.addSeconds 1)

/-- An occurrence is later than an instant when it lies in one of the seconds after it. -/
theorem Occurs.lt_iff (occurs : s.Occurs u) :
    t.lt u = true ↔ (t.addSeconds 1).seconds ≤ u.seconds := by
  rw [Instant.lt_iff, t.seconds_addSeconds_one, occurs.1]
  omega

theorem nextIs_soonest? (h : s.Sound) (t : Instant) : s.NextIs t (s.soonest? t) := by
  have search := firstFrom_finds h (t.addSeconds 1)
  rw [soonest?]
  generalize s.firstFrom (t.addSeconds 1) = first at search
  cases search with
  | absent nowhere =>
    exact fun u occurs => Bool.eq_false_iff.2 fun later => nowhere u ⟨occurs, occurs.lt_iff.1 later⟩
  | @found u both least =>
    obtain ⟨occurs, later⟩ := both
    refine ⟨occurs, occurs.lt_iff.2 later, fun v occurs' later' => Instant.le_iff.2 ?_⟩
    have := least v ⟨occurs', occurs'.lt_iff.1 later'⟩
    rw [occurs.1, occurs'.1]
    omega

/-- The search of the program starts in a year of the schedule, or there is no later one. -/
def StartsInYear (s : Schedule) (t : Instant) : Prop :=
  (∃ year ∈ s.years, (year : Int) = (t.addSeconds 1).date.year) ∨
    ∀ year ∈ s.years, (year : Int) < (t.addSeconds 1).date.year

/-- Of ascending ordinals, those from one of them on begin with that one. -/
theorem fromStart_of_mem {ordinals : List Nat} {n : Nat} (ascending : ordinals.Pairwise (· < ·))
    (mem : n ∈ ordinals) : ∃ later, fromStart ordinals (some n) = n :: later ∧ ∀ m ∈ later, n ≠ m := by
  have known : n ∈ fromStart ordinals (some n) := List.mem_filter.2 ⟨mem, decide_eq_true n.le_refl⟩
  have ascending' : (fromStart ordinals (some n)).Pairwise (· < ·) := ascending.filter _
  cases searched : fromStart ordinals (some n) with
  | nil => simp [searched] at known
  | cons first later =>
    rw [searched] at known ascending'
    have least := (List.pairwise_cons.1 ascending').1
    have notBefore : n ≤ first := of_decide_eq_true
      (List.mem_filter.1 (show first ∈ fromStart ordinals (some n) by simp [searched])).2
    rcases List.mem_cons.1 known with rfl | behind
    · exact ⟨later, rfl, fun m hm => Nat.ne_of_lt (least m hm)⟩
    · exact absurd (least n behind) (Nat.not_lt.2 notBefore)

/-- From a year of the schedule on, the program searches the years as the other units. -/
theorem next?_eq_soonest? (h : s.Sound) (starts : s.StartsInYear t) : s.next? t = s.soonest? t := by
  have searched {year : Int} (nonneg : 0 ≤ year) :
      (s.years.filter fun y : Nat => decide (year ≤ (y : Int))) =
        fromStart s.years (some year.toNat) :=
    List.filter_congr fun y _ => by simp
  unfold next? soonest? firstFrom
  dsimp only
  rcases starts with ⟨year, known, same⟩ | past
  · obtain ⟨later, begins, apart⟩ := fromStart_of_mem h.years.ascending known
    rw [← same, if_neg (by omega), searched (by omega), Int.toNat_natCast, begins,
      List.findSome?_cons, atStart, beq_self_eq_true, if_pos rfl]
    have rest : (later.findSome? fun y => s.firstInYear y none) = later.findSome? fun y =>
        s.firstInYear y (if atStart (some year) y then
          some ((t.addSeconds 1).date, (t.addSeconds 1).clock) else none) :=
      findSome?_congr fun y mem => by simp [atStart, apart y mem]
    rw [← rest]
    dsimp only
    cases s.firstInYear year (some ((t.addSeconds 1).date, (t.addSeconds 1).clock)) <;> rfl
  · have passed : fromStart s.years (some (t.addSeconds 1).date.year.toNat) = [] :=
      List.filter_eq_nil_iff.2 fun y mem => by
        have := past y mem
        simp
        omega
    rw [passed]
    split
    · rfl
    · rw [searched (by omega), passed]
      rfl

/-- From a year of the schedule on, the program finds the next occurrence. -/
theorem nextIs_next? (h : s.Sound) (starts : s.StartsInYear t) : s.NextIs t (s.next? t) :=
  next?_eq_soonest? h starts ▸ nextIs_soonest? h t

end Playbook.Cron.Schedule
