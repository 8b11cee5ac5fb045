import Mathlib.Tactic.Common
import Playbook.Instant.Loose
import Playbook.Proofs.Instant.Order
import Playbook.Proofs.Text.Digits

/-!
Instants that are read back from their texts in data, whatever their years, fractions and leap
seconds.
-/
namespace Playbook.Instant

/-- An instant that lies in the calendar; only the last second of a minute may be a leap second. -/
structure Proper (t : Instant) : Prop where
  inRange : t.inRange = true
  nanos : t.nanos < 1000000000 ∨ t.nanos < 2000000000 ∧ t.clock.second = 59

/-! ### Numbers -/

/-- No digit goes on where a number ends. -/
def Stops (rest : List Char) : Prop := ∀ c ∈ rest.head?, c.isDigit = false

section
variable {ds rest : List Char} {w n : Nat}

theorem numberUpTo?_append (nonempty : ds ≠ []) (digits : ∀ c ∈ ds, c.isDigit = true)
    (fits : ds.length ≤ w) (stops : Stops rest) :
    numberUpTo? w (ds ++ rest) = some (Nat.ofDigitChars 10 ds 0, rest) := by
  unfold numberUpTo?
  rw [(Text.takeWhile_append_of_all digits stops).1, List.take_of_length_le fits]
  cases ds with
  | nil => exact absurd rfl nonempty
  | cons c ds => simp

/-- The digits of a number with zeros before them. -/
theorem padded_digits (w n : Nat) :
    (padded w n).toList ≠ [] ∧ (∀ c ∈ (padded w n).toList, c.isDigit = true) ∧
      Nat.ofDigitChars 10 (padded w n).toList 0 = n ∧
      (0 < w → n < 10 ^ w → (padded w n).toList.length = w) := by
  have digits : (padded w n).toList =
      List.replicate (w - (Nat.toDigits 10 n).length) '0' ++ Nat.toDigits 10 n := by
    simp [padded]
  have zeros (k : Nat) : Nat.ofDigitChars 10 (List.replicate k '0') 0 = 0 := by
    induction k with
    | zero => rfl
    | succ k ih => simp [List.replicate_succ, Nat.ofDigitChars_cons, ih]
  rw [digits]
  refine ⟨by simp [Nat.toDigits_ne_nil], ?_, ?_, fun pos small => ?_⟩
  · intro c mem
    rcases List.mem_append.1 mem with zero | digit
    · rw [(List.mem_replicate.1 zero).2]
      rfl
    · exact Text.isDigit_toDigits n c digit
  · rw [Nat.ofDigitChars_append, zeros, Nat.ofDigitChars_ten_toDigits]
  · have short := (Nat.length_toDigits_le_iff (by decide) pos).2 small
    rw [List.length_append, List.length_replicate]
    omega

theorem numberUpTo?_padded (pos : 0 < w) (small : n < 10 ^ w) (stops : Stops rest) :
    numberUpTo? w ((padded w n).toList ++ rest) = some (n, rest) := by
  obtain ⟨nonempty, digits, value, length⟩ := padded_digits w n
  rw [numberUpTo?_append nonempty digits (Nat.le_of_eq (length pos small)) stops, value]

theorem skipBlanks_cons {c : Char} {cs : List Char} (h : Text.isBlank c = false) :
    skipBlanks (c :: cs) = c :: cs := by
  simp [skipBlanks, h]

/-- Digits start with no blank. -/
theorem skipBlanks_digits (nonempty : ds ≠ []) (digits : ∀ c ∈ ds, c.isDigit = true) :
    skipBlanks (ds ++ rest) = ds ++ rest := by
  cases ds with
  | nil => exact absurd rfl nonempty
  | cons c ds => exact skipBlanks_cons (Text.isBlank_of_isDigit (digits c (by simp)))

theorem looseTwo?_padded (small : n < 100) (stops : Stops rest) :
    looseTwo? ((padded 2 n).toList ++ rest) = some (n, rest) := by
  obtain ⟨nonempty, digits, -, -⟩ := padded_digits 2 n
  rw [looseTwo?, skipBlanks_digits nonempty digits, numberUpTo?_padded (by decide) small stops]

theorem stops_cons {c : Char} (h : c.isDigit = false) : Stops (c :: rest) := by
  simpa [Stops] using h

theorem mark?_cons {c : Char} (h : Text.isBlank c = false) : mark? c (c :: rest) = some rest := by
  simp [mark?, skipBlanks_cons h]

/-! ### Dates and times -/

theorem looseYear?_of_isDigit {c : Char} {cs : List Char} (digit : c.isDigit = true) :
    looseYear? (c :: cs) = (numberUpTo? 4 (c :: cs)).map fun (n, rest) => ((n : Int), rest) := by
  rw [looseYear?, skipBlanks_cons (Text.isBlank_of_isDigit digit)]
  split
  · rename_i same
    cases same
    exact absurd digit (by decide)
  · rename_i same
    cases same
    exact absurd digit (by decide)
  · rfl

/-- A year with a sign is read as far as its digits go. -/
theorem looseYear?_signed (stops : Stops rest) :
    looseYear? ('-' :: ((padded w n).toList ++ rest)) = some (-(n : Int), rest) ∧
      looseYear? ('+' :: ((padded w n).toList ++ rest)) = some ((n : Int), rest) := by
  obtain ⟨nonempty, digits, value, -⟩ := padded_digits w n
  have read : numberUpTo? ((padded w n).toList ++ rest).length ((padded w n).toList ++ rest) =
      some (n, rest) := by
    rw [numberUpTo?_append nonempty digits (by simp) stops, value]
  constructor
  · simp only [looseYear?, skipBlanks_cons (c := '-') rfl, read, Option.map_some]
  · simp only [looseYear?, skipBlanks_cons (c := '+') rfl, read, Option.map_some]

theorem looseYear?_yearText (year : Int) (stops : Stops rest) :
    looseYear? ((yearText year).toList ++ rest) = some (year, rest) := by
  unfold yearText
  split
  · rename_i plain
    obtain ⟨nonempty, digits, -, -⟩ := padded_digits 4 year.toNat
    obtain ⟨c, cs, text⟩ := List.exists_cons_of_ne_nil nonempty
    have read := numberUpTo?_padded (w := 4) (n := year.toNat) (by decide) (by omega) stops
    rw [text, List.cons_append] at read
    rw [text, List.cons_append, looseYear?_of_isDigit (digits c (by simp [text])), read]
    simp [plain.1]
  · by_cases negative : year < 0
    · have size : -(year.natAbs : Int) = year := by omega
      have read := (looseYear?_signed (w := 4) (n := year.natAbs) stops).1
      rw [size] at read
      simpa [negative] using read
    · have size : (year.natAbs : Int) = year := by omega
      have read := (looseYear?_signed (w := 4) (n := year.natAbs) stops).2
      rw [size] at read
      simpa [negative] using read

theorem looseDate?_dateText {d : Date} (month : d.month < 100) (day : d.day < 100)
    (stops : Stops rest) : looseDate? ((dateText d).toList ++ rest) = some (d, rest) := by
  have dash {rest : List Char} : Stops ('-' :: rest) := stops_cons rfl
  simp [looseDate?, dateText, looseYear?_yearText, dash, mark?_cons (c := '-') rfl, looseTwo?_padded,
    month, day, stops]

theorem readFraction_padded (pos : 0 < w) (short : w ≤ 9) (small : n < 10 ^ w) (stops : Stops rest) :
    readFraction ((padded w n).toList ++ rest) = .ok (n * 10 ^ (9 - w), rest) := by
  obtain ⟨nonempty, digits, value, length⟩ := padded_digits w n
  obtain ⟨taken, dropped⟩ := Text.takeWhile_append_of_all digits stops
  have kept : (padded w n).toList.take 9 = (padded w n).toList :=
    List.take_of_length_le ((length pos small).trans_le short)
  have sum : (padded w n).toList.foldl (fun n c => n * 10 + (c.toNat - '0'.toNat)) 0 = n :=
    (Text.foldl_digits _).trans value
  unfold readFraction
  split
  · rename_i empty
    exact absurd (List.append_eq_nil_iff.1 empty).1 nonempty
  · dsimp only
    rw [taken, dropped, kept, length pos small, sum]
    simp [nonempty]

/-- The fraction of a second: none, or digits that give its nanoseconds. -/
theorem fractionText_cases (nanos : Nat) :
    fractionText nanos = "" ∧ nanos % 1000000000 = 0 ∨
      ∃ w n, 0 < w ∧ w ≤ 9 ∧ n < 10 ^ w ∧ n * 10 ^ (9 - w) = nanos % 1000000000 ∧
        fractionText nanos = "." ++ padded w n := by
  have small : nanos % 1000000000 < 1000000000 := Nat.mod_lt _ (by decide)
  unfold fractionText
  generalize nanos % 1000000000 = n at *
  dsimp only
  by_cases whole : n = 0
  · exact .inl ⟨if_pos whole, whole⟩
  right
  by_cases millis : n % 1000000 = 0
  · exact ⟨3, n / 1000000, by decide, by decide, by omega, by omega, by simp [whole, millis]⟩
  by_cases micros : n % 1000 = 0
  · exact ⟨6, n / 1000, by decide, by decide, by omega, by omega, by simp [whole, millis, micros]⟩
  · exact ⟨9, n, by decide, by decide, small, by omega, by simp [whole, millis, micros]⟩

end

/-! ### Instants -/

section
variable {t : Instant} {rest : List Char}

/-- Moving an instant leaves a leap second. -/
theorem Proper.addSeconds? {u : Instant} {n : Int} (h : t.Proper)
    (moved : t.addSeconds? n = some u) : u.Proper := by
  unfold Instant.addSeconds? at moved
  dsimp only at moved
  split at moved
  · rename_i inside
    cases moved
    refine ⟨inside, ?_⟩
    unfold addSeconds
    by_cases ordinary : t.nanos < 1000000000
    · rw [if_pos (.inl ordinary)]
      exact .inl ordinary
    · obtain ⟨leap, last⟩ := h.nanos.resolve_left ordinary
      split
      · rename_i still
        rw [still.resolve_left ordinary, Int.add_zero]
        exact h.nanos
      · split <;> exact .inl (show t.nanos - 1000000000 < 1000000000 by omega)
  · cases moved

/-- The second as it is written: a leap second is the sixtieth. -/
def writtenSecond (t : Instant) : Nat :=
  if t.nanos < 1000000000 then t.clock.second else t.clock.second + 1

theorem looseTime?_clockText (t : Instant) (rest : List Char) :
    looseTime? ((clockText t).toList ++ ((fractionText t.nanos).toList ++ 'Z' :: rest)) =
      some (⟨t.clock.hour, t.clock.minute, t.writtenSecond⟩, t.nanos % 1000000000, 'Z' :: rest) := by
  obtain ⟨hours, minutes, seconds⟩ := clock_bounds t
  have hour : t.clock.hour < 100 := by omega
  have minute : t.clock.minute < 100 := by omega
  have second : t.writtenSecond < 100 := by
    unfold writtenSecond
    split <;> omega
  have colon {rest : List Char} : Stops (':' :: rest) := stops_cons rfl
  have point {rest : List Char} : Stops ('.' :: rest) := stops_cons rfl
  have zulu {rest : List Char} : Stops ('Z' :: rest) := stops_cons rfl
  have text : clockText t =
      padded 2 t.clock.hour ++ ":" ++ padded 2 t.clock.minute ++ ":" ++ padded 2 t.writtenSecond := rfl
  rcases fractionText_cases t.nanos with ⟨none, whole⟩ | ⟨w, n, pos, short, small, value, fraction⟩
  · simp [looseTime?, text, none, whole, looseTwo?_padded, colon, zulu, mark?_cons (c := ':') rfl,
      hour, minute, second]
  · simp [looseTime?, text, fraction, looseTwo?_padded, colon, point, zulu, mark?_cons (c := ':') rfl,
      hour, minute, second, readFraction_padded pos short small, value, Except.toOption]

theorem year_of_inRange (h : t.inRange = true) : minYear ≤ t.date.year ∧ t.date.year ≤ maxYear := by
  have valid := Date.isValid_ofDays t.days
  have day : (Date.ofDays t.days).toDays = t.seconds / 86400 := Date.toDays_ofDays t.days
  rw [inRange, Bool.and_eq_true, decide_eq_true_iff, decide_eq_true_iff] at h
  obtain ⟨low, high⟩ := h
  unfold minSeconds maxSeconds secondsPerDay at *
  refine ⟨Int.not_lt.1 fun before => ?_, Int.not_lt.1 fun after => ?_⟩
  · have early := Date.toDays_lt_of_year_lt valid before
    unfold minYear at early
    omega
  · have late := Date.lt_toDays_of_lt_year valid after
    unfold maxYear at late
    omega

theorem ofParts?_parts (h : t.Proper) :
    ofParts? t.date ⟨t.clock.hour, t.clock.minute, t.writtenSecond⟩ (t.nanos % 1000000000) 0 =
      some t := by
  obtain ⟨hour, minute, second⟩ := clock_bounds t
  obtain ⟨first, last⟩ := year_of_inRange h.inRange
  have valid : t.date.isValid = true := Date.isValid_ofDays t.days
  have whole := ofDate_date t
  have offset : -secondsPerDay < 0 ∧ 0 < secondsPerDay := by decide
  unfold writtenSecond
  by_cases ordinary : t.nanos < 1000000000
  · simp [ofParts?, ordinary, second.ne, Nat.mod_eq_of_lt ordinary, valid, first, last, hour, minute,
      second, offset, whole, h.inRange]
  · obtain ⟨leap, final⟩ := h.nanos.resolve_left ordinary
    have time : t.clock = ⟨t.clock.hour, t.clock.minute, 59⟩ := by rw [← final]
    have nanos : t.nanos % 1000000000 + 1000000000 = t.nanos := by omega
    simp [ofParts?, ordinary, final, nanos, valid, first, last, hour, minute, offset, ← time, whole,
      h.inRange]

/-- An instant in the calendar is read from the text that it is written as. -/
theorem parseLoose?_formatStamp (h : t.Proper) : parseLoose? t.formatStamp = some t := by
  obtain ⟨january, december, first, last⟩ := Date.bounds_of_isValid (Date.isValid_ofDays t.days)
  have text : t.formatStamp.toList = (dateText t.date).toList ++
      'T' :: ((clockText t).toList ++ ((fractionText t.nanos).toList ++ ['Z'])) := by
    simp [formatStamp]
  have date (rest : List Char) :
      looseDate? ((dateText t.date).toList ++ 'T' :: rest) = some (t.date, 'T' :: rest) :=
    looseDate?_dateText (december.trans_lt (by decide)) (last.trans_lt (by decide)) (stops_cons rfl)
  have zulu : looseOffset? ['Z'] = some (0, []) := by decide
  unfold parseLoose?
  rw [text, date]
  simp only [Option.bind_eq_bind, Option.bind_some, true_or, if_true, looseTime?_clockText, zulu]
  exact ofParts?_parts h

end

end Playbook.Instant
