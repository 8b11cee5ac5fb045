import Playbook.Proofs.Instant.Stamp

/-!
Texts of instants after RFC 3339, which are read strictly. In the years 0 to 9999 an instant is read
back from its text, and from the text without a fraction to the whole second. The text of any other
year starts with a sign, which no text does that is read.
-/
namespace Playbook.Instant

/-- The second that an instant lies in; a leap second is one of its own. -/
def wholeSecond (t : Instant) : Instant := ⟨t.seconds, t.nanos - t.nanos % 1000000000⟩

/-- The first second that a text can say: the year 0 begins where clocks are most ahead. -/
def firstSecond : Int := (⟨0, 1, 1⟩ : Date).toDays * secondsPerDay - 86340

/-- The year has four digits. -/
def FourDigit (t : Instant) : Prop := 0 ≤ t.date.year ∧ t.date.year ≤ 9999

instance (t : Instant) : Decidable t.FourDigit := inferInstanceAs (Decidable (_ ∧ _))

/-! ### Parts -/

section
variable {ds rest : List Char} {w n : Nat}

theorem readDigits_append (digits : ∀ c ∈ ds, c.isDigit = true) (value : Nat) :
    readDigits ds.length value (ds ++ rest) = .ok (Nat.ofDigitChars 10 ds value, rest) := by
  induction ds generalizing value with
  | nil => rfl
  | cons c ds ih =>
    obtain ⟨digit, digits⟩ := List.forall_mem_cons.1 digits
    have first : readDigit (c :: (ds ++ rest)) = .ok (c.toNat - '0'.toNat, ds ++ rest) :=
      if_pos digit
    rw [List.length_cons, List.cons_append, readDigits, first, Nat.ofDigitChars_cons,
      Nat.mul_comm 10]
    exact ih digits _

theorem readDigits_padded (pos : 0 < w) (small : n < 10 ^ w) :
    readDigits w 0 ((padded w n).toList ++ rest) = .ok (n, rest) := by
  obtain ⟨-, digits, value, length⟩ := padded_digits w n
  have read : readDigits (padded w n).toList.length 0 ((padded w n).toList ++ rest) =
      .ok (Nat.ofDigitChars 10 (padded w n).toList 0, rest) := readDigits_append digits 0
  rwa [length pos small, value] at read

theorem readDigits_two (small : n < 100) :
    readDigits 2 0 ((padded 2 n).toList ++ rest) = .ok (n, rest) :=
  readDigits_padded (by decide) small

theorem le_length_padded (w n : Nat) : w ≤ (padded w n).toList.length := by
  simp [padded]
  omega

theorem readOne_cons {c : Char} {allowed : List Char} (mem : allowed.contains c = true) :
    readOne allowed (c :: rest) = .ok ((), rest) := if_pos mem

theorem yearText_fourDigit {year : Int} (h : 0 ≤ year ∧ year ≤ 9999) :
    yearText year = padded 4 year.toNat := if_pos h

/-- Any other year has a sign. -/
theorem yearText_signed {year : Int} (h : ¬(0 ≤ year ∧ year ≤ 9999)) :
    ∃ sign cs, (yearText year).toList = sign :: cs ∧ (sign = '+' ∨ sign = '-') := by
  rw [yearText, if_neg h]
  by_cases negative : year < 0
  · exact ⟨'-', (padded 4 year.natAbs).toList, by simp [negative], .inr rfl⟩
  · exact ⟨'+', (padded 4 year.natAbs).toList, by simp [negative], .inl rfl⟩

end

theorem Proper.nanos_cases {t : Instant} (h : t.Proper) :
    t.writtenSecond = 60 ∧ t.clock.second = 59 ∧ t.nanos - t.nanos % 1000000000 = 1000000000 ∨
      t.writtenSecond = t.clock.second ∧ t.nanos - t.nanos % 1000000000 = 0 := by
  unfold writtenSecond
  rcases h.nanos with ordinary | ⟨leap, last⟩
  · exact .inr ⟨if_pos ordinary, by omega⟩
  · by_cases ordinary : t.nanos < 1000000000
    · exact .inr ⟨if_pos ordinary, by omega⟩
    · exact .inl ⟨by rw [if_neg ordinary, last], last, by omega⟩

/-! ### The reader in parts -/

def readDate (cs : List Char) : Except StampError (Date × List Char) := do
  let (year, cs) ← readDigits 4 0 cs
  let (_, cs) ← readOne ['-'] cs
  let (month, cs) ← readDigits 2 0 cs
  let (_, cs) ← readOne ['-'] cs
  let (day, cs) ← readDigits 2 0 cs
  let date : Date := ⟨year, month, day⟩
  if !date.isValid then .error .outOfRange
  .ok (date, cs)

/-- The nanoseconds of a fraction, if there is one. -/
def readNanos (cs : List Char) : Except StampError (Nat × List Char) :=
  match cs with
  | '.' :: rest => readFraction rest
  | _ => .ok (0, cs)

theorem readNanos_of_ne {cs : List Char} (plain : ∀ rest, cs = '.' :: rest → False) :
    readNanos cs = .ok (0, cs) := by
  unfold readNanos
  split
  · exact (plain _ rfl).elim
  · rfl

/-- The time of day and the nanoseconds, which hold the second of a leap second. -/
def readTime (cs : List Char) : Except StampError (Clock × Nat × List Char) := do
  let (hour, cs) ← readDigits 2 0 cs
  let (_, cs) ← readOne [':'] cs
  let (minute, cs) ← readDigits 2 0 cs
  let (_, cs) ← readOne [':'] cs
  let (second, cs) ← readDigits 2 0 cs
  let (nanos, cs) ← readNanos cs
  let (second, nanos) := if second = 60 then (59, nanos + 1000000000) else (second, nanos)
  if 24 ≤ hour ∨ 60 ≤ minute ∨ 60 ≤ second then .error .outOfRange
  .ok (⟨hour, minute, second⟩, nanos, cs)

/-- A step of a part is a step of the whole. -/
theorem bind_chain {α β γ : Type} {x : Except StampError α} {f : α → Except StampError β}
    {g : β → Except StampError γ} {h : α → Except StampError γ} (step : ∀ a, f a >>= g = h a) :
    (x >>= f) >>= g = x >>= h := by
  cases x with
  | error => rfl
  | ok a => exact step a

theorem check_chain {α β : Type} {bad : Prop} [Decidable bad] {e : StampError} {a : α}
    {f : α → Except StampError β} :
    (if bad then (.error e >>= fun _ : PUnit => .ok a) else .ok a) >>= f =
      if bad then (.error e >>= fun _ : PUnit => f a) else f a := by
  split <;> rfl

/-- A text is read by its date, its time of day and its offset, one after the other. -/
theorem parse_eq (s : String) : parse s = (do
    if s.utf8ByteSize < 19 then .error .tooShort
    let (date, cs) ← readDate s.toList
    let (_, cs) ← readOne ['T', 't', ' '] cs
    let (clock, nanos, cs) ← readTime cs
    let (offset, cs) ← readOffset cs
    if !cs.isEmpty then .error .trailing
    if offset ≤ -secondsPerDay ∨ secondsPerDay ≤ offset then .error .outOfRange
    let t := ofDate date clock nanos
    .ok { t with seconds := t.seconds - offset }) := by
  unfold parse
  by_cases short : s.utf8ByteSize < 19
  · rw [if_pos short, if_pos short]
    rfl
  rw [if_neg short, if_neg short]
  symm
  refine bind_chain fun year => bind_chain fun _ => bind_chain fun month => bind_chain fun _ =>
    bind_chain fun day => check_chain.trans ?_
  congr 1
  refine bind_congr fun between => ?_
  refine bind_chain fun hour => bind_chain fun _ => bind_chain fun minute => bind_chain fun _ =>
    bind_chain fun second => ?_
  obtain ⟨second, cs⟩ := second
  dsimp only
  symm
  -- The whole of what follows stands behind a fraction and behind none.
  split
  · refine (bind_chain fun fraction => ?_).symm
    exact check_chain
  · rw [readNanos_of_ne ‹_›]
    refine (bind_chain fun fraction => ?_).symm
    exact check_chain

/-! ### Reading what is written -/

section
variable {t u : Instant} {d : Date} {rest : List Char}

theorem readDate_dateText (valid : d.isValid = true) (year : 0 ≤ d.year ∧ d.year ≤ 9999) :
    readDate ((dateText d).toList ++ rest) = .ok (d, rest) := by
  obtain ⟨january, december, first, last⟩ := Date.bounds_of_isValid valid
  have years : d.year.toNat < 10 ^ 4 := by omega
  have months : d.month < 100 := by omega
  have days : d.day < 100 := by omega
  have text : (dateText d).toList ++ rest = (padded 4 d.year.toNat).toList ++
      '-' :: ((padded 2 d.month).toList ++ '-' :: ((padded 2 d.day).toList ++ rest)) := by
    simp [dateText, yearText_fourDigit year]
  have dash (rest : List Char) : readOne ['-'] ('-' :: rest) = .ok ((), rest) := readOne_cons rfl
  have same : (⟨d.year.toNat, d.month, d.day⟩ : Date) = d := by rw [Int.toNat_of_nonneg year.1]
  simp only [readDate, text, bind, Except.bind, dash, readDigits_padded (w := 4) (by decide) years,
    readDigits_two months, readDigits_two days, same, valid]
  rfl

theorem readNanos_fractionText (n : Nat) :
    readNanos ((fractionText n).toList ++ 'Z' :: rest) = .ok (n % 1000000000, 'Z' :: rest) := by
  rcases fractionText_cases n with ⟨none, whole⟩ | ⟨w, m, pos, short, small, value, fraction⟩
  · simp [none, whole, readNanos]
  · have zulu : Stops ('Z' :: rest) := stops_cons rfl
    simp [fraction, readNanos, readFraction_padded pos short small zulu, value]

/-- A leap second is written as the sixtieth, and read as a second more of nanoseconds. -/
theorem readTime_clockText (h : t.Proper) (n : Nat) :
    readTime ((clockText t).toList ++ ((fractionText n).toList ++ 'Z' :: rest)) =
      .ok (t.clock, t.nanos - t.nanos % 1000000000 + n % 1000000000, 'Z' :: rest) := by
  obtain ⟨hours, minutes, seconds⟩ := clock_bounds t
  have hour : t.clock.hour < 100 := by omega
  have minute : t.clock.minute < 100 := by omega
  have second : t.writtenSecond < 100 := by
    unfold writtenSecond
    split <;> omega
  have text (rest : List Char) : (clockText t).toList ++ rest =
      (padded 2 t.clock.hour).toList ++ ':' :: ((padded 2 t.clock.minute).toList ++
        ':' :: ((padded 2 t.writtenSecond).toList ++ rest)) := by
    simp [clockText, writtenSecond]
  have colon (rest : List Char) : readOne [':'] (':' :: rest) = .ok ((), rest) := readOne_cons rfl
  simp only [readTime, text, bind, Except.bind, colon, readDigits_two hour, readDigits_two minute,
    readDigits_two second, readNanos_fractionText]
  rcases h.nanos_cases with ⟨written, last, nanos⟩ | ⟨written, nanos⟩
  · have time : (⟨t.clock.hour, t.clock.minute, 59⟩ : Clock) = t.clock := by rw [← last]
    simp [written, nanos, hours, minutes, time, Nat.add_comm]
  · simp [written, nanos, hours, minutes, seconds, seconds.ne]

theorem length_dateText (year : 0 ≤ d.year ∧ d.year ≤ 9999) : 10 ≤ (dateText d).toList.length := by
  have years := le_length_padded 4 d.year.toNat
  have months := le_length_padded 2 d.month
  have days := le_length_padded 2 d.day
  simp [dateText, yearText_fourDigit year]
  omega

theorem length_clockText (t : Instant) : 8 ≤ (clockText t).toList.length := by
  have hours := le_length_padded 2 t.clock.hour
  have minutes := le_length_padded 2 t.clock.minute
  have seconds := le_length_padded 2 t.writtenSecond
  rw [writtenSecond] at seconds
  simp [clockText]
  omega

/-- The text of an instant with some fraction. -/
theorem parse?_stamp (h : t.Proper) (year : t.FourDigit) (n : Nat) :
    parse? (dateText t.date ++ "T" ++ clockText t ++ fractionText n ++ "Z") =
      some ⟨t.seconds, t.nanos - t.nanos % 1000000000 + n % 1000000000⟩ := by
  have valid : t.date.isValid = true := Date.isValid_ofDays t.days
  obtain ⟨s, stamp⟩ : ∃ s, s = dateText t.date ++ "T" ++ clockText t ++ fractionText n ++ "Z" :=
    ⟨_, rfl⟩
  have text : s.toList = (dateText t.date).toList ++
      'T' :: ((clockText t).toList ++ ((fractionText n).toList ++ ['Z'])) := by
    simp [stamp]
  have long : 19 ≤ s.utf8ByteSize := by
    refine Nat.le_trans ?_ (Text.length_le_utf8ByteSize s)
    rw [← String.length_toList, text]
    have date := length_dateText year
    have time := length_clockText t
    simp only [List.length_append, List.length_cons]
    omega
  have between (rest : List Char) : readOne ['T', 't', ' '] ('T' :: rest) = .ok ((), rest) :=
    readOne_cons rfl
  have zulu : readOffset ['Z'] = .ok (0, []) := rfl
  have same : ofDate t.date t.clock (t.nanos - t.nanos % 1000000000 + n % 1000000000) =
      ⟨t.seconds, t.nanos - t.nanos % 1000000000 + n % 1000000000⟩ :=
    ofDate_date ⟨t.seconds, t.nanos - t.nanos % 1000000000 + n % 1000000000⟩
  rw [← stamp, parse?, parse_eq, if_neg (Nat.not_lt.2 long), text, readDate_dateText valid year]
  simp only [bind, Except.bind, between, readTime_clockText h, zulu]
  rw [same, if_neg (c := _ ∨ _) (by decide), Int.sub_zero]
  rfl

/-- The form without a fraction says the whole second. -/
theorem parse?_format (h : t.Proper) (year : t.FourDigit) :
    parse? t.format = some t.wholeSecond := by
  have read := parse?_stamp h year 0
  simpa [format, fractionText, wholeSecond] using read

theorem parse?_formatStamp (h : t.Proper) (year : t.FourDigit) : parse? t.formatStamp = some t := by
  have read := parse?_stamp h year t.nanos
  have whole : t.nanos - t.nanos % 1000000000 + t.nanos % 1000000000 = t.nanos := by omega
  rwa [whole] at read

end

/-! ### What is read -/

section
variable {α β : Type} {s : String} {cs rest : List Char} {u : Instant}

theorem exists_of_bind {x : Except StampError α} {f : α → Except StampError β} {b : β}
    (h : x >>= f = .ok b) : ∃ a, x = .ok a ∧ f a = .ok b := by
  cases x with
  | error => cases h
  | ok a => exact ⟨a, rfl, h⟩

theorem of_check {bad : Prop} [Decidable bad] {e : StampError} {x : Except StampError α} {a : α}
    (h : (if bad then (.error e >>= fun _ : PUnit => x) else x) = .ok a) : ¬bad ∧ x = .ok a := by
  split at h
  · cases h
  · exact ⟨‹_›, h⟩

theorem readDate_eq_ok {d : Date} (h : readDate cs = .ok (d, rest)) :
    d.isValid = true ∧ 0 ≤ d.year ∧ ∃ c cs', cs = c :: cs' ∧ c.isDigit = true := by
  obtain ⟨year, read, h⟩ := exists_of_bind h
  obtain ⟨_, -, h⟩ := exists_of_bind h
  obtain ⟨month, -, h⟩ := exists_of_bind h
  obtain ⟨_, -, h⟩ := exists_of_bind h
  obtain ⟨day, -, h⟩ := exists_of_bind h
  obtain ⟨valid, h⟩ := of_check h
  obtain ⟨digit, first, -⟩ := exists_of_bind read
  cases h
  refine ⟨by simpa using valid, Int.natCast_nonneg _, ?_⟩
  cases cs with
  | nil => cases first
  | cons c cs =>
    refine ⟨c, cs, rfl, ?_⟩
    by_contra other
    rw [readDigit, if_neg other] at first
    cases first

/-- An offset is whole minutes. -/
theorem readOffset_eq_ok {offset : Int} (h : readOffset cs = .ok (offset, rest)) :
    offset % 60 = 0 := by
  cases cs with
  | nil => cases h
  | cons c cs =>
    rw [readOffset] at h
    split at h
    · cases h
      rfl
    split at h
    · obtain ⟨-, h⟩ := of_check h
      obtain ⟨hours, -, h⟩ := exists_of_bind h
      obtain ⟨_, -, h⟩ := exists_of_bind h
      obtain ⟨-, h⟩ := of_check h
      obtain ⟨tens, -, h⟩ := exists_of_bind h
      obtain ⟨units, -, h⟩ := exists_of_bind h
      obtain ⟨-, h⟩ := of_check h
      cases h
      split <;> omega
    · cases h

theorem firstDay_le {d : Date} (valid : d.isValid = true) (year : 0 ≤ d.year) :
    (⟨0, 1, 1⟩ : Date).toDays ≤ d.toDays := by
  have late := Date.lt_toDays_of_lt_year valid (Int.lt_of_lt_of_le (show -1 < 0 by decide) year)
  have next : (⟨0, 1, 1⟩ : Date).toDays = (⟨-1, 12, 31⟩ : Date).toDays + 1 := by decide
  omega

/-- What is read starts with a digit, and lies in the year 0 or later where it was written. -/
theorem parse?_eq_some (h : parse? s = some u) :
    (∃ c cs, s.toList = c :: cs ∧ c.isDigit = true) ∧ firstSecond ≤ u.seconds := by
  have h : parse s = .ok u := by
    unfold parse? at h
    cases read : parse s with
    | error =>
      rw [read] at h
      cases h
    | ok v =>
      rw [read] at h
      exact congrArg Except.ok (Option.some.inj h)
  rw [parse_eq] at h
  obtain ⟨-, h⟩ := of_check h
  obtain ⟨⟨date, _⟩, readDate, h⟩ := exists_of_bind h
  obtain ⟨_, -, h⟩ := exists_of_bind h
  obtain ⟨⟨clock, nanos, _⟩, -, h⟩ := exists_of_bind h
  obtain ⟨⟨offset, _⟩, readOffset, h⟩ := exists_of_bind h
  obtain ⟨-, h⟩ := of_check h
  obtain ⟨inside, h⟩ := of_check h
  obtain ⟨valid, year, starts⟩ := readDate_eq_ok readDate
  have minutes := readOffset_eq_ok readOffset
  have late := firstDay_le valid year
  refine ⟨starts, ?_⟩
  cases h
  simp only [not_or, Int.not_le] at inside
  rw [firstSecond, ofDate]
  unfold secondsPerDay at *
  dsimp only
  omega

/-! ### Texts with a sign -/

/-- Beyond four digits a text starts with a sign. -/
theorem format_signed (h : ¬u.FourDigit) :
    ∃ sign cs, u.format.toList = sign :: cs ∧ (sign = '+' ∨ sign = '-') := by
  obtain ⟨sign, cs, text, signed⟩ := yearText_signed h
  obtain ⟨more, parts⟩ : ∃ more, u.format.toList = (yearText u.date.year).toList ++ more :=
    ⟨_, by simp only [format, dateText, String.toList_append, List.append_assoc]; rfl⟩
  exact ⟨sign, cs ++ more, by rw [parts, text, List.cons_append], signed⟩

theorem parse?_format_signed (h : ¬u.FourDigit) : parse? u.format = none := by
  obtain ⟨sign, cs, text, signed⟩ := format_signed h
  refine Option.eq_none_iff_forall_ne_some.2 fun v read => ?_
  obtain ⟨⟨c, cs', text', digit⟩, -⟩ := parse?_eq_some read
  rw [text] at text'
  cases text'
  rcases signed with rfl | rfl <;> exact absurd digit (by decide)

end

end Playbook.Instant
