import Playbook.Json.Record
import Playbook.Proofs.Json.Numeral
import Playbook.Proofs.Json.Order

/-!
Values that are read back from their texts. A text in quotes is read back whatever its characters
are; a value is, in order, when its numbers are and it is not nested too deep.
-/
namespace Playbook.Json

/-! ### Texts in quotes -/

theorem hexValue?_hexDigit : ∀ d < 16, hexValue? (hexDigit d) = some d := by decide

theorem unicodeEscape?_control {n : Nat} (control : n < 32) (rest : List Char) :
    unicodeEscape? ('0' :: '0' :: hexDigit (n / 16) :: hexDigit (n % 16) :: rest) =
      some (Char.ofNat n, rest) := by
  have high := hexValue?_hexDigit (n / 16) (by omega)
  have low := hexValue?_hexDigit (n % 16) (by omega)
  have unit : hexUnit? ('0' :: '0' :: hexDigit (n / 16) :: hexDigit (n % 16) :: rest) =
      some (n, rest) := by
    have zero : hexValue? '0' = some 0 := by decide
    simp [hexUnit?, zero, high, low]
    omega
  rw [unicodeEscape?, unit]
  simp only [Option.bind_eq_bind, Option.bind_some]
  rw [if_neg (by omega), if_neg (by omega)]

section
variable {fuel : Nat} {c : Char} {acc rest cs : List Char}

/-- What a character is written as is read as that character. -/
theorem readText?_escapeChar :
    readText? (fuel + 1) (escapeChar c ++ rest) acc = readText? fuel rest (c :: acc) := by
  by_cases quote : c = '"'
  · subst quote
    rfl
  by_cases backslash : c = '\\'
  · subst backslash
    rfl
  by_cases newline : c = '\n'
  · subst newline
    rfl
  by_cases carriageReturn : c = '\r'
  · subst carriageReturn
    rfl
  by_cases tab : c = '\t'
  · subst tab
    rfl
  have same := Char.ofNat_toNat c
  by_cases backspace : c.toNat = 8
  · rw [backspace] at same
    subst same
    rfl
  by_cases formFeed : c.toNat = 12
  · rw [formFeed] at same
    subst same
    rfl
  by_cases control : c.toNat < 32
  · have escape := unicodeEscape?_control control rest
    rw [same] at escape
    simp [escapeChar, quote, backslash, newline, carriageReturn, tab, backspace, formFeed, control,
      readText?, escape]
  · simp [escapeChar, quote, backslash, newline, carriageReturn, tab, backspace, formFeed, control,
      readText?]

theorem readText?_flatMap (enough : cs.length < fuel) :
    readText? fuel (cs.flatMap escapeChar ++ '"' :: rest) acc =
      some (String.ofList (acc.reverse ++ cs), rest) := by
  induction cs generalizing fuel acc with
  | nil =>
    obtain ⟨fuel, rfl⟩ := Nat.exists_eq_add_one.2 enough
    simp [readText?]
  | cons c cs ih =>
    obtain ⟨fuel, rfl⟩ := Nat.exists_eq_add_one.2 (Nat.zero_lt_of_lt enough)
    rw [List.flatMap_cons, List.append_assoc, readText?_escapeChar, ih (by simpa using enough)]
    simp

theorem length_le_length_escaped (cs : List Char) :
    cs.length ≤ (cs.flatMap escapeChar).length := by
  induction cs with
  | nil => exact Nat.le_refl 0
  | cons c cs ih =>
    have escaped : 0 < (escapeChar c).length := by
      unfold escapeChar
      repeat' split
      all_goals simp
    simp only [List.flatMap_cons, List.length_append, List.length_cons]
    omega

theorem readText?_quote (s : String) (rest : List Char) :
    ∃ tail, (quote s).toList ++ rest = '"' :: tail ∧
      readText? (tail.length + 1) tail [] = some (s, rest) := by
  refine ⟨s.toList.flatMap escapeChar ++ '"' :: rest, by simp [quote], ?_⟩
  have enough : s.toList.length < (s.toList.flatMap escapeChar ++ '"' :: rest).length + 1 := by
    have escaped := length_le_length_escaped s.toList
    rw [List.length_append]
    omega
  rw [readText?_flatMap enough]
  simp

end

/-! ### Values -/

/-- A value that is nested at most `room` deep, with numbers that are read back. -/
inductive Value.Legible : (room : Nat) → Value → Prop
  | null {room : Nat} : Legible room .null
  | bool {room : Nat} (b : Bool) : Legible room (.bool b)
  | number {room : Nat} {n : Number} : n.Legible → Legible room (.number n)
  | text {room : Nat} (s : String) : Legible room (.text s)
  | list {room : Nat} {items : List Value} :
      (∀ v ∈ items, Legible room v) → Legible (room + 1) (.list items)
  | object {room : Nat} {entries : List (String × Value)} :
      (∀ e ∈ entries, Legible room e.2) → Legible (room + 1) (.object entries)

namespace Value

variable {room : Nat}

@[simp] theorem legible_null : Legible room .null := .null

@[simp] theorem legible_bool (b : Bool) : Legible room (.bool b) := .bool b

@[simp] theorem legible_text (s : String) : Legible room (.text s) := .text s

@[simp] theorem legible_number {n : Number} : Legible room (.number n) ↔ n.Legible := by
  refine ⟨fun h => ?_, .number⟩
  cases h with
  | number legible => exact legible

@[simp] theorem legible_list {items : List Value} :
    Legible (room + 1) (.list items) ↔ ∀ v ∈ items, v.Legible room := by
  refine ⟨fun h => ?_, .list⟩
  cases h with
  | list each => exact each

@[simp] theorem legible_object {entries : List (String × Value)} :
    Legible (room + 1) (.object entries) ↔ ∀ e ∈ entries, e.2.Legible room := by
  refine ⟨fun h => ?_, .object⟩
  cases h with
  | object each => exact each

theorem legible_ofNat {n : Nat} (fits : n ≤ maxCount64) : Legible room (.ofNat n) := by
  have bound : n ≤ 2 ^ 64 - 1 := fits
  exact .number (Number.legible_int (by omega) (by omega))

theorem legible_ofNat? {o : Option Nat} (fits : ∀ n ∈ o, n ≤ maxCount64) :
    Legible room (.ofNat? o) := by
  cases o with
  | none => exact .null
  | some n => exact legible_ofNat (fits n rfl)

theorem legible_texts (items : List String) : Legible (room + 1) (.texts items) := by
  simp [texts]

end Value

/-- The text of a value is read as the value, in order, whatever may follow it. -/
def Value.ReadBack (room : Nat) (v : Value) : Prop :=
  ∀ fuel rest, Ends rest → 2 * v.print.toList.length + 1 ≤ fuel →
    readValue? room fuel (v.print.toList ++ rest) = some (v.ordered, rest)

theorem skipSpaces_cons {c : Char} {cs : List Char} (h : isSpace c = false) :
    skipSpaces (c :: cs) = c :: cs := by
  simp [skipSpaces, h]

theorem head_of_numeral {c : Char} (h : c = '-' ∨ c.isDigit = true) :
    isSpace c = false ∧ c ≠ 'n' ∧ c ≠ 't' ∧ c ≠ 'f' ∧ c ≠ '"' ∧ c ≠ '[' ∧ c ≠ ']' ∧ c ≠ '\x7b' := by
  rcases h with rfl | digit
  · decide
  · have other : ∀ d : Char, d.isDigit = false → c ≠ d := fun d stop same => by
      rw [same, stop] at digit
      cases digit
    have space : isSpace c = false := by
      simp [isSpace, other ' ' rfl, other '\n' rfl, other '\t' rfl, other '\r' rfl]
    exact ⟨space, other _ rfl, other _ rfl, other _ rfl, other _ rfl, other _ rfl, other _ rfl,
      other _ rfl⟩

theorem Number.Legible.starts {n : Number} (h : n.Legible) :
    ∃ c cs, n.print.toList = c :: cs ∧ (c = '-' ∨ c.isDigit = true) := by
  cases text : n.print.toList with
  | nil =>
    rw [Legible, text] at h
    cases h
  | cons c cs =>
    rw [Legible, text] at h
    exact ⟨c, cs, rfl, head_of_readNumber? h⟩

theorem toList_print_text (s : String) :
    (Value.text s).print.toList = '"' :: (s.toList.flatMap escapeChar ++ ['"']) := by
  simp [Value.print, quote]

theorem toList_print_list (items : List Value) :
    (Value.list items).print.toList = '[' :: ((printItems items).toList ++ [']']) := by
  simp [Value.print]

theorem toList_print_object (entries : List (String × Value)) :
    (Value.object entries).print.toList = '\x7b' :: ((printEntries entries).toList ++ ['\x7d']) := by
  simp [Value.print]

/-- A text of a value starts with a character that is neither a blank nor a closing bracket. -/
theorem Value.Legible.starts {room : Nat} {v : Value} (h : v.Legible room) :
    ∃ c cs, v.print.toList = c :: cs ∧ isSpace c = false ∧ c ≠ ']' := by
  cases h with
  | null => exact ⟨'n', _, rfl, by decide, by decide⟩
  | bool b =>
    cases b
    · exact ⟨'f', _, rfl, by decide, by decide⟩
    · exact ⟨'t', _, rfl, by decide, by decide⟩
  | number legible =>
    obtain ⟨c, cs, text, first⟩ := legible.starts
    obtain ⟨space, -, -, -, -, -, bracket, -⟩ := head_of_numeral first
    exact ⟨c, cs, by rw [print, text], space, bracket⟩
  | text s => exact ⟨'"', _, toList_print_text s, by decide, by decide⟩
  | list => exact ⟨'[', _, toList_print_list _, by decide, by decide⟩
  | object => exact ⟨'\x7b', _, toList_print_object _, by decide, by decide⟩

section
variable {room fuel : Nat} {rest : List Char}

theorem ends_cons {c : Char} (h : c = ',' ∨ c = ']' ∨ c = '\x7d') : Ends (c :: rest) := by
  simpa [Ends] using h

theorem readItems?_print {items acc : List Value} (each : ∀ v ∈ items, v.ReadBack room)
    (nonempty : items ≠ []) (enough : 2 * (printItems items).toList.length + 2 ≤ fuel) :
    readItems? room fuel ((printItems items).toList ++ ']' :: rest) acc =
      some (.list (acc.reverse ++ items.map Value.ordered), rest) := by
  induction items generalizing fuel acc with
  | nil => exact absurd rfl nonempty
  | cons v vs ih =>
    obtain ⟨fuel, rfl⟩ := Nat.exists_eq_add_one.2 (Nat.lt_of_lt_of_le (Nat.succ_pos _) enough)
    obtain ⟨first, others⟩ := List.forall_mem_cons.1 each
    cases vs with
    | nil =>
      have read := first fuel (']' :: rest) (ends_cons (by simp)) (by simpa [printItems] using enough)
      rw [printItems, readItems?, read]
      simp [skipSpaces_cons (c := ']') rfl]
    | cons w ws =>
      have text : (printItems (v :: w :: ws)).toList ++ ']' :: rest =
          v.print.toList ++ ',' :: ((printItems (w :: ws)).toList ++ ']' :: rest) := by
        simp [printItems]
      have length : (printItems (v :: w :: ws)).toList.length =
          v.print.toList.length + 1 + (printItems (w :: ws)).toList.length := by
        simp [printItems, Nat.add_assoc, Nat.add_comm 1]
      have read := first fuel (',' :: ((printItems (w :: ws)).toList ++ ']' :: rest))
        (ends_cons (by simp)) (by omega)
      have later := @ih fuel (v.ordered :: acc) others (by simp) (by omega)
      rw [text, readItems?, read]
      simp [skipSpaces_cons (c := ',') rfl, later]

section
variable {k : String} {v : Value} {acc : List (String × Value)}

theorem readEntries?_more
    (read : readValue? room fuel (v.print.toList ++ ',' :: rest) = some (v.ordered, ',' :: rest)) :
    readEntries? room (fuel + 1) ((quote k).toList ++ ':' :: (v.print.toList ++ ',' :: rest)) acc =
      readEntries? room fuel rest (Keyed.put k v.ordered acc) := by
  obtain ⟨tail, text, key⟩ := readText?_quote k (':' :: (v.print.toList ++ ',' :: rest))
  rw [text, readEntries?]
  simp [skipSpaces_cons (c := '"') rfl, key, skipSpaces_cons (c := ':') rfl, read,
    skipSpaces_cons (c := ',') rfl]

theorem readEntries?_last
    (read : readValue? room fuel (v.print.toList ++ '\x7d' :: rest) =
      some (v.ordered, '\x7d' :: rest)) :
    readEntries? room (fuel + 1) ((quote k).toList ++ ':' :: (v.print.toList ++ '\x7d' :: rest)) acc =
      some (.object (Keyed.put k v.ordered acc), rest) := by
  obtain ⟨tail, text, key⟩ := readText?_quote k (':' :: (v.print.toList ++ '\x7d' :: rest))
  rw [text, readEntries?]
  simp [skipSpaces_cons (c := '"') rfl, key, skipSpaces_cons (c := ':') rfl, read,
    skipSpaces_cons (c := '\x7d') rfl]

end

theorem readEntries?_print {entries acc : List (String × Value)}
    (each : ∀ e ∈ entries, e.2.ReadBack room) (nonempty : entries ≠ [])
    (enough : 2 * (printEntries entries).toList.length + 2 ≤ fuel) :
    readEntries? room fuel ((printEntries entries).toList ++ '\x7d' :: rest) acc =
      some (.object ((Keyed.mapValues Value.ordered entries).foldl
        (fun table e => Keyed.put e.1 e.2 table) acc), rest) := by
  induction entries generalizing fuel acc with
  | nil => exact absurd rfl nonempty
  | cons e es ih =>
    obtain ⟨k, v⟩ := e
    obtain ⟨fuel, rfl⟩ := Nat.exists_eq_add_one.2 (Nat.lt_of_lt_of_le (Nat.succ_pos _) enough)
    obtain ⟨first, others⟩ := List.forall_mem_cons.1 each
    cases es with
    | nil =>
      have text : (printEntries [(k, v)]).toList ++ '\x7d' :: rest =
          (quote k).toList ++ ':' :: (v.print.toList ++ '\x7d' :: rest) := by
        simp [printEntries]
      have length : v.print.toList.length ≤ (printEntries [(k, v)]).toList.length := by
        simp [printEntries]
        omega
      have read := first fuel ('\x7d' :: rest) (ends_cons (by simp)) (by dsimp only; omega)
      rw [text, readEntries?_last read]
      rfl
    | cons e es =>
      have text : (printEntries ((k, v) :: e :: es)).toList ++ '\x7d' :: rest =
          (quote k).toList ++
            ':' :: (v.print.toList ++ ',' :: ((printEntries (e :: es)).toList ++ '\x7d' :: rest)) := by
        simp [printEntries]
      have length : v.print.toList.length + 1 + (printEntries (e :: es)).toList.length ≤
          (printEntries ((k, v) :: e :: es)).toList.length := by
        simp [printEntries]
        omega
      have read := first fuel (',' :: ((printEntries (e :: es)).toList ++ '\x7d' :: rest))
        (ends_cons (by simp)) (by dsimp only; omega)
      rw [text, readEntries?_more read, ih others (by simp) (by omega)]
      rfl

end

section
variable {room fuel : Nat} {rest : List Char}

theorem readValue?_number {n : Number} (legible : n.Legible) (ends : Ends rest) :
    readValue? room (fuel + 1) (n.print.toList ++ rest) = some (.number n, rest) := by
  obtain ⟨c, cs, text, first⟩ := legible.starts
  obtain ⟨space, null, true', false', quote, list, -, object⟩ := head_of_numeral first
  have read := readNumber?_append ends legible
  rw [text, List.cons_append, List.nil_append] at read
  rw [text, List.cons_append, readValue?, skipSpaces_cons space]
  split <;> rename_i same
  · exact absurd (List.cons.inj same).1 null
  · exact absurd (List.cons.inj same).1 true'
  · exact absurd (List.cons.inj same).1 false'
  · exact absurd (List.cons.inj same).1 quote
  · exact absurd (List.cons.inj same).1 list
  · cases same
    rw [if_neg object, read]
    rfl
  · cases same

theorem readValue?_text (s : String) :
    readValue? room (fuel + 1) ((Value.text s).print.toList ++ rest) = some (.text s, rest) := by
  obtain ⟨tail, text, read⟩ := readText?_quote s rest
  rw [Value.print, text, readValue?, skipSpaces_cons (c := '"') rfl]
  simp [read]

theorem readValue?_bracket {c : Char} {cs : List Char} (space : isSpace c = false)
    (bracket : c ≠ ']') :
    readValue? (room + 1) (fuel + 1) ('[' :: c :: cs) = readItems? room fuel (c :: cs) [] := by
  rw [readValue?, skipSpaces_cons (c := '[') rfl]
  simp [skipSpaces_cons space, bracket]

theorem readValue?_brace {cs : List Char} :
    readValue? (room + 1) (fuel + 1) ('\x7b' :: '"' :: cs) = readEntries? room fuel ('"' :: cs) [] := by
  rw [readValue?, skipSpaces_cons (c := '\x7b') rfl]
  simp [skipSpaces_cons (c := '"') rfl]

theorem readValue?_list {items : List Value} (legible : ∀ v ∈ items, v.Legible room)
    (each : ∀ v ∈ items, v.ReadBack room)
    (enough : 2 * (printItems items).toList.length + 2 ≤ fuel) :
    readValue? (room + 1) (fuel + 1) ((Value.list items).print.toList ++ rest) =
      some (.list (items.map Value.ordered), rest) := by
  rw [toList_print_list, List.cons_append, List.append_assoc, List.singleton_append]
  cases items with
  | nil =>
    rw [readValue?, skipSpaces_cons (c := '[') rfl]
    simp [printItems, skipSpaces_cons (c := ']') rfl]
  | cons v vs =>
    obtain ⟨c, cs, text, space, bracket⟩ := (legible v (by simp)).starts
    obtain ⟨tail, starts⟩ : ∃ tail, (printItems (v :: vs)).toList ++ ']' :: rest = c :: tail := by
      cases vs <;> simp [printItems, text]
    rw [starts, readValue?_bracket space bracket, ← starts]
    exact readItems?_print each (by simp) enough

theorem readValue?_object {entries : List (String × Value)}
    (each : ∀ e ∈ entries, e.2.ReadBack room)
    (enough : 2 * (printEntries entries).toList.length + 2 ≤ fuel) :
    readValue? (room + 1) (fuel + 1) ((Value.object entries).print.toList ++ rest) =
      some (.table (Keyed.mapValues Value.ordered entries), rest) := by
  rw [toList_print_object, List.cons_append, List.append_assoc, List.singleton_append]
  cases entries with
  | nil =>
    rw [readValue?, skipSpaces_cons (c := '\x7b') rfl]
    simp [printEntries, skipSpaces_cons (c := '\x7d') rfl]
    rfl
  | cons e es =>
    obtain ⟨tail, starts⟩ :
        ∃ tail, (printEntries (e :: es)).toList ++ '\x7d' :: rest = '"' :: tail := by
      obtain ⟨k, v⟩ := e
      cases es <;> simp [printEntries, quote]
    rw [starts, readValue?_brace, ← starts]
    exact readEntries?_print each (by simp) enough

end

theorem Value.Legible.readBack {room : Nat} {v : Value} (h : v.Legible room) : v.ReadBack room := by
  induction h with
  | null =>
    intro fuel rest _ enough
    obtain ⟨fuel, rfl⟩ := Nat.exists_eq_add_one.2 (Nat.lt_of_lt_of_le (Nat.succ_pos _) enough)
    simp [print, readValue?, skipSpaces_cons (c := 'n') rfl, ordered]
  | bool b =>
    intro fuel rest _ enough
    obtain ⟨fuel, rfl⟩ := Nat.exists_eq_add_one.2 (Nat.lt_of_lt_of_le (Nat.succ_pos _) enough)
    cases b
    · simp [print, readValue?, skipSpaces_cons (c := 'f') rfl, ordered]
    · simp [print, readValue?, skipSpaces_cons (c := 't') rfl, ordered]
  | number legible =>
    intro fuel rest ends enough
    obtain ⟨fuel, rfl⟩ := Nat.exists_eq_add_one.2 (Nat.lt_of_lt_of_le (Nat.succ_pos _) enough)
    rw [print, readValue?_number legible ends]
    simp [ordered]
  | text s =>
    intro fuel rest _ enough
    obtain ⟨fuel, rfl⟩ := Nat.exists_eq_add_one.2 (Nat.lt_of_lt_of_le (Nat.succ_pos _) enough)
    rw [readValue?_text]
    simp [ordered]
  | list legible ih =>
    intro fuel rest _ enough
    obtain ⟨fuel, rfl⟩ := Nat.exists_eq_add_one.2 (Nat.lt_of_lt_of_le (Nat.succ_pos _) enough)
    rw [toList_print_list] at enough
    simp only [List.length_cons, List.length_append, List.length_nil] at enough
    rw [readValue?_list legible ih (by omega), ordered, orderedItems_eq_map]
  | object _ ih =>
    intro fuel rest _ enough
    obtain ⟨fuel, rfl⟩ := Nat.exists_eq_add_one.2 (Nat.lt_of_lt_of_le (Nat.succ_pos _) enough)
    rw [toList_print_object] at enough
    simp only [List.length_cons, List.length_append, List.length_nil] at enough
    rw [readValue?_object ih (by omega), ordered, orderedEntries_eq_mapValues]

/-- The text of a legible value holds that value. -/
theorem parse?_print {v : Value} (h : v.Legible maxNesting) : parse? v.print = some v.ordered := by
  have read := h.readBack (2 * v.print.toList.length + 2) [] (by simp [Ends]) (by omega)
  rw [List.append_nil] at read
  simp [parse?, read, skipSpaces]

end Playbook.Json
