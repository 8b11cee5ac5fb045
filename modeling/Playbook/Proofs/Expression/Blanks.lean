import Mathlib
import Playbook.Expression.Parser
import Playbook.Proofs.Text.Digits

/-!
Blanks around an expression. The scanner passes over them, so a text has the tokens that it has
without the blanks at its ends, and it parses alike, unless it is too long with them.
-/
namespace Playbook

namespace Text

/-- Nothing but blanks. -/
def Blank (cs : List Char) : Prop := ∀ c ∈ cs, isBlank c = true

theorem blank_takeWhile (cs : List Char) : Blank (cs.takeWhile isBlank) :=
  List.all_eq_true.1 List.all_takeWhile

/-- What trimming leaves stands between blanks. -/
theorem exists_blanks_trimChars (cs : List Char) :
    ∃ before after, Blank before ∧ Blank after ∧ cs = before ++ (trimChars cs ++ after) := by
  refine ⟨cs.takeWhile isBlank, ((cs.dropWhile isBlank).reverse.takeWhile isBlank).reverse,
    blank_takeWhile cs, fun c mem => blank_takeWhile _ c (List.mem_reverse.1 mem), ?_⟩
  rw [trimChars, ← List.reverse_append, List.takeWhile_append_dropWhile, List.reverse_reverse,
    List.takeWhile_append_dropWhile]

theorem allBlank_trim {s : String} (h : allBlank s = true) : allBlank (trim s) = true := by
  obtain ⟨before, after, -, -, cut⟩ := exists_blanks_trimChars s.toList
  rw [allBlank, cut] at h
  simp only [List.all_append, Bool.and_eq_true] at h
  simpa [allBlank, trim] using h.2.1

end Text

namespace Expression

open Text (Blank)

variable {total total' : Nat} {c : Char} {rest left blanks more : List Char} {t : Token}

theorem isWordPart_of_isBlank (h : Text.isBlank c = true) : isWordPart c = false := by
  have bounds := Text.toNat_of_isBlank h
  have underscore : c ≠ '_' := by
    rintro rfl
    contradiction
  simp [isWordPart, Char.isAlphanum, Char.isAlpha, Char.isUpper, Char.isLower, Char.isDigit,
    UInt32.le_iff_toNat_le, underscore]
  omega

theorem isNumberPart_of_isBlank (h : Text.isBlank c = true) : isNumberPart c = false := by
  have bounds := Text.toNat_of_isBlank h
  have point : c ≠ '.' := by
    rintro rfl
    contradiction
  simp [isNumberPart, Char.isDigit, UInt32.le_iff_toNat_le, point]
  omega

/-- Nothing, or something that begins with a blank. -/
def Apart (more : List Char) : Prop := ∀ c ∈ more.head?, Text.isBlank c = true

theorem apart_nil : Apart [] := nofun

theorem apart_of_blank (blank : Blank blanks) : Apart blanks :=
  fun c first => blank c (List.mem_of_mem_head? first)

/-- A stretch ends before what does not belong to it. -/
theorem takeWhile_append_of_none {p : Char → Bool} (none : ∀ c ∈ more.head?, p c = false)
    (cs : List Char) : (cs ++ more).takeWhile p = cs.takeWhile p ∧
      (cs ++ more).dropWhile p = cs.dropWhile p ++ more := by
  induction cs with
  | nil =>
    cases more with
    | nil => exact ⟨rfl, rfl⟩
    | cons d more => simp [none d rfl]
  | cons d rest ih =>
    by_cases belongs : p d = true
    · simp [belongs, ih]
    · simp [belongs]

theorem scanString_cons {quote : Char} (plain : c ≠ '\\') : scanString quote (c :: rest) =
    if c = quote then some ([], rest)
    else (scanString quote rest).map fun (s, rest) => (c :: s, rest) := by
  rw [scanString.eq_def]
  exact if_neg plain

/-- A string is told by the characters up to its quote, whatever follows them. -/
theorem exists_scanned {quote : Char} {s : List Char} (h : scanString quote rest = some (s, left)) :
    ∃ taken, rest = taken ++ left ∧ ∀ more, scanString quote (taken ++ more) = some (s, more) := by
  induction rest using scanString.induct quote generalizing s left with
  | case1 => cases h
  | case2 => simp [scanString] at h
  | case3 d rest ih =>
    simp only [scanString, if_true, Option.map_eq_some_iff, Prod.exists, Prod.mk.injEq] at h
    obtain ⟨s, left, scanned, rfl, rfl⟩ := h
    obtain ⟨taken, rfl, told⟩ := ih scanned
    exact ⟨'\\' :: d :: taken, rfl, fun more => by simp [scanString, told]⟩
  | case4 rest plain =>
    rw [scanString_cons plain, if_pos rfl] at h
    cases h
    exact ⟨[quote], rfl, fun more => by simp [scanString_cons plain]⟩
  | case5 c rest plain inside ih =>
    simp only [scanString_cons plain, if_neg inside, Option.map_eq_some_iff, Prod.exists,
      Prod.mk.injEq] at h
    obtain ⟨s, left, scanned, rfl, rfl⟩ := h
    obtain ⟨taken, rfl, told⟩ := ih scanned
    exact ⟨c :: taken, rfl, fun more => by simp [scanString_cons plain, inside, told]⟩

/-- What follows a symbol begins with no character that it is not followed by. -/
theorem append_ne_cons {d : Char} (apart : Apart more) (notBlank : Text.isBlank d = false)
    (ne : ∀ others, rest = d :: others → False) : ∀ others, rest ++ more = d :: others → False := by
  intro others same
  cases rest with
  | nil =>
    have first := apart d (by rw [← List.nil_append more, same]; rfl)
    rw [notBlank] at first
    cases first
  | cons e rest => exact ne rest (by rw [(List.cons.inj same).1])

theorem scanSymbol_append (apart : Apart more) (h : scanSymbol total c rest = .ok (t, left)) :
    scanSymbol total' c (rest ++ more) = .ok (t, left ++ more) := by
  unfold scanSymbol at h
  split at h <;> cases h
  all_goals first
    | rfl
    | rw [scanSymbol] <;> exact append_ne_cons apart rfl ‹_›

/-- A token does not change with what a blank keeps apart from it, nor with where it stands. -/
theorem scanToken_append (apart : Apart more) (h : scanToken total c rest = .ok (t, left)) :
    scanToken total' c (rest ++ more) = .ok (t, left ++ more) := by
  have numbers := takeWhile_append_of_none
    (fun d first => isNumberPart_of_isBlank (apart d first)) rest
  have words := takeWhile_append_of_none (fun d first => isWordPart_of_isBlank (apart d first)) rest
  unfold scanToken at h ⊢
  rw [numbers.1, numbers.2, words.1, words.2]
  split at h
  · rename_i digit
    rw [if_pos digit]
    dsimp only at h ⊢
    split at h
    · rename_i number
      rw [number]
      cases h
      rfl
    · cases h
  · rename_i noDigit
    rw [if_neg noDigit]
    split at h
    · rename_i quote
      rw [if_pos quote]
      split at h
      · rename_i scanned
        cases h
        obtain ⟨taken, rfl, told⟩ := exists_scanned scanned
        rw [List.append_assoc, told]
      · cases h
    · rename_i noQuote
      rw [if_neg noQuote]
      split at h
      · rename_i word
        rw [if_pos word]
        cases h
        rfl
      · rename_i noWord
        rw [if_neg noWord]
        exact scanSymbol_append apart h

theorem scanToken_length (h : scanToken total c rest = .ok (t, left)) :
    left.length ≤ rest.length := by
  unfold scanToken at h
  split at h
  · dsimp only at h
    split at h
    · cases h
      exact (List.dropWhile_sublist _).length_le
    · cases h
  · split at h
    · split at h
      · rename_i scanned
        cases h
        obtain ⟨taken, rfl, -⟩ := exists_scanned scanned
        simp
      · cases h
    · split at h
      · cases h
        exact (List.dropWhile_sublist _).length_le
      · unfold scanSymbol at h
        split at h <;> cases h <;> simp

theorem scanFrom_nil (fuel : Nat) : scanFrom total fuel [] = .ok [] := by cases fuel <;> rfl

theorem scanFrom_blanks (blank : Blank blanks) (fuel : Nat) (cs : List Char) :
    scanFrom total (blanks.length + fuel) (blanks ++ cs) = scanFrom total fuel cs := by
  induction blanks with
  | nil => simp
  | cons c more ih =>
    rw [List.length_cons, Nat.add_right_comm, List.cons_append, scanFrom,
      if_pos (blank c (List.mem_cons_self ..))]
    exact ih fun d mem => blank d (List.mem_cons_of_mem c mem)

theorem scanFrom_of_blank (blank : Blank blanks) {fuel : Nat} (enough : blanks.length ≤ fuel) :
    scanFrom total fuel blanks = .ok [] := by
  obtain ⟨more, rfl⟩ := Nat.exists_eq_add_of_le enough
  have passed : scanFrom total _ _ = _ := scanFrom_blanks blank more []
  rwa [List.append_nil, scanFrom_nil] at passed

/-- The tokens of a text do not change with the blanks after it. -/
theorem scanFrom_append (blank : Blank blanks) {fuel fuel' : Nat} {cs : List Char}
    {ts : List Token} (h : scanFrom total fuel cs = .ok ts) (enough : cs.length ≤ fuel)
    (enough' : cs.length + blanks.length ≤ fuel') :
    scanFrom total' fuel' (cs ++ blanks) = .ok ts := by
  induction fuel generalizing cs fuel' ts with
  | zero =>
    cases List.length_eq_zero_iff.1 (Nat.le_zero.1 enough)
    cases h
    exact scanFrom_of_blank blank (by simpa using enough')
  | succ fuel ih =>
    cases cs with
    | nil =>
      cases h
      exact scanFrom_of_blank blank (by simpa using enough')
    | cons c rest =>
      obtain ⟨fuel', rfl⟩ := Nat.exists_eq_add_one.2
        (Nat.lt_of_lt_of_le (Nat.succ_pos _) (Nat.le_trans (Nat.le_add_right ..) enough'))
      simp only [List.length_cons] at enough enough'
      rw [scanFrom] at h
      rw [List.cons_append, scanFrom]
      split at h
      · rename_i skipped
        rw [if_pos skipped]
        exact ih h (by omega) (by omega)
      · rename_i solid
        rw [if_neg solid]
        cases first : scanToken total c rest with
        | error cause => simp [bind, Except.bind, first] at h
        | ok found =>
          obtain ⟨t, left⟩ := found
          have shorter := scanToken_length first
          cases others : scanFrom total fuel left with
          | error cause => simp [bind, Except.bind, first, others] at h
          | ok tokens =>
            have told : scanToken total' c (rest ++ blanks) = _ :=
              scanToken_append (apart_of_blank blank) first
            have onward : scanFrom total' fuel' (left ++ blanks) = _ :=
              ih others (by omega) (by omega)
            simpa [bind, Except.bind, first, others, told, onward] using h

/-- A text has the tokens that it has without the blanks at its ends. -/
theorem tokenize_of_trim {s : String} {ts : List Token} (h : tokenize (Text.trim s) = .ok ts) :
    tokenize s = .ok ts := by
  obtain ⟨before, after, blank, blank', cut⟩ := Text.exists_blanks_trimChars s.toList
  rw [tokenize, Text.trim, String.toList_ofList] at h
  generalize Text.trimChars s.toList = inner at h cut
  rw [tokenize, cut, List.length_append, List.length_append, scanFrom_blanks blank]
  exact scanFrom_append blank' h (Nat.le_refl _) (Nat.le_refl _)

theorem parse_eq_ok_iff {limits : Limits} {s : String} {p : Parsed} : parse limits s = .ok p ↔
    p.source = s ∧ s.utf8ByteSize ≤ limits.maxLength ∧ Text.allBlank s = false ∧
      ∃ ts, tokenize s = .ok ts ∧ parseTokens limits.maxDepth ts = .ok p.root := by
  obtain ⟨source, root⟩ := p
  unfold parse
  split
  · rename_i long
    exact ⟨nofun, fun h => absurd h.2.1 (Nat.not_le.2 long)⟩
  · rename_i short
    split
    · rename_i blank
      exact ⟨nofun, fun h => by simp [h.2.2.1] at blank⟩
    · rename_i visible
      cases scanned : tokenize s with
      | error cause => exact ⟨nofun, fun ⟨_, _, _, _, tokens, _⟩ => nomatch tokens⟩
      | ok ts =>
        change parseTokens limits.maxDepth ts >>= _ = _ ↔ _
        cases parsed : parseTokens limits.maxDepth ts with
        | error cause => simp [bind, Except.bind, parsed]
        | ok e => simp [bind, Except.bind, parsed, visible, Nat.not_lt.1 short, eq_comm]

/-- A text that parses without the blanks at its ends parses with them too, as the same tree, unless
it is too long with them. -/
theorem parse_of_trim {limits : Limits} {s : String} {p : Parsed}
    (h : parse limits (Text.trim s) = .ok p) : parse limits s =
      if limits.maxLength < s.utf8ByteSize then .error (.tooLong limits.maxLength)
      else .ok ⟨s, p.root⟩ := by
  obtain ⟨-, -, visible, ts, scanned, parsed⟩ := parse_eq_ok_iff.1 h
  split
  · rename_i long
    exact if_pos long
  · rename_i short
    refine parse_eq_ok_iff.2 ⟨rfl, Nat.not_lt.1 short, ?_, ts, tokenize_of_trim scanned, parsed⟩
    refine Bool.eq_false_iff.2 fun blank => ?_
    rw [Text.allBlank_trim blank] at visible
    cases visible

end Expression
end Playbook
