import Playbook.Proofs.Expression.Path

/-!
Tokens as they are written. Operators have symbols, some of them words in any letter case; names and
digits stand for themselves; a text stands between two quotes of a kind, and in it only such a quote
and a backslash are written with a backslash before them. Scanning undoes writing: tokens that are
kept apart by blanks are scanned from what they are written as.
-/
namespace Playbook.Expression

open Text (Blank foldl_digits takeWhile_append_of_all)

/-- The symbols, with what they stand for. -/
def symbols : List (String × Token) :=
  [("(", .lparen), (")", .rparen), ("[", .lbracket), ("]", .rbracket), (".", .dot), (",", .comma),
    ("+", .plus), ("-", .minus), ("*", .star), ("/", .slash), ("=", .eq), ("==", .eq),
    ("!=", .notEq), ("<>", .notEq), (">", .gt), (">=", .gte), ("<", .lt), ("<=", .lte),
    ("!", .not), ("&&", .and), ("||", .or)]

/-- The words that are no names, in lower case. -/
def keywords : List (String × Token) :=
  [("true", .true), ("false", .false), ("null", .null), ("and", .and), ("or", .or), ("not", .not)]

/-- Each letter of a word of lower case, or its upper case. -/
def Cased (word lower : List Char) : Prop :=
  List.Forall₂ (fun c d => c = d ∨ c = d.toUpper) word lower

/-- A text between quotes: backslashes and quotes of that kind have a backslash before them. -/
def escape (quote : Char) (s : List Char) : List Char :=
  s.flatMap fun c => if c = '\\' ∨ c = quote then ['\\', c] else [c]

/-- What a token is written as. -/
inductive Spells : List Char → Token → Prop
  | symbol {s : String} {t : Token} (mem : (s, t) ∈ symbols) : Spells s.toList t
  | keyword {s : String} {t : Token} {word : List Char} (mem : (s, t) ∈ keywords)
      (cased : Cased word s.toList) : Spells word t
  | name {s : String} (name : IsName s) : Spells s.toList (.identifier s)
  | string {quote : Char} {s : String} (mark : quote = '\'' ∨ quote = '"') :
      Spells (quote :: (escape quote s.toList ++ [quote])) (.string s)
  | whole {digits : List Char} (nonempty : digits ≠ []) (all : ∀ d ∈ digits, d.isDigit = true) :
      Spells digits (.number (Decimal.nearest (Nat.ofDigitChars 10 digits 0) 0))
  | fraction {digits places : List Char} (nonempty : digits ≠ [])
      (all : ∀ d ∈ digits, d.isDigit = true) (all' : ∀ d ∈ places, d.isDigit = true) :
      Spells (digits ++ '.' :: places)
        (.number (Decimal.nearest (Nat.ofDigitChars 10 (digits ++ places) 0) (-places.length)))

/-- Tokens as they are written one after the other, with blanks between them. -/
inductive Written : List Char → List Token → Prop
  | nil : Written [] []
  | single {s : List Char} {t : Token} (spells : Spells s t) : Written s [t]
  | cons {s gap cs : List Char} {t t' : Token} {ts : List Token} (spells : Spells s t)
      (blank : Blank gap) (nonempty : gap ≠ []) (onward : Written cs (t' :: ts)) :
      Written (s ++ (gap ++ cs)) (t :: t' :: ts)

/-! ### Tokens by themselves -/

/-- A token that a text is scanned as, to its end and wherever it stands. -/
def Scans (cs : List Char) (t : Token) : Prop :=
  ∃ c rest, cs = c :: rest ∧ Text.isBlank c = false ∧
    ∀ total, scanToken total c rest = .ok (t, [])

variable {cs rest : List Char} {c : Char} {t : Token}

theorem scans_symbol {s : String} (mem : (s, t) ∈ symbols) : Scans s.toList t := by
  simp only [symbols, List.mem_cons, Prod.mk.injEq, List.not_mem_nil, or_false] at mem
  rcases mem with ⟨rfl, rfl⟩ | ⟨rfl, rfl⟩ | ⟨rfl, rfl⟩ | ⟨rfl, rfl⟩ | ⟨rfl, rfl⟩ | ⟨rfl, rfl⟩ |
    ⟨rfl, rfl⟩ | ⟨rfl, rfl⟩ | ⟨rfl, rfl⟩ | ⟨rfl, rfl⟩ | ⟨rfl, rfl⟩ | ⟨rfl, rfl⟩ | ⟨rfl, rfl⟩ |
    ⟨rfl, rfl⟩ | ⟨rfl, rfl⟩ | ⟨rfl, rfl⟩ | ⟨rfl, rfl⟩ | ⟨rfl, rfl⟩ | ⟨rfl, rfl⟩ | ⟨rfl, rfl⟩ |
    ⟨rfl, rfl⟩ <;> exact ⟨_, _, rfl, rfl, fun _ => rfl⟩

theorem scans_word (starts : isWordStart c = true) (parts : ∀ d ∈ rest, isWordPart d = true) :
    Scans (c :: rest) (.ofWord (String.ofList (c :: rest))) := by
  have quotes : ¬(c = '\'' ∨ c = '"') := by
    rintro (rfl | rfl) <;> cases starts
  have all : (rest ++ []).takeWhile isWordPart = rest ∧ (rest ++ []).dropWhile isWordPart = [] :=
    takeWhile_append_of_all parts nofun
  rw [List.append_nil] at all
  refine ⟨c, rest, rfl, isBlank_of_isWordStart starts, fun total => ?_⟩
  rw [scanToken, if_neg (by rw [isDigit_of_isWordStart starts]; decide), if_neg quotes,
    if_pos starts, all.1, all.2]

/-- A letter of lower case, which is what its upper case is folded to. -/
def Folded (d : Char) : Prop :=
  (d.toLower = d ∧ isWordStart d = true) ∧ d.toUpper.toLower = d ∧ isWordStart d.toUpper = true

instance (d : Char) : Decidable (Folded d) := inferInstanceAs (Decidable (_ ∧ _))

theorem folded_of_keyword {s : String} (mem : (s, t) ∈ keywords) : ∀ d ∈ s.toList, Folded d := by
  simp only [keywords, List.mem_cons, Prod.mk.injEq, List.not_mem_nil, or_false] at mem
  rcases mem with ⟨rfl, -⟩ | ⟨rfl, -⟩ | ⟨rfl, -⟩ | ⟨rfl, -⟩ | ⟨rfl, -⟩ | ⟨rfl, -⟩ <;>
    (simp; decide)

theorem Cased.fold {word lower : List Char} (h : Cased word lower)
    (letters : ∀ d ∈ lower, Folded d) :
    word.map Char.toLower = lower ∧ ∀ c ∈ word, isWordStart c = true := by
  induction h with
  | nil => exact ⟨rfl, nofun⟩
  | @cons c d word lower first _ ih =>
    obtain ⟨⟨low, starts⟩, ⟨high, starts'⟩⟩ := letters d (List.mem_cons_self ..)
    obtain ⟨same, others⟩ := ih fun d mem => letters d (List.mem_cons_of_mem _ mem)
    rw [List.map_cons, same, List.forall_mem_cons]
    rcases first with rfl | rfl
    · exact ⟨by rw [low], starts, others⟩
    · exact ⟨by rw [high], starts', others⟩

theorem ofWord_of_keyword {s word : String} (mem : (s, t) ∈ keywords)
    (lower : Text.asciiLower word = s) : Token.ofWord word = t := by
  simp only [keywords, List.mem_cons, Prod.mk.injEq, List.not_mem_nil, or_false] at mem
  rcases mem with ⟨rfl, rfl⟩ | ⟨rfl, rfl⟩ | ⟨rfl, rfl⟩ | ⟨rfl, rfl⟩ | ⟨rfl, rfl⟩ | ⟨rfl, rfl⟩ <;>
    (rw [Token.ofWord, lower]; rfl)

theorem scans_keyword {s : String} {word : List Char} (mem : (s, t) ∈ keywords)
    (cased : Cased word s.toList) : Scans word t := by
  obtain ⟨lower, starts⟩ := cased.fold (folded_of_keyword mem)
  have folded : Text.asciiLower (String.ofList word) = s := by
    rw [Text.asciiLower, String.toList_ofList, lower, String.ofList_toList]
  cases word with
  | nil =>
    have none : s.toList = [] := lower.symm
    simp only [keywords, List.mem_cons, Prod.mk.injEq, List.not_mem_nil, or_false] at mem
    rcases mem with ⟨rfl, -⟩ | ⟨rfl, -⟩ | ⟨rfl, -⟩ | ⟨rfl, -⟩ | ⟨rfl, -⟩ | ⟨rfl, -⟩ <;> cases none
  | cons c rest =>
    obtain ⟨first, others⟩ := List.forall_mem_cons.1 starts
    have scanned := scans_word first fun d mem => isWordPart_of_isWordStart (others d mem)
    rwa [ofWord_of_keyword mem folded] at scanned

theorem scans_name {s : String} (name : IsName s) : Scans s.toList (.identifier s) := by
  have ends : Ends [] := nofun
  obtain ⟨c, rest, split, solid, scanned⟩ := scanToken_name name ends
  exact ⟨c, rest, split, solid, fun total => by simpa using scanned total⟩

/-- A text is read back up to the quote after it. -/
theorem scanString_escape {quote : Char} (mark : quote = '\'' ∨ quote = '"') (s rest : List Char) :
    scanString quote (escape quote s ++ quote :: rest) = some (s, rest) := by
  have plain : quote ≠ '\\' := by rcases mark with rfl | rfl <;> decide
  induction s with
  | nil => simp [escape, scanString_cons plain]
  | cons c s ih =>
    rw [escape] at ih
    by_cases escaped : c = '\\' ∨ c = quote
    · have kept : unescape c = c := by
        rcases escaped with rfl | rfl
        · decide
        · rcases mark with rfl | rfl <;> decide
      simp [escape, escaped, scanString, ih, kept]
    · obtain ⟨noSlash, inside⟩ := not_or.1 escaped
      simp [escape, noSlash, inside, scanString_cons noSlash, ih]

theorem scans_string {quote : Char} (mark : quote = '\'' ∨ quote = '"') (s : String) :
    Scans (quote :: (escape quote s.toList ++ [quote])) (.string s) := by
  refine ⟨quote, _, rfl, by rcases mark with rfl | rfl <;> decide, fun total => ?_⟩
  have noDigit : ¬quote.isDigit = true := by rcases mark with rfl | rfl <;> decide
  rw [scanToken, if_neg noDigit, if_pos mark, scanString_escape mark]
  simp only [String.ofList_toList]

/-- Digits and points are one number as far as they go. -/
theorem scans_number {x : Float} (digit : c.isDigit = true)
    (parts : ∀ d ∈ rest, isNumberPart d = true) (value : numberOf? (c :: rest) = some x) :
    Scans (c :: rest) (.number x) := by
  have taken : rest.takeWhile isNumberPart = rest := List.takeWhile_eq_self_iff.2 parts
  have left : rest.dropWhile isNumberPart = [] := List.dropWhile_eq_nil_iff.2 parts
  refine ⟨c, rest, rfl, Text.isBlank_of_isDigit digit, fun total => ?_⟩
  rw [scanToken_digit digit, taken, left, value]

theorem isNumberPart_of_isDigit (h : c.isDigit = true) : isNumberPart c = true := by
  rw [isNumberPart, h, Bool.true_or]

section
variable {digits places : List Char}

theorem numberOf_fraction (all : ∀ d ∈ digits, d.isDigit = true)
    (all' : ∀ d ∈ places, d.isDigit = true) : numberOf? (digits ++ '.' :: places) =
      some (Decimal.nearest (Nat.ofDigitChars 10 (digits ++ places) 0) (-places.length)) := by
  have stretch : (digits ++ '.' :: places).takeWhile Char.isDigit = digits ∧
      (digits ++ '.' :: places).dropWhile Char.isDigit = '.' :: places :=
    takeWhile_append_of_all all (by rintro d ⟨⟩; rfl)
  simp only [numberOf?, stretch, List.all_eq_true.2 all', if_true, foldl_digits]

theorem scans_whole (nonempty : digits ≠ []) (all : ∀ d ∈ digits, d.isDigit = true) :
    Scans digits (.number (Decimal.nearest (Nat.ofDigitChars 10 digits 0) 0)) := by
  obtain ⟨c, rest, rfl⟩ := List.exists_cons_of_ne_nil nonempty
  obtain ⟨digit, others⟩ := List.forall_mem_cons.1 all
  exact scans_number digit (fun d mem => isNumberPart_of_isDigit (others d mem))
    (numberOf_whole all)

theorem scans_fraction (nonempty : digits ≠ []) (all : ∀ d ∈ digits, d.isDigit = true)
    (all' : ∀ d ∈ places, d.isDigit = true) : Scans (digits ++ '.' :: places)
      (.number (Decimal.nearest (Nat.ofDigitChars 10 (digits ++ places) 0) (-places.length))) := by
  have value := numberOf_fraction all all'
  obtain ⟨c, rest, rfl⟩ := List.exists_cons_of_ne_nil nonempty
  obtain ⟨digit, others⟩ := List.forall_mem_cons.1 all
  refine scans_number digit (fun d mem => ?_) value
  rcases List.mem_append.1 mem with mem | mem
  · exact isNumberPart_of_isDigit (others d mem)
  · rcases List.mem_cons.1 mem with rfl | mem
    · rfl
    · exact isNumberPart_of_isDigit (all' d mem)

end

theorem Spells.scans (h : Spells cs t) : Scans cs t := by
  cases h with
  | symbol mem => exact scans_symbol mem
  | keyword mem cased => exact scans_keyword mem cased
  | name name => exact scans_name name
  | string mark => exact scans_string mark _
  | whole nonempty all => exact scans_whole nonempty all
  | fraction nonempty all all' => exact scans_fraction nonempty all all'

/-! ### Tokens one after the other -/

/-- The token is scanned first, and what a blank keeps apart from it is scanned after it. -/
theorem Scans.scanFrom_append (h : Scans cs t) {more : List Char} (apart : Apart more)
    {total fuel : Nat} (enough : (cs ++ more).length ≤ fuel) :
    ∃ fuel', more.length ≤ fuel' ∧
      scanFrom total fuel (cs ++ more) = (scanFrom total fuel' more).map (t :: ·) := by
  obtain ⟨c, rest, rfl, solid, scanned⟩ := h
  rw [List.length_append, List.length_cons] at enough
  obtain ⟨fuel, rfl⟩ := Nat.exists_eq_add_of_le' (show 1 ≤ fuel by omega)
  exact ⟨fuel, by omega, scanFrom_cons solid (scanToken_append apart (scanned total))⟩

theorem Written.scanFrom {ts : List Token} (h : Written cs ts) {total fuel : Nat}
    (enough : cs.length ≤ fuel) : scanFrom total fuel cs = .ok ts := by
  induction h generalizing fuel with
  | nil => exact scanFrom_nil fuel
  | @single s t spells =>
    rw [← List.append_nil s] at enough ⊢
    obtain ⟨fuel', -, first⟩ := spells.scans.scanFrom_append apart_nil enough
    rw [first, scanFrom_nil]
    rfl
  | @cons s gap cs t t' ts spells blank nonempty onward ih =>
    have apart : Apart (gap ++ cs) := by
      rw [Apart, List.head?_append_of_ne_nil _ nonempty]
      exact apart_of_blank blank
    obtain ⟨fuel', enough', first⟩ := spells.scans.scanFrom_append apart enough
    rw [List.length_append] at enough'
    obtain ⟨spare, rfl⟩ := Nat.exists_eq_add_of_le (Nat.le_of_add_right_le enough')
    rw [first, scanFrom_blanks blank, ih (by omega)]
    rfl

/-- Scanning undoes writing. -/
theorem tokenize_written {text : String} {ts : List Token} (h : Written text.toList ts) :
    tokenize text = .ok ts := h.scanFrom (Nat.le_refl _)

/-- A quote, a backslash before a letter, and words and symbols that begin alike. -/
theorem quoted_text_is_scanned :
    let text := "NoT 'it\\'s \\\\n' <>\t1.50\n<= note"
    let ts := [Token.not, .string "it's \\n", .notEq, .number (Decimal.nearest 150 (-2)), .lte,
      .identifier "note"]
    Written text.toList ts ∧ tokenize text = .ok ts := by
  intro text ts
  have blank {c : Char} (h : Text.isBlank c = true) : Blank [c] := by simpa [Blank] using h
  have negation : Spells "NoT".toList .not :=
    .keyword (s := "not") (by simp [keywords])
      (.cons (.inr rfl) (.cons (.inl rfl) (.cons (.inr rfl) .nil)))
  have quoted : Spells ('\'' :: (escape '\'' "it's \\n".toList ++ ['\''])) (.string "it's \\n") :=
    .string (.inl rfl)
  have notEq : Spells "<>".toList .notEq := .symbol (by simp [symbols])
  have number : Spells "1.50".toList (.number (Decimal.nearest 150 (-2))) :=
    @Spells.fraction ['1'] ['5', '0'] (List.cons_ne_nil _ _) (List.all_eq_true.1 rfl)
      (List.all_eq_true.1 rfl)
  have lte : Spells "<=".toList .lte := .symbol (by simp [symbols])
  have name : Spells "note".toList (.identifier "note") :=
    .name ⟨⟨'n', ['o', 't', 'e'], rfl, rfl, List.all_eq_true.1 rfl⟩, by decide +kernel⟩
  have written : Written text.toList ts := by
    have parts := Written.cons negation (blank (c := ' ') rfl) nofun
      (.cons quoted (blank (c := ' ') rfl) nofun (.cons notEq (blank (c := '\t') rfl) nofun
        (.cons number (blank (c := '\n') rfl) nofun
          (.cons lte (blank (c := ' ') rfl) nofun (.single name)))))
    simpa [text, escape] using parts
  exact ⟨written, tokenize_written written⟩

end Playbook.Expression
