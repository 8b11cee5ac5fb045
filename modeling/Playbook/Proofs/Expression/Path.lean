import Playbook.Expression.Evaluation
import Playbook.Proofs.Decimal.Exact
import Playbook.Proofs.Expression.Blanks
import Playbook.Proofs.Expression.Completeness

/-!
Paths: a variable and the members that lead from it to a value, with points between them. A member
is a name or the position of an item in a list. The scanner takes digits and points for one number
as far as they go, so a path parses as what it stands for where no member follows a position.
-/
namespace Playbook.Expression

open Json (Value)
open Text (foldl_digits isBlank_of_isDigit isDigit_toDigits takeWhile_append_of_all
  toNat_of_isDigit)

/-- A word that is no keyword. -/
structure IsName (s : String) : Prop where
  word : ∃ c rest, s.toList = c :: rest ∧ isWordStart c = true ∧ ∀ d ∈ rest, isWordPart d = true
  plain : Text.asciiLower s ∉ ["true", "false", "null", "and", "or", "not"]

/-- A member on a path. -/
inductive Segment where
  | name (s : String)
  | position (n : Nat)

namespace Segment

def text : Segment → String
  | name s => s
  | position n => toString n

/-- The token of a member that nothing joins. -/
def token : Segment → Token
  | name s => .identifier s
  | position n => .number (Decimal.nearest n 0)

/-- A name is no keyword, and a position is small enough to be a float of its own. -/
def Valid : Segment → Prop
  | name s => IsName s
  | position n => n < 2 ^ 53

def IsNamed : Segment → Prop
  | name _ => True
  | position _ => False

end Segment

variable {root : String} {s : Segment} {segs : List Segment}

/-- The text of a path. -/
def pathText (root : String) (segs : List Segment) : String :=
  ".".intercalate (root :: segs.map Segment.text)

/-- What a path stands for: accesses that group to the left. -/
def path (root : String) (segs : List Segment) : Expr :=
  segs.foldl (fun e s => .access e s.text) (.variable root)

/-- Goes from a value to its member, and so on. -/
def walk (place : String) (v : Value) : List Segment → Result Value
  | [] => .ok v
  | s :: segs => do walk (place ++ "." ++ s.text) (← member place v s.text) segs

/-! ### Texts of members -/

/-- The members of a path as they are written, each after its point. -/
def memberChars (segs : List Segment) : List Char := segs.flatMap fun s => '.' :: s.text.toList

theorem toList_pathText (root : String) (segs : List Segment) :
    (pathText root segs).toList = root.toList ++ memberChars segs := by
  unfold pathText
  induction segs generalizing root with
  | nil => simp [memberChars]
  | cons s segs ih =>
    rw [List.map_cons, String.intercalate_cons_cons, String.toList_append, ih]
    simp [memberChars]

theorem toList_position (n : Nat) : (Segment.position n).text.toList = Nat.toDigits 10 n := by
  rw [Segment.text, Nat.toString_eq_ofList_toDigits, String.toList_ofList]

section
variable {c : Char} {total : Nat} {rest more : List Char}

theorem isWordPart_of_isWordStart (h : isWordStart c = true) : isWordPart c = true := by
  simp only [isWordStart, isWordPart, Char.isAlphanum, Bool.or_eq_true] at h ⊢
  tauto

theorem isBlank_of_isWordStart (h : isWordStart c = true) : Text.isBlank c = false := by
  refine Bool.eq_false_iff.2 fun blank => ?_
  have part := isWordPart_of_isWordStart h
  rw [isWordPart_of_isBlank blank] at part
  cases part

theorem isDigit_of_isWordStart (h : isWordStart c = true) : c.isDigit = false := by
  refine Bool.eq_false_iff.2 fun digit => ?_
  have code := toNat_of_isDigit digit
  simp only [isWordStart, Bool.or_eq_true, decide_eq_true_eq] at h
  rcases h with letter | rfl
  · have codes : 65 ≤ c.toNat ∧ c.toNat ≤ 90 ∨ 97 ≤ c.toNat ∧ c.toNat ≤ 122 := by
      simpa [Char.isAlpha, Char.isUpper, Char.isLower, UInt32.le_iff_toNat_le] using letter
    omega
  · exact absurd code (by decide)

/-- Nothing, or something that begins with a point. -/
def Ends (more : List Char) : Prop := ∀ d ∈ more.head?, d = '.'

/-- A name is scanned up to the next point. -/
theorem scanToken_name {s : String} (h : IsName s) (ends : Ends more) :
    ∃ c rest, s.toList = c :: rest ∧ Text.isBlank c = false ∧
      ∀ total, scanToken total c (rest ++ more) = .ok (.identifier s, more) := by
  obtain ⟨c, rest, split, starts, parts⟩ := h.word
  have plain : Token.ofWord s = .identifier s := by
    have := h.plain
    unfold Token.ofWord
    split <;> simp_all
  have quotes : ¬(c = '\'' ∨ c = '"') := by
    rintro (rfl | rfl) <;> cases starts
  obtain ⟨taken, left⟩ := takeWhile_append_of_all (p := isWordPart) parts fun d mem => by
    rw [ends d mem]
    rfl
  refine ⟨c, rest, split, isBlank_of_isWordStart starts, fun total => ?_⟩
  rw [scanToken, if_neg (by rw [isDigit_of_isWordStart starts]; decide), if_neg quotes,
    if_pos starts, taken, left, ← split, String.ofList_toList, plain]

theorem numberOf_whole {digits : List Char} (all : ∀ d ∈ digits, d.isDigit = true) :
    numberOf? digits = some (Decimal.nearest (Nat.ofDigitChars 10 digits 0) 0) := by
  have taken : digits.takeWhile Char.isDigit = digits := List.takeWhile_eq_self_iff.2 all
  have left : digits.dropWhile Char.isDigit = [] := List.dropWhile_eq_nil_iff.2 all
  simp only [numberOf?, taken, left, foldl_digits]

theorem numberOf_toDigits (n : Nat) :
    numberOf? (Nat.toDigits 10 n) = some (Decimal.nearest n 0) := by
  rw [numberOf_whole (isDigit_toDigits n), Nat.ofDigitChars_ten_toDigits]

theorem toDigits_eq_cons (n : Nat) : ∃ c rest, Nat.toDigits 10 n = c :: rest ∧
    c.isDigit = true ∧ ∀ d ∈ rest, d.isDigit = true := by
  have digits := isDigit_toDigits n
  obtain ⟨c, rest, split⟩ := List.exists_cons_of_ne_nil (Nat.toDigits_ne_nil (n := n) (b := 10))
  rw [split, List.forall_mem_cons] at digits
  exact ⟨c, rest, split, digits⟩

theorem scanToken_digit (digit : c.isDigit = true) : scanToken total c rest =
    match numberOf? (c :: rest.takeWhile isNumberPart) with
    | some x => .ok (.number x, rest.dropWhile isNumberPart)
    | none => .error (.invalidNumber (String.ofList (c :: rest.takeWhile isNumberPart))) := by
  rw [scanToken]
  exact if_pos digit

/-- The last position of a path is scanned as a number. -/
theorem scanToken_position (n : Nat) : ∃ c rest, Nat.toDigits 10 n = c :: rest ∧
    Text.isBlank c = false ∧
      ∀ total, scanToken total c rest = .ok (.number (Decimal.nearest n 0), []) := by
  obtain ⟨c, rest, split, digit, digits⟩ := toDigits_eq_cons n
  have all : (rest ++ []).takeWhile isNumberPart = _ ∧ _ :=
    takeWhile_append_of_all (fun d mem => by rw [isNumberPart, digits d mem]; rfl) nofun
  rw [List.append_nil] at all
  have number := numberOf_toDigits n
  refine ⟨c, rest, split, isBlank_of_isDigit digit, fun total => ?_⟩
  rw [scanToken_digit digit, all.1, all.2, ← split, number]

/-- A member that is a name, or that ends the text, is scanned as its token. -/
theorem scanToken_segment (valid : s.Valid) (ends : Ends more) (last : s.IsNamed ∨ more = []) :
    ∃ c rest, s.text.toList = c :: rest ∧ Text.isBlank c = false ∧
      ∀ total, scanToken total c (rest ++ more) = .ok (s.token, more) := by
  cases s with
  | name s => exact scanToken_name valid ends
  | position n =>
    obtain rfl := last.resolve_left id
    obtain ⟨c, rest, split, solid, scanned⟩ := scanToken_position n
    rw [← toList_position] at split
    exact ⟨c, rest, split, solid, fun total => by rw [List.append_nil, scanned]; rfl⟩

theorem scanFrom_cons {fuel : Nat} {left : List Char} {t : Token}
    (solid : Text.isBlank c = false) (first : scanToken total c rest = .ok (t, left)) :
    scanFrom total (fuel + 1) (c :: rest) = (scanFrom total fuel left).map (t :: ·) := by
  rw [scanFrom, if_neg (by rw [solid]; decide), first]
  change (scanFrom total fuel left) >>= _ = _
  cases scanFrom total fuel left <;> rfl

theorem ends_memberChars (segs : List Segment) : Ends (memberChars segs) := by
  cases segs with
  | nil => exact nofun
  | cons s segs =>
    rintro d ⟨⟩
    rfl

theorem memberChars_cons (s : Segment) (segs : List Segment) :
    memberChars (s :: segs) = '.' :: (s.text.toList ++ memberChars segs) := rfl

theorem scanToken_point : scanToken total '.' rest = .ok (.dot, rest) := rfl

theorem scanFrom_memberChars (valid : ∀ s ∈ segs, s.Valid)
    (named : ∀ s ∈ segs.dropLast, s.IsNamed) {fuel : Nat}
    (enough : (memberChars segs).length ≤ fuel) :
    scanFrom total fuel (memberChars segs) = .ok (segs.flatMap fun s => [.dot, s.token]) := by
  induction segs generalizing fuel with
  | nil => exact scanFrom_nil fuel
  | cons s segs ih =>
    obtain ⟨last, named⟩ :
        (s.IsNamed ∨ memberChars segs = []) ∧ ∀ s ∈ segs.dropLast, s.IsNamed := by
      cases segs with
      | nil => exact ⟨.inr rfl, nofun⟩
      | cons s' segs =>
        rw [List.dropLast_cons_cons, List.forall_mem_cons] at named
        exact ⟨.inl named.1, named.2⟩
    obtain ⟨first, valid⟩ := List.forall_mem_cons.1 valid
    obtain ⟨c, rest, split, solid, scanned⟩ := scanToken_segment first (ends_memberChars segs) last
    rw [memberChars_cons, split] at enough ⊢
    simp only [List.length_cons, List.length_append, List.cons_append] at enough ⊢
    obtain ⟨fuel, rfl⟩ := Nat.exists_eq_add_of_le' (show 2 ≤ fuel by omega)
    rw [scanFrom_cons rfl scanToken_point, scanFrom_cons solid (scanned total),
      ih valid named (by omega)]
    rfl

/-- The tokens of a path. -/
def pathTokens (root : String) (segs : List Segment) : List Token :=
  .identifier root :: segs.flatMap fun s => [.dot, s.token]

theorem tokenize_pathText (name : IsName root) (valid : ∀ s ∈ segs, s.Valid)
    (named : ∀ s ∈ segs.dropLast, s.IsNamed) :
    tokenize (pathText root segs) = .ok (pathTokens root segs) := by
  rw [tokenize, toList_pathText]
  obtain ⟨c, rest, split, solid, scanned⟩ := scanToken_name name (ends_memberChars segs)
  rw [split, List.cons_append, List.length_cons, scanFrom_cons solid (scanned _),
    scanFrom_memberChars valid named (by simp)]
  rfl

/-! ### Trees of paths -/

theorem memberName_token (valid : s.Valid) : memberName? s.token = some s.text := by
  cases s with
  | name s => rfl
  | position n =>
    have small : n < 2 ^ 53 := valid
    rw [Segment.token, memberName?, Decimal.isWhole_nearest small, Decimal.toCount_nearest small,
      decide_eq_true (Decimal.zero_le_nearest small)]
    rfl

theorem derives_members (valid : ∀ s ∈ segs, s.Valid) {ts : List Token} {e : Expr} {n : Nat}
    (target : Derives .access ts e n) :
    Derives .access (ts ++ segs.flatMap fun s => [.dot, s.token])
      (segs.foldl (fun e s => .access e s.text) e) n := by
  induction segs generalizing ts e with
  | nil => rwa [List.flatMap_nil, List.append_nil]
  | cons s segs ih =>
    obtain ⟨first, valid⟩ := List.forall_mem_cons.1 valid
    rw [List.flatMap_cons, ← List.append_assoc]
    exact ih valid (target.member (memberName_token first))

theorem derives_path (valid : ∀ s ∈ segs, s.Valid) :
    Derives .or (pathTokens root segs) (path root segs) 1 :=
  .next rfl (.next rfl (.next rfl (.next rfl (.next rfl
    (.operand (derives_members valid (.target .variable)))))))

end

/-! ### Points -/

def Token.isPoint : Token → Bool
  | .dot => Bool.true
  | _ => Bool.false

/-- The accesses on top of a tree. -/
def Expr.accesses : Expr → Nat
  | .access target _ => target.accesses + 1
  | _ => 0

theorem accesses_path (root : String) (segs : List Segment) :
    (path root segs).accesses = segs.length := by
  have grow : ∀ e : Expr, (segs.foldl (fun e s => Expr.access e s.text) e).accesses =
      e.accesses + segs.length := by
    induction segs with
    | nil => exact fun e => rfl
    | cons s segs ih =>
      intro e
      rw [List.foldl_cons, ih, Expr.accesses, List.length_cons]
      omega
  exact (grow (.variable root)).trans (Nat.zero_add _)

/-- Every access is spelled with a point. -/
theorem Derives.accesses_le {l : Level} {ts : List Token} {e : Expr} {n : Nat}
    (h : Derives l ts e n) : e.accesses ≤ ts.countP Token.isPoint := by
  induction h with
  | next _ _ ih | operand _ ih | target _ ih => exact ih
  | binary | not | negate | index | literal | «variable» | call => exact Nat.zero_le _
  | @member ts e n t segment _ _ ih =>
    rw [List.countP_append, Expr.accesses]
    refine Nat.add_le_add ih ?_
    rw [List.countP_cons]
    exact Nat.le_add_left ..
  | @parens ts e n _ ih =>
    refine Nat.le_trans ih ?_
    simp [List.countP_append, Token.isPoint]

section
variable {c : Char} {total : Nat} {rest left : List Char} {t : Token}

theorem isPoint_ofWord (word : String) : (Token.ofWord word).isPoint = Bool.false := by
  unfold Token.ofWord
  split <;> rfl

theorem scanSymbol_points (h : scanSymbol total c rest = .ok (t, left)) :
    [t].countP Token.isPoint + left.count '.' ≤ (c :: rest).count '.' := by
  unfold scanSymbol at h
  split at h <;> cases h <;> simp [Token.isPoint, Nat.add_comm]

/-- A token that is no point leaves the points that it does not pass. -/
theorem points_of_sublist (h : t.isPoint = Bool.false) (less : left.Sublist rest) :
    [t].countP Token.isPoint + left.count '.' ≤ (c :: rest).count '.' := by
  rw [List.countP_singleton, h, if_neg (by decide), Nat.zero_add]
  exact (less.cons c).count_le '.'

theorem count_dropWhile_le (p : Char → Bool) (cs : List Char) :
    (cs.dropWhile p).count '.' ≤ cs.count '.' :=
  (List.dropWhile_sublist p).count_le '.'

/-- A token that is a point takes one of the text. -/
theorem scanToken_points (h : scanToken total c rest = .ok (t, left)) :
    [t].countP Token.isPoint + left.count '.' ≤ (c :: rest).count '.' := by
  unfold scanToken at h
  split at h
  · dsimp only at h
    split at h
    · cases h
      exact points_of_sublist rfl (List.dropWhile_sublist _)
    · cases h
  · split at h
    · split at h
      · rename_i scanned
        cases h
        obtain ⟨taken, rfl, -⟩ := exists_scanned scanned
        exact points_of_sublist rfl (List.sublist_append_right taken left)
      · cases h
    · split at h
      · cases h
        exact points_of_sublist (isPoint_ofWord _) (List.dropWhile_sublist _)
      · exact scanSymbol_points h

theorem exists_of_scanFrom {fuel : Nat} {ts : List Token}
    (h : scanFrom total (fuel + 1) (c :: rest) = .ok ts) (solid : Text.isBlank c = false) :
    ∃ t left more, scanToken total c rest = .ok (t, left) ∧
      scanFrom total fuel left = .ok more ∧ ts = t :: more := by
  cases first : scanToken total c rest with
  | error cause =>
    rw [scanFrom, if_neg (by rw [solid]; decide), first] at h
    cases h
  | ok found =>
    obtain ⟨t, left⟩ := found
    rw [scanFrom_cons solid first] at h
    cases others : scanFrom total fuel left with
    | error cause =>
      rw [others] at h
      cases h
    | ok more =>
      rw [others] at h
      cases h
      exact ⟨t, left, more, rfl, others, rfl⟩

/-- What is scanned of a name and more is the name, and then what is scanned of the rest. -/
theorem exists_of_scanFrom_name {s : String} (h : IsName s) (ends : Ends rest) {fuel : Nat}
    {ts : List Token} (scanned : scanFrom total fuel (s.toList ++ rest) = .ok ts)
    (enough : (s.toList ++ rest).length ≤ fuel) :
    ∃ fuel' more, rest.length ≤ fuel' ∧ scanFrom total fuel' rest = .ok more ∧
      ts = .identifier s :: more := by
  obtain ⟨c, word, split, solid, first⟩ := scanToken_name h ends
  rw [split, List.cons_append] at scanned enough
  rw [List.length_cons, List.length_append] at enough
  obtain ⟨fuel, rfl⟩ := Nat.exists_eq_add_of_le' (show 1 ≤ fuel by omega)
  obtain ⟨t, left, more, taken, later, rfl⟩ := exists_of_scanFrom scanned solid
  cases (first total).symm.trans taken
  exact ⟨fuel, more, by omega, later, rfl⟩

/-- A text has as many points as its tokens. -/
theorem scanFrom_points {fuel : Nat} {cs : List Char} {ts : List Token}
    (h : scanFrom total fuel cs = .ok ts) : ts.countP Token.isPoint ≤ cs.count '.' := by
  induction fuel generalizing cs ts with
  | zero =>
    cases h
    exact Nat.zero_le _
  | succ fuel ih =>
    cases cs with
    | nil =>
      cases h
      exact Nat.zero_le _
    | cons c rest =>
      cases blank : Text.isBlank c with
      | true =>
        rw [scanFrom, if_pos blank] at h
        exact Nat.le_trans (ih h) List.count_le_count_cons
      | false =>
        obtain ⟨t, left, more, first, others, rfl⟩ := exists_of_scanFrom h blank
        have taken := scanToken_points first
        have onward := ih others
        rw [← List.singleton_append, List.countP_append]
        omega

theorem isWordPart_of_mem {name : String} (h : IsName name) {d : Char} (mem : d ∈ name.toList) :
    isWordPart d = true := by
  obtain ⟨c, rest, split, starts, parts⟩ := h.word
  rw [split, List.mem_cons] at mem
  rcases mem with rfl | mem
  · exact isWordPart_of_isWordStart starts
  · exact parts d mem

theorem Segment.Valid.point_not_mem (h : s.Valid) : '.' ∉ s.text.toList := by
  intro mem
  cases s with
  | name s => cases isWordPart_of_mem h mem
  | position n =>
    rw [toList_position] at mem
    cases isDigit_toDigits n '.' mem

/-- Only the points between the members of a path are points. -/
theorem count_memberChars (valid : ∀ s ∈ segs, s.Valid) :
    (memberChars segs).count '.' = segs.length := by
  induction segs with
  | nil => rfl
  | cons s segs ih =>
    obtain ⟨first, valid⟩ := List.forall_mem_cons.1 valid
    rw [memberChars_cons, List.count_cons_self, List.count_append,
      List.count_eq_zero.2 first.point_not_mem, ih valid, Nat.zero_add, List.length_cons]

/-- A position takes the point after it into its number. -/
theorem lost_point {n fuel : Nat} {s' : Segment} {ts : List Token}
    (valid : ∀ s ∈ s' :: segs, s.Valid)
    (h : scanFrom total fuel ((Segment.position n).text.toList ++ memberChars (s' :: segs)) =
      .ok ts)
    (enough : ((Segment.position n).text.toList ++ memberChars (s' :: segs)).length ≤ fuel) :
    ts.countP Token.isPoint < (s' :: segs).length := by
  obtain ⟨c, rest, split, digit, digits⟩ := toDigits_eq_cons n
  rw [toList_position, split, List.cons_append] at h enough
  obtain ⟨fuel, rfl⟩ := Nat.exists_eq_add_of_le' (show 1 ≤ fuel from Nat.le_trans (by simp) enough)
  obtain ⟨t, left, more, first, others, rfl⟩ :=
    exists_of_scanFrom h (isBlank_of_isDigit digit)
  rw [scanToken_digit digit] at first
  split at first
  · cases first
    have passed : (rest ++ memberChars (s' :: segs)).dropWhile isNumberPart =
        (s'.text.toList ++ memberChars segs).dropWhile isNumberPart := by
      rw [List.dropWhile_append_of_pos fun d mem => by rw [isNumberPart, digits d mem]; rfl]
      rfl
    have points := scanFrom_points others
    have whole := count_memberChars valid
    rw [memberChars_cons, List.count_cons_self] at whole
    have fewer := count_dropWhile_le isNumberPart (s'.text.toList ++ memberChars segs)
    rw [passed] at points
    change more.countP Token.isPoint < _
    omega
  · cases first

/-- Where every access finds its point among the tokens, no position lost the one after it. -/
theorem named_of_points (valid : ∀ s ∈ segs, s.Valid) {fuel : Nat} {ts : List Token}
    (h : scanFrom total fuel (memberChars segs) = .ok ts)
    (enough : (memberChars segs).length ≤ fuel)
    (points : segs.length ≤ ts.countP Token.isPoint) : ∀ s ∈ segs.dropLast, s.IsNamed := by
  induction segs generalizing fuel ts with
  | nil => exact nofun
  | cons s segs ih =>
    cases segs with
    | nil => exact nofun
    | cons s' segs =>
      obtain ⟨first, others⟩ := List.forall_mem_cons.1 valid
      rw [memberChars_cons] at h enough
      obtain ⟨fuel, rfl⟩ := Nat.exists_eq_add_of_le' (show 1 ≤ fuel from
        Nat.le_trans (by simp) enough)
      obtain ⟨t, left, more, scanned, later, rfl⟩ := exists_of_scanFrom h rfl
      cases scanned
      have fits := Nat.le_of_succ_le_succ enough
      rw [List.countP_cons_of_pos rfl] at points
      have onward : (s' :: segs).length ≤ more.countP Token.isPoint :=
        Nat.le_of_succ_le_succ points
      cases s with
      | position n => exact absurd onward (Nat.not_le.2 (lost_point others later fits))
      | name s =>
        obtain ⟨left, members, shorter, scanned, rfl⟩ :=
          exists_of_scanFrom_name first (ends_memberChars (s' :: segs)) later fits
        exact List.forall_mem_cons.2 ⟨trivial, ih others scanned shorter onward⟩

/-! ### Paths as texts -/

theorem allBlank_pathText (name : IsName root) : Text.allBlank (pathText root segs) = false := by
  obtain ⟨c, rest, split, starts, -⟩ := name.word
  rw [Text.allBlank, toList_pathText, split, List.cons_append, List.all_cons,
    isBlank_of_isWordStart starts, Bool.false_and]

theorem named_of_tokenize (name : IsName root) (valid : ∀ s ∈ segs, s.Valid) {ts : List Token}
    (h : tokenize (pathText root segs) = .ok ts) (points : segs.length ≤ ts.countP Token.isPoint) :
    ∀ s ∈ segs.dropLast, s.IsNamed := by
  rw [tokenize, toList_pathText] at h
  obtain ⟨fuel, more, fits, members, rfl⟩ :=
    exists_of_scanFrom_name name (ends_memberChars segs) h (Nat.le_refl _)
  exact named_of_points valid members fits points

/-- Accesses on top of a tree are a walk from its value. -/
theorem eval_members (functions : List (String × Function)) (env : Environment) (e : Expr) :
    eval functions env (segs.foldl (fun e s => .access e s.text) e) =
      eval functions env e >>= fun v => walk e.describe v segs := by
  induction segs generalizing e with
  | nil => exact (bind_pure _).symm
  | cons s segs ih =>
    rw [List.foldl_cons, ih, eval, bind_assoc]
    rfl

end

/-- The text of a path parses as what it stands for, where it is within the limit, just when no
member follows a position; and what it stands for walks from the variable one member at a time. -/
theorem path_parses_iff (name : IsName root) (valid : ∀ s ∈ segs, s.Valid) :
    (∀ limits, parse limits (pathText root segs) = .ok ⟨pathText root segs, path root segs⟩ ↔
      (pathText root segs).utf8ByteSize ≤ limits.maxLength ∧ 1 ≤ limits.maxDepth ∧
        ∀ s ∈ segs.dropLast, s.IsNamed) ∧
    ∀ functions env, eval functions env (path root segs) =
      match Keyed.get? root env.variables with
      | some v => walk root v segs
      | none => .error (.unknownIdentifier root) := by
  refine ⟨fun limits => ⟨fun h => ?_, fun ⟨short, deep, named⟩ => ?_⟩, fun functions env => ?_⟩
  · obtain ⟨-, short, -, ts, scanned, parsed⟩ := parse_eq_ok_iff.1 h
    obtain ⟨n, whole, bound⟩ := exists_derives_of_parseTokens parsed
    have points := whole.accesses_le
    rw [accesses_path] at points
    exact ⟨short, Nat.le_trans whole.one_le bound, named_of_tokenize name valid scanned points⟩
  · refine parse_eq_ok_iff.2 ⟨rfl, short, allBlank_pathText name, pathTokens root segs,
      tokenize_pathText name valid named, ?_⟩
    rw [(derives_path valid).parseTokens_eq, if_pos deep]
  · rw [path, eval_members, eval]
    cases Keyed.get? root env.variables <;> rfl

theorem tag_of_user_parses :
    IsName "user" ∧ (∀ s ∈ [Segment.name "tags", .position 1], s.Valid) ∧
    parse {} "user.tags.1" =
      .ok ⟨"user.tags.1", .access (.access (.variable "user") "tags") "1"⟩ := by
  have name : IsName "user" :=
    ⟨⟨'u', ['s', 'e', 'r'], rfl, rfl, List.all_eq_true.1 rfl⟩, by decide +kernel⟩
  have tags : IsName "tags" :=
    ⟨⟨'t', ['a', 'g', 's'], rfl, rfl, List.all_eq_true.1 rfl⟩, by decide +kernel⟩
  have valid : ∀ s ∈ [Segment.name "tags", .position 1], s.Valid := by
    simpa using ⟨tags, (by decide : 1 < 2 ^ 53)⟩
  have text : pathText "user" [.name "tags", .position 1] = "user.tags.1" := by decide +kernel
  refine ⟨name, valid, ?_⟩
  rw [← text]
  have named : ∀ s ∈ [Segment.name "tags", .position 1].dropLast, s.IsNamed := by
    simp [Segment.IsNamed]
  exact ((path_parses_iff name valid).1 {}).2 ⟨by decide +kernel, by decide, named⟩

/-- The second of two positions is lost without an error: `1.0` is scanned as one number, and that
is a whole one. -/
theorem second_position_is_lost :
    IsName "grid" ∧ (∀ s ∈ [Segment.position 1, .position 0], s.Valid) ∧
    pathText "grid" [.position 1, .position 0] = "grid.1.0" ∧
    (∃ p, parse {} "grid.1.0" = .ok p ∧ p.root.describe = "grid.1") ∧
    parse {} "grid.1.0" ≠ .ok ⟨"grid.1.0", path "grid" [.position 1, .position 0]⟩ := by
  have name : IsName "grid" :=
    ⟨⟨'g', ['r', 'i', 'd'], rfl, rfl, List.all_eq_true.1 rfl⟩, by decide +kernel⟩
  have valid : ∀ s ∈ [Segment.position 1, .position 0], s.Valid := by
    simpa using ⟨(by decide : 1 < 2 ^ 53), (by decide : 0 < 2 ^ 53)⟩
  have shorter : (parse {} "grid.1.0").toOption.map (fun p => p.root.describe) = some "grid.1" := by
    decide +kernel
  refine ⟨name, valid, by decide +kernel, ?_, fun whole => ?_⟩
  · cases came : parse {} "grid.1.0" with
    | error cause =>
      rw [came] at shorter
      cases shorter
    | ok p =>
      rw [came] at shorter
      exact ⟨p, rfl, Option.some.inj shorter⟩
  · rw [whole] at shorter
    exact absurd shorter (by decide +kernel)

end Playbook.Expression
