import Mathlib.Data.List.Forall2
import Mathlib.Tactic.Common
import Playbook.Proofs.Json.Compact
import Playbook.Proofs.Template.Pieces

/-!
What rendering makes of a value. The expressions that the value is written with are evaluated as
they stand, from left to right, and the first one that fails is the failure of the whole. When none
does, the value is filled with their values: it keeps its shape, and each text in it is filled piece
by piece. Nothing that the values bring in is looked at again.
-/
namespace Playbook.Template

open Json (Value Compact)
open Expression (Evaluator Environment ExpressionError Result)

/-- What a value leaves inside a longer text: a text is left as it is, null leaves nothing, and any
other value leaves its compact text. -/
inductive Leaves : Value → String → Prop
  | text (s : String) : Leaves (.text s) s
  | null : Leaves .null ""
  | data {v : Value} {t : String} (apart : v.kind ≠ .string ∧ v.kind ≠ .null) :
      Compact v t → Leaves v t

/-- The text that takes the place of a piece. -/
inductive Piece.Fills (f : String → Value) : Piece → String → Prop
  | literal (text : List Char) : Fills f (.literal text) (String.ofList text)
  | placeholder {e : List Char} {t : String} :
      Leaves (f (String.ofList e)) t → Fills f (.placeholder e) t

/-- A text whose expressions have the values `f`, filled with them. -/
inductive FilledText (f : String → Value) (s : String) : Value → Prop
  | plain {pieces} : LeftmostSplit s.toList pieces → (∀ p ∈ pieces, p.IsLiteral) →
      FilledText f s (.text s)
  | whole {e} : LeftmostSplit s.toList [.placeholder e] → FilledText f s (f (String.ofList e))
  | mixed {pieces texts} : LeftmostSplit s.toList pieces → (∃ p ∈ pieces, ¬p.IsLiteral) →
      pieces.length ≠ 1 → List.Forall₂ (Piece.Fills f) pieces texts →
      FilledText f s (.text (String.join texts))

mutual

/-- A value whose expressions have the values `f`, filled with them. -/
inductive Filled (f : String → Value) : Value → Value → Prop
  | null : Filled f .null .null
  | bool (b : Bool) : Filled f (.bool b) (.bool b)
  | number (n : Json.Number) : Filled f (.number n) (.number n)
  | text {s : String} {w : Value} : FilledText f s w → Filled f (.text s) w
  | list {vs ws : List Value} : FilledItems f vs ws → Filled f (.list vs) (.list ws)
  | object {vs ws : List (String × Value)} :
      FilledEntries f vs ws → Filled f (.object vs) (.object ws)

inductive FilledItems (f : String → Value) : List Value → List Value → Prop
  | nil : FilledItems f [] []
  | cons {v w : Value} {vs ws : List Value} :
      Filled f v w → FilledItems f vs ws → FilledItems f (v :: vs) (w :: ws)

inductive FilledEntries (f : String → Value) :
    List (String × Value) → List (String × Value) → Prop
  | nil : FilledEntries f [] []
  | cons {k : String} {v w : Value} {vs ws : List (String × Value)} :
      Filled f v w → FilledEntries f vs ws → FilledEntries f ((k, v) :: vs) ((k, w) :: ws)

end

mutual

/-- The expressions of all placeholders inside a value, as they are written. -/
def written : Value → List String
  | .text s => (Piece.split s).filterMap Piece.expression?
  | .list items => writtenItems items
  | .object entries => writtenEntries entries
  | _ => []

def writtenItems : List Value → List String
  | [] => []
  | v :: vs => written v ++ writtenItems vs

def writtenEntries : List (String × Value) → List String
  | [] => []
  | (_, v) :: vs => written v ++ writtenEntries vs

end

mutual

theorem map_trim_written : (v : Value) → (written v).map Text.trim = placeholdersIn v
  | .null | .bool _ | .number _ => by simp [written, placeholdersIn]
  | .text s => by rw [written, placeholdersIn, placeholders]
  | .list items => by rw [written, placeholdersIn, map_trim_writtenItems items]
  | .object entries => by rw [written, placeholdersIn, map_trim_writtenEntries entries]

theorem map_trim_writtenItems :
    (vs : List Value) → (writtenItems vs).map Text.trim = placeholdersInItems vs
  | [] => rfl
  | v :: vs => by
    rw [writtenItems, placeholdersInItems, List.map_append, map_trim_written v,
      map_trim_writtenItems vs]

theorem map_trim_writtenEntries :
    (vs : List (String × Value)) → (writtenEntries vs).map Text.trim = placeholdersInEntries vs
  | [] => rfl
  | (_, v) :: vs => by
    rw [writtenEntries, placeholdersInEntries, List.map_append, map_trim_written v,
      map_trim_writtenEntries vs]

end

/-! ### Filling as a function -/

/-- The one text that takes the place of a piece. -/
def Piece.filled (f : String → Value) : Piece → String
  | .literal text => String.ofList text
  | .placeholder e => inlineText (f (String.ofList e))

def fillText (f : String → Value) (s : String) : Value :=
  match Piece.split s with
  | [.placeholder e] => f (String.ofList e)
  | pieces => .text (String.join (pieces.map (Piece.filled f)))

mutual

def fill (f : String → Value) : Value → Value
  | .text s => fillText f s
  | .list items => .list (fillItems f items)
  | .object entries => .object (fillEntries f entries)
  | v => v

def fillItems (f : String → Value) : List Value → List Value
  | [] => []
  | v :: vs => fill f v :: fillItems f vs

def fillEntries (f : String → Value) : List (String × Value) → List (String × Value)
  | [] => []
  | (k, v) :: vs => (k, fill f v) :: fillEntries f vs

end

theorem leaves_iff {v : Value} {t : String} : Leaves v t ↔ inlineText v = t := by
  constructor
  · rintro (_ | _ | ⟨⟨noText, notNull⟩, compact⟩)
    · rfl
    · rfl
    · cases v with
      | null => exact absurd rfl notNull
      | text s => exact absurd rfl noText
      | bool | number | list | object => exact (Json.compact_iff.1 compact).symm
  · rintro rfl
    cases v with
    | null => exact .null
    | text s => exact .text s
    | bool | number | list | object => exact .data ⟨nofun, nofun⟩ (Json.compact_print _)

section
variable {f : String → Value} {s : String} {v w : Value} {pieces : List Piece}

theorem fills_iff {p : Piece} {t : String} : p.Fills f t ↔ p.filled f = t := by
  constructor
  · rintro (_ | leaves)
    · rfl
    · exact leaves_iff.1 leaves
  · rintro rfl
    cases p with
    | literal text => exact .literal text
    | placeholder e => exact .placeholder (leaves_iff.2 rfl)

theorem forall₂_fills_iff {texts : List String} :
    List.Forall₂ (Piece.Fills f) pieces texts ↔ pieces.map (Piece.filled f) = texts := by
  rw [← List.forall₂_eq_eq_eq, List.forall₂_map_left_iff]
  exact ⟨.imp fun _ _ => fills_iff.1, .imp fun _ _ => fills_iff.2⟩

theorem join_filled_of_literal (literal : ∀ p ∈ pieces, p.IsLiteral) :
    String.join (pieces.map (Piece.filled f)) = String.ofList (sources pieces) := by
  induction pieces with
  | nil => rfl
  | cons p pieces ih =>
    obtain ⟨text, rfl⟩ := literal p (by simp)
    have rest := ih fun q mem => literal q (List.mem_cons_of_mem _ mem)
    rw [List.map_cons, String.join_cons, rest, Piece.filled, sources_cons, String.ofList_append]
    rfl

theorem fillText_of_ne (several : ∀ e, Piece.split s ≠ [.placeholder e]) :
    fillText f s = .text (String.join ((Piece.split s).map (Piece.filled f))) := by
  unfold fillText
  split
  · rename_i e single
    exact absurd single (several e)
  · rfl

theorem fillText_of_literal (literal : ∀ p ∈ Piece.split s, p.IsLiteral) :
    fillText f s = .text s := by
  have several : ∀ e, Piece.split s ≠ [.placeholder e] := fun e single => by
    obtain ⟨text, same⟩ := literal (.placeholder e) (by rw [single]; simp)
    cases same
  have joined := (leftmostSplit_split s).joined
  rw [fillText_of_ne several, join_filled_of_literal literal, joined, String.ofList_toList]

theorem filledText_iff : FilledText f s w ↔ w = fillText f s := by
  constructor
  · intro h
    cases h with
    | plain split literal =>
      obtain rfl := leftmostSplit_iff.1 split
      exact (fillText_of_literal literal).symm
    | whole split => rw [fillText, ← leftmostSplit_iff.1 split]
    | mixed split _ several filled =>
      obtain rfl := leftmostSplit_iff.1 split
      obtain rfl := forall₂_fills_iff.1 filled
      refine (fillText_of_ne fun e single => ?_).symm
      simp [single] at several
  · rintro rfl
    have split := leftmostSplit_split s
    by_cases literal : ∀ p ∈ Piece.split s, p.IsLiteral
    · rw [fillText_of_literal literal]
      exact .plain split literal
    · by_cases single : ∃ e, Piece.split s = [.placeholder e]
      · obtain ⟨e, single⟩ := single
        rw [single] at split
        rw [fillText, single]
        exact .whole split
      · rw [not_exists] at single
        rw [fillText_of_ne single]
        refine .mixed split (by simpa using literal) (fun one => ?_) (forall₂_fills_iff.2 rfl)
        obtain ⟨p, eq⟩ := List.length_eq_one_iff.1 one
        cases p with
        | literal text => exact literal (by simp [eq, Piece.IsLiteral])
        | placeholder e => exact single e eq

end

section
variable {f : String → Value}

mutual

theorem filled_fill : (v : Value) → Filled f v (fill f v)
  | .null => by simp [fill, Filled.null]
  | .bool b => by simp [fill, Filled.bool]
  | .number n => by simp [fill, Filled.number]
  | .text s => by
    rw [fill]
    exact .text (filledText_iff.2 rfl)
  | .list items => by
    rw [fill]
    exact .list (filledItems_fillItems items)
  | .object entries => by
    rw [fill]
    exact .object (filledEntries_fillEntries entries)

theorem filledItems_fillItems : (vs : List Value) → FilledItems f vs (fillItems f vs)
  | [] => .nil
  | v :: vs => .cons (filled_fill v) (filledItems_fillItems vs)

theorem filledEntries_fillEntries :
    (vs : List (String × Value)) → FilledEntries f vs (fillEntries f vs)
  | [] => .nil
  | (_, v) :: vs => .cons (filled_fill v) (filledEntries_fillEntries vs)

end

mutual

theorem Filled.eq_fill {v w : Value} : Filled f v w → w = fill f v
  | .null | .bool _ | .number _ => by simp [fill]
  | .text h => by rw [fill, filledText_iff.1 h]
  | .list h => by rw [fill, h.eq_fillItems]
  | .object h => by rw [fill, h.eq_fillEntries]

theorem FilledItems.eq_fillItems {vs ws : List Value} : FilledItems f vs ws → ws = fillItems f vs
  | .nil => rfl
  | .cons h rest => by rw [fillItems, h.eq_fill, rest.eq_fillItems]

theorem FilledEntries.eq_fillEntries {vs ws : List (String × Value)} :
    FilledEntries f vs ws → ws = fillEntries f vs
  | .nil => rfl
  | .cons h rest => by rw [fillEntries, h.eq_fill, rest.eq_fillEntries]

end

/-- Each value is filled in one way. -/
theorem filled_iff {v w : Value} : Filled f v w ↔ w = fill f v :=
  ⟨Filled.eq_fill, fun eq => eq ▸ filled_fill v⟩

end

/-! Only the values of the expressions that a value is written with matter. -/

section
variable {f f' : String → Value}

theorem fillText_congr {s : String}
    (agree : ∀ x ∈ (Piece.split s).filterMap Piece.expression?, f x = f' x) :
    fillText f s = fillText f' s := by
  have pieces : ∀ p ∈ Piece.split s, p.filled f = p.filled f' := fun p mem => by
    cases p with
    | literal text => rfl
    | placeholder e => exact congrArg inlineText (agree _ (List.mem_filterMap.2 ⟨_, mem, rfl⟩))
  by_cases single : ∃ e, Piece.split s = [.placeholder e]
  · obtain ⟨e, single⟩ := single
    rw [fillText, fillText, single]
    exact agree _ (by simp [single, Piece.expression?])
  · rw [not_exists] at single
    rw [fillText_of_ne single, fillText_of_ne single, List.map_congr_left pieces]

mutual

theorem fill_congr : (v : Value) → (∀ x ∈ written v, f x = f' x) → fill f v = fill f' v
  | .null, _ | .bool _, _ | .number _, _ => by simp [fill]
  | .text s, agree => by
    rw [written] at agree
    rw [fill, fill, fillText_congr agree]
  | .list items, agree => by
    rw [written] at agree
    rw [fill, fill, fillItems_congr items agree]
  | .object entries, agree => by
    rw [written] at agree
    rw [fill, fill, fillEntries_congr entries agree]

theorem fillItems_congr :
    (vs : List Value) → (∀ x ∈ writtenItems vs, f x = f' x) → fillItems f vs = fillItems f' vs
  | [], _ => rfl
  | v :: vs, agree => by
    simp only [writtenItems, List.forall_mem_append] at agree
    rw [fillItems, fillItems, fill_congr v agree.1, fillItems_congr vs agree.2]

theorem fillEntries_congr : (vs : List (String × Value)) →
    (∀ x ∈ writtenEntries vs, f x = f' x) → fillEntries f vs = fillEntries f' vs
  | [], _ => rfl
  | (k, v) :: vs, agree => by
    simp only [writtenEntries, List.forall_mem_append] at agree
    rw [fillEntries, fillEntries, fill_congr v agree.1, fillEntries_congr vs agree.2]

end

end

/-! ### Evaluation from left to right -/

section

variable {α β : Type} {g g' : String → Result Value} {xs ys : List String} {err : ExpressionError}

@[simp] theorem ok_bind (x : α) (f : α → Result β) : (Except.ok x >>= f) = f x := rfl

@[simp] theorem error_bind (f : α → Result β) : (Except.error err >>= f) = .error err := rfl

/-- Evaluates expressions from left to right, up to the first one that fails. -/
def attempt (g : String → Result Value) : List String → Result Unit
  | [] => .ok ()
  | x :: xs => do
    let _ ← g x
    attempt g xs

/-- The value of an expression, or null where it has none. -/
def answer (g : String → Result Value) (x : String) : Value :=
  match g x with
  | .ok v => v
  | .error _ => .null

theorem attempt_append : attempt g (xs ++ ys) = attempt g xs >>= fun _ => attempt g ys := by
  induction xs with
  | nil => rfl
  | cons x xs ih =>
    simp only [List.cons_append, attempt, ih, bind_assoc]

theorem attempt_eq_ok : attempt g xs = .ok () ↔ ∀ x ∈ xs, g x = .ok (answer g x) := by
  induction xs with
  | nil => simp [attempt]
  | cons x xs ih =>
    cases found : g x with
    | ok v => simpa [attempt, found, answer] using ih
    | error e => simp [attempt, found, answer]

theorem attempt_eq_error :
    attempt g xs = .error err ↔
      ∃ before x after, xs = before ++ x :: after ∧
        (∀ y ∈ before, ∃ v, g y = .ok v) ∧ g x = .error err := by
  constructor
  · intro failed
    induction xs with
    | nil => cases failed
    | cons x xs ih =>
      cases found : g x with
      | error e =>
        obtain rfl : e = err := by simpa [attempt, found] using failed
        exact ⟨[], x, xs, rfl, by simp, found⟩
      | ok v =>
        obtain ⟨before, y, after, rfl, succeed, fails⟩ := ih (by simpa [attempt, found] using failed)
        refine ⟨x :: before, y, after, rfl, ?_, fails⟩
        simpa [found] using succeed
  · rintro ⟨before, x, after, rfl, succeed, fails⟩
    have first : attempt g before = .ok () := attempt_eq_ok.2 fun y mem => by
      obtain ⟨v, found⟩ := succeed y mem
      rw [answer, found]
    rw [attempt_append, first, ok_bind, attempt, fails, error_bind]

end

section
variable (evaluator : Evaluator) (env : Environment)

theorem renderPieces_eq (pieces : List Piece) :
    renderPieces evaluator env pieces =
      attempt (evaluator.evaluate · env) (pieces.filterMap Piece.expression?) >>= fun _ =>
        .ok (String.join (pieces.map (Piece.filled (answer (evaluator.evaluate · env))))) := by
  induction pieces with
  | nil => rfl
  | cons p pieces ih =>
    cases p with
    | literal text =>
      rw [renderPieces, ih]
      simp [List.filterMap_cons, Piece.expression?, Piece.filled]
    | placeholder e =>
      rw [renderPieces, ih]
      cases found : evaluator.evaluate (String.ofList e) env with
      | ok v => simp [Piece.expression?, Piece.filled, attempt, answer, found]
      | error err => simp [Piece.expression?, attempt, found]

theorem renderText_eq (s : String) :
    renderText evaluator env s =
      attempt (evaluator.evaluate · env) ((Piece.split s).filterMap Piece.expression?) >>= fun _ =>
        .ok (fillText (answer (evaluator.evaluate · env)) s) := by
  by_cases single : ∃ e, Piece.split s = [.placeholder e]
  · obtain ⟨e, single⟩ := single
    rw [renderText, fillText, single]
    cases found : evaluator.evaluate (String.ofList e) env with
    | ok v => simp [Piece.expression?, attempt, answer, found]
    | error err => simp [Piece.expression?, attempt, found]
  · rw [not_exists] at single
    rw [fillText_of_ne single, renderText]
    split
    · rename_i e found
      exact absurd found (single e)
    · rw [renderPieces_eq]
      simp

mutual

/-- Rendering evaluates the expressions that the value is written with, and fills it. -/
theorem render_eq : (v : Value) →
    render evaluator env v =
      attempt (evaluator.evaluate · env) (written v) >>= fun _ =>
        .ok (fill (answer (evaluator.evaluate · env)) v)
  | .null | .bool _ | .number _ => by simp [render, written, fill, attempt]
  | .text s => by rw [render, written, fill, renderText_eq]
  | .list items => by
    rw [render, written, fill, renderItems_eq items]
    simp
  | .object entries => by
    rw [render, written, fill, renderEntries_eq entries]
    simp

theorem renderItems_eq : (vs : List Value) →
    renderItems evaluator env vs =
      attempt (evaluator.evaluate · env) (writtenItems vs) >>= fun _ =>
        .ok (fillItems (answer (evaluator.evaluate · env)) vs)
  | [] => rfl
  | v :: vs => by
    rw [renderItems, writtenItems, fillItems, attempt_append, render_eq v, renderItems_eq vs]
    simp

theorem renderEntries_eq : (vs : List (String × Value)) →
    renderEntries evaluator env vs =
      attempt (evaluator.evaluate · env) (writtenEntries vs) >>= fun _ =>
        .ok (fillEntries (answer (evaluator.evaluate · env)) vs)
  | [] => rfl
  | (k, v) :: vs => by
    rw [renderEntries, writtenEntries, fillEntries, attempt_append, render_eq v,
      renderEntries_eq vs]
    simp

end

variable {evaluator env} {value w : Value} {err : ExpressionError}

theorem render_eq_ok :
    render evaluator env value = .ok w ↔
      ∃ f, (∀ x ∈ written value, evaluator.evaluate x env = .ok (f x)) ∧ Filled f value w := by
  rw [render_eq]
  constructor
  · intro rendered
    cases found : attempt (evaluator.evaluate · env) (written value) with
    | error e => simp [found] at rendered
    | ok _ =>
      refine ⟨_, attempt_eq_ok.1 found, filled_iff.2 ?_⟩
      simpa [found] using rendered.symm
  · rintro ⟨f, evaluated, filled⟩
    have agree : ∀ x ∈ written value, answer (evaluator.evaluate · env) x = f x := fun x mem => by
      rw [answer, evaluated x mem]
    have all : attempt (evaluator.evaluate · env) (written value) = .ok () :=
      attempt_eq_ok.2 fun x mem => by rw [evaluated x mem, agree x mem]
    rw [all, ok_bind, fill_congr value agree, filled_iff.1 filled]

theorem render_eq_error :
    render evaluator env value = .error err ↔
      ∃ before x after, written value = before ++ x :: after ∧
        (∀ y ∈ before, ∃ v, evaluator.evaluate y env = .ok v) ∧
        evaluator.evaluate x env = .error err := by
  rw [render_eq, ← attempt_eq_error]
  cases attempt (evaluator.evaluate · env) (written value) <;> simp

/-- Rendering depends on nothing but the values of the expressions that are written. -/
theorem render_congr {evaluator' : Evaluator} {env' : Environment}
    (agree : ∀ x ∈ written value, evaluator'.evaluate x env' = evaluator.evaluate x env) :
    render evaluator' env' value = render evaluator env value := by
  cases rendered : render evaluator env value with
  | ok w =>
    obtain ⟨f, evaluated, filled⟩ := render_eq_ok.1 rendered
    exact render_eq_ok.2 ⟨f, fun x mem => (agree x mem).trans (evaluated x mem), filled⟩
  | error err =>
    obtain ⟨before, x, after, eq, succeed, fails⟩ := render_eq_error.1 rendered
    refine render_eq_error.2 ⟨before, x, after, eq, fun y mem => ?_, ?_⟩
    · obtain ⟨v, evaluated⟩ := succeed y mem
      exact ⟨v, (agree y (by simp [eq, mem])).trans evaluated⟩
    · exact (agree x (by simp [eq])).trans fails

end

/-- Every text has one split at its placeholders, and rendering evaluates the expressions at which a
value is split, which are the listed ones up to the blanks around them, from left to right. With
their values the value is filled, in one way, and inside a longer text each of them leaves its text:
a text itself, null nothing, any other its compact text. The first expression that fails is what the
rendering fails with. No other expression counts, in particular none that a value would bring in. -/
theorem rendering_fills_placeholders (evaluator : Evaluator) (env : Environment) (value : Value) :
    (∀ s : String, ∃! pieces, LeftmostSplit s.toList pieces) ∧
    (written value).map Text.trim = placeholdersIn value ∧
    (∀ w, render evaluator env value = .ok w ↔
      ∃ f, (∀ x ∈ written value, evaluator.evaluate x env = .ok (f x)) ∧ Filled f value w) ∧
    (∀ err, render evaluator env value = .error err ↔
      ∃ before x after, written value = before ++ x :: after ∧
        (∀ y ∈ before, ∃ v, evaluator.evaluate y env = .ok v) ∧
        evaluator.evaluate x env = .error err) ∧
    (∀ (evaluator' : Evaluator) (env' : Environment),
      (∀ x ∈ written value, evaluator'.evaluate x env' = evaluator.evaluate x env) →
      render evaluator' env' value = render evaluator env value) :=
  ⟨fun s => ⟨Piece.split s, leftmostSplit_split s, fun _ => leftmostSplit_iff.1⟩,
    map_trim_written value, fun _ => render_eq_ok, fun _ => render_eq_error,
    fun _ _ => render_congr⟩

/-- The variables of a letter: a text that looks like a placeholder, nothing, and a list. -/
def letterVariables : List (String × Value) :=
  [("name", .text "$\x7bgone\x7d"), ("title", .null), ("wares", .list [.bool true, .text "pen"])]

/-- The values of a letter's expressions. -/
def letterValue (expression : String) : Value :=
  (Keyed.get? expression letterVariables).getD .null

def letter : String := "Dear $\x7btitle\x7d$\x7bname\x7d: $\x7bwares\x7d."

theorem filledText_letter :
    FilledText letterValue letter (.text "Dear $\x7bgone\x7d: [true,\"pen\"].") := by
  have split : Piece.split letter = [.literal "Dear ".toList, .placeholder "title".toList,
      .placeholder "name".toList, .literal ": ".toList, .placeholder "wares".toList,
      .literal ".".toList] := by decide +kernel
  have wares : Compact (.list [.bool true, .text "pen"]) "[true,\"pen\"]" :=
    Json.compact_iff.2 (by decide +kernel)
  have texts : "Dear $\x7bgone\x7d: [true,\"pen\"]." = String.join
      ["Dear ", "", "$\x7bgone\x7d", ": ", "[true,\"pen\"]", "."] := by decide +kernel
  rw [texts]
  refine .mixed (leftmostSplit_iff.2 split.symm) ?_ (by decide) ?_
  · exact ⟨.placeholder "name".toList, by simp, nofun⟩
  · exact .cons (.literal _) <| .cons (.placeholder .null) <| .cons (.placeholder (.text _)) <|
      .cons (.literal _) <| .cons (.placeholder (.data ⟨nofun, nofun⟩ wares)) <|
      .cons (.literal _) .nil

/-- A text that stands in a variable comes into a letter as it is, null leaves nothing, and a list is
written as JSON; a text that is one placeholder becomes the list itself. -/
theorem letter_is_filled :
    render { functions := [] } { «variables» := letterVariables, now := ⟨0, 0⟩ }
      (.list [.text letter, .text "$\x7bwares\x7d"]) =
    .ok (.list [.text "Dear $\x7bgone\x7d: [true,\"pen\"].",
      .list [.bool true, .text "pen"]]) := by
  obtain ⟨-, -, rendered, -⟩ := rendering_fills_placeholders { functions := [] }
    { «variables» := letterVariables, now := ⟨0, 0⟩ }
    (.list [.text letter, .text "$\x7bwares\x7d"])
  refine (rendered _).2 ⟨letterValue, ?_, ?_⟩
  · have all : written (.list [.text letter, .text "$\x7bwares\x7d"]) =
        ["title", "name", "wares", "wares"] := by decide +kernel
    rw [all]
    simp only [List.forall_mem_cons]
    exact ⟨rfl, rfl, rfl, rfl, nofun⟩
  · have whole : Piece.split "$\x7bwares\x7d" = [.placeholder "wares".toList] := by decide +kernel
    exact .list (.cons (.text filledText_letter)
      (.cons (.text (.whole (leftmostSplit_iff.2 whole.symm))) .nil))

end Playbook.Template
