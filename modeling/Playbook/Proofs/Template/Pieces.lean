import Mathlib.Data.List.Chain
import Mathlib.Data.List.TakeWhile
import Mathlib.Logic.ExistsUnique
import Mathlib.Tactic.Common
import Playbook.Template

/-!
How a text with placeholders is cut. A placeholder opens wherever a dollar sign and an opening brace
are followed, somewhere, by a closing one. There is one way to cut a text into stretches of literal
text and placeholders so that no placeholder opens inside a literal stretch, and that is how
`Piece.split` cuts it.
-/
namespace Playbook.Template

/-- A placeholder stands at the front of the text. -/
def Opens (cs : List Char) : Prop :=
  ∃ e after, '\x7d' ∉ e ∧ cs = (Piece.placeholder e).source ++ after

def Piece.IsLiteral (p : Piece) : Prop := ∃ text, p = .literal text

/-- The text that pieces were cut from. -/
def sources (pieces : List Piece) : List Char := pieces.flatMap Piece.source

/-- The pieces of a text, cut at each placeholder from left to right. -/
structure LeftmostSplit (cs : List Char) (pieces : List Piece) : Prop where
  joined : sources pieces = cs
  closed : ∀ e, .placeholder e ∈ pieces → '\x7d' ∉ e
  nonempty : ∀ text, .literal text ∈ pieces → text ≠ []
  apart : pieces.IsChain fun p q => ¬(p.IsLiteral ∧ q.IsLiteral)
  /-- no placeholder opens inside a literal stretch -/
  leftmost : ∀ front text back, pieces = front ++ .literal text :: back →
    ∀ pre post, pre ++ post = text → post ≠ [] → ¬Opens (post ++ sources back)

section
variable {cs text e : List Char} {pieces : List Piece}

@[simp] theorem sources_nil : sources [] = [] := rfl

@[simp] theorem sources_cons (p : Piece) (pieces : List Piece) :
    sources (p :: pieces) = p.source ++ sources pieces := rfl

@[simp] theorem source_literal (text : List Char) : (Piece.literal text).source = text := rfl

theorem opens_placeholder (closed : '\x7d' ∉ e) (after : List Char) :
    Opens ((Piece.placeholder e).source ++ after) :=
  ⟨e, after, closed, rfl⟩

/-! ### Parts of a split -/

theorem LeftmostSplit.nil : LeftmostSplit [] [] :=
  ⟨rfl, by simp, by simp, .nil, by simp⟩

theorem LeftmostSplit.tail {p : Piece} (h : LeftmostSplit cs (p :: pieces)) :
    LeftmostSplit (sources pieces) pieces where
  joined := rfl
  closed e mem := h.closed e (List.mem_cons_of_mem p mem)
  nonempty text mem := h.nonempty text (List.mem_cons_of_mem p mem)
  apart := h.apart.tail
  leftmost front text back eq := h.leftmost (p :: front) text back (by rw [eq]; rfl)

theorem LeftmostSplit.placeholder (closed : '\x7d' ∉ e) (h : LeftmostSplit cs pieces) :
    LeftmostSplit ((Piece.placeholder e).source ++ cs) (.placeholder e :: pieces) where
  joined := by rw [sources_cons, h.joined]
  closed e' mem := by
    rcases List.mem_cons.1 mem with same | mem
    · cases same
      exact closed
    · exact h.closed e' mem
  nonempty text mem := by
    rcases List.mem_cons.1 mem with same | mem
    · cases same
    · exact h.nonempty text mem
  apart := by
    refine List.isChain_cons.2 ⟨fun q _ both => ?_, h.apart⟩
    obtain ⟨text, same⟩ := both.1
    cases same
  leftmost front text back eq := by
    cases front with
    | nil => cases eq
    | cons p front =>
      obtain ⟨-, eq⟩ := List.cons.inj eq
      exact h.leftmost front text back eq

theorem LeftmostSplit.literal (nonempty : text ≠ [])
    (unopened : ∀ pre post, pre ++ post = text → post ≠ [] → ¬Opens (post ++ cs))
    (follows : ∀ p ∈ pieces.head?, ¬p.IsLiteral) (h : LeftmostSplit cs pieces) :
    LeftmostSplit (text ++ cs) (.literal text :: pieces) where
  joined := by rw [sources_cons, h.joined, source_literal]
  closed e mem := by
    rcases List.mem_cons.1 mem with same | mem
    · cases same
    · exact h.closed e mem
  nonempty text' mem := by
    rcases List.mem_cons.1 mem with same | mem
    · cases same
      exact nonempty
    · exact h.nonempty text' mem
  apart := List.isChain_cons.2 ⟨fun q mem both => follows q mem both.2, h.apart⟩
  leftmost front text' back eq := by
    cases front with
    | nil =>
      cases eq
      rwa [h.joined]
    | cons p front =>
      obtain ⟨-, eq⟩ := List.cons.inj eq
      exact h.leftmost front text' back eq

/-! ### The only split -/

theorem LeftmostSplit.eq_nil (h : LeftmostSplit [] pieces) : pieces = [] := by
  cases pieces with
  | nil => rfl
  | cons p pieces =>
    have joined := h.joined
    cases p with
    | literal text =>
      have nonempty := h.nonempty text (List.mem_cons_self ..)
      simp_all
    | placeholder e => simp [Piece.source] at joined

/-- A text at whose front a placeholder stands is not cut inside a literal stretch there. -/
theorem LeftmostSplit.not_opens (h : LeftmostSplit cs (.literal text :: pieces)) : ¬Opens cs := by
  have unopened := h.leftmost [] text pieces rfl [] text rfl (h.nonempty text (List.mem_cons_self ..))
  rwa [← h.joined]

theorem closing?_of_not_mem (closed : '\x7d' ∉ e) (after : List Char) :
    closing? (e ++ '\x7d' :: after) = some (e, after) := by
  have inside : ∀ c ∈ e, (c ≠ '\x7d' : Bool) := fun c mem => by
    simpa using ne_of_mem_of_not_mem mem closed
  rw [closing?, List.dropWhile_append_of_pos inside, List.takeWhile_append_of_pos inside]
  simp

/-- Both expressions end at the first closing brace. -/
theorem placeholder_inj {e' after after' : List Char} (closed : '\x7d' ∉ e) (closed' : '\x7d' ∉ e')
    (same : (Piece.placeholder e).source ++ after = (Piece.placeholder e').source ++ after') :
    e = e' ∧ after = after' := by
  have inner : e ++ '\x7d' :: after = e' ++ '\x7d' :: after' := by simpa [Piece.source] using same
  have found := closing?_of_not_mem closed after
  rw [inner, closing?_of_not_mem closed'] at found
  cases found
  exact ⟨rfl, rfl⟩

/-- Of two splits that start with a literal stretch, neither stretch goes on past the other: what
follows the shorter one is a placeholder, and the longer one would hold its opening. -/
theorem LeftmostSplit.not_longer {d : List Char} {pieces' : List Piece}
    (h : LeftmostSplit cs (.literal text :: pieces))
    (h' : LeftmostSplit cs (.literal (text ++ d) :: pieces')) : d = [] := by
  by_contra longer
  have follows : sources pieces = d ++ sources pieces' := by
    have joined := h.joined.trans h'.joined.symm
    simpa using joined
  refine h'.leftmost [] (text ++ d) pieces' rfl text d rfl longer ?_
  rw [← follows]
  cases pieces with
  | nil => exact absurd (List.append_eq_nil_iff.1 follows.symm).1 longer
  | cons p pieces =>
    cases p with
    | literal next =>
      have apart := (List.isChain_cons_cons.1 h.apart).1
      exact absurd ⟨⟨text, rfl⟩, ⟨next, rfl⟩⟩ apart
    | placeholder e => exact opens_placeholder (h.closed e (by simp)) (sources pieces)

theorem LeftmostSplit.unique {pieces' : List Piece} (h : LeftmostSplit cs pieces)
    (h' : LeftmostSplit cs pieces') : pieces = pieces' := by
  induction pieces generalizing cs pieces' with
  | nil =>
    obtain rfl : cs = [] := h.joined.symm
    exact h'.eq_nil.symm
  | cons p pieces ih =>
    cases pieces' with
    | nil =>
      obtain rfl : cs = [] := h'.joined.symm
      exact h.eq_nil
    | cons p' pieces' =>
      have joined := h.joined.trans h'.joined.symm
      -- the rests are splits of one text as soon as the first pieces agree
      have same_rest : sources pieces = sources pieces' → pieces = pieces' := fun rest =>
        ih h.tail (rest ▸ h'.tail)
      cases p with
      | literal text =>
        cases p' with
        | literal text' =>
          obtain ⟨d, rfl, rest⟩ | ⟨d, rfl, rest⟩ := List.append_eq_append_iff.1 joined
          · obtain rfl := h.not_longer h'
            simp [same_rest rest]
          · obtain rfl := h'.not_longer h
            simp [same_rest rest.symm]
        | placeholder e =>
          refine absurd ?_ h.not_opens
          rw [← h'.joined]
          exact opens_placeholder (h'.closed e (by simp)) _
      | placeholder e =>
        cases p' with
        | literal text =>
          refine absurd ?_ h'.not_opens
          rw [← h.joined]
          exact opens_placeholder (h.closed e (by simp)) _
        | placeholder e' =>
          obtain ⟨rfl, rest⟩ := placeholder_inj (h.closed e (by simp)) (h'.closed e' (by simp)) joined
          rw [same_rest rest]

/-! ### The split that is made -/

theorem closing?_eq_none (h : closing? cs = none) : '\x7d' ∉ cs := by
  intro mem
  obtain ⟨e, after, rfl, closed⟩ := List.eq_append_cons_of_mem mem
  rw [closing?_of_not_mem closed] at h
  cases h

theorem closing?_eq_some {after : List Char} (h : closing? cs = some (e, after)) :
    '\x7d' ∉ e ∧ cs = e ++ '\x7d' :: after := by
  have mem : '\x7d' ∈ cs := by
    by_contra none
    have all : ∀ c ∈ cs, (c ≠ '\x7d' : Bool) := fun c mem => by
      simpa using ne_of_mem_of_not_mem mem none
    rw [closing?, List.dropWhile_eq_nil_iff.2 all] at h
    cases h
  obtain ⟨e', after', rfl, closed⟩ := List.eq_append_cons_of_mem mem
  rw [closing?_of_not_mem closed] at h
  cases h
  exact ⟨closed, rfl⟩

/-- Nothing opens where the two characters of an opening do not stand. -/
theorem Opens.opening (h : Opens cs) : ∃ inner, cs = '$' :: '\x7b' :: inner ∧ '\x7d' ∈ inner := by
  obtain ⟨e, after, -, rfl⟩ := h
  exact ⟨e ++ '\x7d' :: after, by simp [Piece.source], by simp⟩

theorem firstPlaceholder?_opening (inner : List Char) :
    firstPlaceholder? ('$' :: '\x7b' :: inner) =
      (closing? inner).map fun (e, after) => ([], e, after) := by
  simp [firstPlaceholder?]

theorem firstPlaceholder?_later {c : Char} {rest : List Char}
    (unopened : ∀ inner, c :: rest ≠ '$' :: '\x7b' :: inner) :
    firstPlaceholder? (c :: rest) =
      (firstPlaceholder? rest).map fun (before, e, after) => (c :: before, e, after) := by
  cases rest with
  | nil => simp [firstPlaceholder?]
  | cons d inner =>
    have other : ¬(c = '$' ∧ d = '\x7b') := fun ⟨dollar, brace⟩ =>
      unopened inner (by rw [dollar, brace])
    rw [firstPlaceholder?, if_neg other]

theorem not_opens_of_firstPlaceholder? (h : firstPlaceholder? cs = none) :
    ∀ pre post, pre ++ post = cs → ¬Opens post := by
  induction cs with
  | nil =>
    intro pre post joined opens
    obtain ⟨inner, rfl, -⟩ := opens.opening
    simp at joined
  | cons c rest ih =>
    intro pre post joined opens
    by_cases opening : ∃ inner, c :: rest = '$' :: '\x7b' :: inner
    · -- without a closing brace in the rest of the text nothing opens further on either
      obtain ⟨inner, same⟩ := opening
      rw [same, firstPlaceholder?_opening, Option.map_eq_none_iff] at h
      obtain ⟨inner', rfl, mem⟩ := opens.opening
      have absent := closing?_eq_none h
      have mem : '\x7d' ∈ c :: rest := by rw [← joined]; simp [mem]
      rw [same] at mem
      simp [absent] at mem
    · rw [not_exists] at opening
      rw [firstPlaceholder?_later opening, Option.map_eq_none_iff] at h
      cases pre with
      | nil =>
        obtain ⟨inner, rfl, -⟩ := opens.opening
        exact opening inner joined.symm
      | cons p pre => exact ih h pre post (List.cons.inj joined).2 opens

theorem firstPlaceholder?_eq_some {before after : List Char}
    (h : firstPlaceholder? cs = some (before, e, after)) :
    '\x7d' ∉ e ∧ cs = before ++ ((Piece.placeholder e).source ++ after) ∧
    ∀ pre post, pre ++ post = before → post ≠ [] →
      ¬Opens (post ++ ((Piece.placeholder e).source ++ after)) := by
  induction cs generalizing before with
  | nil => cases h
  | cons c rest ih =>
    by_cases opening : ∃ inner, c :: rest = '$' :: '\x7b' :: inner
    · obtain ⟨inner, same⟩ := opening
      rw [same, firstPlaceholder?_opening] at h
      obtain ⟨⟨e, after⟩, found, eq⟩ := Option.map_eq_some_iff.1 h
      cases eq
      obtain ⟨closed, rfl⟩ := closing?_eq_some found
      refine ⟨closed, by rw [same]; simp [Piece.source], fun pre post joined nonempty => ?_⟩
      exact absurd (List.append_eq_nil_iff.1 joined).2 nonempty
    · rw [not_exists] at opening
      rw [firstPlaceholder?_later opening] at h
      obtain ⟨⟨before, e, after⟩, found, eq⟩ := Option.map_eq_some_iff.1 h
      cases eq
      obtain ⟨closed, rfl, leftmost⟩ := ih found
      refine ⟨closed, rfl, fun pre post joined nonempty opens => ?_⟩
      cases pre with
      | nil =>
        obtain rfl : post = c :: before := joined
        obtain ⟨inner, same, -⟩ := opens.opening
        exact opening inner same
      | cons p pre => exact leftmost pre post (List.cons.inj joined).2 nonempty opens

/-- An empty stretch before a split is left out, another one becomes its first piece. -/
theorem LeftmostSplit.literalPiece
    (unopened : ∀ pre post, pre ++ post = text → post ≠ [] → ¬Opens (post ++ cs))
    (follows : ∀ p ∈ pieces.head?, ¬p.IsLiteral) (h : LeftmostSplit cs pieces) :
    LeftmostSplit (text ++ cs) (literalPiece text ++ pieces) := by
  cases text with
  | nil => exact h
  | cons c text => exact h.literal (List.cons_ne_nil c text) unopened follows

theorem leftmostSplit_splitFrom {fuel : Nat} (enough : cs.length ≤ fuel) :
    LeftmostSplit cs (splitFrom fuel cs) := by
  induction fuel generalizing cs with
  | zero =>
    obtain rfl : cs = [] := by simpa using enough
    exact .nil
  | succ fuel ih =>
    rw [splitFrom]
    cases found : firstPlaceholder? cs with
    | none =>
      have unopened := not_opens_of_firstPlaceholder? found
      have whole := LeftmostSplit.nil.literalPiece
        (fun pre post joined _ => by rw [List.append_nil]; exact unopened pre post joined) (by simp)
      simpa using whole
    | some parts =>
      obtain ⟨before, e, after⟩ := parts
      obtain ⟨closed, rfl, leftmost⟩ := firstPlaceholder?_eq_some found
      have shorter : after.length ≤ fuel := by simp [Piece.source] at enough; omega
      refine ((ih shorter).placeholder closed).literalPiece leftmost ?_
      rintro p mem ⟨text, rfl⟩
      simp at mem

theorem leftmostSplit_split (s : String) : LeftmostSplit s.toList (Piece.split s) :=
  leftmostSplit_splitFrom (Nat.le_of_eq String.length_toList)

/-- A text is cut in one way, which is the one that `Piece.split` takes. -/
theorem leftmostSplit_iff {s : String} : LeftmostSplit s.toList pieces ↔ pieces = Piece.split s :=
  ⟨fun h => h.unique (leftmostSplit_split s), fun h => h ▸ leftmostSplit_split s⟩

end

end Playbook.Template
