import Mathlib.Data.List.Basic
import Mathlib.Data.Set.Card
import Playbook.Knowledge
import Playbook.Proofs.Graph.Reachability

/-!
The terms of a text. A word is a run of alphanumeric characters that goes on at neither end; those of
more than two bytes are terms, in lower case. A text that is searched from left to right gives
exactly its words, so the terms that are listed are all terms, each once.
-/
namespace Playbook.Knowledge

/-- A word of a text: a run of alphanumeric characters that goes on at neither end. -/
structure IsWord (text word : List Char) : Prop where
  nonempty : word ≠ []
  alphanumeric : ∀ c ∈ word, Text.isAlphanumeric c = true
  stands : ∃ before after, text = before ++ word ++ after ∧
    (∀ c ∈ before.getLast?, Text.isAlphanumeric c = false) ∧
    ∀ c ∈ after.head?, Text.isAlphanumeric c = false

/-- A term of a text: a word of more than two bytes in lower case. -/
def IsTerm (text term : String) : Prop :=
  ∃ word, IsWord text.toList word ∧ 2 < (String.ofList word).utf8ByteSize ∧
    term = Text.lower (String.ofList word)

section
variable {front rest word : List Char} {c : Char}

/-- A text of alphanumeric characters only is one word, or none. -/
theorem isWord_of_alphanumeric (all : ∀ c ∈ front, Text.isAlphanumeric c = true) :
    IsWord front word ↔ word = front ∧ word ≠ [] := by
  constructor
  · intro h
    obtain ⟨before, after, rfl, ends, starts⟩ := h.stands
    -- a character next to the word would be one that is not alphanumeric
    have first : before = [] := by
      rw [← List.getLast?_eq_none_iff, Option.eq_none_iff_forall_ne_some]
      intro c last
      have mem : c ∈ before ++ word ++ after := by simp [List.mem_of_getLast? last]
      exact Bool.noConfusion ((all c mem).symm.trans (ends c last))
    have last : after = [] := by
      rw [← List.head?_eq_none_iff, Option.eq_none_iff_forall_ne_some]
      intro c next
      have mem : c ∈ before ++ word ++ after := by simp [List.mem_of_head? next]
      exact Bool.noConfusion ((all c mem).symm.trans (starts c next))
    exact ⟨by simp [first, last], h.nonempty⟩
  · rintro ⟨rfl, nonempty⟩
    exact ⟨nonempty, all, [], [], by simp, nofun, nofun⟩

theorem IsWord.before (h : IsWord front word) (other : Text.isAlphanumeric c = false) :
    IsWord (front ++ c :: rest) word := by
  obtain ⟨before, after, rfl, ends, starts⟩ := h.stands
  refine ⟨h.nonempty, h.alphanumeric, before, after ++ c :: rest, by simp, ends, fun d next => ?_⟩
  cases after with
  | nil =>
    cases next
    exact other
  | cons a after => exact starts d next

theorem IsWord.after (h : IsWord rest word) (other : Text.isAlphanumeric c = false) :
    IsWord (front ++ c :: rest) word := by
  obtain ⟨before, after, rfl, ends, starts⟩ := h.stands
  refine ⟨h.nonempty, h.alphanumeric, front ++ c :: before, after, by simp, fun d last => ?_, starts⟩
  rw [List.getLast?_append_of_ne_nil _ (List.cons_ne_nil c before), List.getLast?_cons] at last
  cases prior : before.getLast? with
  | none =>
    rw [prior] at last
    cases last
    exact other
  | some e =>
    rw [prior] at last
    cases last
    exact ends _ prior

/-- No word goes over a character that is not alphanumeric. -/
theorem isWord_separated (other : Text.isAlphanumeric c = false) :
    IsWord (front ++ c :: rest) word ↔ IsWord front word ∨ IsWord rest word := by
  refine ⟨fun h => ?_, fun h => h.elim (·.before other) (·.after other)⟩
  have outside : c ∉ word := fun mem => Bool.noConfusion ((h.alphanumeric c mem).symm.trans other)
  obtain ⟨before, after, split, ends, starts⟩ := h.stands
  rcases List.append_eq_append_iff.1 split with ⟨d, left, right⟩ | ⟨d, left, right⟩
  · -- the word ends behind the character, so it begins behind it as well
    cases d with
    | nil =>
      refine .inl ⟨h.nonempty, h.alphanumeric, before, [], ?_, ends, nofun⟩
      simpa using left.symm
    | cons e d =>
      obtain ⟨rfl, rfl⟩ := List.cons.inj right
      rcases List.append_eq_append_iff.1 left with ⟨e, inner, outer⟩ | ⟨e, inner, outer⟩
      · exact absurd (by rw [outer]; simp) outside
      · cases e with
        | nil => exact absurd (by rw [← List.nil_append word, ← outer]; simp) outside
        | cons e later =>
          obtain ⟨rfl, rfl⟩ := List.cons.inj outer
          refine .inr ⟨h.nonempty, h.alphanumeric, later, after, by simp, fun x last => ?_, starts⟩
          refine ends x ?_
          rw [inner, List.getLast?_append_of_ne_nil _ (List.cons_ne_nil _ later),
            List.getLast?_cons, last]
          rfl
  · refine .inl ⟨h.nonempty, h.alphanumeric, before, d, left, ends, fun x next => starts x ?_⟩
    rw [right]
    simp [Option.mem_def.1 next]

end

theorem mem_words {acc cs word : List Char} (all : ∀ c ∈ acc, Text.isAlphanumeric c = true) :
    word ∈ words acc cs ∧ word ≠ [] ↔ IsWord (acc.reverse ++ cs) word := by
  induction cs generalizing acc with
  | nil =>
    rw [words, List.append_nil, isWord_of_alphanumeric (by simpa using all), List.mem_singleton]
  | cons c rest ih =>
    by_cases own : Text.isAlphanumeric c = true
    · rw [words, if_pos own, ih (List.forall_mem_cons.2 ⟨own, all⟩)]
      simp
    · rw [words, if_neg own, isWord_separated (by simpa using own),
        isWord_of_alphanumeric (by simpa using all), List.mem_cons, or_and_right, ih (by simp)]
      rfl

theorem mem_terms {text term : String} : term ∈ terms text ↔ IsTerm text term := by
  unfold terms IsTerm
  simp only [List.mem_eraseDups, List.mem_map, List.mem_filter, decide_eq_true_eq]
  constructor
  · rintro ⟨_, ⟨⟨word, mem, rfl⟩, long⟩, rfl⟩
    have nonempty : word ≠ [] := by
      rintro rfl
      simp at long
    exact ⟨word, (mem_words (List.forall_mem_nil _)).1 ⟨mem, nonempty⟩, long, rfl⟩
  · rintro ⟨word, h, long, rfl⟩
    exact ⟨_, ⟨⟨word, ((mem_words (List.forall_mem_nil _)).2 h).1, rfl⟩, long⟩, rfl⟩

theorem nodup_terms (text : String) : (terms text).Nodup := nodup_eraseDups _

/-- A set that a list without repetitions lists has as many elements as the list. -/
theorem ncard_of_listed {set : Set String} {listed : List String} (once : listed.Nodup)
    (lists : ∀ t, t ∈ set ↔ t ∈ listed) : set.ncard = listed.length := by
  have same : set = (listed.toFinset : Set String) := by
    ext t
    simp [lists]
  rw [same, Set.ncard_coe_finset, List.toFinset_card_of_nodup once]

/-- The terms of a text are as many as are listed. -/
theorem ncard_isTerm (text : String) : {t | IsTerm text t}.ncard = (terms text).length :=
  ncard_of_listed (nodup_terms text) fun _ => mem_terms.symm

/-- The terms that two texts share are as many as are counted. -/
theorem ncard_shared (query content : String) :
    {t | IsTerm query t ∧ IsTerm content t}.ncard = overlap (terms query) content :=
  ncard_of_listed ((nodup_terms query).filter _) fun t => by simp [mem_terms]

end Playbook.Knowledge
