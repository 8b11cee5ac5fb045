import Mathlib.Data.List.Basic
import Playbook.Text.Blank

/-!
Texts that are made of lines. A text that is put after whole lines adds its lines to them, and what
has no control character in it is one line.
-/
namespace Playbook.Text

/-- No character stands below the blank, so that nothing breaks the line. -/
def Unbroken (cs : List Char) : Prop := ∀ c ∈ cs, 32 ≤ c.toNat

/-- Nothing, or something that a line feed ends. -/
def Whole (s : String) : Prop := s = "" ∨ ∃ t, s = t ++ "\n"

section
variable {cs rest : List Char} {s t line : String}

@[simp] theorem unbroken_nil : Unbroken [] := by simp [Unbroken]

@[simp] theorem unbroken_cons {c : Char} : Unbroken (c :: cs) ↔ 32 ≤ c.toNat ∧ Unbroken cs :=
  List.forall_mem_cons

@[simp] theorem unbroken_append : Unbroken (cs ++ rest) ↔ Unbroken cs ∧ Unbroken rest :=
  List.forall_mem_append

theorem Unbroken.not_mem (h : Unbroken cs) : '\n' ∉ cs ∧ '\r' ∉ cs :=
  ⟨fun mem => absurd (h _ mem) (by decide), fun mem => absurd (h _ mem) (by decide)⟩

theorem splitOn_ne_nil (sep : Char) (cs : List Char) : splitOn sep cs ≠ [] := by
  cases cs with
  | nil => simp [splitOn]
  | cons c cs =>
    unfold splitOn
    repeat' split
    all_goals simp

theorem splitOn_of_not_mem {sep : Char} (h : sep ∉ cs) : splitOn sep cs = [cs] := by
  induction cs with
  | nil => rfl
  | cons c cs ih =>
    rw [List.mem_cons, not_or] at h
    rw [splitOn, if_neg (Ne.symm h.1), ih h.2]

/-- What stands before an occurrence of the character and what stands after it are cut apart. -/
theorem splitOn_append_cons (sep : Char) (cs rest : List Char) :
    splitOn sep (cs ++ sep :: rest) = splitOn sep cs ++ splitOn sep rest := by
  induction cs with
  | nil => simp [splitOn]
  | cons c cs ih =>
    by_cases cut : c = sep
    · simp [splitOn, cut, ih]
    · obtain ⟨piece, pieces, pieces_eq⟩ := List.exists_cons_of_ne_nil (splitOn_ne_nil sep cs)
      simp [splitOn, cut, ih, pieces_eq]

/-- After whole lines, the lines of a text begin. -/
theorem lines_append (whole : Whole s) : lines (s ++ t) = lines s ++ lines t := by
  rcases whole with rfl | ⟨s, rfl⟩
  · simp [lines, splitOn]
  · have pieces : splitOn '\n' (s ++ "\n" ++ t).toList =
        splitOn '\n' s.toList ++ splitOn '\n' t.toList := by
      simpa using splitOn_append_cons '\n' s.toList t.toList
    have first : splitOn '\n' (s ++ "\n").toList = splitOn '\n' s.toList ++ [[]] := by
      simpa [splitOn] using splitOn_append_cons '\n' s.toList []
    have later := splitOn_ne_nil '\n' t.toList
    simp only [lines, pieces, first]
    simp [List.dropLast_append_of_ne_nil later, List.getLast?_append_of_ne_nil _ later]

theorem lines_of_unbroken (unbroken : Unbroken line.toList) : lines (line ++ "\n") = [line] := by
  obtain ⟨lineFeed, carriageReturn⟩ := unbroken.not_mem
  have pieces : splitOn '\n' (line ++ "\n").toList = [line.toList, []] := by
    simpa [splitOn, splitOn_of_not_mem lineFeed] using splitOn_append_cons '\n' line.toList []
  have kept : line.toList.getLast? ≠ some '\r' :=
    fun last => carriageReturn (List.mem_of_getLast? last)
  simp only [lines, pieces]
  simp [kept]

end

end Playbook.Text
