import Playbook.Sum

/-!
Replacing and removing the first match in a list, and what this does to the members of the list and
to a sum over it.
-/
namespace Playbook.First

variable {α : Type}

/-- The list with another element in the place of the first match. -/
def replace (matching : α → Bool) (a : α) : List α → List α
  | [] => []
  | b :: rest => if matching b then a :: rest else b :: replace matching a rest

/-- The list without the first match. -/
def remove (matching : α → Bool) : List α → List α
  | [] => []
  | b :: rest => if matching b then rest else b :: remove matching rest

theorem mem_of_mem_remove {matching : α → Bool} {x : α} {xs : List α}
    (h : x ∈ remove matching xs) : x ∈ xs := by
  induction xs with
  | nil => simp [remove] at h
  | cons b rest ih =>
    rw [remove] at h
    split at h
    · exact List.mem_cons_of_mem b h
    · rcases List.mem_cons.1 h with rfl | h
      · exact List.mem_cons_self
      · exact List.mem_cons_of_mem b (ih h)

theorem mem_remove_of_mem_replace {matching : α → Bool} {a x : α} {xs : List α}
    (h : x ∈ replace matching a xs) : x = a ∨ x ∈ remove matching xs := by
  induction xs with
  | nil => cases h
  | cons b rest ih =>
    rw [replace] at h
    rw [remove]
    split at h <;> rename_i hb
    · rw [if_pos hb]
      exact List.mem_cons.1 h
    · rw [if_neg hb]
      rcases List.mem_cons.1 h with rfl | h
      · exact .inr List.mem_cons_self
      · exact (ih h).imp_right (List.mem_cons_of_mem b)

theorem mem_of_mem_replace {matching : α → Bool} {a x : α} {xs : List α}
    (h : x ∈ replace matching a xs) : x = a ∨ x ∈ xs :=
  (mem_remove_of_mem_replace h).imp_right mem_of_mem_remove

/-- Where no two elements have the same key, each is the first one with its key. -/
theorem find?_key {β : Type} [BEq β] [LawfulBEq β] {key : α → β} {xs : List α}
    (nodup : (xs.map key).Nodup) {x : α} (h : x ∈ xs) :
    xs.find? (fun y => key y == key x) = some x := by
  induction xs with
  | nil => cases h
  | cons y rest ih =>
    obtain ⟨fresh, nodup⟩ := List.nodup_cons.1 nodup
    rcases List.mem_cons.1 h with rfl | h
    · simp
    · have ne : key y ≠ key x := fun he => fresh (he ▸ List.mem_map_of_mem h)
      simp [ne, ih nodup h]

theorem find?_replace {matching : α → Bool} {a b : α} {xs : List α}
    (h : xs.find? matching = some b) (ha : matching a = true) :
    (replace matching a xs).find? matching = some a := by
  induction xs with
  | nil => simp at h
  | cons x rest ih =>
    by_cases hx : matching x
    · simp [replace, hx, ha]
    · simp [replace, hx, ih (by simpa [hx] using h)]

theorem find?_replace_of_disjoint {matching other : α → Bool} {a : α}
    (disjoint : ∀ x, matching x = true → other x = false) (apart : other a = false) (xs : List α) :
    (replace matching a xs).find? other = xs.find? other := by
  induction xs with
  | nil => rfl
  | cons x rest ih =>
    by_cases hx : matching x = true
    · simp [replace, hx, apart, disjoint x hx]
    · simp [replace, hx, List.find?_cons, ih]

/-- What the first match and its replacement have in common stays. -/
theorem map_replace {β : Type} (f : α → β) {matching : α → Bool} {a b : α} {xs : List α}
    (h : xs.find? matching = some b) (same : f a = f b) :
    (replace matching a xs).map f = xs.map f := by
  induction xs with
  | nil => rfl
  | cons x rest ih =>
    by_cases hx : matching x
    · simp_all [replace]
    · simp [replace, hx, ih (by simpa [hx] using h)]

theorem remove_map {β : Type} (f : α → β) (matching : β → Bool) (xs : List α) :
    remove matching (xs.map f) = (remove (fun a => matching (f a)) xs).map f := by
  induction xs with
  | nil => rfl
  | cons x rest ih =>
    simp only [List.map_cons, remove, ih]
    split <;> simp

/-- The first match and the list without it make up the list. -/
theorem perm_remove {matching : α → Bool} {b : α} {xs : List α} (h : xs.find? matching = some b) :
    xs.Perm (b :: remove matching xs) := by
  induction xs with
  | nil => simp at h
  | cons x rest ih =>
    by_cases hx : matching x
    · simp_all [remove]
    · rw [remove, if_neg hx]
      exact ((ih (by simpa [hx] using h)).cons x).trans (.swap b x _)

theorem sum_replace (f : α → Nat) {matching : α → Bool} {a b : α} {xs : List α}
    (h : xs.find? matching = some b) :
    sumOf f (replace matching a xs) + f b = sumOf f xs + f a := by
  induction xs with
  | nil => simp at h
  | cons x rest ih =>
    by_cases hx : matching x
    · simp_all [replace]
      omega
    · have := ih (by simpa [hx] using h)
      simp only [replace, hx, Bool.false_eq_true, if_false, sumOf_cons]
      omega

theorem sum_remove (f : α → Nat) {matching : α → Bool} {b : α} {xs : List α}
    (h : xs.find? matching = some b) :
    sumOf f (remove matching xs) + f b = sumOf f xs := by
  induction xs with
  | nil => simp at h
  | cons x rest ih =>
    by_cases hx : matching x
    · simp_all [remove]
      omega
    · have := ih (by simpa [hx] using h)
      simp only [remove, hx, Bool.false_eq_true, if_false, sumOf_cons]
      omega

end Playbook.First
