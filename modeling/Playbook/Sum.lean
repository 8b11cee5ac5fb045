/-!
The sum of a measure over a list.
-/
namespace Playbook

variable {α : Type}

/-- The sum of a measure over a list. -/
def sumOf (f : α → Nat) : List α → Nat
  | [] => 0
  | a :: rest => f a + sumOf f rest

@[simp] theorem sumOf_nil (f : α → Nat) : sumOf f [] = 0 := rfl

@[simp] theorem sumOf_cons (f : α → Nat) (a : α) (xs : List α) :
    sumOf f (a :: xs) = f a + sumOf f xs := rfl

@[simp] theorem sumOf_append (f : α → Nat) (xs ys : List α) :
    sumOf f (xs ++ ys) = sumOf f xs + sumOf f ys := by
  induction xs with
  | nil => simp
  | cons x rest ih => simp [ih, Nat.add_assoc]

@[simp] theorem sumOf_map {β : Type} (f : β → Nat) (g : α → β) (xs : List α) :
    sumOf f (xs.map g) = sumOf (fun a => f (g a)) xs := by
  induction xs with
  | nil => rfl
  | cons x rest ih => simp [ih]

/-- Sums compare as their terms do. -/
theorem sumOf_le_sumOf {f g : α → Nat} {xs : List α} (le : ∀ a ∈ xs, f a ≤ g a) :
    sumOf f xs ≤ sumOf g xs := by
  induction xs with
  | nil => simp
  | cons x rest ih =>
    have := le x (by simp)
    have := ih fun a ha => le a (by simp [ha])
    simp only [sumOf_cons]
    omega

theorem sumOf_lt_sumOf {f g : α → Nat} {xs : List α} (le : ∀ a ∈ xs, f a ≤ g a)
    (lt : ∃ a ∈ xs, f a < g a) : sumOf f xs < sumOf g xs := by
  induction xs with
  | nil => simp at lt
  | cons x rest ih =>
    have hx := le x (by simp)
    have hrest : ∀ a ∈ rest, f a ≤ g a := fun a ha => le a (by simp [ha])
    have := sumOf_le_sumOf hrest
    simp only [sumOf_cons]
    obtain ⟨a, ha, lt⟩ := lt
    rcases List.mem_cons.1 ha with rfl | ha
    · omega
    · have := ih hrest ⟨a, ha, lt⟩
      omega

theorem sumOf_congr {f g : α → Nat} {xs : List α} (same : ∀ a ∈ xs, f a = g a) :
    sumOf f xs = sumOf g xs :=
  Nat.le_antisymm (sumOf_le_sumOf fun a mem => Nat.le_of_eq (same a mem))
    (sumOf_le_sumOf fun a mem => Nat.le_of_eq (same a mem).symm)

/-- A list whose keys are all known is as long as its parts by key together. -/
theorem sumOf_length_filter {κ : Type} [BEq κ] [LawfulBEq κ] (key : α → κ) {keys : List κ}
    (nodup : keys.Nodup) {xs : List α} (known : ∀ x ∈ xs, key x ∈ keys) :
    sumOf (fun k => (xs.filter fun x => key x == k).length) keys = xs.length := by
  induction keys generalizing xs with
  | nil => simp [List.eq_nil_iff_forall_not_mem.2 fun x hx => List.not_mem_nil (known x hx)]
  | cons k rest ih =>
    obtain ⟨fresh, nodup⟩ := List.nodup_cons.1 nodup
    let left := xs.filter fun x => !(key x == k)
    have others : sumOf (fun a => (left.filter fun x => key x == a).length) rest = left.length := by
      refine ih nodup fun x hx => ?_
      obtain ⟨mem, ne⟩ := List.mem_filter.1 hx
      exact (List.mem_cons.1 (known x mem)).resolve_left (by simpa using ne)
    have same : ∀ a ∈ rest, (left.filter fun x => key x == a) = xs.filter fun x => key x == a := by
      intro a ha
      have ne : a ≠ k := fun he => fresh (he ▸ ha)
      rw [List.filter_filter]
      refine List.filter_congr fun x _ => ?_
      by_cases hx : key x = a <;> simp [hx, ne]
    rw [sumOf_congr fun a ha => congrArg List.length (same a ha)] at others
    rw [sumOf_cons, others, ← List.countP_eq_length_filter, ← List.countP_eq_length_filter,
      List.length_eq_countP_add_countP fun x => key x == k]
    exact congrArg _ (List.countP_congr fun x _ => by simp)

/-- Counting one for each member that has a property counts these. -/
theorem sumOf_ite (P : α → Bool) (xs : List α) :
    sumOf (fun a => if P a then 1 else 0) xs = (xs.filter P).length := by
  induction xs with
  | nil => rfl
  | cons x rest ih =>
    by_cases holds : P x = true
    · simp [holds, ih, Nat.add_comm]
    · simp [holds, ih]

end Playbook
