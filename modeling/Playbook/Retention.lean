/-!
Keeping a bounded number of things in the order in which they came. When there are too many, the
oldest ones that are settled go; what is not settled stays, however many there are.
-/
namespace Playbook.Retention

variable {α : Type}

/-- Removes up to `surplus` settled things, the oldest first. -/
def drop (settled : α → Bool) : (surplus : Nat) → List α → List α
  | 0, order => order
  | _ + 1, [] => []
  | surplus + 1, a :: rest =>
    if settled a then drop settled surplus rest else a :: drop settled (surplus + 1) rest

/-- The settled things that `drop` removes. -/
def dropped (settled : α → Bool) : (surplus : Nat) → List α → List α
  | 0, _ => []
  | _ + 1, [] => []
  | surplus + 1, a :: rest =>
    if settled a then a :: dropped settled surplus rest else dropped settled (surplus + 1) rest

/-- What stays when at most `keep` things may, unsettled ones apart. -/
def retain (settled : α → Bool) (keep : Nat) (order : List α) : List α :=
  drop settled (order.length - keep) order

def retired (settled : α → Bool) (keep : Nat) (order : List α) : List α :=
  dropped settled (order.length - keep) order

theorem drop_sublist (settled : α → Bool) (surplus : Nat) (order : List α) :
    (drop settled surplus order).Sublist order := by
  induction order generalizing surplus with
  | nil => cases surplus <;> simp [drop]
  | cons a rest ih =>
    cases surplus with
    | zero => simp [drop]
    | succ surplus =>
      by_cases h : settled a
      · simpa [drop, h] using (ih surplus).cons a
      · simpa [drop, h] using (ih (surplus + 1)).cons_cons a

theorem length_drop_add_length_dropped (settled : α → Bool) (surplus : Nat) (order : List α) :
    (drop settled surplus order).length + (dropped settled surplus order).length =
      order.length := by
  induction order generalizing surplus with
  | nil => cases surplus <;> simp [drop, dropped]
  | cons a rest ih =>
    cases surplus with
    | zero => simp [drop, dropped]
    | succ surplus =>
      by_cases h : settled a
      · have := ih surplus
        simp [drop, dropped, h]
        omega
      · have := ih (surplus + 1)
        simp [drop, dropped, h]
        omega

/-- What goes is settled. -/
theorem settled_of_mem_dropped {settled : α → Bool} {surplus : Nat} {order : List α} {a : α}
    (h : a ∈ dropped settled surplus order) : settled a = true := by
  induction order generalizing surplus with
  | nil => cases surplus <;> simp [dropped] at h
  | cons b rest ih =>
    cases surplus with
    | zero => simp [dropped] at h
    | succ surplus =>
      by_cases hb : settled b
      · simp only [dropped, hb, if_true, List.mem_cons] at h
        rcases h with rfl | h
        · exact hb
        · exact ih h
      · simp only [dropped, hb] at h
        exact ih h

end Playbook.Retention
