import Mathlib.Data.List.Nodup
import Mathlib.Data.List.Perm.Basic
import Playbook.Proofs.Keyed
import Playbook.Retention

/-!
What stays and what goes when a bounded number of things is kept. Nothing that is unsettled goes; of
the settled things the ones that go came before the ones that stay; and either as many go as should,
or nothing settled is left. A table whose keys stand in a list stays in step with the list.
-/
namespace Playbook

namespace Retention

variable {α : Type} {settled : α → Bool} {surplus : Nat} {order : List α} {a b : α}

/-- One thing stands before another one. -/
def Older (order : List α) (a b : α) : Prop := [a, b].Sublist order

theorem Older.mono {longer : List α} (h : Older order a b) (sub : order.Sublist longer) :
    Older longer a b :=
  List.Sublist.trans h sub

/-- What stays and what goes make up the list. -/
theorem perm_drop_append_dropped (settled : α → Bool) (surplus : Nat) (order : List α) :
    (drop settled surplus order ++ dropped settled surplus order).Perm order := by
  induction order generalizing surplus with
  | nil => cases surplus <;> exact .refl _
  | cons x rest ih =>
    cases surplus with
    | zero => simp [drop, dropped]
    | succ surplus =>
      by_cases h : settled x
      · simp only [drop, dropped, h, if_true]
        exact List.perm_middle.trans ((ih surplus).cons x)
      · simp only [drop, dropped, h]
        exact (ih (surplus + 1)).cons x

theorem mem_drop (nodup : order.Nodup) :
    a ∈ drop settled surplus order ↔ a ∈ order ∧ a ∉ dropped settled surplus order := by
  have perm := perm_drop_append_dropped settled surplus order
  have apart := List.disjoint_of_nodup_append (perm.nodup_iff.2 nodup)
  rw [← perm.mem_iff, List.mem_append]
  constructor
  · intro stays
    exact ⟨.inl stays, fun goes => apart stays goes⟩
  · rintro ⟨stays | goes, kept⟩
    · exact stays
    · exact absurd goes kept

/-- What is unsettled stays. -/
theorem mem_drop_of_unsettled (h : a ∈ order) (unsettled : settled a = false) :
    a ∈ drop settled surplus order := by
  have mem := (perm_drop_append_dropped settled surplus order).mem_iff.2 h
  rcases List.mem_append.1 mem with stays | goes
  · exact stays
  · rw [settled_of_mem_dropped goes] at unsettled
    cases unsettled

/-- What goes came before every settled thing that stays. -/
theorem older_of_mem_dropped (goes : a ∈ dropped settled surplus order)
    (stays : b ∈ drop settled surplus order) (hb : settled b = true) : Older order a b := by
  induction order generalizing surplus with
  | nil => cases surplus <;> cases goes
  | cons x rest ih =>
    cases surplus with
    | zero => cases goes
    | succ surplus =>
      by_cases h : settled x
      · simp only [drop, dropped, h, if_true, List.mem_cons] at goes stays
        rcases goes with rfl | goes
        · have later := (drop_sublist settled surplus rest).subset stays
          exact (List.singleton_sublist.2 later).cons_cons a
        · exact (ih goes stays).cons x
      · simp only [drop, dropped, h, Bool.false_eq_true, if_false, List.mem_cons] at goes stays
        rcases stays with rfl | stays
        · exact absurd hb h
        · exact (ih goes stays).cons x

theorem length_dropped_le (settled : α → Bool) (surplus : Nat) (order : List α) :
    (dropped settled surplus order).length ≤ surplus := by
  induction order generalizing surplus with
  | nil => cases surplus <;> simp [dropped]
  | cons x rest ih =>
    cases surplus with
    | zero => simp [dropped]
    | succ surplus =>
      by_cases h : settled x
      · simp [dropped, h, ih surplus]
      · simp [dropped, h, ih (surplus + 1)]

/-- As many go as should, or nothing settled is left. -/
theorem length_dropped_or (settled : α → Bool) (surplus : Nat) (order : List α) :
    (dropped settled surplus order).length = surplus ∨
      ∀ a ∈ drop settled surplus order, settled a = false := by
  induction order generalizing surplus with
  | nil => cases surplus <;> simp [drop, dropped]
  | cons x rest ih =>
    cases surplus with
    | zero => simp [dropped]
    | succ surplus =>
      by_cases h : settled x
      · simpa [drop, dropped, h] using ih surplus
      · simpa [drop, dropped, h] using ih (surplus + 1)

/-- What stays is no more than should, unless all of it is unsettled. -/
theorem length_drop_le (settled : α → Bool) (surplus : Nat) (order : List α) :
    (drop settled surplus order).length ≤
      max (order.length - surplus)
        ((drop settled surplus order).filter fun a => !settled a).length := by
  rcases length_dropped_or settled surplus order with all | unsettled
  · have whole := length_drop_add_length_dropped settled surplus order
    omega
  · have same : (drop settled surplus order).filter (fun a => !settled a) =
        drop settled surplus order :=
      List.filter_eq_self.2 fun a mem => by simp [unsettled a mem]
    rw [same]
    exact le_max_right ..

/-- What stays is no less than should. -/
theorem le_length_drop (settled : α → Bool) (surplus : Nat) (order : List α) :
    order.length - surplus ≤ (drop settled surplus order).length := by
  have whole := length_drop_add_length_dropped settled surplus order
  have few := length_dropped_le settled surplus order
  omega

end Retention

namespace Keyed

variable {κ α : Type} [LinearOrder κ] {key : κ} {order : List κ} {entries : List (κ × α)}

theorem Ascending.nodup_keys (h : Ascending entries) : (keys entries).Nodup :=
  List.pairwise_map.2 (h.imp fun less => less.ne)

/-- The list names each key of the table once. -/
structure Lists (order : List κ) (entries : List (κ × α)) : Prop where
  ascending : Ascending entries
  nodup : order.Nodup
  mem : ∀ key, key ∈ order ↔ contains key entries = true

namespace Lists

theorem nil : Lists ([] : List κ) ([] : List (κ × α)) :=
  ⟨.nil, List.nodup_nil, fun key => by simp [contains]⟩

theorem perm (h : Lists order entries) : order.Perm (keys entries) :=
  (List.perm_ext_iff_of_nodup h.nodup h.ascending.nodup_keys).2 fun key => by
    rw [h.mem, mem_keys_iff]

theorem length (h : Lists order entries) : order.length = entries.length := by
  rw [h.perm.length_eq, keys, List.length_map]

theorem exists_get? (h : Lists order entries) (listed : key ∈ order) :
    ∃ value, get? key entries = some value :=
  Option.isSome_iff_exists.1 ((h.mem key).1 listed)

theorem mem_of_get? {value : α} (h : Lists order entries) (found : get? key entries = some value) :
    key ∈ order :=
  (h.mem key).2 (by simp [contains, found])

/-- A new key comes last. -/
theorem put_new (h : Lists order entries) (new : key ∉ order) (value : α) :
    Lists (order ++ [key]) (put key value entries) where
  ascending := h.ascending.put
  nodup := by
    rw [← List.concat_eq_append]
    exact h.nodup.concat new
  mem other := by
    rw [contains_put, List.mem_append, List.mem_singleton, h.mem, or_comm]

/-- The value of a key may change. -/
theorem put_known (h : Lists order entries) (known : key ∈ order) (value : α) :
    Lists order (put key value entries) where
  ascending := h.ascending.put
  nodup := h.nodup
  mem other := by
    rw [contains_put, h.mem]
    constructor
    · exact .inr
    · rintro (rfl | there)
      · exact (h.mem other).1 known
      · exact there

/-- What goes from the list goes from the table. -/
theorem drop (h : Lists order entries) (settled : κ → Bool) (surplus : Nat) :
    Lists (Retention.drop settled surplus order)
      (entries.filter fun e => !(Retention.dropped settled surplus order).contains e.1) where
  ascending := h.ascending.filter _
  nodup := (Retention.drop_sublist settled surplus order).nodup h.nodup
  mem key := by
    rw [Retention.mem_drop h.nodup, h.mem, contains, contains,
      get?_filter fun key => !(Retention.dropped settled surplus order).contains key]
    by_cases goes : key ∈ Retention.dropped settled surplus order
    · simp [goes]
    · simp [goes]

end Lists
end Keyed
end Playbook
