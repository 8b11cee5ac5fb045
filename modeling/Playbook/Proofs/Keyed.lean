import Mathlib.Data.List.Induction
import Mathlib.Data.String.Basic
import Mathlib.Order.Basic
import Playbook.Keyed

/-!
Tables as lists of entries: what is in them, and under which keys.
-/
namespace Playbook

namespace Keyed

variable {κ α : Type} [LinearOrder κ] {key : κ} {value : α} {entries : List (κ × α)}

/-- Each key stands once, and the keys ascend. -/
def Ascending (entries : List (κ × α)) : Prop := entries.Pairwise fun a b => a.1 < b.1

theorem Ascending.nil : Ascending ([] : List (κ × α)) := List.Pairwise.nil

theorem mem_put {e : κ × α} (h : e ∈ put key value entries) :
    e = (key, value) ∨ e ∈ entries := by
  induction entries with
  | nil => exact .inl (List.mem_singleton.1 h)
  | cons first rest ih =>
    obtain ⟨k, v⟩ := first
    unfold put at h
    split at h
    · exact (List.mem_cons.1 h).imp_right (List.mem_cons_of_mem _)
    · split at h
      · exact List.mem_cons.1 h
      · rcases List.mem_cons.1 h with rfl | h
        · exact .inr (by simp)
        · exact (ih h).imp_right (List.mem_cons_of_mem _)

theorem Ascending.put (h : Ascending entries) : Ascending (Keyed.put key value entries) := by
  induction entries with
  | nil => exact List.pairwise_singleton ..
  | cons first rest ih =>
    obtain ⟨k, v⟩ := first
    obtain ⟨least, ascending⟩ := List.pairwise_cons.1 h
    unfold Keyed.put
    split
    · next same => exact List.pairwise_cons.2 ⟨same ▸ least, ascending⟩
    · next other =>
      split
      · next less =>
        refine List.pairwise_cons.2 ⟨fun e he => ?_, h⟩
        rcases List.mem_cons.1 he with rfl | he
        · exact less
        · exact less.trans (least e he)
      · next above =>
        refine List.pairwise_cons.2 ⟨fun e he => ?_, ih ascending⟩
        rcases mem_put he with rfl | he
        · exact lt_of_le_of_ne (not_lt.1 above) other
        · exact least e he

theorem put_ne_nil (key : κ) (value : α) (entries : List (κ × α)) : put key value entries ≠ [] := by
  intro empty
  simpa [empty] using get?_put_self key value entries

/-- Of two values of one key the later one stays. -/
theorem put_put (key : κ) (value other : α) (entries : List (κ × α)) :
    put key value (put key other entries) = put key value entries := by
  induction entries with
  | nil => simp [put]
  | cons first rest ih =>
    obtain ⟨k, v⟩ := first
    by_cases same : k = key
    · simp [put, same]
    · by_cases less : key < k
      · simp [put, same, less]
      · simp [put, same, less, ih]

theorem mem_iff_get? (h : Ascending entries) :
    (key, value) ∈ entries ↔ get? key entries = some value := by
  induction entries with
  | nil => simp
  | cons first rest ih =>
    obtain ⟨k, v⟩ := first
    obtain ⟨least, ascending⟩ := List.pairwise_cons.1 h
    rw [List.mem_cons, ih ascending, get?]
    by_cases same : k = key
    · subst same
      have absent : get? k rest ≠ some value := fun found =>
        lt_irrefl k (least _ ((ih ascending).2 found))
      simp [absent, eq_comm]
    · simp [same, Ne.symm same]

theorem mem_of_get? (h : get? key entries = some value) : (key, value) ∈ entries := by
  induction entries with
  | nil => cases h
  | cons first rest ih =>
    obtain ⟨k, v⟩ := first
    by_cases same : k = key
    · simp_all [get?]
    · exact List.mem_cons_of_mem _ (ih (by simpa [get?, same] using h))

/-- Of the values with a property, the search from the end finds the one with the greatest key. -/
theorem find?_reverse_values (h : Ascending entries) (f : α → Bool) :
    (values entries).reverse.find? f = some value ↔
      ∃ key, (key, value) ∈ entries ∧ f value = true ∧
        ∀ k v, (k, v) ∈ entries → f v = true → k ≤ key := by
  induction entries using List.reverseRecOn with
  | nil => simp [values]
  | append_singleton init last ih =>
    obtain ⟨k, v⟩ := last
    obtain ⟨ascending, -, below⟩ := List.pairwise_append.1 h
    have search : (values (init ++ [(k, v)])).reverse.find? f =
        if f v then some v else (values init).reverse.find? f := by
      simp only [values, List.map_append, List.map_cons, List.map_nil, List.reverse_append,
        List.reverse_singleton, List.singleton_append, List.find?_cons]
      cases f v <;> rfl
    rw [search]
    by_cases fits : f v = true
    · rw [if_pos fits, Option.some.injEq]
      constructor
      · rintro rfl
        refine ⟨k, by simp, fits, fun k' v' mem _ => ?_⟩
        rcases List.mem_append.1 mem with mem | mem
        · exact (below _ mem _ (List.mem_singleton_self _)).le
        · cases List.mem_singleton.1 mem
          exact le_rfl
      · rintro ⟨key, mem, -, greatest⟩
        rcases List.mem_append.1 mem with mem | mem
        · have less := below _ mem _ (List.mem_singleton_self _)
          exact absurd (greatest k v (by simp) fits) (not_le.2 less)
        · cases List.mem_singleton.1 mem
          rfl
    · rw [if_neg fits, ih ascending]
      have same : ∀ k' v', f v' = true → ((k', v') ∈ init ++ [(k, v)] ↔ (k', v') ∈ init) := by
        intro k' v' fit
        have other : v' ≠ v := fun same => fits (same ▸ fit)
        simp [other]
      constructor
      · rintro ⟨key, mem, fit, greatest⟩
        exact ⟨key, (same key value fit).2 mem, fit, fun k' v' mem fit' =>
          greatest k' v' ((same k' v' fit').1 mem) fit'⟩
      · rintro ⟨key, mem, fit, greatest⟩
        exact ⟨key, (same key value fit).1 mem, fit, fun k' v' mem fit' =>
          greatest k' v' ((same k' v' fit').2 mem) fit'⟩

theorem mem_keys_iff : key ∈ keys entries ↔ contains key entries = true := by
  induction entries with
  | nil => simp [keys, contains]
  | cons first rest ih =>
    obtain ⟨k, v⟩ := first
    by_cases same : k = key
    · simp [keys, contains, get?, same]
    · simpa [keys, contains, get?, same, Ne.symm same] using ih

theorem get?_eq_none (missing : key ∉ keys entries) : get? key entries = none := by
  simpa [mem_keys_iff, contains] using missing

theorem contains_put {other : κ} :
    contains other (put key value entries) = true ↔ other = key ∨ contains other entries = true := by
  by_cases same : other = key
  · subst same
    simp [contains]
  · simp [contains, get?_put_of_ne same, same]

/-- A table has the keys that its entries were given. -/
theorem mem_keys_ofList : key ∈ keys (ofList entries) ↔ key ∈ keys entries := by
  have added : ∀ table : List (κ × α),
      contains key (entries.foldl (fun table e => put e.1 e.2 table) table) = true ↔
        key ∈ keys entries ∨ contains key table = true := by
    induction entries with
    | nil => simp [keys]
    | cons first rest ih =>
      intro table
      rw [List.foldl_cons, ih, contains_put]
      simp [keys, or_left_comm, or_assoc]
  rw [mem_keys_iff, ofList, added]
  simp [contains]

/-- Nothing is in a table that was not given to it. -/
theorem mem_of_mem_ofList {e : κ × α} (h : e ∈ ofList entries) : e ∈ entries := by
  have kept : ∀ table : List (κ × α),
      e ∈ entries.foldl (fun table e => put e.1 e.2 table) table → e ∈ entries ∨ e ∈ table := by
    clear h
    induction entries with
    | nil => exact fun _ => .inr
    | cons first rest ih =>
      intro table mem
      rcases ih _ mem with mem | mem
      · exact .inl (List.mem_cons_of_mem first mem)
      · rcases mem_put mem with rfl | mem
        · exact .inl (List.mem_cons_self ..)
        · exact .inr mem
  exact (kept [] h).resolve_right List.not_mem_nil

theorem put_of_greatest (h : ∀ e ∈ entries, e.1 < key) :
    put key value entries = entries ++ [(key, value)] := by
  induction entries with
  | nil => rfl
  | cons first rest ih =>
    obtain ⟨k, v⟩ := first
    have above : k < key := h (k, v) (by simp)
    rw [put, if_neg above.ne, if_neg above.not_gt, ih fun e mem => h e (by simp [mem])]
    rfl

theorem ascending_ofList : Ascending (ofList entries) := by
  have kept : ∀ table : List (κ × α), Ascending table →
      Ascending (entries.foldl (fun table e => put e.1 e.2 table) table) := by
    induction entries with
    | nil => exact fun _ => id
    | cons first rest ih => exact fun table h => ih _ h.put
  exact kept [] .nil

theorem ofList_eq_self (h : Ascending entries) : ofList entries = entries := by
  have added : ∀ table : List (κ × α), Ascending (table ++ entries) →
      entries.foldl (fun table e => put e.1 e.2 table) table = table ++ entries := by
    clear h
    induction entries with
    | nil => simp
    | cons first rest ih =>
      intro table h
      have below : ∀ e ∈ table, e.1 < first.1 := fun e mem =>
        (List.pairwise_append.1 h).2.2 e mem first (by simp)
      rw [List.foldl_cons, put_of_greatest below, ih _ (by simpa using h)]
      simp
  exact added [] h

/-- Among entries with different keys none is lost in a table. -/
theorem get?_ofList (distinct : (keys entries).Nodup) :
    get? key (ofList entries) = get? key entries := by
  have added : ∀ table : List (κ × α),
      get? key (entries.foldl (fun table e => put e.1 e.2 table) table) =
        (get? key entries).or (get? key table) := by
    induction entries with
    | nil => simp
    | cons first rest ih =>
      obtain ⟨k, v⟩ := first
      obtain ⟨fresh, distinct⟩ := List.nodup_cons.1 distinct
      intro table
      rw [List.foldl_cons, ih distinct]
      by_cases same : k = key
      · subst same
        have absent : get? k rest = none := by
          simpa [contains] using mt mem_keys_iff.2 fresh
        simp [get?, absent]
      · simp [get?, same, get?_put_of_ne (Ne.symm same)]
  simpa [ofList] using added []

end Keyed
end Playbook
