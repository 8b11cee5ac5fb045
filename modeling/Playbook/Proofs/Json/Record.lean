import Playbook.Json.Record
import Playbook.Proofs.Json.Order

/-!
Records written as objects and read back. A reader finds the fields of an object by their keys, so
it sees no difference when the object is made a table; a field that was left out takes its default.
-/
namespace Playbook

namespace Json

/-- A change of values that reading records does not notice: scalars stay, a list keeps its items,
and an object without repeated keys keeps what stands under each of them. -/
structure Transparent (f : Value → Value) : Prop where
  null : f .null = .null
  bool (b : Bool) : f (.bool b) = .bool b
  number (n : Number) : f (.number n) = .number n
  text (s : String) : f (.text s) = .text s
  list (items : List Value) : f (.list items) = .list (items.map f)
  object {entries : List (String × Value)} (distinct : (Keyed.keys entries).Nodup) :
    ∃ entries', f (.object entries) = .object entries' ∧
      ∀ key, Keyed.get? key entries' = (Keyed.get? key entries).map f

theorem transparent_id : Transparent id where
  null := rfl
  bool _ := rfl
  number _ := rfl
  text _ := rfl
  list items := by simp
  object _ := ⟨_, rfl, by simp⟩

theorem transparent_ordered : Transparent Value.ordered where
  null := by simp [Value.ordered]
  bool _ := by simp [Value.ordered]
  number _ := by simp [Value.ordered]
  text _ := by simp [Value.ordered]
  list items := by rw [Value.ordered, Value.orderedItems_eq_map]
  object {entries} distinct := by
    have distinct' : (Keyed.keys (Keyed.mapValues Value.ordered entries)).Nodup := by
      simpa [Keyed.keys, Keyed.mapValues, Function.comp_def] using distinct
    refine ⟨_, by rw [Value.ordered, Value.orderedEntries_eq_mapValues, Value.table], fun key => ?_⟩
    rw [Keyed.get?_ofList distinct', Keyed.get?_mapValues]

section
variable {f : Value → Value}

theorem Transparent.ofNat (hf : Transparent f) (n : Nat) : f (.ofNat n) = .ofNat n :=
  hf.number (.int n)

theorem Transparent.ofNat? (hf : Transparent f) (n : Option Nat) : f (.ofNat? n) = .ofNat? n := by
  cases n with
  | none => exact hf.null
  | some n => exact hf.ofNat n

theorem Transparent.texts (hf : Transparent f) (items : List String) :
    f (.texts items) = .texts items := by
  rw [Value.texts, hf.list, List.map_map]
  exact congrArg Value.list (List.map_congr_left fun s _ => hf.text s)

/-- The fields of a record that is written as an object. -/
theorem Transparent.record? (hf : Transparent f) {names : List String} {v : Value}
    {entries : List (String × Value)} (encoded : v = .object entries)
    (written : (Keyed.keys entries).Sublist names) (distinct : names.Nodup) :
    ∃ r, (f v).record? names = some r ∧ ∀ name, r name = (Keyed.get? name entries).map f := by
  obtain ⟨entries', eq, found⟩ := hf.object (distinct.sublist written)
  exact ⟨_, by rw [encoded, eq, Value.record?], found⟩

end

namespace Record

variable {α : Type} {r : Record} {name : String} {default x : α} {v : Value}
  {decode? : Value → Option α}

theorem read_of_missing (missing : r name = none) : r.read name default decode? = some default := by
  rw [read, missing]

theorem read_of_there (there : r name = some v) : r.read name default decode? = decode? v := by
  rw [read, there]

/-- What is read has the properties of the default and of what is decoded. -/
theorem read_satisfies (P : α → Prop) (h : r.read name default decode? = some x) (missing : P default)
    (there : ∀ v, r name = some v → decode? v = some x → P x) : P x := by
  unfold read at h
  split at h
  · cases h
    exact missing
  · rename_i v found
    exact there v found h

end Record

namespace Value

variable {α : Type}

theorem natUpTo?_ofNat {limit n : Nat} (fits : n ≤ limit) : natUpTo? limit (.ofNat n) = some n :=
  if_pos fits

theorem le_of_natUpTo? {limit n : Nat} {v : Value} (h : natUpTo? limit v = some n) : n ≤ limit := by
  unfold natUpTo? at h
  split at h
  · rw [Option.ite_none_right_eq_some] at h
    obtain ⟨fits, same⟩ := h
    cases same
    exact fits
  · cases h

theorem nullable?_of_ne_null {decode? : Value → Option α} {v : Value} {x : α}
    (h : decode? v = some x) (there : v ≠ .null) : nullable? decode? v = some (some x) := by
  unfold nullable?
  split
  · exact absurd rfl there
  · rw [h]
    rfl

theorem nullable?_ofNat? {limit : Nat} {n : Option Nat} (fits : ∀ m ∈ n, m ≤ limit) :
    nullable? (natUpTo? limit) (.ofNat? n) = some n := by
  cases n with
  | none => rfl
  | some n => exact nullable?_of_ne_null (natUpTo?_ofNat (fits n rfl)) (by simp [ofNat?, ofNat, int])

theorem forall_of_nullable? {P : α → Prop} {decode? : Value → Option α} {v : Value} {o : Option α}
    (h : nullable? decode? v = some o) (each : ∀ x, decode? v = some x → P x) : ∀ x ∈ o, P x := by
  unfold nullable? at h
  split at h
  · cases h
    simp
  · obtain ⟨x, decoded, rfl⟩ := Option.map_eq_some_iff.1 h
    simpa using each x decoded

theorem listOf?_map {decode? : Value → Option α} {encode : α → Value} {items : List α}
    (h : ∀ x ∈ items, decode? (encode x) = some x) :
    listOf? decode? (.list (items.map encode)) = some items := by
  rw [listOf?, List.mapM_map]
  induction items with
  | nil => rfl
  | cons x xs ih =>
    obtain ⟨first, rest⟩ := List.forall_mem_cons.1 h
    rw [List.mapM_cons, ih rest]
    simp [first]

theorem forall_of_listOf? {P : α → Prop} {decode? : Value → Option α} {v : Value} {xs : List α}
    (h : listOf? decode? v = some xs)
    (each : ∀ items, v = .list items → ∀ w ∈ items, ∀ x, decode? w = some x → P x) :
    ∀ x ∈ xs, P x := by
  unfold listOf? at h
  split at h
  · rename_i items
    replace each := each items rfl
    induction items generalizing xs with
    | nil =>
      cases h
      simp
    | cons w ws ih =>
      simp only [List.mapM_cons, Option.bind_eq_bind, Option.bind_eq_some_iff] at h
      obtain ⟨x, first, xs, rest, same⟩ := h
      cases same
      obtain ⟨here, later⟩ := List.forall_mem_cons.1 each
      exact List.forall_mem_cons.2 ⟨here x first, ih rest later⟩
  · cases h

end Value
namespace Record

variable {r : Record} {name : String} {limit : Nat}

/-- A field that is left out when there is nothing in it. -/
theorem read_optional {α : Type} {f : Value → Value} {decode? : Value → Option α} {o : Option α}
    {encode : α → Value} (there : r name = (o.map encode).map f)
    (back : ∀ x ∈ o, decode? (f (encode x)) = some x) (null : decode? .null = none) :
    r.read name none (Value.nullable? decode?) = some o := by
  cases o with
  | none => exact read_of_missing there
  | some x =>
    rw [read_of_there there, Value.nullable?_of_ne_null (back x rfl)]
    intro same
    have read := back x rfl
    rw [same, null] at read
    cases read

theorem read_le {default n : Nat} (h : r.read name default (Value.natUpTo? limit) = some n)
    (missing : default ≤ limit) : n ≤ limit :=
  read_satisfies (· ≤ limit) h missing fun _ _ => Value.le_of_natUpTo?

theorem forall_read_le {o : Option Nat}
    (h : r.read name none (Value.nullable? (Value.natUpTo? limit)) = some o) : ∀ n ∈ o, n ≤ limit :=
  read_satisfies (fun o => ∀ n ∈ o, n ≤ limit) h (by simp) fun _ _ read =>
    Value.forall_of_nullable? read fun _ => Value.le_of_natUpTo?

end Record
end Json
end Playbook
