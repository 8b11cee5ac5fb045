import Playbook.Json.Reader
import Playbook.Proofs.Keyed
import Playbook.Yaml.Value

/-!
Values whose objects are tables. Every value has a form in which they are, with the entries of each
object in ascending order; what is read from a text has that form already.
-/
namespace Playbook

namespace Json

namespace Value

mutual

/-- The value with the entries of each object in ascending order. -/
def ordered : Value → Value
  | .list items => .list (orderedItems items)
  | .object entries => .table (orderedEntries entries)
  | v => v

def orderedItems : List Value → List Value
  | [] => []
  | v :: vs => v.ordered :: orderedItems vs

def orderedEntries : List (String × Value) → List (String × Value)
  | [] => []
  | (k, v) :: vs => (k, v.ordered) :: orderedEntries vs

end

theorem orderedItems_eq_map (items : List Value) : orderedItems items = items.map ordered := by
  induction items with
  | nil => rfl
  | cons v vs ih => rw [orderedItems, ih, List.map_cons]

theorem orderedEntries_eq_mapValues (entries : List (String × Value)) :
    orderedEntries entries = Keyed.mapValues ordered entries := by
  induction entries with
  | nil => rfl
  | cons e es ih =>
    obtain ⟨k, v⟩ := e
    rw [orderedEntries, ih]
    rfl

/-- Each object in the value is a table. -/
inductive InOrder : Value → Prop
  | null : InOrder .null
  | bool (b : Bool) : InOrder (.bool b)
  | number (n : Number) : InOrder (.number n)
  | text (s : String) : InOrder (.text s)
  | list {items : List Value} : (∀ v ∈ items, InOrder v) → InOrder (.list items)
  | object {entries : List (String × Value)} : Keyed.Ascending entries →
      (∀ e ∈ entries, InOrder e.2) → InOrder (.object entries)

theorem InOrder.table {entries : List (String × Value)} (h : ∀ e ∈ entries, InOrder e.2) :
    InOrder (.table entries) :=
  .object Keyed.ascending_ofList fun e mem => h e (Keyed.mem_of_mem_ofList mem)

theorem InOrder.ordered_eq {v : Value} (h : v.InOrder) : v.ordered = v := by
  induction h with
  | null | bool | number | text => simp [ordered]
  | list _ ih =>
    rw [ordered, orderedItems_eq_map, List.map_congr_left ih, List.map_id']
  | object ascending _ ih =>
    have same : Keyed.mapValues ordered _ = _ :=
      (List.map_congr_left fun e mem => by rw [ih e mem]).trans (List.map_id' _)
    rw [ordered, orderedEntries_eq_mapValues, same, Value.table, Keyed.ofList_eq_self ascending]

end Value

/-! ### What is read -/

mutual

theorem inOrder_of_readValue? {room : Nat} {cs rest : List Char} {v : Value} :
    (fuel : Nat) → readValue? room fuel cs = some (v, rest) → v.InOrder
  | 0, read => by simp [readValue?] at read
  | fuel + 1, read => by
    rw [readValue?] at read
    split at read
    · cases read
      exact .null
    · cases read
      exact .bool true
    · cases read
      exact .bool false
    · obtain ⟨⟨s, _⟩, -, eq⟩ := Option.map_eq_some_iff.1 read
      cases eq
      exact .text s
    · rw [Option.ite_none_left_eq_some] at read
      obtain ⟨-, read⟩ := read
      split at read
      · cases read
        exact .list (by simp)
      · exact inOrder_of_readItems? fuel read (by simp)
    · split at read
      · rw [Option.ite_none_left_eq_some] at read
        obtain ⟨-, read⟩ := read
        split at read
        · split at read
          · cases read
            exact .object .nil (by simp)
          · exact inOrder_of_readEntries? fuel read .nil (by simp)
        · cases read
      · obtain ⟨⟨n, _⟩, -, eq⟩ := Option.map_eq_some_iff.1 read
        cases eq
        exact .number n
    · cases read

theorem inOrder_of_readItems? {room : Nat} {cs rest : List Char} {acc : List Value} {v : Value} :
    (fuel : Nat) → readItems? room fuel cs acc = some (v, rest) →
      (∀ w ∈ acc, w.InOrder) → v.InOrder
  | 0, read, _ => by simp [readItems?] at read
  | fuel + 1, read, before => by
    rw [readItems?] at read
    cases first : readValue? room fuel cs with
    | none => simp [first] at read
    | some found =>
      obtain ⟨w, rest'⟩ := found
      have grown : ∀ u ∈ w :: acc, u.InOrder :=
        List.forall_mem_cons.2 ⟨inOrder_of_readValue? fuel first, before⟩
      simp only [first] at read
      split at read
      · exact inOrder_of_readItems? fuel read grown
      · cases read
        exact .list fun u mem => grown u (List.mem_reverse.1 mem)
      · cases read

theorem inOrder_of_readEntries? {room : Nat} {cs rest : List Char} {acc : List (String × Value)}
    {v : Value} :
    (fuel : Nat) → readEntries? room fuel cs acc = some (v, rest) →
      Keyed.Ascending acc → (∀ e ∈ acc, e.2.InOrder) → v.InOrder
  | 0, read, _, _ => by simp [readEntries?] at read
  | fuel + 1, read, ascending, before => by
    rw [readEntries?] at read
    split at read
    · split at read
      · cases read
      · rename_i key _ _
        split at read
        · rename_i afterColon _
          cases first : readValue? room fuel afterColon with
          | none => simp [first] at read
          | some found =>
            obtain ⟨w, rest'⟩ := found
            have inside := inOrder_of_readValue? fuel first
            have grown : ∀ e ∈ Keyed.put key w acc, e.2.InOrder := fun e mem => by
              rcases Keyed.mem_put mem with rfl | mem
              · exact inside
              · exact before e mem
            simp only [first] at read
            split at read
            · exact inOrder_of_readEntries? fuel read ascending.put grown
            · split at read
              · cases read
                exact .object ascending.put grown
              · cases read
            · cases read
        · cases read
    · cases read

end

theorem inOrder_of_parse? {text : String} {v : Value} (h : parse? text = some v) : v.InOrder := by
  simp only [parse?] at h
  split at h
  · rename_i read
    rw [Option.ite_none_right_eq_some] at h
    obtain ⟨-, h⟩ := h
    cases h
    exact inOrder_of_readValue? _ read
  · cases h

end Json

namespace Yaml.Value

mutual

theorem inOrder_of_toJson? {w : Json.Value} : (v : Value) → v.toJson? = some w → w.InOrder
  | .null, written => by
    cases written
    exact .null
  | .bool b, written => by
    cases written
    exact .bool b
  | .int n, written => by
    cases written
    exact .number _
  | .float x, written => by
    rw [toJson?] at written
    cases written
    split
    · exact .number _
    · exact .null
  | .text s, written => by
    cases written
    exact .text s
  | .list items, written => by
    rw [toJson?] at written
    obtain ⟨ws, inside, rfl⟩ := Option.map_eq_some_iff.1 written
    exact .list (inOrder_of_itemsToJson? items inside)
  | .table entries, written => by
    rw [toJson?] at written
    obtain ⟨ws, inside, rfl⟩ := Option.map_eq_some_iff.1 written
    exact .table (inOrder_of_entriesToJson? entries inside)
  | .tagged tag v, written => by
    rw [toJson?] at written
    obtain ⟨w, inside, rfl⟩ := Option.map_eq_some_iff.1 written
    refine .object (List.pairwise_singleton ..) (List.forall_mem_singleton.2 ?_)
    exact inOrder_of_toJson? v inside

theorem inOrder_of_itemsToJson? {ws : List Json.Value} :
    (vs : List Value) → itemsToJson? vs = some ws → ∀ w ∈ ws, w.InOrder
  | [], written => by
    cases written
    simp
  | v :: vs, written => by
    simp only [itemsToJson?, Option.bind_eq_bind, Option.bind_eq_some_iff] at written
    obtain ⟨w, first, ws, rest, same⟩ := written
    cases same
    exact List.forall_mem_cons.2 ⟨inOrder_of_toJson? v first, inOrder_of_itemsToJson? vs rest⟩

theorem inOrder_of_entriesToJson? {ws : List (String × Json.Value)} :
    (vs : List (Value × Value)) → entriesToJson? vs = some ws → ∀ e ∈ ws, e.2.InOrder
  | [], written => by
    cases written
    simp
  | (k, v) :: vs, written => by
    simp only [entriesToJson?, Option.bind_eq_bind, Option.bind_eq_some_iff] at written
    obtain ⟨key, -, w, first, ws, rest, same⟩ := written
    cases same
    exact List.forall_mem_cons.2 ⟨inOrder_of_toJson? v first, inOrder_of_entriesToJson? vs rest⟩

end

end Yaml.Value
end Playbook
