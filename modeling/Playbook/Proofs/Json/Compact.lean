import Playbook.Json.Printer

/-!
The compact text of a value, told by what it is put together from: the texts of the items of a list
stand between commas in brackets, the entries of an object between commas in braces, and no blank
stands anywhere outside quotes. Every value has one such text, which is the one that is printed.
-/
namespace Playbook.Json

mutual

/-- The compact text of a value. -/
inductive Compact : Value → String → Prop
  | null : Compact .null "null"
  | yes : Compact (.bool true) "true"
  | no : Compact (.bool false) "false"
  | int (n : Int) : Compact (.number (.int n)) (toString n)
  | float (x : Float) : Compact (.number (.float x)) (Decimal.Style.data.format x)
  | text (s : String) : Compact (.text s) (quote s)
  | list {vs : List Value} {ts : List String} :
      CompactItems vs ts → Compact (.list vs) ("[" ++ ",".intercalate ts ++ "]")
  | object {entries : List (String × Value)} {ts : List String} :
      CompactEntries entries ts → Compact (.object entries) ("\x7b" ++ ",".intercalate ts ++ "\x7d")

/-- The compact texts of the items of a list. -/
inductive CompactItems : List Value → List String → Prop
  | nil : CompactItems [] []
  | cons {v : Value} {t : String} {vs : List Value} {ts : List String} :
      Compact v t → CompactItems vs ts → CompactItems (v :: vs) (t :: ts)

/-- The compact texts of the entries of an object: the quoted key, a colon and the value. -/
inductive CompactEntries : List (String × Value) → List String → Prop
  | nil : CompactEntries [] []
  | cons {k : String} {v : Value} {t : String} {rest : List (String × Value)} {ts : List String} :
      Compact v t → CompactEntries rest ts →
      CompactEntries ((k, v) :: rest) ((quote k ++ ":" ++ t) :: ts)

end

theorem printItems_eq (vs : List Value) :
    printItems vs = ",".intercalate (vs.map Value.print) := by
  induction vs with
  | nil => rfl
  | cons v rest ih =>
    cases rest with
    | nil => simp [printItems]
    | cons w rest => simp only [printItems, List.map_cons, String.intercalate_cons_cons, ih]

/-- An entry as it is printed. -/
def printEntry (entry : String × Value) : String := quote entry.1 ++ ":" ++ entry.2.print

theorem printEntries_eq (entries : List (String × Value)) :
    printEntries entries = ",".intercalate (entries.map printEntry) := by
  induction entries with
  | nil => rfl
  | cons e rest ih =>
    cases rest with
    | nil => simp [printEntries, printEntry]
    | cons f rest =>
      simp only [printEntries, printEntry, List.map_cons, String.intercalate_cons_cons, ih]

mutual

theorem compact_print : (v : Value) → Compact v v.print
  | .null => .null
  | .bool true => .yes
  | .bool false => .no
  | .number (.int n) => .int n
  | .number (.float x) => .float x
  | .text s => .text s
  | .list items => by
    rw [Value.print, printItems_eq]
    exact .list (compactItems_map items)
  | .object entries => by
    rw [Value.print, printEntries_eq]
    exact .object (compactEntries_map entries)

theorem compactItems_map : (vs : List Value) → CompactItems vs (vs.map Value.print)
  | [] => .nil
  | v :: vs => .cons (compact_print v) (compactItems_map vs)

theorem compactEntries_map :
    (entries : List (String × Value)) → CompactEntries entries (entries.map printEntry)
  | [] => .nil
  | (_, v) :: rest => .cons (compact_print v) (compactEntries_map rest)

end

mutual

theorem Compact.eq_print {v : Value} {t : String} : Compact v t → t = v.print
  | .null | .yes | .no | .int _ | .float _ | .text _ => rfl
  | .list items => by rw [Value.print, printItems_eq, items.eq_map]
  | .object entries => by rw [Value.print, printEntries_eq, entries.eq_map]

theorem CompactItems.eq_map {vs : List Value} {ts : List String} :
    CompactItems vs ts → ts = vs.map Value.print
  | .nil => rfl
  | .cons first rest => by rw [List.map_cons, first.eq_print, rest.eq_map]

theorem CompactEntries.eq_map {entries : List (String × Value)} {ts : List String} :
    CompactEntries entries ts → ts = entries.map printEntry
  | .nil => rfl
  | .cons first rest => by rw [List.map_cons, first.eq_print, rest.eq_map, printEntry]

end

theorem compact_iff {v : Value} {t : String} : Compact v t ↔ t = v.print :=
  ⟨Compact.eq_print, fun same => same ▸ compact_print v⟩

end Playbook.Json
