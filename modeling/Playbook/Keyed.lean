/-!
Tables kept as entries in ascending order of key with each key once. Most are keyed by text, which
is compared by code points; that is the order of the encoded bytes too. `get?` is the view through
which `put` and `erase` are described.
-/
namespace Playbook

/-- Entries of a table that is keyed by text; `put` and `ofList` build only ascending ones. -/
abbrev Keyed (α : Type) := List (String × α)

namespace Keyed

variable {κ α β : Type} [DecidableEq κ] [LT κ] [DecidableLT κ]

def get? (key : κ) : List (κ × α) → Option α
  | [] => none
  | (k, v) :: rest => if k = key then some v else get? key rest

def contains (key : κ) (entries : List (κ × α)) : Bool := (get? key entries).isSome

/-- Sets the value of a key, in the place that the order of keys gives it. -/
def put (key : κ) (value : α) : List (κ × α) → List (κ × α)
  | [] => [(key, value)]
  | (k, v) :: rest =>
    if k = key then (key, value) :: rest
    else if key < k then (key, value) :: (k, v) :: rest
    else (k, v) :: put key value rest

def erase (key : κ) (entries : List (κ × α)) : List (κ × α) :=
  entries.filter (fun e => e.1 ≠ key)

/-- Later entries win over earlier ones of the same key. -/
def ofList (entries : List (κ × α)) : List (κ × α) :=
  entries.foldl (fun table e => put e.1 e.2 table) []

def keys (entries : List (κ × α)) : List κ := entries.map Prod.fst

def values (entries : List (κ × α)) : List α := entries.map Prod.snd

def mapValues (f : α → β) (entries : List (κ × α)) : List (κ × β) :=
  entries.map (fun e => (e.1, f e.2))

omit [LT κ] [DecidableLT κ] in
@[simp] theorem get?_nil (key : κ) : get? key ([] : List (κ × α)) = none := rfl

@[simp] theorem get?_put_self (key : κ) (value : α) (entries : List (κ × α)) :
    get? key (put key value entries) = some value := by
  induction entries with
  | nil => simp [put, get?]
  | cons e rest ih =>
    obtain ⟨k, v⟩ := e
    by_cases hk : k = key
    · simp [put, get?, hk]
    · by_cases hl : key < k
      · simp [put, get?, hk, hl]
      · simp [put, get?, hk, hl, ih]

theorem get?_put_of_ne {key other : κ} (h : other ≠ key) (value : α)
    (entries : List (κ × α)) :
    get? other (put key value entries) = get? other entries := by
  induction entries with
  | nil => simp [put, get?, Ne.symm h]
  | cons e rest ih =>
    obtain ⟨k, v⟩ := e
    by_cases hk : k = key
    · subst hk; simp [put, get?, Ne.symm h]
    · by_cases hl : key < k
      · simp [put, get?, hk, hl, Ne.symm h]
      · by_cases ho : k = other
        · subst ho; simp [put, get?, h, hl]
        · simp [put, get?, hk, hl, ho, ih]

omit [LT κ] [DecidableLT κ] in
theorem get?_append (key : κ) (entries more : List (κ × α)) :
    get? key (entries ++ more) = (get? key entries).or (get? key more) := by
  induction entries with
  | nil => simp
  | cons first rest ih =>
    obtain ⟨k, v⟩ := first
    by_cases same : k = key
    · simp [get?, same]
    · simpa [get?, same] using ih

omit [LT κ] [DecidableLT κ] in
theorem get?_mapValues (f : α → β) (key : κ) (entries : List (κ × α)) :
    get? key (mapValues f entries) = (get? key entries).map f := by
  induction entries with
  | nil => rfl
  | cons first rest ih =>
    obtain ⟨k, v⟩ := first
    by_cases same : k = key
    · simp [mapValues, get?, same]
    · simpa [mapValues, get?, same] using ih

omit [LT κ] [DecidableLT κ] in
theorem get?_filter (keep : κ → Bool) (key : κ)
    (entries : List (κ × α)) :
    get? key (entries.filter fun e => keep e.1) = if keep key then get? key entries else none := by
  induction entries with
  | nil => simp
  | cons e rest ih =>
    obtain ⟨k, v⟩ := e
    by_cases hk : k = key
    · subst hk
      by_cases kept : keep k = true
      · simp [kept, get?]
      · simp [kept, ih]
    · by_cases kept : keep k = true
      · simp [kept, get?, hk, ih]
      · simp [kept, get?, hk, ih]

end Keyed
end Playbook
