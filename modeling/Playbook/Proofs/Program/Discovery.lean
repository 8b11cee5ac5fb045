import Mathlib.Data.List.Lex
import Mathlib.Data.String.Basic
import Playbook.Program.Folder

/-!
What the search for program files finds. A folder reaches the files right in it and those that the
folders in it reach, so a queue of folders gives what its members reach, and each file once when no
two of them share a path. Sorted by path, what is found hangs on the tree alone and not on the order
in which its folders are listed.
-/
namespace Playbook

namespace Path

variable {p q r : Path}

theorem le_iff : p.le q = true ↔ p < q ∨ p = q := by
  induction p generalizing q with
  | nil => cases q <;> simp [le]
  | cons a p ih =>
    cases q with
    | nil => simp [le]
    | cons b q =>
      rw [List.cons_lt_cons_iff, List.cons.injEq, le]
      by_cases same : a = b
      · subst same
        simp [ih]
      · rw [if_neg same, decide_eq_true_eq]
        simp [same]

theorem le_trans (first : p.le q = true) (second : q.le r = true) : p.le r = true := by
  rcases le_iff.1 first with before | rfl
  · rcases le_iff.1 second with later | rfl
    · exact le_iff.2 (.inl (lt_trans before later))
    · exact first
  · exact second

theorem le_total (p q : Path) : (p.le q || q.le p) = true := by
  rw [Bool.or_eq_true, le_iff, le_iff]
  rcases lt_trichotomy p q with before | same | after
  · exact .inl (.inl before)
  · exact .inl (.inr same)
  · exact .inr (.inl after)

theorem isSome_format? : p.format?.isSome = true ↔
    ∃ extension ∈ ["json", "yaml", "yml"], p.extension? = some extension := by
  unfold format?
  split <;> simp_all

end Path

namespace Entry

variable {entries others : List (String × Entry)} {names : Path} {text : String}
  {queue : List Waiting} {v w : Waiting} {f g : FoundFile}

/-! ### Trees -/

/-- In each folder of a tree a name stands once. -/
inductive Distinct : List (String × Entry) → Prop
  | intro {entries : List (String × Entry)} (names : (entries.map Prod.fst).Nodup)
      (inner : ∀ name listed, (name, Entry.folder listed) ∈ entries → Distinct listed) :
      Distinct entries

namespace Distinct

variable {name : String}

theorem nil : Distinct [] := .intro List.nodup_nil nofun

theorem file (fresh : name ∉ entries.map Prod.fst) (distinct : Distinct entries) :
    Distinct ((name, .file text) :: entries) := by
  obtain ⟨nodup, inner⟩ := distinct
  refine .intro (List.nodup_cons.2 ⟨fresh, nodup⟩) fun other listed mem => ?_
  exact inner other listed (by simpa using mem)

theorem folder (fresh : name ∉ entries.map Prod.fst) (distinct : Distinct entries)
    (within : Distinct others) : Distinct ((name, .folder others) :: entries) := by
  obtain ⟨nodup, inner⟩ := distinct
  refine .intro (List.nodup_cons.2 ⟨fresh, nodup⟩) fun other listed mem => ?_
  rcases List.mem_cons.1 mem with same | mem
  · cases same
    exact within
  · exact inner other listed mem

end Distinct

/-- The names on the way to a file. -/
inductive Leads : List (String × Entry) → Path → String → Prop
  | file {entries : List (String × Entry)} {name text : String}
      (mem : (name, Entry.file text) ∈ entries) : Leads entries [name] text
  | folder {entries inner : List (String × Entry)} {name text : String} {rest : Path}
      (mem : (name, Entry.folder inner) ∈ entries) (leads : Leads inner rest text) :
      Leads entries (name :: rest) text

theorem Leads.length_pos (leads : Leads entries names text) : 0 < names.length := by
  cases leads <;> simp

theorem lookup_eq_some_iff {name : String} {e : Entry} (nodup : (entries.map Prod.fst).Nodup) :
    entries.lookup name = some e ↔ (name, e) ∈ entries := by
  induction entries with
  | nil => simp
  | cons entry rest ih =>
    obtain ⟨other, held⟩ := entry
    obtain ⟨fresh, nodup⟩ := List.nodup_cons.1 nodup
    by_cases same : name = other
    · subst same
      have later : (name, e) ∉ rest := fun mem => fresh (List.mem_map.2 ⟨_, mem, rfl⟩)
      simp [later, eq_comm]
    · rw [List.lookup_cons, beq_false_of_ne same, List.mem_cons, Prod.mk.injEq]
      simpa [same] using ih nodup

/-- Where a name stands once in each folder, the names on the way to a file give that file. -/
theorem leads_iff_at? (distinct : Distinct entries) :
    Leads entries names text ↔ (Entry.folder entries).at? names = some (.file text) := by
  induction distinct generalizing names with
  | @intro entries nodup _ ih =>
    cases names with
    | nil => exact ⟨nofun, nofun⟩
    | cons name rest =>
      constructor
      · rintro (mem | ⟨mem, leads⟩)
        · simp [at?, (lookup_eq_some_iff nodup).2 mem]
        · simpa [at?, (lookup_eq_some_iff nodup).2 mem] using (ih _ _ mem).1 leads
      · intro found
        obtain ⟨e, held, found⟩ := Option.bind_eq_some_iff.1 found
        have mem := (lookup_eq_some_iff nodup).1 held
        cases e with
        | folder inner => exact .folder mem ((ih _ _ mem).2 found)
        | file own =>
          cases rest with
          | nil =>
            obtain rfl : own = text := by simpa [at?] using found
            exact .file mem
          | cons => simp [at?] at found

/-! ### What a folder reaches -/

namespace Waiting

/-- A program file that the search comes to from a folder on. -/
def Reaches (w : Waiting) (f : FoundFile) : Prop :=
  ∃ names, f.path = w.path ++ names ∧ Leads w.entries names f.text ∧
    names.length ≤ maxDepth - w.depth + 1 ∧ f.path.format?.isSome = true

theorem mem_files : f ∈ w.files ↔ ∃ name, f.path = w.path ++ [name] ∧
    (name, Entry.file f.text) ∈ w.entries ∧ f.path.format?.isSome = true := by
  unfold files
  rw [List.mem_filterMap]
  constructor
  · rintro ⟨⟨name, text | inner⟩, mem, found⟩
    · obtain ⟨format, found⟩ := Option.ite_none_right_eq_some.1 found
      cases found
      exact ⟨name, rfl, mem, format⟩
    · cases found
  · rintro ⟨name, path, mem, format⟩
    refine ⟨(name, .file f.text), mem, Option.ite_none_right_eq_some.2 ⟨path ▸ format, ?_⟩⟩
    rw [← path]

theorem mem_folders : v ∈ w.folders ↔ w.depth < maxDepth ∧ ∃ name,
    (name, Entry.folder v.entries) ∈ w.entries ∧ v = ⟨w.path ++ [name], w.depth + 1, v.entries⟩ := by
  unfold folders
  split
  next deeper =>
    rw [List.mem_filterMap]
    constructor
    · rintro ⟨⟨name, text | inner⟩, mem, found⟩
      · cases found
      · cases found
        exact ⟨deeper, name, mem, rfl⟩
    · rintro ⟨-, name, mem, same⟩
      exact ⟨(name, .folder v.entries), mem, congrArg some same.symm⟩
  next deepest => simp [deepest]

/-- A folder reaches the program files right in it and what the folders in it reach. -/
theorem reaches_iff : w.Reaches f ↔ f ∈ w.files ∨ ∃ v ∈ w.folders, v.Reaches f := by
  constructor
  · rintro ⟨names, path, leads, deep, format⟩
    cases leads with
    | file mem => exact .inl (mem_files.2 ⟨_, path, mem, format⟩)
    | @folder _ inner name _ rest mem leads =>
      have := leads.length_pos
      rw [List.length_cons] at deep
      have deeper : w.depth < maxDepth := by omega
      refine .inr ⟨⟨w.path ++ [name], w.depth + 1, inner⟩, mem_folders.2 ⟨deeper, name, mem, rfl⟩, rest,
        by simpa using path, leads, ?_, format⟩
      dsimp only
      omega
  · rintro (right | ⟨v, mem, names, path, leads, deep, format⟩)
    · obtain ⟨name, path, mem, format⟩ := mem_files.1 right
      exact ⟨[name], path, .file mem, by simp, format⟩
    · obtain ⟨deeper, name, mem, same⟩ := mem_folders.1 mem
      rw [same] at path deep
      refine ⟨name :: names, by simpa using path, .folder mem leads, ?_, format⟩
      rw [List.length_cons]
      dsimp only at deep
      omega

/-- Two folders that reach no common path. -/
def Apart (v w : Waiting) : Prop := ∀ f g, v.Reaches f → w.Reaches g → f.path ≠ g.path

theorem pairwise_files (distinct : Distinct w.entries) :
    w.files.Pairwise fun f g => f.path ≠ g.path := by
  obtain ⟨nodup, -⟩ := distinct
  refine (List.pairwise_map.1 nodup).filterMap _ ?_
  rintro ⟨name, text | inner⟩ ⟨other, text' | inner'⟩ ne f found g found' <;> try contradiction
  obtain ⟨-, found⟩ := Option.ite_none_right_eq_some.1 found
  obtain ⟨-, found'⟩ := Option.ite_none_right_eq_some.1 found'
  cases found
  cases found'
  simpa using ne

theorem pairwise_folders (distinct : Distinct w.entries) : w.folders.Pairwise Apart := by
  obtain ⟨nodup, -⟩ := distinct
  unfold folders
  split
  · refine (List.pairwise_map.1 nodup).filterMap _ ?_
    rintro ⟨name, text | inner⟩ ⟨other, text' | inner'⟩ ne u found v found' <;> try contradiction
    cases found
    cases found'
    rintro f g ⟨names, path, -⟩ ⟨names', path', -⟩ same
    rw [path, path'] at same
    simp only [List.append_assoc, List.append_cancel_left_eq, List.singleton_append,
      List.cons.injEq] at same
    exact ne same.1
  · exact .nil

/-- What lies right in a folder has another path than what the folders in it reach. -/
theorem path_ne_of_mem_files (mem : f ∈ w.files) (inside : v ∈ w.folders) (reached : v.Reaches g) :
    f.path ≠ g.path := by
  obtain ⟨name, path, -⟩ := mem_files.1 mem
  obtain ⟨-, other, -, same⟩ := mem_folders.1 inside
  obtain ⟨names, path', leads, -⟩ := reached
  have := leads.length_pos
  rw [path, path', same]
  intro equal
  have lengths := congrArg List.length equal
  simp only [List.length_append, List.length_cons, List.length_nil] at lengths
  omega

end Waiting

open Waiting

/-! ### The search -/

/-- A search finds what the folders that wait reach. -/
theorem mem_discover : f ∈ discover queue ↔ ∃ w ∈ queue, w.Reaches f := by
  fun_induction discover queue with
  | case1 => simp
  | case2 w queue ih =>
    simp only [List.mem_append, ih, List.exists_mem_cons_iff, w.reaches_iff, or_and_right, exists_or]
    rw [or_assoc, or_comm (b := ∃ v ∈ w.folders, _)]

/-- A search that starts from folders apart finds no path twice: the folders that are put into the
queue are apart from each other, and from the others as the folder is that lists them. -/
theorem pairwise_discover (apart : queue.Pairwise Apart)
    (distinct : ∀ w ∈ queue, Distinct w.entries) :
    (discover queue).Pairwise fun f g => f.path ≠ g.path := by
  fun_induction discover queue with
  | case1 => exact .nil
  | case2 w queue ih =>
    obtain ⟨own, apart⟩ := List.pairwise_cons.1 apart
    obtain ⟨listed, distinct⟩ := List.forall_mem_cons.1 distinct
    refine List.pairwise_append.2 ⟨pairwise_files listed, ih ?_ ?_, ?_⟩
    · refine List.pairwise_append.2 ⟨apart, pairwise_folders listed, ?_⟩
      intro u waits v inside f g reached reached' same
      exact own u waits g f (reaches_iff.2 (.inr ⟨v, inside, reached'⟩)) reached same.symm
    · intro v mem
      rcases List.mem_append.1 mem with waits | inside
      · exact distinct v waits
      · obtain ⟨-, inner⟩ := listed
        obtain ⟨-, name, mem, -⟩ := mem_folders.1 inside
        exact inner name v.entries mem
    · intro f mem g found
      obtain ⟨v, mem', reached⟩ := mem_discover.1 found
      rcases List.mem_append.1 mem' with waits | inside
      · exact own v waits f g (reaches_iff.2 (.inl mem)) reached
      · exact path_ne_of_mem_files mem inside reached

theorem mem_programFiles : f ∈ programFiles entries ↔ Leads entries f.path f.text ∧
    f.path.format?.isSome = true ∧ f.path.length ≤ maxDepth + 1 := by
  rw [programFiles, List.mem_mergeSort, mem_discover]
  constructor
  · rintro ⟨w, mem, names, path, leads, deep, format⟩
    obtain rfl := List.mem_singleton.1 mem
    rw [List.nil_append] at path
    exact path ▸ ⟨leads, path ▸ format, deep⟩
  · rintro ⟨leads, format, deep⟩
    exact ⟨_, List.mem_singleton.2 rfl, f.path, rfl, leads, deep, format⟩

theorem pairwise_programFiles (distinct : Distinct entries) :
    (programFiles entries).Pairwise fun f g => f.path < g.path := by
  have sorted : (programFiles entries).Pairwise fun f g => f.path.le g.path = true := by
    apply List.pairwise_mergeSort
    · exact fun _ _ _ => Path.le_trans
    · exact fun f g => f.path.le_total g.path
  have once : (programFiles entries).Pairwise fun f g => f.path ≠ g.path :=
    ((List.mergeSort_perm _ _).pairwise_iff Ne.symm).2
      (pairwise_discover (List.pairwise_singleton _ _) (by simpa using distinct))
  exact sorted.imp₂ (fun f g le ne => (Path.le_iff.1 le).resolve_right ne) once

/-! ### The order of the listing -/

/-- The same tree, with the entries of its folders listed in another order. -/
inductive Reordered : List (String × Entry) → List (String × Entry) → Prop
  | perm {entries others : List (String × Entry)} (perm : entries.Perm others) :
      Reordered entries others
  | inside {inner others : List (String × Entry)} (before : List (String × Entry)) (name : String)
      (after : List (String × Entry)) (reordered : Reordered inner others) :
      Reordered (before ++ (name, .folder inner) :: after) (before ++ (name, .folder others) :: after)
  | trans {entries others more : List (String × Entry)} (first : Reordered entries others)
      (second : Reordered others more) : Reordered entries more

namespace Reordered

theorem symm (h : Reordered entries others) : Reordered others entries := by
  induction h with
  | perm perm => exact .perm perm.symm
  | inside before name after _ ih => exact .inside before name after ih
  | trans _ _ ih ih' => exact .trans ih' ih

theorem distinct (h : Reordered entries others) (distinct : Distinct entries) : Distinct others := by
  induction h with
  | perm perm =>
    obtain ⟨nodup, inner⟩ := distinct
    exact .intro ((perm.map _).nodup_iff.1 nodup) fun name listed mem =>
      inner name listed (perm.mem_iff.2 mem)
  | @inside inner others before name after _ ih =>
    obtain ⟨nodup, each⟩ := distinct
    refine .intro (by simpa using nodup) fun other listed mem => ?_
    rcases List.mem_append.1 mem with mem | mem
    · exact each other listed (List.mem_append_left _ mem)
    rcases List.mem_cons.1 mem with same | mem
    · cases same
      exact ih (each name inner (by simp))
    · exact each other listed (List.mem_append_right _ (List.mem_cons_of_mem _ mem))
  | trans _ _ ih ih' => exact ih' (ih distinct)

theorem leads (h : Reordered entries others) (leads : Leads entries names text) :
    Leads others names text := by
  induction h generalizing names with
  | perm perm =>
    cases leads with
    | file mem => exact .file (perm.mem_iff.1 mem)
    | folder mem leads => exact .folder (perm.mem_iff.1 mem) leads
  | @inside inner others before name after _ ih =>
    cases leads with
    | file mem => exact .file (by simpa using mem)
    | folder mem leads =>
      rcases List.mem_append.1 mem with mem | mem
      · exact .folder (List.mem_append_left _ mem) leads
      rcases List.mem_cons.1 mem with same | mem
      · cases same
        exact .folder (by simp) (ih leads)
      · exact .folder (List.mem_append_right _ (List.mem_cons_of_mem _ mem)) leads
  | trans _ _ ih ih' => exact ih' (ih leads)

theorem mem_programFiles (h : Reordered entries others) :
    f ∈ programFiles others ↔ f ∈ programFiles entries := by
  rw [Entry.mem_programFiles, Entry.mem_programFiles]
  exact and_congr_left' ⟨h.symm.leads, h.leads⟩

/-- What is found does not hang on the order of a listing: two lists with the same members that
ascend strictly are equal. -/
theorem programFiles_eq (h : Reordered entries others) (distinct : Distinct entries) :
    programFiles others = programFiles entries := by
  have ascending := pairwise_programFiles distinct
  have ascending' := pairwise_programFiles (h.distinct distinct)
  have nodup {files : List FoundFile} (ascending : files.Pairwise fun f g => f.path < g.path) :
      files.Nodup := ascending.imp fun {f g} before => fun same => lt_irrefl g.path (same ▸ before)
  have perm : (programFiles others).Perm (programFiles entries) :=
    (List.perm_ext_iff_of_nodup (nodup ascending') (nodup ascending)).2 fun _ => h.mem_programFiles
  exact perm.eq_of_pairwise (fun _ _ _ _ before after => absurd after (lt_asymm before))
    ascending' ascending

end Reordered

/-- Of a tree with the names in each folder apart, the search finds the files with one of the three
extensions that lie in the root or at most four levels below it, each of them once and in ascending
order of path, in whatever order the folders list their entries. -/
theorem program_files_are_found_once_in_order (distinct : Distinct entries) :
    (∀ f, f ∈ programFiles entries ↔
      (Entry.folder entries).at? f.path = some (.file f.text) ∧
      (∃ extension ∈ ["json", "yaml", "yml"], f.path.extension? = some extension) ∧
      f.path.dropLast.length ≤ 4) ∧
    (programFiles entries).Pairwise (fun f g => f.path < g.path) ∧
    ∀ others, Reordered entries others → programFiles others = programFiles entries := by
  refine ⟨fun f => ?_, pairwise_programFiles distinct, fun _ h => h.programFiles_eq distinct⟩
  rw [mem_programFiles, leads_iff_at? distinct, Path.isSome_format?, List.length_dropLast,
    Nat.sub_le_iff_le_add, maxDepth]

/-- Letters on the ground floor, under the roof, and above it. -/
def house : List (String × Entry) :=
  [("stairs", .folder [("first", .folder [("second", .folder [("roof", .folder
      [("letters.yml", .file "id: letters"), ("sky", .folder [("birds.json", .file "\x7b\x7d")])])])])]),
    ("calls.json", .file "\x7b\"id\":\"calls\"\x7d"), ("notes.txt", .file "")]

theorem letters_under_the_roof_are_found : Distinct house ∧
    ⟨["stairs", "first", "second", "roof", "letters.yml"], "id: letters"⟩ ∈ programFiles house ∧
    ⟨["stairs", "first", "second", "roof", "sky", "birds.json"], "\x7b\x7d"⟩ ∉ programFiles house := by
  have distinct : Distinct house := by
    refine .folder (by decide) (.file (by decide) (.file (by decide) .nil)) ?_
    refine .folder (by decide) .nil (.folder (by decide) .nil (.folder (by decide) .nil ?_))
    exact .file (by decide) (.folder (by decide) .nil (.file (by decide) .nil))
  obtain ⟨found, -⟩ := program_files_are_found_once_in_order distinct
  exact ⟨distinct, (found _).2 ⟨rfl, by decide, by decide⟩,
    fun mem => absurd ((found _).1 mem).2.2 (by decide)⟩

end Entry
end Playbook
