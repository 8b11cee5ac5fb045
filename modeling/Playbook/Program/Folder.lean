import Playbook.Program.Document
import Playbook.Sum

/-!
Programs in files. A folder holds files and further folders; the programs below it are the files
with one of three extensions that lie at most four levels deep, in ascending order of path. All files
and folders can be read, and files hold text: what becomes of those that cannot be read is left out.
-/
namespace Playbook

/-- What stands under a name in a folder. -/
inductive Entry where
  | file (text : String)
  | folder (entries : List (String × Entry))

/-- The names that lead to a file, from the outermost on. -/
abbrev Path := List String

namespace Path

/-- The path that a text writes; empty names and single points lead nowhere. -/
def ofText (text : String) : Path :=
  ((Text.splitOn '/' text.toList).map String.ofList).filter fun name => name ≠ "" && name ≠ "."

/-- What stands after the last point of a name; a point at the start counts for nothing. -/
def extensionOf? (name : String) : Option String :=
  match name.toList.reverse.span (· ≠ '.') with
  | (_, []) | (_, [_]) => none
  | (tail, _) => if name = ".." then none else some (String.ofList tail.reverse)

def extension? (p : Path) : Option String := p.getLast?.bind extensionOf?

/-- The format of a program file. -/
def format? (p : Path) : Option ProgramFormat :=
  match p.extension? with
  | some "json" => some .json
  | some "yaml" | some "yml" => some .yaml
  | _ => none

/-- The path written below a directory. -/
def below (directory : String) (p : Path) : String :=
  let rest := "/".intercalate p
  if directory.isEmpty || directory.endsWith "/" then directory ++ rest else directory ++ "/" ++ rest

/-- Whether a path stands before another one or is the same: names are compared one by one. -/
def le : Path → Path → Bool
  | [], _ => true
  | _ :: _, [] => false
  | a :: p, b :: q => if a = b then le p q else decide (a < b)

end Path

/-- A file and where it lies. -/
structure FoundFile where
  path : Path
  text : String
  deriving DecidableEq, Repr

namespace Entry

/-- What a path leads to. -/
def at? : Entry → Path → Option Entry
  | e, [] => some e
  | .folder entries, name :: rest => do (← entries.lookup name).at? rest
  | .file _, _ :: _ => none

/-- Follows names from an entry on; two points lead back to the folder before, of which the latest
stands first. -/
def follow : (passed : List Entry) → Entry → List String → Option Entry
  | _, e, [] => some e
  | passed, .folder entries, name :: rest =>
    if name = "" || name = "." then follow passed (.folder entries) rest
    else if name = ".." then
      match passed with
      | e :: passed => follow passed e rest
      | [] => none
    else
      match entries.lookup name with
      | some e => follow (.folder entries :: passed) e rest
      | none => none
  | _, .file _, _ :: _ => none

/-- What a written path leads to from a folder on; only a folder may have a stroke after its name. -/
def find? (e : Entry) (path : String) : Option Entry :=
  if path.startsWith "/" then none
  else follow [] e ((Text.splitOn '/' path.toList).map String.ofList)

/-- The deepest level of folders that is searched. -/
def maxDepth : Nat := 4

mutual

/-- The number of folders among some entries and below them. -/
def foldersIn : List (String × Entry) → Nat
  | [] => 0
  | (_, e) :: rest => e.foldersAt + foldersIn rest

def foldersAt : Entry → Nat
  | .file _ => 0
  | .folder entries => foldersIn entries + 1

end

/-- A folder that waits to be searched: where it lies, at which level, and what it lists. -/
structure Waiting where
  path : Path
  depth : Nat
  entries : List (String × Entry)

namespace Waiting

/-- The program files right in a folder. -/
def files (w : Waiting) : List FoundFile :=
  w.entries.filterMap fun
    | (name, .file text) =>
      if (w.path ++ [name]).format?.isSome then some ⟨w.path ++ [name], text⟩ else none
    | (_, .folder _) => none

/-- The folders right in a folder, each one level deeper; there are none to search in the deepest. -/
def folders (w : Waiting) : List Waiting :=
  if w.depth < maxDepth then
    w.entries.filterMap fun
      | (name, .folder entries) => some ⟨w.path ++ [name], w.depth + 1, entries⟩
      | (_, .file _) => none
  else []

/-- How many folders there are to search, from a folder on. -/
def weight (w : Waiting) : Nat := foldersIn w.entries + 1

theorem sumOf_weight_folders_lt : (w : Waiting) → sumOf weight w.folders < w.weight
  | ⟨path, depth, entries⟩ => by
    refine Nat.lt_succ_of_le ?_
    by_cases deeper : depth < maxDepth
    · simp only [folders, if_pos deeper]
      induction entries with
      | nil => simp [foldersIn]
      | cons entry rest ih =>
        obtain ⟨name, text | inner⟩ := entry
        · simpa [foldersIn, foldersAt] using ih
        · simpa [foldersIn, foldersAt, weight] using ih
    · simp [folders, deeper]

end Waiting

/-- The program files in the folders that wait, and below them. The folders that one lists are put
behind the others. -/
def discover : List Waiting → List FoundFile
  | [] => []
  | w :: queue => w.files ++ discover (queue ++ w.folders)
termination_by queue => sumOf Waiting.weight queue
decreasing_by
  have := w.sumOf_weight_folders_lt
  simp only [sumOf_append, sumOf_cons]
  omega

/-- A folder with no folder to search in it gives its own files. -/
theorem discover_of_folders_eq_nil {w : Waiting} (flat : w.folders = []) : discover [w] = w.files := by
  rw [discover, List.nil_append, flat, discover, List.append_nil]

/-- The program files below a folder in ascending order of path. -/
def programFiles (entries : List (String × Entry)) : List FoundFile :=
  (discover [⟨[], 0, entries⟩]).mergeSort fun f g => f.path.le g.path

/-- Writes a file into a folder, with the folders on the way. -/
def write (text : String) : Path → List (String × Entry) → List (String × Entry)
  | [], entries => entries
  | [name], entries => Keyed.put name (.file text) entries
  | name :: rest, entries =>
    let inner := match entries.lookup name with
      | some (.folder inner) => inner
      | _ => []
    Keyed.put name (.folder (write text rest inner)) entries

/-- Makes the folders on a path. -/
def make : Path → List (String × Entry) → List (String × Entry)
  | [], entries => entries
  | name :: rest, entries =>
    let inner := match entries.lookup name with
      | some (.folder inner) => inner
      | _ => []
    Keyed.put name (.folder (make rest inner)) entries

end Entry

/-- What is wrong with the programs at a path. -/
inductive LoadFault where
  | missing (path : String)
  | document (origin : String) (fault : DocumentFault)
  deriving DecidableEq, Repr

def LoadFault.message : LoadFault → String
  | .missing path => s!"program path '{path}' does not exist"
  | .document origin fault => fault.message origin

/-- The program in a file; a file that says nothing else by its extension is taken for JSON. -/
def FoundFile.program (directory : String) (f : FoundFile) : Except LoadFault Program :=
  (Program.parse (f.path.format?.getD .json) f.text).mapError
    (.document (f.path.below directory))

/-- The programs at a place that is written as `path`: of the one file there, or of all program files
below the folder there. -/
def Entry.programs (path : String) : Option Entry → Except LoadFault (List Program)
  | none => .error (.missing path)
  | some (.file text) => do
    let format := (Path.ofText path).format?.getD .json
    let p ← (Program.parse format text).mapError (.document path)
    .ok [p]
  | some (.folder entries) => (Entry.programFiles entries).mapM (FoundFile.program path)

end Playbook
