import Playbook.Failure
import Playbook.Proofs.Keyed

/-!
What a catalog holds. An operation either fails and leaves the catalog as it is, or puts one program
into the place that it is about; so a catalog that is made by operations alone stays tidy, with each
program in its own place, and the version that is resolved is found by its number and its status.
-/
namespace Playbook

/-- A published program is what it was, apart from its status. -/
theorem Program.of_publish {p q : Program} (h : p.publish = .ok q) :
    q = { p with status := .published } ∧ p.status ≠ .archived := by
  unfold Program.publish at h
  split at h
  · next draft =>
    cases h
    exact ⟨rfl, by simp [draft]⟩
  · next published =>
    cases h
    exact ⟨rfl, by simp [published]⟩
  · cases h

namespace Catalog

/-- What changes a catalog. -/
inductive Operation where
  | register (p : Program)
  | publish (id : String) (version : Nat)
  | archive (id : String) (version : Nat)

namespace Operation

/-- The id that an operation is about. -/
def id : Operation → String
  | register p => p.id
  | publish id _ => id
  | archive id _ => id

/-- The version that an operation is about. -/
def version : Operation → Nat
  | register p => p.version
  | publish _ version => version
  | archive _ version => version

end Operation

def perform (c : Catalog) : Operation → Catalog × Except CatalogError Unit
  | .register p => c.register p
  | .publish id version => c.publish id version
  | .archive id version => c.archive id version

/-- The catalog after some operations, whether they succeed or not. -/
def after (c : Catalog) (operations : List Operation) : Catalog :=
  operations.foldl (fun c o => (c.perform o).1) c

/-! ### One operation -/

variable {c : Catalog} {id : String} {version : Nat} {p : Program}

theorem versionsOf_set_self (c : Catalog) (id : String) (version : Nat) (p : Program) :
    (c.set id version p).versionsOf id = Keyed.put version p (c.versionsOf id) := by
  simp [versionsOf, set]

theorem versionsOf_set_of_ne {other : String} (h : other ≠ id) (c : Catalog) (version : Nat)
    (p : Program) : (c.set id version p).versionsOf other = c.versionsOf other := by
  simp [versionsOf, set, Keyed.get?_put_of_ne h]

/-- A program is put into one place, and the others stay as they are. -/
theorem get?_set (c : Catalog) (id : String) (version : Nat) (p : Program) (other : String)
    (number : Nat) : (c.set id version p).get? other number =
      if other = id ∧ number = version then some p else c.get? other number := by
  unfold get?
  by_cases own : other = id
  · subst own
    rw [versionsOf_set_self]
    by_cases same : number = version
    · subst same
      simp
    · simp [Keyed.get?_put_of_ne same, same]
  · simp [versionsOf_set_of_ne own, own]

/-- To make an id known changes nothing that stands in the catalog. -/
theorem versionsOf_reserve (c : Catalog) (id other : String) :
    (c.reserve id).versionsOf other = c.versionsOf other := by
  unfold reserve
  split
  · rfl
  · next unknown =>
    by_cases own : other = id
    · subst own
      simp_all [versionsOf, Keyed.contains]
    · simp [versionsOf, Keyed.get?_put_of_ne own]

theorem set_reserve (c : Catalog) (id : String) (version : Nat) (p : Program) :
    (c.reserve id).set id version p = c.set id version p := by
  unfold set
  rw [versionsOf_reserve]
  unfold reserve
  split
  · rfl
  · rw [Keyed.put_put]

/-- Where a program stands the id is known. -/
theorem reserve_of_get? (h : c.get? id version = some p) : c.reserve id = c := by
  have known : Keyed.contains id c.programs = true := by
    unfold Keyed.contains
    cases found : Keyed.get? id c.programs with
    | none => simp [get?, versionsOf, found] at h
    | some versions => rfl
  rw [reserve, if_pos known]

/-- A place is taken by a published version with another definition. -/
theorem isTaken_iff : c.isTaken p = true ↔ ∃ old, c.get? p.id p.version = some old ∧
    old.status = .published ∧ old.same p = false := by
  unfold isTaken
  cases c.get? p.id p.version <;> simp

/-- What is published leaves its place to its own definition only. -/
theorem same_of_free {old : Program} (free : c.isTaken p = false)
    (stands : c.get? p.id p.version = some old) (published : old.status = .published) :
    old.same p = true := by
  by_contra other
  have taken := isTaken_iff.2 ⟨old, stands, published, by simpa using other⟩
  rw [free] at taken
  cases taken

/-- Registration either leaves the catalog as it is or puts the program into its place. -/
theorem register_eq (c : Catalog) (p : Program) : c.register p =
    if Text.allBlank p.id then (c, .error .missingId)
    else if c.isTaken p then (c, .error (.alreadyPublished p.id p.version))
    else (c.set p.id p.version p, .ok ()) := by
  have same : (c.reserve p.id).isTaken p = c.isTaken p := by
    unfold isTaken get?
    rw [versionsOf_reserve]
  unfold register
  simp only [same, set_reserve]
  cases taken : c.isTaken p with
  | false => rfl
  | true =>
    obtain ⟨old, found, -⟩ := isTaken_iff.1 taken
    rw [reserve_of_get? found]

/-- An update fails and changes nothing, or puts into a place what it makes of the program there. -/
theorem update_cases (c : Catalog) (id : String) (version : Nat)
    (change : Program → Except StatusError Program) :
    (∃ e, c.update id version change = (c, .error e)) ∨
      ∃ old p, c.get? id version = some old ∧ change old = .ok p ∧
        c.update id version change = (c.set id version p, .ok ()) := by
  unfold update
  cases found : c.get? id version with
  | none => exact .inl ⟨_, rfl⟩
  | some old =>
    cases made : change old with
    | error e => exact .inl ⟨.status e, by simp only [made]⟩
    | ok p => exact .inr ⟨old, p, rfl, made, by simp only [made]⟩

/-- What an operation puts into its place. -/
inductive Replaces (c : Catalog) : Operation → Program → Prop
  | register {p : Program} (named : Text.allBlank p.id = false) (free : c.isTaken p = false) :
      Replaces c (.register p) p
  | publish {id : String} {version : Nat} {old : Program} (found : c.get? id version = some old)
      (live : old.status ≠ .archived) :
      Replaces c (.publish id version) { old with status := .published }
  | archive {id : String} {version : Nat} {old : Program} (found : c.get? id version = some old) :
      Replaces c (.archive id version) old.archive

/-- An operation fails and changes nothing, or puts a program into its place. -/
theorem perform_cases (c : Catalog) (o : Operation) :
    (∃ e, c.perform o = (c, .error e)) ∨
      ∃ p, c.Replaces o p ∧ c.perform o = (c.set o.id o.version p, .ok ()) := by
  cases o with
  | register p =>
    change (∃ e, c.register p = _) ∨ ∃ q, _ ∧ c.register p = _
    rw [register_eq]
    cases named : Text.allBlank p.id with
    | true => exact .inl ⟨_, rfl⟩
    | false =>
      cases free : c.isTaken p with
      | true => exact .inl ⟨_, rfl⟩
      | false => exact .inr ⟨p, .register named free, rfl⟩
  | publish id version =>
    rcases c.update_cases id version Program.publish with failed | ⟨old, p, found, made, updated⟩
    · exact .inl failed
    · obtain ⟨rfl, live⟩ := Program.of_publish made
      exact .inr ⟨_, .publish found live, updated⟩
  | archive id version =>
    rcases c.update_cases id version (fun p => .ok p.archive) with
      failed | ⟨old, p, found, made, updated⟩
    · exact .inl failed
    · cases made
      exact .inr ⟨_, .archive found, updated⟩

/-- An operation that fails changes nothing. -/
theorem perform_of_error {o : Operation} {e : CatalogError} (failed : (c.perform o).2 = .error e) :
    (c.perform o).1 = c := by
  rcases c.perform_cases o with ⟨_, same⟩ | ⟨p, -, changed⟩
  · rw [same]
  · rw [changed] at failed
    cases failed

/-- An operation leaves alone what stands in another place. -/
theorem get?_perform_of_ne {o : Operation} {other : String} {number : Nat}
    (apart : ¬ (other = o.id ∧ number = o.version)) :
    (c.perform o).1.get? other number = c.get? other number := by
  rcases c.perform_cases o with ⟨_, same⟩ | ⟨p, -, changed⟩
  · rw [same]
  · rw [changed, get?_set, if_neg apart]

/-! ### Tidy catalogs -/

/-- Whether a program stands under an id and a version number. -/
def Holds (c : Catalog) (id : String) (version : Nat) (p : Program) : Prop :=
  ∃ versions, (id, versions) ∈ c.programs ∧ (version, p) ∈ versions

/-- Ids and version numbers ascend, each program stands under its own, and an id is known only where
a version of it stands. -/
structure Tidy (c : Catalog) : Prop where
  ids : Keyed.Ascending c.programs
  versions : ∀ e ∈ c.programs, Keyed.Ascending e.2
  known : ∀ e ∈ c.programs, e.2 ≠ []
  own : ∀ id version p, c.Holds id version p → p.id = id ∧ p.version = version

theorem tidy_empty : Tidy {} where
  ids := .nil
  versions _ mem := absurd mem List.not_mem_nil
  known _ mem := absurd mem List.not_mem_nil
  own _ _ _ h := nomatch h.choose_spec.1

namespace Tidy

theorem mem_versionsOf (h : c.Tidy) : (version, p) ∈ c.versionsOf id ↔ c.Holds id version p := by
  unfold versionsOf
  constructor
  · intro mem
    cases found : Keyed.get? id c.programs with
    | none => simp [found] at mem
    | some versions =>
      exact ⟨versions, (Keyed.mem_iff_get? h.ids).2 found, by simpa [found] using mem⟩
  · rintro ⟨versions, known, mem⟩
    rw [(Keyed.mem_iff_get? h.ids).1 known]
    exact mem

theorem ascending_versionsOf (h : c.Tidy) (id : String) : Keyed.Ascending (c.versionsOf id) := by
  unfold versionsOf
  cases found : Keyed.get? id c.programs with
  | none => exact .nil
  | some versions => exact h.versions _ (Keyed.mem_of_get? found)

theorem get?_eq_some_iff (h : c.Tidy) : c.get? id version = some p ↔ c.Holds id version p := by
  rw [← h.mem_versionsOf, Keyed.mem_iff_get? (h.ascending_versionsOf id)]
  rfl

theorem set (h : c.Tidy) (own : p.id = id ∧ p.version = version) : (c.set id version p).Tidy where
  ids := h.ids.put
  versions e mem := by
    rcases Keyed.mem_put mem with rfl | mem
    · exact (h.ascending_versionsOf id).put
    · exact h.versions e mem
  known e mem := by
    rcases Keyed.mem_put mem with rfl | mem
    · exact Keyed.put_ne_nil version p _
    · exact h.known e mem
  own other number q := by
    rintro ⟨versions, known, mem⟩
    rcases Keyed.mem_put known with same | known
    · cases same
      rcases Keyed.mem_put mem with same | mem
      · cases same
        exact own
      · exact h.own _ _ _ (h.mem_versionsOf.1 mem)
    · exact h.own other number q ⟨versions, known, mem⟩

/-- What is put into a place has the id and the version of the place. -/
theorem own_of_replaces (h : c.Tidy) {o : Operation} (replaces : c.Replaces o p) :
    p.id = o.id ∧ p.version = o.version := by
  cases replaces with
  | register => exact ⟨rfl, rfl⟩
  | publish found =>
    have own := h.own _ _ _ (h.get?_eq_some_iff.1 found)
    exact own
  | archive found =>
    have own := h.own _ _ _ (h.get?_eq_some_iff.1 found)
    exact own

theorem perform (h : c.Tidy) (o : Operation) : (c.perform o).1.Tidy := by
  rcases c.perform_cases o with ⟨_, same⟩ | ⟨p, replaces, changed⟩
  · rwa [same]
  · rw [changed]
    exact h.set (h.own_of_replaces replaces)

theorem after (h : c.Tidy) (operations : List Operation) : (c.after operations).Tidy := by
  induction operations generalizing c with
  | nil => exact h
  | cons o rest ih => exact ih (h.perform o)

/-- No program is stored where no id is known, and only there. -/
theorem isEmpty_iff (h : c.Tidy) : c.isEmpty = true ↔ c.size = 0 := by
  unfold isEmpty size
  have known := h.known
  cases programs : c.programs with
  | nil => simp
  | cons e rest =>
    have some : e.2.length ≠ 0 := by
      simpa using known e (by simp [programs])
    simp [some]

end Tidy

/-! ### Resolution -/

/-- The newest of the versions of an id that have a property. -/
structure Newest (c : Catalog) (id : String) (wanted : Program → Prop) (p : Program) : Prop where
  holds : c.Holds id p.version p
  fits : wanted p
  greatest : ∀ version q, c.Holds id version q → wanted q → version ≤ p.version

namespace Tidy

variable {f : Program → Bool} {wanted : Program → Prop}

theorem find?_eq_some_iff (h : c.Tidy) (tests : ∀ q, f q = true ↔ wanted q) :
    (Keyed.values (c.versionsOf id)).reverse.find? f = some p ↔ c.Newest id wanted p := by
  rw [Keyed.find?_reverse_values (h.ascending_versionsOf id)]
  simp only [h.mem_versionsOf, tests]
  constructor
  · rintro ⟨version, holds, fits, greatest⟩
    obtain ⟨-, rfl⟩ := h.own _ _ _ holds
    exact ⟨holds, fits, greatest⟩
  · exact fun newest => ⟨p.version, newest.holds, newest.fits, newest.greatest⟩

theorem find?_eq_none_iff (h : c.Tidy) (tests : ∀ q, f q = true ↔ wanted q) :
    (Keyed.values (c.versionsOf id)).reverse.find? f = none ↔
      ∀ version q, c.Holds id version q → ¬ wanted q := by
  rw [List.find?_eq_none]
  constructor
  · intro unfit version q holds fits
    refine unfit q ?_ ((tests q).2 fits)
    exact List.mem_reverse.2 (List.mem_map.2 ⟨_, h.mem_versionsOf.2 holds, rfl⟩)
  · intro unfit q mem fits
    obtain ⟨⟨version, _⟩, found, rfl⟩ := List.mem_map.1 (List.mem_reverse.1 mem)
    exact unfit version _ (h.mem_versionsOf.1 found) ((tests _).1 fits)

theorem latestPublished_eq_some_iff (h : c.Tidy) : c.latestPublished id = some p ↔
    c.Newest id (fun q => q.status = .published) p :=
  h.find?_eq_some_iff fun _ => beq_iff_eq

theorem latestPublished_eq_none_iff (h : c.Tidy) : c.latestPublished id = none ↔
    ∀ version q, c.Holds id version q → q.status ≠ .published :=
  h.find?_eq_none_iff fun _ => beq_iff_eq

theorem latestExecutable_eq_some_iff (h : c.Tidy) : c.latestExecutable id = some p ↔
    c.Newest id (fun q => q.status ≠ .archived) p :=
  h.find?_eq_some_iff fun _ => bne_iff_ne

theorem latestExecutable_eq_none_iff (h : c.Tidy) : c.latestExecutable id = none ↔
    ∀ version q, c.Holds id version q → q.status = .archived := by
  have none : c.latestExecutable id = none ↔
      ∀ version q, c.Holds id version q → ¬ q.status ≠ .archived :=
    h.find?_eq_none_iff fun _ => bne_iff_ne
  simpa only [not_not] using none

theorem resolve_version (h : c.Tidy) : c.resolve id (some version) = .ok p ↔
    c.Holds id version p := by
  rw [← h.get?_eq_some_iff]
  simp only [resolve]
  cases c.get? id version <;> simp

theorem resolve_version_fails (h : c.Tidy) {e : CatalogError} :
    c.resolve id (some version) = .error e ↔
      e = .absent id (some version) ∧ ∀ p, ¬ c.Holds id version p := by
  simp only [← h.get?_eq_some_iff, resolve]
  cases c.get? id version <;> simp [eq_comm]

/-- Without a version the newest published one is resolved, and where none is published the newest
one that is not archived. -/
theorem resolve_newest (h : c.Tidy) : c.resolve id none = .ok p ↔
    c.Newest id (fun q => q.status = .published) p ∨
      (∀ version q, c.Holds id version q → q.status ≠ .published) ∧
        c.Newest id (fun q => q.status ≠ .archived) p := by
  rw [← h.latestPublished_eq_some_iff, ← h.latestPublished_eq_none_iff,
    ← h.latestExecutable_eq_some_iff]
  simp only [resolve]
  cases c.latestPublished id with
  | some newest => simp
  | none => cases c.latestExecutable id <;> simp

/-- Without a version nothing is resolved only where every version is archived. -/
theorem resolve_newest_fails (h : c.Tidy) {e : CatalogError} : c.resolve id none = .error e ↔
    e = .absent id none ∧ ∀ version q, c.Holds id version q → q.status = .archived := by
  have published_is_executable : c.latestExecutable id = none → c.latestPublished id = none := by
    rw [h.latestExecutable_eq_none_iff, h.latestPublished_eq_none_iff]
    intro archived version q holds published
    cases (archived version q holds).symm.trans published
  rw [← h.latestExecutable_eq_none_iff]
  simp only [resolve]
  cases executable : c.latestExecutable id with
  | none => simp [published_is_executable executable, eq_comm]
  | some newest => cases c.latestPublished id <;> simp

end Tidy

/-- Whatever operations have made a catalog, succeeding or not: each program stands under its own id
and version, and the catalog is empty when nothing stands in it. The next operation leaves the other
places alone, and everything if it fails. A version that is asked for is resolved as it stands;
without one the newest published version is, or else the newest that is not archived. -/
theorem places_and_resolution (operations : List Operation) :
    let c := ({} : Catalog).after operations
    (∀ id version p, c.Holds id version p → p.id = id ∧ p.version = version) ∧
    (c.isEmpty = true ↔ c.size = 0) ∧
    (∀ o, (∀ id version, ¬ (id = o.id ∧ version = o.version) →
        ∀ p, (c.perform o).1.Holds id version p ↔ c.Holds id version p) ∧
      ∀ e, (c.perform o).2 = .error e → (c.perform o).1 = c) ∧
    (∀ id version, (∀ p, c.resolve id (some version) = .ok p ↔ c.Holds id version p) ∧
      ∀ e, c.resolve id (some version) = .error e ↔
        e = .absent id (some version) ∧ ∀ p, ¬ c.Holds id version p) ∧
    (∀ id, (∀ p, c.resolve id none = .ok p ↔
        c.Newest id (fun q => q.status = .published) p ∨
          (∀ version q, c.Holds id version q → q.status ≠ .published) ∧
            c.Newest id (fun q => q.status ≠ .archived) p) ∧
      (∀ p, c.resolve id none = .ok p → p.status ≠ .archived) ∧
      ∀ e, c.resolve id none = .error e ↔
        e = .absent id none ∧ ∀ version q, c.Holds id version q → q.status = .archived) ∧
    ∀ id version, ∃ message, Failure.ofCatalog (.absent id version) = .notFound message := by
  intro c
  have tidy : c.Tidy := tidy_empty.after operations
  refine ⟨tidy.own, tidy.isEmpty_iff, fun o => ⟨?_, fun e => perform_of_error⟩, ?_, ?_, ?_⟩
  · intro id version apart p
    rw [← (tidy.perform o).get?_eq_some_iff, ← tidy.get?_eq_some_iff, get?_perform_of_ne apart]
  · exact fun id version => ⟨fun p => tidy.resolve_version, fun e => tidy.resolve_version_fails⟩
  · refine fun id => ⟨fun p => tidy.resolve_newest, ?_, fun e => tidy.resolve_newest_fails⟩
    intro p resolved
    rcases tidy.resolve_newest.1 resolved with newest | ⟨-, newest⟩
    · rw [newest.fits]
      decide
    · exact newest.fits
  · exact fun id version => ⟨_, rfl⟩

end Catalog
end Playbook
