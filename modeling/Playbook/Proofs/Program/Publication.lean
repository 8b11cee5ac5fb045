import Playbook.Proofs.Program.Catalog
import Playbook.Proofs.Program.Sameness

/-!
What is published lasts. No operation of a catalog changes the definition of a program that is
published, or executes one again that is archived, except for one: the place of an archived program
is open to any other.
-/
namespace Playbook

/-- What may stand where a program stood that was a draft no more: one of the same definition, and
archived if that was. -/
structure Program.Succeeds (p q : Program) : Prop where
  definition : p.SameDefinition q
  released : q.status ≠ .draft
  archived : p.status = .archived → q.status = .archived

namespace Program.Succeeds

variable {p q r : Program}

theorem refl (released : p.status ≠ .draft) : p.Succeeds p :=
  ⟨.refl p, released, fun archived => archived⟩

theorem trans (hpq : p.Succeeds q) (hqr : q.Succeeds r) : p.Succeeds r where
  definition := hpq.definition.trans hqr.definition
  released := hqr.released
  archived h := hqr.archived (hpq.archived h)

/-- A published program is succeeded by what may be registered in its place. -/
theorem of_same (published : p.status = .published) (same : p.same r = true) : p.Succeeds r := by
  have status := Program.status_of_same same
  rw [published] at status
  exact ⟨.of_same same, by simp [← status], by simp [published]⟩

end Program.Succeeds

namespace Catalog

variable {c : Catalog} {id : String} {version : Nat} {p : Program}

/-- In the place of a program that is a draft no more an operation leaves a successor, or the program
is archived and another one is registered. -/
theorem perform_released (stands : c.get? id version = some p) (released : p.status ≠ .draft)
    (o : Operation) :
    (∃ q, (c.perform o).1.get? id version = some q ∧ p.Succeeds q) ∨
      p.status = .archived ∧ ∃ r, o = .register r ∧ r.id = id ∧ r.version = version ∧
        (c.perform o).1.get? id version = some r := by
  by_cases place : id = o.id ∧ version = o.version
  · obtain ⟨rfl, rfl⟩ := place
    rcases c.perform_cases o with ⟨e, same⟩ | ⟨q, replaces, changed⟩
    · exact .inl ⟨p, by rw [same, stands], .refl released⟩
    · have now : (c.perform o).1.get? o.id o.version = some q := by
        rw [changed, get?_set, if_pos ⟨rfl, rfl⟩]
      cases replaces with
      | register named free =>
        -- registration asks only whether the program is published, not whether it ever was
        by_cases archived : p.status = .archived
        · exact .inr ⟨archived, q, rfl, rfl, rfl, now⟩
        · have published : p.status = .published := by
            cases status : p.status <;> simp_all
          exact .inl ⟨q, now, .of_same published (same_of_free free stands published)⟩
      | publish found live =>
        cases found.symm.trans stands
        exact .inl ⟨_, now, .inl rfl, by simp, fun archived => absurd archived live⟩
      | archive found =>
        cases found.symm.trans stands
        exact .inl ⟨_, now, .inl rfl, by simp [Program.archive], fun _ => rfl⟩
  · exact .inl ⟨p, by rw [get?_perform_of_ne place, stands], .refl released⟩

/-- Among some operations there is one that registers a program in the place of another, which is
archived by then. -/
def Renewed (c : Catalog) (operations : List Operation) (id : String) (version : Nat)
    (p : Program) : Prop :=
  ∃ earlier r later q, operations = earlier ++ .register r :: later ∧
    r.id = id ∧ r.version = version ∧
    (c.after earlier).get? id version = some q ∧ p.Succeeds q ∧ q.status = .archived ∧
    (c.after (earlier ++ [.register r])).get? id version = some r

/-- What is published keeps its definition, and what is archived stays archived, as long as nothing
is registered in the place of an archived program. -/
theorem released_lasts_unless_renewed (operations : List Operation)
    (stands : c.get? id version = some p) (released : p.status ≠ .draft) :
    (∃ q, (c.after operations).get? id version = some q ∧ p.Succeeds q) ∨
      c.Renewed operations id version p := by
  induction operations generalizing c p with
  | nil => exact .inl ⟨p, stands, .refl released⟩
  | cons o rest ih =>
    rcases perform_released stands released o with ⟨q, now, succeeds⟩ |
      ⟨archived, r, rfl, own, number, now⟩
    · rcases ih now succeeds.released with ⟨last, stands, successor⟩ |
        ⟨earlier, r, later, last, rfl, own, number, before, successor, archived, after⟩
      · exact .inl ⟨last, stands, succeeds.trans successor⟩
      · exact .inr ⟨o :: earlier, r, later, last, rfl, own, number, before,
          succeeds.trans successor, archived, after⟩
    · exact .inr ⟨[], r, rest, p, rfl, own, number, stands, .refl released, archived, now⟩

def letters : Program := { id := "letters", name := "Letters" }

def parcels : Program := { id := "letters", name := "Parcels" }

/-- A catalog in which the letters are published. -/
def withLetters : Catalog := ({} : Catalog).after [.register letters, .publish "letters" 1]

theorem letters_stay_published :
    withLetters.get? "letters" 1 = some { letters with status := .published } ∧
    ((∃ q, (withLetters.after [.register parcels]).get? "letters" 1 = some q ∧
        Program.Succeeds { letters with status := .published } q) ∨
      withLetters.Renewed [.register parcels] "letters" 1 { letters with status := .published }) :=
  ⟨rfl, released_lasts_unless_renewed _ rfl (by decide)⟩

/-- The letters are published and archived, and cannot be published again; then the parcels take
their place, and are published. -/
theorem parcels_replace_archived_letters :
    withLetters.get? "letters" 1 = some { letters with status := .published } ∧
    (withLetters.after [.archive "letters" 1]).get? "letters" 1 = some letters.archive ∧
    (withLetters.after [.archive "letters" 1, .publish "letters" 1]).get? "letters" 1 =
      some letters.archive ∧
    (withLetters.after [.archive "letters" 1, .register parcels, .publish "letters" 1]).get?
      "letters" 1 = some { parcels with status := .published } ∧
    Program.isExecutable { parcels with status := .published } = true ∧
    ¬ Program.SameDefinition { letters with status := .published }
      { parcels with status := .published } := by
  refine ⟨rfl, rfl, rfl, rfl, rfl, ?_⟩
  rintro (same | same)
  · exact absurd (congrArg Program.name same) (by decide)
  · exact absurd same (by decide +kernel)

end Catalog
end Playbook
