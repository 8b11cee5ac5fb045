import Playbook.Proofs.Decimal.Order
import Playbook.Program.Basic

/-!
Programs that are the same. Two definitions are the same when they agree field by field, with
numbers compared as numbers; so one zero may stand for the other, and a definition with a value
that is no number is not even the same as itself. What is the same as something the same is the
same.
-/
namespace Playbook

namespace Json

theorem Number.same_trans {a b c : Number} (hab : a.same b = true) (hbc : b.same c = true) :
    a.same c = true := by
  cases a <;> cases b <;> cases c <;> simp only [Number.same, Bool.false_eq_true] at hab hbc ⊢
  case int.int.int => exact beq_iff_eq.2 ((beq_iff_eq.1 hab).trans (beq_iff_eq.1 hbc))
  case float.float.float => exact Decimal.beq_trans hab hbc

namespace Value

mutual

theorem same_trans {a b c : Value} (hab : a.same b = true) (hbc : b.same c = true) :
    a.same c = true := by
  cases a <;> cases b <;> simp only [same, Bool.false_eq_true] at hab <;>
    cases c <;> simp only [same, Bool.false_eq_true, beq_iff_eq] at hab hbc ⊢
  case bool.bool.bool => exact hab.trans hbc
  case number.number.number => exact Number.same_trans hab hbc
  case text.text.text => exact hab.trans hbc
  case list.list.list => exact sameItems_trans hab hbc
  case object.object.object => exact sameEntries_trans hab hbc
termination_by structural a

theorem sameItems_trans {as bs cs : List Value} (hab : sameItems as bs = true)
    (hbc : sameItems bs cs = true) : sameItems as cs = true := by
  cases as <;> cases bs <;> simp only [sameItems, Bool.false_eq_true] at hab <;>
    cases cs <;> simp only [sameItems, Bool.false_eq_true, Bool.and_eq_true] at hab hbc ⊢
  exact ⟨same_trans hab.1 hbc.1, sameItems_trans hab.2 hbc.2⟩
termination_by structural as

theorem sameEntries_trans {as bs cs : List (String × Value)} (hab : sameEntries as bs = true)
    (hbc : sameEntries bs cs = true) : sameEntries as cs = true := by
  cases as <;> cases bs <;> simp only [sameEntries, Bool.false_eq_true] at hab <;>
    cases cs <;>
    simp only [sameEntries, Bool.false_eq_true, Bool.and_eq_true, beq_iff_eq] at hab hbc ⊢
  exact ⟨⟨hab.1.1.trans hbc.1.1, same_trans hab.1.2 hbc.1.2⟩, sameEntries_trans hab.2 hbc.2⟩
termination_by structural as

end

end Value
end Json

theorem Position.same_trans {a b c : Position} (hab : a.same b = true) (hbc : b.same c = true) :
    a.same c = true := by
  simp only [same, Bool.and_eq_true] at hab hbc ⊢
  exact ⟨Decimal.beq_trans hab.1 hbc.1, Decimal.beq_trans hab.2 hbc.2⟩

theorem Action.same_trans {a b c : Action} (hab : a.same b = true) (hbc : b.same c = true) :
    a.same c = true := by
  simp only [same, Bool.and_eq_true, beq_iff_eq] at hab hbc ⊢
  have params := Json.Value.same_trans hab.1.1.1.2 hbc.1.1.1.2
  grind

theorem sameOption_trans {α : Type} {same : α → α → Bool} {a b c : Option α}
    (hab : sameOption same a b = true) (hbc : sameOption same b c = true)
    (trans : ∀ a b c, same a b = true → same b c = true → same a c = true) :
    sameOption same a c = true := by
  cases a <;> cases b <;> cases c <;> simp only [sameOption, Bool.false_eq_true] at hab hbc ⊢
  exact trans _ _ _ hab hbc

theorem Step.same_trans {a b c : Step} (hab : a.same b = true) (hbc : b.same c = true) :
    a.same c = true := by
  simp only [same, Bool.and_eq_true, beq_iff_eq] at hab hbc ⊢
  have action := Action.same_trans hab.1.1.1.1.2 hbc.1.1.1.1.2
  have position := sameOption_trans hab.1.1.1.2 hbc.1.1.1.2
    fun _ _ _ => Position.same_trans
  grind

namespace Program

theorem sameSteps_trans {as bs cs : List Step} (hab : sameSteps as bs = true)
    (hbc : sameSteps bs cs = true) : sameSteps as cs = true := by
  induction as generalizing bs cs with
  | nil => cases bs <;> cases cs <;> simp_all [sameSteps]
  | cons a as ih =>
    cases bs <;> cases cs <;> simp only [sameSteps, Bool.false_eq_true, Bool.and_eq_true] at *
    exact ⟨Step.same_trans hab.1 hbc.1, ih hab.2 hbc.2⟩

theorem same_trans {a b c : Program} (hab : a.same b = true) (hbc : b.same c = true) :
    a.same c = true := by
  simp only [same, Bool.and_eq_true, beq_iff_eq] at hab hbc ⊢
  have steps := sameSteps_trans hab.1.1.1.2 hbc.1.1.1.2
  grind

theorem status_of_same {p q : Program} (h : p.same q = true) : p.status = q.status := by
  simp only [same, Bool.and_eq_true, beq_iff_eq] at h
  exact h.1.1.1.1.2

/-- What a program is apart from its status. -/
def definition (p : Program) : Program := { p with status := .draft }

/-- Programs of one definition, with numbers compared as numbers. -/
def SameDefinition (p q : Program) : Prop :=
  p.definition = q.definition ∨ p.definition.same q.definition = true

theorem SameDefinition.refl (p : Program) : p.SameDefinition p := .inl rfl

theorem SameDefinition.trans {p q r : Program} (hpq : p.SameDefinition q)
    (hqr : q.SameDefinition r) : p.SameDefinition r := by
  rcases hpq with hpq | hpq
  · unfold SameDefinition
    rwa [hpq]
  · rcases hqr with hqr | hqr
    · exact .inr (hqr ▸ hpq)
    · exact .inr (same_trans hpq hqr)

theorem SameDefinition.of_same {p q : Program} (h : p.same q = true) : p.SameDefinition q := by
  refine .inr ?_
  simp only [same, definition, Bool.and_eq_true, beq_iff_eq] at h ⊢
  exact ⟨⟨⟨⟨⟨h.1.1.1.1.1, trivial⟩, h.1.1.1.2⟩, h.1.1.2⟩, h.1.2⟩, h.2⟩

end Program
end Playbook
