import Playbook.Expression.Builtin
import Playbook.Proofs.Expression.Comparison
import Playbook.Proofs.Instant.Reading

/-!
The functions of the clock, whose instants are written as texts in whole seconds. Set against the
text of another instant, the text of the clock says its whole second in the years 0 to 9999, and
comes before all instants in other years.
-/
namespace Playbook.Instant

variable {s t u : Instant}

theorem cmp_eq_gt_of_lt (h : t.seconds < s.seconds) : s.cmp t = .gt :=
  cmp_eq_gt_iff.2 (cmp_eq_lt_iff.2 (.inl h))

/-- Where an instant stands against another one of which only the text for data is known. -/
def cmpFormat (u x : Instant) : Ordering := if x.FourDigit then u.cmp x.wholeSecond else .gt

theorem not_fourDigit_of_lt (h : t.seconds < firstSecond) : ¬t.FourDigit := by
  intro year
  have late := firstDay_le (Date.isValid_ofDays t.days) year.1
  have day : (Date.ofDays t.days).toDays = t.seconds / 86400 := Date.toDays_ofDays t.days
  rw [firstSecond, secondsPerDay] at h
  omega

theorem parse?_firstText : parse? "0000-01-01T00:00:00+23:59" = some ⟨firstSecond, 0⟩ := by
  decide +kernel

/-- The text is as good as the instant for whole seconds of the years 0 to 9999, and before any
instant that has a text. -/
theorem cmpFormat_eq_cmp_iff (h : t.Proper) :
    (∀ a u, parse? a = some u → u.cmpFormat t = u.cmp t) ↔
      t.FourDigit ∧ t.nanos % 1000000000 = 0 ∨ t.seconds < firstSecond := by
  constructor
  · intro same
    -- The text with its fraction, or else the earliest of all texts, shows what is lost.
    by_cases year : t.FourDigit
    · refine .inl ⟨year, ?_⟩
      have level := same _ t (parse?_formatStamp h year)
      rw [cmpFormat, if_pos year, cmp_eq_eq_iff.2 rfl, cmp_eq_eq_iff] at level
      have nanos : t.nanos = t.nanos - t.nanos % 1000000000 := congrArg Instant.nanos level
      omega
    · have before := same _ _ parse?_firstText
      rw [cmpFormat, if_neg year, eq_comm, cmp_eq_gt_iff, cmp_eq_lt_iff] at before
      exact .inr (before.resolve_right fun same => Nat.not_lt_zero _ same.2)
  · rintro (⟨year, whole⟩ | early) a u parsed
    · rw [cmpFormat, if_pos year, wholeSecond, whole, Nat.sub_zero]
    · have late := (parse?_eq_some parsed).2
      rw [cmpFormat, if_neg (not_fourDigit_of_lt early), cmp_eq_gt_of_lt (early.trans_le late)]

end Playbook.Instant

namespace Playbook.Expression

open Json (Value)

/-- The instant that a call of the clock is about: the one of the environment, or one as many days
before it as a number says, to the nearest second. -/
inductive StandsFor (env : Environment) : Expr → Instant → Prop
  | now : StandsFor env (.call "NOW" []) env.now
  | daysAgo {e : Expr} {v : Value} {days : Float} {seconds : Int} {x : Instant}
      (value : eval Builtin.table env e = .ok v) (number : v.float? = some days)
      (rounded : Decimal.roundHalfAway? (days * 86400.0) = some seconds)
      (moved : env.now.addSeconds? (-seconds) = some x) : StandsFor env (.call "DAYS_AGO" [e]) x

/-- The operators that go by the order, with what each says of it. -/
def comparisons : List (BinaryOp × (Ordering → Bool)) :=
  [(.lt, Ordering.isLT), (.lte, Ordering.isLE), (.gt, Ordering.isGT), (.gte, Ordering.isGE)]

/-- The answers of a call against the text of an instant. -/
def Answers (env : Environment) (clock : Expr) (place : Instant → Ordering) : Prop :=
  ∀ e t u op test, eval Builtin.table env e = .ok (.text t) → Instant.parse? t = some u →
    (op, test) ∈ comparisons →
    eval Builtin.table env (.binary e op clock) = .ok (.bool (test (place u))) ∧
    eval Builtin.table env (.binary clock op e) = .ok (.bool (test (place u).swap))

/-- A call is compared with every instant as the one that it is about. -/
def Denotes (env : Environment) (clock : Expr) (x : Instant) : Prop :=
  Answers env clock fun u => u.cmp x

section
variable {a b : String} {op : BinaryOp} {test : Ordering → Bool}

theorem applyBinary_comparison (mem : (op, test) ∈ comparisons) {l r : Value} {o : Ordering}
    (h : order l r = .ok o) : applyBinary op l r = .ok (.bool (test o)) := by
  simp only [comparisons, List.mem_cons, Prod.mk.injEq, List.not_mem_nil, or_false] at mem
  rcases mem with ⟨rfl, rfl⟩ | ⟨rfl, rfl⟩ | ⟨rfl, rfl⟩ | ⟨rfl, rfl⟩
  · rw [applyBinary_lt h]
    cases o <;> rfl
  · rw [applyBinary_lte h]
    cases o <;> rfl
  · rw [applyBinary_gt h]
    cases o <;> rfl
  · rw [applyBinary_gte h]
    cases o <;> rfl

/-- Comparisons look at both operands. -/
theorem eval_comparison (mem : (op, test) ∈ comparisons) {functions : List (String × Function)}
    {env : Environment} {e e' : Expr} {l r : Value} {o : Ordering}
    (left : eval functions env e = .ok l) (right : eval functions env e' = .ok r)
    (h : order l r = .ok o) : eval functions env (.binary e op e') = .ok (.bool (test o)) := by
  have strict : eval functions env (.binary e op e') = applyBinary op l r := by
    simp only [comparisons, List.mem_cons, Prod.mk.injEq, List.not_mem_nil, or_false] at mem
    rcases mem with ⟨rfl, -⟩ | ⟨rfl, -⟩ | ⟨rfl, -⟩ | ⟨rfl, -⟩
    all_goals
      simp only [eval, left, right]
      rfl
  rw [strict, applyBinary_comparison mem h]

theorem compare_swap (a b : String) : (compare a b).swap = compare b a :=
  Std.OrientedOrd.eq_swap.symm

theorem orderTexts_swap (a b : String) : (orderTexts a b).swap = orderTexts b a := by
  unfold orderTexts
  cases Instant.parse? a <;> cases Instant.parse? b <;> simp only [compare_swap, Instant.cmp_swap]

theorem compare_eq_gt {c d : Char} {cs ds : List Char} (ha : a.toList = c :: cs)
    (hb : b.toList = d :: ds) (h : d < c) : compare a b = .gt := by
  have less : b < a := by
    rw [String.lt_iff_toList_lt, ha, hb]
    exact List.Lex.rel h
  have before : compare b a = .lt := if_pos less
  rw [← compare_swap, before]
  rfl

theorem orderTexts_format {u x : Instant} (parsed : Instant.parse? a = some u) (proper : x.Proper) :
    orderTexts a x.format = u.cmpFormat x := by
  unfold Instant.cmpFormat
  split
  · rename_i year
    exact orderTexts_instants parsed (Instant.parse?_format proper year)
  · rename_i signed
    obtain ⟨⟨c, cs, text, digit⟩, -⟩ := Instant.parse?_eq_some parsed
    obtain ⟨sign, cs', text', mark⟩ := Instant.format_signed signed
    have code := Text.toNat_of_isDigit digit
    have below : sign < c := by
      rw [Char.lt_def, UInt32.lt_iff_toNat_lt]
      rcases mark with rfl | rfl <;> exact Nat.lt_of_lt_of_le (by decide) code.1
    rw [orderTexts, parsed, Instant.parse?_format_signed signed]
    exact compare_eq_gt text text' below

end

/-! ### Calls -/

section
variable {env : Environment} {clock : Expr} {x : Instant} {v : Value}

theorem eval_call_now :
    eval Builtin.table env (.call "NOW" []) = .ok (.text env.now.format) := rfl

theorem eval_call_daysAgo (e : Expr) : eval Builtin.table env (.call "DAYS_AGO" [e]) =
    eval Builtin.table env e >>= Builtin.daysAgo env.now := by
  have function : Keyed.get? "DAYS_AGO" Builtin.table =
      some (Builtin.unary fun v env => Builtin.daysAgo env.now v) := rfl
  rw [eval, function]
  simp only [evalAll]
  cases eval Builtin.table env e <;> rfl

theorem daysAgo_eq_ok {now : Instant} {w : Value} (h : Builtin.daysAgo now v = .ok w) :
    ∃ days seconds x, v.float? = some days ∧
      Decimal.roundHalfAway? (days * 86400.0) = some seconds ∧
      now.addSeconds? (-seconds) = some x ∧ w = .text x.format := by
  unfold Builtin.daysAgo at h
  split at h
  · cases h
  rename_i days number
  split at h
  · rename_i x moved
    obtain ⟨seconds, rounded, moved⟩ := Option.bind_eq_some_iff.1 moved
    cases h
    exact ⟨days, seconds, x, number, rounded, moved, rfl⟩
  · cases h

theorem StandsFor.eval (h : StandsFor env clock x) :
    Expression.eval Builtin.table env clock = .ok (.text x.format) := by
  cases h with
  | now => exact eval_call_now
  | daysAgo value number rounded moved =>
    rw [eval_call_daysAgo, value]
    simp only [bind, Except.bind, Builtin.daysAgo, number, rounded, Option.bind_some, moved]

/-- A call has no other values. -/
theorem exists_standsFor (h : clock = .call "NOW" [] ∨ ∃ e, clock = .call "DAYS_AGO" [e])
    (value : eval Builtin.table env clock = .ok v) :
    ∃ x, StandsFor env clock x ∧ v = .text x.format := by
  rcases h with rfl | ⟨e, rfl⟩
  · rw [eval_call_now] at value
    exact ⟨env.now, .now, (Except.ok.inj value).symm⟩
  · rw [eval_call_daysAgo] at value
    cases inner : eval Builtin.table env e with
    | error =>
      rw [inner] at value
      cases value
    | ok w =>
      rw [inner] at value
      obtain ⟨days, seconds, x, number, rounded, moved, text⟩ := daysAgo_eq_ok value
      exact ⟨x, .daysAgo inner number rounded moved, text⟩

theorem StandsFor.proper (h : StandsFor env clock x) (proper : env.now.Proper) : x.Proper := by
  cases h with
  | now => exact proper
  | daysAgo _ _ _ moved => exact proper.addSeconds? moved

/-- What is compared with a call is compared with its text. -/
theorem StandsFor.answers (h : StandsFor env clock x) (proper : env.now.Proper) :
    Answers env clock fun u => u.cmpFormat x := by
  intro e t u op test value parsed mem
  have ordered : orderTexts t x.format = u.cmpFormat x := orderTexts_format parsed (h.proper proper)
  have turned : orderTexts x.format t = (u.cmpFormat x).swap := by rw [← ordered, orderTexts_swap]
  exact ⟨eval_comparison mem value h.eval (congrArg Except.ok ordered),
    eval_comparison mem h.eval value (congrArg Except.ok turned)⟩

/-- The answers about a text tell where its instant is placed. -/
theorem Answers.unique {place place' : Instant → Ordering} (h : Answers env clock place)
    (h' : Answers env clock place') {t : String} {u : Instant}
    (parsed : Instant.parse? t = some u) : place u = place' u := by
  have agree {op : BinaryOp} {test : Ordering → Bool} (mem : (op, test) ∈ comparisons) :
      test (place u) = test (place' u) := by
    have answer := (h (.literal (.text t)) t u op test rfl parsed mem).1
    rw [(h' (.literal (.text t)) t u op test rfl parsed mem).1] at answer
    exact (Value.bool.inj (Except.ok.inj answer)).symm
  have less : (place u).isLT = (place' u).isLT := agree (.head _)
  have greater : (place u).isGT = (place' u).isGT := agree (.tail _ (.tail _ (.head _)))
  revert less greater
  cases place u <;> cases place' u <;> simp

theorem StandsFor.denotes_iff_cmpFormat (h : StandsFor env clock x) (proper : env.now.Proper) :
    Denotes env clock x ↔ ∀ t u, Instant.parse? t = some u → u.cmpFormat x = u.cmp x := by
  have answers := h.answers proper
  constructor
  · exact fun denotes t u => answers.unique denotes
  · intro same e t u op test value parsed mem
    have answer := answers e t u op test value parsed mem
    dsimp only at answer ⊢
    rwa [same t u parsed] at answer

end

/-- `NOW()` and `DAYS_AGO(d)`, where it has a value, are compared with the text of an instant as
their own text is: to the whole second, and as smaller than all where the year has no four digits.
So they denote their instants exactly where these are whole seconds of the years 0 to 9999, or so
early that no text says an instant before them. -/
theorem clock_is_told_to_the_second {env : Environment} (proper : env.now.Proper) {clock : Expr}
    (call : clock = .call "NOW" [] ∨ ∃ e, clock = .call "DAYS_AGO" [e]) {v : Value}
    (value : eval Builtin.table env clock = .ok v) :
    ∃ x, StandsFor env clock x ∧ v = .text x.format ∧ Answers env clock (fun u => u.cmpFormat x) ∧
      (Denotes env clock x ↔
        x.FourDigit ∧ x.nanos % 1000000000 = 0 ∨ x.seconds < Instant.firstSecond) := by
  obtain ⟨x, stands, text⟩ := exists_standsFor call value
  have exact := (stands.denotes_iff_cmpFormat proper).trans
    (Instant.cmpFormat_eq_cmp_iff (stands.proper proper))
  exact ⟨x, stands, text, stands.answers proper, exact⟩

theorem week_ago_is_told :
    let env : Environment := ⟨[], ⟨1710504000, 0⟩⟩
    let clock : Expr := .call "DAYS_AGO" [.literal (.number (.int 7))]
    env.now.Proper ∧ eval Builtin.table env clock = .ok (.text "2024-03-08T12:00:00Z") ∧
    ∃ x, StandsFor env clock x ∧ .text "2024-03-08T12:00:00Z" = Value.text x.format ∧
      Answers env clock (fun u => u.cmpFormat x) ∧
      (Denotes env clock x ↔
        x.FourDigit ∧ x.nanos % 1000000000 = 0 ∨ x.seconds < Instant.firstSecond) := by
  intro env clock
  have proper : env.now.Proper := ⟨by decide +kernel, .inl (by decide)⟩
  have rounded : Decimal.roundHalfAway? (Json.Number.toFloat (.int 7) * 86400.0) = some 604800 := by
    decide +kernel
  have moved : env.now.addSeconds? (-604800) = some ⟨1709899200, 0⟩ := by decide +kernel
  have stands : StandsFor env clock ⟨1709899200, 0⟩ := .daysAgo rfl rfl rounded moved
  have text : Instant.format ⟨1709899200, 0⟩ = "2024-03-08T12:00:00Z" := by decide +kernel
  have value : eval Builtin.table env clock = .ok (.text "2024-03-08T12:00:00Z") := by
    rw [stands.eval, text]
  exact ⟨proper, value, clock_is_told_to_the_second proper (.inr ⟨_, rfl⟩) value⟩

/-- A tenth of a second before the instant of the environment is after `NOW()`. -/
theorem tenth_of_second_is_lost :
    let env : Environment := ⟨[("t", .text "2024-03-15T12:00:00.4Z")], ⟨1710504000, 500000000⟩⟩
    env.now.Proper ∧ Instant.parse? "2024-03-15T12:00:00.4Z" = some ⟨1710504000, 400000000⟩ ∧
    Instant.cmp ⟨1710504000, 400000000⟩ env.now = .lt ∧
    eval Builtin.table env (.binary (.variable "t") .lte (.call "NOW" [])) = .ok (.bool false) ∧
    ¬Denotes env (.call "NOW" []) env.now := by
  intro env
  have proper : env.now.Proper := ⟨by decide +kernel, .inl (by decide)⟩
  have parsed : Instant.parse? "2024-03-15T12:00:00.4Z" = some ⟨1710504000, 400000000⟩ := by
    decide +kernel
  have before : Instant.cmp ⟨1710504000, 400000000⟩ env.now = .lt := by decide
  have after : Instant.cmpFormat ⟨1710504000, 400000000⟩ env.now = .gt := by decide +kernel
  have answers := StandsFor.now.answers proper
  have answer := (answers (.variable "t") _ _ .lte Ordering.isLE rfl parsed (.tail _ (.head _))).1
  dsimp only at answer
  rw [after] at answer
  refine ⟨proper, parsed, before, answer, fun denotes => ?_⟩
  have same := answers.unique denotes parsed
  rw [after, before] at same
  cases same

end Playbook.Expression
