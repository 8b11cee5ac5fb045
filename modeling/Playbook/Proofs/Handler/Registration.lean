import Playbook.Handler.Actions
import Playbook.Handler.Registry
import Playbook.Proofs.Keyed

/-!
What a registry holds. A call that gives a handler to an id is rejected and changes nothing, or puts
the handler under one key of its kind; so an id leads to the handler of the last call that was
accepted under it. Registering takes the id without the blanks around it for its key, replacing takes
the id as it is: what is registered under an id with blanks around it is found only without them.
-/
namespace Playbook

/-- What handles a kind. -/
abbrev HandlerKind.Handler : HandlerKind → Type
  | .step => StepRule
  | .trigger => TriggerHandler
  | .action => ActionHandler

namespace HandlerTable

variable {α : Type} {kind : HandlerKind} {id : String} {handler : α} {table : HandlerTable α}

theorem lookup_replace_self : (table.replace id handler).lookup kind id = .ok handler :=
  lookup_eq_ok.2 (Keyed.get?_put_self id handler table)

theorem lookup_replace_of_ne {other : String} (h : other ≠ id) :
    (table.replace id handler).lookup kind other = table.lookup kind other := by
  unfold lookup replace
  rw [Keyed.get?_put_of_ne h]

/-- Why an id cannot be registered: nothing of it is left, or its key is taken. -/
inductive Refusal (kind : HandlerKind) (id : String) (table : HandlerTable α) :
    RegistryError → Prop
  | empty (blank : Text.trim id = "") : Refusal kind id table (.emptyId kind)
  | taken {first : α} (named : Text.trim id ≠ "")
      (found : table.lookup kind (Text.trim id) = .ok first) :
      Refusal kind id table (.duplicate kind (Text.trim id))

theorem Refusal.unique {e e' : RegistryError} (h : Refusal kind id table e)
    (h' : Refusal kind id table e') : e = e' := by
  cases h with
  | empty blank =>
    cases h' with
    | empty => rfl
    | taken named => exact absurd blank named
  | taken named =>
    cases h' with
    | empty blank => exact absurd blank named
    | taken => rfl

/-- Registering is refused, or puts the handler where nothing is. -/
theorem register_cases (kind : HandlerKind) (id : String) (handler : α) (table : HandlerTable α) :
    (∃ e, Refusal kind id table e ∧ table.register kind id handler = .error e) ∨
      (∀ e, ¬Refusal kind id table e) ∧
        table.register kind id handler = .ok (table.replace (Text.trim id) handler) := by
  unfold register
  by_cases blank : Text.trim id = ""
  · exact .inl ⟨_, .empty blank, by simp [blank]⟩
  · have named : (Text.trim id).isEmpty = false := by simpa [String.isEmpty_iff] using blank
    rcases found : Keyed.get? (Text.trim id) table with _ | first
    · refine .inr ⟨?_, by simp [named, Keyed.contains, found, replace]⟩
      rintro e (empty | ⟨-, taken⟩)
      · exact blank empty
      · rw [lookup_eq_ok, found] at taken
        cases taken
    · refine .inl ⟨_, .taken blank (lookup_eq_ok.2 found), ?_⟩
      simp [named, Keyed.contains, found]

end HandlerTable

namespace Registry

/-- What gives a handler to an id: as the first one, or in place of the one there. -/
structure Call where
  kind : HandlerKind
  id : String
  handler : kind.Handler
  replaces : Bool

/-- The key that a call is about: an id is registered without the blanks around it. -/
def Call.key (c : Call) : String := if c.replaces then c.id else Text.trim c.id

/-- Finds what handles an id of a kind. -/
def lookup (r : Registry) : (kind : HandlerKind) → String → Except RegistryError kind.Handler
  | .step, id => r.step id
  | .trigger, id => r.trigger id
  | .action, id => r.action id

/-- Makes a call. -/
def perform (r : Registry) : Call → Except RegistryError Registry
  | ⟨.step, id, handler, true⟩ => .ok (r.replaceStep id handler)
  | ⟨.step, id, handler, false⟩ => r.registerStep id handler
  | ⟨.trigger, id, handler, true⟩ => .ok (r.replaceTrigger id handler)
  | ⟨.trigger, id, handler, false⟩ => r.registerTrigger id handler
  | ⟨.action, id, handler, true⟩ => .ok (r.replaceAction id handler)
  | ⟨.action, id, handler, false⟩ => r.registerAction id handler

/-- The registry that a call leaves; a rejected one leaves what was there. -/
def next (r : Registry) (c : Call) : Registry :=
  match r.perform c with
  | .ok changed => changed
  | .error _ => r

/-- The registry after some calls. -/
def after (r : Registry) (calls : List Call) : Registry := calls.foldl next r

/-- The calls that were accepted, one after the other. -/
def accepted (r : Registry) : List Call → List Call
  | [] => []
  | c :: rest =>
    match r.perform c with
    | .ok changed => c :: changed.accepted rest
    | .error _ => r.accepted rest

/-! ### One call -/

/-- The handlers of a kind. -/
def table (r : Registry) : (kind : HandlerKind) → HandlerTable kind.Handler
  | .step => r.steps
  | .trigger => r.triggers
  | .action => r.actions

/-- A call registers an id that cannot be registered. -/
structure Call.Refused (r : Registry) (c : Call) (e : RegistryError) : Prop where
  registers : c.replaces = false
  refusal : HandlerTable.Refusal c.kind c.id (r.table c.kind) e

/-- Puts a handler under a key of its kind. -/
def set (r : Registry) : (kind : HandlerKind) → String → kind.Handler → Registry
  | .step, key, handler => r.replaceStep key handler
  | .trigger, key, handler => r.replaceTrigger key handler
  | .action, key, handler => r.replaceAction key handler

variable {r changed : Registry} {c : Call} {kind : HandlerKind} {id : String}

theorem lookup_eq (r : Registry) (kind : HandlerKind) (id : String) :
    r.lookup kind id = (r.table kind).lookup kind id := by
  cases kind <;> rfl

theorem table_set_self (r : Registry) (kind : HandlerKind) (key : String) (h : kind.Handler) :
    (r.set kind key h).table kind = (r.table kind).replace key h := by
  cases kind <;> rfl

theorem table_set_of_ne {other : HandlerKind} (apart : other ≠ kind) (r : Registry) (key : String)
    (h : kind.Handler) : (r.set kind key h).table other = r.table other := by
  cases kind <;> cases other <;> first | rfl | exact absurd rfl apart

/-- A call that registers is refused for its id, or the call puts its handler under its key. -/
theorem perform_cases (r : Registry) (c : Call) :
    (∃ e, c.Refused r e ∧ r.perform c = .error e) ∨
      (∀ e, ¬c.Refused r e) ∧ r.perform c = .ok (r.set c.kind c.key c.handler) := by
  obtain ⟨kind, id, handler, _ | _⟩ := c
  · rcases (r.table kind).register_cases kind id handler with
      ⟨e, refusal, refused⟩ | ⟨free, registered⟩
    · refine .inl ⟨e, ⟨rfl, refusal⟩, ?_⟩
      cases kind <;> exact congrArg (Bind.bind · _) refused
    · refine .inr ⟨fun e refused => free e refused.refusal, ?_⟩
      cases kind <;> exact congrArg (Bind.bind · _) registered
  · refine .inr ⟨fun e refused => Bool.noConfusion refused.registers, ?_⟩
    cases kind <;> rfl

theorem perform_eq_error {e : RegistryError} : r.perform c = .error e ↔ c.Refused r e := by
  rcases r.perform_cases c with ⟨e', refused, performed⟩ | ⟨free, performed⟩
  · rw [performed]
    constructor
    · rintro ⟨⟩
      exact refused
    · exact fun other => congrArg _ (refused.refusal.unique other.refusal)
  · rw [performed]
    exact iff_of_false nofun (free e)

/-- An accepted call puts its handler under its key. -/
theorem eq_set_of_perform (h : r.perform c = .ok changed) :
    changed = r.set c.kind c.key c.handler := by
  rcases r.perform_cases c with ⟨e, -, refused⟩ | ⟨-, put⟩
  · rw [refused] at h
    cases h
  · rw [put] at h
    cases h
    rfl

theorem lookup_set_self (r : Registry) (kind : HandlerKind) (key : String) (h : kind.Handler) :
    (r.set kind key h).lookup kind key = .ok h := by
  rw [lookup_eq, table_set_self, HandlerTable.lookup_replace_self]

theorem lookup_set_of_ne {key : String} {h : c.kind.Handler} (apart : ¬(kind = c.kind ∧ id = key)) :
    (r.set c.kind key h).lookup kind id = r.lookup kind id := by
  rw [lookup_eq, lookup_eq]
  by_cases same : kind = c.kind
  · subst same
    rw [table_set_self, HandlerTable.lookup_replace_of_ne fun own => apart ⟨rfl, own⟩]
  · rw [table_set_of_ne same]

theorem lookup_empty (kind : HandlerKind) (id : String) :
    ({} : Registry).lookup kind id = .error (.unknown kind id) := by
  cases kind <;> rfl

/-- Of a kind a lookup finds a handler, or says that it is unknown. -/
theorem lookup_cases (r : Registry) (kind : HandlerKind) (id : String) :
    (∃ h, r.lookup kind id = .ok h) ∨ r.lookup kind id = .error (.unknown kind id) := by
  rw [lookup_eq]
  cases found : (r.table kind).lookup kind id with
  | ok h => exact .inl ⟨h, rfl⟩
  | error e =>
    obtain ⟨rfl, -⟩ := HandlerTable.lookup_eq_error.1 found
    exact .inr rfl

/-! ### Many calls -/

/-- The last of some calls that gives a handler to a key of a kind. -/
def LastUnder (calls : List Call) (kind : HandlerKind) (key : String) (h : kind.Handler) : Prop :=
  ∃ earlier id replaces later,
    calls = earlier ++ ⟨kind, id, h, replaces⟩ :: later ∧
    Call.key ⟨kind, id, h, replaces⟩ = key ∧ ∀ c ∈ later, ¬(c.kind = kind ∧ c.key = key)

section
variable {calls : List Call} {key : String} {h : kind.Handler}

/-- Where some calls and a last one are cut: at the last one, or before it. -/
theorem cut_concat {earlier later : List Call} {other : Call}
    (whole : calls ++ [c] = earlier ++ other :: later) :
    later = [] ∧ c = other ∨ ∃ more, later = more ++ [c] ∧ calls = earlier ++ other :: more := by
  rcases List.eq_nil_or_concat' later with rfl | ⟨more, last, rfl⟩
  · obtain ⟨-, same⟩ := List.append_inj' whole rfl
    exact .inl ⟨rfl, List.singleton_inj.1 same⟩
  · rw [← List.cons_append, ← List.append_assoc] at whole
    obtain ⟨before, same⟩ := List.append_inj' whole rfl
    exact .inr ⟨more, by rw [same], before⟩

theorem lastUnder_concat_self {h : c.kind.Handler} :
    LastUnder (calls ++ [c]) c.kind c.key h ↔ h = c.handler := by
  constructor
  · rintro ⟨earlier, id, replaces, later, whole, -, last⟩
    rcases cut_concat whole with ⟨-, same⟩ | ⟨more, rfl, -⟩
    · cases c
      cases same
      rfl
    · exact absurd ⟨rfl, rfl⟩ (last c (by simp))
  · rintro rfl
    exact ⟨calls, c.id, c.replaces, [], rfl, rfl, nofun⟩

theorem lastUnder_concat_of_ne (apart : ¬(c.kind = kind ∧ c.key = key)) :
    LastUnder (calls ++ [c]) kind key h ↔ LastUnder calls kind key h := by
  constructor
  · rintro ⟨earlier, id, replaces, later, whole, own, last⟩
    rcases cut_concat whole with ⟨-, rfl⟩ | ⟨more, rfl, rfl⟩
    · exact absurd ⟨rfl, own⟩ apart
    · exact ⟨earlier, id, replaces, more, rfl, own, fun x mem => last x (by simp [mem])⟩
  · rintro ⟨earlier, id, replaces, later, rfl, own, last⟩
    refine ⟨earlier, id, replaces, later ++ [c], by simp, own, fun x mem => ?_⟩
    rcases List.mem_append.1 mem with mem | mem
    · exact last x mem
    · cases List.mem_singleton.1 mem
      exact apart

/-- Handlers that are put one after the other: under a key of a kind the last one is found, or what
stood there before. -/
theorem lookup_foldl_set (calls : List Call) (r : Registry) :
    (calls.foldl (fun r c => r.set c.kind c.key c.handler) r).lookup kind key = .ok h ↔
      LastUnder calls kind key h ∨
        (∀ c ∈ calls, ¬(c.kind = kind ∧ c.key = key)) ∧ r.lookup kind key = .ok h := by
  induction calls using List.reverseRecOn with
  | nil => simp [LastUnder]
  | append_singleton calls c ih =>
    rw [List.foldl_append, List.foldl_cons, List.foldl_nil]
    by_cases own : c.kind = kind ∧ c.key = key
    · obtain ⟨rfl, rfl⟩ := own
      rw [lookup_set_self, lastUnder_concat_self]
      simp [eq_comm]
    · rw [lookup_set_of_ne fun same => own ⟨same.1.symm, same.2.symm⟩, ih,
        lastUnder_concat_of_ne own]
      simp only [List.mem_append, List.mem_singleton, or_imp, forall_and, forall_eq, own,
        not_false_eq_true, and_true]

/-- Under a key there is a last handler if there is one at all. -/
theorem exists_lastUnder_iff :
    (∃ h, LastUnder calls kind key h) ↔ ∃ c ∈ calls, c.kind = kind ∧ c.key = key := by
  induction calls using List.reverseRecOn with
  | nil => simp [LastUnder]
  | append_singleton calls c ih =>
    by_cases own : c.kind = kind ∧ c.key = key
    · obtain ⟨rfl, rfl⟩ := own
      exact iff_of_true ⟨c.handler, lastUnder_concat_self.2 rfl⟩ ⟨c, by simp⟩
    · simp only [lastUnder_concat_of_ne own, ih, List.mem_append, List.mem_singleton, or_and_right,
        exists_or, exists_eq_left, own, or_false]

end

/-- All that some calls leave comes of those that were accepted. -/
theorem after_eq (calls : List Call) (r : Registry) :
    r.after calls = (r.accepted calls).foldl (fun r c => r.set c.kind c.key c.handler) r := by
  induction calls generalizing r with
  | nil => rfl
  | cons c rest ih =>
    rw [after, List.foldl_cons, ← after, ih, next, accepted]
    cases performed : r.perform c with
    | ok changed => rw [eq_set_of_perform performed, List.foldl_cons]
    | error e => rfl

/-- Beginning with nothing, an id leads to the last handler that was accepted under it. -/
theorem lookup_after_empty {calls : List Call} {h : kind.Handler} :
    (({} : Registry).after calls).lookup kind id = .ok h ↔
      LastUnder (({} : Registry).accepted calls) kind id h := by
  rw [after_eq, lookup_foldl_set, lookup_empty]
  simp

theorem unknown_after_empty {calls : List Call} {e : RegistryError} :
    (({} : Registry).after calls).lookup kind id = .error e ↔ e = .unknown kind id ∧
      ∀ c ∈ ({} : Registry).accepted calls, ¬(c.kind = kind ∧ c.key = id) := by
  rcases lookup_cases (({} : Registry).after calls) kind id with ⟨h, found⟩ | unknown
  · have given := exists_lastUnder_iff.1 ⟨h, lookup_after_empty.1 found⟩
    rw [found]
    refine ⟨nofun, fun ⟨_, missing⟩ => ?_⟩
    obtain ⟨c, mem, own⟩ := given
    exact absurd own (missing c mem)
  · rw [unknown]
    constructor
    · rintro ⟨⟩
      refine ⟨rfl, fun c mem own => ?_⟩
      obtain ⟨h, last⟩ := exists_lastUnder_iff.2 ⟨c, mem, own⟩
      rw [lookup_after_empty.2 last] at unknown
      cases unknown
    · rintro ⟨rfl, -⟩
      rfl

/-! ### Kinds apart -/

theorem table_next_of_ne (apart : kind ≠ c.kind) (r : Registry) :
    (r.next c).table kind = r.table kind := by
  unfold next
  rcases r.perform_cases c with ⟨e, -, refused⟩ | ⟨-, put⟩
  · rw [refused]
  · rw [put]
    exact table_set_of_ne apart ..

/-- What a call leaves of its kind depends on its kind only. -/
theorem table_next_congr {r s : Registry} (same : r.table c.kind = s.table c.kind) :
    (r.next c).table c.kind = (s.next c).table c.kind := by
  have alike (e) : c.Refused r e ↔ c.Refused s e := by
    constructor <;> rintro ⟨registers, refusal⟩ <;> refine ⟨registers, ?_⟩
    · rwa [← same]
    · rwa [same]
  unfold next
  rcases r.perform_cases c with ⟨e, refused, performed⟩ | ⟨free, performed⟩
  · rw [performed, perform_eq_error.2 ((alike e).1 refused)]
    exact same
  · rcases s.perform_cases c with ⟨e, refused, -⟩ | ⟨-, performed'⟩
    · exact absurd ((alike e).2 refused) (free e)
    · rw [performed, performed']
      dsimp only
      rw [table_set_self, table_set_self, same]

theorem table_after_own (calls : List Call) {r s : Registry} (same : r.table kind = s.table kind) :
    (r.after calls).table kind =
      (s.after (calls.filter fun c => c.kind = kind)).table kind := by
  induction calls generalizing r s with
  | nil => exact same
  | cons c rest ih =>
    by_cases own : c.kind = kind
    · subst own
      rw [List.filter_cons_of_pos (by simp)]
      exact ih (table_next_congr same)
    · rw [List.filter_cons_of_neg (by simpa using own)]
      exact ih ((table_next_of_ne (Ne.symm own) r).trans same)

/-- Whatever calls a registry has had, accepted or not: an id of a kind leads to the handler of the
last call that was accepted under it and is unknown if there was none, and the calls of other kinds
have no part in that. The next call is rejected only when it registers an id of which nothing is left
without the blanks around it or whose key leads to a handler already, and then nothing changes; else
its key leads to its handler, and every other key to what it led to before. -/
theorem last_accepted_handler_is_found (calls : List Call) :
    let r := ({} : Registry).after calls
    let accepted := ({} : Registry).accepted calls
    (∀ kind id, (∀ h, r.lookup kind id = .ok h ↔ LastUnder accepted kind id h) ∧
      (∀ e, r.lookup kind id = .error e ↔
        e = .unknown kind id ∧ ∀ c ∈ accepted, ¬(c.kind = kind ∧ c.key = id)) ∧
      r.lookup kind id =
        (({} : Registry).after (calls.filter fun c => c.kind = kind)).lookup kind id) ∧
    ∀ c, (∀ e, r.perform c = .error e ↔ c.Refused r e) ∧
      (∀ e, r.perform c = .error e → r.next c = r) ∧
      ∀ changed, r.perform c = .ok changed → r.next c = changed ∧
        changed.lookup c.kind c.key = .ok c.handler ∧
        (Text.trim c.id = c.id → changed.lookup c.kind c.id = .ok c.handler) ∧
        ∀ kind id, ¬(kind = c.kind ∧ id = c.key) → changed.lookup kind id = r.lookup kind id := by
  intro r accepted
  refine ⟨fun kind id => ⟨fun h => lookup_after_empty, fun e => unknown_after_empty, ?_⟩,
    fun c => ⟨fun e => perform_eq_error, fun e rejected => ?_, fun changed performed => ?_⟩⟩
  · rw [lookup_eq, lookup_eq, table_after_own calls rfl]
  · rw [next, rejected]
  · obtain rfl := eq_set_of_perform performed
    have own := lookup_set_self r c.kind c.key c.handler
    refine ⟨by rw [next, performed], own, fun trimmed => ?_, fun kind id => lookup_set_of_ne⟩
    have plain : c.key = c.id := by
      unfold Call.key
      split
      · rfl
      · exact trimmed
    exact (congrArg _ plain.symm).trans own

/-- A handler of actions that is registered under an id with blanks around it is not found under
that id. -/
theorem padded_action_is_not_found :
    ∃ r, ({} : Registry).perform ⟨.action, " echo ", ActionHandler.wait, false⟩ = .ok r ∧
      r.lookup .action " echo " = .error (.unknown .action " echo ") ∧
      r.lookup .action "echo" = .ok ActionHandler.wait :=
  ⟨_, rfl, rfl, rfl⟩

end Registry
end Playbook
