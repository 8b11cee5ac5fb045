import Mathlib.Data.List.Basic
import Mathlib.Data.List.Induction
import Mathlib.Data.List.Infix
import Playbook.Trace.Bus

/-!
What becomes of the events of a bus. A follower of one run gets events of the run in the order in
which they were published. Every event that was published since it follows was given to it, passed
over, counted as lost, or is still to be read; the count of the lost is brought up to date by each
call. Who never falls behind by more than the bus keeps misses nothing.
-/
namespace Playbook.Trace

/-- Whether an event is one of a run. -/
def Event.isOf (runId : String) (e : Event) : Bool := e.runId == runId

namespace Bus

variable {b : Bus} {all : List Event} {s : Subscription}

/-- The bus after some more events. -/
def publishAll (b : Bus) (events : List Event) : Bus := events.foldl publish b

/-- The bus has carried some events, and keeps the last of them. -/
structure Holds (b : Bus) (all : List Event) : Prop where
  published : b.published = all.length
  kept : b.kept = all.drop (all.length - b.capacity)

namespace Holds

theorem empty (size : Nat) : (ofSize size).Holds [] := ⟨rfl, by simp [ofSize]⟩

theorem publish (h : b.Holds all) (e : Event) : (b.publish e).Holds (all ++ [e]) where
  published := by simp [Bus.publish, h.published]
  kept := by
    have whole : all.drop (all.length - b.capacity) ++ [e] =
        (all ++ [e]).drop (all.length - b.capacity) :=
      (List.drop_append_of_le_length (Nat.sub_le ..)).symm
    unfold Bus.publish
    simp only [h.kept, whole, List.drop_drop, List.length_drop, List.length_append,
      List.length_singleton]
    congr 1
    omega

theorem publishAll (h : b.Holds all) (events : List Event) :
    (b.publishAll events).Holds (all ++ events) := by
  induction events generalizing b all with
  | nil => simpa [Bus.publishAll] using h
  | cons e rest ih => simpa [Bus.publishAll] using ih (h.publish e)

theorem oldest_eq (h : b.Holds all) : b.oldest = all.length - b.capacity := by
  rw [oldest, h.published, h.kept, List.length_drop]
  omega

/-- What is unread is what was published behind the subscription, without what is no longer kept. -/
theorem unread_eq (h : b.Holds all) (s : Subscription) :
    b.unread s = all.drop (max s.position b.oldest) := by
  rw [unread, h.kept, ← h.oldest_eq, List.drop_drop]
  congr 1
  omega

end Holds

/-- The search for the next event of a run reads events up to it, or all. -/
theorem nextOf_spec (runId : String) (position : Nat) (events : List Event) :
    ∃ read rest, events = read ++ rest ∧
      (nextOf runId position events).2 = position + read.length ∧
      read.filter (Event.isOf runId) = (nextOf runId position events).1.toList ∧
      ((nextOf runId position events).1 = none → rest = []) := by
  induction events generalizing position with
  | nil => exact ⟨[], [], rfl, rfl, rfl, fun _ => rfl⟩
  | cons e events ih =>
    by_cases own : e.runId = runId
    · refine ⟨[e], events, rfl, ?_, ?_, ?_⟩ <;> simp [nextOf, own, Event.isOf]
    · obtain ⟨read, rest, rfl, stands, found, whole⟩ := ih (position + 1)
      refine ⟨e :: read, rest, rfl, ?_, ?_, ?_⟩
      · simp only [nextOf, if_neg own, stands, List.length_cons]
        omega
      · simpa [nextOf, own, Event.isOf] using found
      · simpa [nextOf, own] using whole

/-- The subscription that goes on from the oldest event that is kept, where it was overtaken. -/
theorem unread_catchUp (h : b.Holds all) (s : Subscription) :
    b.unread (b.catchUp s) = all.drop (max s.position b.oldest) := by
  rw [h.unread_eq, catchUp]
  simp

/-- A call goes on where the subscription stands, or from the oldest event that is kept; it counts what
lies in between as lost, and reads events up to the one that it returns, or all. -/
theorem receive_spec (h : b.Holds all) (s : Subscription) :
    ∃ read rest, all.drop (max s.position b.oldest) = read ++ rest ∧
      (b.receive s).2 = { s with
        position := max s.position b.oldest + read.length
        lagged := s.lagged + (b.oldest - s.position) } ∧
      read.filter (Event.isOf s.runId) = (b.receive s).1.toList ∧
      ((b.receive s).1 = none → rest = []) := by
  obtain ⟨read, rest, split, stands, found, whole⟩ :=
    nextOf_spec s.runId (max s.position b.oldest) (b.unread (b.catchUp s))
  refine ⟨read, rest, unread_catchUp h s ▸ split, ?_, found, whole⟩
  unfold receive
  simp only [catchUp] at *
  rw [stands]

theorem drain_spec (h : b.Holds all) (s : Subscription) :
    b.drain s = ((all.drop (max s.position b.oldest)).filter (Event.isOf s.runId),
      { s with
        position := max s.position b.oldest + (all.drop (max s.position b.oldest)).length
        lagged := s.lagged + (b.oldest - s.position) }) := by
  unfold drain
  simp only [unread_catchUp h]
  rfl

/-- All events that are there are those that call after call returns. -/
theorem drain_eq (h : b.Holds all) (s : Subscription) :
    b.drain s = match b.receive s with
      | (none, next) => ([], next)
      | (some e, next) => (e :: (b.drain next).1, (b.drain next).2) := by
  obtain ⟨read, rest, split, stands, found, whole⟩ := receive_spec h s
  rw [drain_spec h s, split, List.filter_append, found, List.length_append]
  generalize b.receive s = call at stands whole
  obtain ⟨answer, next⟩ := call
  subst stands
  have behind : all.drop (max s.position b.oldest + read.length) = rest := by
    rw [← List.drop_drop, split, List.drop_left]
  have level : max (max s.position b.oldest + read.length) b.oldest =
      max s.position b.oldest + read.length := by omega
  have even : b.oldest - (max s.position b.oldest + read.length) = 0 := by omega
  cases answer with
  | none =>
    obtain rfl := whole rfl
    simp
  | some e =>
    simp only [drain_spec h, level, even, behind]
    simp [Nat.add_assoc]

theorem capacity_publishAll (b : Bus) (events : List Event) :
    (b.publishAll events).capacity = b.capacity := by
  induction events generalizing b with
  | nil => rfl
  | cons e rest ih => exact ih (b.publish e)

end Bus

/-! ### Followers -/

/-- A bus and one that follows a run on it, with the events that came of its calls. -/
structure Follower where
  bus : Bus
  subscription : Subscription
  /-- the events that were returned -/
  returned : List Event := []
  /-- the events of other runs that were read -/
  passed : List Event := []

/-- What happens next: an event of some run is published, or the follower calls. -/
inductive Turn where
  | publish (e : Event)
  | receive

/-- The events that are published in some turns. -/
def published (turns : List Turn) : List Event :=
  turns.filterMap fun
    | .publish e => some e
    | .receive => none

namespace Follower

/-- One that follows a run from now on. -/
def follow (bus : Bus) (runId : String) : Follower := { bus, subscription := bus.subscribe runId }

/-- The follower after a call. It has read the events between where it stood, or had to go on, and
where it stands now. -/
def receive (f : Follower) : Follower :=
  let before := f.bus.catchUp f.subscription
  let (e, after) := f.bus.receive f.subscription
  let read := (f.bus.unread before).take (after.position - before.position)
  { f with
    subscription := after
    returned := f.returned ++ e.toList
    passed := f.passed ++ read.filter fun e => !e.isOf after.runId }

def turn (f : Follower) : Turn → Follower
  | .publish e => { f with bus := f.bus.publish e }
  | .receive => f.receive

def after (f : Follower) (turns : List Turn) : Follower := turns.foldl turn f

/-- The events that are still there to be read. -/
def buffered (f : Follower) : List Event := f.bus.unread f.subscription

/-- The number of events that went before they were read since the last call: the next call will count
them as lost. -/
def overtaken (f : Follower) : Nat := f.bus.oldest - f.subscription.position

/-- How many events the follower is behind, as the bus counts them: those that are still there to be
read and those that it was overtaken by. -/
def behind (f : Follower) : Nat := f.bus.published - f.subscription.position

variable {f : Follower} {past since : List Event} {runId : String} {turns : List Turn}

theorem after_concat (f : Follower) (turns : List Turn) (t : Turn) :
    f.after (turns ++ [t]) = (f.after turns).turn t := by
  simp [after]

/-- What a call gives the follower, and what it passes over. -/
theorem receive_eq {all : List Event} (h : f.bus.Holds all) : ∃ read rest,
    all.drop (max f.subscription.position f.bus.oldest) = read ++ rest ∧
    f.receive = {
      bus := f.bus
      subscription := { f.subscription with
        position := max f.subscription.position f.bus.oldest + read.length
        lagged := f.subscription.lagged + (f.bus.oldest - f.subscription.position) }
      returned := f.returned ++ read.filter (Event.isOf f.subscription.runId)
      passed := f.passed ++ read.filter fun e => !e.isOf f.subscription.runId } := by
  obtain ⟨read, rest, split, stands, found, -⟩ := Bus.receive_spec h f.subscription
  refine ⟨read, rest, split, ?_⟩
  have consumed : (f.bus.unread (f.bus.catchUp f.subscription)).take
      (max f.subscription.position f.bus.oldest + read.length -
        (f.bus.catchUp f.subscription).position) = read := by
    rw [Bus.unread_catchUp h, split]
    simp [Bus.catchUp]
  unfold receive
  simp only [stands, consumed, found]

/-- To read all events that are there is to call until a call returns nothing. -/
theorem exists_calls_of_drain {all : List Event} (h : f.bus.Holds all) : ∃ calls,
    (f.after (List.replicate calls .receive)).subscription = (f.bus.drain f.subscription).2 ∧
    (f.after (List.replicate calls .receive)).returned =
      f.returned ++ (f.bus.drain f.subscription).1 := by
  generalize drained : (f.bus.drain f.subscription).1 = events
  induction events generalizing f with
  | nil =>
    have drain := Bus.drain_eq h f.subscription
    refine ⟨1, ?_⟩
    change (f.bus.receive f.subscription).2 = _ ∧
      f.returned ++ (f.bus.receive f.subscription).1.toList = f.returned ++ []
    split at drain
    · next next called => simp [called, drain]
    · simp [drain] at drained
  | cons e rest ih =>
    have drain := Bus.drain_eq h f.subscription
    split at drain
    · simp [drain] at drained
    · next x next called =>
      rw [drain, List.cons.injEq] at drained
      obtain ⟨rfl, drained⟩ := drained
      have stands : f.receive.subscription = next := congrArg Prod.snd called
      have given : f.receive.returned = f.returned ++ [x] := by
        change f.returned ++ (f.bus.receive f.subscription).1.toList = _
        rw [called, Option.toList_some]
      -- the drain goes on from where the first call has come to
      have onward := ih (show f.receive.bus.Holds all from h)
      rw [stands] at onward
      obtain ⟨calls, reached, returned⟩ := onward drained
      refine ⟨calls + 1, ?_, ?_⟩
      · rw [drain, List.replicate_succ]
        exact reached
      · rw [given, List.append_assoc] at returned
        rw [List.replicate_succ]
        exact returned

/-- Where a follower stands that follows a run since some events: what it was given and what it passed
over are among the events up to there, and with the lost ones make them up. If none is lost it was
given all that are of the run. -/
structure Accounts (f : Follower) (past since : List Event) (runId : String) : Prop where
  holds : f.bus.Holds (past ++ since)
  follows : f.subscription.runId = runId
  lower : past.length ≤ f.subscription.position
  upper : f.subscription.position ≤ past.length + since.length
  returned : f.returned.Sublist
    ((since.take (f.subscription.position - past.length)).filter (Event.isOf runId))
  passed : f.passed.Sublist
    ((since.take (f.subscription.position - past.length)).filter fun e => !e.isOf runId)
  balance : f.returned.length + f.passed.length + f.subscription.lagged =
    f.subscription.position - past.length
  whole : f.subscription.lagged = 0 → f.returned =
    (since.take (f.subscription.position - past.length)).filter (Event.isOf runId)

namespace Accounts

theorem follow {b : Bus} (h : b.Holds past) (runId : String) :
    (Follower.follow b runId).Accounts past [] runId := by
  have stands : (Follower.follow b runId).subscription.position = past.length := h.published
  constructor
  case holds =>
    rw [List.append_nil]
    exact h
  case follows =>
    rfl
  case lower =>
    exact Nat.le_of_eq stands.symm
  case upper =>
    simp [stands]
  case returned =>
    simp [Follower.follow]
  case passed =>
    simp [Follower.follow]
  case balance =>
    rw [stands]
    simp [Follower.follow, Bus.subscribe]
  case whole =>
    simp [Follower.follow]

theorem publish (h : f.Accounts past since runId) (e : Event) :
    ({ f with bus := f.bus.publish e } : Follower).Accounts past (since ++ [e]) runId := by
  have same : (since ++ [e]).take (f.subscription.position - past.length) =
      since.take (f.subscription.position - past.length) := by
    have upper := h.upper
    exact List.take_append_of_le_length (by omega)
  constructor
  case holds =>
    rw [← List.append_assoc]
    exact h.holds.publish e
  case follows =>
    exact h.follows
  case lower =>
    exact h.lower
  case upper =>
    have upper := h.upper
    simp only [List.length_append, List.length_singleton]
    omega
  case returned =>
    exact same ▸ h.returned
  case passed =>
    exact same ▸ h.passed
  case balance =>
    exact h.balance
  case whole =>
    exact same ▸ h.whole

/-- Up to where a call reads there are the events up to where the follower stood, those that are lost,
and those that it reads. -/
theorem take_read (h : f.Accounts past since runId) {read rest : List Event}
    (split : (past ++ since).drop (max f.subscription.position f.bus.oldest) = read ++ rest) :
    since.take (max f.subscription.position f.bus.oldest + read.length - past.length) =
      since.take (f.subscription.position - past.length) ++
        ((since.drop (f.subscription.position - past.length)).take
          (f.bus.oldest - f.subscription.position) ++ read) := by
  have lower := h.lower
  have before : max f.subscription.position f.bus.oldest - past.length =
      f.subscription.position - past.length + (f.bus.oldest - f.subscription.position) := by omega
  have sum : max f.subscription.position f.bus.oldest + read.length - past.length =
      f.subscription.position - past.length + (f.bus.oldest - f.subscription.position +
        read.length) := by omega
  rw [List.drop_append, List.drop_eq_nil_of_le (by omega), List.nil_append, before] at split
  rw [sum, List.take_add, List.take_add, List.drop_drop, split, List.take_left]

theorem receive (h : f.Accounts past since runId) : f.receive.Accounts past since runId := by
  obtain ⟨read, rest, split, call⟩ := receive_eq h.holds
  have taken := h.take_read split
  have lower := h.lower
  have upper := h.upper
  have oldest := h.holds.oldest_eq
  have length := congrArg List.length split
  have parts := List.length_eq_length_filter_add (Event.isOf runId) (l := read)
  simp only [List.length_drop, List.length_append] at length oldest
  rw [call, h.follows]
  constructor
  case holds =>
    exact h.holds
  case follows =>
    exact h.follows
  case lower =>
    simp only
    omega
  case upper =>
    simp only
    omega
  case returned =>
    simp only [taken, List.filter_append]
    exact h.returned.append (List.sublist_append_right ..)
  case passed =>
    simp only [taken, List.filter_append]
    exact h.passed.append (List.sublist_append_right ..)
  case balance =>
    have balance := h.balance
    simp only [List.length_append]
    omega
  case whole =>
    simp only [taken, List.filter_append]
    intro none
    -- nothing is counted as lost only where nothing lies between the old place and the oldest event
    have level : f.bus.oldest - f.subscription.position = 0 := by omega
    rw [h.whole (by omega), level]
    simp

/-- What one turn preserves. -/
theorem turn (h : f.Accounts past since runId) (t : Turn) :
    (f.turn t).Accounts past (since ++ published [t]) runId := by
  cases t with
  | publish e => exact h.publish e
  | receive =>
    rw [show published [.receive] = [] from rfl, List.append_nil]
    exact h.receive

theorem after (h : f.Accounts past since runId) (turns : List Turn) :
    (f.after turns).Accounts past (since ++ published turns) runId := by
  induction turns generalizing f since with
  | nil => simpa [published, Follower.after] using h
  | cons t rest ih =>
    have whole : published (t :: rest) = published [t] ++ published rest :=
      List.filterMap_append (l := [t])
    rw [whole, ← List.append_assoc]
    exact ih (h.turn t)

/-- What is still there to be read was published behind where the follower stands or must go on. -/
theorem buffered_eq (h : f.Accounts past since runId) : f.buffered =
    since.drop (f.subscription.position - past.length + f.overtaken) := by
  have lower := h.lower
  unfold buffered overtaken
  rw [h.holds.unread_eq, List.drop_append, List.drop_eq_nil_of_le (by omega), List.nil_append]
  congr 1
  omega

/-- Every event was given to the follower, passed over or lost, or the follower is behind by it. -/
theorem adds_up (h : f.Accounts past since runId) : f.returned.length + f.passed.length +
    f.subscription.lagged + f.behind = since.length := by
  have balance := h.balance
  have lower := h.lower
  have upper := h.upper
  have published := h.holds.published
  rw [List.length_append] at published
  unfold behind
  omega

/-- What the follower is behind by is still there to be read, or it was overtaken by it. -/
theorem behind_eq (h : f.Accounts past since runId) :
    f.behind = f.overtaken + f.buffered.length := by
  have lower := h.lower
  have upper := h.upper
  have published := h.holds.published
  have oldest := h.holds.oldest_eq
  rw [List.length_append] at published oldest
  rw [h.buffered_eq, List.length_drop]
  unfold behind overtaken
  omega

/-- If nothing is lost the follower was given, and can still read, all events of its run. -/
theorem all_of_unlost (h : f.Accounts past since runId) (none : f.subscription.lagged = 0)
    (level : f.overtaken = 0) : f.returned ++ f.buffered.filter (Event.isOf runId) =
      since.filter (Event.isOf runId) := by
  rw [h.buffered_eq, level, Nat.add_zero, h.whole none, ← List.filter_append, List.take_append_drop]

/-- A call that returns nothing leaves nothing of the run to be read. -/
theorem nothing_of_none (h : f.Accounts past since runId)
    (nothing : (f.bus.receive f.subscription).1 = none) :
    f.buffered.filter (Event.isOf runId) = [] := by
  obtain ⟨read, rest, split, -, found, whole⟩ := Bus.receive_spec h.holds f.subscription
  unfold buffered
  rw [h.holds.unread_eq, split, whole nothing, List.append_nil, ← h.follows, found, nothing,
    Option.toList_none]

theorem overtaken_eq (h : f.Accounts past since runId) :
    f.overtaken = f.behind - f.bus.capacity := by
  unfold overtaken behind
  rw [h.holds.oldest_eq, h.holds.published]
  omega

/-- A call catches up. -/
theorem overtaken_receive (h : f.Accounts past since runId) : f.receive.overtaken = 0 := by
  obtain ⟨read, rest, -, call⟩ := receive_eq h.holds
  unfold overtaken
  rw [call]
  simp only
  omega

end Accounts

theorem capacity_turn (f : Follower) (t : Turn) : (f.turn t).bus.capacity = f.bus.capacity := by
  cases t <;> rfl

theorem capacity_after (f : Follower) (turns : List Turn) :
    (f.after turns).bus.capacity = f.bus.capacity := by
  induction turns generalizing f with
  | nil => rfl
  | cons t rest ih => exact (ih (f.turn t)).trans (f.capacity_turn t)

/-- A turn counts no more events as lost than the follower is overtaken by. -/
theorem lagged_turn (f : Follower) (t : Turn) :
    (f.turn t).subscription.lagged ≤ f.subscription.lagged + f.overtaken := by
  cases t with
  | publish e => exact Nat.le_add_right ..
  | receive => exact Nat.le_refl _

/-- Who is never behind by more than the bus keeps loses nothing. -/
theorem lagged_after (h : f.Accounts past since runId) (none : f.subscription.lagged = 0)
    (turns : List Turn)
    (close : ∀ earlier, earlier <+: turns → (f.after earlier).behind ≤ f.bus.capacity) :
    (f.after turns).subscription.lagged = 0 := by
  induction turns using List.reverseRecOn with
  | nil => exact none
  | append_singleton turns t ih =>
    have unlost := ih fun earlier sub => close earlier (sub.trans (List.prefix_append ..))
    have level := (h.after turns).overtaken_eq
    rw [capacity_after] at level
    have near := close turns (List.prefix_append ..)
    have most := (f.after turns).lagged_turn t
    rw [after_concat]
    omega

/-- However publishing and calls take turns, a follower is given events of its run in the order in
which they were published, each once, and passes over events of other runs. What it was given, what it
passed over, what it counts as lost, what it was overtaken by since and what is still there to be read
are as many events as were published since it follows. What it was overtaken by it counts as lost at
its next call; that is nothing right after a call, and wherever the follower is not behind by more than
the bus keeps. If it never is, then nothing is lost: it was given, and can still read, all events of
its run, and where a call returns nothing it was given all. -/
theorem follower_accounts_for_all (size : Nat) (past : List Event) (runId : String)
    (turns : List Turn) :
    let capacity := (max size 1).nextPowerOfTwo
    let start := follow ((Bus.ofSize size).publishAll past) runId
    let f := start.after turns
    let own := (published turns).filter (Event.isOf runId)
    f.returned.Sublist own ∧
    f.passed.Sublist ((published turns).filter fun e => !e.isOf runId) ∧
    f.returned.length + f.passed.length + f.subscription.lagged + f.overtaken + f.buffered.length =
      (published turns).length ∧
    (f.behind = f.overtaken + f.buffered.length ∧
      f.receive.subscription.lagged = f.subscription.lagged + f.overtaken) ∧
    (turns.getLast? = some .receive ∨ f.behind ≤ capacity →
      f.returned.length + f.passed.length + f.subscription.lagged + f.buffered.length =
        (published turns).length) ∧
    ((∀ earlier, earlier <+: turns → (start.after earlier).behind ≤ capacity) →
      f.subscription.lagged = 0 ∧ f.returned ++ f.buffered.filter (Event.isOf runId) = own ∧
      ((f.bus.receive f.subscription).1 = none → f.returned = own)) := by
  intro capacity start f own
  have begins : start.Accounts past [] runId :=
    .follow ((Bus.Holds.empty size).publishAll past) runId
  have h : f.Accounts past (published turns) runId := begins.after turns
  have adds := h.adds_up
  have behind := h.behind_eq
  have keeps : start.bus.capacity = capacity := Bus.capacity_publishAll ..
  have still : f.bus.capacity = capacity := (start.capacity_after turns).trans keeps
  have level : f.behind ≤ capacity → f.overtaken = 0 := by
    intro near
    rw [h.overtaken_eq, still]
    omega
  refine ⟨?_, ?_, by omega, ⟨behind, rfl⟩, ?_, fun close => ?_⟩
  · exact h.returned.trans ((List.take_sublist ..).filter _)
  · exact h.passed.trans ((List.take_sublist ..).filter _)
  · rintro (called | near)
    · obtain ⟨earlier, rfl⟩ := List.getLast?_eq_some_iff.1 called
      have even : f.overtaken = 0 := by
        change (start.after (earlier ++ [.receive])).overtaken = 0
        rw [after_concat]
        exact (begins.after earlier).overtaken_receive
      omega
    · have even := level near
      omega
  · have unlost : f.subscription.lagged = 0 :=
      lagged_after begins rfl turns fun earlier sub => keeps ▸ close earlier sub
    have all := h.all_of_unlost unlost (level (close turns (List.prefix_refl turns)))
    refine ⟨unlost, all, fun nothing => ?_⟩
    rw [h.nothing_of_none nothing, List.append_nil] at all
    exact all

/-- A bell that is rung in a run. -/
def bell (runId : String) (sequence : Nat) : Event :=
  ⟨runId, sequence, default, none, none, .runCancelled⟩

/-- One that follows a run on a bus for two events, on which a bell has been rung before. -/
def listener : Follower := follow ((Bus.ofSize 2).publishAll [bell "house" 1]) "house"

/-- Five bells in a row, more than the bus keeps. -/
def fiveBells : List Turn :=
  [.publish (bell "house" 2), .publish (bell "shop" 1), .publish (bell "house" 3),
    .publish (bell "shop" 2), .publish (bell "house" 4)]

/-- What a follower was given, passed over, counts as lost and can still read need not be all that was
published: before its next call it counts nothing of what it was overtaken by. Of five bells two are
kept, and none of the others is counted. -/
theorem overtaken_bells_are_uncounted :
    let f := listener.after fiveBells
    f.returned.length + f.passed.length + f.subscription.lagged + f.buffered.length = 2 ∧
      (published fiveBells).length = 5 := by decide +kernel

/-- Who calls after every two bells hears all that are rung in its house; who calls after five has lost
three. -/
theorem bells_are_heard_in_time :
    let inTime : List Turn := [.publish (bell "shop" 1), .publish (bell "house" 2), .receive,
      .publish (bell "house" 3), .publish (bell "shop" 2), .receive]
    let late : List Turn := fiveBells ++ [.receive]
    (∀ earlier, earlier <+: inTime →
      (listener.after earlier).behind ≤ (max 2 1).nextPowerOfTwo) ∧
    (listener.after inTime).returned ++
        (listener.after inTime).buffered.filter (Event.isOf "house") =
      [bell "house" 2, bell "house" 3] ∧
    (listener.after late).subscription.lagged = 3 ∧
    (listener.after late).returned.Sublist [bell "house" 2, bell "house" 3, bell "house" 4] ∧
    (listener.after late).returned.length + (listener.after late).passed.length + 3 +
      (listener.after late).buffered.length = 5 := by
  intro inTime late
  have close : ∀ earlier, earlier <+: inTime →
      (listener.after earlier).behind ≤ (max 2 1).nextPowerOfTwo := by
    intro earlier sub
    have all : ∀ x ∈ inTime.inits,
        (listener.after x).behind ≤ (max 2 1).nextPowerOfTwo := by decide +kernel
    exact all earlier ((List.mem_inits ..).2 sub)
  obtain ⟨-, -, -, -, -, unlost⟩ := follower_accounts_for_all 2 [bell "house" 1] "house" inTime
  obtain ⟨-, heard, -⟩ := unlost close
  obtain ⟨given, -, -, -, adds, -⟩ := follower_accounts_for_all 2 [bell "house" 1] "house" late
  have lost : (listener.after late).subscription.lagged = 3 := by decide +kernel
  exact ⟨close, heard, lost, given, lost ▸ adds (.inl rfl)⟩

end Follower
end Playbook.Trace
