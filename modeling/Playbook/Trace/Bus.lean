import Playbook.Trace.Event

/-!
The bus on which events are followed while they happen. It keeps the last events of all runs, as
many as its capacity; whoever follows a run reads on from where it stands, and counts what went by
unread when it fell behind.
-/
namespace Playbook.Trace

structure Bus where
  capacity : Nat
  /-- the number of events that were ever published -/
  published : Nat := 0
  /-- the last events, oldest first -/
  kept : List Event := []

namespace Bus

/-- A bus for at least one event; its capacity is the next power of two. -/
def ofSize (size : Nat) : Bus := { capacity := (max size 1).nextPowerOfTwo }

def publish (b : Bus) (e : Event) : Bus :=
  let kept := b.kept ++ [e]
  { b with published := b.published + 1, kept := kept.drop (kept.length - b.capacity) }

/-- The position of the oldest event that is kept. -/
def oldest (b : Bus) : Nat := b.published - b.kept.length

end Bus

/-- Where a reader of one run's events stands. -/
structure Subscription where
  runId : String
  position : Nat
  /-- the number of events that went by unread -/
  lagged : Nat := 0
  deriving DecidableEq, Repr

namespace Bus

def subscribe (b : Bus) (runId : String) : Subscription := ⟨runId, b.published, 0⟩

/-- The events that a subscription has not read yet, those of its run and others. -/
def unread (b : Bus) (s : Subscription) : List Event := b.kept.drop (s.position - b.oldest)

/-- Moves a subscription that was overtaken to the oldest event that is kept. -/
def catchUp (b : Bus) (s : Subscription) : Subscription :=
  { s with
    position := max s.position b.oldest
    lagged := s.lagged + (b.oldest - s.position) }

/-- The next event of the run and the position behind it, among events from a position on. -/
def nextOf (runId : String) (position : Nat) : List Event → Option Event × Nat
  | [] => (none, position)
  | e :: rest => if e.runId = runId then (some e, position + 1) else nextOf runId (position + 1) rest

/-- The next event of the run that is there, without waiting. -/
def receive (b : Bus) (s : Subscription) : Option Event × Subscription :=
  let s := b.catchUp s
  let (e, position) := nextOf s.runId s.position (b.unread s)
  (e, { s with position })

/-- All events of the run that are there. -/
def drain (b : Bus) (s : Subscription) : List Event × Subscription :=
  let s := b.catchUp s
  ((b.unread s).filter fun e => e.runId == s.runId,
    { s with position := s.position + (b.unread s).length })

end Bus
end Playbook.Trace
