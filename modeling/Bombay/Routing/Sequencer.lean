/-
# The sequencer

`crates/actors/src/routing/sequencer.rs`: delivery in the order of explicit positions.
An offer beyond a gap is kept, and an offer at the expected position releases the
contiguous run that begins there.

A target or reply route is a value, and what it delivers is the list of routes with
their messages.  A position is a `u64`; the last one has no successor, and delivering
it leaves the sequencer exhausted.
-/

import Bombay.Lib.Machine
import Bombay.Lib.OrderedMap
import Mathlib.Order.Fin.Basic

namespace Bombay.Routing

variable {T Target Reply : Type}

/-- `Sequence`: a position in the stream. -/
abbrev Position := Fin (2 ^ 64)

/-- `SequencerState`. -/
inductive SequencerState where
  | active (expected : Position) (buffered : ℕ)
  | exhausted
  deriving DecidableEq

/-- `SequencerOutcome`. -/
inductive SequencerOutcome (T : Type) where
  | accepted (released buffered : ℕ)
  | stale (sequence : Position) (value : T) (expected : Position)
  | duplicate (value : T) (sequence : Position)
  | exhausted (sequence : Position) (value : T)
  deriving DecidableEq

namespace SequencerOutcome

/-- The offer was accepted. -/
def isAccepted : SequencerOutcome T → Bool
  | accepted .. => true
  | _ => false

/-- The position and the value that a rejection returns. -/
def returned : SequencerOutcome T → Option (Position × T)
  | accepted .. => none
  | stale sequence value _ => some (sequence, value)
  | duplicate value sequence => some (sequence, value)
  | exhausted sequence value => some (sequence, value)

end SequencerOutcome

/-- `Pending`; the route `to` is `target`. -/
structure Pending (T Target : Type) where
  value : T
  target : Target
  deriving DecidableEq

/-- `SequencerMessage::Offer`; the route `to` is `target`. -/
structure Offer (T Target Reply : Type) where
  sequence : Position
  value : T
  target : Target
  replyTo : Reply
  deriving DecidableEq

/-- What is kept of an accepted offer. -/
def Offer.pending (offer : Offer T Target Reply) : Pending T Target := ⟨offer.value, offer.target⟩

/-- `DeliveryOutcomes`: every transition continues and creates nothing. -/
structure DeliveryOutcomes (T Target Reply : Type) where
  deliveries : List (Target × T) := []
  outcomes : List (Reply × SequencerOutcome T) := []
  deriving DecidableEq

/-- `Sequencer`. -/
structure Sequencer (T Target : Type) where
  expected : Option Position
  pending : OrderedMap Position (Pending T Target)

/-- `pending.to.deliver(pending.value)`. -/
def Pending.deliver (pending : Pending T Target) : Target × T := (pending.target, pending.value)

namespace Sequencer

/-- `Sequencer::new`. -/
def new (first : Position) : Sequencer T Target := ⟨some first, .empty⟩

/-- `Sequencer::state`. -/
def state (self : Sequencer T Target) : SequencerState :=
  match self.expected with
  | some expected => .active expected self.pending.length
  | none => .exhausted

/-- The loop of `transition`: release what waits at the cursor, and go on behind it. -/
def release (self : Sequencer T Target) (cursor : Position) (deliveries : List (Target × T))
    (released : ℕ) : Sequencer T Target × List (Target × T) × ℕ :=
  match self.pending.get? cursor with
  | none => (self, deliveries, released)
  | some pending =>
    let deliveries := deliveries ++ [pending.deliver]
    let rest := self.pending.erase cursor
    if h : cursor.val + 1 < 2 ^ 64 then
      release ⟨some ⟨cursor.val + 1, h⟩, rest⟩ ⟨cursor.val + 1, h⟩ deliveries (released + 1)
    else (⟨none, rest⟩, deliveries, released + 1)
termination_by 2 ^ 64 - cursor.val

/-- `Sequencer::transition`. -/
def transition (self : Sequencer T Target) (offer : Offer T Target Reply) :
    Sequencer T Target × DeliveryOutcomes T Target Reply :=
  match self.expected with
  | none => (self, { outcomes := [(offer.replyTo, .exhausted offer.sequence offer.value)] })
  | some expected =>
    if offer.sequence < expected then
      (self, { outcomes := [(offer.replyTo, .stale offer.sequence offer.value expected)] })
    else if (self.pending.get? offer.sequence).isSome then
      (self, { outcomes := [(offer.replyTo, .duplicate offer.value offer.sequence)] })
    else
      let held := { self with pending := self.pending.insert offer.sequence offer.pending }
      let (next, deliveries, released) := held.release expected [] 0
      (next, ⟨deliveries, [(offer.replyTo, .accepted released next.pending.length)]⟩)

end Sequencer

/-- A turn of a sequencer. -/
abbrev SequencerTurn (T Target Reply : Type) :=
  Turn (Sequencer T Target) (Offer T Target Reply) (DeliveryOutcomes T Target Reply)

/-- The turns of a run from the first position. -/
def Sequencer.turns (first : Position) (offers : List (Offer T Target Reply)) :
    List (SequencerTurn T Target Reply) :=
  Machine.turns transition (new first) offers

/-- The sequencer after a run from the first position. -/
def Sequencer.run (first : Position) (offers : List (Offer T Target Reply)) : Sequencer T Target :=
  Machine.reached transition (new first) offers

end Bombay.Routing
