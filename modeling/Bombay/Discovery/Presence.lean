/-
# Presence

`crates/actors/src/discovery/presence.rs`: versioned evidence that a participant is
present, each with a lifetime, and a tombstone once the lifetime has elapsed.

Participants are values of `K` compared by `==`, which need not be equality; a reply
route is a value of `Route`.  Timer ids come from a mapping that is given, so several
participants may share one; generations are `u64` and drawn one above every generation
that a record with the same timer id has.
-/

import Bombay.Lib.Machine
import Bombay.Lib.Search
import Bombay.Runtime

namespace Bombay.Discovery

variable {K Route : Type}

/-- `PresencePhase`. -/
inductive PresencePhase where
  | present (version generation lifetime : ℕ)
  | expired (version generation : ℕ)
  deriving DecidableEq, Repr

namespace PresencePhase

/-- The latest evidence version. -/
def version : PresencePhase → ℕ
  | present version _ _ => version
  | expired version _ => version

/-- The timer generation, current or expired. -/
def generation : PresencePhase → ℕ
  | present _ generation _ => generation
  | expired _ generation => generation

/-- `matches!(phase, PresencePhase::Present { .. })`. -/
def isPresent : PresencePhase → Bool
  | present .. => true
  | expired .. => false

end PresencePhase

/-- `PresenceEntry`. -/
structure PresenceEntry (K : Type) where
  participant : K
  timerId : ℕ
  phase : PresencePhase
  deriving DecidableEq, Repr

/-- `PresenceError`. -/
inductive PresenceError (K : Type) where
  | stale (participant : K) (observed current lifetime : ℕ)
  | conflictingVersion (participant : K) (version lifetime : ℕ)
  | timerCollision (participant existing : K) (timerId version lifetime : ℕ)
  | generationExhausted (participant : K) (version lifetime : ℕ)
  deriving DecidableEq, Repr

/-- `PresenceOutcome`. -/
inductive PresenceOutcome (K : Type) where
  | announced (participant : K) (version generation : ℕ)
  | refreshed (participant : K) (version generation : ℕ)
  | unchanged (participant : K) (version generation : ℕ)
  | expired (participant : K) (version generation : ℕ)
  | rejected (error : PresenceError K)
  deriving DecidableEq, Repr

/-- `PresenceReply`; a `PresenceReport` is its entries. -/
inductive PresenceReply (K : Type) where
  | outcome (outcome : PresenceOutcome K)
  | report (entries : List (PresenceEntry K))
  deriving DecidableEq, Repr

/-- `PresenceMessage`. -/
inductive PresenceMessage (K Route : Type) where
  | announce (participant : K) (version lifetime : ℕ) (replyTo : Route)
  | query (replyTo : Route)
  deriving DecidableEq, Repr

/-- `TimedEvent<User<A, PresenceMessage>>`. -/
inductive PresenceEvent (K Route : Type) where
  | inner (message : PresenceMessage K Route)
  | owned (elapsed : TimerElapsed)
  deriving DecidableEq, Repr

/-- `PresenceSends`: every transition continues and creates nothing. -/
structure PresenceSends (K Route : Type) where
  replies : List (Route × PresenceReply K) := []
  schedules : List ScheduleAfter := []
  deriving DecidableEq, Repr

/-- `Record`. -/
structure Record (K Route : Type) where
  entry : PresenceEntry K
  notify : Route
  deriving DecidableEq, Repr

namespace Record

/-- The participant of a record. -/
def participant (record : Record K Route) : K := record.entry.participant

/-- The timer id of a record. -/
def timerId (record : Record K Route) : ℕ := record.entry.timerId

/-- The phase of a record. -/
def phase (record : Record K Route) : PresencePhase := record.entry.phase

/-- `self.records[index].entry.phase = phase`. -/
def withPhase (record : Record K Route) (phase : PresencePhase) : Record K Route :=
  { record with entry := { record.entry with phase := phase } }

end Record

/-- `Presence`. -/
structure Presence (K Route : Type) where
  timerId : K → ℕ
  records : List (Record K Route)

namespace Presence

/-- `Presence::new`. -/
def new (timerId : K → ℕ) : Presence K Route := ⟨timerId, []⟩

variable (self : Presence K Route)

/-- `Presence::report`. -/
def report : List (PresenceEntry K) := self.records.map Record.entry

/-- `Presence::reply`. -/
def reply (replyTo : Route) (reply : PresenceReply K) : PresenceSends K Route :=
  { replies := [(replyTo, reply)] }

/-- `Presence::next_generation`. -/
def nextGeneration (timerId : ℕ) : Option ℕ :=
  match ((self.records.filter fun record => record.timerId == timerId).map
    fun record => record.phase.generation).max? with
  | none => some 0
  | some generation => Sequence.successor generation

/-- What a committed announcement sends. -/
def committed (replyTo : Route) (outcome : PresenceOutcome K) (timerId generation lifetime : ℕ) :
    PresenceSends K Route where
  replies := [(replyTo, .outcome outcome)]
  schedules := [⟨timerId, generation, lifetime⟩]

/-- `Presence::introduce`. -/
def introduce (participant : K) (version lifetime : ℕ) (replyTo : Route)
    (timerId : ℕ) : Presence K Route × PresenceSends K Route :=
  match self.nextGeneration timerId with
  | none =>
    (self, reply replyTo (.outcome (.rejected
      (.generationExhausted participant version lifetime))))
  | some generation =>
    let record : Record K Route :=
      ⟨⟨participant, timerId, .present version generation lifetime⟩, replyTo⟩
    ({ self with records := self.records ++ [record] },
      committed replyTo (.announced participant version generation) timerId generation lifetime)

/-- `Presence::refresh` of the record between `before` and `after`. -/
def refresh (before : List (Record K Route)) (record : Record K Route)
    (after : List (Record K Route)) (participant : K) (version lifetime : ℕ) (replyTo : Route)
    (timerId : ℕ) : Presence K Route × PresenceSends K Route :=
  let current := record.phase.version
  if version < current then
    (self, reply replyTo (.outcome (.rejected (.stale participant version current lifetime))))
  else if version = current then
    match record.phase with
    | .present _ generation currentLifetime =>
      if currentLifetime = lifetime then
        (self, reply replyTo (.outcome (.unchanged participant version generation)))
      else
        (self, reply replyTo (.outcome (.rejected
          (.conflictingVersion participant version lifetime))))
    | .expired .. =>
      (self, reply replyTo (.outcome (.rejected
        (.conflictingVersion participant version lifetime))))
  else
    match self.nextGeneration timerId with
    | none =>
      (self, reply replyTo (.outcome (.rejected
        (.generationExhausted participant version lifetime))))
    | some generation =>
      let record' : Record K Route :=
        { record.withPhase (.present version generation lifetime) with notify := replyTo }
      ({ self with records := before ++ record' :: after },
        committed replyTo (.refreshed participant version generation) timerId generation lifetime)

section Transition

variable [BEq K]

/-- The record of another participant that is present under the timer id. -/
def collides (participant : K) (timerId : ℕ) (record : Record K Route) : Bool :=
  !(record.participant == participant) && record.timerId == timerId && record.phase.isPresent

/-- `Presence::announce`. -/
def announce (self : Presence K Route) (participant : K) (version lifetime : ℕ) (replyTo : Route) :
    Presence K Route × PresenceSends K Route :=
  let timerId := self.timerId participant
  match self.records.find? (collides participant timerId) with
  | some existing =>
    (self, reply replyTo (.outcome (.rejected
      (.timerCollision participant existing.participant timerId version lifetime))))
  | none =>
    match Search.first (Option.guard fun record => record.participant == participant)
      self.records with
    | some (before, record, after) =>
      self.refresh before record after participant version lifetime replyTo timerId
    | none => self.introduce participant version lifetime replyTo timerId

/-- The record that an elapsed timer finds. -/
def elapses (elapsed : TimerElapsed) (record : Record K Route) : Bool :=
  record.timerId == elapsed.id && record.phase.isPresent &&
    record.phase.generation == elapsed.generation

/-- The timer branch of `transition`. -/
def elapse (self : Presence K Route) (elapsed : TimerElapsed) :
    Presence K Route × PresenceSends K Route :=
  match Search.first (Option.guard (elapses elapsed)) self.records with
  | none => (self, {})
  | some (before, record, after) =>
    match record.phase with
    | .expired .. => (self, {})
    | .present version generation _ =>
      ({ self with records := before ++ record.withPhase (.expired version generation) :: after },
        reply record.notify (.outcome (.expired record.participant version generation)))

/-- `Presence::transition`. -/
def transition (self : Presence K Route) (event : PresenceEvent K Route) :
    Presence K Route × PresenceSends K Route :=
  match event with
  | .inner (.announce participant version lifetime replyTo) =>
    self.announce participant version lifetime replyTo
  | .inner (.query replyTo) => (self, reply replyTo (.report self.report))
  | .owned elapsed => self.elapse elapsed

end Transition

end Presence

/-- A turn of a presence table. -/
abbrev PresenceTurn (K Route : Type) :=
  Turn (Presence K Route) (PresenceEvent K Route) (PresenceSends K Route)

/-- The turns of a run. -/
def Presence.turns [BEq K] (first : Presence K Route) (events : List (PresenceEvent K Route)) :
    List (PresenceTurn K Route) :=
  Machine.turns transition first events

/-- The table after a run. -/
def Presence.run [BEq K] (first : Presence K Route) (events : List (PresenceEvent K Route)) :
    Presence K Route :=
  Machine.reached transition first events

end Bombay.Discovery
