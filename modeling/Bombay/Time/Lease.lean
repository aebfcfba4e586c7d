/-
# The lease

`crates/actors/src/time/lease.rs`: one holder at a time, under a timer generation that
every acquisition and renewal draws afresh.  The generations are `u64` and stop instead
of wrapping around; the last one can be held, and once it ends the lease is exhausted.

Holders are values of `K` compared by `==`, which need not be equality; a reply route
is a value of `Route`, and what it delivers is the list of routes with their outcomes.
-/

import Bombay.Lib.Machine
import Bombay.Runtime

namespace Bombay.Time

variable {K Route : Type}

/-- `LeaseState`. -/
inductive LeaseState (K Route : Type) where
  | vacant (next : ℕ)
  | held (holder : K) (generation : ℕ) (notify : Route) (next : Option ℕ)
  | exhausted
  deriving DecidableEq, Repr

/-- `LeaseRejection`. -/
inductive LeaseRejection (K : Type) where
  | occupied (current : K)
  | wrongHolder (current : K)
  | staleGeneration (observed current : ℕ)
  | vacant
  | generationExhausted
  deriving DecidableEq, Repr

/-- `LeaseRequest`. -/
inductive LeaseRequest (K : Type) where
  | acquire (holder : K) (duration : ℕ)
  | renew (holder : K) (generation duration : ℕ)
  | release (holder : K) (generation : ℕ)
  deriving DecidableEq, Repr

/-- `LeaseOutcome`. -/
inductive LeaseOutcome (K : Type) where
  | acquired (holder : K) (generation : ℕ)
  | renewed (holder : K) (generation : ℕ)
  | released (holder : K) (generation : ℕ)
  | expired (holder : K) (generation : ℕ)
  | rejected (request : LeaseRequest K) (reason : LeaseRejection K)
  deriving DecidableEq, Repr

/-- `LeaseMessage`. -/
inductive LeaseMessage (K Route : Type) where
  | acquire (holder : K) (duration : ℕ) (replyTo : Route)
  | renew (holder : K) (generation duration : ℕ) (replyTo : Route)
  | release (holder : K) (generation : ℕ) (replyTo : Route)
  deriving DecidableEq, Repr

/-- `TimedEvent<User<A, LeaseMessage>>`. -/
inductive LeaseEvent (K Route : Type) where
  | inner (message : LeaseMessage K Route)
  | owned (elapsed : TimerElapsed)
  deriving DecidableEq, Repr

/-- `LeaseSends`: every transition continues and creates nothing. -/
structure LeaseSends (K Route : Type) where
  outcomes : List (Route × LeaseOutcome K) := []
  schedules : List ScheduleAfter := []
  deriving DecidableEq, Repr

/-- `Lease`. -/
structure Lease (K Route : Type) where
  id : ℕ
  state : LeaseState K Route
  deriving DecidableEq, Repr

namespace Lease

/-- `Lease::new`. -/
def new (id : ℕ) : Lease K Route := ⟨id, .vacant 0⟩

/-- `Lease::result`. -/
def result (replyTo : Route) (outcome : LeaseOutcome K) : LeaseSends K Route :=
  { outcomes := [(replyTo, outcome)] }

/-- `Lease::acquire`. -/
def acquire (self : Lease K Route) (holder : K) (duration : ℕ) (replyTo : Route) :
    Lease K Route × LeaseSends K Route :=
  match self.state with
  | .held current .. =>
    (self, result replyTo (.rejected (.acquire holder duration) (.occupied current)))
  | .exhausted =>
    (self, result replyTo (.rejected (.acquire holder duration) .generationExhausted))
  | .vacant next =>
    ({ self with state := .held holder next replyTo (Sequence.successor next) },
      { outcomes := [(replyTo, .acquired holder next)]
        schedules := [⟨self.id, next, duration⟩] })

/-- `next.map_or(LeaseState::Exhausted, |next| LeaseState::Vacant { next })`. -/
def ended : Option ℕ → LeaseState K Route
  | none => .exhausted
  | some next => .vacant next

section Transition

variable [BEq K]

/-- `Lease::successor`. -/
def successor (self : Lease K Route) (holder : K) (generation : ℕ) :
    Except (LeaseRejection K) (Option ℕ) :=
  match self.state with
  | .vacant _ => .error .vacant
  | .exhausted => .error .generationExhausted
  | .held current active _ next =>
    if !(current == holder) then .error (.wrongHolder current)
    else if active ≠ generation then .error (.staleGeneration generation active)
    else .ok next

/-- The `Renew` branch of `transition`. -/
def renew (self : Lease K Route) (holder : K) (generation duration : ℕ) (replyTo : Route) :
    Lease K Route × LeaseSends K Route :=
  match self.successor holder generation with
  | .error rejection =>
    (self, result replyTo (.rejected (.renew holder generation duration) rejection))
  | .ok none =>
    (self, result replyTo (.rejected (.renew holder generation duration) .generationExhausted))
  | .ok (some fresh) =>
    ({ self with state := .held holder fresh replyTo (Sequence.successor fresh) },
      { outcomes := [(replyTo, .renewed holder fresh)]
        schedules := [⟨self.id, fresh, duration⟩] })

/-- The `Release` branch of `transition`. -/
def release (self : Lease K Route) (holder : K) (generation : ℕ) (replyTo : Route) :
    Lease K Route × LeaseSends K Route :=
  match self.successor holder generation with
  | .error rejection => (self, result replyTo (.rejected (.release holder generation) rejection))
  | .ok next =>
    ({ self with state := ended next }, result replyTo (.released holder generation))

/-- The timer branch of `transition`. -/
def elapse (self : Lease K Route) (elapsed : TimerElapsed) : Lease K Route × LeaseSends K Route :=
  if elapsed.id ≠ self.id then (self, {})
  else
    match self.state with
    | .held holder generation notify next =>
      if elapsed.generation ≠ generation then (self, {})
      else ({ self with state := ended next }, result notify (.expired holder generation))
    | _ => (self, {})

/-- `Lease::transition`. -/
def transition (self : Lease K Route) (event : LeaseEvent K Route) :
    Lease K Route × LeaseSends K Route :=
  match event with
  | .inner (.acquire holder duration replyTo) => self.acquire holder duration replyTo
  | .inner (.renew holder generation duration replyTo) =>
    self.renew holder generation duration replyTo
  | .inner (.release holder generation replyTo) => self.release holder generation replyTo
  | .owned elapsed => self.elapse elapsed

end Transition

end Lease

/-- A turn of a lease. -/
abbrev LeaseTurn (K Route : Type) := Turn (Lease K Route) (LeaseEvent K Route) (LeaseSends K Route)

/-- The turns of a run of a new lease. -/
def Lease.turns [BEq K] (id : ℕ) (events : List (LeaseEvent K Route)) : List (LeaseTurn K Route) :=
  Machine.turns transition (new id) events

/-- The lease after a run. -/
def Lease.run [BEq K] (id : ℕ) (events : List (LeaseEvent K Route)) : Lease K Route :=
  Machine.reached transition (new id) events

end Bombay.Time
