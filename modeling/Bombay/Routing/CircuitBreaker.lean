/-
# The circuit breaker

`crates/actors/src/routing/circuit_breaker.rs`: admission of one operation at a
time, a count of consecutive failures that opens the circuit, and a reset timer
whose evidence makes one probe available.

A reply route is a value of `Route`, and what it delivers is the list of routes
with their outcomes.  Attempts and timer generations are `u64`, and both counters
stop instead of wrapping around (`Sequence.successor` is `checked_add(1)`).  What the
source calls `admit` is `admitOperation`.
-/

import Bombay.Lib.Machine
import Bombay.Runtime

namespace Bombay.Routing

variable {Route : Type}

/-- `NonZeroU32`. -/
abbrev NonZeroU32 := { n : ℕ // 0 < n ∧ n < 2 ^ 32 }

/-- `u32::saturating_add`. -/
def saturatingAdd32 (a b : ℕ) : ℕ := min (a + b) (2 ^ 32 - 1)

/-- `ClosedPhase`. -/
inductive ClosedPhase (Route : Type) where
  | idle (consecutiveFailures : ℕ)
  | awaiting (consecutiveFailures attempt : ℕ) (replyTo : Route)
  deriving DecidableEq, Repr

/-- `ProbePhase`. -/
inductive ProbePhase (Route : Type) where
  | available
  | awaiting (attempt : ℕ) (replyTo : Route)
  deriving DecidableEq, Repr

/-- `BreakerPhase`. -/
inductive BreakerPhase (Route : Type) where
  | closed (phase : ClosedPhase Route)
  | open' (generation : ℕ)
  | probing (generation : ℕ) (phase : ProbePhase Route)
  | exhausted
  deriving DecidableEq, Repr

/-- `BreakerConfigError`. -/
inductive BreakerConfigError where
  | zeroResetDelay
  deriving DecidableEq, Repr

/-- `BreakerRejection`. -/
inductive BreakerRejection where
  | busy
  | open' (generation : ℕ)
  | exhausted
  deriving DecidableEq, Repr

/-- `BreakerOutcome`. -/
inductive BreakerOutcome where
  | admitted (attempt : ℕ)
  | probeAdmitted (attempt : ℕ)
  | rejected (rejection : BreakerRejection)
  | succeeded (attempt : ℕ)
  | failureRecorded (attempt consecutiveFailures : ℕ)
  | opened (attempt generation : ℕ)
  deriving DecidableEq, Repr

/-- `BreakerCompletion`. -/
inductive BreakerCompletion where
  | succeeded (attempt : ℕ)
  | failed (attempt : ℕ)
  deriving DecidableEq, Repr

/-- `BreakerCompletion::attempt`. -/
def BreakerCompletion.attempt : BreakerCompletion → ℕ
  | .succeeded attempt => attempt
  | .failed attempt => attempt

/-- `BreakerError`. -/
inductive BreakerError where
  | unexpectedCompletion (completion : BreakerCompletion)
  deriving DecidableEq, Repr

/-- `BreakerMessage`. -/
inductive BreakerMessage (Route : Type) where
  | admitOperation (replyTo : Route)
  | succeeded (attempt : ℕ)
  | failed (attempt : ℕ)
  deriving DecidableEq, Repr

/-- `BreakerEvent`: a command, or an elapsed timer. -/
inductive BreakerEvent (Route : Type) where
  | inner (message : BreakerMessage Route)
  | owned (elapsed : TimerElapsed)
  deriving DecidableEq, Repr

/-- `BreakerSends`: every transition continues and creates nothing. -/
structure BreakerSends (Route : Type) where
  replies : List (Route × BreakerOutcome) := []
  schedules : List ScheduleAfter := []
  deriving DecidableEq, Repr

/-- `CircuitBreaker`. -/
structure CircuitBreaker (Route : Type) where
  threshold : NonZeroU32
  resetAfter : ℕ
  timerId : ℕ
  nextAttempt : ℕ
  phase : BreakerPhase Route
  deriving DecidableEq, Repr

namespace CircuitBreaker

/-- `CircuitBreaker::new`. -/
def new (threshold : NonZeroU32) (resetAfter timerId : ℕ) :
    Except BreakerConfigError (CircuitBreaker Route) :=
  if resetAfter = 0 then .error .zeroResetDelay
  else .ok ⟨threshold, resetAfter, timerId, 0, .closed (.idle 0)⟩

/-- `CircuitBreaker::reply`. -/
def reply (replyTo : Route) (outcome : BreakerOutcome) : BreakerSends Route :=
  { replies := [(replyTo, outcome)] }

variable (self : CircuitBreaker Route)

/-- `CircuitBreaker::admit`. -/
def admitOperation (replyTo : Route) :
    CircuitBreaker Route × BreakerSends Route :=
  let attempt := self.nextAttempt
  match self.phase with
  | .closed (.idle failures) =>
    match Sequence.successor self.nextAttempt with
    | none => ({ self with phase := .exhausted }, reply replyTo (.rejected .exhausted))
    | some next =>
      ({ self with nextAttempt := next, phase := .closed (.awaiting failures attempt replyTo) },
        reply replyTo (.admitted attempt))
  | .probing generation .available =>
    match Sequence.successor self.nextAttempt with
    | none => ({ self with phase := .exhausted }, reply replyTo (.rejected .exhausted))
    | some next =>
      ({ self with nextAttempt := next, phase := .probing generation (.awaiting attempt replyTo) },
        reply replyTo (.probeAdmitted attempt))
  | .open' generation => (self, reply replyTo (.rejected (.open' generation)))
  | .exhausted => (self, reply replyTo (.rejected .exhausted))
  | .closed (.awaiting ..) => (self, reply replyTo (.rejected .busy))
  | .probing _ (.awaiting ..) => (self, reply replyTo (.rejected .busy))

/-- The `ownership` that `CircuitBreaker::complete` looks up: the route, the failures so far, and
the generation if the attempt is a probe. -/
def ownership (attempt : ℕ) : Option (Route × ℕ × Option ℕ) :=
  match self.phase with
  | .closed (.awaiting failures current replyTo) =>
    if current = attempt then some (replyTo, failures, none) else none
  | .probing generation (.awaiting current replyTo) =>
    if current = attempt then some (replyTo, 0, some generation) else none
  | _ => none

/-- The generation that `CircuitBreaker::complete` opens the circuit with: the one after a probe's,
and the first one for a circuit that was closed. -/
def nextGeneration : Option ℕ → Option ℕ
  | some generation => Sequence.successor generation
  | none => some 0

/-- `CircuitBreaker::complete` for a failed attempt. -/
def failed (attempt : ℕ) (replyTo : Route) (failures : ℕ)
    (probeGeneration : Option ℕ) : CircuitBreaker Route × BreakerSends Route :=
  let failures := saturatingAdd32 failures 1
  if probeGeneration.isNone ∧ failures < self.threshold.1 then
    ({ self with phase := .closed (.idle failures) },
      reply replyTo (.failureRecorded attempt failures))
  else
    match nextGeneration probeGeneration with
    | none => ({ self with phase := .exhausted }, reply replyTo (.rejected .exhausted))
    | some generation =>
      ({ self with phase := .open' generation },
        { replies := [(replyTo, .opened attempt generation)]
          schedules := [⟨self.timerId, generation, self.resetAfter⟩] })

/-- `CircuitBreaker::complete`. -/
def complete (completion : BreakerCompletion) :
    CircuitBreaker Route × Except BreakerError (BreakerSends Route) :=
  let attempt := completion.attempt
  match self.ownership attempt with
  | none => (self, .error (.unexpectedCompletion completion))
  | some (replyTo, failures, probeGeneration) =>
    match completion with
    | .succeeded _ =>
      ({ self with phase := .closed (.idle 0) }, .ok (reply replyTo (.succeeded attempt)))
    | .failed _ =>
      let (next, sends) := self.failed attempt replyTo failures probeGeneration
      (next, .ok sends)

/-- The timer branch of `transition`. -/
def elapsed (self : CircuitBreaker Route) (elapsed : TimerElapsed) : CircuitBreaker Route :=
  match self.phase with
  | .open' generation =>
    if elapsed.id = self.timerId ∧ elapsed.generation = generation then
      { self with phase := .probing generation .available }
    else self
  | _ => self

/-- `CircuitBreaker::transition`. -/
def transition (event : BreakerEvent Route) :
    CircuitBreaker Route × Except BreakerError (BreakerSends Route) :=
  match event with
  | .inner (.admitOperation replyTo) =>
    ((self.admitOperation replyTo).1, .ok (self.admitOperation replyTo).2)
  | .inner (.succeeded attempt) => self.complete (.succeeded attempt)
  | .inner (.failed attempt) => self.complete (.failed attempt)
  | .owned elapsed => (self.elapsed elapsed, .ok {})

end CircuitBreaker

/-- A turn of a breaker. -/
abbrev BreakerTurn (Route : Type) :=
  Turn (CircuitBreaker Route) (BreakerEvent Route) (Except BreakerError (BreakerSends Route))

/-- What a transition sends; nothing if it failed. -/
def sent : Except BreakerError (BreakerSends Route) → BreakerSends Route
  | .ok sends => sends
  | .error _ => {}

/-- What a turn sends. -/
def BreakerTurn.sends (turn : BreakerTurn Route) : BreakerSends Route := sent turn.emitted

/-- The turns of a run. -/
def CircuitBreaker.turns (first : CircuitBreaker Route) (events : List (BreakerEvent Route)) :
    List (BreakerTurn Route) :=
  Machine.turns transition first events

/-- The breaker after a run. -/
def CircuitBreaker.run (first : CircuitBreaker Route) (events : List (BreakerEvent Route)) :
    CircuitBreaker Route :=
  Machine.reached transition first events

end Bombay.Routing
