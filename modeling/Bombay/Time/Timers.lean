/-
# The timer wrappers

`crates/actors/src/time/`: `domain.rs` (the two timer lifecycles), `deadline.rs`, `one_shot.rs`,
`periodic.rs` and `receive_timeout.rs`.  Each wrapper owns one timer in front of an inner behavior
and answers an accepted elapsed generation with a reaction on it.

Generations are `u64`; an instant and a duration are natural numbers.  A reaction takes `&mut B`,
so it answers with the next inner state, and so does a failing inner transition.
-/

import Bombay.Behavior
import Bombay.Lib.Sequence

namespace Bombay.Time

variable {σ Event Sends Create Ph Error Address Message : Type}

/-- `OwnedTimerElapsed`. -/
structure OwnedTimerElapsed where
  generation : ℕ
  deriving DecidableEq, Repr

/-- `OwnedScheduleAfter`. -/
structure OwnedScheduleAfter where
  generation : ℕ
  after : ℕ
  deriving DecidableEq, Repr

/-- `OwnedScheduleAt`. -/
structure OwnedScheduleAt where
  generation : ℕ
  at' : ℕ
  deriving DecidableEq, Repr

/-! ### Timer lifecycles -/

/-- `TimerAdmission`. -/
inductive TimerAdmission where
  | accepted
  | ignored
  deriving DecidableEq, Repr

/-- `TimerLease`. -/
inductive TimerLease where
  | neverIssued
  | armed (generation : ℕ)
  | idle (generation : ℕ)
  | exhausted
  deriving DecidableEq, Repr

namespace TimerLease

/-- `TimerLease::new`. -/
def new : TimerLease := .neverIssued

/-- `TimerLease::arm`. -/
def arm : TimerLease → TimerLease × Option ℕ
  | .neverIssued => (.armed 0, some 0)
  | .armed previous | .idle previous =>
    match Sequence.successor previous with
    | none => (.exhausted, none)
    | some next => (.armed next, some next)
  | .exhausted => (.exhausted, none)

/-- `TimerLease::accept`. -/
def accept (self : TimerLease) (generation : ℕ) : TimerLease × TimerAdmission :=
  match self with
  | .armed live => if live = generation then (.idle live, .accepted) else (.armed live, .ignored)
  | lease => (lease, .ignored)

/-- `TimerLease::disarm`. -/
def disarm : TimerLease → TimerLease
  | .armed generation => .idle generation
  | lease => lease

end TimerLease

/-- `OneShotSchedule`. -/
inductive OneShotSchedule where
  | unscheduled
  | scheduled (generation at' : ℕ)
  deriving DecidableEq, Repr

namespace OneShotSchedule

/-- `OneShotSchedule::new`. -/
def new : Option ℕ → OneShotSchedule
  | none => .unscheduled
  | some at' => .scheduled 0 at'

/-- `OneShotSchedule::request`. -/
def request : OneShotSchedule → Option (ℕ × ℕ)
  | .unscheduled => none
  | .scheduled generation at' => some (generation, at')

/-- `OneShotSchedule::accept`. -/
def accept (self : OneShotSchedule) (generation : ℕ) : OneShotSchedule × TimerAdmission :=
  match self with
  | .scheduled expectedGeneration at' =>
    if expectedGeneration = generation then (.unscheduled, .accepted)
    else (.scheduled expectedGeneration at', .ignored)
  | .unscheduled => (.unscheduled, .ignored)

/-- `OneShotSchedule::cancel`. -/
def cancel (_ : OneShotSchedule) : OneShotSchedule := .unscheduled

end OneShotSchedule

/-- The actions of a wrapper with schedules of a type. -/
abbrev TimedActions (Schedule Sends Create Ph : Type) :=
  Actions (SendLayer (List Schedule) Sends) Create Ph

/-- `Self::wrap` of every wrapper. -/
def wrap {Schedule : Type} (actions : Actions Sends Create Ph) (own : List Schedule) :
    TimedActions Schedule Sends Create Ph :=
  actions.mapSends fun inner => ⟨own, inner⟩

/-! ### Deadline -/

/-- `Deadline`. -/
structure Deadline (σ : Type) where
  inner : σ
  schedule : OneShotSchedule
  onReached : σ → σ × Become Empty

namespace Deadline

/-- `Deadline::new`. -/
def new (inner : σ) (at' : Option ℕ) (onReached : σ → σ × Become Empty) : Deadline σ :=
  ⟨inner, .new at', onReached⟩

/-- The verdict of a reaction, as one of the inner behavior. -/
def verdict : Become Empty → Become Ph
  | .continue' => .continue'
  | .goto never => nomatch never
  | .stop => .stop

variable [SendEffects Sends] (behavior : Behavior σ Event Sends Create Ph Error)

/-- `Deadline::init`. -/
def init (self : Deadline σ) :
    Deadline σ × Except Error (TimedActions OwnedScheduleAt Sends Create Ph) :=
  match behavior.init self.inner with
  | (inner, .error error) => ({ self with inner }, .error error)
  | (inner, .ok actions) =>
    if actions.stops then
      ({ self with inner, schedule := self.schedule.cancel }, .ok (wrap actions []))
    else
      ({ self with inner },
        .ok (wrap actions (self.schedule.request.toList.map fun request =>
          ⟨request.1, request.2⟩)))

/-- `Deadline::transition`. -/
def transition (self : Deadline σ) :
    EventLayer OwnedTimerElapsed Event →
      Deadline σ × Except Error (TimedActions OwnedScheduleAt Sends Create Ph)
  | .owned event =>
    match self.schedule.accept event.generation with
    | (schedule, .accepted) =>
      let (inner, become) := self.onReached self.inner
      ({ self with inner, schedule }, .ok (.just (verdict become)))
    | (schedule, .ignored) => ({ self with schedule }, .ok .cont)
  | .inner event =>
    match behavior.transition self.inner event with
    | (inner, .error error) => ({ self with inner }, .error error)
    | (inner, .ok actions) =>
      ({ self with
          inner
          schedule := if actions.stops then self.schedule.cancel else self.schedule },
        .ok (wrap actions []))

end Deadline

/-- `TimedReaction`. -/
abbrev TimedReaction (σ Sends Create Ph : Type) := σ → σ × Actions Sends Create Ph

/-! ### One shot -/

/-- `OneShot`. -/
structure OneShot (σ Sends Create Ph : Type) where
  inner : σ
  after : ℕ
  lease : TimerLease
  onElapsed : TimedReaction σ Sends Create Ph

namespace OneShot

/-- `OneShot::new`. -/
def new (inner : σ) (after : ℕ) (onElapsed : TimedReaction σ Sends Create Ph) :
    OneShot σ Sends Create Ph :=
  ⟨inner, after, .new, onElapsed⟩

/-- `OneShot::schedule`. -/
def schedule (self : OneShot σ Sends Create Ph) :
    OneShot σ Sends Create Ph × List OwnedScheduleAfter :=
  let (lease, generation) := self.lease.arm
  ({ self with lease }, generation.toList.map fun generation => ⟨generation, self.after⟩)

variable [SendEffects Sends] (behavior : Behavior σ Event Sends Create Ph Error)

/-- `OneShot::init`. -/
def init (self : OneShot σ Sends Create Ph) :
    OneShot σ Sends Create Ph × Except Error (TimedActions OwnedScheduleAfter Sends Create Ph) :=
  match behavior.init self.inner with
  | (inner, .error error) => ({ self with inner }, .error error)
  | (inner, .ok actions) =>
    if actions.stops then
      ({ self with inner, lease := self.lease.disarm }, .ok (wrap actions []))
    else
      let (self, schedules) := { self with inner }.schedule
      (self, .ok (wrap actions schedules))

/-- `OneShot::transition`. -/
def transition (self : OneShot σ Sends Create Ph) :
    EventLayer OwnedTimerElapsed Event →
      OneShot σ Sends Create Ph × Except Error (TimedActions OwnedScheduleAfter Sends Create Ph)
  | .owned elapsed =>
    match self.lease.accept elapsed.generation with
    | (lease, .accepted) =>
      let (inner, actions) := self.onElapsed self.inner
      ({ self with inner, lease }, .ok (wrap actions []))
    | (lease, .ignored) => ({ self with lease }, .ok .cont)
  | .inner event =>
    match behavior.transition self.inner event with
    | (inner, .error error) => ({ self with inner }, .error error)
    | (inner, .ok actions) => ({ self with inner }, .ok (wrap actions []))

end OneShot

/-! ### Periodic -/

/-- `Periodic`. -/
structure Periodic (σ Sends Create Ph : Type) where
  inner : σ
  every : ℕ
  lease : TimerLease
  onElapsed : TimedReaction σ Sends Create Ph

namespace Periodic

/-- `Periodic::new`. -/
def new (inner : σ) (every : ℕ) (onElapsed : TimedReaction σ Sends Create Ph) :
    Periodic σ Sends Create Ph :=
  ⟨inner, every, .new, onElapsed⟩

/-- `Periodic::schedule`. -/
def schedule (self : Periodic σ Sends Create Ph) :
    Periodic σ Sends Create Ph × List OwnedScheduleAfter :=
  let (lease, generation) := self.lease.arm
  ({ self with lease }, generation.toList.map fun generation => ⟨generation, self.every⟩)

/-- `Periodic::wrap_and_rearm`. -/
def wrapAndRearm (self : Periodic σ Sends Create Ph) (actions : Actions Sends Create Ph) :
    Periodic σ Sends Create Ph × TimedActions OwnedScheduleAfter Sends Create Ph :=
  if actions.stops then ({ self with lease := self.lease.disarm }, wrap actions [])
  else
    let (self, schedules) := self.schedule
    (self, wrap actions schedules)

variable [SendEffects Sends] (behavior : Behavior σ Event Sends Create Ph Error)

/-- `Periodic::init`. -/
def init (self : Periodic σ Sends Create Ph) :
    Periodic σ Sends Create Ph × Except Error (TimedActions OwnedScheduleAfter Sends Create Ph) :=
  match behavior.init self.inner with
  | (inner, .error error) => ({ self with inner }, .error error)
  | (inner, .ok actions) =>
    let (self, actions) := { self with inner }.wrapAndRearm actions
    (self, .ok actions)

/-- `Periodic::transition`. -/
def transition (self : Periodic σ Sends Create Ph) :
    EventLayer OwnedTimerElapsed Event →
      Periodic σ Sends Create Ph × Except Error (TimedActions OwnedScheduleAfter Sends Create Ph)
  | .owned elapsed =>
    match self.lease.accept elapsed.generation with
    | (lease, .accepted) =>
      let (inner, actions) := self.onElapsed self.inner
      let (self, actions) := { self with inner, lease }.wrapAndRearm actions
      (self, .ok actions)
    | (lease, .ignored) => ({ self with lease }, .ok .cont)
  | .inner event =>
    match behavior.transition self.inner event with
    | (inner, .error error) => ({ self with inner }, .error error)
    | (inner, .ok actions) =>
      ({ self with inner, lease := if actions.stops then self.lease.disarm else self.lease },
        .ok (wrap actions []))

end Periodic

/-! ### Receive timeout -/

/-- `ReceiveTimeout`. -/
structure ReceiveTimeout (σ Sends Create Ph : Type) where
  inner : σ
  after : ℕ
  timer : TimerLease
  onElapsed : TimedReaction σ Sends Create Ph

namespace ReceiveTimeout

/-- `ReceiveTimeout::new`. -/
def new (inner : σ) (after : ℕ) (onElapsed : TimedReaction σ Sends Create Ph) :
    ReceiveTimeout σ Sends Create Ph :=
  ⟨inner, after, .new, onElapsed⟩

/-- `ReceiveTimeout::schedule`. -/
def schedule (self : ReceiveTimeout σ Sends Create Ph) :
    ReceiveTimeout σ Sends Create Ph × List OwnedScheduleAfter :=
  let (timer, generation) := self.timer.arm
  ({ self with timer }, generation.toList.map fun generation => ⟨generation, self.after⟩)

variable [SendEffects Sends] (behavior : Behavior σ Event Sends Create Ph Error)

/-- `ReceiveTimeout::init`. -/
def init (self : ReceiveTimeout σ Sends Create Ph) :
    ReceiveTimeout σ Sends Create Ph ×
      Except Error (TimedActions OwnedScheduleAfter Sends Create Ph) :=
  match behavior.init self.inner with
  | (inner, .error error) => ({ self with inner }, .error error)
  | (inner, .ok actions) =>
    if actions.stops then
      ({ self with inner, timer := self.timer.disarm }, .ok (wrap actions []))
    else
      let (self, own) := { self with inner }.schedule
      (self, .ok (wrap actions own))

/-- `ReceiveTimeout::transition`. -/
def transition [UserEvent Event Address Message] (self : ReceiveTimeout σ Sends Create Ph) :
    EventLayer OwnedTimerElapsed Event →
      ReceiveTimeout σ Sends Create Ph ×
        Except Error (TimedActions OwnedScheduleAfter Sends Create Ph)
  | .owned elapsed =>
    match self.timer.accept elapsed.generation with
    | (timer, .accepted) =>
      let (inner, actions) := self.onElapsed self.inner
      ({ self with inner, timer }, .ok (wrap actions []))
    | (timer, .ignored) => ({ self with timer }, .ok .cont)
  | .inner event =>
    match UserEvent.intoUser event with
    | .ok user =>
      match behavior.transition self.inner (UserEvent.user user.sender user.message) with
      | (inner, .error error) => ({ self with inner }, .error error)
      | (inner, .ok actions) =>
        if actions.stops then
          ({ self with inner, timer := self.timer.disarm }, .ok (wrap actions []))
        else
          let (self, own) := { self with inner }.schedule
          (self, .ok (wrap actions own))
    | .error service =>
      match behavior.transition self.inner service with
      | (inner, .error error) => ({ self with inner }, .error error)
      | (inner, .ok actions) =>
        ({ self with inner, timer := if actions.stops then self.timer.disarm else self.timer },
          .ok (wrap actions []))

end ReceiveTimeout

end Bombay.Time
