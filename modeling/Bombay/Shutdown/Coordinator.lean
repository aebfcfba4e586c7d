/-
# The shutdown coordinators

`ShutdownCoordinator` and `HeterogeneousShutdownCoordinator` of
`crates/actors/src/lifecycle/shutdown_coordinator.rs`: a wrapper that on a shutdown request asks
the children of the first phase of its plan to shut down, goes on to the next phase when all of
them have stopped, and stops itself after the last one.

The two coordinators are written separately, as in the source.  A request to an interpreter is an
item of the sends, so `InterpreterRequests` is a list.  Every function that takes `&mut self`
answers with the next coordinator.
-/

import Bombay.Behavior
import Bombay.Shutdown.Plan

namespace Bombay.PhasedShutdown

variable {σ Event Sends Create Ph Error Id Outcome T P : Type}

/-- `ChildStopped`; `outcome` is the exit or the crash. -/
structure ChildStopped (Id Outcome : Type) where
  child : Id
  outcome : Outcome
  instant : ℕ
  deriving DecidableEq, Repr

/-- `ChildShutdownRejection`. -/
inductive ChildShutdownRejection where
  | notEstablished
  | alreadyStopping
  deriving DecidableEq, Repr

/-- `ChildShutdownRejected`. -/
structure ChildShutdownRejected (Id : Type) where
  child : Id
  reason : ChildShutdownRejection
  deriving DecidableEq, Repr

/-- `ShutdownChild`: the request that a child shuts down. -/
structure ShutdownChild (Id : Type) where
  child : Id
  deriving DecidableEq, Repr

/-- `HeterogeneousShutdownSends`. -/
structure HeterogeneousShutdownSends (T : Type) where
  requests : List T
  deriving DecidableEq, Repr

instance : SendEffects (HeterogeneousShutdownSends T) where
  empty := ⟨[]⟩
  append first second := ⟨first.requests ++ second.requests⟩

/-- `ShutdownState`. -/
inductive ShutdownState (P Id : Type) where
  | awaitingPlan
  | awaitingPlanAfterShutdown
  | ready (plan : P)
  | stopping (plan : P) (phase : ℕ) (awaiting : List Id)
  | completed
  deriving DecidableEq

/-- `matches!(state, Stopping { awaiting, .. } if awaiting.contains(&child))`. -/
def ShutdownState.awaits [DecidableEq Id] (child : Id) : ShutdownState P Id → Bool
  | .stopping _ _ awaiting => awaiting.contains child
  | _ => false

/-- `ShutdownMove`. -/
inductive ShutdownMove (P : Type) where
  | none
  | startPhase (plan : P) (phase : ℕ)
  | stop

/-- `ShutdownCoordinatorEvent`. -/
inductive ShutdownCoordinatorEvent (Event P Id Outcome : Type) where
  | behavior (event : Event)
  | plan (plan : P)
  | requested
  | childStopped (stopped : ChildStopped Id Outcome)
  | childRejected (rejected : ChildShutdownRejected Id)
  deriving DecidableEq

/-- `ShutdownCoordinatorError`. -/
inductive ShutdownCoordinatorError (Error P Id Outcome : Type) where
  | behavior (error : Error)
  | childRejected (child : Id) (reason : ChildShutdownRejection)
  | unexpectedChildStopped (stopped : ChildStopped Id Outcome)
  | unexpectedChildRejection (child : Id) (reason : ChildShutdownRejection)
  | planAlreadyInstalled (plan : P)
  deriving DecidableEq

/-! ### The homogeneous coordinator -/

/-- `ShutdownCoordinator`. -/
structure ShutdownCoordinator (σ Id : Type) where
  inner : σ
  state : ShutdownState (ShutdownPlan Id) Id

/-- `ShutdownCoordinatorActions`. -/
abbrev ShutdownCoordinatorActions (Id Sends Create Ph : Type) :=
  Actions (SendLayer (List (ShutdownChild Id)) Sends) Create Ph

namespace ShutdownCoordinator

/-- `ShutdownCoordinator::new`. -/
def new (inner : σ) (plan : ShutdownPlan Id) : ShutdownCoordinator σ Id := ⟨inner, .ready plan⟩

/-- `ShutdownCoordinator::awaiting_plan`. -/
def awaitingPlan (inner : σ) : ShutdownCoordinator σ Id := ⟨inner, .awaitingPlan⟩

/-- `ShutdownCoordinator::wrap`. -/
def wrap (actions : Actions Sends Create Ph) : ShutdownCoordinatorActions Id Sends Create Ph :=
  actions.mapSends fun inner => ⟨[], inner⟩

/-- `ShutdownCoordinator::phase_actions`. -/
def phaseActions [SendEffects Sends] (plan : ShutdownPlan Id) (phase : ℕ) :
    ShutdownCoordinatorActions Id Sends Create Ph :=
  ⟨⟨(plan.phase phase).map .mk, SendEffects.empty⟩, [], .continue'⟩

/-- `ShutdownCoordinator::start_plan`. -/
def startPlan (self : ShutdownCoordinator σ Id) (plan : ShutdownPlan Id) :
    ShutdownCoordinator σ Id × ShutdownMove (ShutdownPlan Id) :=
  if plan.phases.isEmpty then ({ self with state := .completed }, .stop)
  else ({ self with state := .stopping plan 0 (plan.phase 0) }, .startPhase plan 0)

/-- `ShutdownCoordinator::install_plan`. -/
def installPlan (self : ShutdownCoordinator σ Id) (plan : ShutdownPlan Id) :
    ShutdownCoordinator σ Id × Except (ShutdownPlan Id) (ShutdownMove (ShutdownPlan Id)) :=
  match self.state with
  | .awaitingPlan => ({ self with state := .ready plan }, .ok .none)
  | .awaitingPlanAfterShutdown =>
    let (next, move) := self.startPlan plan
    (next, .ok move)
  | .ready _ | .stopping _ _ _ | .completed => (self, .error plan)

/-- `ShutdownCoordinator::request_shutdown`. -/
def requestShutdown (self : ShutdownCoordinator σ Id) :
    ShutdownCoordinator σ Id × ShutdownMove (ShutdownPlan Id) :=
  match self.state with
  | .awaitingPlan => ({ self with state := .awaitingPlanAfterShutdown }, .none)
  | .ready plan => self.startPlan plan
  | .awaitingPlanAfterShutdown | .stopping _ _ _ | .completed => (self, .none)

/-- `ShutdownCoordinator::child_stopped`. -/
def childStopped [DecidableEq Id] (self : ShutdownCoordinator σ Id) (child : Id) :
    ShutdownCoordinator σ Id × ShutdownMove (ShutdownPlan Id) :=
  match self.state with
  | .stopping plan phase awaiting =>
    match awaiting.idxOf? child with
    | none => (self, .none)
    | some position =>
      let awaiting := awaiting.eraseIdx position
      if ¬ awaiting.isEmpty then ({ self with state := .stopping plan phase awaiting }, .none)
      else
        let next := phase + 1
        if next = plan.phases.length then ({ self with state := .completed }, .stop)
        else
          ({ self with state := .stopping plan next (plan.phase next) }, .startPhase plan next)
  | _ => (self, .none)

/-- `ShutdownCoordinator::move_actions`. -/
def moveActions [SendEffects Sends] :
    ShutdownMove (ShutdownPlan Id) → ShutdownCoordinatorActions Id Sends Create Ph
  | .none => .cont
  | .stop => .stop
  | .startPhase plan phase => phaseActions plan phase

/-- `ShutdownCoordinator::init`. -/
def init (behavior : Behavior σ Event Sends Create Ph Error) (self : ShutdownCoordinator σ Id) :
    ShutdownCoordinator σ Id ×
      Except (ShutdownCoordinatorError Error (ShutdownPlan Id) Id Outcome)
        (ShutdownCoordinatorActions Id Sends Create Ph) :=
  let (inner, acted) := behavior.init self.inner
  ({ self with inner }, (acted.map wrap).mapError .behavior)

/-- `ShutdownCoordinator::transition`. -/
def transition [DecidableEq Id] [SendEffects Sends]
    (behavior : Behavior σ Event Sends Create Ph Error) (self : ShutdownCoordinator σ Id) :
    ShutdownCoordinatorEvent Event (ShutdownPlan Id) Id Outcome →
      ShutdownCoordinator σ Id ×
        Except (ShutdownCoordinatorError Error (ShutdownPlan Id) Id Outcome)
          (ShutdownCoordinatorActions Id Sends Create Ph)
  | .plan plan =>
    let (next, installed) := self.installPlan plan
    (next, (installed.map moveActions).mapError .planAlreadyInstalled)
  | .requested =>
    let (next, move) := self.requestShutdown
    (next, .ok (moveActions move))
  | .childStopped stopped =>
    if ¬ self.state.awaits stopped.child then (self, .error (.unexpectedChildStopped stopped))
    else
      let (next, move) := self.childStopped stopped.child
      (next, .ok (moveActions move))
  | .childRejected rejected =>
    if self.state.awaits rejected.child then
      (self, .error (.childRejected rejected.child rejected.reason))
    else (self, .error (.unexpectedChildRejection rejected.child rejected.reason))
  | .behavior event =>
    let (inner, acted) := behavior.transition self.inner event
    ({ self with inner }, (acted.map wrap).mapError .behavior)

end ShutdownCoordinator

/-! ### The heterogeneous coordinator -/

/-- `HeterogeneousShutdownCoordinator`. -/
structure HeterogeneousShutdownCoordinator (σ T : Type) {Id : Type} [Selection T Id] where
  inner : σ
  state : ShutdownState (HeterogeneousShutdownPlan T) Id

/-- `HeterogeneousShutdownActions`. -/
abbrev HeterogeneousShutdownActions (T Sends Create Ph : Type) :=
  Actions (SendLayer (HeterogeneousShutdownSends T) Sends) Create Ph

namespace HeterogeneousShutdownCoordinator

variable [Selection T Id]

/-- `HeterogeneousShutdownCoordinator::new`. -/
def new (inner : σ) (plan : HeterogeneousShutdownPlan T) :
    HeterogeneousShutdownCoordinator σ T := ⟨inner, .ready plan⟩

/-- `HeterogeneousShutdownCoordinator::awaiting_plan`. -/
def awaitingPlan (inner : σ) : HeterogeneousShutdownCoordinator σ T := ⟨inner, .awaitingPlan⟩

/-- `HeterogeneousShutdownCoordinator::wrap`. -/
def wrap (actions : Actions Sends Create Ph) : HeterogeneousShutdownActions T Sends Create Ph :=
  actions.mapSends fun inner => ⟨SendEffects.empty, inner⟩

/-- `HeterogeneousShutdownCoordinator::phase_actions`. -/
def phaseActions [SendEffects Sends] (plan : HeterogeneousShutdownPlan T) (phase : ℕ) :
    HeterogeneousShutdownActions T Sends Create Ph :=
  ⟨⟨⟨plan.phase phase⟩, SendEffects.empty⟩, [], .continue'⟩

/-- `HeterogeneousShutdownCoordinator::phase_creations`. -/
def phaseCreations (plan : HeterogeneousShutdownPlan T) (phase : ℕ) : List Id :=
  (plan.phase phase).map Selection.creation

/-- `HeterogeneousShutdownCoordinator::start_plan`. -/
def startPlan (self : HeterogeneousShutdownCoordinator σ T) (plan : HeterogeneousShutdownPlan T) :
    HeterogeneousShutdownCoordinator σ T × ShutdownMove (HeterogeneousShutdownPlan T) :=
  if plan.phases.isEmpty then ({ self with state := .completed }, .stop)
  else ({ self with state := .stopping plan 0 (phaseCreations plan 0) }, .startPhase plan 0)

/-- `HeterogeneousShutdownCoordinator::install_plan`. -/
def installPlan (self : HeterogeneousShutdownCoordinator σ T)
    (plan : HeterogeneousShutdownPlan T) :
    HeterogeneousShutdownCoordinator σ T ×
      Except (HeterogeneousShutdownPlan T) (ShutdownMove (HeterogeneousShutdownPlan T)) :=
  match self.state with
  | .awaitingPlan => ({ self with state := .ready plan }, .ok .none)
  | .awaitingPlanAfterShutdown =>
    let (next, move) := self.startPlan plan
    (next, .ok move)
  | .ready _ | .stopping _ _ _ | .completed => (self, .error plan)

/-- `HeterogeneousShutdownCoordinator::request_shutdown`. -/
def requestShutdown (self : HeterogeneousShutdownCoordinator σ T) :
    HeterogeneousShutdownCoordinator σ T × ShutdownMove (HeterogeneousShutdownPlan T) :=
  match self.state with
  | .awaitingPlan => ({ self with state := .awaitingPlanAfterShutdown }, .none)
  | .ready plan => self.startPlan plan
  | .awaitingPlanAfterShutdown | .stopping _ _ _ | .completed => (self, .none)

/-- `HeterogeneousShutdownCoordinator::child_stopped`. -/
def childStopped [DecidableEq Id] (self : HeterogeneousShutdownCoordinator σ T) (child : Id) :
    HeterogeneousShutdownCoordinator σ T × ShutdownMove (HeterogeneousShutdownPlan T) :=
  match self.state with
  | .stopping plan phase awaiting =>
    match awaiting.idxOf? child with
    | none => (self, .none)
    | some position =>
      let awaiting := awaiting.eraseIdx position
      if ¬ awaiting.isEmpty then ({ self with state := .stopping plan phase awaiting }, .none)
      else
        let next := phase + 1
        if next = plan.phases.length then ({ self with state := .completed }, .stop)
        else
          ({ self with state := .stopping plan next (phaseCreations plan next) },
            .startPhase plan next)
  | _ => (self, .none)

/-- `HeterogeneousShutdownCoordinator::move_actions`. -/
def moveActions [SendEffects Sends] :
    ShutdownMove (HeterogeneousShutdownPlan T) → HeterogeneousShutdownActions T Sends Create Ph
  | .none => .cont
  | .stop => .stop
  | .startPhase plan phase => phaseActions plan phase

/-- `HeterogeneousShutdownCoordinator::init`. -/
def init (behavior : Behavior σ Event Sends Create Ph Error)
    (self : HeterogeneousShutdownCoordinator σ T) :
    HeterogeneousShutdownCoordinator σ T ×
      Except (ShutdownCoordinatorError Error (HeterogeneousShutdownPlan T) Id Outcome)
        (HeterogeneousShutdownActions T Sends Create Ph) :=
  let (inner, acted) := behavior.init self.inner
  ({ self with inner }, (acted.map wrap).mapError .behavior)

/-- `HeterogeneousShutdownCoordinator::transition`. -/
def transition [DecidableEq Id] [SendEffects Sends]
    (behavior : Behavior σ Event Sends Create Ph Error)
    (self : HeterogeneousShutdownCoordinator σ T) :
    ShutdownCoordinatorEvent Event (HeterogeneousShutdownPlan T) Id Outcome →
      HeterogeneousShutdownCoordinator σ T ×
        Except (ShutdownCoordinatorError Error (HeterogeneousShutdownPlan T) Id Outcome)
          (HeterogeneousShutdownActions T Sends Create Ph)
  | .plan plan =>
    let (next, installed) := self.installPlan plan
    (next, (installed.map moveActions).mapError .planAlreadyInstalled)
  | .requested =>
    let (next, move) := self.requestShutdown
    (next, .ok (moveActions move))
  | .childStopped stopped =>
    if ¬ self.state.awaits stopped.child then (self, .error (.unexpectedChildStopped stopped))
    else
      let (next, move) := self.childStopped stopped.child
      (next, .ok (moveActions move))
  | .childRejected rejected =>
    if self.state.awaits rejected.child then
      (self, .error (.childRejected rejected.child rejected.reason))
    else (self, .error (.unexpectedChildRejection rejected.child rejected.reason))
  | .behavior event =>
    let (inner, acted) := behavior.transition self.inner event
    ({ self with inner }, (acted.map wrap).mapError .behavior)

end HeterogeneousShutdownCoordinator
end Bombay.PhasedShutdown
