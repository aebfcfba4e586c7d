/-
# A coordinator of choices

The heterogeneous coordinator does what the homogeneous one does, once choices are replaced by the
creation IDs they carry: plans, states, events, requests and errors are erased, and an erased run
is a run of the homogeneous coordinator.
-/

import Bombay.Shutdown.Order

namespace Bombay.PhasedShutdown

variable {σ Event Sends Create Ph Error Id Outcome T P Q : Type}

/-- A state of other plans. -/
def ShutdownState.mapPlan (f : P → Q) : ShutdownState P Id → ShutdownState Q Id
  | .awaitingPlan => .awaitingPlan
  | .awaitingPlanAfterShutdown => .awaitingPlanAfterShutdown
  | .ready plan => .ready (f plan)
  | .stopping plan phase awaiting => .stopping (f plan) phase awaiting
  | .completed => .completed

/-- A move for other plans. -/
def ShutdownMove.mapPlan (f : P → Q) : ShutdownMove P → ShutdownMove Q
  | .none => .none
  | .startPhase plan phase => .startPhase (f plan) phase
  | .stop => .stop

/-- An event with another plan. -/
def ShutdownCoordinatorEvent.mapPlan (f : P → Q) :
    ShutdownCoordinatorEvent Event P Id Outcome → ShutdownCoordinatorEvent Event Q Id Outcome
  | .behavior event => .behavior event
  | .plan installation => .plan (f installation)
  | .requested => .requested
  | .childStopped stopped => .childStopped stopped
  | .childRejected rejected => .childRejected rejected

/-- An error with another plan. -/
def ShutdownCoordinatorError.mapPlan (f : P → Q) :
    ShutdownCoordinatorError Error P Id Outcome → ShutdownCoordinatorError Error Q Id Outcome
  | .behavior error => .behavior error
  | .childRejected child reason => .childRejected child reason
  | .unexpectedChildStopped stopped => .unexpectedChildStopped stopped
  | .unexpectedChildRejection child reason => .unexpectedChildRejection child reason
  | .planAlreadyInstalled plan => .planAlreadyInstalled (f plan)

section Erase

variable [Selection T Id]

/-- The requests for the children that are chosen. -/
def HeterogeneousShutdownSends.erase (sends : HeterogeneousShutdownSends T) :
    List (ShutdownChild Id) :=
  sends.requests.map fun target => ⟨Selection.creation target⟩

/-- The actions with the requests of the creation IDs. -/
def eraseActions (actions : HeterogeneousShutdownActions T Sends Create Ph) :
    ShutdownCoordinatorActions Id Sends Create Ph :=
  actions.mapSends fun sends => ⟨sends.owned.erase, sends.inner⟩

/-- What is emitted for the creation IDs. -/
def eraseEmitted
    (emitted : Except (ShutdownCoordinatorError Error (HeterogeneousShutdownPlan T) Id Outcome)
      (HeterogeneousShutdownActions T Sends Create Ph)) :
    Except (ShutdownCoordinatorError Error (ShutdownPlan Id) Id Outcome)
      (ShutdownCoordinatorActions Id Sends Create Ph) :=
  (emitted.map eraseActions).mapError (.mapPlan HeterogeneousShutdownPlan.erase)

namespace HeterogeneousShutdownCoordinator

/-- The coordinator of the creation IDs. -/
def erase (self : HeterogeneousShutdownCoordinator σ T) : ShutdownCoordinator σ Id :=
  ⟨self.inner, self.state.mapPlan HeterogeneousShutdownPlan.erase⟩

variable (self : HeterogeneousShutdownCoordinator σ T)

theorem startPlan_erase
    (plan : HeterogeneousShutdownPlan T) :
    self.erase.startPlan plan.erase =
      ((self.startPlan plan).1.erase,
        (self.startPlan plan).2.mapPlan HeterogeneousShutdownPlan.erase) := by
  rw [ShutdownCoordinator.startPlan, startPlan, plan.erase_isEmpty]
  split_ifs
  · rfl
  · rw [plan.erase_phase]
    rfl

theorem moveActions_erase [SendEffects Sends] (move : ShutdownMove (HeterogeneousShutdownPlan T)) :
    eraseActions (moveActions move : HeterogeneousShutdownActions T Sends Create Ph) =
      ShutdownCoordinator.moveActions (move.mapPlan HeterogeneousShutdownPlan.erase) := by
  cases move with
  | none | stop => rfl
  | startPhase plan phase =>
    rw [ShutdownMove.mapPlan, ShutdownCoordinator.moveActions, ShutdownCoordinator.phaseActions,
      plan.erase_phase, List.map_map]
    rfl

theorem requestShutdown_erase :
    self.erase.requestShutdown =
      (self.requestShutdown.1.erase,
        self.requestShutdown.2.mapPlan HeterogeneousShutdownPlan.erase) := by
  obtain ⟨inner, state⟩ := self
  cases state with
  | awaitingPlan | awaitingPlanAfterShutdown | stopping | completed => rfl
  | ready plan => exact startPlan_erase _ plan

theorem installPlan_erase
    (plan : HeterogeneousShutdownPlan T) :
    self.erase.installPlan plan.erase =
      ((self.installPlan plan).1.erase,
        ((self.installPlan plan).2.map (.mapPlan HeterogeneousShutdownPlan.erase)).mapError
          HeterogeneousShutdownPlan.erase) := by
  obtain ⟨inner, state⟩ := self
  cases state with
  | awaitingPlan | ready | stopping | completed => rfl
  | awaitingPlanAfterShutdown =>
    have h := startPlan_erase ⟨inner, .awaitingPlanAfterShutdown⟩ plan
    exact congrArg (fun started => (started.1, Except.ok started.2)) h

variable [DecidableEq Id]

theorem erase_awaits (child : Id) :
    self.erase.state.awaits child = self.state.awaits child := by
  obtain ⟨inner, state⟩ := self
  cases state with
  | awaitingPlan | awaitingPlanAfterShutdown | ready | stopping | completed => rfl

theorem childStopped_erase (child : Id) :
    self.erase.childStopped child =
      ((self.childStopped child).1.erase,
        (self.childStopped child).2.mapPlan HeterogeneousShutdownPlan.erase) := by
  obtain ⟨inner, state⟩ := self
  cases state with
  | awaitingPlan | awaitingPlanAfterShutdown | ready | completed => rfl
  | stopping plan phase awaiting =>
    simp only [ShutdownCoordinator.childStopped, childStopped, erase, ShutdownState.mapPlan]
    cases awaiting.idxOf? child with
    | none => rfl
    | some position =>
      simp only [plan.erase_length, plan.erase_phase]
      split_ifs
      · rfl
      · rfl
      · rfl

/-- **The erased coordinator answers an erased event with the erased answer.** -/
theorem transition_erase [SendEffects Sends] (behavior : Behavior σ Event Sends Create Ph Error)
    (self : HeterogeneousShutdownCoordinator σ T)
    (event : ShutdownCoordinatorEvent Event (HeterogeneousShutdownPlan T) Id Outcome) :
    self.erase.transition behavior (event.mapPlan HeterogeneousShutdownPlan.erase) =
      ((self.transition behavior event).1.erase,
        eraseEmitted (self.transition behavior event).2) := by
  cases event with
  | plan plan =>
    rw [ShutdownCoordinatorEvent.mapPlan, ShutdownCoordinator.transition, transition,
      installPlan_erase]
    rcases self.installPlan plan with ⟨next, refused | move⟩
    · rfl
    · exact congrArg (fun actions => (next.erase, Except.ok actions)) (moveActions_erase move).symm
  | requested =>
    rw [ShutdownCoordinatorEvent.mapPlan, ShutdownCoordinator.transition, transition,
      requestShutdown_erase]
    exact congrArg (fun actions => (_, Except.ok actions)) (moveActions_erase _).symm
  | childStopped stopped =>
    rw [ShutdownCoordinatorEvent.mapPlan, ShutdownCoordinator.transition, transition, erase_awaits,
      childStopped_erase]
    split_ifs
    · exact congrArg (fun actions => (_, Except.ok actions)) (moveActions_erase _).symm
    · rfl
  | childRejected rejected =>
    rw [ShutdownCoordinatorEvent.mapPlan, ShutdownCoordinator.transition, transition, erase_awaits]
    split_ifs
    · rfl
    · rfl
  | behavior event =>
    rw [ShutdownCoordinatorEvent.mapPlan, ShutdownCoordinator.transition, transition]
    show ((_ : ShutdownCoordinator σ Id), _) = _
    simp only [erase]
    cases (behavior.transition self.inner event).2 with
    | error error => rfl
    | ok actions => rfl

/-- **A transition that answers with an error leaves the state as it is**, and the coordinator too
unless the error is the wrapped behavior's. -/
theorem refused_state [SendEffects Sends] {behavior : Behavior σ Event Sends Create Ph Error}
    {self next : HeterogeneousShutdownCoordinator σ T}
    {event : ShutdownCoordinatorEvent Event (HeterogeneousShutdownPlan T) Id Outcome}
    {error : ShutdownCoordinatorError Error (HeterogeneousShutdownPlan T) Id Outcome}
    (h : self.transition behavior event = (next, .error error)) :
    next.state = self.state ∧ (event.intoInner = none → next = self) := by
  obtain ⟨inner, state⟩ := self
  cases event with
  | requested => cases congrArg Prod.snd h
  | plan plan =>
    cases state with
    | awaitingPlan | awaitingPlanAfterShutdown => cases congrArg Prod.snd h
    | ready | stopping | completed =>
      obtain rfl := congrArg Prod.fst h
      exact ⟨rfl, fun _ => rfl⟩
  | childStopped stopped =>
    rw [transition] at h
    split_ifs at h
    · cases congrArg Prod.snd h
    · obtain rfl := congrArg Prod.fst h
      exact ⟨rfl, fun _ => rfl⟩
  | childRejected rejected =>
    have hnext : next = ⟨inner, state⟩ := by
      rw [transition] at h
      split_ifs at h
      · exact (congrArg Prod.fst h).symm
      · exact (congrArg Prod.fst h).symm
    rw [hnext]
    exact ⟨rfl, fun _ => rfl⟩
  | behavior event =>
    obtain rfl := congrArg Prod.fst h
    exact ⟨rfl, fun hinner => by cases hinner⟩

end HeterogeneousShutdownCoordinator

/-- A turn of a heterogeneous coordinator. -/
abbrev ChoiceTurn (σ Event Sends Create Ph Error Outcome T : Type) {Id : Type} [Selection T Id] :=
  Turn (HeterogeneousShutdownCoordinator σ T)
    (ShutdownCoordinatorEvent Event (HeterogeneousShutdownPlan T) Id Outcome)
    (Except (ShutdownCoordinatorError Error (HeterogeneousShutdownPlan T) Id Outcome)
      (HeterogeneousShutdownActions T Sends Create Ph))

/-- The turn of the creation IDs. -/
def ChoiceTurn.erase (now : ChoiceTurn σ Event Sends Create Ph Error Outcome T) :
    ShutdownTurn σ Event Sends Create Ph Error Id Outcome :=
  now.map HeterogeneousShutdownCoordinator.erase (.mapPlan HeterogeneousShutdownPlan.erase)
    eraseEmitted

/-- The coordinator of a plan, or one that waits for its plan: `new` or `awaiting_plan`. -/
def builtChoices (inner : σ) :
    Option (HeterogeneousShutdownPlan T) → HeterogeneousShutdownCoordinator σ T
  | some plan => .new inner plan
  | none => .awaitingPlan inner

theorem builtChoices_erase (inner : σ) (start : Option (HeterogeneousShutdownPlan T)) :
    (builtChoices inner start).erase = built inner (start.map HeterogeneousShutdownPlan.erase) := by
  cases start with
  | none | some => rfl

/-- **An erased run is a run of the homogeneous coordinator.** -/
theorem run_erase [DecidableEq Id] [SendEffects Sends]
    (behavior : Behavior σ Event Sends Create Ph Error) (inner : σ)
    (start : Option (HeterogeneousShutdownPlan T))
    (events : List (ShutdownCoordinatorEvent Event (HeterogeneousShutdownPlan T) Id Outcome)) :
    Machine.turns (ShutdownCoordinator.transition behavior)
        (built inner (start.map HeterogeneousShutdownPlan.erase))
        (events.map (.mapPlan HeterogeneousShutdownPlan.erase)) =
      (Machine.turns (HeterogeneousShutdownCoordinator.transition behavior)
        (builtChoices inner start) events).map ChoiceTurn.erase := by
  rw [← builtChoices_erase]
  exact Machine.turns_map (fun self event => self.transition_erase behavior event) events

end Erase
end Bombay.PhasedShutdown
