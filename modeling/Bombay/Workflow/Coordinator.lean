/-
# The workflow coordinator

`crates/actors/src/workflow/coordinator.rs`: steps with prerequisites, activated in
dependency order.  A definition is validated when the workflow is built; `Start` activates
the roots, and a completion activates every blocked step whose prerequisites are complete.

A reply route is a value of `Route`, and what is delivered is the list of routes with
their outcomes; every transition continues and creates nothing.
-/

import Mathlib.Data.List.Basic

namespace Bombay.Workflows

variable {K Route : Type}

/-- `WorkflowDefinition`; a dependency is a prerequisite and its dependent. -/
structure WorkflowDefinition (K : Type) where
  steps : List K
  dependencies : List (K × K)
  deriving DecidableEq, Repr

/-- `WorkflowConfigError`. -/
inductive WorkflowConfigError (K : Type) where
  | empty
  | duplicateStep (step : K)
  | unknownPrerequisite (step : K)
  | unknownDependent (step : K)
  | selfDependency (step : K)
  | cycle
  deriving DecidableEq, Repr

/-- `WorkflowStepState`. -/
inductive WorkflowStepState where
  | blocked
  | active
  | completed
  deriving DecidableEq, Repr

/-- `WorkflowState`. -/
inductive WorkflowState (K Route : Type) where
  | ready
  | running (steps : List (K × WorkflowStepState)) (replyTo : Route)
  | succeeded (replyTo : Route)
  | failed (step : K) (replyTo : Route)
  | cancelled (replyTo : Route)
  deriving DecidableEq, Repr

/-- `WorkflowRejection`. -/
inductive WorkflowRejection (K : Type) where
  | alreadyStarted
  | unknownStep (step : K)
  | blocked (step : K)
  | alreadyCompleted (step : K)
  | terminal (step : Option K)
  deriving DecidableEq, Repr

/-- `WorkflowInput`. -/
inductive WorkflowInput (K : Type) where
  | complete (step : K)
  | fail (step : K)
  deriving DecidableEq, Repr

/-- `WorkflowError`. -/
inductive WorkflowError (K : Type) where
  | notStarted (input : WorkflowInput K)
  deriving DecidableEq, Repr

/-- `WorkflowOutcome`. -/
inductive WorkflowOutcome (K : Type) where
  | started (activated : List K)
  | advanced (completed : K) (activated : List K)
  | succeeded (completed : K)
  | failed (step : K)
  | cancelled
  | rejected (rejection : WorkflowRejection K)
  deriving DecidableEq, Repr

/-- `WorkflowMessage`. -/
inductive WorkflowMessage (K Route : Type) where
  | start (replyTo : Route)
  | complete (step : K)
  | fail (step : K)
  | cancel (replyTo : Route)
  deriving DecidableEq, Repr

section Validation

variable [DecidableEq K]

/-- The first step that stands in the steps before it. -/
def duplicate (earlier : List K) : List K → Option K
  | [] => none
  | step :: steps =>
    if step ∈ earlier then some step else duplicate (earlier ++ [step]) steps

/-- The check of one dependency. -/
def checkDependency (steps : List K) (dependency : K × K) : Except (WorkflowConfigError K) Unit :=
  if dependency.1 ∉ steps then .error (.unknownPrerequisite dependency.1)
  else if dependency.2 ∉ steps then .error (.unknownDependent dependency.2)
  else if dependency.1 = dependency.2 then .error (.selfDependency dependency.1)
  else .ok ()

/-- The loop over the dependencies. -/
def checkDependencies (steps : List K) :
    List (K × K) → Except (WorkflowConfigError K) Unit
  | [] => .ok ()
  | dependency :: dependencies =>
    match checkDependency steps dependency with
    | .error error => .error error
    | .ok () => checkDependencies steps dependencies

/-- Every prerequisite of a step is in a list. -/
def prerequisitesIn (dependencies : List (K × K)) (list : List K) (step : K) : Bool :=
  (dependencies.filter fun dependency => dependency.2 = step).all fun dependency =>
    dependency.1 ∈ list

/-- One round over the steps: a step is reached once its prerequisites are. -/
def reachRound (dependencies : List (K × K)) (reached : List K) : List K → List K
  | [] => reached
  | step :: steps =>
    reachRound dependencies
      (if step ∉ reached ∧ prerequisitesIn dependencies reached step then reached ++ [step]
      else reached) steps

theorem reachRound_length (dependencies : List (K × K)) (reached steps : List K) :
    reached.length ≤ (reachRound dependencies reached steps).length := by
  induction steps generalizing reached with
  | nil => exact Nat.le_refl _
  | cons step steps ih =>
    rw [reachRound]
    refine Nat.le_trans ?_ (ih _)
    split
    · rw [List.length_append]
      exact Nat.le_add_right _ _
    · exact Nat.le_refl _

/-- The loop that looks for a cycle: rounds until every step is reached, or one reaches none. -/
def reachAll (definition : WorkflowDefinition K) (reached : List K) :
    Except (WorkflowConfigError K) Unit :=
  if reached.length < definition.steps.length then
    if (reachRound definition.dependencies reached definition.steps).length = reached.length then
      .error .cycle
    else reachAll definition (reachRound definition.dependencies reached definition.steps)
  else .ok ()
termination_by definition.steps.length - reached.length
decreasing_by
  have := reachRound_length definition.dependencies reached definition.steps
  omega

/-- `validate`. -/
def validate (definition : WorkflowDefinition K) : Except (WorkflowConfigError K) Unit :=
  if definition.steps.isEmpty then .error .empty
  else
    match duplicate [] definition.steps with
    | some step => .error (.duplicateStep step)
    | none =>
      match checkDependencies definition.steps definition.dependencies with
      | .error error => .error error
      | .ok () => reachAll definition []

end Validation

/-- `Workflow`. -/
structure Workflow (K Route : Type) where
  definition : WorkflowDefinition K
  state : WorkflowState K Route
  deriving DecidableEq, Repr

/-- What is delivered to a reply route. -/
abbrev Replies (K Route : Type) := List (Route × WorkflowOutcome K)

namespace Workflow

variable [DecidableEq K]

/-- `Workflow::new`. -/
def new (definition : WorkflowDefinition K) :
    Except (WorkflowConfigError K) (Workflow K Route) :=
  match validate definition with
  | .error error => .error error
  | .ok () => .ok ⟨definition, .ready⟩

/-- `Workflow::reply`. -/
def reply (replyTo : Route) (outcome : WorkflowOutcome K) : Replies K Route := [(replyTo, outcome)]

/-- No dependency has the step as its dependent. -/
def isRoot (definition : WorkflowDefinition K) (step : K) : Bool :=
  !definition.dependencies.any fun dependency => dependency.2 = step

variable (self : Workflow K Route)

/-- `Workflow::start`. -/
def start (replyTo : Route) : Workflow K Route × Replies K Route :=
  match self.state with
  | .ready =>
    let steps := self.definition.steps.map fun step =>
      (step, if isRoot self.definition step then WorkflowStepState.active else .blocked)
    let activated := self.definition.steps.filter (isRoot self.definition)
    ({ self with state := .running steps replyTo }, reply replyTo (.started activated))
  | _ => (self, reply replyTo (.rejected .alreadyStarted))

/-- The reply to a step of a workflow that is not running. -/
def terminalReply (step : K) : Replies K Route :=
  match self.state with
  | .succeeded replyTo | .failed _ replyTo | .cancelled replyTo =>
    reply replyTo (.rejected (.terminal (some step)))
  | .ready | .running _ _ => []

/-- The loop that activates the blocked steps that are ready. -/
def activate (ready : K → Bool) (steps : List (K × WorkflowStepState)) :
    List (K × WorkflowStepState) × List K :=
  (steps.map fun entry =>
      if entry.2 = .blocked ∧ ready entry.1 then (entry.1, .active) else entry,
    (steps.filter fun entry => entry.2 = .blocked ∧ ready entry.1).map Prod.fst)

/-- `Workflow::complete`. -/
def complete (step : K) : Workflow K Route × Replies K Route :=
  match self.state with
  | .running steps replyTo =>
    match steps.findIdx? fun entry => entry.1 = step with
    | none => (self, reply replyTo (.rejected (.unknownStep step)))
    | some index =>
      -- The index is in range, so there is a state.
      match steps[index]?.map Prod.snd with
      | none | some .blocked => (self, reply replyTo (.rejected (.blocked step)))
      | some .completed => (self, reply replyTo (.rejected (.alreadyCompleted step)))
      | some .active =>
        let steps := steps.modify index fun entry => (entry.1, .completed)
        if steps.all fun entry => entry.2 = .completed then
          ({ self with state := .succeeded replyTo }, reply replyTo (.succeeded step))
        else
          let completed := (steps.filter fun entry => entry.2 = .completed).map Prod.fst
          let (steps, activated) :=
            activate (prerequisitesIn self.definition.dependencies completed) steps
          ({ self with state := .running steps replyTo }, reply replyTo (.advanced step activated))
  | _ => (self, self.terminalReply step)

/-- `Workflow::fail`. -/
def fail (step : K) : Workflow K Route × Replies K Route :=
  match self.state with
  | .running steps replyTo =>
    match steps.find? fun entry => entry.1 = step with
    | none => (self, reply replyTo (.rejected (.unknownStep step)))
    | some (_, .active) =>
      ({ self with state := .failed step replyTo }, reply replyTo (.failed step))
    | some (_, .blocked) => (self, reply replyTo (.rejected (.blocked step)))
    | some (_, .completed) => (self, reply replyTo (.rejected (.alreadyCompleted step)))
  | _ => (self, self.terminalReply step)

/-- `Workflow::transition`. -/
def transition (message : WorkflowMessage K Route) :
    Workflow K Route × Except (WorkflowError K) (Replies K Route) :=
  match message with
  | .start replyTo =>
    let (self, replies) := self.start replyTo
    (self, .ok replies)
  | .complete step =>
    match self.state with
    | .ready => (self, .error (.notStarted (.complete step)))
    | _ =>
      let (self, replies) := self.complete step
      (self, .ok replies)
  | .fail step =>
    match self.state with
    | .ready => (self, .error (.notStarted (.fail step)))
    | _ =>
      let (self, replies) := self.fail step
      (self, .ok replies)
  | .cancel replyTo =>
    match self.state with
    | .ready | .running _ _ =>
      ({ self with state := .cancelled replyTo }, .ok (reply replyTo .cancelled))
    | _ => (self, .ok (reply replyTo (.rejected (.terminal none))))

end Workflow
end Bombay.Workflows
