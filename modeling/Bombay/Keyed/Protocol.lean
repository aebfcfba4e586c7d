/-
# The protocol of a keyed pool

`crates/actors/src/templates/pool/router/protocol.rs`, `event.rs`, `requests.rs`
and `job.rs`: the commands and inputs of a keyed pool, the outcomes its customers
see, the replies of binding management, the diagnostics, and `KeyedActions`, the
lanes of one transition in their declared order.

A `Router` adds the type parameters of a keyed pool to those of its workers.  The
workers of a keyed pool serve customers that carry the evidence of the binding
their job was admitted under.
-/

import Bombay.Keyed.Binding
import Bombay.Pool.Retiring
import Bombay.Pool.Policy

namespace Bombay.Keyed

/-- `KeyedCustomer<Role, Route>`. -/
structure KeyedCustomer (Role Route : Type) where
  binding : BindingEvidence Role
  route : Route

/-- The type parameters of a keyed pool; the customer of the base signature is the
route of the submitting customer. -/
structure Router where
  base : Signature
  /-- `Key: Ord`. -/
  Key : Type
  keyOrder : LinearOrder Key
  /-- `Role: Eq`. -/
  roleEq : DecidableEq base.Role
  /-- The reply route of binding management. -/
  Management : Type

instance (R : Router) : LinearOrder R.Key := R.keyOrder

instance (R : Router) : DecidableEq R.base.Role := R.roleEq

/-- What the workers of a keyed pool are made of. -/
abbrev Router.workers (R : Router) : Signature :=
  { R.base with Customer := KeyedCustomer R.base.Role R.base.Customer }

/-- `BindingRejection`. -/
inductive BindingRejection where
  | staleExpectation (actual : BindingExpectation)
  | unknownTarget
  | targetUnavailable
  | bindingCapacityExhausted
  | generationExhausted
  | shuttingDown
  deriving DecidableEq, Repr

/-- `KeyedAdmissionRejection`. -/
inductive KeyedAdmissionRejection where
  | shuttingDown
  | bindingCapacityExhausted
  | unknownSelectedRole
  | roleUnavailable
  | roleBacklogFull
  | noRecoverableWorkers
  | bindingGenerationExhausted
  | jobCorrelationExhausted
  | assignmentCorrelationExhausted
  deriving DecidableEq, Repr

/-- `KeyedQueuedReturnReason`. -/
inductive KeyedQueuedReturnReason where
  | poolShutdown
  | rolePermanentlyUnavailable
  | noRecoverableWorkers
  | assignmentCorrelationExhausted
  deriving DecidableEq, Repr

/-- `KeyedAssignedReturnReason`. -/
inductive KeyedAssignedReturnReason where
  | poolShutdown
  | rolePermanentlyUnavailable
  | workerStopped
  | assignmentReturned
  | retryPreparationRejected
  | contradictoryAssignmentSettlement
  deriving DecidableEq, Repr

section

variable (R : Router)

/-- `BindingChange<Role>`. -/
inductive BindingChange where
  | rebalance (target : R.base.Role)
  | unbind

/-- `BindingCommand<A, Key, Role>`. -/
structure BindingCommand where
  request : ℕ
  key : R.Key
  expected : BindingExpectation
  change : BindingChange R
  reply : R.Management

/-- `BindingReply<A, Key, Role>`. -/
inductive BindingReply where
  | bound (request : ℕ) (current : BindingEvidence R.base.Role)
  | rebalanced (request : ℕ) (prior current : BindingEvidence R.base.Role)
  | unchanged (request : ℕ) (current : BindingEvidence R.base.Role)
  | unbound (request : ℕ) (key : R.Key) (removed : BindingEvidence R.base.Role)
  | alreadyUnbound (command : BindingCommand R)
  | rejected (command : BindingCommand R) (reason : BindingRejection)

/-- `KeyedOutcome<Key, Role, Job, WorkerResult>`. -/
inductive KeyedOutcome where
  | accepted (submission job : ℕ) (binding : BindingEvidence R.base.Role)
  | rejected (submission : ℕ) (key : R.Key) (payload : R.base.Job)
      (reason : KeyedAdmissionRejection)
  | completed (job : ℕ) (binding : BindingEvidence R.base.Role)
      (workerResult : R.base.WorkerResult)
  | returnedQueued (job : ℕ) (binding : BindingEvidence R.base.Role) (payload : R.base.Job)
      (reason : KeyedQueuedReturnReason)
  | returnedAssigned (job : ℕ) (binding : BindingEvidence R.base.Role) (payload : R.base.Job)
      (reason : KeyedAssignedReturnReason)

/-- `KeyedRequest`, what a `KeyedCommand` holds. -/
inductive KeyedRequest where
  | submit (submission : ℕ) (key : R.Key) (payload : R.base.Job) (customer : R.base.Customer)
  | binding (command : BindingCommand R)
  | shutdown

/-- `KeyedEvent`. -/
inductive KeyedEvent where
  | command (request : KeyedRequest R)
  | workerCreationsSettled (workers : CreationsSettled R.workers)
  | workerInitialization (report : WorkerInitializationReport R.workers)
  | workerStartupReported (startup : WorkerStartup R.workers)
  | workerStopped (stopped : ChildStopped R.workers)
  | workerCompleted (report : CompletionReport R.workers)
  | assignmentSettled (settled : AssignmentSettled R.workers)
  | workerPreparationStarted (started : PreparationStarted R.workers)
  | workerPreparationReturned (returned : WorkerPreparation R.workers)
  | restartScheduleSettled (settled : ScheduleSettled)
  | restartElapsed (elapsed : TimerElapsed)
  | workerShutdownSettled (shutdown : EstablishedShutdownResolved)
  | shutdown

/-- `KeyedDiagnosticCause`. -/
inductive KeyedDiagnosticCause where
  | bindingRemoved (key : R.Key) (binding : BindingEvidence R.base.Role)
  | workerCreationRejected (role : R.base.Role) (rejection : WorkerCreationRejection R.workers)
      (startup : R.base.Plan) (stopped : Option (ChildStopped R.workers))
  | stoppedWorkerEstablished (role : R.base.Role) (worker : CurrentWorker R.workers)
      (startup : R.base.Plan) (stopped : ChildStopped R.workers)
  | unmatchedWorkerReturn (id : ℕ) (kind : CreationKind)
      (rejection : WorkerCreationRejection R.workers)
  | unusedStartup (role : R.base.Role) (permit : Option (StartupPermit R.workers))
      (startup : R.base.Plan)
  | workerStartupReturned (role : R.base.Role) (worker : WorkerAttempt)
      (startup : WorkerStartupGrant) (outcome : WorkerStartupOutcome R.workers)
  | workerShutdownRejected (role : R.base.Role) (shutdown : EstablishedShutdownResolved)
  | workerReplacementCancelled (role : R.base.Role)
      (replacement : PendingWorkerReplacement R.workers)
  | workerPreparationFailed (role : R.base.Role) (previous : WorkerAttempt)
      (stopped : ChildStopped R.workers) (returnedSource : Option R.base.Source)
      (error : WorkerPreparationError R.workers)
  | workerReplacementFailed (role : R.base.Role) (previous : WorkerAttempt)
      (stopped : ChildStopped R.workers) (submission : WorkerSubmission R.workers)
      (returnedSource : Option R.base.Source) (error : WorkerReplacementError)
  | unexpected (event : KeyedEvent R)

/-- `KeyedActions`: the request lanes of `KeyedRequests`, the creations and the step. -/
structure KeyedActions where
  workerObservations : List ℕ := []
  workerInitializations : List (InitializeWorker R.workers) := []
  workerStartups : List (StartWorker R.workers) := []
  customerOutcomes : List (R.base.Customer × KeyedOutcome R) := []
  bindingReplies : List (R.Management × BindingReply R) := []
  workerAssignments : List (AssignWorker R.workers) := []
  workerPreparations : List (PrepareWorkers R.workers) := []
  restartSchedules : List ScheduleAfter := []
  workerShutdowns : List (ShutdownEstablished R.workers) := []
  diagnostics : List (KeyedDiagnosticCause R) := []
  creates : List (CreateChild R.workers) := []
  become : Step := .continue'

end

variable {R : Router}

namespace KeyedActions

/-- `Actions::cont()`. -/
def cont : KeyedActions R := {}

variable (actions : KeyedActions R)

/-- Append one diagnostic. -/
def diagnose (cause : KeyedDiagnosticCause R) : KeyedActions R :=
  { actions with diagnostics := actions.diagnostics ++ [cause] }

/-- Append one outcome delivered to a customer. -/
def deliver (customer : R.base.Customer) (outcome : KeyedOutcome R) :
    KeyedActions R :=
  { actions with customerOutcomes := actions.customerOutcomes ++ [(customer, outcome)] }

/-- Deliver one reply of binding management. -/
def reply (actions : KeyedActions R) (target : R.Management) (reply : BindingReply R) :
    KeyedActions R :=
  { actions with bindingReplies := actions.bindingReplies ++ [(target, reply)] }

/-- Send one assignment. -/
def assign (assignment : AssignWorker R.workers) : KeyedActions R :=
  { actions with workerAssignments := actions.workerAssignments ++ [assignment] }

/-- Send one preparation request. -/
def prepare (request : PrepareWorkers R.workers) : KeyedActions R :=
  { actions with workerPreparations := actions.workerPreparations ++ [request] }

/-- Append one startup request. -/
def startup (request : StartWorker R.workers) : KeyedActions R :=
  { actions with workerStartups := actions.workerStartups ++ [request] }

/-- Append one initialization request. -/
def requestInitialization (request : InitializeWorker R.workers) :
    KeyedActions R :=
  { actions with workerInitializations := actions.workerInitializations ++ [request] }

/-- Append one shutdown request. -/
def shutdown (request : ShutdownEstablished R.workers) :
    KeyedActions R :=
  { actions with workerShutdowns := actions.workerShutdowns ++ [request] }

/-- Create one worker and observe it. -/
def create (worker : CreateChild R.workers) (observation : ℕ) :
    KeyedActions R :=
  { actions with
    creates := actions.creates ++ [worker]
    workerObservations := actions.workerObservations ++ [observation] }

/-- Send one schedule. -/
def schedule (request : ScheduleAfter) : KeyedActions R :=
  { actions with restartSchedules := actions.restartSchedules ++ [request] }

/-- `actions.become_ = Step::Stop(Stopped)`. -/
def stop (actions : KeyedActions R) : KeyedActions R := { actions with become := .stop }

/-- `recovered.sends.append(settled.sends)`, with the creations; the step stays. -/
def append (actions more : KeyedActions R) : KeyedActions R where
  workerObservations := actions.workerObservations ++ more.workerObservations
  workerInitializations := actions.workerInitializations ++ more.workerInitializations
  workerStartups := actions.workerStartups ++ more.workerStartups
  customerOutcomes := actions.customerOutcomes ++ more.customerOutcomes
  bindingReplies := actions.bindingReplies ++ more.bindingReplies
  workerAssignments := actions.workerAssignments ++ more.workerAssignments
  workerPreparations := actions.workerPreparations ++ more.workerPreparations
  restartSchedules := actions.restartSchedules ++ more.restartSchedules
  workerShutdowns := actions.workerShutdowns ++ more.workerShutdowns
  diagnostics := actions.diagnostics ++ more.diagnostics
  creates := actions.creates ++ more.creates
  become := actions.become

end KeyedActions

end Bombay.Keyed
