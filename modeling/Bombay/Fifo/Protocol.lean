/-
# The protocol of a FIFO pool

`crates/actors/src/templates/pool/queue/protocol.rs`, `event.rs`, `requests.rs`
and `job.rs`: the inputs of a pool, the outcomes its customers see, the
diagnostics it emits, and `FifoActions`, the lanes of one transition in their
declared order.

The `from` address of a command, the private route of a diagnostic and the
phantom parameters of the source carry nothing a pool reads.
-/

import Bombay.Pool.Retiring
import Bombay.Pool.Policy

namespace Bombay.Fifo

/-- `AdmissionRejection`. -/
inductive AdmissionRejection where
  | noRecoverableWorkers
  | backlogFull
  | jobCorrelationUnavailable
  | assignmentCorrelationUnavailable
  | shuttingDown
  deriving DecidableEq, Repr

/-- `QueuedReturnReason`. -/
inductive QueuedReturnReason where
  | noRecoverableWorkers
  | assignmentCorrelationUnavailable
  | poolShutdown
  deriving DecidableEq, Repr

/-- `AssignedReturnReason`. -/
inductive AssignedReturnReason where
  | workerStopped
  | retryPreparationRejected
  | poolShutdown
  | contradictoryAssignmentSettlement
  deriving DecidableEq, Repr

section

variable (S : Signature)

/-- `FifoOutcome<Role, Job, WorkerResult>`. -/
inductive FifoOutcome where
  | accepted (submission job : ℕ)
  | rejected (submission : ℕ) (payload : S.Job) (reason : AdmissionRejection)
  | completed (job : ℕ) (role : S.Role) (workerResult : S.WorkerResult)
  | returnedQueued (job : ℕ) (payload : S.Job) (reason : QueuedReturnReason)
  | returnedAssigned (job : ℕ) (role : S.Role) (payload : S.Job)
      (reason : AssignedReturnReason)

/-- `FifoCommand`. -/
inductive FifoCommand where
  | submit (submission : ℕ) (payload : S.Job) (customer : S.Customer)
  | shutdown

/-- `FifoEvent`. -/
inductive FifoEvent where
  | command (command : FifoCommand S)
  | workerCreationsSettled (workers : CreationsSettled S)
  | workerInitialization (report : WorkerInitializationReport S)
  | workerStartupReported (startup : WorkerStartup S)
  | workerStopped (stopped : ChildStopped S)
  | workerCompleted (report : CompletionReport S)
  | assignmentSettled (settled : AssignmentSettled S)
  | workerPreparationStarted (started : PreparationStarted S)
  | workerPreparationReturned (returned : WorkerPreparation S)
  | restartScheduleSettled (settled : ScheduleSettled)
  | restartElapsed (elapsed : TimerElapsed)
  | workerShutdownSettled (shutdown : EstablishedShutdownResolved)
  | shutdown

/-- `FifoDiagnosticCause`. -/
inductive FifoDiagnosticCause where
  | unexpected (event : FifoEvent S)
  | workerCreationRejected (role : S.Role) (rejection : WorkerCreationRejection S)
      (startup : S.Plan) (stopped : Option (ChildStopped S))
  | workersReturned (workers : CreationsSettled S)
  | unusedStartup (role : S.Role) (permit : Option (StartupPermit S)) (startup : S.Plan)
  | stoppedWorkerEstablished (role : S.Role) (worker : CurrentWorker S) (startup : S.Plan)
      (stopped : ChildStopped S)
  | unmatchedWorkerReturn (id : ℕ) (kind : CreationKind) (rejection : WorkerCreationRejection S)
  | workerStartupReturned (role : S.Role) (worker : WorkerAttempt)
      (startup : WorkerStartupGrant) (outcome : WorkerStartupOutcome S)
  | workerShutdownRejected (role : S.Role) (shutdown : EstablishedShutdownResolved)
  | workerPreparationFailed (role : S.Role) (previous : WorkerAttempt)
      (stopped : ChildStopped S) (returnedSource : Option S.Source)
      (error : WorkerPreparationError S)
  | workerReplacementFailed (role : S.Role) (previous : WorkerAttempt)
      (stopped : ChildStopped S) (submission : WorkerSubmission S)
      (returnedSource : Option S.Source) (error : WorkerReplacementError)

/-- `QueuedJob<RoleName<Role>, Job, Customer>`. -/
structure QueuedJob where
  customer : CustomerJob S
  assignedRole : Option S.Role

/-- `FifoActions`: the request lanes of `FifoRequests`, the creations and the
step. -/
structure FifoActions where
  workerObservations : List ℕ := []
  workerInitializations : List (InitializeWorker S) := []
  workerStartups : List (StartWorker S) := []
  customerOutcomes : List (S.Customer × FifoOutcome S) := []
  workerAssignments : List (AssignWorker S) := []
  workerPreparations : List (PrepareWorkers S) := []
  restartSchedules : List ScheduleAfter := []
  workerShutdowns : List (ShutdownEstablished S) := []
  diagnostics : List (FifoDiagnosticCause S) := []
  creates : List (CreateChild S) := []
  become : Step := .continue'

end

variable {S : Signature}

namespace FifoActions

/-- `Actions::cont()`. -/
def cont : FifoActions S := {}

variable (actions : FifoActions S)

/-- Append one diagnostic. -/
def diagnose (cause : FifoDiagnosticCause S) : FifoActions S :=
  { actions with diagnostics := actions.diagnostics ++ [cause] }

/-- Append one outcome delivered to a customer. -/
def deliver (customer : S.Customer) (outcome : FifoOutcome S) :
    FifoActions S :=
  { actions with customerOutcomes := actions.customerOutcomes ++ [(customer, outcome)] }

/-- Send one assignment. -/
def assign (assignment : AssignWorker S) : FifoActions S :=
  { actions with workerAssignments := actions.workerAssignments ++ [assignment] }

/-- Send one preparation request. -/
def prepare (request : PrepareWorkers S) : FifoActions S :=
  { actions with workerPreparations := actions.workerPreparations ++ [request] }

/-- Append one startup request. -/
def startup (request : StartWorker S) : FifoActions S :=
  { actions with workerStartups := actions.workerStartups ++ [request] }

/-- Append one initialization request. -/
def requestInitialization (request : InitializeWorker S) : FifoActions S :=
  { actions with workerInitializations := actions.workerInitializations ++ [request] }

/-- Append one shutdown request. -/
def shutdown (request : ShutdownEstablished S) : FifoActions S :=
  { actions with workerShutdowns := actions.workerShutdowns ++ [request] }

/-- Create one worker and observe it. -/
def create (worker : CreateChild S) (observation : ℕ) :
    FifoActions S :=
  { actions with
    creates := actions.creates ++ [worker]
    workerObservations := actions.workerObservations ++ [observation] }

/-- Send one schedule. -/
def schedule (request : ScheduleAfter) : FifoActions S :=
  { actions with restartSchedules := actions.restartSchedules ++ [request] }

/-- `actions.become_ = Step::Stop(Stopped)`. -/
def stop (actions : FifoActions S) : FifoActions S := { actions with become := .stop }

end FifoActions

end Bombay.Fifo
