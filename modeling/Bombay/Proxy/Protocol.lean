/-
# What a stable proxy is told and what it says

`crates/actors/src/templates/proxy/protocol.rs` and `effects.rs`: the controls of
the owner, the events of a proxy, what it reports to its owner, and the lanes of
its actions.  `Message` is the message type of the worker's protocol; a service
command carries the address it came from.
-/

import Bombay.Proxy.State

namespace Bombay.Proxy

section

variable (S : Signature) (Message : Type)

/-- `ProxyCommand<W, P>`. -/
inductive ProxyCommand where
  | start (submission : WorkerSubmission S)
  | replace (submission : WorkerSubmission S)
  | shutdown

/-- `InitialWorkerOutcome<W, P>`. -/
inductive InitialWorkerOutcome where
  | overlap (worker : S.Worker) (startup : S.Plan) (phase : ProxyPhase)
  | workerAttemptsExhausted (worker : S.Worker) (startup : S.Plan)
  | resolved (result : WorkerStartResult S)

/-- `ReplacementOutcome<W, P>`. -/
inductive ReplacementOutcome where
  | notReplaceable (worker : S.Worker) (startup : S.Plan) (phase : ProxyPhase)
  | workerAttemptsExhausted (replaces : WorkerAttempt) (worker : S.Worker) (startup : S.Plan)
  | cancelledBeforeBirth (replaces : WorkerAttempt) (worker : S.Worker) (startup : S.Plan)
  | resolved (replaces : WorkerAttempt) (result : WorkerStartResult S)

/-- `ProxyOutcome<W, P>`. -/
inductive ProxyOutcome where
  | initial (outcome : InitialWorkerOutcome S)
  | replacement (outcome : ReplacementOutcome S)
  | workerStopped (worker : WorkerAttempt) (stopped : ChildStopped S)
  | unavailable (sender : S.Address) (phase : ProxyPhase) (command : Message)

/-- `ProxyDiagnostic<W, P>`. -/
inductive ProxyDiagnostic where
  | unexpectedWorkerStart (phase : ProxyPhase) (workers : CreationsSettled S)
  | unexpectedWorkerStop (phase : ProxyPhase) (stopped : ChildStopped S)
  | unexpectedWorkerInitialization (phase : ProxyPhase)
      (initialization : WorkerInitializationReport S)
  | unexpectedWorkerStartup (phase : ProxyPhase) (startup : WorkerStartup S)
  | unexpectedWorkerShutdown (phase : ProxyPhase) (shutdown : EstablishedShutdownResolved)

/-- `ProxyEvent<W, P>`. -/
inductive ProxyEvent where
  | service (sender : S.Address) (message : Message)
  | owner (control : ProxyCommand S)
  | workerCreationsSettled (workers : CreationsSettled S)
  | workerInitialization (initialization : WorkerInitializationReport S)
  | workerStartupReported (startup : WorkerStartup S)
  | workerShutdownResolved (shutdown : EstablishedShutdownResolved)
  | workerStopped (stopped : ChildStopped S)

/-- `EstablishedDelivery<W::Protocol>`. -/
structure EstablishedDelivery where
  recipient : S.Recipient
  message : Message

/-- `Actions<…, ProxyEffects<…>, Births<StopOnShutdown<W>>>`. -/
structure ProxyActions where
  workerObservations : List ℕ := []
  workerInitializations : List (InitializeWorker S) := []
  workerStartups : List (StartWorker S) := []
  workerShutdowns : List (ShutdownEstablished S) := []
  workerDeliveries : List (EstablishedDelivery S Message) := []
  ownerOutcomes : List (ProxyOutcome S Message) := []
  diagnostics : List (ProxyDiagnostic S) := []
  creations : List (CreateChild S) := []
  step : Step := .continue'

/-- A proxy and what it asks for, as every transition returns them. -/
abbrev Acted := StableProxy S × ProxyActions S Message

end

variable {S : Signature} {Message : Type}

/-! ### The actions of the source's helpers -/

namespace ProxyActions

/-- `Actions::cont`. -/
@[simp] def cont : ProxyActions S Message := {}

/-- `Actions::stop`. -/
@[simp] def stop : ProxyActions S Message := { step := .stop }

/-- `report`. -/
@[simp] def report (outcome : ProxyOutcome S Message) : ProxyActions S Message :=
  { ownerOutcomes := [outcome] }

/-- `report_pair`. -/
@[simp] def reportPair (earlier later : ProxyOutcome S Message) : ProxyActions S Message :=
  { ownerOutcomes := [earlier, later] }

/-- `diagnose`. -/
@[simp] def diagnose (diagnostic : ProxyDiagnostic S) : ProxyActions S Message :=
  { diagnostics := [diagnostic] }

/-- `create_worker`. -/
@[simp] def createWorker (observation : ℕ) (creation : CreateChild S) : ProxyActions S Message :=
  { workerObservations := [observation], creations := [creation] }

/-- `request_worker_shutdown`. -/
@[simp] def requestWorkerShutdown (shutdown : ShutdownEstablished S) : ProxyActions S Message :=
  { workerShutdowns := [shutdown] }

/-- `request_initialization`. -/
@[simp] def requestInitialization (initialization : InitializeWorker S) : ProxyActions S Message :=
  { workerInitializations := [initialization] }

/-- `initialize_and_shutdown`. -/
@[simp] def initializeAndShutdown (initialization : InitializeWorker S)
    (shutdown : ShutdownEstablished S) : ProxyActions S Message :=
  { workerInitializations := [initialization], workerShutdowns := [shutdown] }

/-- `begin_startup`. -/
@[simp] def beginStartup (request : StartWorker S) : ProxyActions S Message :=
  { workerStartups := [request] }

end ProxyActions

/-! ### Inputs that are handed back -/

/-- `unexpected_worker_start`. -/
def unexpectedWorkerStart (self : StableProxy S) (state : ProxyState S)
    (workers : CreationsSettled S) : Acted S Message :=
  ({ self with state := state }, .diagnose (.unexpectedWorkerStart state.phase workers))

/-- `unexpected_stop`. -/
def unexpectedStop (self : StableProxy S) (state : ProxyState S) (stopped : ChildStopped S) :
    Acted S Message :=
  ({ self with state := state }, .diagnose (.unexpectedWorkerStop state.phase stopped))

/-- `unexpected_initialization` and `unexpected_start_initialization`. -/
def unexpectedInitialization (self : StableProxy S) (state : ProxyState S)
    (initialization : WorkerInitializationReport S) : Acted S Message :=
  ({ self with state := state },
    .diagnose (.unexpectedWorkerInitialization state.phase initialization))

/-- `unexpected_startup` and `unexpected_shutdown_startup`. -/
def unexpectedStartup (self : StableProxy S) (state : ProxyState S) (startup : WorkerStartup S) :
    Acted S Message :=
  ({ self with state := state }, .diagnose (.unexpectedWorkerStartup state.phase startup))

/-- `unexpected_shutdown`. -/
def unexpectedShutdown (self : StableProxy S) (state : ProxyState S)
    (shutdown : EstablishedShutdownResolved) : Acted S Message :=
  ({ self with state := state }, .diagnose (.unexpectedWorkerShutdown state.phase shutdown))

end Bombay.Proxy
