/-
# The worker behind a stable proxy

`crates/actors/src/templates/proxy/worker/mod.rs`: a `PendingWorker` waits for the
settlement of its creation, a `CurrentWorker` was established, and a
`WorkerStopping` joins the settlement of a shutdown request with the stop it
causes, in either order.  A function that cannot use its input hands it back
together with what it was given, as the source does.

Two allocations make a pending worker: the token of its attempt and the token of
its initialization.  The proxy counts them.
-/

import Bombay.Worker

namespace Bombay.Proxy

section

variable (S : Signature)

/-- `ProxyDrain<W, P>`: how one unavailable worker was returned. -/
inductive ProxyDrain where
  | initializationRejected (failure : WorkerInitializationFailure) (startup : S.Plan)
      (shutdown : Option EstablishedShutdownResolved) (stopped : ChildStopped S)
  | initializationStopped (startup : S.Plan) (observed : Option (ChildStopped S))
      (returned : ChildStopped S)
  | initializationCompleted (permit : StartupPermit S) (startup : S.Plan)
      (stopped : ChildStopped S)
  | startupRefused (request : StartWorker S) (reason : StartupRejection)
      (shutdown : Option EstablishedShutdownResolved) (stopped : ChildStopped S)
  | startupRejected (rejection : S.Rejection) (shutdown : Option EstablishedShutdownResolved)
      (stopped : ChildStopped S)
  | startupCompleted (readiness : S.Ready) (stopped : ChildStopped S)

/-- `WorkerStartResult<W, P>`. -/
inductive WorkerStartResult where
  | creationRejected (rejection : WorkerCreationRejection S) (startup : S.Plan)
      (stopped : Option (ChildStopped S))
  | ready (attempt : WorkerAttempt) (readiness : S.Ready)
  | unavailable (attempt : WorkerAttempt) (drain : ProxyDrain S)

/-- `PendingWorker<P>`. -/
structure PendingWorker where
  attempt : WorkerAttempt
  initialization : InitializationAttempt
  kind : CreationKind
  startup : S.Plan

/-- `CurrentWorker<W>`. -/
structure CurrentWorker where
  attempt : WorkerAttempt
  initialization : InitializationAttempt
  actor : S.Actor

/-- `WorkerShutdown<P>`. -/
inductive WorkerShutdown where
  | requested (id : ℕ)
  | settled (settlement : EstablishedShutdownResolved)
  deriving DecidableEq, Repr

/-- `WorkerStopping<W>`. -/
structure WorkerStopping where
  worker : CurrentWorker S
  shutdown : WorkerShutdown
  stopped : Option (ChildStopped S)

/-- `StoppedWorker<W>`. -/
structure StoppedWorker where
  worker : CurrentWorker S
  shutdown : EstablishedShutdownResolved
  stopped : ChildStopped S

/-- `WorkerCreation<W, P>`. -/
inductive WorkerCreation where
  | initializing (worker : CurrentWorker S) (startup : S.Plan) (stopped : Option (ChildStopped S))
  | rejected (rejection : WorkerCreationRejection S) (startup : S.Plan)
      (stopped : Option (ChildStopped S))
  | unexpected (worker : PendingWorker S) (stopped : Option (ChildStopped S))
      (workers : CreationsSettled S)

end

variable {S : Signature}

/-! ### A pending worker -/

namespace PendingWorker

/-- `PendingWorker::await_creation`. -/
def awaitCreation (startup : S.Plan) (request : CreateChild S) (heap : ℕ) :
    PendingWorker S × CreateChild S :=
  let attempt := WorkerAttempt.issued request.id heap
  (⟨attempt, InitializationAttempt.issued attempt (heap + 1), request.kind, startup⟩, request)

/-- `PendingWorker::birth`; `none` hands the worker and its plan back. -/
def birth (creations : Sequence) (worker : S.Worker) (startup : S.Plan) (heap : ℕ) :
    Option ((PendingWorker S × CreateChild S) × Sequence) :=
  match creations.issue with
  | none => none
  | some (creation, creations) =>
    some (awaitCreation startup ⟨creation, worker, .birth⟩ heap, creations)

/-- `PendingWorker::replacement`; `none` hands the worker and its plan back. -/
def replacement (creations : Sequence) (previous : ℕ) (worker : S.Worker) (startup : S.Plan)
    (heap : ℕ) : Option ((PendingWorker S × CreateChild S) × Sequence) :=
  match creations.issue with
  | none => none
  | some (creation, creations) =>
    some (awaitCreation startup ⟨creation, worker, .replacement previous⟩ heap, creations)

/-- `PendingWorker::creation`. -/
def creation (worker : PendingWorker S) : ℕ := worker.attempt.creation

/-- `PendingWorker::cancel`. -/
def cancel (worker : PendingWorker S) (creation : CreateChild S) :
    WorkerAttempt × S.Worker × S.Plan :=
  (worker.attempt, creation.worker, worker.startup)

/-- `PendingWorker::admit_stop`. -/
def admitStop (worker : PendingWorker S) (stopped : ChildStopped S) : Bool :=
  stopped.child == worker.attempt.creation

/-- `PendingWorker::admit_creation`. -/
def admitCreation (worker : PendingWorker S) (settlement : WorkerCreationSettlement S) : Bool :=
  creationIdentity settlement == (worker.attempt.creation, worker.kind)

/-- `PendingWorker::created_one`. -/
def createdOne (self : PendingWorker S) (worker : WorkerCreationSettlement S)
    (stopped : Option (ChildStopped S)) : WorkerCreation S :=
  if self.admitCreation worker then
    match settleWorkerCreation worker with
    | .established actor =>
      .initializing ⟨self.attempt, self.initialization, actor⟩ self.startup stopped
    | .rejected rejection => .rejected rejection self.startup stopped
  else .unexpected self stopped (.settled [worker])

/-- `PendingWorker::created`: a batch that is not about one creation, and every corrupt
batch, is handed back. -/
def created (self : PendingWorker S) (workers : CreationsSettled S)
    (stopped : Option (ChildStopped S)) : WorkerCreation S :=
  match workers with
  | .rejected [creation] =>
    if (creation.id, creation.kind) == (self.creation, self.kind) then
      .rejected (.namespaceExhausted creation.worker) self.startup stopped
    else .unexpected self stopped (.rejected [creation])
  | .rejected creations => .unexpected self stopped (.rejected creations)
  | .settled [settlement] => self.createdOne settlement stopped
  | .settled settlements => .unexpected self stopped (.settled settlements)
  | .corrupt creations fault => .unexpected self stopped (.corrupt creations fault)

end PendingWorker

/-! ### An established worker -/

namespace CurrentWorker

/-- `CurrentWorker::admit_stop`. -/
def admitStop (worker : CurrentWorker S) (stopped : ChildStopped S) : Bool :=
  stopped.child == worker.attempt.creation

/-- `CurrentWorker::admit_initialization`. -/
def admitInitialization (worker : CurrentWorker S) (input : WorkerInitializationReport S) : Bool :=
  input.worker == worker.attempt && input.initialization == worker.initialization

end CurrentWorker

/-! ### A worker that is shut down -/

namespace WorkerStopping

/-- `WorkerStopping::begin`: the request carries the number of the worker's creation. -/
def begin (worker : CurrentWorker S) : WorkerStopping S × ShutdownEstablished S :=
  let shutdown : ShutdownEstablished S := ⟨worker.attempt.creation, worker.actor⟩
  (⟨worker, .requested shutdown.id, none⟩, shutdown)

variable (self : WorkerStopping S)

/-- `WorkerStopping::complete`. -/
def complete : ControlFlow (StoppedWorker S) (WorkerStopping S) :=
  match self.shutdown, self.stopped with
  | .settled shutdown, some stopped => .stop ⟨self.worker, shutdown, stopped⟩
  | _, _ => .resume self

/-- `WorkerStopping::shutdown_resolved`. -/
def shutdownResolved (input : EstablishedShutdownResolved) :
    Except (WorkerStopping S × EstablishedShutdownResolved)
      (ControlFlow (StoppedWorker S) (WorkerStopping S)) :=
  match self.shutdown with
  | .requested expected =>
    if input.id == expected then .ok { self with shutdown := .settled input }.complete
    else .error (self, input)
  | .settled _ => .error (self, input)

/-- `WorkerStopping::worker_stopped`. -/
def workerStopped (input : ChildStopped S) :
    Except (WorkerStopping S × ChildStopped S)
      (ControlFlow (StoppedWorker S) (WorkerStopping S)) :=
  match self.stopped with
  | none =>
    if self.worker.admitStop input then .ok { self with stopped := some input }.complete
    else .error (self, input)
  | some _ => .error (self, input)

/-- `WorkerStopping::into_stopped_before_shutdown`. -/
def intoStoppedBeforeShutdown :
    Except (WorkerStopping S) (CurrentWorker S × ℕ × ChildStopped S) :=
  match self.shutdown, self.stopped with
  | .requested shutdown, some stopped => .ok (self.worker, shutdown, stopped)
  | _, _ => .error self

end WorkerStopping

end Bombay.Proxy
