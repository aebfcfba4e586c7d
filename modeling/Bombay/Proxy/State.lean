/-
# The states of a stable proxy

`crates/actors/src/templates/proxy/state.rs`: what each phase of a proxy owns.  A
worker is started, serves, is replaced and is drained; every state names the
worker it is about and the facts it waits for.
-/

import Bombay.Proxy.Worker

namespace Bombay.Proxy

/-- `ProxyPhase`. -/
inductive ProxyPhase where
  | dormant
  | creating
  | initializing
  | starting
  | ready
  | emptyInitial
  | emptyAfter
  | replacing
  | returningWorker
  | shuttingDown
  | stopped
  deriving DecidableEq, Repr

/-- `PredecessorShutdown`. -/
inductive PredecessorShutdown where
  | settled
  | awaiting (id : ℕ)
  deriving DecidableEq, Repr

/-- `WorkerStartKind`. -/
inductive WorkerStartKind where
  | initial
  | replacement (replaces : WorkerAttempt) (predecessorShutdown : PredecessorShutdown)
  deriving DecidableEq, Repr

/-- `StartupProgress<W, P>`. -/
inductive StartupProgress where
  | waitingForStart (startup : WorkerStartupGrant)
  | running (startup : WorkerStartupGrant)
  deriving DecidableEq, Repr

/-- `PredecessorReturn<W>`. -/
inductive PredecessorReturn where
  | awaiting (shutdown : ℕ)
  | returned (resolution : EstablishedShutdownResolved)
  deriving DecidableEq, Repr

section

variable (S : Signature)

/-- `PreReadyFailure<W, P>`. -/
inductive PreReadyFailure where
  | initializationEffects (failure : WorkerInitializationFailure) (startup : S.Plan)
  | startupRefused (request : StartWorker S) (reason : StartupRejection)
  | startupRejected (rejection : S.Rejection)

/-- `ReplacementCompletion<W, P>`. -/
inductive ReplacementCompletion where
  | ready (worker : CurrentWorker S) (result : WorkerStartResult S)
  | readyAfterStop (worker : WorkerAttempt) (result : WorkerStartResult S)
      (stopped : ChildStopped S)
  | empty (worker : WorkerAttempt) (result : WorkerStartResult S)

/-- `ProxyReplacement<W, P>`. -/
inductive ProxyReplacement where
  | returningPredecessor (departure : WorkerStopping S) (successor : PendingWorker S)
      (creation : CreateChild S)
  | successorResultAwaitingShutdown (replaces : WorkerAttempt) (shutdown : ℕ)
      (completion : ReplacementCompletion S)

/-- `WorkerStartPhase<W, P>`. -/
inductive WorkerStartPhase where
  | creating (worker : PendingWorker S) (stopped : Option (ChildStopped S))
  | initializing (worker : CurrentWorker S) (stopped : Option (ChildStopped S))
  | starting (worker : CurrentWorker S) (progress : StartupProgress)
      (stopped : Option (ChildStopped S))
  | returningWorker (departure : WorkerStopping S) (failure : PreReadyFailure S)

/-- `WorkerStart<W, P>`. -/
structure WorkerStart where
  kind : WorkerStartKind
  phase : WorkerStartPhase S

/-- `WorkerInitializationRetirement<W, P>`. -/
inductive WorkerInitializationRetirement where
  | initialized (permit : StartupPermit S) (startup : S.Plan)
  | effectsRejected (failure : WorkerInitializationFailure) (startup : S.Plan)
  | stopped (startup : S.Plan) (initializationStop : Option (ChildStopped S))

/-- `WorkerInitializationShutdown<W, P>`. -/
inductive WorkerInitializationShutdown where
  | departing (initialization : Option (WorkerInitializationRetirement S))
      (departure : WorkerStopping S)
  | waitingForInitialization (worker : CurrentWorker S)
      (shutdown : Option EstablishedShutdownResolved) (stopped : ChildStopped S)

/-- `WorkerStartupRetirement<W, P>`. -/
inductive WorkerStartupRetirement where
  | startRejected (request : StartWorker S) (reason : StartupRejection)
  | ready (readiness : S.Ready)
  | rejected (rejection : S.Rejection)

/-- `StartupDuringDeparture<W, P>`. -/
inductive StartupDuringDeparture where
  | pending (progress : StartupProgress)
  | returned (startup : WorkerStartupRetirement S)

/-- `WorkerStartupShutdown<W, P>`. -/
inductive WorkerStartupShutdown where
  | departing (startup : StartupDuringDeparture S) (departure : WorkerStopping S)
  | waitingForStartup (startup : StartupProgress) (worker : CurrentWorker S)
      (shutdown : Option EstablishedShutdownResolved) (stopped : ChildStopped S)

/-- `WorkerStartRetirement<W, P>`. -/
inductive WorkerStartRetirement where
  | result (result : WorkerStartResult S)
  | initialization (initialization : WorkerInitializationRetirement S) (worker : CurrentWorker S)
      (shutdown : Option EstablishedShutdownResolved) (stopped : ChildStopped S)
  | startup (startup : WorkerStartupRetirement S) (worker : CurrentWorker S)
      (shutdown : Option EstablishedShutdownResolved) (stopped : ChildStopped S)
  | readyWorker (result : WorkerStartResult S) (departure : StoppedWorker S)
  | replacementCompletion (completion : ReplacementCompletion S)

/-- `ProxyRetirement<W, P>`. -/
inductive ProxyRetirement where
  | empty (previous : Option WorkerAttempt)
  | replacementCancelled (replaces successor : WorkerAttempt) (predecessor : StoppedWorker S)
  | worker (departure : StoppedWorker S)
  | workerStart (replaces : Option WorkerAttempt) (retirement : WorkerStartRetirement S)
  | replacementAfterPredecessor (replaces : WorkerAttempt)
      (predecessor : EstablishedShutdownResolved) (retirement : WorkerStartRetirement S)

/-- `ProxyShutdown<W, P>`. -/
inductive ProxyShutdown where
  | waitingForCreation (start : WorkerStart S)
  | returningWorker (departure : WorkerStopping S)
  | returningWorkerStart (kind : WorkerStartKind) (departure : WorkerStopping S)
      (failure : PreReadyFailure S)
  | returningPredecessor (departure : WorkerStopping S) (replaces successor : WorkerAttempt)
  | returningSuccessor (replaces : WorkerAttempt) (predecessor : PredecessorReturn)
      (departure : WorkerStopping S) (result : WorkerStartResult S)
  | initializing (kind : WorkerStartKind) (initialization : WorkerInitializationShutdown S)
  | starting (kind : WorkerStartKind) (startup : WorkerStartupShutdown S)
  | waitingForPredecessor (replaces : WorkerAttempt) (shutdown : ℕ)
      (retirement : WorkerStartRetirement S)

/-- `ProxyState<W, P>`. -/
inductive ProxyState where
  | dormant
  | starting (start : WorkerStart S)
  | ready (worker : CurrentWorker S)
  | emptyInitial
  | emptyAfter (previous : WorkerAttempt)
  | replacing (replacement : ProxyReplacement S)
  | shuttingDown (shutdown : ProxyShutdown S)
  | stopped (retirement : ProxyRetirement S)

/-- `StableProxy<W, P>`, with the number of tokens allocated so far. -/
structure StableProxy where
  state : ProxyState S
  creations : Sequence
  heap : ℕ

end

variable {S : Signature}

/-- `ProxyState::phase`. -/
def ProxyState.phase : ProxyState S → ProxyPhase
  | .dormant => .dormant
  | .starting ⟨_, .creating _ _⟩ => .creating
  | .starting ⟨_, .initializing _ _⟩ => .initializing
  | .starting ⟨_, .starting _ _ _⟩ => .starting
  | .starting ⟨_, .returningWorker _ _⟩ => .returningWorker
  | .ready _ => .ready
  | .emptyInitial => .emptyInitial
  | .emptyAfter _ => .emptyAfter
  | .replacing _ => .replacing
  | .shuttingDown _ => .shuttingDown
  | .stopped _ => .stopped

/-- `StableProxy::new`; the first creation is number one. -/
def StableProxy.new : StableProxy S := ⟨.dormant, ⟨some 1⟩, 0⟩

end Bombay.Proxy
