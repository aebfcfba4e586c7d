/-
# A stable proxy that is shut down

`crates/actors/src/templates/proxy/mod.rs`, "Owner shutdown and terminal custody
transitions".  Every arm below is an arm of the source; `self` carries the
counters a transition hands on.  The joins of initialization and startup with a
departing worker return what to continue with, or the retirement, or the input.
-/

import Bombay.Proxy.Protocol

namespace Bombay.Proxy

variable {S : Signature} {Message : Type}

variable (self : StableProxy S)

/-- `stop_with`. -/
def stopWith (retirement : ProxyRetirement S) : Acted S Message :=
  ({ self with state := .stopped retirement }, .stop)

/-- `finish_shutdown`. -/
def finishShutdown (departure : StoppedWorker S) : Acted S Message :=
  stopWith self (.worker departure)

/-- `finish_cancelled_replacement`. -/
def finishCancelledReplacement (replaces successor : WorkerAttempt)
    (predecessor : StoppedWorker S) : Acted S Message :=
  stopWith self (.replacementCancelled replaces successor predecessor)

/-- `finish_start_retirement`. -/
def finishStartRetirement (kind : WorkerStartKind)
    (retirement : WorkerStartRetirement S) : Acted S Message :=
  match kind with
  | .initial => stopWith self (.workerStart none retirement)
  | .replacement replaces .settled => stopWith self (.workerStart (some replaces) retirement)
  | .replacement replaces (.awaiting id) =>
    ({ self with state := .shuttingDown (.waitingForPredecessor replaces id retirement) }, .cont)

/-- `successor_departed`. -/
def successorDeparted (replaces : WorkerAttempt)
    (predecessor : PredecessorReturn) (result : WorkerStartResult S)
    (departure : StoppedWorker S) : Acted S Message :=
  let retirement := .readyWorker result departure
  match predecessor with
  | .awaiting shutdown =>
    ({ self with state := .shuttingDown (.waitingForPredecessor replaces shutdown retirement) },
      .cont)
  | .returned resolution =>
    stopWith self (.replacementAfterPredecessor replaces resolution retirement)

/-- `worker_return_result`. -/
def workerReturnResult (departure : StoppedWorker S) (failure : PreReadyFailure S) :
    WorkerStartResult S :=
  match failure with
  | .initializationEffects failure startup =>
    .unavailable departure.worker.attempt
      (.initializationRejected failure startup (some departure.shutdown) departure.stopped)
  | .startupRefused request reason =>
    .unavailable departure.worker.attempt
      (.startupRefused request reason (some departure.shutdown) departure.stopped)
  | .startupRejected rejection =>
    .unavailable departure.worker.attempt
      (.startupRejected rejection (some departure.shutdown) departure.stopped)

/-! ### Entering shutdown -/

/-- `begin_startup_shutdown`. -/
def beginStartupShutdown (worker : CurrentWorker S) (startup : StartupProgress)
    (stopped : Option (ChildStopped S)) :
    WorkerStartupShutdown S × Option (ShutdownEstablished S) :=
  match stopped with
  | some stopped => (.waitingForStartup startup worker none stopped, none)
  | none =>
    let (departure, shutdown) := WorkerStopping.begin worker
    (.departing (.pending startup) departure, some shutdown)

/-- `shutdown_start`. -/
def shutdownStart (start : WorkerStart S) : Acted S Message :=
  match start with
  | ⟨kind, .initializing worker (some stopped)⟩ =>
    ({ self with
        state := .shuttingDown (.initializing kind (.waitingForInitialization worker none stopped)) },
      .cont)
  | ⟨kind, .initializing worker none⟩ =>
    let (departure, shutdown) := WorkerStopping.begin worker
    ({ self with state := .shuttingDown (.initializing kind (.departing none departure)) },
      .requestWorkerShutdown shutdown)
  | ⟨kind, .starting worker progress stopped⟩ =>
    let (startup, shutdown) := beginStartupShutdown worker progress stopped
    ({ self with state := .shuttingDown (.starting kind startup) },
      match shutdown with
      | some shutdown => .requestWorkerShutdown shutdown
      | none => .cont)
  | ⟨kind, .returningWorker departure failure⟩ =>
    ({ self with state := .shuttingDown (.returningWorkerStart kind departure failure) }, .cont)
  | start => ({ self with state := .shuttingDown (.waitingForCreation start) }, .cont)

/-- `shutdown_replacement`. -/
def shutdownReplacement (replacement : ProxyReplacement S) :
    Acted S Message :=
  match replacement with
  | .returningPredecessor departure successor creation =>
    let replaces := departure.worker.attempt
    let (successorAttempt, worker, startup) := successor.cancel creation
    ({ self with
        state := .shuttingDown (.returningPredecessor departure replaces successorAttempt) },
      .report (.replacement (.cancelledBeforeBirth replaces worker startup)))
  | .successorResultAwaitingShutdown replaces shutdown (.ready worker result) =>
    let (departure, successorShutdown) := WorkerStopping.begin worker
    ({ self with
        state := .shuttingDown (.returningSuccessor replaces (.awaiting shutdown) departure result) },
      .requestWorkerShutdown successorShutdown)
  | .successorResultAwaitingShutdown replaces shutdown completion =>
    ({ self with
        state := .shuttingDown
          (.waitingForPredecessor replaces shutdown (.replacementCompletion completion)) },
      .cont)

/-- `owner_shutdown`. -/
def ownerShutdown : Acted S Message :=
  match self.state with
  | .dormant => stopWith self (.empty none)
  | .emptyInitial => stopWith self (.empty none)
  | .emptyAfter previous => stopWith self (.empty (some previous))
  | .ready worker =>
    let (departure, shutdown) := WorkerStopping.begin worker
    ({ self with state := .shuttingDown (.returningWorker departure) },
      .requestWorkerShutdown shutdown)
  | .starting start => shutdownStart self start
  | .replacing replacement => shutdownReplacement self replacement
  | .shuttingDown shutdown => ({ self with state := .shuttingDown shutdown }, .cont)
  | .stopped retirement => stopWith self retirement

/-! ### Creation -/

/-- `begin_shutdown_initialization`. -/
def beginShutdownInitialization (kind : WorkerStartKind)
    (worker : CurrentWorker S) (startup : S.Plan) (stopped : Option (ChildStopped S)) :
    Acted S Message :=
  let request : InitializeWorker S :=
    ⟨worker.attempt, worker.initialization, S.recipient worker.actor, startup⟩
  match stopped with
  | some stopped =>
    ({ self with
        state := .shuttingDown (.initializing kind (.waitingForInitialization worker none stopped)) },
      .requestInitialization request)
  | none =>
    let (departure, shutdown) := WorkerStopping.begin worker
    ({ self with state := .shuttingDown (.initializing kind (.departing none departure)) },
      .initializeAndShutdown request shutdown)

/-- `shutdown_workers_created`. -/
def shutdownWorkersCreated (shutdown : ProxyShutdown S)
    (workers : CreationsSettled S) : Acted S Message :=
  match shutdown with
  | .waitingForCreation ⟨kind, .creating worker stopped⟩ =>
    match worker.created workers stopped with
    | .initializing worker startup stopped =>
      beginShutdownInitialization self kind worker startup stopped
    | .rejected rejection startup stopped =>
      finishStartRetirement self kind (.result (.creationRejected rejection startup stopped))
    | .unexpected worker stopped workers =>
      unexpectedWorkerStart self
        (.shuttingDown (.waitingForCreation ⟨kind, .creating worker stopped⟩)) workers
  | shutdown => unexpectedWorkerStart self (.shuttingDown shutdown) workers

/-! ### Initialization -/

/-- What a join returns: what to continue with, a retirement, or the input. -/
abbrev Joined (S : Signature) (Current Input : Type) :=
  Except (Current × Input) (ControlFlow (WorkerStartRetirement S) Current)

/-- `continue_initialization_shutdown`, with what its callers do with an input that comes
back. -/
def continueInitializationShutdown {Input : Type} (kind : WorkerStartKind)
    (unexpected : StableProxy S → ProxyState S → Input → Acted S Message)
    (changed : Joined S (WorkerInitializationShutdown S) Input) : Acted S Message :=
  match changed with
  | .ok (.resume initialization) =>
    ({ self with state := .shuttingDown (.initializing kind initialization) }, .cont)
  | .ok (.stop retirement) => finishStartRetirement self kind retirement
  | .error (initialization, input) =>
    unexpected self (.shuttingDown (.initializing kind initialization)) input

/-- `retain_initialization_stop`. -/
def retainInitializationStop (departure : WorkerStopping S) (worker : WorkerAttempt)
    (initialization : InitializationAttempt) (startup : S.Plan) (stopped : ChildStopped S) :
    Joined S (WorkerInitializationShutdown S) (WorkerInitializationReport S) :=
  match departure.stopped with
  | some _ =>
    if departure.worker.admitStop stopped then
      .ok (.resume (.departing (some (.stopped startup (some stopped))) departure))
    else .error (.departing none departure, .stopped worker initialization startup stopped)
  | none =>
    match departure.workerStopped stopped with
    | .ok (.resume departure) =>
      .ok (.resume (.departing (some (.stopped startup none)) departure))
    | .ok (.stop departure) =>
      .ok (.stop (.initialization (.stopped startup none) departure.worker
        (some departure.shutdown) departure.stopped))
    | .error (departure, input) =>
      .error (.departing none departure, .stopped worker initialization startup input)

/-- `retain_initialization_while_departing`. -/
def retainInitializationWhileDeparting (departure : WorkerStopping S)
    (input : WorkerInitializationReport S) :
    Joined S (WorkerInitializationShutdown S) (WorkerInitializationReport S) :=
  match input with
  | .readyForStartup _ _ startup permit =>
    .ok (.resume (.departing (some (.initialized permit startup)) departure))
  | .effectsRejected _ _ startup failure =>
    .ok (.resume (.departing (some (.effectsRejected failure startup)) departure))
  | .stopped worker initialization startup stopped =>
    retainInitializationStop departure worker initialization startup stopped

/-- `classify_initialization_after_stop`; `none` hands the report back. -/
def classifyInitializationAfterStop (worker : CurrentWorker S)
    (input : WorkerInitializationReport S) : Option (WorkerInitializationRetirement S) :=
  match input with
  | .readyForStartup _ _ startup permit => some (.initialized permit startup)
  | .effectsRejected _ _ startup failure => some (.effectsRejected failure startup)
  | .stopped _ _ startup stopped =>
    if worker.admitStop stopped then some (.stopped startup (some stopped)) else none

/-- `admit_worker_initialized_during_shutdown`. -/
def admitWorkerInitializedDuringShutdown (current : WorkerInitializationShutdown S)
    (input : WorkerInitializationReport S) :
    Joined S (WorkerInitializationShutdown S) (WorkerInitializationReport S) :=
  match current with
  | .departing none departure =>
    if departure.worker.admitInitialization input then
      retainInitializationWhileDeparting departure input
    else .error (.departing none departure, input)
  | .departing (some initialization) departure =>
    .error (.departing (some initialization) departure, input)
  | .waitingForInitialization worker shutdown stopped =>
    if worker.admitInitialization input then
      match classifyInitializationAfterStop worker input with
      | some initialization => .ok (.stop (.initialization initialization worker shutdown stopped))
      | none => .error (.waitingForInitialization worker shutdown stopped, input)
    else .error (.waitingForInitialization worker shutdown stopped, input)

/-- `rejoin_initialization_departure`. -/
def rejoinInitializationDeparture {Input : Type}
    (initialization : Option (WorkerInitializationRetirement S))
    (admitted : Except (WorkerStopping S × Input)
      (ControlFlow (StoppedWorker S) (WorkerStopping S))) :
    Joined S (WorkerInitializationShutdown S) Input :=
  match admitted with
  | .ok (.resume departure) => .ok (.resume (.departing initialization departure))
  | .ok (.stop departure) =>
    match initialization with
    | none =>
      .ok (.resume (.waitingForInitialization departure.worker (some departure.shutdown)
        departure.stopped))
    | some initialization =>
      .ok (.stop (.initialization initialization departure.worker (some departure.shutdown)
        departure.stopped))
  | .error (departure, input) => .error (.departing initialization departure, input)

/-- `shutdown_worker_initialized`. -/
def shutdownWorkerInitialized (shutdown : ProxyShutdown S)
    (initialization : WorkerInitializationReport S) : Acted S Message :=
  match shutdown with
  | .initializing kind current =>
    continueInitializationShutdown self kind unexpectedInitialization
      (admitWorkerInitializedDuringShutdown current initialization)
  | shutdown => unexpectedInitialization self (.shuttingDown shutdown) initialization

/-! ### Startup -/

variable (progress : StartupProgress)

/-- `admit_startup`. -/
def admitStartup (input : WorkerStartup S) : Bool :=
  match progress with
  | .waitingForStart attempt => input.startup == attempt
  | .running attempt => input.startup == attempt

/-- `continue_startup_shutdown`, with what its callers do with an input that comes back. -/
def continueStartupShutdown {Input : Type} (kind : WorkerStartKind)
    (unexpected : StableProxy S → ProxyState S → Input → Acted S Message)
    (changed : Joined S (WorkerStartupShutdown S) Input) : Acted S Message :=
  match changed with
  | .ok (.resume startup) =>
    ({ self with state := .shuttingDown (.starting kind startup) }, .cont)
  | .ok (.stop retirement) => finishStartRetirement self kind retirement
  | .error (startup, input) => unexpected self (.shuttingDown (.starting kind startup)) input

/-- `advance_startup_during_shutdown`; `none` hands the report back. -/
def advanceStartupDuringShutdown (input : WorkerStartup S) :
    Option (StartupDuringDeparture S) :=
  match progress, input.outcome with
  | .waitingForStart attempt, .started => some (.pending (.running attempt))
  | .waitingForStart _, .startRejected request reason =>
    some (.returned (.startRejected request reason))
  | .running _, .ready readiness => some (.returned (.ready readiness))
  | .running _, .rejected rejection => some (.returned (.rejected rejection))
  | _, _ => none

/-- `retain_startup_while_departing`. -/
def retainStartupWhileDeparting (departure : WorkerStopping S)
    (input : WorkerStartup S) : Joined S (WorkerStartupShutdown S) (WorkerStartup S) :=
  match advanceStartupDuringShutdown progress input with
  | some startup => .ok (.resume (.departing startup departure))
  | none => .error (.departing (.pending progress) departure, input)

/-- `retain_startup_after_worker`. -/
def retainStartupAfterWorker (worker : CurrentWorker S)
    (shutdown : Option EstablishedShutdownResolved) (stopped : ChildStopped S)
    (input : WorkerStartup S) : Joined S (WorkerStartupShutdown S) (WorkerStartup S) :=
  match advanceStartupDuringShutdown progress input with
  | some (.pending startup) => .ok (.resume (.waitingForStartup startup worker shutdown stopped))
  | some (.returned startup) => .ok (.stop (.startup startup worker shutdown stopped))
  | none => .error (.waitingForStartup progress worker shutdown stopped, input)

/-- `admit_worker_startup_during_shutdown`. -/
def admitWorkerStartupDuringShutdown (current : WorkerStartupShutdown S)
    (input : WorkerStartup S) : Joined S (WorkerStartupShutdown S) (WorkerStartup S) :=
  match current with
  | .departing (.pending progress) departure =>
    if admitStartup progress input then retainStartupWhileDeparting progress departure input
    else .error (.departing (.pending progress) departure, input)
  | .departing (.returned startup) departure =>
    .error (.departing (.returned startup) departure, input)
  | .waitingForStartup startup worker shutdown stopped =>
    if admitStartup startup input then
      retainStartupAfterWorker startup worker shutdown stopped input
    else .error (.waitingForStartup startup worker shutdown stopped, input)

/-- `rejoin_startup_departure`. -/
def rejoinStartupDeparture {Input : Type} (startup : StartupDuringDeparture S)
    (admitted : Except (WorkerStopping S × Input)
      (ControlFlow (StoppedWorker S) (WorkerStopping S))) :
    Joined S (WorkerStartupShutdown S) Input :=
  match admitted with
  | .ok (.resume departure) => .ok (.resume (.departing startup departure))
  | .ok (.stop departure) =>
    match startup with
    | .pending startup =>
      .ok (.resume (.waitingForStartup startup departure.worker (some departure.shutdown)
        departure.stopped))
    | .returned startup =>
      .ok (.stop (.startup startup departure.worker (some departure.shutdown) departure.stopped))
  | .error (departure, input) => .error (.departing startup departure, input)

/-- `settle_shutdown_startup`. -/
def settleShutdownStartup (shutdown : ProxyShutdown S)
    (input : WorkerStartup S) : Acted S Message :=
  match shutdown with
  | .starting kind startup =>
    continueStartupShutdown self kind unexpectedStartup
      (admitWorkerStartupDuringShutdown startup input)
  | shutdown => unexpectedStartup self (.shuttingDown shutdown) input

/-! ### Settled shutdowns -/

/-- `successor_shutdown_resolved`. -/
def successorShutdownResolved (replaces : WorkerAttempt)
    (predecessor : PredecessorReturn) (departure : WorkerStopping S)
    (result : WorkerStartResult S) (resolution : EstablishedShutdownResolved) :
    Acted S Message :=
  match departure.shutdownResolved resolution with
  | .ok (.resume departure) =>
    ({ self with
        state := .shuttingDown (.returningSuccessor replaces predecessor departure result) }, .cont)
  | .ok (.stop departure) => successorDeparted self replaces predecessor result departure
  | .error (departure, input) =>
    unexpectedShutdown self
      (.shuttingDown (.returningSuccessor replaces predecessor departure result)) input

/-- `shutdown_resolved`. -/
def shutdownResolved (self : StableProxy S) (shutdown : ProxyShutdown S)
    (resolution : EstablishedShutdownResolved) : Acted S Message :=
  match shutdown with
  | .returningWorker departure =>
    match departure.shutdownResolved resolution with
    | .ok (.resume departure) =>
      ({ self with state := .shuttingDown (.returningWorker departure) }, .cont)
    | .ok (.stop departure) => finishShutdown self departure
    | .error (departure, input) =>
      unexpectedShutdown self (.shuttingDown (.returningWorker departure)) input
  | .returningWorkerStart kind departure failure =>
    match departure.shutdownResolved resolution with
    | .ok (.resume departure) =>
      ({ self with state := .shuttingDown (.returningWorkerStart kind departure failure) }, .cont)
    | .ok (.stop departure) =>
      finishStartRetirement self kind (.result (workerReturnResult departure failure))
    | .error (departure, input) =>
      unexpectedShutdown self (.shuttingDown (.returningWorkerStart kind departure failure)) input
  | .returningPredecessor departure replaces successor =>
    match departure.shutdownResolved resolution with
    | .ok (.resume departure) =>
      ({ self with state := .shuttingDown (.returningPredecessor departure replaces successor) },
        .cont)
    | .ok (.stop departure) => finishCancelledReplacement self replaces successor departure
    | .error (departure, input) =>
      unexpectedShutdown self
        (.shuttingDown (.returningPredecessor departure replaces successor)) input
  | .returningSuccessor replaces (.awaiting expected) departure result =>
    if resolution.id == expected then
      ({ self with
          state := .shuttingDown
            (.returningSuccessor replaces (.returned resolution) departure result) }, .cont)
    else
      successorShutdownResolved self replaces (.awaiting expected) departure result resolution
  | .returningSuccessor replaces (.returned returned) departure result =>
    successorShutdownResolved self replaces (.returned returned) departure result resolution
  | .initializing kind (.departing initialization departure) =>
    continueInitializationShutdown self kind unexpectedShutdown
      (rejoinInitializationDeparture initialization (departure.shutdownResolved resolution))
  | .initializing kind (.waitingForInitialization worker settled stopped) =>
    unexpectedShutdown self
      (.shuttingDown (.initializing kind (.waitingForInitialization worker settled stopped)))
      resolution
  | .starting kind startup =>
    continueStartupShutdown self kind unexpectedShutdown
      (match startup with
      | .departing startup departure =>
        rejoinStartupDeparture startup (departure.shutdownResolved resolution)
      | startup => .error (startup, resolution))
  | .waitingForPredecessor replaces expected retirement =>
    if resolution.id == expected then
      stopWith self (.replacementAfterPredecessor replaces resolution retirement)
    else
      unexpectedShutdown self
        (.shuttingDown (.waitingForPredecessor replaces expected retirement)) resolution
  | .waitingForCreation start =>
    unexpectedShutdown self (.shuttingDown (.waitingForCreation start)) resolution

/-! ### Stops -/

/-- `shutdown_worker_stopped`. -/
def shutdownWorkerStopped (shutdown : ProxyShutdown S)
    (stopped : ChildStopped S) : Acted S Message :=
  match shutdown with
  | .returningWorker departure =>
    match departure.workerStopped stopped with
    | .ok (.resume departure) =>
      ({ self with state := .shuttingDown (.returningWorker departure) }, .cont)
    | .ok (.stop departure) => finishShutdown self departure
    | .error (departure, input) =>
      unexpectedStop self (.shuttingDown (.returningWorker departure)) input
  | .returningWorkerStart kind departure failure =>
    match departure.workerStopped stopped with
    | .ok (.resume departure) =>
      ({ self with state := .shuttingDown (.returningWorkerStart kind departure failure) }, .cont)
    | .ok (.stop departure) =>
      finishStartRetirement self kind (.result (workerReturnResult departure failure))
    | .error (departure, input) =>
      unexpectedStop self (.shuttingDown (.returningWorkerStart kind departure failure)) input
  | .returningPredecessor departure replaces successor =>
    match departure.workerStopped stopped with
    | .ok (.resume departure) =>
      ({ self with state := .shuttingDown (.returningPredecessor departure replaces successor) },
        .cont)
    | .ok (.stop departure) => finishCancelledReplacement self replaces successor departure
    | .error (departure, input) =>
      unexpectedStop self
        (.shuttingDown (.returningPredecessor departure replaces successor)) input
  | .returningSuccessor replaces predecessor departure result =>
    match departure.workerStopped stopped with
    | .ok (.resume departure) =>
      ({ self with
          state := .shuttingDown (.returningSuccessor replaces predecessor departure result) },
        .cont)
    | .ok (.stop departure) => successorDeparted self replaces predecessor result departure
    | .error (departure, input) =>
      unexpectedStop self
        (.shuttingDown (.returningSuccessor replaces predecessor departure result)) input
  | .initializing kind (.departing initialization departure) =>
    continueInitializationShutdown self kind unexpectedStop
      (rejoinInitializationDeparture initialization (departure.workerStopped stopped))
  | .initializing kind (.waitingForInitialization worker settled held) =>
    unexpectedStop self
      (.shuttingDown (.initializing kind (.waitingForInitialization worker settled held))) stopped
  | .starting kind startup =>
    continueStartupShutdown self kind unexpectedStop
      (match startup with
      | .departing startup departure =>
        rejoinStartupDeparture startup (departure.workerStopped stopped)
      | startup => .error (startup, stopped))
  | .waitingForPredecessor replaces expected retirement =>
    unexpectedStop self
      (.shuttingDown (.waitingForPredecessor replaces expected retirement)) stopped
  | .waitingForCreation start =>
    unexpectedStop self (.shuttingDown (.waitingForCreation start)) stopped

end Bombay.Proxy
