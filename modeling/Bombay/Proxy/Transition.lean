/-
# The transitions of a stable proxy, and its runs

`crates/actors/src/templates/proxy/mod.rs`: service commands, the owner's
controls, and every fact about the worker, each matched on the state it meets.
`StableProxy::transition` is total; an input that no arm wants is diagnosed and
changes nothing.  A `Journal` records a run: a new proxy, then any finite sequence
of events in any order.
-/

import Bombay.Proxy.Shutdown

namespace Bombay.Proxy

variable {S : Signature} {Message : Type}

/-! ### Replacement -/

variable (self : StableProxy S)

/-- `publish_replacement`. -/
def publishReplacement (replaces : WorkerAttempt)
    (completion : ReplacementCompletion S) : Acted S Message :=
  match completion with
  | .ready worker result =>
    ({ self with state := .ready worker }, .report (.replacement (.resolved replaces result)))
  | .empty worker result =>
    ({ self with state := .emptyAfter worker }, .report (.replacement (.resolved replaces result)))
  | .readyAfterStop worker result stopped =>
    ({ self with state := .emptyAfter worker },
      .reportPair (.replacement (.resolved replaces result)) (.workerStopped worker stopped))

/-- `finish_replacement`. -/
def finishReplacement (replaces : WorkerAttempt)
    (predecessorShutdown : PredecessorShutdown) (completion : ReplacementCompletion S) :
    Acted S Message :=
  match predecessorShutdown with
  | .awaiting id =>
    ({ self with
        state := .replacing (.successorResultAwaitingShutdown replaces id completion) }, .cont)
  | .settled => publishReplacement self replaces completion

/-- `start_successor_after_stop`. -/
def startSuccessorAfterStop (replaces : WorkerAttempt)
    (predecessorShutdown : PredecessorShutdown) (successor : PendingWorker S)
    (creation : CreateChild S) (stopped : ChildStopped S) : Acted S Message :=
  ({ self with
      state := .starting
        ⟨.replacement replaces predecessorShutdown, .creating successor none⟩ },
    { workerObservations := [successor.creation]
      ownerOutcomes := [.workerStopped replaces stopped]
      creations := [creation] })

/-- `replace_worker`. -/
def replaceWorker (worker : S.Worker) (startup : S.Plan) :
    Acted S Message :=
  match self.state with
  | .ready currentWorker =>
    let replaces := currentWorker.attempt
    match PendingWorker.replacement self.creations replaces.creation worker startup self.heap with
    | some ((successor, creation), creations) =>
      let (departure, shutdown) := WorkerStopping.begin currentWorker
      (⟨.replacing (.returningPredecessor departure successor creation), creations, self.heap + 2⟩,
        .requestWorkerShutdown shutdown)
    | none =>
      ({ self with state := .ready currentWorker },
        .report (.replacement (.workerAttemptsExhausted replaces worker startup)))
  | .emptyAfter previous =>
    match PendingWorker.replacement self.creations previous.creation worker startup self.heap with
    | some ((pendingWorker, creation), creations) =>
      (⟨.starting ⟨.replacement previous .settled, .creating pendingWorker none⟩, creations,
          self.heap + 2⟩,
        .createWorker pendingWorker.creation creation)
    | none =>
      ({ self with state := .emptyAfter previous },
        .report (.replacement (.workerAttemptsExhausted previous worker startup)))
  | state =>
    ({ self with state := state },
      .report (.replacement (.notReplaceable worker startup state.phase)))

/-- `replacement_worker_stopped`. -/
def replacementWorkerStopped (replacement : ProxyReplacement S)
    (stopped : ChildStopped S) : Acted S Message :=
  match replacement with
  | .returningPredecessor departure successor creation =>
    match departure.workerStopped stopped with
    | .ok (.resume departure) =>
      match departure.intoStoppedBeforeShutdown with
      | .ok (worker, shutdown, stopped) =>
        startSuccessorAfterStop self worker.attempt (.awaiting shutdown) successor creation stopped
      | .error departure =>
        ({ self with state := .replacing (.returningPredecessor departure successor creation) },
          .cont)
    | .ok (.stop departure) =>
      startSuccessorAfterStop self departure.worker.attempt .settled successor creation
        departure.stopped
    | .error (departure, input) =>
      unexpectedStop self (.replacing (.returningPredecessor departure successor creation)) input
  | .successorResultAwaitingShutdown replaces shutdown (.ready worker result) =>
    if worker.admitStop stopped then
      ({ self with
          state := .replacing (.successorResultAwaitingShutdown replaces shutdown
            (.readyAfterStop worker.attempt result stopped)) }, .cont)
    else
      unexpectedStop self
        (.replacing (.successorResultAwaitingShutdown replaces shutdown (.ready worker result)))
        stopped
  | replacement => unexpectedStop self (.replacing replacement) stopped

/-- `replacement_shutdown_resolved`. -/
def replacementShutdownResolved (replacement : ProxyReplacement S)
    (shutdown : EstablishedShutdownResolved) : Acted S Message :=
  match replacement with
  | .returningPredecessor departure successor creation =>
    match departure.shutdownResolved shutdown with
    | .ok (.resume departure) =>
      ({ self with state := .replacing (.returningPredecessor departure successor creation) },
        .cont)
    | .ok (.stop departure) =>
      startSuccessorAfterStop self departure.worker.attempt .settled successor creation
        departure.stopped
    | .error (departure, input) =>
      unexpectedShutdown self (.replacing (.returningPredecessor departure successor creation))
        input
  | .successorResultAwaitingShutdown replaces expected completion =>
    if shutdown.id == expected then publishReplacement self replaces completion
    else
      unexpectedShutdown self
        (.replacing (.successorResultAwaitingShutdown replaces expected completion)) shutdown

/-! ### The result of a start -/

/-- `worker_creation_rejected`. -/
def workerCreationRejected (kind : WorkerStartKind)
    (result : WorkerStartResult S) : Acted S Message :=
  match kind with
  | .initial =>
    ({ self with state := .emptyInitial }, .report (.initial (.resolved result)))
  | .replacement replaces predecessorShutdown =>
    finishReplacement self replaces predecessorShutdown (.empty replaces result)

/-- `worker_start_ready`. -/
def workerStartReady (kind : WorkerStartKind) (worker : CurrentWorker S)
    (result : WorkerStartResult S) : Acted S Message :=
  match kind with
  | .initial =>
    ({ self with state := .ready worker }, .report (.initial (.resolved result)))
  | .replacement replaces predecessorShutdown =>
    finishReplacement self replaces predecessorShutdown (.ready worker result)

/-- `worker_start_empty`. -/
def workerStartEmpty (kind : WorkerStartKind) (previous : WorkerAttempt)
    (result : WorkerStartResult S) : Acted S Message :=
  match kind with
  | .initial =>
    ({ self with state := .emptyAfter previous }, .report (.initial (.resolved result)))
  | .replacement replaces predecessorShutdown =>
    finishReplacement self replaces predecessorShutdown (.empty previous result)

/-- `worker_returned`. -/
def workerReturned (kind : WorkerStartKind) (departure : StoppedWorker S)
    (failure : PreReadyFailure S) : Acted S Message :=
  workerStartEmpty self kind departure.worker.attempt (workerReturnResult departure failure)

/-- `return_worker`. -/
def returnWorker (kind : WorkerStartKind) (worker : CurrentWorker S)
    (failure : PreReadyFailure S) : Acted S Message :=
  let (departure, shutdown) := WorkerStopping.begin worker
  ({ self with state := .starting ⟨kind, .returningWorker departure failure⟩ },
    .requestWorkerShutdown shutdown)

/-! ### Service and owner -/

/-- `service`. -/
def service (sender : S.Address) (message : Message) : Acted S Message :=
  match self.state with
  | .ready worker =>
    ({ self with state := .ready worker },
      { workerDeliveries := [⟨S.recipient worker.actor, message⟩] })
  | state => ({ self with state := state }, .report (.unavailable sender state.phase message))

/-- `begin_initial`. -/
def beginInitial (worker : S.Worker) (startup : S.Plan) :
    Acted S Message :=
  match PendingWorker.birth self.creations worker startup self.heap with
  | some ((pendingWorker, creation), creations) =>
    (⟨.starting ⟨.initial, .creating pendingWorker none⟩, creations, self.heap + 2⟩,
      .createWorker pendingWorker.creation creation)
  | none =>
    ({ self with state := .dormant },
      .report (.initial (.workerAttemptsExhausted worker startup)))

/-- `start_initial`. -/
def startInitial (worker : S.Worker) (startup : S.Plan) :
    Acted S Message :=
  match self.state with
  | .dormant => beginInitial self worker startup
  | state =>
    ({ self with state := state }, .report (.initial (.overlap worker startup state.phase)))

/-- `owner`. -/
def owner (control : ProxyCommand S) : Acted S Message :=
  match control with
  | .start submission => startInitial self submission.worker submission.startup
  | .replace submission => replaceWorker self submission.worker submission.startup
  | .shutdown => ownerShutdown self

/-! ### Facts about the worker -/

/-- `await_initialization`. -/
def awaitInitialization (kind : WorkerStartKind)
    (worker : CurrentWorker S) (startup : S.Plan) (stopped : Option (ChildStopped S)) :
    Acted S Message :=
  ({ self with state := .starting ⟨kind, .initializing worker stopped⟩ },
    .requestInitialization
      ⟨worker.attempt, worker.initialization, S.recipient worker.actor, startup⟩)

/-- `workers_created`. -/
def workersCreated (workers : CreationsSettled S) : Acted S Message :=
  match self.state with
  | .starting ⟨kind, .creating worker stopped⟩ =>
    match worker.created workers stopped with
    | .initializing worker startup stopped => awaitInitialization self kind worker startup stopped
    | .rejected rejection startup stopped =>
      workerCreationRejected self kind (.creationRejected rejection startup stopped)
    | .unexpected worker stopped workers =>
      unexpectedWorkerStart self (.starting ⟨kind, .creating worker stopped⟩) workers
  | .shuttingDown shutdown => shutdownWorkersCreated self shutdown workers
  | state => unexpectedWorkerStart self state workers

/-- `admit_pre_ready_stop`. -/
def admitPreReadyStop (phase : WorkerStartPhase S) (stopped : ChildStopped S) :
    Option (WorkerStartPhase S) :=
  match phase with
  | .creating worker none =>
    if worker.admitStop stopped then some (.creating worker (some stopped)) else none
  | .initializing worker none =>
    if worker.admitStop stopped then some (.initializing worker (some stopped)) else none
  | .starting worker progress none =>
    if worker.admitStop stopped then some (.starting worker progress (some stopped)) else none
  | _ => none

/-- `worker_start_stopped`. -/
def workerStartStopped (start : WorkerStart S) (stopped : ChildStopped S) :
    Acted S Message :=
  match start with
  | ⟨kind, .returningWorker departure failure⟩ =>
    match departure.workerStopped stopped with
    | .ok (.resume departure) =>
      ({ self with state := .starting ⟨kind, .returningWorker departure failure⟩ }, .cont)
    | .ok (.stop departure) => workerReturned self kind departure failure
    | .error (departure, input) =>
      unexpectedStop self (.starting ⟨kind, .returningWorker departure failure⟩) input
  | ⟨kind, phase⟩ =>
    match admitPreReadyStop phase stopped with
    | some phase => ({ self with state := .starting ⟨kind, phase⟩ }, .cont)
    | none => unexpectedStop self (.starting ⟨kind, phase⟩) stopped

/-- `worker_stopped`. -/
def workerStopped (self : StableProxy S) (stopped : ChildStopped S) : Acted S Message :=
  match self.state with
  | .starting start => workerStartStopped self start stopped
  | .replacing replacement => replacementWorkerStopped self replacement stopped
  | .shuttingDown shutdown => shutdownWorkerStopped self shutdown stopped
  | .ready worker =>
    if worker.admitStop stopped then
      ({ self with state := .emptyAfter worker.attempt },
        .report (.workerStopped worker.attempt stopped))
    else unexpectedStop self (.ready worker) stopped
  | state => unexpectedStop self state stopped

/-- `initialization_resolved`. -/
def initializationResolved (kind : WorkerStartKind)
    (worker : CurrentWorker S) (stopped : Option (ChildStopped S))
    (initialization : WorkerInitializationReport S) : Acted S Message :=
  match initialization, stopped with
  | .readyForStartup _ _ startup permit, some stopped =>
    workerStartEmpty self kind worker.attempt
      (.unavailable worker.attempt (.initializationCompleted permit startup stopped))
  | .readyForStartup _ _ startup permit, none =>
    let request := StartWorker.new startup permit self.heap
    ({ self with
        state := .starting ⟨kind, .starting worker (.waitingForStart request.startup) none⟩
        heap := self.heap + 1 },
      .beginStartup request)
  | .effectsRejected _ _ startup failure, some stopped =>
    workerStartEmpty self kind worker.attempt
      (.unavailable worker.attempt (.initializationRejected failure startup none stopped))
  | .effectsRejected _ _ startup failure, none =>
    returnWorker self kind worker (.initializationEffects failure startup)
  | .stopped attempt initialization startup returned, stopped =>
    if worker.admitStop returned then
      workerStartEmpty self kind worker.attempt
        (.unavailable worker.attempt (.initializationStopped startup stopped returned))
    else
      unexpectedInitialization self (.starting ⟨kind, .initializing worker stopped⟩)
        (.stopped attempt initialization startup returned)

/-- `worker_initialized`. -/
def workerInitialized (initialization : WorkerInitializationReport S) :
    Acted S Message :=
  match self.state with
  | .starting ⟨kind, .initializing worker stopped⟩ =>
    if worker.admitInitialization initialization then
      initializationResolved self kind worker stopped initialization
    else
      unexpectedInitialization self (.starting ⟨kind, .initializing worker stopped⟩) initialization
  | .shuttingDown shutdown => shutdownWorkerInitialized self shutdown initialization
  | state => unexpectedInitialization self state initialization

/-- `startup_waiting`. -/
def startupWaiting (kind : WorkerStartKind) (worker : CurrentWorker S)
    (startup : WorkerStartupGrant) (stopped : Option (ChildStopped S))
    (input : WorkerStartup S) : Acted S Message :=
  match input.outcome, stopped with
  | .started, stopped =>
    ({ self with state := .starting ⟨kind, .starting worker (.running startup) stopped⟩ }, .cont)
  | .startRejected request reason, some stopped =>
    workerStartEmpty self kind worker.attempt
      (.unavailable worker.attempt (.startupRefused request reason none stopped))
  | .startRejected request reason, none =>
    returnWorker self kind worker (.startupRefused request reason)
  | _, stopped =>
    unexpectedStartup self (.starting ⟨kind, .starting worker (.waitingForStart startup) stopped⟩)
      input

/-- `startup_running`. -/
def startupRunning (kind : WorkerStartKind) (worker : CurrentWorker S)
    (startup : WorkerStartupGrant) (stopped : Option (ChildStopped S))
    (input : WorkerStartup S) : Acted S Message :=
  match input.outcome, stopped with
  | .ready readiness, some stopped =>
    workerStartEmpty self kind worker.attempt
      (.unavailable worker.attempt (.startupCompleted readiness stopped))
  | .ready readiness, none =>
    workerStartReady self kind worker (.ready worker.attempt readiness)
  | .rejected rejection, some stopped =>
    workerStartEmpty self kind worker.attempt
      (.unavailable worker.attempt (.startupRejected rejection none stopped))
  | .rejected rejection, none => returnWorker self kind worker (.startupRejected rejection)
  | _, stopped =>
    unexpectedStartup self (.starting ⟨kind, .starting worker (.running startup) stopped⟩) input

/-- `settle_worker_startup`. -/
def settleWorkerStartup (input : WorkerStartup S) : Acted S Message :=
  match self.state with
  | .starting ⟨kind, .starting worker progress stopped⟩ =>
    if admitStartup progress input then
      match progress with
      | .waitingForStart startup => startupWaiting self kind worker startup stopped input
      | .running startup => startupRunning self kind worker startup stopped input
    else unexpectedStartup self (.starting ⟨kind, .starting worker progress stopped⟩) input
  | .shuttingDown shutdown => settleShutdownStartup self shutdown input
  | state => unexpectedStartup self state input

/-- `worker_start_shutdown_resolved`. -/
def workerStartShutdownResolved (start : WorkerStart S)
    (shutdown : EstablishedShutdownResolved) : Acted S Message :=
  match start with
  | ⟨kind, .returningWorker departure failure⟩ =>
    match departure.shutdownResolved shutdown with
    | .ok (.resume departure) =>
      ({ self with state := .starting ⟨kind, .returningWorker departure failure⟩ }, .cont)
    | .ok (.stop departure) => workerReturned self kind departure failure
    | .error (departure, input) =>
      unexpectedShutdown self (.starting ⟨kind, .returningWorker departure failure⟩) input
  | start => unexpectedShutdown self (.starting start) shutdown

/-- `worker_shutdown_resolved`. -/
def workerShutdownResolved (shutdown : EstablishedShutdownResolved) :
    Acted S Message :=
  match self.state with
  | .starting ⟨.replacement replaces (.awaiting id), phase⟩ =>
    if shutdown.id == id then
      ({ self with state := .starting ⟨.replacement replaces .settled, phase⟩ }, .cont)
    else workerStartShutdownResolved self ⟨.replacement replaces (.awaiting id), phase⟩ shutdown
  | .starting start => workerStartShutdownResolved self start shutdown
  | .replacing replacement => replacementShutdownResolved self replacement shutdown
  | .shuttingDown proxyShutdown => shutdownResolved self proxyShutdown shutdown
  | state => unexpectedShutdown self state shutdown

/-! ### Whole runs -/

/-- `accept`, and with it `StableProxy::transition`. -/
def StableProxy.transition (event : ProxyEvent S Message) :
    Acted S Message :=
  match event with
  | .service sender message => service self sender message
  | .owner control => owner self control
  | .workerCreationsSettled workers => workersCreated self workers
  | .workerInitialization initialization => workerInitialized self initialization
  | .workerStartupReported startup => settleWorkerStartup self startup
  | .workerShutdownResolved shutdown => workerShutdownResolved self shutdown
  | .workerStopped stopped => workerStopped self stopped

/-- One transition of a run. -/
structure Entry (S : Signature) (Message : Type) where
  before : StableProxy S
  event : ProxyEvent S Message
  actions : ProxyActions S Message
  after : StableProxy S

/-- A run so far: the proxy now, and every transition that led to it. -/
structure Journal (S : Signature) (Message : Type) where
  proxy : StableProxy S
  entries : List (Entry S Message)

/-- The entry that records one more event. -/
def StableProxy.entry (proxy : StableProxy S) (event : ProxyEvent S Message) : Entry S Message :=
  ⟨proxy, event, (proxy.transition event).2, (proxy.transition event).1⟩

/-- The journal after one more event. -/
def Journal.step (journal : Journal S Message) (event : ProxyEvent S Message) :
    Journal S Message :=
  ⟨(journal.proxy.entry event).after, journal.entries ++ [journal.proxy.entry event]⟩

/-- **A run**: a new proxy, then any events in any order. -/
def run (events : List (ProxyEvent S Message)) : Journal S Message :=
  events.foldl Journal.step ⟨.new, []⟩

theorem run_snoc (events : List (ProxyEvent S Message)) (event : ProxyEvent S Message) :
    run (events ++ [event]) = (run events).step event := by
  unfold run
  rw [List.foldl_append, List.foldl_cons, List.foldl_nil]

/-- **Induction over a run.** -/
theorem run_invariant {motive : Journal S Message → Prop} (hbegin : motive ⟨.new, []⟩)
    (hstep : ∀ journal event, motive journal → motive (journal.step event))
    (events : List (ProxyEvent S Message)) : motive (run events) := by
  induction events using List.reverseRecOn with
  | nil => exact hbegin
  | append_singleton events event ih =>
    rw [run_snoc]
    exact hstep _ event ih

end Bombay.Proxy
