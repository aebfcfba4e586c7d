/-
# Everything a transition of a stable proxy can do

A worker that is shut down is in one of eight places of the state, and in each of
them its departure joins the settlement of the request with the stop in the same
way: a `Leaving` is such a place, with what happens there once both are in.  A
`Turn` lists what `StableProxy::transition` does, one constructor for each way in
which the state goes on, and `Stays` what leaves the proxy as it is.
-/

import Bombay.Proxy.Transition

namespace Bombay.Proxy

variable {S : Signature} {Message : Type}

/-! ### Places where a worker leaves -/

/-- A place of the state that holds a `WorkerStopping`. -/
inductive Leaving (S : Signature) where
  /-- `WorkerStartPhase::ReturningWorker`. -/
  | returningStart (kind : WorkerStartKind) (failure : PreReadyFailure S)
  /-- `ProxyReplacement::ReturningPredecessor`. -/
  | returningPredecessor (successor : PendingWorker S) (creation : CreateChild S)
  /-- `ProxyShutdown::ReturningWorker`. -/
  | returningWorker
  /-- `ProxyShutdown::ReturningWorkerStart`. -/
  | retiringStart (kind : WorkerStartKind) (failure : PreReadyFailure S)
  /-- `ProxyShutdown::ReturningPredecessor`. -/
  | cancelledPredecessor (replaces successor : WorkerAttempt)
  /-- `ProxyShutdown::ReturningSuccessor`. -/
  | returningSuccessor (replaces : WorkerAttempt) (predecessor : PredecessorReturn)
      (result : WorkerStartResult S)
  /-- `WorkerInitializationShutdown::Departing`. -/
  | retiringInitialization (kind : WorkerStartKind)
      (initialization : Option (WorkerInitializationRetirement S))
  /-- `WorkerStartupShutdown::Departing`. -/
  | retiringStartup (kind : WorkerStartKind) (startup : StartupDuringDeparture S)

/-- The state with a departure in its place. -/
def Leaving.state (place : Leaving S) (departure : WorkerStopping S) : ProxyState S :=
  match place with
  | .returningStart kind failure => .starting ⟨kind, .returningWorker departure failure⟩
  | .returningPredecessor successor creation =>
    .replacing (.returningPredecessor departure successor creation)
  | .returningWorker => .shuttingDown (.returningWorker departure)
  | .retiringStart kind failure => .shuttingDown (.returningWorkerStart kind departure failure)
  | .cancelledPredecessor replaces successor =>
    .shuttingDown (.returningPredecessor departure replaces successor)
  | .returningSuccessor replaces predecessor result =>
    .shuttingDown (.returningSuccessor replaces predecessor departure result)
  | .retiringInitialization kind initialization =>
    .shuttingDown (.initializing kind (.departing initialization departure))
  | .retiringStartup kind startup => .shuttingDown (.starting kind (.departing startup departure))

/-- What happens in a place once its worker has left. -/
def Leaving.left (place : Leaving S) (self : StableProxy S) (departure : StoppedWorker S) :
    Acted S Message :=
  match place with
  | .returningStart kind failure => workerReturned self kind departure failure
  | .returningPredecessor successor creation =>
    startSuccessorAfterStop self departure.worker.attempt .settled successor creation
      departure.stopped
  | .returningWorker => finishShutdown self departure
  | .retiringStart kind failure =>
    finishStartRetirement self kind (.result (workerReturnResult departure failure))
  | .cancelledPredecessor replaces successor =>
    finishCancelledReplacement self replaces successor departure
  | .returningSuccessor replaces predecessor result =>
    successorDeparted self replaces predecessor result departure
  | .retiringInitialization kind none =>
    ({ self with
        state := .shuttingDown (.initializing kind (.waitingForInitialization departure.worker
          (some departure.shutdown) departure.stopped)) }, .cont)
  | .retiringInitialization kind (some initialization) =>
    finishStartRetirement self kind (.initialization initialization departure.worker
      (some departure.shutdown) departure.stopped)
  | .retiringStartup kind (.pending startup) =>
    ({ self with
        state := .shuttingDown (.starting kind (.waitingForStartup startup departure.worker
          (some departure.shutdown) departure.stopped)) }, .cont)
  | .retiringStartup kind (.returned startup) =>
    finishStartRetirement self kind (.startup startup departure.worker (some departure.shutdown)
      departure.stopped)

/-- A predecessor that stops has its successor started at once. -/
def Leaving.isPredecessor : Leaving S → Bool
  | .returningPredecessor _ _ => true
  | _ => false

theorem Leaving.eq_returningPredecessor {place : Leaving S} (h : place.isPredecessor = true) :
    ∃ successor creation, place = .returningPredecessor successor creation := by
  cases place with
  | returningPredecessor successor creation => exact ⟨successor, creation, rfl⟩
  | _ => cases h

/-! ### What the joins of a departure do -/

theorem WorkerStopping.shutdownResolved_cases (departure : WorkerStopping S)
    (input : EstablishedShutdownResolved) :
    (departure.shutdownResolved input = .error (departure, input)) ∨
    (departure.shutdown = .requested input.id ∧ departure.stopped = none ∧
      departure.shutdownResolved input = .ok (.resume { departure with shutdown := .settled input })) ∨
    (∃ stopped, departure.shutdown = .requested input.id ∧ departure.stopped = some stopped ∧
      departure.shutdownResolved input = .ok (.stop ⟨departure.worker, input, stopped⟩)) := by
  obtain ⟨worker, shutdown, stopped⟩ := departure
  cases shutdown with
  | settled _ => exact .inl rfl
  | requested id =>
    by_cases hid : input.id = id
    · subst hid
      cases stopped with
      | none => exact .inr (.inl ⟨rfl, rfl, by simp [shutdownResolved, complete]⟩)
      | some stopped => exact .inr (.inr ⟨stopped, rfl, rfl, by simp [shutdownResolved, complete]⟩)
    · exact .inl (by simp [shutdownResolved, hid])

theorem WorkerStopping.workerStopped_cases (departure : WorkerStopping S)
    (input : ChildStopped S) :
    (departure.workerStopped input = .error (departure, input)) ∨
    (∃ id, departure.shutdown = .requested id ∧ departure.stopped = none ∧
      input.child = departure.worker.attempt.creation ∧
      departure.workerStopped input = .ok (.resume { departure with stopped := some input })) ∨
    (∃ settlement, departure.shutdown = .settled settlement ∧ departure.stopped = none ∧
      input.child = departure.worker.attempt.creation ∧
      departure.workerStopped input = .ok (.stop ⟨departure.worker, settlement, input⟩)) := by
  obtain ⟨worker, shutdown, stopped⟩ := departure
  cases stopped with
  | some _ => exact .inl rfl
  | none =>
    by_cases hchild : input.child = worker.attempt.creation
    · cases shutdown with
      | requested id =>
        exact .inr (.inl ⟨id, rfl, rfl, hchild,
          by simp [workerStopped, CurrentWorker.admitStop, hchild, complete]⟩)
      | settled settlement =>
        exact .inr (.inr ⟨settlement, rfl, rfl, hchild,
          by simp [workerStopped, CurrentWorker.admitStop, hchild, complete]⟩)
    · exact .inl (by simp [workerStopped, CurrentWorker.admitStop, hchild])

/-! ### What a settlement makes of a pending worker -/

/-- The settlement of one creation, as a pending worker reads it. -/
inductive PendingWorker.Reads (worker : PendingWorker S) (stopped : Option (ChildStopped S)) :
    CreationsSettled S → WorkerCreation S → Prop
  | established {settlement actor}
      (hidentity : creationIdentity settlement = (worker.creation, worker.kind))
      (hsettled : settleWorkerCreation settlement = .established actor) :
      Reads worker stopped (.settled [settlement])
        (.initializing ⟨worker.attempt, worker.initialization, actor⟩ worker.startup stopped)
  | rejected {settlement rejection}
      (hidentity : creationIdentity settlement = (worker.creation, worker.kind))
      (hsettled : settleWorkerCreation settlement = .rejected rejection) :
      Reads worker stopped (.settled [settlement]) (.rejected rejection worker.startup stopped)
  | batch {creation} (hidentity : (creation.id, creation.kind) = (worker.creation, worker.kind)) :
      Reads worker stopped (.rejected [creation])
        (.rejected (.namespaceExhausted creation.worker) worker.startup stopped)

/-- A settlement is read, or it is handed back with everything else. -/
theorem PendingWorker.created_cases (worker : PendingWorker S) (workers : CreationsSettled S)
    (stopped : Option (ChildStopped S)) :
    worker.created workers stopped = .unexpected worker stopped workers ∨
      worker.Reads stopped workers (worker.created workers stopped) := by
  match workers with
  | .corrupt creations fault => exact .inl rfl
  | .rejected [] => exact .inl rfl
  | .rejected (_ :: _ :: _) => exact .inl rfl
  | .settled [] => exact .inl rfl
  | .settled (_ :: _ :: _) => exact .inl rfl
  | .rejected [creation] =>
    by_cases hidentity : (creation.id, creation.kind) = (worker.creation, worker.kind)
    · right
      simpa only [created, hidentity, beq_self_eq_true, if_true] using Reads.batch hidentity
    · left
      have hbeq : ((creation.id, creation.kind) == (worker.creation, worker.kind)) = false :=
        beq_eq_false_iff_ne.mpr hidentity
      simp only [created, hbeq, Bool.false_eq_true, if_false]
  | .settled [settlement] =>
    by_cases hidentity : creationIdentity settlement = (worker.creation, worker.kind)
    · right
      have hadmits : worker.admitCreation settlement = true := by
        simpa [admitCreation, creation] using hidentity
      simp only [created, createdOne, hadmits, if_true]
      split
      · exact .established hidentity ‹_›
      · exact .rejected hidentity ‹_›
    · left
      have hadmits : worker.admitCreation settlement = false := by
        simpa [admitCreation, creation] using hidentity
      simp only [created, createdOne, hadmits, Bool.false_eq_true, if_false]

/-! ### What leaves the proxy as it is -/

/-- The diagnostic that holds a fact which no arm wants. -/
def ProxyEvent.diagnostic (phase : ProxyPhase) : ProxyEvent S Message → Option (ProxyDiagnostic S)
  | .service _ _ => none
  | .owner _ => none
  | .workerCreationsSettled workers => some (.unexpectedWorkerStart phase workers)
  | .workerInitialization report => some (.unexpectedWorkerInitialization phase report)
  | .workerStartupReported startup => some (.unexpectedWorkerStartup phase startup)
  | .workerShutdownResolved shutdown => some (.unexpectedWorkerShutdown phase shutdown)
  | .workerStopped stopped => some (.unexpectedWorkerStop phase stopped)

/-- **What is answered without a change of the proxy.** -/
inductive Stays (self : StableProxy S) : ProxyEvent S Message → ProxyActions S Message → Prop
  | served {worker sender message} (hready : self.state = .ready worker) :
      Stays self (.service sender message)
        { workerDeliveries := [⟨S.recipient worker.actor, message⟩] }
  | unavailable {sender message} (hready : ∀ worker, self.state ≠ .ready worker) :
      Stays self (.service sender message)
        (.report (.unavailable sender self.state.phase message))
  | overlap {submission} (hdormant : self.state ≠ .dormant) :
      Stays self (.owner (.start submission))
        (.report (.initial (.overlap submission.worker submission.startup self.state.phase)))
  | startExhausted {submission} (hdormant : self.state = .dormant)
      (hissue : self.creations.issue = none) :
      Stays self (.owner (.start submission))
        (.report (.initial (.workerAttemptsExhausted submission.worker submission.startup)))
  | notReplaceable {submission} (hready : ∀ worker, self.state ≠ .ready worker)
      (hempty : ∀ previous, self.state ≠ .emptyAfter previous) :
      Stays self (.owner (.replace submission))
        (.report (.replacement
          (.notReplaceable submission.worker submission.startup self.state.phase)))
  | replaceExhausted {submission replaces}
      (hreplaces : (∃ worker, self.state = .ready worker ∧ worker.attempt = replaces) ∨
        self.state = .emptyAfter replaces) (hissue : self.creations.issue = none) :
      Stays self (.owner (.replace submission))
        (.report (.replacement
          (.workerAttemptsExhausted replaces submission.worker submission.startup)))
  | draining {shutdown} (hshutdown : self.state = .shuttingDown shutdown) :
      Stays self (.owner .shutdown) .cont
  | retired {retirement} (hstopped : self.state = .stopped retirement) :
      Stays self (.owner .shutdown) .stop
  | diagnosed {event diagnostic} (hdiagnostic : event.diagnostic self.state.phase = some diagnostic) :
      Stays self event (.diagnose diagnostic)

/-! ### What a transition does -/

/-- The request that initializes a worker. -/
def CurrentWorker.initRequest (worker : CurrentWorker S) (startup : S.Plan) : InitializeWorker S :=
  ⟨worker.attempt, worker.initialization, S.recipient worker.actor, startup⟩

/-- The departure of a worker, and the request for it. -/
def CurrentWorker.departure (worker : CurrentWorker S) : WorkerStopping S :=
  ⟨worker, .requested worker.attempt.creation, none⟩

def CurrentWorker.shutdown (worker : CurrentWorker S) : ShutdownEstablished S :=
  ⟨worker.attempt.creation, worker.actor⟩

/-- The pending worker of a request. -/
def PendingWorker.of (startup : S.Plan) (creation heap : ℕ) (kind : CreationKind) :
    PendingWorker S :=
  ⟨⟨creation, heap⟩, ⟨⟨creation, heap⟩, heap + 1⟩, kind, startup⟩

/-- The report leaves a start without its worker: a stop is held, or the report carries it. -/
inductive Stillborn (worker : CurrentWorker S) (held : Option (ChildStopped S)) :
    WorkerInitializationReport S → ProxyDrain S → Prop
  | completed {attempt initialization startup permit stopped} (hheld : held = some stopped) :
      Stillborn worker held (.readyForStartup attempt initialization startup permit)
        (.initializationCompleted permit startup stopped)
  | rejected {attempt initialization startup failure stopped} (hheld : held = some stopped) :
      Stillborn worker held (.effectsRejected attempt initialization startup failure)
        (.initializationRejected failure startup none stopped)
  | stopped {attempt initialization startup returned}
      (hchild : returned.child = worker.attempt.creation) :
      Stillborn worker held (.stopped attempt initialization startup returned)
        (.initializationStopped startup held returned)

/-- The report is kept while its worker departs; the departure may take the stop from it. -/
inductive Retains (departure : WorkerStopping S) :
    WorkerInitializationReport S → WorkerInitializationRetirement S → WorkerStopping S → Prop
  | initialized {attempt initialization startup permit} :
      Retains departure (.readyForStartup attempt initialization startup permit)
        (.initialized permit startup) departure
  | rejected {attempt initialization startup failure} :
      Retains departure (.effectsRejected attempt initialization startup failure)
        (.effectsRejected failure startup) departure
  | again {attempt initialization startup stopped held} (hheld : departure.stopped = some held)
      (hchild : stopped.child = departure.worker.attempt.creation) :
      Retains departure (.stopped attempt initialization startup stopped)
        (.stopped startup (some stopped)) departure
  | taken {attempt initialization startup stopped id} (hnone : departure.stopped = none)
      (hrequested : departure.shutdown = .requested id)
      (hchild : stopped.child = departure.worker.attempt.creation) :
      Retains departure (.stopped attempt initialization startup stopped)
        (.stopped startup none) { departure with stopped := some stopped }

/-- A start fails after its request was taken up: the outcome and what it failed by. -/
inductive Fails : StartupProgress → WorkerStartupOutcome S → PreReadyFailure S → Prop
  | refused {startup request reason} :
      Fails (.waitingForStart startup) (.startRejected request reason)
        (.startupRefused request reason)
  | rejected {startup rejection} :
      Fails (.running startup) (.rejected rejection) (.startupRejected rejection)

/-- A startup ends although its worker has stopped. -/
inductive Ends (stopped : ChildStopped S) :
    StartupProgress → WorkerStartupOutcome S → ProxyDrain S → Prop
  | refused {startup request reason} :
      Ends stopped (.waitingForStart startup) (.startRejected request reason)
        (.startupRefused request reason none stopped)
  | rejected {startup rejection} :
      Ends stopped (.running startup) (.rejected rejection)
        (.startupRejected rejection none stopped)
  | ready {startup readiness} :
      Ends stopped (.running startup) (.ready readiness) (.startupCompleted readiness stopped)

/-- The grant a startup runs under. -/
def StartupProgress.grant : StartupProgress → WorkerStartupGrant
  | .waitingForStart startup => startup
  | .running startup => startup

theorem admitStartup_iff {progress : StartupProgress} {input : WorkerStartup S} :
    admitStartup progress input = true ↔ input.startup = progress.grant := by
  cases progress <;> simp [admitStartup, StartupProgress.grant]

/-- **What a control of the owner does.** -/
inductive Orders : StableProxy S → ProxyCommand S → Acted S Message → Prop
  | begun {submission creations rest heap id} (hissue : creations.issue = some (id, rest)) :
      Orders ⟨.dormant, creations, heap⟩ (.start submission)
        (⟨.starting ⟨.initial, .creating (.of submission.startup id heap .birth) none⟩, rest,
            heap + 2⟩,
          .createWorker id ⟨id, submission.worker, .birth⟩)
  | replaced {submission worker creations rest heap id} (hissue : creations.issue = some (id, rest)) :
      Orders ⟨.ready worker, creations, heap⟩ (.replace submission)
        (⟨.replacing (.returningPredecessor worker.departure
            (.of submission.startup id heap (.replacement worker.attempt.creation))
            ⟨id, submission.worker, .replacement worker.attempt.creation⟩), rest, heap + 2⟩,
          .requestWorkerShutdown worker.shutdown)
  | revived {submission previous creations rest heap id}
      (hissue : creations.issue = some (id, rest)) :
      Orders ⟨.emptyAfter previous, creations, heap⟩ (.replace submission)
        (⟨.starting ⟨.replacement previous .settled,
            .creating (.of submission.startup id heap (.replacement previous.creation)) none⟩,
            rest, heap + 2⟩,
          .createWorker id ⟨id, submission.worker, .replacement previous.creation⟩)
  | closed {state creations heap previous}
      (hempty : (state = .dormant ∧ previous = none) ∨ (state = .emptyInitial ∧ previous = none) ∨
        ∃ attempt, state = .emptyAfter attempt ∧ previous = some attempt) :
      Orders ⟨state, creations, heap⟩ .shutdown
        (⟨.stopped (.empty previous), creations, heap⟩, .stop)
  | dismissed {worker creations heap} :
      Orders ⟨.ready worker, creations, heap⟩ .shutdown
        (⟨.shuttingDown (.returningWorker worker.departure), creations, heap⟩,
          .requestWorkerShutdown worker.shutdown)
  | creatingShut {kind worker held creations heap} :
      Orders ⟨.starting ⟨kind, .creating worker held⟩, creations, heap⟩ .shutdown
        (⟨.shuttingDown (.waitingForCreation ⟨kind, .creating worker held⟩), creations, heap⟩,
          .cont)
  | initializingShut {kind worker creations heap} :
      Orders ⟨.starting ⟨kind, .initializing worker none⟩, creations, heap⟩ .shutdown
        (⟨.shuttingDown (.initializing kind (.departing none worker.departure)), creations, heap⟩,
          .requestWorkerShutdown worker.shutdown)
  | initializingHeldShut {kind worker stopped creations heap} :
      Orders ⟨.starting ⟨kind, .initializing worker (some stopped)⟩, creations, heap⟩
        .shutdown
        (⟨.shuttingDown (.initializing kind (.waitingForInitialization worker none stopped)),
            creations, heap⟩, .cont)
  | startingShut {kind worker progress creations heap} :
      Orders ⟨.starting ⟨kind, .starting worker progress none⟩, creations, heap⟩ .shutdown
        (⟨.shuttingDown (.starting kind (.departing (.pending progress) worker.departure)),
            creations, heap⟩,
          .requestWorkerShutdown worker.shutdown)
  | startingHeldShut {kind worker progress stopped creations heap} :
      Orders ⟨.starting ⟨kind, .starting worker progress (some stopped)⟩, creations, heap⟩
        .shutdown
        (⟨.shuttingDown (.starting kind (.waitingForStartup progress worker none stopped)),
            creations, heap⟩, .cont)
  | returningShut {kind departure failure creations heap} :
      Orders ⟨.starting ⟨kind, .returningWorker departure failure⟩, creations, heap⟩
        .shutdown
        (⟨.shuttingDown (.returningWorkerStart kind departure failure), creations, heap⟩, .cont)
  | cancelled {departure successor creation creations heap} :
      Orders ⟨.replacing (.returningPredecessor departure successor creation), creations, heap⟩
        .shutdown
        (⟨.shuttingDown (.returningPredecessor departure departure.worker.attempt
            successor.attempt), creations, heap⟩,
          .report (.replacement (.cancelledBeforeBirth departure.worker.attempt creation.worker
            successor.startup)))
  | successorShut {replaces shutdown worker result creations heap} :
      Orders ⟨.replacing (.successorResultAwaitingShutdown replaces shutdown (.ready worker result)),
          creations, heap⟩ .shutdown
        (⟨.shuttingDown (.returningSuccessor replaces (.awaiting shutdown) worker.departure result),
            creations, heap⟩,
          .requestWorkerShutdown worker.shutdown)
  | completionShut {replaces shutdown completion creations heap}
      (hready : ∀ worker result, completion ≠ .ready worker result) :
      Orders ⟨.replacing (.successorResultAwaitingShutdown replaces shutdown completion), creations,
          heap⟩ .shutdown
        (⟨.shuttingDown (.waitingForPredecessor replaces shutdown
            (.replacementCompletion completion)), creations, heap⟩, .cont)

/-- **What the settlement of a creation does.** -/
inductive Creates : StableProxy S → CreationsSettled S → Acted S Message → Prop
  | established {kind worker current startup held held' workers creations heap}
      (hreads : worker.Reads held workers (.initializing current startup held')) :
      Creates ⟨.starting ⟨kind, .creating worker held⟩, creations, heap⟩
        workers
        (⟨.starting ⟨kind, .initializing current held'⟩, creations, heap⟩,
          .requestInitialization (current.initRequest startup))
  | rejected {kind worker rejection startup held held' workers self}
      (hstate : self.state = .starting ⟨kind, .creating worker held⟩)
      (hreads : worker.Reads held workers (.rejected rejection startup held')) :
      Creates self workers
        (workerCreationRejected self kind (.creationRejected rejection startup held'))
  | establishedShut {kind worker current startup held workers creations heap}
      (hreads : worker.Reads held workers (.initializing current startup none)) :
      Creates ⟨.shuttingDown (.waitingForCreation ⟨kind, .creating worker held⟩), creations, heap⟩
        workers
        (⟨.shuttingDown (.initializing kind (.departing none current.departure)), creations, heap⟩,
          .initializeAndShutdown (current.initRequest startup) current.shutdown)
  | establishedHeldShut {kind worker current startup held stopped workers creations heap}
      (hreads : worker.Reads held workers (.initializing current startup (some stopped))) :
      Creates ⟨.shuttingDown (.waitingForCreation ⟨kind, .creating worker held⟩), creations, heap⟩
        workers
        (⟨.shuttingDown (.initializing kind (.waitingForInitialization current none stopped)),
            creations, heap⟩,
          .requestInitialization (current.initRequest startup))
  | rejectedShut {kind worker rejection startup held held' workers self}
      (hstate : self.state =
        .shuttingDown (.waitingForCreation ⟨kind, .creating worker held⟩))
      (hreads : worker.Reads held workers (.rejected rejection startup held')) :
      Creates self workers
        (finishStartRetirement self kind (.result (.creationRejected rejection startup held')))

/-- **What the report of an initialization does.** -/
inductive Initializes : StableProxy S → WorkerInitializationReport S → Acted S Message → Prop
  | initialized {kind worker attempt initialization startup permit creations heap}
      (hattempt : attempt = worker.attempt)
      (hinitialization : initialization = worker.initialization) :
      Initializes ⟨.starting ⟨kind, .initializing worker none⟩, creations, heap⟩
        (.readyForStartup attempt initialization startup permit)
        (⟨.starting ⟨kind, .starting worker
            (.waitingForStart (StartWorker.new startup permit heap).startup) none⟩, creations,
            heap + 1⟩,
          .beginStartup (.new startup permit heap))
  | stillborn {kind worker held report drain self}
      (hstate : self.state = .starting ⟨kind, .initializing worker held⟩)
      (hadmits : report.worker = worker.attempt ∧ report.initialization = worker.initialization)
      (hstillborn : Stillborn worker held report drain) :
      Initializes self report
        (workerStartEmpty self kind worker.attempt (.unavailable worker.attempt drain))
  | uninitialized {kind worker attempt initialization startup failure creations heap}
      (hattempt : attempt = worker.attempt)
      (hinitialization : initialization = worker.initialization) :
      Initializes ⟨.starting ⟨kind, .initializing worker none⟩, creations, heap⟩
        (.effectsRejected attempt initialization startup failure)
        (⟨.starting ⟨kind, .returningWorker worker.departure
            (.initializationEffects failure startup)⟩, creations, heap⟩,
          .requestWorkerShutdown worker.shutdown)
  | retained {kind departure departure' report retirement creations heap}
      (hadmits : report.worker = departure.worker.attempt ∧
        report.initialization = departure.worker.initialization)
      (hretains : Retains departure report retirement departure') :
      Initializes ⟨.shuttingDown (.initializing kind (.departing none departure)), creations, heap⟩
        report
        (⟨.shuttingDown (.initializing kind (.departing (some retirement) departure')), creations,
            heap⟩, .cont)
  | returnedStopped {kind departure attempt initialization startup stopped settlement self}
      (hstate : self.state = .shuttingDown (.initializing kind (.departing none departure)))
      (hadmits : attempt = departure.worker.attempt ∧
        initialization = departure.worker.initialization) (hnone : departure.stopped = none)
      (hsettled : departure.shutdown = .settled settlement)
      (hchild : stopped.child = departure.worker.attempt.creation) :
      Initializes self (.stopped attempt initialization startup stopped)
        (finishStartRetirement self kind (.initialization (.stopped startup none)
          departure.worker (some settlement) stopped))
  | lateInitialized {kind worker shutdown stopped report retirement self}
      (hstate : self.state =
        .shuttingDown (.initializing kind (.waitingForInitialization worker shutdown stopped)))
      (hadmits : report.worker = worker.attempt ∧ report.initialization = worker.initialization)
      (hclassified : classifyInitializationAfterStop worker report = some retirement) :
      Initializes self report
        (finishStartRetirement self kind (.initialization retirement worker shutdown stopped))

/-- **What the report of a startup does.** -/
inductive Starts : StableProxy S → WorkerStartup S → Acted S Message → Prop
  | started {kind worker startup held attempt creations heap} :
      Starts ⟨.starting ⟨kind, .starting worker (.waitingForStart startup) held⟩, creations, heap⟩
        ⟨attempt, startup, .started⟩
        (⟨.starting ⟨kind, .starting worker (.running startup) held⟩, creations, heap⟩, .cont)
  | failed {kind worker progress attempt outcome failure creations heap}
      (hfails : Fails progress outcome failure) :
      Starts ⟨.starting ⟨kind, .starting worker progress none⟩, creations, heap⟩
        ⟨attempt, progress.grant, outcome⟩
        (⟨.starting ⟨kind, .returningWorker worker.departure failure⟩, creations, heap⟩,
          .requestWorkerShutdown worker.shutdown)
  | ended {kind worker progress stopped attempt outcome drain self}
      (hstate : self.state = .starting ⟨kind, .starting worker progress (some stopped)⟩)
      (hends : Ends stopped progress outcome drain) :
      Starts self ⟨attempt, progress.grant, outcome⟩
        (workerStartEmpty self kind worker.attempt (.unavailable worker.attempt drain))
  | ready {kind worker startup attempt readiness self}
      (hstate : self.state = .starting ⟨kind, .starting worker (.running startup) none⟩) :
      Starts self ⟨attempt, startup, .ready readiness⟩
        (workerStartReady self kind worker (.ready worker.attempt readiness))
  | advanced {kind progress startup departure input creations heap}
      (hadmits : input.startup = progress.grant)
      (hadvance : advanceStartupDuringShutdown progress input = some startup) :
      Starts ⟨.shuttingDown (.starting kind (.departing (.pending progress) departure)), creations,
          heap⟩ input
        (⟨.shuttingDown (.starting kind (.departing startup departure)), creations, heap⟩, .cont)
  | lateStarted {kind progress startup worker shutdown stopped input creations heap}
      (hadmits : input.startup = progress.grant)
      (hadvance : advanceStartupDuringShutdown progress input = some (.pending startup)) :
      Starts ⟨.shuttingDown (.starting kind (.waitingForStartup progress worker shutdown stopped)),
          creations, heap⟩ input
        (⟨.shuttingDown (.starting kind (.waitingForStartup startup worker shutdown stopped)),
            creations, heap⟩, .cont)
  | lateReturned {kind progress startup worker shutdown stopped input self}
      (hstate : self.state =
        .shuttingDown (.starting kind (.waitingForStartup progress worker shutdown stopped)))
      (hadmits : input.startup = progress.grant)
      (hadvance : advanceStartupDuringShutdown progress input = some (.returned startup)) :
      Starts self input
        (finishStartRetirement self kind (.startup startup worker shutdown stopped))

/-- **What the settlement of a shutdown does.** -/
inductive Settles : StableProxy S → EstablishedShutdownResolved → Acted S Message → Prop
  | predecessorSettled {replaces phase settlement creations heap} :
      Settles ⟨.starting ⟨.replacement replaces (.awaiting settlement.id), phase⟩, creations, heap⟩
        settlement
        (⟨.starting ⟨.replacement replaces .settled, phase⟩, creations, heap⟩, .cont)
  | published {replaces completion settlement self}
      (hstate : self.state =
        .replacing (.successorResultAwaitingShutdown replaces settlement.id completion)) :
      Settles self settlement (publishReplacement self replaces completion)
  | predecessorReturned {replaces departure result settlement creations heap} :
      Settles ⟨.shuttingDown (.returningSuccessor replaces (.awaiting settlement.id) departure
          result), creations, heap⟩ settlement
        (⟨.shuttingDown (.returningSuccessor replaces (.returned settlement) departure result),
            creations, heap⟩, .cont)
  | predecessorLast {replaces retirement settlement creations heap} :
      Settles ⟨.shuttingDown (.waitingForPredecessor replaces settlement.id retirement), creations,
          heap⟩ settlement
        (⟨.stopped (.replacementAfterPredecessor replaces settlement retirement), creations,
            heap⟩, .stop)
  | settled {place : Leaving S} {departure : WorkerStopping S} {settlement creations heap}
      (hrequested : departure.shutdown = .requested settlement.id)
      (hnone : departure.stopped = none) :
      Settles ⟨place.state departure, creations, heap⟩ settlement
        (⟨place.state { departure with shutdown := .settled settlement }, creations, heap⟩, .cont)
  | settledLast {place : Leaving S} {departure : WorkerStopping S} {settlement stopped self}
      (hstate : self.state = place.state departure)
      (hrequested : departure.shutdown = .requested settlement.id)
      (hheld : departure.stopped = some stopped) :
      Settles self settlement
        (place.left self ⟨departure.worker, settlement, stopped⟩)

/-- **What the stop of a worker does.** -/
inductive Stops : StableProxy S → ChildStopped S → Acted S Message → Prop
  | creatingStopped {kind worker stopped creations heap}
      (hchild : stopped.child = worker.attempt.creation) :
      Stops ⟨.starting ⟨kind, .creating worker none⟩, creations, heap⟩ stopped
        (⟨.starting ⟨kind, .creating worker (some stopped)⟩, creations, heap⟩, .cont)
  | initializingStopped {kind worker stopped creations heap}
      (hchild : stopped.child = worker.attempt.creation) :
      Stops ⟨.starting ⟨kind, .initializing worker none⟩, creations, heap⟩ stopped
        (⟨.starting ⟨kind, .initializing worker (some stopped)⟩, creations, heap⟩, .cont)
  | startingStopped {kind worker progress stopped creations heap}
      (hchild : stopped.child = worker.attempt.creation) :
      Stops ⟨.starting ⟨kind, .starting worker progress none⟩, creations, heap⟩
        stopped
        (⟨.starting ⟨kind, .starting worker progress (some stopped)⟩, creations, heap⟩, .cont)
  | readyStopped {worker stopped creations heap} (hchild : stopped.child = worker.attempt.creation) :
      Stops ⟨.ready worker, creations, heap⟩ stopped
        (⟨.emptyAfter worker.attempt, creations, heap⟩,
          .report (.workerStopped worker.attempt stopped))
  | successorStopped {replaces shutdown worker result stopped creations heap}
      (hchild : stopped.child = worker.attempt.creation) :
      Stops ⟨.replacing (.successorResultAwaitingShutdown replaces shutdown (.ready worker result)),
          creations, heap⟩ stopped
        (⟨.replacing (.successorResultAwaitingShutdown replaces shutdown
            (.readyAfterStop worker.attempt result stopped)), creations, heap⟩, .cont)
  | predecessorStopped {departure successor creation stopped id self}
      (hstate : self.state = .replacing (.returningPredecessor departure successor creation))
      (hrequested : departure.shutdown = .requested id) (hnone : departure.stopped = none)
      (hchild : stopped.child = departure.worker.attempt.creation) :
      Stops self stopped
        (startSuccessorAfterStop self departure.worker.attempt (.awaiting id) successor creation
          stopped)
  | held {place : Leaving S} {departure : WorkerStopping S} {stopped id creations heap}
      (hplace : place.isPredecessor = false) (hrequested : departure.shutdown = .requested id)
      (hnone : departure.stopped = none)
      (hchild : stopped.child = departure.worker.attempt.creation) :
      Stops ⟨place.state departure, creations, heap⟩ stopped
        (⟨place.state { departure with stopped := some stopped }, creations, heap⟩, .cont)
  | stoppedLast {place : Leaving S} {departure : WorkerStopping S} {stopped settlement self}
      (hstate : self.state = place.state departure)
      (hsettled : departure.shutdown = .settled settlement) (hnone : departure.stopped = none)
      (hchild : stopped.child = departure.worker.attempt.creation) :
      Stops self stopped (place.left self ⟨departure.worker, settlement, stopped⟩)

/-- **What a transition does.** -/
inductive Turn : StableProxy S → ProxyEvent S Message → Acted S Message → Prop
  | stays {self event actions} (h : Stays self event actions) : Turn self event (self, actions)
  | ordered {self control acted} (h : Orders self control acted) : Turn self (.owner control) acted
  | created {self workers acted} (h : Creates self workers acted) :
      Turn self (.workerCreationsSettled workers) acted
  | initialized {self report acted} (h : Initializes self report acted) :
      Turn self (.workerInitialization report) acted
  | started {self input acted} (h : Starts self input acted) :
      Turn self (.workerStartupReported input) acted
  | settled {self settlement acted} (h : Settles self settlement acted) :
      Turn self (.workerShutdownResolved settlement) acted
  | stopped {self stopped acted} (h : Stops self stopped acted) :
      Turn self (.workerStopped stopped) acted

end Bombay.Proxy
