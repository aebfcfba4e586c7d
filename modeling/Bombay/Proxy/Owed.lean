/-
# What a stable proxy waits for

A proxy that has asked for something waits for the exact fact that answers it: a
creation for its settlement, an initialization and a startup for their reports, a
shutdown request for its settlement, and a worker it has created for its stop.
`ProxyState.owes` reads off a state what it still waits for, `Entry.opens` reads
off a transition what it starts to wait for, and `Entry.delivers` which of these
facts it is told.
-/

import Bombay.Proxy.Turns
import Bombay.Lib.Duty

namespace Bombay.Proxy

variable {S : Signature} {Message : Type}

/-- A fact that answers something a proxy has asked for. -/
inductive Due where
  /-- The settlement of a creation. -/
  | creation (id : ℕ) (kind : CreationKind)
  /-- The report of an initialization. -/
  | initialization (worker : WorkerAttempt) (initialization : InitializationAttempt)
  /-- Whether a startup was taken up. -/
  | start (startup : WorkerStartupGrant)
  /-- How a startup that was taken up ended. -/
  | result (startup : WorkerStartupGrant)
  /-- The settlement of a shutdown request. -/
  | shutdown (id : ℕ)
  /-- The stop of the worker with this creation. -/
  | stop (creation : ℕ)
  deriving DecidableEq, Repr

/-! ### What a state owes -/

/-- The stop of a worker, unless it is held. -/
def owedStop (creation : ℕ) : Option (ChildStopped S) → List Due
  | none => [.stop creation]
  | some _ => []

def WorkerShutdown.owes : WorkerShutdown → List Due
  | .requested id => [.shutdown id]
  | .settled _ => []

@[simp] def WorkerStopping.owes (departure : WorkerStopping S) : List Due :=
  departure.shutdown.owes ++ owedStop departure.worker.attempt.creation departure.stopped

def WorkerStartKind.owes : WorkerStartKind → List Due
  | .replacement _ (.awaiting id) => [.shutdown id]
  | _ => []

def PredecessorReturn.owes : PredecessorReturn → List Due
  | .awaiting id => [.shutdown id]
  | .returned _ => []

def StartupProgress.owes : StartupProgress → List Due
  | .waitingForStart startup => [.start startup]
  | .running startup => [.result startup]

@[simp] theorem mem_owedStop {creation : ℕ} {held : Option (ChildStopped S)} {due : Due} :
    due ∈ owedStop creation held ↔ held = none ∧ due = .stop creation := by
  cases held <;> simp [owedStop]

@[simp] theorem WorkerShutdown.mem_owes {shutdown : WorkerShutdown} {due} :
    due ∈ shutdown.owes ↔ ∃ id, shutdown = .requested id ∧ due = .shutdown id := by
  cases shutdown <;> simp [owes]

/-- The report of a worker's initialization. -/
def CurrentWorker.report (worker : CurrentWorker S) : Due :=
  .initialization worker.attempt worker.initialization

@[simp] def WorkerStartPhase.owes : WorkerStartPhase S → List Due
  | .creating worker held =>
    .creation worker.creation worker.kind :: owedStop worker.attempt.creation held
  | .initializing worker held => worker.report :: owedStop worker.attempt.creation held
  | .starting worker progress held => progress.owes ++ owedStop worker.attempt.creation held
  | .returningWorker departure _ => departure.owes

@[simp] def WorkerStart.owes (start : WorkerStart S) : List Due := start.kind.owes ++ start.phase.owes

@[simp] def ReplacementCompletion.owes : ReplacementCompletion S → List Due
  | .ready worker _ => [.stop worker.attempt.creation]
  | .readyAfterStop _ _ _ => []
  | .empty _ _ => []

/-- What a place owes besides the departure of its worker. -/
def Leaving.rest (place : Leaving S) (worker : CurrentWorker S) : List Due :=
  match place with
  | .returningStart kind _ => kind.owes
  | .returningPredecessor _ _ => []
  | .returningWorker => []
  | .retiringStart kind _ => kind.owes
  | .cancelledPredecessor _ _ => []
  | .returningSuccessor _ predecessor _ => predecessor.owes
  | .retiringInitialization kind none => kind.owes ++ [worker.report]
  | .retiringInitialization kind (some _) => kind.owes
  | .retiringStartup kind (.pending progress) => kind.owes ++ progress.owes
  | .retiringStartup kind (.returned _) => kind.owes

@[simp] def ProxyShutdown.owes : ProxyShutdown S → List Due
  | .waitingForCreation start => start.owes
  | .returningWorker departure => departure.owes
  | .returningWorkerStart kind departure _ => kind.owes ++ departure.owes
  | .returningPredecessor departure _ _ => departure.owes
  | .returningSuccessor _ predecessor departure _ => predecessor.owes ++ departure.owes
  | .initializing kind (.departing none departure) =>
    kind.owes ++ [departure.worker.report] ++ departure.owes
  | .initializing kind (.departing (some _) departure) => kind.owes ++ departure.owes
  | .initializing kind (.waitingForInitialization worker _ _) => kind.owes ++ [worker.report]
  | .starting kind (.departing (.pending progress) departure) =>
    kind.owes ++ progress.owes ++ departure.owes
  | .starting kind (.departing (.returned _) departure) => kind.owes ++ departure.owes
  | .starting kind (.waitingForStartup progress _ _ _) => kind.owes ++ progress.owes
  | .waitingForPredecessor _ id _ => [.shutdown id]

/-- **What a state owes**: the facts it waits for.  A ready worker owes its stop. -/
def ProxyState.owes : ProxyState S → List Due
  | .dormant => []
  | .starting start => start.owes
  | .ready worker => [.stop worker.attempt.creation]
  | .emptyInitial => []
  | .emptyAfter _ => []
  | .replacing (.returningPredecessor departure _ _) => departure.owes
  | .replacing (.successorResultAwaitingShutdown _ id completion) =>
    .shutdown id :: completion.owes
  | .shuttingDown shutdown => shutdown.owes
  | .stopped _ => []

theorem Leaving.state_owes (place : Leaving S) (departure : WorkerStopping S) :
    (place.state departure).owes = place.rest departure.worker ++ departure.owes := by
  match place with
  | .returningStart _ _ => rfl
  | .returningPredecessor _ _ => rfl
  | .returningWorker => rfl
  | .retiringStart _ _ => rfl
  | .cancelledPredecessor _ _ => rfl
  | .returningSuccessor _ _ _ => rfl
  | .retiringInitialization _ none => rfl
  | .retiringInitialization _ (some _) => rfl
  | .retiringStartup _ (.pending _) => rfl
  | .retiringStartup _ (.returned _) => rfl

/-! ### Who a state is about -/

def WorkerStartKind.awaits : WorkerStartKind → Option ℕ
  | .replacement _ (.awaiting id) => some id
  | _ => none

def PredecessorReturn.awaits : PredecessorReturn → Option ℕ
  | .awaiting id => some id
  | .returned _ => none

def WorkerStartPhase.tenant : WorkerStartPhase S → WorkerAttempt
  | .creating worker _ => worker.attempt
  | .initializing worker _ => worker.attempt
  | .starting worker _ _ => worker.attempt
  | .returningWorker departure _ => departure.worker.attempt

def WorkerStartPhase.held : WorkerStartPhase S → Option (ChildStopped S)
  | .creating _ held => held
  | .initializing _ held => held
  | .starting _ _ held => held
  | .returningWorker departure _ => departure.stopped

def ReplacementCompletion.tenant : ReplacementCompletion S → Option WorkerAttempt
  | .ready worker _ => some worker.attempt
  | .readyAfterStop worker _ _ => some worker
  | .empty _ _ => none

def ReplacementCompletion.held : ReplacementCompletion S → Option (ChildStopped S)
  | .readyAfterStop _ _ stopped => some stopped
  | _ => none

/-- The attempt that a state is about: its creation was emitted, and the state is one of
those that start its worker, serve through it, wait for it to leave, or drain it. -/
def ProxyState.tenant : ProxyState S → Option WorkerAttempt
  | .dormant => none
  | .starting start => some start.phase.tenant
  | .ready worker => some worker.attempt
  | .emptyInitial => none
  | .emptyAfter _ => none
  | .replacing (.returningPredecessor departure _ _) => some departure.worker.attempt
  | .replacing (.successorResultAwaitingShutdown _ _ completion) => completion.tenant
  | .shuttingDown (.waitingForCreation start) => some start.phase.tenant
  | .shuttingDown (.returningWorker departure) => some departure.worker.attempt
  | .shuttingDown (.returningWorkerStart _ departure _) => some departure.worker.attempt
  | .shuttingDown (.returningPredecessor departure _ _) => some departure.worker.attempt
  | .shuttingDown (.returningSuccessor _ _ departure _) => some departure.worker.attempt
  | .shuttingDown (.initializing _ (.departing _ departure)) => some departure.worker.attempt
  | .shuttingDown (.initializing _ (.waitingForInitialization worker _ _)) => some worker.attempt
  | .shuttingDown (.starting _ (.departing _ departure)) => some departure.worker.attempt
  | .shuttingDown (.starting _ (.waitingForStartup _ worker _ _)) => some worker.attempt
  | .shuttingDown (.waitingForPredecessor _ _ _) => none
  | .stopped _ => none

/-- The stop of that attempt, when the state holds it. -/
def ProxyState.held : ProxyState S → Option (ChildStopped S)
  | .starting start => start.phase.held
  | .replacing (.returningPredecessor departure _ _) => departure.stopped
  | .replacing (.successorResultAwaitingShutdown _ _ completion) => completion.held
  | .shuttingDown (.waitingForCreation start) => start.phase.held
  | .shuttingDown (.returningWorker departure) => departure.stopped
  | .shuttingDown (.returningWorkerStart _ departure _) => departure.stopped
  | .shuttingDown (.returningPredecessor departure _ _) => departure.stopped
  | .shuttingDown (.returningSuccessor _ _ departure _) => departure.stopped
  | .shuttingDown (.initializing _ (.departing _ departure)) => departure.stopped
  | .shuttingDown (.initializing _ (.waitingForInitialization _ _ stop)) => some stop
  | .shuttingDown (.starting _ (.departing _ departure)) => departure.stopped
  | .shuttingDown (.starting _ (.waitingForStartup _ _ _ stop)) => some stop
  | _ => none

/-- The shutdown of a stopped predecessor that is not settled yet. -/
def ProxyState.awaits : ProxyState S → Option ℕ
  | .starting start => start.kind.awaits
  | .replacing (.successorResultAwaitingShutdown _ id _) => some id
  | .shuttingDown (.waitingForCreation start) => start.kind.awaits
  | .shuttingDown (.returningWorkerStart kind _ _) => kind.awaits
  | .shuttingDown (.returningSuccessor _ predecessor _ _) => predecessor.awaits
  | .shuttingDown (.initializing kind _) => kind.awaits
  | .shuttingDown (.starting kind _) => kind.awaits
  | .shuttingDown (.waitingForPredecessor _ id _) => some id
  | _ => none

/-- The departure a state holds. -/
def ProxyState.departure : ProxyState S → Option (WorkerStopping S)
  | .starting ⟨_, .returningWorker departure _⟩ => some departure
  | .replacing (.returningPredecessor departure _ _) => some departure
  | .shuttingDown (.returningWorker departure) => some departure
  | .shuttingDown (.returningWorkerStart _ departure _) => some departure
  | .shuttingDown (.returningPredecessor departure _ _) => some departure
  | .shuttingDown (.returningSuccessor _ _ departure _) => some departure
  | .shuttingDown (.initializing _ (.departing _ departure)) => some departure
  | .shuttingDown (.starting _ (.departing _ departure)) => some departure
  | _ => none

/-- A successor that waits for its predecessor to stop, and its creation. -/
def ProxyState.unborn : ProxyState S → Option (PendingWorker S × CreateChild S)
  | .replacing (.returningPredecessor _ successor creation) => some (successor, creation)
  | _ => none

/-- A start whose creation is not settled while the proxy shuts down. -/
def ProxyState.unsettled : ProxyState S → Option (WorkerStart S)
  | .shuttingDown (.waitingForCreation start) => some start
  | _ => none

@[simp] theorem WorkerStartKind.mem_owes {kind : WorkerStartKind} {due} :
    due ∈ kind.owes ↔ ∃ id, kind.awaits = some id ∧ due = .shutdown id := by
  match kind with
  | .initial | .replacement _ .settled | .replacement _ (.awaiting _) => simp [owes, awaits]

@[simp] theorem PredecessorReturn.mem_owes {predecessor : PredecessorReturn} {due} :
    due ∈ predecessor.owes ↔ ∃ id, predecessor.awaits = some id ∧ due = .shutdown id := by
  cases predecessor <;> simp [owes, awaits]

/-- The predecessor a place waits for, and the successor it keeps. -/
def Leaving.awaits : Leaving S → Option ℕ
  | .returningStart kind _ => kind.awaits
  | .retiringStart kind _ => kind.awaits
  | .returningSuccessor _ predecessor _ => predecessor.awaits
  | .retiringInitialization kind _ => kind.awaits
  | .retiringStartup kind _ => kind.awaits
  | _ => none

def Leaving.unborn : Leaving S → Option (PendingWorker S × CreateChild S)
  | .returningPredecessor successor creation => some (successor, creation)
  | _ => none

section

variable (place : Leaving S) (departure : WorkerStopping S)

@[simp] theorem Leaving.state_tenant :
    (place.state departure).tenant = some departure.worker.attempt := by
  cases place <;> rfl

@[simp] theorem Leaving.state_held : (place.state departure).held = departure.stopped := by
  cases place <;> rfl

@[simp] theorem Leaving.state_awaits : (place.state departure).awaits = place.awaits := by
  cases place <;> rfl

@[simp] theorem Leaving.state_departure :
    (place.state departure).departure = some departure := by
  cases place <;> rfl

@[simp] theorem Leaving.state_unborn : (place.state departure).unborn = place.unborn := by
  cases place <;> rfl

@[simp] theorem Leaving.state_unsettled : (place.state departure).unsettled = none := by
  cases place <;> rfl

end

/-! ### How a start is concluded -/

/-- Actions that ask for nothing and diagnose nothing. -/
structure ProxyActions.Quiet (actions : ProxyActions S Message) : Prop where
  observations : actions.workerObservations = []
  initializations : actions.workerInitializations = []
  startups : actions.workerStartups = []
  shutdowns : actions.workerShutdowns = []
  deliveries : actions.workerDeliveries = []
  diagnostics : actions.diagnostics = []
  creations : actions.creations = []

/-- **How a conclusion reads**: the counters stay, the state owes `due` and waits for the
predecessor `awaited`, it is about nobody else than `worker`, and nothing is asked for. -/
structure Concludes (proxy : StableProxy S) (due : List Due) (awaited : Option ℕ)
    (worker : Option WorkerAttempt) (acted : Acted S Message) : Prop where
  creations : acted.1.creations = proxy.creations
  heap : acted.1.heap = proxy.heap
  owes : acted.1.state.owes = due
  awaits : acted.1.state.awaits = awaited
  tenant : ∀ attempt, acted.1.state.tenant = some attempt → worker = some attempt
  departure : acted.1.state.departure = none
  unborn : acted.1.state.unborn = none
  unsettled : acted.1.state.unsettled = none
  quiet : acted.2.Quiet

theorem ProxyActions.Quiet.cont : (ProxyActions.cont : ProxyActions S Message).Quiet :=
  ⟨rfl, rfl, rfl, rfl, rfl, rfl, rfl⟩

theorem ProxyActions.Quiet.stop : (ProxyActions.stop : ProxyActions S Message).Quiet :=
  ⟨rfl, rfl, rfl, rfl, rfl, rfl, rfl⟩

theorem ProxyActions.Quiet.report (outcome : ProxyOutcome S Message) :
    (ProxyActions.report outcome).Quiet :=
  ⟨rfl, rfl, rfl, rfl, rfl, rfl, rfl⟩

theorem ProxyActions.Quiet.reportPair (earlier later : ProxyOutcome S Message) :
    (ProxyActions.reportPair earlier later).Quiet :=
  ⟨rfl, rfl, rfl, rfl, rfl, rfl, rfl⟩

section Conclusions

variable (self : StableProxy S)

theorem publishReplacement_concludes (replaces : WorkerAttempt)
    (completion : ReplacementCompletion S) :
    Concludes self completion.owes none completion.tenant
      (publishReplacement self replaces completion : Acted S Message) := by
  cases completion with
  | ready worker result =>
    exact ⟨rfl, rfl, rfl, rfl, fun _ h => h, rfl, rfl, rfl, .report _⟩
  | readyAfterStop worker result stopped =>
    exact ⟨rfl, rfl, rfl, rfl, nofun, rfl, rfl, rfl, .reportPair _ _⟩
  | empty worker result =>
    exact ⟨rfl, rfl, rfl, rfl, nofun, rfl, rfl, rfl, .report _⟩

theorem finishReplacement_concludes (replaces : WorkerAttempt)
    (predecessor : PredecessorShutdown) (completion : ReplacementCompletion S) :
    Concludes self ((WorkerStartKind.replacement replaces predecessor).owes ++ completion.owes)
      (WorkerStartKind.replacement replaces predecessor).awaits completion.tenant
      (finishReplacement self replaces predecessor completion : Acted S Message) := by
  cases predecessor with
  | settled => exact publishReplacement_concludes self replaces completion
  | awaiting id => exact ⟨rfl, rfl, rfl, rfl, fun _ h => h, rfl, rfl, rfl, .cont⟩

variable (kind : WorkerStartKind)

theorem workerStartEmpty_concludes (previous : WorkerAttempt)
    (result : WorkerStartResult S) :
    Concludes self kind.owes kind.awaits none
      (workerStartEmpty self kind previous result : Acted S Message) := by
  cases kind with
  | initial => exact ⟨rfl, rfl, rfl, rfl, nofun, rfl, rfl, rfl, .report _⟩
  | replacement replaces predecessor =>
    have h : Concludes self _ _ _ (_ : Acted S Message) :=
      finishReplacement_concludes self replaces predecessor (.empty previous result)
    rwa [show ReplacementCompletion.owes (.empty previous result) = [] from rfl,
      List.append_nil] at h

theorem workerCreationRejected_concludes
    (result : WorkerStartResult S) :
    Concludes self kind.owes kind.awaits none
      (workerCreationRejected self kind result : Acted S Message) := by
  cases kind with
  | initial => exact ⟨rfl, rfl, rfl, rfl, nofun, rfl, rfl, rfl, .report _⟩
  | replacement replaces predecessor =>
    exact workerStartEmpty_concludes self (.replacement replaces predecessor) replaces result

theorem workerStartReady_concludes (worker : CurrentWorker S)
    (result : WorkerStartResult S) :
    Concludes self (kind.owes ++ [.stop worker.attempt.creation]) kind.awaits
      (some worker.attempt) (workerStartReady self kind worker result : Acted S Message) := by
  cases kind with
  | initial => exact ⟨rfl, rfl, rfl, rfl, fun _ h => h, rfl, rfl, rfl, .report _⟩
  | replacement replaces predecessor =>
    exact finishReplacement_concludes self replaces predecessor (.ready worker result)

theorem finishStartRetirement_concludes
    (retirement : WorkerStartRetirement S) :
    Concludes self kind.owes kind.awaits none
      (finishStartRetirement self kind retirement : Acted S Message) := by
  match kind with
  | .initial => exact ⟨rfl, rfl, rfl, rfl, nofun, rfl, rfl, rfl, .stop⟩
  | .replacement replaces .settled =>
    exact ⟨rfl, rfl, rfl, rfl, nofun, rfl, rfl, rfl, .stop⟩
  | .replacement replaces (.awaiting id) =>
    exact ⟨rfl, rfl, rfl, rfl, nofun, rfl, rfl, rfl, .cont⟩

theorem successorDeparted_concludes (replaces : WorkerAttempt) (predecessor : PredecessorReturn)
    (result : WorkerStartResult S) (departure : StoppedWorker S) :
    Concludes self predecessor.owes predecessor.awaits none
      (successorDeparted self replaces predecessor result departure : Acted S Message) := by
  cases predecessor with
  | awaiting id => exact ⟨rfl, rfl, rfl, rfl, nofun, rfl, rfl, rfl, .cont⟩
  | returned resolution => exact ⟨rfl, rfl, rfl, rfl, nofun, rfl, rfl, rfl, .stop⟩

/-- A conclusion about nobody is one about whoever. -/
theorem Concludes.widen {due : List Due} {awaited : Option ℕ} {acted : Acted S Message}
    (h : Concludes self due awaited none acted) (worker : Option WorkerAttempt) :
    Concludes self due awaited worker acted :=
  { h with tenant := fun attempt hattempt => by simpa using h.tenant attempt hattempt }

/-- **A worker that has left leaves what its place owes besides.** -/
theorem Leaving.left_concludes {place : Leaving S} (hplace : place.isPredecessor = false)
    (departure : StoppedWorker S) :
    Concludes self (place.rest departure.worker) place.awaits (some departure.worker.attempt)
      (place.left self departure : Acted S Message) := by
  match place with
  | .returningStart kind failure => exact (workerStartEmpty_concludes self kind _ _).widen _ _
  | .returningPredecessor _ _ => simp [Leaving.isPredecessor] at hplace
  | .returningWorker => exact ⟨rfl, rfl, rfl, rfl, nofun, rfl, rfl, rfl, .stop⟩
  | .retiringStart kind failure => exact (finishStartRetirement_concludes self kind _).widen _ _
  | .cancelledPredecessor _ _ =>
    exact ⟨rfl, rfl, rfl, rfl, nofun, rfl, rfl, rfl, .stop⟩
  | .returningSuccessor replaces predecessor result =>
    exact (successorDeparted_concludes self replaces predecessor result departure).widen _ _
  | .retiringInitialization _ none | .retiringStartup _ (.pending _) =>
    exact ⟨rfl, rfl, rfl, rfl, fun _ h => h, rfl, rfl, rfl, .cont⟩
  | .retiringInitialization kind (some _) | .retiringStartup kind (.returned _) =>
    exact (finishStartRetirement_concludes self kind _).widen _ _

end Conclusions

end Bombay.Proxy
