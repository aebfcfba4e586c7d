/-
# Retiring a keyed pool

`crates/actors/src/templates/pool/router/shutdown.rs`: `begin_retirement` drains
the binding table, returns every job of every role and reduces each member to
what it still waits for, and the handlers after it consume those facts until
nothing is left.  A batch loop of the source is a recursion over the workers
here, with the position it counts.
-/

import Bombay.Keyed.Operating

namespace Bombay.Keyed

variable {R : Router}

/-- `KeyedPool::diagnose`. -/
def diagnose (pool : KeyedPool R) (state : KeyedPoolState R) (input : KeyedEvent R) : Acted R :=
  ⟨pool, state, KeyedActions.cont.diagnose (.unexpected input)⟩

/-- The binding loop of `begin_retirement` and `retire_role`. -/
def removeBindings (removed : List (R.Key × BindingEvidence R.base.Role))
    (actions : KeyedActions R) : KeyedActions R :=
  removed.foldl (fun actions removed => actions.diagnose (.bindingRemoved removed.1 removed.2))
    actions

/-- Return one waiting job. -/
def returnWaiting (customer : CustomerJob R.workers) (reason : KeyedQueuedReturnReason)
    (actions : KeyedActions R) : KeyedActions R :=
  actions.deliver customer.customer.route
    (.returnedQueued customer.id customer.customer.binding customer.payload reason)

/-- The queue loop of `begin_retirement` and `retire_role`. -/
def returnQueue (queue : KeyedQueue R) (reason : KeyedQueuedReturnReason)
    (actions : KeyedActions R) : KeyedActions R :=
  queue.values.foldl (fun actions customer => returnWaiting customer reason actions) actions

/-- What no diagnostic shows, the loss of bindings does not show. -/
theorem removeBindings_proj {β : Type} {f : KeyedActions R → β}
    (hf : ∀ actions cause, f (KeyedActions.diagnose actions cause) = f actions)
    (removed : List (R.Key × BindingEvidence R.base.Role)) (actions : KeyedActions R) :
    f (removeBindings removed actions) = f actions := by
  unfold removeBindings
  induction removed generalizing actions with
  | nil => rfl
  | cons first rest ih => rw [List.foldl_cons, ih, hf]

/-- What no outcome shows, the return of a queue does not show. -/
theorem returnQueue_proj {β : Type} {f : KeyedActions R → β}
    (hf : ∀ actions route outcome, f (KeyedActions.deliver actions route outcome) = f actions)
    (queue : KeyedQueue R) (reason : KeyedQueuedReturnReason) (actions : KeyedActions R) :
    f (returnQueue queue reason actions) = f actions := by
  unfold returnQueue
  generalize queue.values = jobs
  induction jobs generalizing actions with
  | nil => rfl
  | cons job jobs ih =>
    rw [List.foldl_cons, ih]
    exact hf _ _ _

/-- `KeyedPool::return_assigned`. -/
def returnAssigned (customer : CustomerJob R.workers) (reason : KeyedAssignedReturnReason)
    (actions : KeyedActions R) : KeyedActions R :=
  actions.deliver customer.customer.route
    (.returnedAssigned customer.id customer.customer.binding customer.payload reason)

/-- What `begin_retirement` does with the custody one member hands over. -/
def retainReturns (role : R.base.Role) (custody : RetirementReturns R.workers)
    (actions : KeyedActions R) : KeyedActions R :=
  match custody with
  | .noTransfer => actions
  | .assignment assignment =>
    let actions := returnAssigned assignment.customer .poolShutdown actions
    match assignment.completion with
    | some completion => actions.diagnose
        (.unexpected (.workerCompleted ⟨assignment.worker.creation, completion⟩))
    | none => actions
  | .replacement replacement => actions.diagnose (.workerReplacementCancelled role replacement)

/-- The role loop of `begin_retirement`; `ids` is the iterator over the reserved
identifiers, absent when they could not be reserved. -/
def retireRoles : Option (List ℕ) → List (RoleCell R) → KeyedActions R →
    List (RetiringWorker R.workers) × KeyedActions R
  | _, [], actions => ([], actions)
  | ids, cell :: cells, actions =>
    let actions := returnQueue cell.queue .poolShutdown actions
    let (id, ids) := match ids, cell.member.shutdownTarget with
      | some (id :: ids), some _ => (some id, some ids)
      | ids, _ => (none, ids)
    let retirement := cell.member.shutdown id
    let actions := match retirement.request with
      | some request => actions.shutdown request
      | none => actions
    let actions := retainReturns cell.member.role retirement.custody actions
    let (workers, actions) := retireRoles ids cells actions
    (retirement.member :: workers, actions)

variable (pool : KeyedPool R)

/-- `KeyedPool::continue_retirement`. -/
def continueRetirement (workers : List (RetiringWorker R.workers))
    (deadline : ShutdownDeadline) (schedule : Option ScheduleAfter) (actions : KeyedActions R) :
    Acted R :=
  let actions := match schedule with
    | some schedule => actions.schedule schedule
    | none => actions
  match deadline with
  | .notScheduled settlement =>
    ⟨pool, .forcedRetirement workers (.deadlineNotScheduled settlement), actions.stop⟩
  | .elapsed elapsed =>
    ⟨pool, .forcedRetirement workers (.deadlineElapsed elapsed), actions.stop⟩
  | deadline =>
    if workers.any RetiringWorker.waiting then ⟨pool, .retiring workers deadline, actions⟩
    else ⟨pool, .stopped, actions.stop⟩

/-- `KeyedPool::begin_retirement`. -/
def beginRetirement (turn : Turn R) : Acted R :=
  let actions := removeBindings turn.operating.bindings.drain turn.actions
  let required := turn.operating.roles.countP fun cell => cell.member.shutdownTarget.isSome
  match turn.pool.shutdowns.reserve required with
  | none =>
    let (workers, actions) := retireRoles none turn.operating.roles actions
    ⟨turn.pool, .forcedRetirement workers .workerShutdownIdsExhausted, actions.stop⟩
  | some (ids, shutdowns) =>
    let (workers, actions) := retireRoles (some ids) turn.operating.roles actions
    let (deadline, schedule) := ShutdownDeadline.begin turn.pool.actorDrain
    continueRetirement { turn.pool with shutdowns := shutdowns } workers deadline schedule actions

/-- `KeyedPool::retain_retired_worker`. -/
def retainRetiredWorker (worker : WorkerDeparture R.workers) (actions : KeyedActions R) :
    KeyedActions R :=
  let actions := match worker.startup with
    | some (.startupPlan startup) => actions.diagnose (.unusedStartup worker.role none startup)
    | some (.startupPermit permit startup) =>
      actions.diagnose (.unusedStartup worker.role (some permit) startup)
    | _ => actions
  match worker.shutdown with
  | .accepted _ => actions
  | .rejected id reason =>
    actions.diagnose (.workerShutdownRejected worker.role (.rejected id reason))

/-- The accumulators of a retirement batch loop: `self`, the workers pushed so far,
the actions and the first forced cause. -/
structure RetirementBatch (R : Router) where
  pool : KeyedPool R
  remaining : List (RetiringWorker R.workers)
  actions : KeyedActions R
  forced : Option ForcedRetirementCause

namespace RetirementBatch

variable (batch : RetirementBatch R)

/-- `remaining.push(worker)`. -/
def push (worker : RetiringWorker R.workers) : RetirementBatch R :=
  { batch with remaining := batch.remaining ++ [worker] }

/-- Append one diagnostic. -/
def note (cause : KeyedDiagnosticCause R) : RetirementBatch R :=
  { batch with actions := batch.actions.diagnose cause }

/-- `KeyedPool::retain_worker` and `forced.or(exhausted)`. -/
def retainWorker (custody : WorkerCustody R.workers) :
    RetirementBatch R :=
  match custody with
  | .running role worker startup =>
    match batch.pool.shutdowns.reserve 1 with
    | some (shutdown :: _, shutdowns) =>
      let (worker, request) :=
        retireWorker role worker (some (.startupPlan startup)) (some shutdown)
      let batch := { batch with pool := { batch.pool with shutdowns := shutdowns } }.push worker
      match request with
      | some request => { batch with actions := batch.actions.shutdown request }
      | none => batch
    | _ =>
      let (worker, _) := retireWorker role worker (some (.startupPlan startup)) none
      { batch with
        forced := batch.forced.or (some ForcedRetirementCause.workerShutdownIdsExhausted) }.push
        worker
  | .rejected role rejection startup stopped =>
    batch.note (.workerCreationRejected role rejection startup stopped)
  | .stopped role worker startup stopped =>
    batch.note (.stoppedWorkerEstablished role worker startup stopped)

/-- What follows a retirement batch loop. -/
def finish (deadline : ShutdownDeadline) : Acted R :=
  match batch.forced with
  | some cause => ⟨batch.pool, .forcedRetirement batch.remaining cause, batch.actions.stop⟩
  | none => continueRetirement batch.pool batch.remaining deadline none batch.actions

end RetirementBatch

/-- The loop of `accept_correlated_creations`. -/
def settleRetired (received : List (ℕ × WorkerCreationSettlement R.workers)) :
    ℕ → List (RetiringWorker R.workers) → RetirementBatch R → RetirementBatch R
  | _, [], batch => batch
  | position, worker :: workers, batch =>
    match received.lookup position with
    | none => settleRetired received (position + 1) workers (batch.push worker)
    | some settlement =>
      match worker.acceptCreation settlement with
      | .ok custody => settleRetired received (position + 1) workers (batch.retainWorker custody)
      | .error (worker, creation) =>
        settleRetired received (position + 1) workers
          ((batch.push worker).note (.unexpected (.workerCreationsSettled (.settled [creation]))))

/-- The loop of `accept_correlated_creation_rejections`. -/
def rejectRetired (returned : List (ℕ × ℕ × CreationKind × WorkerCreationRejection R.workers)) :
    ℕ → List (RetiringWorker R.workers) → RetirementBatch R → RetirementBatch R
  | _, [], batch => batch
  | position, worker :: workers, batch =>
    match returned.lookup position with
    | none => rejectRetired returned (position + 1) workers (batch.push worker)
    | some (id, kind, rejection) =>
      match worker.acceptCreationRejection id kind rejection with
      | .ok custody => rejectRetired returned (position + 1) workers (batch.retainWorker custody)
      | .error (worker, id, kind, rejection) =>
        rejectRetired returned (position + 1) workers
          ((batch.push worker).note (.unmatchedWorkerReturn id kind rejection))

/-- The arms of `accept_worker_creations` for a batch that came back whole. -/
def acceptReturnedCreations (workers : List (RetiringWorker R.workers))
    (deadline : ShutdownDeadline) (creations : List (CreateChild R.workers))
    (rejection : CreationBatchRejection) : Acted R :=
  match orderedCreationPositions (workers.map RetiringWorker.expectedCreation)
      (creations.map fun creation => (creation.id, creation.kind)) with
  | none =>
    diagnose pool (.retiring workers deadline)
      (.workerCreationsSettled (rejection.settlement creations))
  | some positions =>
    (rejectRetired (positions.zip (creations.map fun creation =>
        (creation.id, creation.kind, rejection.worker creation.worker))) 0 workers
      ⟨pool, [], KeyedActions.cont, none⟩).finish deadline

/-- `KeyedPool::accept_worker_creations`. -/
def acceptWorkerCreations (workers : List (RetiringWorker R.workers))
    (deadline : ShutdownDeadline) (creations : CreationsSettled R.workers) : Acted R :=
  match creations with
  | .settled settlements =>
    match orderedCreationPositions (workers.map RetiringWorker.expectedCreation)
        (settlements.map creationIdentity) with
    | none =>
      diagnose pool (.retiring workers deadline) (.workerCreationsSettled (.settled settlements))
    | some positions =>
      (settleRetired (positions.zip settlements) 0 workers
        ⟨pool, [], KeyedActions.cont, none⟩).finish deadline
  | .rejected creations =>
    acceptReturnedCreations pool workers deadline creations .namespaceExhausted
  | .corrupt creations fault =>
    acceptReturnedCreations pool workers deadline creations (.interpreterCorrupt fault)

/-- `KeyedPool::accept_worker_exit`: a worker that goes on waiting leaves the deadline
alone. -/
def acceptWorkerExit (pool : KeyedPool R) (workers : List (RetiringWorker R.workers))
    (deadline : ShutdownDeadline) (stopped : ChildStopped R.workers) : Acted R :=
  match Bombay.acceptWorkerExit workers stopped with
  | .ok (.resume workers) => ⟨pool, .retiring workers deadline, KeyedActions.cont⟩
  | .ok (.stop (workers, worker)) =>
    continueRetirement pool workers deadline none (retainRetiredWorker worker KeyedActions.cont)
  | .error (workers, stopped) =>
    diagnose pool (.retiring workers deadline) (.workerStopped stopped)

/-- `KeyedPool::accept_worker_shutdown`. -/
def acceptWorkerShutdown (pool : KeyedPool R) (workers : List (RetiringWorker R.workers))
    (deadline : ShutdownDeadline) (settlement : EstablishedShutdownResolved) : Acted R :=
  match Bombay.acceptWorkerShutdown workers settlement with
  | .ok (.resume workers) => ⟨pool, .retiring workers deadline, KeyedActions.cont⟩
  | .ok (.stop (workers, worker)) =>
    continueRetirement pool workers deadline none (retainRetiredWorker worker KeyedActions.cont)
  | .error (workers, settlement) =>
    diagnose pool (.retiring workers deadline) (.workerShutdownSettled settlement)

/-- `KeyedPool::accept_worker_initialization`. -/
def acceptWorkerInitialization (pool : KeyedPool R) (workers : List (RetiringWorker R.workers))
    (deadline : ShutdownDeadline) (input : WorkerInitializationReport R.workers) : Acted R :=
  match Bombay.acceptWorkerInitialization workers input with
  | .returned workers report =>
    diagnose pool (.retiring workers deadline) (.workerInitialization report)
  | .workerStopped workers departure role startup =>
    let actions := KeyedActions.cont.diagnose (.unusedStartup role none startup)
    let actions := match departure with
      | some departure => retainRetiredWorker departure actions
      | none => actions
    continueRetirement pool workers deadline none actions

/-- `KeyedPool::accept_worker_startup`. -/
def acceptWorkerStartup (pool : KeyedPool R) (workers : List (RetiringWorker R.workers))
    (deadline : ShutdownDeadline) (input : WorkerStartup R.workers) : Acted R :=
  match Bombay.acceptWorkerStartup workers input with
  | .started workers => continueRetirement pool workers deadline none KeyedActions.cont
  | .returned workers role worker startup outcome =>
    continueRetirement pool workers deadline none
      (KeyedActions.cont.diagnose (.workerStartupReturned role worker startup outcome))
  | .unrelated workers startup =>
    diagnose pool (.retiring workers deadline) (.workerStartupReported startup)

/-- `restore_source`, with the error that stands when it fails: the returned source
travels on with `corrupt`. -/
def restoreOr {Error : Type} (source : R.base.Source)
    (error corrupt : Error) : KeyedPool R × Option R.base.Source × Error :=
  match pool.recovery.restoreSource source with
  | some recovery => ({ pool with recovery := recovery }, none, error)
  | none => (pool, some source, corrupt)

/-- `KeyedPool::accept_retired_preparation_start`. -/
def acceptRetiredPreparationStart (workers : List (RetiringWorker R.workers))
    (deadline : ShutdownDeadline) (input : PreparationStarted R.workers) : Acted R :=
  match acceptRetiringWorkerPreparationStart workers input with
  | .ok (.resume workers) => continueRetirement pool workers deadline none KeyedActions.cont
  | .ok (.stop (workers, failed)) =>
    let (pool, returnedSource, error) :=
      restoreOr pool failed.source (WorkerPreparationStartFault.error failed.fault)
        .sourceStateCorrupt
    continueRetirement pool workers deadline none
      (KeyedActions.cont.diagnose (.workerPreparationFailed failed.role failed.previous
        failed.stopped returnedSource error))
  | .error (workers, input) =>
    diagnose pool (.retiring workers deadline) (.workerPreparationStarted input)

/-- `KeyedPool::accept_retired_preparation_return`. -/
def acceptRetiredPreparationReturn
    (workers : List (RetiringWorker R.workers)) (deadline : ShutdownDeadline)
    (input : WorkerPreparation R.workers) : Acted R :=
  match acceptRetiringWorkerPreparationReturn workers input with
  | .error (workers, input) =>
    diagnose pool (.retiring workers deadline) (.workerPreparationReturned input)
  | .ok (workers, .ready prepared) =>
    let (pool, returnedSource, error) :=
      restoreOr pool prepared.source WorkerReplacementError.poolShutdown .sourceStateCorrupt
    continueRetirement pool workers deadline none
      (KeyedActions.cont.diagnose (.workerReplacementFailed prepared.role prepared.previous
        prepared.stopped prepared.submission returnedSource error))
  | .ok (workers, .failed role _ previous stopped source error) =>
    let (pool, returnedSource, error) := restoreOr pool source error .sourceStateCorrupt
    continueRetirement pool workers deadline none
      (KeyedActions.cont.diagnose (.workerPreparationFailed role previous stopped returnedSource
        error))

/-- `KeyedPool::accept_retirement_schedule`. -/
def acceptRetirementSchedule (workers : List (RetiringWorker R.workers))
    (deadline : ShutdownDeadline) (settlement : ScheduleSettled) : Acted R :=
  match workers.findIdx? (awaitsSchedule settlement) with
  | some position =>
    match workers[position]?, workers.eraseIdx position with
    | some ⟨role, .awaitingRestartSchedule replacement _⟩, workers =>
      continueRetirement pool (workers.insertIdx position ⟨role, .drained⟩) deadline none
        (KeyedActions.cont.diagnose (.workerReplacementFailed role replacement.previous
          replacement.stopped replacement.submission none (.restartScheduleReturned settlement)))
    | some worker, workers =>
      diagnose pool (.retiring (workers.insertIdx position worker) deadline)
        (.restartScheduleSettled settlement)
    | none, workers => diagnose pool (.retiring workers deadline) (.restartScheduleSettled settlement)
  | none =>
    match deadline.acceptSchedule settlement with
    | some deadline => continueRetirement pool workers deadline none KeyedActions.cont
    | none => diagnose pool (.retiring workers deadline) (.restartScheduleSettled settlement)

/-- `KeyedPool::accept_deadline`. -/
def acceptDeadline (workers : List (RetiringWorker R.workers))
    (deadline : ShutdownDeadline) (elapsed : TimerElapsed) : Acted R :=
  match deadline.acceptElapsed elapsed with
  | some deadline => continueRetirement pool workers deadline none KeyedActions.cont
  | none => diagnose pool (.retiring workers deadline) (.restartElapsed elapsed)

end Bombay.Keyed
