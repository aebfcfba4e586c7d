/-
# Shutting a FIFO pool down

`crates/actors/src/templates/pool/queue/mod.rs`: `begin_shutdown` takes every
job and every member out of the operating state, and the drain handlers consume
what the retired members still wait for until nothing is left.  A batch loop of
the source is a recursion over the members here, with the position it counts.
-/

import Bombay.Fifo.Operating

namespace Bombay.Fifo

variable {S : Signature}

/-- `FifoPool::diagnose`. -/
def diagnose (pool : FifoPool S) (state : PoolState S) (input : FifoEvent S) : Acted S :=
  ⟨pool, state, FifoActions.cont.diagnose (.unexpected input)⟩

/-- `FifoPool::retain_cancelled_replacement`. -/
def retainCancelledReplacement (role : S.Role) (replacement : PendingWorkerReplacement S)
    (error : WorkerReplacementError) (actions : FifoActions S) : FifoActions S :=
  actions.diagnose (.workerReplacementFailed role replacement.previous replacement.stopped
    replacement.submission none error)

/-- The backlog loop of `begin_shutdown` and `return_unrecoverable_jobs`. -/
def returnQueued (reason : QueuedReturnReason) (queued : List (QueuedJob S))
    (actions : FifoActions S) : FifoActions S :=
  queued.foldl
    (fun actions queued => actions.deliver queued.customer.customer
      (.returnedQueued queued.customer.id queued.customer.payload reason))
    actions

/-- What `begin_shutdown` does with the custody one member hands over. -/
def retainReturns (role : S.Role) (custody : RetirementReturns S) (actions : FifoActions S) :
    FifoActions S :=
  match custody with
  | .noTransfer => actions
  | .assignment assignment =>
    let actions := actions.deliver assignment.customer.customer
      (.returnedAssigned assignment.customer.id role assignment.customer.payload .poolShutdown)
    match assignment.completion with
    | some completion => actions.diagnose
        (.unexpected (.workerCompleted ⟨assignment.worker.creation, completion⟩))
    | none => actions
  | .replacement replacement =>
    retainCancelledReplacement role replacement .poolShutdown actions

/-- The member loop of `begin_shutdown`; `ids` is the iterator over the reserved
identifiers, absent when they could not be reserved. -/
def retireMembers : Option (List ℕ) → List (Member S) → FifoActions S →
    List (RetiringWorker S) × FifoActions S
  | _, [], actions => ([], actions)
  | ids, member :: members, actions =>
    let (id, ids) := match ids, member.shutdownTarget with
      | some (id :: ids), some _ => (some id, some ids)
      | ids, _ => (none, ids)
    let retirement := member.shutdown id
    let actions := match retirement.request with
      | some request => actions.shutdown request
      | none => actions
    let actions := retainReturns member.role retirement.custody actions
    let (draining, actions) := retireMembers ids members actions
    (retirement.member :: draining, actions)

/-- `FifoPool::begin_shutdown`. -/
def beginShutdown (turn : Turn S) : Acted S :=
  let actions := returnQueued .poolShutdown turn.operating.backlog.values turn.actions
  let required := turn.operating.members.countP fun member => member.shutdownTarget.isSome
  match turn.pool.shutdowns.reserve required with
  | none =>
    let (draining, actions) := retireMembers none turn.operating.members actions
    ⟨turn.pool, .forcedRetirement draining .workerShutdownIdsExhausted, actions.stop⟩
  | some (ids, shutdowns) =>
    let (draining, actions) := retireMembers (some ids) turn.operating.members actions
    let pool := { turn.pool with shutdowns := shutdowns }
    if draining.any RetiringWorker.waiting then
      let (deadline, schedule) := ShutdownDeadline.begin pool.actorDrain
      let actions := match schedule with
        | some schedule => actions.schedule schedule
        | none => actions
      ⟨pool, .draining draining deadline, actions⟩
    else ⟨pool, .stopped, actions.stop⟩

variable (pool : FifoPool S)

/-- `FifoPool::continue_draining`. -/
def continueDraining (members : List (RetiringWorker S))
    (deadline : ShutdownDeadline) (actions : FifoActions S) : Acted S :=
  match deadline with
  | .notScheduled settlement =>
    ⟨pool, .forcedRetirement members (.deadlineNotScheduled settlement), actions.stop⟩
  | .elapsed elapsed => ⟨pool, .forcedRetirement members (.deadlineElapsed elapsed), actions.stop⟩
  | deadline =>
    if members.any RetiringWorker.waiting then ⟨pool, .draining members deadline, actions⟩
    else ⟨pool, .stopped, actions.stop⟩

/-- `FifoPool::retain_drained_worker`. -/
def retainDrainedWorker (worker : WorkerDeparture S) (actions : FifoActions S) : FifoActions S :=
  let actions := match worker.startup with
    | some (.startupPlan startup) => actions.diagnose (.unusedStartup worker.role none startup)
    | some (.startupPermit permit startup) =>
      actions.diagnose (.unusedStartup worker.role (some permit) startup)
    | _ => actions
  match worker.shutdown with
  | .accepted _ => actions
  | .rejected id reason =>
    actions.diagnose (.workerShutdownRejected worker.role (.rejected id reason))

/-- The accumulators of a drain batch loop: `self`, the members pushed so far,
the actions and the first forced cause. -/
structure DrainBatch (S : Signature) where
  pool : FifoPool S
  draining : List (RetiringWorker S)
  actions : FifoActions S
  forced : Option ForcedRetirementCause

/-- `draining.push(member)`. -/
def DrainBatch.push (batch : DrainBatch S) (member : RetiringWorker S) : DrainBatch S :=
  { batch with draining := batch.draining ++ [member] }

/-- `FifoPool::retain_worker` and `forced.or(exhausted)`. -/
def retainWorker (batch : DrainBatch S) (custody : WorkerCustody S) : DrainBatch S :=
  match custody with
  | .running role worker startup =>
    match batch.pool.shutdowns.reserve 1 with
    | some (shutdown :: _, shutdowns) =>
      let (member, request) :=
        retireWorker role worker (some (.startupPlan startup)) (some shutdown)
      let batch := { batch with pool := { batch.pool with shutdowns := shutdowns } }.push member
      match request with
      | some request => { batch with actions := batch.actions.shutdown request }
      | none => batch
    | _ =>
      let (member, _) := retireWorker role worker (some (.startupPlan startup)) none
      { batch with
        forced := batch.forced.or (some ForcedRetirementCause.workerShutdownIdsExhausted) }.push
        member
  | .rejected role rejection startup stopped =>
    { batch with
      actions := batch.actions.diagnose (.workerCreationRejected role rejection startup stopped) }
  | .stopped role worker startup stopped =>
    { batch with
      actions := batch.actions.diagnose (.stoppedWorkerEstablished role worker startup stopped) }

/-- What follows a drain batch loop. -/
def DrainBatch.finish (batch : DrainBatch S) (deadline : ShutdownDeadline) : Acted S :=
  match batch.forced with
  | some cause => ⟨batch.pool, .forcedRetirement batch.draining cause, batch.actions.stop⟩
  | none => continueDraining batch.pool batch.draining deadline batch.actions

/-- The member loop of `reject_drain_creations`. -/
def rejectDrainMembers (rejection : CreationBatchRejection)
    (returned : List (ℕ × CreateChild S)) :
    ℕ → List (RetiringWorker S) → DrainBatch S → DrainBatch S
  | _, [], batch => batch
  | position, member :: members, batch =>
    match returned.lookup position with
    | none => rejectDrainMembers rejection returned (position + 1) members (batch.push member)
    | some creation =>
      match member.acceptCreationRejection creation.id creation.kind
          (rejection.worker creation.worker) with
      | .ok custody =>
        rejectDrainMembers rejection returned (position + 1) members (retainWorker batch custody)
      | .error (member, id, kind, returnedWorker) =>
        let batch := batch.push member
        rejectDrainMembers rejection returned (position + 1) members
          { batch with
            actions := batch.actions.diagnose (.unmatchedWorkerReturn id kind returnedWorker) }

/-- `FifoPool::reject_drain_creations`. -/
def rejectDrainCreations (members : List (RetiringWorker S))
    (deadline : ShutdownDeadline) (creations : List (CreateChild S))
    (rejection : CreationBatchRejection) : Acted S :=
  match orderedCreationPositions (members.map RetiringWorker.expectedCreation)
      (creations.map fun creation => (creation.id, creation.kind)) with
  | none =>
    diagnose pool (.draining members deadline)
      (.workerCreationsSettled (rejection.settlement creations))
  | some positions =>
    (rejectDrainMembers rejection (positions.zip creations) 0 members
      ⟨pool, [], FifoActions.cont, none⟩).finish deadline

/-- The member loop of `accept_drain_creations`. -/
def settleDrainMembers (returned : List (ℕ × WorkerCreationSettlement S)) :
    ℕ → List (RetiringWorker S) → DrainBatch S → DrainBatch S
  | _, [], batch => batch
  | position, member :: members, batch =>
    match returned.lookup position with
    | none => settleDrainMembers returned (position + 1) members (batch.push member)
    | some settlement =>
      match member.acceptCreation settlement with
      | .ok custody =>
        settleDrainMembers returned (position + 1) members (retainWorker batch custody)
      | .error (member, creation) =>
        let batch := { batch with
          actions := batch.actions.diagnose (.workersReturned (.settled [creation])) }
        settleDrainMembers returned (position + 1) members (batch.push member)

/-- `FifoPool::accept_drain_creations`. -/
def acceptDrainCreations (members : List (RetiringWorker S))
    (deadline : ShutdownDeadline) (workers : CreationsSettled S) : Acted S :=
  match workers with
  | .rejected creations =>
    rejectDrainCreations pool members deadline creations .namespaceExhausted
  | .corrupt creations fault =>
    rejectDrainCreations pool members deadline creations (.interpreterCorrupt fault)
  | .settled settlements =>
    match orderedCreationPositions (members.map RetiringWorker.expectedCreation)
        (settlements.map creationIdentity) with
    | none =>
      diagnose pool (.draining members deadline)
        (.workerCreationsSettled (.settled settlements))
    | some positions =>
      (settleDrainMembers (positions.zip settlements) 0 members
        ⟨pool, [], FifoActions.cont, none⟩).finish deadline

/-- `FifoPool::accept_drain_initialization`. -/
def acceptDrainInitialization (members : List (RetiringWorker S))
    (deadline : ShutdownDeadline) (input : WorkerInitializationReport S) : Acted S :=
  match acceptWorkerInitialization members input with
  | .returned workers report =>
    diagnose pool (.draining workers deadline) (.workerInitialization report)
  | .workerStopped workers departure role startup =>
    let actions := FifoActions.cont.diagnose (.unusedStartup role none startup)
    let actions := match departure with
      | some departure => retainDrainedWorker departure actions
      | none => actions
    continueDraining pool workers deadline actions

/-- `FifoPool::accept_drain_startup`. -/
def acceptDrainStartup (members : List (RetiringWorker S))
    (deadline : ShutdownDeadline) (input : WorkerStartup S) : Acted S :=
  match acceptWorkerStartup members input with
  | .started workers => continueDraining pool workers deadline FifoActions.cont
  | .returned workers role worker startup outcome =>
    continueDraining pool workers deadline
      (FifoActions.cont.diagnose (.workerStartupReturned role worker startup outcome))
  | .unrelated workers startup =>
    diagnose pool (.draining workers deadline) (.workerStartupReported startup)

/-- `restore_source`, with the error that stands when it fails: the returned
source travels on with `corrupt`. -/
def restoreOr {Error : Type} (source : S.Source) (error corrupt : Error) :
    FifoPool S × Option S.Source × Error :=
  match pool.recovery.restoreSource source with
  | some recovery => ({ pool with recovery := recovery }, none, error)
  | none => (pool, some source, corrupt)

/-- `FifoPool::accept_drain_preparation_start`. -/
def acceptDrainPreparationStart (members : List (RetiringWorker S))
    (deadline : ShutdownDeadline) (input : PreparationStarted S) : Acted S :=
  match acceptRetiringWorkerPreparationStart members input with
  | .ok (.resume members) => continueDraining pool members deadline FifoActions.cont
  | .ok (.stop (members, failed)) =>
    let (pool, returnedSource, error) :=
      restoreOr pool failed.source (WorkerPreparationStartFault.error failed.fault)
        .sourceStateCorrupt
    continueDraining pool members deadline
      (FifoActions.cont.diagnose (.workerPreparationFailed failed.role failed.previous
        failed.stopped returnedSource error))
  | .error (workers, input) =>
    diagnose pool (.draining workers deadline) (.workerPreparationStarted input)

/-- `FifoPool::accept_drain_preparation_return`. -/
def acceptDrainPreparationReturn (members : List (RetiringWorker S))
    (deadline : ShutdownDeadline) (input : WorkerPreparation S) : Acted S :=
  match acceptRetiringWorkerPreparationReturn members input with
  | .error (workers, input) =>
    diagnose pool (.draining workers deadline) (.workerPreparationReturned input)
  | .ok (members, .ready prepared) =>
    let (pool, returnedSource, error) :=
      restoreOr pool prepared.source WorkerReplacementError.poolShutdown .sourceStateCorrupt
    continueDraining pool members deadline
      (FifoActions.cont.diagnose (.workerReplacementFailed prepared.role prepared.previous
        prepared.stopped prepared.submission returnedSource error))
  | .ok (members, .failed role _ previous stopped source error) =>
    let (pool, returnedSource, error) := restoreOr pool source error .sourceStateCorrupt
    continueDraining pool members deadline
      (FifoActions.cont.diagnose (.workerPreparationFailed role previous stopped returnedSource
        error))

/-- `FifoPool::accept_drain_stop`. -/
def acceptDrainStop (members : List (RetiringWorker S))
    (deadline : ShutdownDeadline) (stopped : ChildStopped S) : Acted S :=
  match acceptWorkerExit members stopped with
  | .ok (.resume members) => continueDraining pool members deadline FifoActions.cont
  | .ok (.stop (members, worker)) =>
    continueDraining pool members deadline (retainDrainedWorker worker FifoActions.cont)
  | .error (members, stopped) =>
    diagnose pool (.draining members deadline) (.workerStopped stopped)

/-- `FifoPool::accept_drain_shutdown`. -/
def acceptDrainShutdown (members : List (RetiringWorker S))
    (deadline : ShutdownDeadline) (settled : EstablishedShutdownResolved) : Acted S :=
  match acceptWorkerShutdown members settled with
  | .ok (.resume members) => continueDraining pool members deadline FifoActions.cont
  | .ok (.stop (members, worker)) =>
    continueDraining pool members deadline (retainDrainedWorker worker FifoActions.cont)
  | .error (members, settled) =>
    diagnose pool (.draining members deadline) (.workerShutdownSettled settled)

/-- `FifoPool::accept_drain_schedule`. -/
def acceptDrainSchedule (members : List (RetiringWorker S))
    (deadline : ShutdownDeadline) (settled : ScheduleSettled) : Acted S :=
  match members.findIdx? (awaitsSchedule settled) with
  | some position =>
    match members[position]?, members.eraseIdx position with
    | some ⟨role, .awaitingRestartSchedule replacement _⟩, members =>
      continueDraining pool (members.insertIdx position ⟨role, .drained⟩) deadline
        (retainCancelledReplacement role replacement (.restartScheduleReturned settled)
          FifoActions.cont)
    | some member, members =>
      diagnose pool (.draining (members.insertIdx position member) deadline)
        (.restartScheduleSettled settled)
    | none, members =>
      diagnose pool (.draining members deadline) (.restartScheduleSettled settled)
  | none =>
    match deadline.acceptSchedule settled with
    | some deadline => continueDraining pool members deadline FifoActions.cont
    | none => diagnose pool (.draining members deadline) (.restartScheduleSettled settled)

/-- `FifoPool::accept_drain_deadline`. -/
def acceptDrainDeadline (members : List (RetiringWorker S))
    (deadline : ShutdownDeadline) (elapsed : TimerElapsed) : Acted S :=
  match deadline.acceptElapsed elapsed with
  | some deadline => continueDraining pool members deadline FifoActions.cont
  | none => diagnose pool (.draining members deadline) (.restartElapsed elapsed)

end Bombay.Fifo
