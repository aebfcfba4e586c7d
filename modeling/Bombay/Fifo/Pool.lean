/-
# The handlers of an operating FIFO pool

`crates/actors/src/templates/pool/queue/mod.rs`, one definition per method, in
the order of the source.  A method that returns `Err` hands the operating state
and its input back, and changes nothing else; here too it returns only those.

A member is taken out of the roster with `remove`, and whatever becomes of it is
put back with `insert` at the saved position, as the source does it.
-/

import Bombay.Fifo.Drain

namespace Bombay.Fifo

variable {S : Signature}

variable (turn : Turn S)

/-- `PoolState::Operating(operating)` with its actions. -/
def Turn.operate : Acted S :=
  ⟨turn.pool, .operating turn.operating, turn.actions⟩

/-- `operating.members.insert(position, member)`. -/
def Turn.insert (turn : Turn S) (position : ℕ) (member : Member S) : Turn S :=
  { turn with operating := turn.operating.insert position member }

/-- Append one diagnostic. -/
def Turn.note (cause : FifoDiagnosticCause S) : Turn S :=
  { turn with actions := turn.actions.diagnose cause }

variable (pool : FifoPool S)

/-- `FifoPool::accept_submission`. -/
def acceptSubmission (operating : FifoOperating S) (submission : ℕ)
    (payload : S.Job) (customer : S.Customer) : Turn S :=
  let reject (pool : FifoPool S) (operating : FifoOperating S) (reason : AdmissionRejection) :
      Turn S :=
    ⟨pool, operating, FifoActions.cont.deliver customer (.rejected submission payload reason)⟩
  match operating.recoverablePosition pool.recovery with
  | none => reject pool operating .noRecoverableWorkers
  | some _ =>
    let ready := operating.availablePosition
    if ready = none ∧ pool.backlog ≤ operating.backlog.length then
      reject pool operating .backlogFull
    else
      match pool.jobs.issue with
      | none => reject pool operating .jobCorrelationUnavailable
      | some (job, jobs) =>
        let pool := { pool with jobs := jobs }
        let queued : QueuedJob S := ⟨⟨job, job, payload, customer⟩, none⟩
        let accepted := FifoActions.cont.deliver customer (.accepted submission job)
        match ready with
        | none => ⟨pool, operating.enqueue queued, accepted⟩
        | some _ =>
          match operating.dispatch pool.assignments pool.heap queued with
          | (operating, assignments, heap, .assigned assignment) =>
            ⟨{ pool with assignments := assignments, heap := heap }, operating,
              accepted.assign assignment⟩
          | (operating, assignments, heap, .workerUnavailable queued) =>
            let pool := { pool with assignments := assignments, heap := heap }
            if operating.backlog.length < pool.backlog then
              ⟨pool, operating.enqueue queued, accepted⟩
            else reject pool operating .backlogFull
          | (operating, assignments, heap, .correlationUnavailable _) =>
            reject { pool with assignments := assignments, heap := heap } operating
              .assignmentCorrelationUnavailable

/-- The customer outcome when no assignment correlation is left for a waiting
job. -/
def uncorrelated (queued : QueuedJob S) : FifoOutcome S :=
  match queued.assignedRole with
  | none => .returnedQueued queued.customer.id queued.customer.payload
      .assignmentCorrelationUnavailable
  | some role => .returnedAssigned queued.customer.id role queued.customer.payload
      .retryPreparationRejected

/-- The loop of `fill_fifo`.  Every round but the last takes one waiting job, so
`fuel` rounds suffice for a backlog shorter than `fuel`. -/
def fillRounds : ℕ → Turn S → Turn S
  | 0, turn => turn
  | fuel + 1, turn =>
    match turn.operating.availablePosition with
    | none => turn
    | some _ =>
      match turn.operating.backlog.popFirst with
      | none => turn
      | some ((admitted, queued), backlog) =>
        let operating := { turn.operating with backlog := backlog }
        match operating.dispatch turn.pool.assignments turn.pool.heap queued with
        | (operating, assignments, heap, .assigned assignment) =>
          fillRounds fuel ⟨{ turn.pool with assignments := assignments, heap := heap },
            operating, turn.actions.assign assignment⟩
        | (operating, assignments, heap, .workerUnavailable queued) =>
          ⟨{ turn.pool with assignments := assignments, heap := heap },
            { operating with backlog := operating.backlog.insert admitted queued },
            turn.actions⟩
        | (operating, assignments, heap, .correlationUnavailable queued) =>
          fillRounds fuel ⟨{ turn.pool with assignments := assignments, heap := heap },
            operating, turn.actions.deliver queued.customer.customer (uncorrelated queued)⟩

/-- `FifoPool::fill_fifo`. -/
def fillFifo : Turn S := fillRounds (turn.operating.backlog.length + 1) turn

/-- `FifoPool::return_unrecoverable_jobs`. -/
def returnUnrecoverableJobs : Turn S :=
  match turn.operating.recoverablePosition turn.pool.recovery with
  | some _ => turn
  | none =>
    { turn with
      operating := { turn.operating with backlog := OrderedMap.empty }
      actions := returnQueued .noRecoverableWorkers turn.operating.backlog.values
        turn.actions }

/-- `FifoPool::request_preparation` and the insertion of the member it returns. -/
def requestPreparation (position : ℕ) (role : S.Role)
    (recoveries : RecoveryCount) (previous : WorkerAttempt) (stopped : ChildStopped S)
    (source : S.Source) : Turn S :=
  let (ticket, request) := PrepareWorkers.new source role [] turn.pool.heap
  { turn with
    pool := { turn.pool with heap := turn.pool.heap + 1 }
    actions := turn.actions.prepare request }.insert position
    ⟨role, recoveries, .recovering (.preparing previous stopped (.issued ticket))⟩

/-- `FifoPool::prepare_next_waiting`. -/
def prepareNextWaiting : Turn S :=
  match turn.operating.waitingRecoveryPosition with
  | none => turn
  | some position =>
    match turn.operating.members[position]?,
        { turn with operating := turn.operating.remove position } with
    | some ⟨role, recoveries, .recovering (.waitingForSource previous stopped)⟩, turn =>
      match turn.pool.recovery.claimWaitingSource with
      | (recovery, none) =>
        { turn with pool := { turn.pool with recovery := recovery } }.insert position
          ⟨role, recoveries, .recovering (.waitingForSource previous stopped)⟩
      | (recovery, some source) =>
        requestPreparation { turn with pool := { turn.pool with recovery := recovery } }
          position role recoveries previous stopped source
    | some member, turn => turn.insert position member
    | none, turn => turn

/-- `FifoPool::retire_role_after_error`. -/
def retireRoleAfterError (position : ℕ) (role : S.Role)
    (recoveries : RecoveryCount) : Acted S :=
  let turn := turn.insert position ⟨role, recoveries, .retired⟩
  match turn.pool.recovery.failure with
  | .retireRole =>
    (returnUnrecoverableJobs (fillFifo (prepareNextWaiting turn))).operate
  | .stopPool => beginShutdown turn

/-- `FifoPool::reject_replacement`. -/
def rejectReplacement (position : ℕ) (role : S.Role)
    (recoveries : RecoveryCount) (previous : WorkerAttempt) (stopped : ChildStopped S)
    (submission : WorkerSubmission S) (returnedSource : Option S.Source)
    (error : WorkerReplacementError) : Acted S :=
  retireRoleAfterError
    (turn.note (.workerReplacementFailed role previous stopped submission returnedSource error))
    position role recoveries

/-- `FifoPool::reject_preparation`. -/
def rejectPreparation (operating : FifoOperating S) (position : ℕ)
    (role : S.Role) (recoveries : RecoveryCount) (previous : WorkerAttempt)
    (stopped : ChildStopped S) (source : S.Source) (error : WorkerPreparationError S) :
    Acted S :=
  let (pool, returnedSource, error) := restoreOr pool source error .sourceStateCorrupt
  retireRoleAfterError
    ⟨pool, operating, FifoActions.cont.diagnose
      (.workerPreparationFailed role previous stopped returnedSource error)⟩
    position role recoveries

/-- `FifoPool::return_source_after_failed_replacement`. -/
def returnSourceAfterFailedReplacement (operating : FifoOperating S)
    (position : ℕ) (role : S.Role) (recoveries : RecoveryCount) (previous : WorkerAttempt)
    (stopped : ChildStopped S) (source : S.Source) (submission : WorkerSubmission S)
    (error : WorkerReplacementError) : Acted S :=
  let (pool, returnedSource, error) := restoreOr pool source error .sourceStateCorrupt
  rejectReplacement ⟨pool, operating, FifoActions.cont⟩ position role recoveries previous stopped
    submission returnedSource error

/-- `FifoPool::recover_worker`. -/
def recoverWorker (position : ℕ) (role : S.Role) (recoveries : RecoveryCount)
    (previous : WorkerAttempt) (stopped : ChildStopped S) : Acted S :=
  match turn.pool.recovery.decide (stopKind stopped.outcome) with
  | (recovery, .prepareWorker source) =>
    (fillFifo (requestPreparation { turn with pool := { turn.pool with recovery := recovery } }
      position role recoveries previous stopped source)).operate
  | (recovery, .waitForSource) =>
    (fillFifo ({ turn with pool := { turn.pool with recovery := recovery } }.insert position
      ⟨role, recoveries, .recovering (.waitingForSource previous stopped)⟩)).operate
  | (recovery, .retireRole) =>
    (returnUnrecoverableJobs (fillFifo
      ({ turn with pool := { turn.pool with recovery := recovery } }.insert position
        ⟨role, recoveries, .retired⟩))).operate
  | (recovery, .stopPool) =>
    beginShutdown ({ turn with pool := { turn.pool with recovery := recovery } }.insert position
      ⟨role, recoveries, .retired⟩)

/-- The first waiting member becomes the next startup, while slots are left.
The loop of `authorize_waiting`. -/
def authorizeSlots : ℕ → Turn S → Turn S
  | 0, turn => turn
  | available + 1, turn =>
    match turn.operating.members.findIdx? isWaiting with
    | none => turn
    | some position =>
      match turn.operating.members[position]?,
          { turn with operating := turn.operating.remove position } with
      | some member, turn =>
        match member.authorizeStartup turn.pool.heap with
        | .ok (member, request) =>
          authorizeSlots available
            ({ turn with
              pool := { turn.pool with heap := turn.pool.heap + 1 }
              actions := turn.actions.startup request }.insert position member)
        | .error member => turn.insert position member
      | none, turn => turn

/-- `FifoPool::authorize_waiting`. -/
def authorizeWaiting : Turn S :=
  authorizeSlots (turn.pool.startup.maximum - turn.operating.members.countP isOccupying) turn

/-- `FifoPool::continue_after_pre_ready_stop`. -/
def continueAfterPreReadyStop (position : ℕ) (role : S.Role)
    (recoveries : RecoveryCount) (previous : WorkerAttempt) (stopped : ChildStopped S) :
    Acted S :=
  match recoverWorker turn position role recoveries previous stopped with
  | ⟨pool, .operating operating, actions⟩ => (authorizeWaiting ⟨pool, operating, actions⟩).operate
  | acted => acted

/-- `FifoPool::continue_after_returned_startup`. -/
def continueAfterReturnedStartup (operating : FifoOperating S)
    (position : ℕ) (role : S.Role) (recoveries : RecoveryCount) (previous : WorkerAttempt)
    (stopped : ChildStopped S) (input : WorkerStartup S) : Acted S :=
  continueAfterPreReadyStop
    ⟨pool, operating, FifoActions.cont.diagnose
      (.workerStartupReturned role input.worker input.startup input.outcome)⟩
    position role recoveries previous stopped

/-- `FifoPool::accept_worker_preparation_start`. -/
def acceptWorkerPreparationStart (operating : FifoOperating S)
    (input : PreparationStarted S) :
    Except (FifoOperating S × PreparationStarted S) (Acted S) :=
  match operating.preparationStartPosition input with
  | none => .error (operating, input)
  | some position =>
    match operating.members[position]?, operating.remove position with
    | none, operating => .error (operating, input)
    | some member, operating =>
      match member.acceptPreparationStart input with
      | .ok (.resume member) =>
        .ok ⟨pool, .operating (operating.insert position member), FifoActions.cont⟩
      | .ok (.stop failed) =>
        .ok (rejectPreparation pool operating position failed.role failed.recoveries
          failed.previous failed.stopped failed.source
          (WorkerPreparationStartFault.error failed.fault))
      | .error (member, input) => .error (operating.insert position member, input)

/-- `FifoPool::issue_restart_timer`. -/
def issueRestartTimer : Option (ScheduleKey × FifoPool S) :=
  match ScheduleKey.issue pool.nextRestartTimer with
  | none => none
  | some (key, next) => some (key, { pool with nextRestartTimer := next })

/-- The release a proposal asks for, with the identifier it takes. -/
def issueRelease (release : RecoveryRelease) :
    Except WorkerReplacementError (FifoPool S × WorkerReplacementRelease) :=
  match release with
  | .immediate =>
    match pool.creations.issue with
    | some (creation, creations) => .ok ({ pool with creations := creations }, .now creation)
    | none => .error .workerCreationsExhausted
  | .delayed delay =>
    match issueRestartTimer pool with
    | some (timer, pool) => .ok (pool, .after timer delay)
    | none => .error .restartTimersExhausted

/-- `Member::begin_replacement` and the two requests it goes with. -/
def replaceMember (position : ℕ) (role : S.Role) (recoveries : RecoveryCount)
    (previous : WorkerAttempt) (submission : WorkerSubmission S) (creation : ℕ) : Turn S :=
  let (member, worker, observation) := Member.beginReplacement ⟨role, submission⟩ recoveries
    previous.creation creation turn.pool.heap
  { turn with
    pool := { turn.pool with heap := turn.pool.heap + 2 }
    actions := turn.actions.create worker observation }.insert position member

/-- The body of `accept_worker_preparation_return` once the preparation is
ready. -/
def admitReplacement (operating : FifoOperating S) (position : ℕ)
    (limit : RestartLimit) (release : RestartRelease) (prepared : PreparedReplacement S) :
    Acted S :=
  match admitRestart prepared.recoveries pool.restarts limit release prepared.stopped.at'
      ⟨1, Nat.one_pos⟩ with
  | .denied recoveries budget reason =>
    returnSourceAfterFailedReplacement { pool with restarts := budget } operating position
      prepared.role recoveries prepared.previous prepared.stopped prepared.source
      prepared.submission (.restartDenied reason)
  | .proposed proposal =>
    match issueRelease pool proposal.release with
    | .error error =>
      let (recoveries, budget) := proposal.decline
      returnSourceAfterFailedReplacement { pool with restarts := budget } operating position
        prepared.role recoveries prepared.previous prepared.stopped prepared.source
        prepared.submission error
    | .ok (pool, release) =>
      match pool.recovery.restoreSource prepared.source with
      | none =>
        let (recoveries, budget) := proposal.decline
        rejectReplacement ⟨{ pool with restarts := budget }, operating, FifoActions.cont⟩
          position prepared.role recoveries prepared.previous prepared.stopped
          prepared.submission (some prepared.source) .sourceStateCorrupt
      | some recovery =>
        let (recoveries, budget) := proposal.accept
        let turn : Turn S :=
          ⟨{ pool with restarts := budget, recovery := recovery }, operating, FifoActions.cont⟩
        match release with
        | .now creation =>
          (prepareNextWaiting (replaceMember turn position prepared.role recoveries
            prepared.previous prepared.submission creation)).operate
        | .after timer delay =>
          (prepareNextWaiting
            ({ turn with actions := turn.actions.schedule (timer.after delay) }.insert position
              ⟨prepared.role, recoveries, .recovering (.scheduling prepared.previous
                prepared.stopped prepared.submission timer)⟩)).operate

/-- `FifoPool::accept_worker_preparation_return`. -/
def acceptWorkerPreparationReturn (operating : FifoOperating S)
    (input : WorkerPreparation S) : Except (FifoOperating S × WorkerPreparation S) (Acted S) :=
  match restartPolicy pool.recovery with
  | none => .error (operating, input)
  | some (limit, release) =>
    match operating.preparationReturnPosition input with
    | none => .error (operating, input)
    | some position =>
      match operating.members[position]?, operating.remove position with
      | none, operating => .error (operating, input)
      | some member, operating =>
        match member.acceptPreparationReturn input with
        | .ok (.ready prepared) =>
          .ok (admitReplacement pool operating position limit release prepared)
        | .ok (.failed role recoveries previous stopped source error) =>
          .ok (rejectPreparation pool operating position role recoveries previous stopped source
            error)
        | .error (member, input) => .error (operating.insert position member, input)

/-- `FifoPool::accept_restart_schedule`. -/
def acceptRestartSchedule (operating : FifoOperating S)
    (input : ScheduleSettled) : Except (FifoOperating S × ScheduleSettled) (Acted S) :=
  match operating.restartSchedulePosition input with
  | none => .error (operating, input)
  | some position =>
    match operating.members[position]?, operating.remove position with
    | some ⟨role, recoveries, .recovering worker⟩, operating =>
      match worker.admitRestartSchedule input with
      | .ok (.resume worker) =>
        .ok ⟨pool, .operating (operating.insert position
          ⟨role, recoveries, .recovering worker⟩), FifoActions.cont⟩
      | .ok (.stop (replacement, settlement)) =>
        .ok (rejectReplacement ⟨pool, operating, FifoActions.cont⟩ position role recoveries
          replacement.previous replacement.stopped replacement.submission none
          (.restartScheduleReturned settlement))
      | .error (worker, settlement) =>
        .error (operating.insert position ⟨role, recoveries, .recovering worker⟩, settlement)
    | some member, operating => .error (operating.insert position member, input)
    | none, operating => .error (operating, input)

/-- `FifoPool::accept_restart_timer`. -/
def acceptRestartTimer (operating : FifoOperating S)
    (elapsed : TimerElapsed) : Except (FifoOperating S × TimerElapsed) (Acted S) :=
  match operating.restartTimerPosition elapsed with
  | none => .error (operating, elapsed)
  | some position =>
    match operating.members[position]?, operating.remove position with
    | some ⟨role, recoveries, .recovering worker⟩, operating =>
      match worker.admitRestartTimer elapsed with
      | .error (worker, elapsed) =>
        .error (operating.insert position ⟨role, recoveries, .recovering worker⟩, elapsed)
      | .ok replacement =>
        match pool.creations.issue with
        | none =>
          .ok (rejectReplacement ⟨pool, operating, FifoActions.cont⟩ position role recoveries
            replacement.previous replacement.stopped replacement.submission none
            .workerCreationsExhausted)
        | some (creation, creations) =>
          .ok (replaceMember ⟨{ pool with creations := creations }, operating, FifoActions.cont⟩
            position role recoveries replacement.previous replacement.submission
            creation).operate
    | some member, operating => .error (operating.insert position member, elapsed)
    | none, operating => .error (operating, elapsed)

/-- `FifoPool::complete_assignment`. -/
def completeAssignment (operating : FifoOperating S) (position : ℕ)
    (role : S.Role) (recoveries : RecoveryCount) (current : CurrentWorker S)
    (customer : CustomerJob S) (result : S.WorkerResult) (stopped : Option (ChildStopped S)) :
    Acted S :=
  let turn : Turn S := ⟨pool, operating,
    FifoActions.cont.deliver customer.customer (.completed customer.id role result)⟩
  match stopped with
  | none => (fillFifo (turn.insert position ⟨role, recoveries, .worker current .idle⟩)).operate
  | some stopped => recoverWorker turn position role recoveries current.attempt stopped

/-- `FifoPool::interrupt_assignment`. -/
def interruptAssignment (operating : FifoOperating S) (position : ℕ)
    (role : S.Role) (recoveries : RecoveryCount) (current : CurrentWorker S)
    (customer : CustomerJob S) (stopped : ChildStopped S)
    (lateCompletion : Option (Completion S)) : Acted S :=
  let actions := match lateCompletion with
    | some completion => FifoActions.cont.diagnose
        (.unexpected (.workerCompleted ⟨current.attempt.creation, completion⟩))
    | none => FifoActions.cont
  let turn : Turn S := match pool.interruption with
    | .fail => ⟨pool, operating, actions.deliver customer.customer
        (.returnedAssigned customer.id role customer.payload .workerStopped)⟩
    | .retry => ⟨pool, operating.enqueue ⟨customer, some role⟩, actions⟩
  recoverWorker turn position role recoveries current.attempt stopped

/-- `FifoPool::accept_assignment_receipt`. -/
def acceptAssignmentReceipt (operating : FifoOperating S)
    (receipt : AssignmentReceipt) : Except (FifoOperating S × AssignmentReceipt) (Acted S) :=
  match operating.assignmentReceiptPosition receipt with
  | none => .error (operating, receipt)
  | some position =>
    match operating.members[position]?, operating.remove position with
    | some ⟨role, recoveries, .worker current (.busy assignment)⟩, operating =>
      match assignment.acceptReceipt receipt with
      | .error (assignment, receipt) =>
        .error (operating.insert position ⟨role, recoveries, .worker current (.busy assignment)⟩,
          receipt)
      | .ok (.awaitingCompletion assignment) =>
        .ok ⟨pool, .operating (operating.insert position
          ⟨role, recoveries, .worker current (.busy assignment)⟩), FifoActions.cont⟩
      | .ok (.jobCompleted customer result stopped) =>
        .ok (completeAssignment pool operating position role recoveries current customer result
          stopped)
      | .ok (.jobInterrupted customer stopped lateCompletion) =>
        .ok (interruptAssignment pool operating position role recoveries current customer stopped
          lateCompletion)
    | some member, operating => .error (operating.insert position member, receipt)
    | none, operating => .error (operating, receipt)

/-- `FifoPool::accept_completion`. -/
def acceptCompletion (pool : FifoPool S) (operating : FifoOperating S) (child : ℕ)
    (completion : Completion S) : Except (FifoOperating S × CompletionReport S) (Acted S) :=
  match operating.completionPosition child completion with
  | none => .error (operating, ⟨child, completion⟩)
  | some position =>
    match operating.members[position]?, operating.remove position with
    | some ⟨role, recoveries, .worker current (.busy assignment)⟩, operating =>
      match assignment.acceptCompletion completion with
      | .error (assignment, completion) =>
        .error (operating.insert position ⟨role, recoveries, .worker current (.busy assignment)⟩,
          ⟨child, completion⟩)
      | .ok (.awaitingReceipt assignment) =>
        .ok ⟨pool, .operating (operating.insert position
          ⟨role, recoveries, .worker current (.busy assignment)⟩), FifoActions.cont⟩
      | .ok (.jobCompleted customer result stopped) =>
        .ok (completeAssignment pool operating position role recoveries current customer result
          stopped)
    | some member, operating => .error (operating.insert position member, ⟨child, completion⟩)
    | none, operating => .error (operating, ⟨child, completion⟩)

/-- `FifoPool::request_worker_shutdown`. -/
def requestWorkerShutdown (position : ℕ) (role : S.Role)
    (recoveries : RecoveryCount) (current : CurrentWorker S) (shutdown : ℕ) : Turn S :=
  { turn with actions := turn.actions.shutdown (current.shutdownRequest shutdown) }.insert
    position ⟨role, recoveries, .worker current (.stopping (.awaitingBoth shutdown))⟩

/-- `self.shutdowns.reserve(1)` and its first identifier. -/
def reserveShutdown : Option (ℕ × FifoPool S) :=
  match pool.shutdowns.reserve 1 with
  | some (shutdown :: _, shutdowns) => some (shutdown, { pool with shutdowns := shutdowns })
  | _ => none

/-- `FifoPool::reject_assignment_delivery`. -/
def rejectAssignmentDelivery (operating : FifoOperating S)
    (item : AssignWorker S) (reason : ExactDeliveryReason) : Acted S :=
  let input (item : AssignWorker S) : FifoEvent S :=
    .assignmentSettled (.attempted (.rejected item reason))
  match operating.assignmentReceiptPosition item.receipt with
  | none => diagnose pool (.operating operating) (input item)
  | some position =>
    match reserveShutdown pool with
    | none =>
      beginShutdown ⟨pool, operating, FifoActions.cont.diagnose (.unexpected (input item))⟩
    | some (shutdown, pool) =>
      match operating.members[position]?, operating.remove position with
      | some ⟨role, recoveries, .worker current (.busy assignment)⟩, operating =>
        match assignment.acceptRejection item.assignment with
        | .error (assignment, returned) =>
          diagnose pool
            (.operating (operating.insert position
              ⟨role, recoveries, .worker current (.busy assignment)⟩))
            (input ⟨item.target, returned, item.receipt⟩)
        | .ok (.jobReturned customer stopped) =>
          let turn : Turn S :=
            ⟨pool, operating.enqueue ⟨customer, some role⟩, FifoActions.cont⟩
          match stopped with
          | none =>
            (fillFifo (requestWorkerShutdown turn position role recoveries current
              shutdown)).operate
          | some stopped => recoverWorker turn position role recoveries current.attempt stopped
        | .ok (.conflictingCompletion customer assignment completion stopped) =>
          let actions := ((FifoActions.cont.deliver customer.customer
            (.returnedAssigned customer.id role customer.payload
              .contradictoryAssignmentSettlement)).diagnose
            (.unexpected (input ⟨item.target, assignment, item.receipt⟩))).diagnose
            (.unexpected (.workerCompleted ⟨current.attempt.creation, completion⟩))
          let turn : Turn S := ⟨pool, operating, actions⟩
          match stopped with
          | none =>
            beginShutdown (requestWorkerShutdown turn position role recoveries current shutdown)
          | some stopped =>
            match recoverWorker turn position role recoveries current.attempt stopped with
            | ⟨pool, .operating operating, actions⟩ =>
              beginShutdown ⟨pool, operating, actions⟩
            | acted => acted
      | some member, operating =>
        diagnose pool (.operating (operating.insert position member)) (input item)
      | none, operating => diagnose pool (.operating operating) (input item)

/-- `FifoPool::finish_worker_shutdown`. -/
def finishWorkerShutdown (operating : FifoOperating S) (position : ℕ)
    (role : S.Role) (recoveries : RecoveryCount) (current : CurrentWorker S)
    (shutdown : EstablishedShutdownResolved) (stopped : ChildStopped S) : Acted S :=
  let actions := match shutdown with
    | .accepted _ => FifoActions.cont
    | .rejected id reason =>
      FifoActions.cont.diagnose (.workerShutdownRejected role (.rejected id reason))
  recoverWorker ⟨pool, operating, actions⟩ position role recoveries current.attempt stopped

/-- The part of `FifoPool::accept_worker_stop` after the phase of an established
worker is known. -/
def stopWorker (operating : FifoOperating S) (position : ℕ) (role : S.Role)
    (recoveries : RecoveryCount) (current : CurrentWorker S) (phase : WorkerPhase S)
    (stopped : ChildStopped S) : Except (FifoOperating S × ChildStopped S) (Acted S) :=
  let keep (phase : WorkerPhase S) : Acted S :=
    ⟨pool, .operating (operating.insert position ⟨role, recoveries, .worker current phase⟩),
      FifoActions.cont⟩
  match phase with
  | .initializing initialization none => .ok (keep (.initializing initialization (some stopped)))
  | .waitingForStartup permit startup =>
    .ok (continueAfterPreReadyStop
      ⟨pool, operating, FifoActions.cont.diagnose (.unusedStartup role (some permit) startup)⟩
      position role recoveries current.attempt stopped)
  | .startupRequested attempt none => .ok (keep (.startupRequested attempt (some stopped)))
  | .starting attempt none => .ok (keep (.starting attempt (some stopped)))
  | .idle =>
    .ok (recoverWorker ⟨pool, operating, FifoActions.cont⟩ position role recoveries
      current.attempt stopped)
  | .busy assignment =>
    match assignment.acceptWorkerExit stopped with
    | .error (assignment, stopped) =>
      .error (operating.insert position ⟨role, recoveries, .worker current (.busy assignment)⟩,
        stopped)
    | .ok (.awaitingReceipt assignment) => .ok (keep (.busy assignment))
    | .ok (.jobInterrupted customer stopped lateCompletion) =>
      .ok (interruptAssignment pool operating position role recoveries current customer stopped
        lateCompletion)
  | .stopping join =>
    match join.stopped stopped current.attempt with
    | .ok (.resume join) => .ok (keep (.stopping join))
    | .ok (.stop (shutdown, stopped)) =>
      .ok (finishWorkerShutdown pool operating position role recoveries current shutdown stopped)
    | .error (join, stopped) =>
      .error (operating.insert position ⟨role, recoveries, .worker current (.stopping join)⟩,
        stopped)
  | phase =>
    .error (operating.insert position ⟨role, recoveries, .worker current phase⟩, stopped)

/-- `FifoPool::accept_worker_stop`. -/
def acceptWorkerStop (operating : FifoOperating S)
    (stopped : ChildStopped S) : Except (FifoOperating S × ChildStopped S) (Acted S) :=
  match operating.workerPosition stopped.child with
  | none => .error (operating, stopped)
  | some position =>
    match operating.members[position]?, operating.remove position with
    | some ⟨role, recoveries, .creating worker⟩, operating =>
      match worker.stopped with
      | none =>
        .ok ⟨pool, .operating (operating.insert position
          ⟨role, recoveries, .creating { worker with stopped := some stopped }⟩),
          FifoActions.cont⟩
      | some _ => .error (operating.insert position ⟨role, recoveries, .creating worker⟩, stopped)
    | some ⟨role, recoveries, .worker current phase⟩, operating =>
      stopWorker pool operating position role recoveries current phase stopped
    | some member, operating => .error (operating.insert position member, stopped)
    | none, operating => .error (operating, stopped)

/-- `FifoPool::accept_worker_shutdown`. -/
def acceptShutdownSettlement (operating : FifoOperating S)
    (shutdown : EstablishedShutdownResolved) :
    Except (FifoOperating S × EstablishedShutdownResolved) (Acted S) :=
  match operating.workerShutdownPosition shutdown.id with
  | none => .error (operating, shutdown)
  | some position =>
    match operating.members[position]?, operating.remove position with
    | some ⟨role, recoveries, .worker current (.stopping join)⟩, operating =>
      match join.settled shutdown with
      | .ok (.resume join) =>
        .ok ⟨pool, .operating (operating.insert position
          ⟨role, recoveries, .worker current (.stopping join)⟩), FifoActions.cont⟩
      | .ok (.stop (shutdown, stopped)) =>
        .ok (finishWorkerShutdown pool operating position role recoveries current shutdown
          stopped)
      | .error (join, shutdown) =>
        .error (operating.insert position ⟨role, recoveries, .worker current (.stopping join)⟩,
          shutdown)
    | some member, operating => .error (operating.insert position member, shutdown)
    | none, operating => .error (operating, shutdown)

/-- The first search of `accept_initialization` and `accept_startup`. -/
def attemptPosition (operating : FifoOperating S) (worker : WorkerAttempt) : Option ℕ :=
  operating.members.findIdx? fun member => member.workerAttempt == some worker

/-- One round of the loop of `accept_initialization`: `none` continues it with
the roster as it was. -/
def initializationRound (operating : FifoOperating S)
    (input : WorkerInitializationReport S) (position : ℕ) : FifoOperating S × Option (Acted S) :=
  match operating.members[position]?, operating.remove position with
  | some ⟨role, recoveries, .worker current (.initializing initialization stopped)⟩,
      removed =>
    if initialization ≠ input.initialization then
      (removed.insert position
        ⟨role, recoveries, .worker current (.initializing initialization stopped)⟩, none)
    else
      let unexpected : Turn S := ⟨pool, removed,
        FifoActions.cont.diagnose (.unexpected (.workerInitialization input))⟩
      match stopped, input with
      | some stopped, _ =>
        (removed, some (continueAfterPreReadyStop unexpected position role recoveries
          current.attempt stopped))
      | none, .stopped _ _ startup stopped =>
        if stopped.child = current.attempt.creation then
          (removed, some (continueAfterPreReadyStop
            ⟨pool, removed, FifoActions.cont.diagnose (.unusedStartup role none startup)⟩
            position role recoveries current.attempt stopped))
        else
          (removed.insert position
            ⟨role, recoveries, .worker current (.initializing initialization none)⟩, none)
      | none, .effectsRejected _ _ _ _ =>
        match reserveShutdown pool with
        | none =>
          (removed, some (beginShutdown (unexpected.insert position
            ⟨role, recoveries, .worker current (.initializing initialization none)⟩)))
        | some (shutdown, pool) =>
          (removed, some (requestWorkerShutdown { unexpected with pool := pool } position role
            recoveries current shutdown).operate)
      | none, .readyForStartup _ _ _ _ =>
        (removed.insert position
          ⟨role, recoveries, .worker current (.initializing initialization none)⟩, none)
  | some member, removed => (removed.insert position member, none)
  | none, removed => (removed, none)

/-- The loop of `accept_initialization` over the remaining positions. -/
def initializationRounds (pool : FifoPool S) (input : WorkerInitializationReport S) :
    List ℕ → FifoOperating S →
      Except (FifoOperating S × WorkerInitializationReport S) (Acted S)
  | [], operating => .error (operating, input)
  | position :: positions, operating =>
    match initializationRound pool operating input position with
    | (_, some acted) => .ok acted
    | (operating, none) => initializationRounds pool input positions operating

/-- `FifoPool::accept_initialization`. -/
def acceptInitialization (operating : FifoOperating S)
    (input : WorkerInitializationReport S) :
    Except (FifoOperating S × WorkerInitializationReport S) (Acted S) :=
  match attemptPosition operating input.worker with
  | none => initializationRounds pool input (List.range operating.members.length) operating
  | some position =>
    match operating.members[position]?, operating.remove position with
    | some member, removed =>
      match member.admitInitialization input with
      | .ok member =>
        .ok (authorizeWaiting ⟨pool, removed.insert position member, FifoActions.cont⟩).operate
      | .error (member, input) =>
        let operating := removed.insert position member
        initializationRounds pool input (List.range operating.members.length) operating
    | none, removed =>
      initializationRounds pool input (List.range removed.members.length) removed

/-- One round of the loop of `accept_startup`: `none` continues it with the
roster as it was. -/
def startupRound (operating : FifoOperating S) (input : WorkerStartup S)
    (position : ℕ) : FifoOperating S × Option (Acted S) :=
  match operating.members[position]?, operating.remove position with
  | some ⟨role, recoveries, .worker current phase⟩, removed =>
    let back := (removed.insert position ⟨role, recoveries, .worker current phase⟩, none)
    if current.attempt ≠ input.worker then back
    else
      let returned : Turn S := ⟨pool, removed, FifoActions.cont.diagnose
        (.workerStartupReturned role input.worker input.startup input.outcome)⟩
      let shutDown : Acted S :=
        match reserveShutdown pool with
        | none =>
          beginShutdown (returned.insert position ⟨role, recoveries, .worker current phase⟩)
        | some (shutdown, pool) =>
          (authorizeWaiting (requestWorkerShutdown { returned with pool := pool } position role
            recoveries current shutdown)).operate
      let repeated : Acted S :=
        (returned.insert position ⟨role, recoveries, .worker current phase⟩).operate
      let departed (stopped : ChildStopped S) : Acted S :=
        continueAfterReturnedStartup pool removed position role recoveries current.attempt
          stopped input
      match phase with
      | .startupRequested attempt none =>
        if attempt = input.startup then (removed, some shutDown) else back
      | .starting attempt none =>
        if attempt = input.startup then
          match input.outcome with
          | .started => (removed, some repeated)
          | _ => (removed, some shutDown)
        else back
      | .startupRequested attempt (some stopped) =>
        if attempt = input.startup then (removed, some (departed stopped)) else back
      | .starting attempt (some stopped) =>
        if attempt = input.startup then
          match input.outcome with
          | .started => (removed, some repeated)
          | _ => (removed, some (departed stopped))
        else back
      | _ => back
  | some member, removed => (removed.insert position member, none)
  | none, removed => (removed, none)

/-- The loop of `accept_startup` over the remaining positions. -/
def startupRounds (pool : FifoPool S) (input : WorkerStartup S) :
    List ℕ → FifoOperating S → Except (FifoOperating S × WorkerStartup S) (Acted S)
  | [], operating => .error (operating, input)
  | position :: positions, operating =>
    match startupRound pool operating input position with
    | (_, some acted) => .ok acted
    | (operating, none) => startupRounds pool input positions operating

/-- `FifoPool::accept_startup`. -/
def acceptStartup (operating : FifoOperating S) (input : WorkerStartup S) :
    Except (FifoOperating S × WorkerStartup S) (Acted S) :=
  match attemptPosition operating input.worker with
  | none => startupRounds pool input (List.range operating.members.length) operating
  | some position =>
    match operating.members[position]?, operating.remove position with
    | some member, removed =>
      match member.admitStartup input with
      | .ok member =>
        let turn : Turn S := ⟨pool, removed.insert position member, FifoActions.cont⟩
        let turn := if isIdle member then fillFifo turn else turn
        .ok (authorizeWaiting turn).operate
      | .error (member, input) =>
        let operating := removed.insert position member
        startupRounds pool input (List.range operating.members.length) operating
    | none, removed => startupRounds pool input (List.range removed.members.length) removed

/-- The member loop of `reject_creation_batch`. -/
def rejectMembers (rejection : CreationBatchRejection) (returned : List (ℕ × CreateChild S)) :
    ℕ → List (Member S) → FifoActions S → List (Member S) × FifoActions S
  | _, [], actions => ([], actions)
  | position, member :: members, actions =>
    let (member, actions) := match returned.lookup position with
      | none => (member, actions)
      | some creation =>
        match member with
        | ⟨role, recoveries, .creating worker⟩ =>
          (⟨role, recoveries, .retired⟩, actions.diagnose (.workerCreationRejected role
            (rejection.worker creation.worker) worker.startup worker.stopped))
        | member => (member, actions.diagnose (.workersReturned
            (rejection.settlement [creation])))
    let (members, actions) := rejectMembers rejection returned (position + 1) members actions
    (member :: members, actions)

/-- `FifoPool::reject_creation_batch`. -/
def rejectCreationBatch (operating : FifoOperating S) (creations : List (CreateChild S))
    (rejection : CreationBatchRejection) :
    Except (CreationsSettled S) (FifoOperating S × FifoActions S) :=
  match operating.creationPositions (creations.map fun creation => (creation.id, creation.kind))
  with
  | none => .error (rejection.settlement creations)
  | some positions =>
    let (members, actions) := rejectMembers rejection (positions.zip creations) 0
      operating.members FifoActions.cont
    .ok ({ operating with members := members }, actions)

/-- The member loop of `accept_creations`; the flag says whether a worker was
rejected. -/
def settleMembers (returned : List (ℕ × WorkerCreationSettlement S)) :
    ℕ → List (Member S) → FifoActions S → Bool → List (Member S) × FifoActions S × Bool
  | _, [], actions, failed => ([], actions, failed)
  | position, member :: members, actions, failed =>
    let (member, actions, failed) := match returned.lookup position with
      | none => (member, actions, failed)
      | some settlement =>
        match member.admitCreation settlement with
        | .initializing member request =>
          (member, actions.requestInitialization request, failed)
        | .rejected member role rejection startup stopped =>
          (member, actions.diagnose (.workerCreationRejected role rejection startup stopped),
            true)
        | .unrelated member creation =>
          (member, actions.diagnose (.workersReturned (.settled [creation])), failed)
    let (members, actions, failed) :=
      settleMembers returned (position + 1) members actions failed
    (member :: members, actions, failed)

/-- What `accept_creations` does once its batch is settled. -/
def finishCreations (failed : Bool) : Acted S :=
  if failed then
    match turn.pool.recovery.failure with
    | .retireRole => (returnUnrecoverableJobs (fillFifo turn)).operate
    | .stopPool => beginShutdown turn
  else turn.operate

/-- `FifoPool::accept_creations`. -/
def acceptCreations (operating : FifoOperating S)
    (workers : CreationsSettled S) : Except (FifoOperating S × CreationsSettled S) (Acted S) :=
  let rejectBatch (creations : List (CreateChild S)) (rejection : CreationBatchRejection) :
      Except (FifoOperating S × CreationsSettled S) (Acted S) :=
    match rejectCreationBatch operating creations rejection with
    | .ok (operating, actions) => .ok (finishCreations ⟨pool, operating, actions⟩ true)
    | .error workers => .error (operating, workers)
  match workers with
  | .corrupt creations fault => rejectBatch creations (.interpreterCorrupt fault)
  | .rejected creations => rejectBatch creations .namespaceExhausted
  | .settled settlements =>
    match operating.creationPositions (settlements.map creationIdentity) with
    | none => .error (operating, .settled settlements)
    | some positions =>
      let (members, actions, failed) := settleMembers (positions.zip settlements) 0
        operating.members FifoActions.cont false
      .ok (finishCreations ⟨pool, { operating with members := members }, actions⟩ failed)

end Bombay.Fifo
