/-
# The handlers of an operating keyed pool

`crates/actors/src/templates/pool/router/mod.rs`, `assignment.rs` and
`recovery.rs`.  Each definition follows the source function of its name: an
input that finds no role is handed back, a cell that is taken out is inserted
again at its position, and the actions of one transition are collected in order.
-/

import Bombay.Keyed.Shutdown

namespace Bombay.Keyed

variable {R : Router}

/-! ### Admission -/

/-- `AdmissionBinding`. -/
inductive AdmissionBinding (R : Router) where
  | retained (submittedKey : R.Key) (evidence : BindingEvidence R.base.Role)
  | reserved (binding : ReservedBinding R.Key R.base.Role)

/-- `AdmissionBinding::commit`. -/
def AdmissionBinding.commit (binding : AdmissionBinding R)
    (table : BindingTable R.Key R.base.Role) :
    BindingEvidence R.base.Role × BindingTable R.Key R.base.Role :=
  match binding with
  | .retained _ evidence => (evidence, table)
  | .reserved binding => binding.commit

/-- `AdmissionBinding::reject`. -/
def AdmissionBinding.reject (binding : AdmissionBinding R)
    (table : BindingTable R.Key R.base.Role) : R.Key × BindingTable R.Key R.base.Role :=
  match binding with
  | .retained submittedKey _ => (submittedKey, table)
  | .reserved binding => binding.reject

variable (pool : KeyedPool R)

/-- `KeyedPool::reject_submission`. -/
def rejectSubmission (operating : KeyedOperating R) (submission : ℕ)
    (key : R.Key) (payload : R.base.Job) (customer : R.base.Customer)
    (reason : KeyedAdmissionRejection) : Turn R :=
  ⟨pool, operating,
    KeyedActions.cont.deliver customer (.rejected submission key payload reason)⟩

/-- The first half of `accept_submission`: the role a key is served by, with its
binding retained or reserved. -/
def proposeBinding (operating : KeyedOperating R) (key : R.Key) :
    Except KeyedAdmissionRejection (ℕ × AdmissionBinding R) :=
  match operating.bindings.binding key with
  | some evidence =>
    match operating.rolePosition evidence.role with
    | none => .error .roleUnavailable
    | some position => .ok (position, .retained key evidence)
  | none =>
    let selected := pool.selector key
    match operating.rolePosition selected with
    | none => .error .unknownSelectedRole
    | some position =>
      match operating.roles[position]? with
      | none => .error .unknownSelectedRole
      | some cell =>
        match operating.bindings.reserve key cell.role with
        | .ok binding => .ok (position, .reserved binding)
        | .error (.capacityExhausted _) => .error .bindingCapacityExhausted
        | .error (.generationsExhausted _) => .error .bindingGenerationExhausted
        | .error (.alreadyBound _) => .error .roleUnavailable

/-- The second half of `accept_submission`: one job for the cell at a position. -/
def admitJob (operating : KeyedOperating R) (submission : ℕ)
    (payload : R.base.Job) (customer : R.base.Customer) (position : ℕ) (cell : RoleCell R)
    (proposed : AdmissionBinding R) : Turn R :=
  let (key, rejected) := proposed.reject operating.bindings
  let reject (pool : KeyedPool R) (reason : KeyedAdmissionRejection) : Turn R :=
    rejectSubmission pool { operating with bindings := rejected } submission key payload customer
      reason
  match cell.admissionTarget with
  | .queueFull => reject pool .roleBacklogFull
  | .unavailable => reject pool .roleUnavailable
  | target =>
    match pool.jobs.issue with
    | none => reject pool .jobCorrelationExhausted
    | some (job, jobs) =>
      let pool := { pool with jobs := jobs }
      let (binding, committed) := proposed.commit operating.bindings
      let obligation : CustomerJob R.workers := ⟨job, job, payload, ⟨binding, customer⟩⟩
      let operating := { operating with bindings := committed }
      let actions := KeyedActions.cont.deliver customer (.accepted submission job binding)
      match target with
      | .assign =>
        match cell.member.state with
        | .worker current .idle =>
          match AssignmentSequence.assign (S := R.workers) pool.assignments pool.heap
              current.attempt payload with
          | none => reject pool .assignmentCorrelationExhausted
          | some ((correlation, assignment), assignments) =>
            ⟨{ pool with assignments := assignments, heap := pool.heap + 1 },
              operating.put position
                (cell.frame.cell (.worker current (.busy (.new obligation correlation)))),
              actions.assign (.new current.recipient correlation assignment)⟩
        | _ => reject pool .roleUnavailable
      | _ =>
        ⟨pool, operating.put position { cell with queue := cell.queue.insert job obligation },
          actions⟩

/-- `KeyedPool::accept_submission`. -/
def acceptSubmission (operating : KeyedOperating R) (submission : ℕ)
    (key : R.Key) (payload : R.base.Job) (customer : R.base.Customer) : Turn R :=
  match proposeBinding pool operating key with
  | .error reason => rejectSubmission pool operating submission key payload customer reason
  | .ok (position, proposed) =>
    match operating.roles[position]? with
    | none => rejectSubmission pool operating submission key payload customer .roleUnavailable
    | some cell => admitJob pool operating submission payload customer position cell proposed

variable (turn : Turn R)

/-- `KeyedPool::fill_role`. -/
def fillRole (position : ℕ) : Turn R :=
  match turn.operating.roles[position]? with
  | none => turn
  | some cell =>
    match cell.member.state with
    | .worker current .idle =>
      match cell.queue.popFirst with
      | none => turn
      | some ((_, customer), queue) =>
        match AssignmentSequence.assign (S := R.workers) turn.pool.assignments turn.pool.heap
            current.attempt customer.payload with
        | none =>
          { turn with
            operating := turn.operating.put position { cell with queue := queue }
            actions := returnWaiting customer .assignmentCorrelationExhausted turn.actions }
        | some ((correlation, assignment), assignments) =>
          { pool := { turn.pool with assignments := assignments, heap := turn.pool.heap + 1 }
            operating := turn.operating.put position
              (Frame.cell { cell.frame with queue := queue }
                (.worker current (.busy (.new customer correlation))))
            actions := turn.actions.assign (.new current.recipient correlation assignment) }
    | _ => turn

/-! ### Startup -/

/-- The loop of `authorize_waiting`, `available` times at most. -/
def authorizeSlots : ℕ → Turn R → Turn R
  | 0, turn => turn
  | available + 1, turn =>
    match turn.operating.find isWaiting with
    | none => turn
    | some position =>
      match turn.operating.remove position with
      | none => turn
      | some (cell, operating) =>
        match cell.member.authorizeStartup turn.pool.heap with
        | .ok (member, request) =>
          authorizeSlots available
            { pool := { turn.pool with heap := turn.pool.heap + 1 }
              operating := operating.insert position { cell with member := member }
              actions := turn.actions.startup request }
        | .error member =>
          { turn with operating := operating.insert position { cell with member := member } }

/-- `KeyedPool::authorize_waiting`. -/
def authorizeWaiting : Turn R :=
  authorizeSlots (turn.pool.startup.maximum
    - turn.operating.roles.countP fun cell => isOccupying cell.member) turn

/-- `KeyedPool::accept_initialization`. -/
def acceptInitialization (operating : KeyedOperating R)
    (input : WorkerInitializationReport R.workers) :
    Except (KeyedOperating R × WorkerInitializationReport R.workers) (Acted R) :=
  match operating.workerPosition input.worker with
  | none => .error (operating, input)
  | some position =>
    match operating.remove position with
    | none => .error (operating, input)
    | some (cell, operating) =>
      match cell.member.admitInitialization input with
      | .ok member =>
        .ok (authorizeWaiting
          ⟨pool, operating.insert position { cell with member := member }, KeyedActions.cont⟩).operate
      | .error (member, input) =>
        .error (operating.insert position { cell with member := member }, input)

/-- `KeyedPool::accept_startup`. -/
def acceptStartup (operating : KeyedOperating R)
    (input : WorkerStartup R.workers) :
    Except (KeyedOperating R × WorkerStartup R.workers) (Acted R) :=
  match operating.workerPosition input.worker with
  | none => .error (operating, input)
  | some position =>
    match operating.remove position with
    | none => .error (operating, input)
    | some (cell, operating) =>
      match cell.member.admitStartup input with
      | .ok member =>
        let turn : Turn R :=
          ⟨pool, operating.insert position { cell with member := member }, KeyedActions.cont⟩
        let turn := if isIdle member then fillRole turn position else turn
        .ok (authorizeWaiting turn).operate
      | .error (member, input) =>
        .error (operating.insert position { cell with member := member }, input)

/-! ### Binding management -/

/-- `KeyedPool::reject_binding`. -/
def rejectBinding (operating : KeyedOperating R)
    (command : BindingCommand R) (reason : BindingRejection) : Turn R :=
  ⟨pool, operating, KeyedActions.cont.reply command.reply (.rejected command reason)⟩

/-- The rebalance arm of `accept_binding`, for a declared and available target. -/
def rebalance (operating : KeyedOperating R) (command : BindingCommand R)
    (actual : BindingExpectation) (target : R.base.Role) : Turn R :=
  match actual with
  | .absent =>
    match operating.bindings.reserve command.key target with
    | .ok binding =>
      let (current, bindings) := binding.commit
      ⟨pool, { operating with bindings := bindings },
        KeyedActions.cont.reply command.reply (.bound command.request current)⟩
    | .error (.alreadyBound key) =>
      rejectBinding pool operating { command with key := key }
        (.staleExpectation (operating.bindingExpectation key))
    | .error (.capacityExhausted key) =>
      rejectBinding pool operating { command with key := key } .bindingCapacityExhausted
    | .error (.generationsExhausted key) =>
      rejectBinding pool operating { command with key := key } .generationExhausted
  | .exact _ =>
    match operating.bindings.binding command.key with
    | none => rejectBinding pool operating command (.staleExpectation .absent)
    | some current =>
      if current.role = target then
        ⟨pool, operating,
          KeyedActions.cont.reply command.reply (.unchanged command.request current)⟩
      else
        match (operating.bindings.occupied command.key).bind (·.rebind target) with
        | none => rejectBinding pool operating command .generationExhausted
        | some ((prior, current), bindings) =>
          ⟨pool, { operating with bindings := bindings },
            KeyedActions.cont.reply command.reply (.rebalanced command.request prior current)⟩

/-- The unbind arm of `accept_binding`. -/
def unbind (operating : KeyedOperating R) (command : BindingCommand R)
    (actual : BindingExpectation) : Turn R :=
  match actual with
  | .absent =>
    ⟨pool, operating, KeyedActions.cont.reply command.reply (.alreadyUnbound command)⟩
  | .exact _ =>
    match operating.bindings.remove command.key with
    | none => rejectBinding pool operating command (.staleExpectation .absent)
    | some ((key, removed), bindings) =>
      ⟨pool, { operating with bindings := bindings },
        KeyedActions.cont.reply command.reply (.unbound command.request key removed)⟩

/-- `KeyedPool::accept_binding`. -/
def acceptBinding (operating : KeyedOperating R)
    (command : BindingCommand R) : Turn R :=
  let actual := operating.bindingExpectation command.key
  if command.expected ≠ actual then
    rejectBinding pool operating command (.staleExpectation actual)
  else
    match command.change with
    | .unbind => unbind pool operating command actual
    | .rebalance target =>
      match operating.rolePosition target with
      | none => rejectBinding pool operating command .unknownTarget
      | some position =>
        match operating.roles[position]? with
        | none => rejectBinding pool operating command .unknownTarget
        | some cell =>
          match cell.managementTarget with
          | .unavailable => rejectBinding pool operating command .targetUnavailable
          | .bindable => rebalance pool operating command actual cell.role

/-! ### Recovery -/

/-- `KeyedPool::retire_role`. -/
def retireRole (turn : Turn R) (position : ℕ) (frame : Frame R) : Turn R :=
  let actions := returnQueue frame.queue .rolePermanentlyUnavailable turn.actions
  let (removed, bindings) := turn.operating.bindings.retireRole frame.role
  { turn with
    operating := { turn.operating with bindings := bindings }.insert position
      (Frame.cell { frame with queue := OrderedMap.empty } .retired)
    actions := removeBindings removed actions }

/-- `KeyedPool::request_preparation`, and the insertion of its cell. -/
def requestPreparation (position : ℕ) (frame : Frame R)
    (previous : WorkerAttempt) (stopped : ChildStopped R.workers) (source : R.base.Source) :
    Turn R :=
  let (ticket, request) := PrepareWorkers.new (S := R.workers) source frame.role [] turn.pool.heap
  { turn with
    pool := { turn.pool with heap := turn.pool.heap + 1 }
    actions := turn.actions.prepare request }.insert position
    (frame.cell (.recovering (.preparing previous stopped (.issued ticket))))

/-- `KeyedPool::prepare_next_waiting`. -/
def prepareNextWaiting : Turn R :=
  match turn.operating.waitingRecoveryPosition with
  | none => turn
  | some position =>
    match turn.operating.remove position with
    | none => turn
    | some (cell, operating) =>
      match cell.member.state with
      | .recovering (.waitingForSource previous stopped) =>
        match turn.pool.recovery.claimWaitingSource with
        | (recovery, none) =>
          { turn with
            pool := { turn.pool with recovery := recovery }
            operating := operating.insert position
              (cell.frame.cell (.recovering (.waitingForSource previous stopped))) }
        | (recovery, some source) =>
          requestPreparation
            { turn with pool := { turn.pool with recovery := recovery }, operating := operating }
            position cell.frame previous stopped source
      | state => { turn with operating := operating.insert position (cell.frame.cell state) }

/-- `KeyedPool::retire_unrecovered_worker`. -/
def retireUnrecoveredWorker (position : ℕ) (frame : Frame R) : Acted R :=
  match turn.pool.recovery.failure with
  | .retireRole => (prepareNextWaiting (retireRole turn position frame)).operate
  | .stopPool => beginRetirement (turn.insert position (frame.cell .retired))

/-- `KeyedPool::reject_preparation`. -/
def rejectPreparation (operating : KeyedOperating R) (position : ℕ)
    (frame : Frame R) (previous : WorkerAttempt) (stopped : ChildStopped R.workers)
    (source : R.base.Source) (error : WorkerPreparationError R.workers) : Acted R :=
  let (pool, returnedSource, error) := restoreOr pool source error .sourceStateCorrupt
  retireUnrecoveredWorker
    ⟨pool, operating, KeyedActions.cont.diagnose (.workerPreparationFailed frame.role previous
      stopped returnedSource error)⟩ position frame

/-- `KeyedPool::reject_replacement`, on actions that are still empty. -/
def rejectReplacement (operating : KeyedOperating R) (position : ℕ)
    (frame : Frame R) (previous : WorkerAttempt) (stopped : ChildStopped R.workers)
    (submission : WorkerSubmission R.workers) (returnedSource : Option R.base.Source)
    (error : WorkerReplacementError) : Acted R :=
  retireUnrecoveredWorker
    ⟨pool, operating, KeyedActions.cont.diagnose (.workerReplacementFailed frame.role previous
      stopped submission returnedSource error)⟩ position frame

/-- `KeyedPool::return_source_after_replacement_failure`. -/
def returnSourceAfterReplacementFailure (operating : KeyedOperating R)
    (position : ℕ) (frame : Frame R) (previous : WorkerAttempt)
    (stopped : ChildStopped R.workers) (source : R.base.Source)
    (submission : WorkerSubmission R.workers) (error : WorkerReplacementError) : Acted R :=
  let (pool, returnedSource, error) := restoreOr pool source error .sourceStateCorrupt
  rejectReplacement pool operating position frame previous stopped submission returnedSource error

/-- What `recover_worker` does with an interrupted job of a role that is served again. -/
def keepInterrupted (interruption : Interruption) (interrupted : Option (CustomerJob R.workers))
    (frame : Frame R) (actions : KeyedActions R) : Frame R × KeyedActions R :=
  match interrupted, interruption with
  | none, _ => (frame, actions)
  | some customer, .fail => (frame, returnAssigned customer .workerStopped actions)
  | some customer, .retry =>
    ({ frame with queue := frame.queue.insert customer.admitted customer }, actions)

/-- What `recover_worker` does with an interrupted job of a role that is not. -/
def returnInterrupted (interruption : Interruption) (retry : KeyedAssignedReturnReason)
    (interrupted : Option (CustomerJob R.workers)) (actions : KeyedActions R) : KeyedActions R :=
  match interrupted, interruption with
  | none, _ => actions
  | some customer, .fail => returnAssigned customer .workerStopped actions
  | some customer, .retry => returnAssigned customer retry actions

/-- `KeyedPool::recover_worker`. -/
def recoverWorker (position : ℕ) (frame : Frame R) (previous : WorkerAttempt)
    (stopped : ChildStopped R.workers) (interrupted : Option (CustomerJob R.workers)) : Acted R :=
  let (recovery, decision) := turn.pool.recovery.decide (stopKind stopped.outcome)
  let pool := { turn.pool with recovery := recovery }
  match decision with
  | .prepareWorker source =>
    let (frame, actions) := keepInterrupted pool.interruption interrupted frame turn.actions
    (requestPreparation ⟨pool, turn.operating, actions⟩ position frame previous stopped
      source).operate
  | .waitForSource =>
    let (frame, actions) := keepInterrupted pool.interruption interrupted frame turn.actions
    (Turn.insert ⟨pool, turn.operating, actions⟩ position
      (frame.cell (.recovering (.waitingForSource previous stopped)))).operate
  | .retireRole =>
    let actions := returnInterrupted pool.interruption .rolePermanentlyUnavailable interrupted
      turn.actions
    (retireRole ⟨pool, turn.operating, actions⟩ position frame).operate
  | .stopPool =>
    let actions := returnInterrupted pool.interruption .poolShutdown interrupted turn.actions
    beginRetirement (Turn.insert ⟨pool, turn.operating, actions⟩ position (frame.cell .retired))

/-- `KeyedPool::accept_worker_preparation_start`. -/
def acceptWorkerPreparationStart (operating : KeyedOperating R)
    (input : PreparationStarted R.workers) :
    Except (KeyedOperating R × PreparationStarted R.workers) (Acted R) :=
  match operating.preparationStartPosition input with
  | none => .error (operating, input)
  | some position =>
    match operating.remove position with
    | none => .error (operating, input)
    | some (cell, operating) =>
      match cell.member.acceptPreparationStart input with
      | .ok (.resume member) =>
        .ok ⟨pool, .operating (operating.insert position { cell with member := member }),
          KeyedActions.cont⟩
      | .ok (.stop failed) =>
        .ok (rejectPreparation pool operating position
          ⟨failed.role, failed.recoveries, cell.queue, cell.capacity⟩ failed.previous
          failed.stopped failed.source (WorkerPreparationStartFault.error failed.fault))
      | .error (member, input) =>
        .error (operating.insert position { cell with member := member }, input)

/-- The release of a proposed replacement: a fresh creation or a fresh timer. -/
def issueRelease (release : RecoveryRelease) :
    Except WorkerReplacementError (KeyedPool R × WorkerReplacementRelease) :=
  match release with
  | .immediate =>
    match pool.creations.issue with
    | some (creation, creations) => .ok ({ pool with creations := creations }, .now creation)
    | none => .error .workerCreationsExhausted
  | .delayed delay =>
    match ScheduleKey.issue pool.nextRestartTimer with
    | some (timer, next) => .ok ({ pool with nextRestartTimer := next }, .after timer delay)
    | none => .error .restartTimersExhausted

/-- `Member::begin_replacement` in the cell at a position, created and observed. -/
def replaceMember (position : ℕ) (frame : Frame R) (previous : WorkerAttempt)
    (submission : WorkerSubmission R.workers) (creation : ℕ) : Turn R :=
  let (member, worker, observation) := Member.beginReplacement (S := R.workers)
    ⟨frame.role, submission⟩
    frame.recoveries previous.creation creation turn.pool.heap
  { turn with
    pool := { turn.pool with heap := turn.pool.heap + 2 }
    actions := turn.actions.create worker observation }.insert position
    ⟨member, frame.queue, frame.capacity⟩

/-- The body of `accept_worker_preparation_return` once the preparation is ready. -/
def admitReplacement (operating : KeyedOperating R) (position : ℕ)
    (limit : RestartLimit) (release : RestartRelease) (prepared : PreparedReplacement R.workers)
    (queue : KeyedQueue R) (capacity : ℕ) : Acted R :=
  match admitRestart prepared.recoveries pool.restarts limit release prepared.stopped.at'
      ⟨1, Nat.one_pos⟩ with
  | .denied recoveries budget reason =>
    returnSourceAfterReplacementFailure { pool with restarts := budget } operating position
      ⟨prepared.role, recoveries, queue, capacity⟩ prepared.previous prepared.stopped
      prepared.source prepared.submission (.restartDenied reason)
  | .proposed proposal =>
    match issueRelease pool proposal.release with
    | .error error =>
      let (recoveries, budget) := proposal.decline
      returnSourceAfterReplacementFailure { pool with restarts := budget } operating position
        ⟨prepared.role, recoveries, queue, capacity⟩ prepared.previous prepared.stopped
        prepared.source prepared.submission error
    | .ok (pool, release) =>
      match pool.recovery.restoreSource prepared.source with
      | none =>
        let (recoveries, budget) := proposal.decline
        rejectReplacement { pool with restarts := budget } operating position
          ⟨prepared.role, recoveries, queue, capacity⟩ prepared.previous prepared.stopped
          prepared.submission (some prepared.source) .sourceStateCorrupt
      | some recovery =>
        let (recoveries, budget) := proposal.accept
        let frame : Frame R := ⟨prepared.role, recoveries, queue, capacity⟩
        let turn : Turn R :=
          ⟨{ pool with restarts := budget, recovery := recovery }, operating, KeyedActions.cont⟩
        match release with
        | .now creation =>
          (prepareNextWaiting (replaceMember turn position frame prepared.previous
            prepared.submission creation)).operate
        | .after timer delay =>
          (prepareNextWaiting
            ({ turn with actions := turn.actions.schedule (timer.after delay) }.insert position
              (frame.cell (.recovering (.scheduling prepared.previous prepared.stopped
                prepared.submission timer))))).operate

/-- `KeyedPool::accept_worker_preparation_return`. -/
def acceptWorkerPreparationReturn (operating : KeyedOperating R)
    (input : WorkerPreparation R.workers) :
    Except (KeyedOperating R × WorkerPreparation R.workers) (Acted R) :=
  match restartPolicy pool.recovery with
  | none => .error (operating, input)
  | some (limit, release) =>
    match operating.preparationReturnPosition input with
    | none => .error (operating, input)
    | some position =>
      match operating.remove position with
      | none => .error (operating, input)
      | some (cell, operating) =>
        match cell.member.acceptPreparationReturn input with
        | .ok (.ready prepared) =>
          .ok (admitReplacement pool operating position limit release prepared cell.queue
            cell.capacity)
        | .ok (.failed role recoveries previous stopped source error) =>
          .ok (rejectPreparation pool operating position
            ⟨role, recoveries, cell.queue, cell.capacity⟩ previous stopped source error)
        | .error (member, input) =>
          .error (operating.insert position { cell with member := member }, input)

/-- `KeyedPool::accept_restart_schedule`. -/
def acceptRestartSchedule (operating : KeyedOperating R)
    (input : ScheduleSettled) : Except (KeyedOperating R × ScheduleSettled) (Acted R) :=
  match operating.restartSchedulePosition input with
  | none => .error (operating, input)
  | some position =>
    match operating.remove position with
    | none => .error (operating, input)
    | some (cell, operating) =>
      match cell.member.state with
      | .recovering worker =>
        match worker.admitRestartSchedule input with
        | .ok (.resume worker) =>
          .ok ⟨pool, .operating (operating.insert position (cell.frame.cell (.recovering worker))),
            KeyedActions.cont⟩
        | .ok (.stop (replacement, settlement)) =>
          .ok (rejectReplacement pool operating position cell.frame replacement.previous
            replacement.stopped replacement.submission none (.restartScheduleReturned settlement))
        | .error (worker, settlement) =>
          .error (operating.insert position (cell.frame.cell (.recovering worker)), settlement)
      | state => .error (operating.insert position (cell.frame.cell state), input)

/-- `KeyedPool::accept_restart_timer`. -/
def acceptRestartTimer (operating : KeyedOperating R)
    (elapsed : TimerElapsed) : Except (KeyedOperating R × TimerElapsed) (Acted R) :=
  match operating.restartTimerPosition elapsed with
  | none => .error (operating, elapsed)
  | some position =>
    match operating.remove position with
    | none => .error (operating, elapsed)
    | some (cell, operating) =>
      match cell.member.state with
      | .recovering worker =>
        match worker.admitRestartTimer elapsed with
        | .error (worker, elapsed) =>
          .error (operating.insert position (cell.frame.cell (.recovering worker)), elapsed)
        | .ok replacement =>
          match pool.creations.issue with
          | none =>
            .ok (rejectReplacement pool operating position cell.frame replacement.previous
              replacement.stopped replacement.submission none .workerCreationsExhausted)
          | some (creation, creations) =>
            .ok (replaceMember ⟨{ pool with creations := creations }, operating, KeyedActions.cont⟩
              position cell.frame replacement.previous replacement.submission creation).operate
      | state => .error (operating.insert position (cell.frame.cell state), elapsed)

/-! ### Assignments -/

/-- `KeyedPool::complete_assignment`. -/
def completeAssignment (operating : KeyedOperating R) (position : ℕ)
    (frame : Frame R) (current : CurrentWorker R.workers) (customer : CustomerJob R.workers)
    (result : R.base.WorkerResult) (stopped : Option (ChildStopped R.workers)) : Acted R :=
  let turn : Turn R := ⟨pool, operating, KeyedActions.cont.deliver customer.customer.route
    (.completed customer.id customer.customer.binding result)⟩
  match stopped with
  | none => (fillRole (turn.insert position (frame.cell (.worker current .idle))) position).operate
  | some stopped => recoverWorker turn position frame current.attempt stopped none

/-- `KeyedPool::interrupt_assignment`. -/
def interruptAssignment (operating : KeyedOperating R) (position : ℕ)
    (frame : Frame R) (current : CurrentWorker R.workers) (customer : CustomerJob R.workers)
    (stopped : ChildStopped R.workers) (lateCompletion : Option (Completion R.workers)) :
    Acted R :=
  let actions := match lateCompletion with
    | some completion => KeyedActions.cont.diagnose
        (.unexpected (.workerCompleted ⟨current.attempt.creation, completion⟩))
    | none => KeyedActions.cont
  recoverWorker ⟨pool, operating, actions⟩ position frame current.attempt stopped (some customer)

/-- `KeyedPool::quarantine_worker`. -/
def quarantineWorker (position : ℕ) (frame : Frame R)
    (current : CurrentWorker R.workers) (shutdown : ℕ) : Turn R :=
  { turn with actions := turn.actions.shutdown (current.shutdownRequest shutdown) }.insert position
    (frame.cell (.worker current (.stopping (.awaitingBoth shutdown))))

/-- What follows in `reject_assignment_delivery` once the assignment took the
rejection. -/
def releaseAssignment (operating : KeyedOperating R) (position : ℕ)
    (frame : Frame R) (current : CurrentWorker R.workers) (shutdown : ℕ)
    (item : AssignWorker R.workers) (reason : ExactDeliveryReason)
    (rejected : AssignmentRejectionOutcome R.workers) : Acted R :=
  match rejected with
  | .jobReturned customer stopped =>
    let frame := { frame with queue := frame.queue.insert customer.admitted customer }
    let turn : Turn R := ⟨pool, operating, KeyedActions.cont⟩
    match stopped with
    | none => (quarantineWorker turn position frame current shutdown).operate
    | some stopped => recoverWorker turn position frame current.attempt stopped none
  | .conflictingCompletion customer assignment completion stopped =>
    let actions := returnAssigned customer .contradictoryAssignmentSettlement KeyedActions.cont
    let actions := actions.diagnose (.unexpected (.assignmentSettled
      (.attempted (.rejected ⟨item.target, assignment, item.receipt⟩ reason))))
    let actions := actions.diagnose
      (.unexpected (.workerCompleted ⟨current.attempt.creation, completion⟩))
    let turn : Turn R := ⟨pool, operating, actions⟩
    match stopped with
    | none => beginRetirement (quarantineWorker turn position frame current shutdown)
    | some stopped =>
      let acted := recoverWorker turn position frame current.attempt stopped none
      match acted.state with
      | .operating operating => beginRetirement ⟨acted.pool, operating, acted.actions⟩
      | _ => acted

/-- `KeyedPool::reject_assignment_delivery`. -/
def rejectAssignmentDelivery (operating : KeyedOperating R)
    (item : AssignWorker R.workers) (reason : ExactDeliveryReason) : Acted R :=
  let returned (item : AssignWorker R.workers) : KeyedEvent R :=
    .assignmentSettled (.attempted (.rejected item reason))
  match operating.assignmentReceiptPosition item.receipt with
  | none => diagnose pool (.operating operating) (returned item)
  | some position =>
    match pool.shutdowns.reserve 1 with
    | some (shutdown :: _, shutdowns) =>
      let pool := { pool with shutdowns := shutdowns }
      match operating.remove position with
      | none => diagnose pool (.operating operating) (returned item)
      | some (cell, operating) =>
        match cell.member.state with
        | .worker current (.busy assigned) =>
          match assigned.acceptRejection item.assignment with
          | .ok rejected =>
            releaseAssignment pool operating position cell.frame current shutdown item reason
              rejected
          | .error (assigned, assignment) =>
            diagnose pool
              (.operating (operating.insert position
                (cell.frame.cell (.worker current (.busy assigned)))))
              (returned ⟨item.target, assignment, item.receipt⟩)
        | state =>
          diagnose pool (.operating (operating.insert position (cell.frame.cell state)))
            (returned item)
    | _ =>
      beginRetirement ⟨pool, operating, KeyedActions.cont.diagnose (.unexpected (returned item))⟩

/-- `KeyedPool::accept_assignment_receipt`. -/
def acceptAssignmentReceipt (operating : KeyedOperating R)
    (receipt : AssignmentReceipt) : Except (KeyedOperating R × AssignmentReceipt) (Acted R) :=
  match operating.assignmentReceiptPosition receipt with
  | none => .error (operating, receipt)
  | some position =>
    match operating.remove position with
    | none => .error (operating, receipt)
    | some (cell, operating) =>
      match cell.member.state with
      | .worker current (.busy assigned) =>
        match assigned.acceptReceipt receipt with
        | .ok (.awaitingCompletion assigned) =>
          .ok ⟨pool, .operating (operating.insert position
            (cell.frame.cell (.worker current (.busy assigned)))), KeyedActions.cont⟩
        | .ok (.jobCompleted customer result stopped) =>
          .ok (completeAssignment pool operating position cell.frame current customer result
            stopped)
        | .ok (.jobInterrupted customer stopped lateCompletion) =>
          .ok (interruptAssignment pool operating position cell.frame current customer stopped
            lateCompletion)
        | .error (assigned, receipt) =>
          .error (operating.insert position
            (cell.frame.cell (.worker current (.busy assigned))), receipt)
      | state => .error (operating.insert position (cell.frame.cell state), receipt)

/-- `KeyedPool::accept_completion`. -/
def acceptCompletion (pool : KeyedPool R) (operating : KeyedOperating R)
    (input : CompletionReport R.workers) :
    Except (KeyedOperating R × CompletionReport R.workers) (Acted R) :=
  match operating.completionPosition input.child input.report with
  | none => .error (operating, input)
  | some position =>
    match operating.remove position with
    | none => .error (operating, input)
    | some (cell, operating) =>
      match cell.member.state with
      | .worker current (.busy assigned) =>
        match assigned.acceptCompletion input.report with
        | .ok (.awaitingReceipt assigned) =>
          .ok ⟨pool, .operating (operating.insert position
            (cell.frame.cell (.worker current (.busy assigned)))), KeyedActions.cont⟩
        | .ok (.jobCompleted customer result stopped) =>
          .ok (completeAssignment pool operating position cell.frame current customer result
            stopped)
        | .error (assigned, completion) =>
          .error (operating.insert position
            (cell.frame.cell (.worker current (.busy assigned))), ⟨input.child, completion⟩)
      | state => .error (operating.insert position (cell.frame.cell state), input)

/-- `KeyedPool::recover_quarantined_worker`. -/
def recoverQuarantinedWorker (operating : KeyedOperating R) (position : ℕ)
    (frame : Frame R) (current : CurrentWorker R.workers) (shutdown : EstablishedShutdownResolved)
    (stopped : ChildStopped R.workers) : Acted R :=
  let actions := match shutdown with
    | .accepted _ => KeyedActions.cont
    | .rejected id reason =>
      KeyedActions.cont.diagnose (.workerShutdownRejected frame.role (.rejected id reason))
  recoverWorker ⟨pool, operating, actions⟩ position frame current.attempt stopped none

/-- `KeyedPool::accept_worker_stop`: a worker that is not ready yet hands the stop
back. -/
def acceptWorkerStop (operating : KeyedOperating R)
    (stopped : ChildStopped R.workers) :
    Except (KeyedOperating R × ChildStopped R.workers) (Acted R) :=
  match operating.workerIdPosition stopped.child with
  | none => .error (operating, stopped)
  | some position =>
    match operating.remove position with
    | none => .error (operating, stopped)
    | some (cell, operating) =>
      match cell.member.state with
      | .worker current .idle =>
        .ok (recoverWorker ⟨pool, operating, KeyedActions.cont⟩ position cell.frame
          current.attempt stopped none)
      | .worker current (.busy assigned) =>
        match assigned.acceptWorkerExit stopped with
        | .ok (.awaitingReceipt assigned) =>
          .ok ⟨pool, .operating (operating.insert position
            (cell.frame.cell (.worker current (.busy assigned)))), KeyedActions.cont⟩
        | .ok (.jobInterrupted customer stopped lateCompletion) =>
          .ok (interruptAssignment pool operating position cell.frame current customer stopped
            lateCompletion)
        | .error (assigned, stopped) =>
          .error (operating.insert position
            (cell.frame.cell (.worker current (.busy assigned))), stopped)
      | .worker current (.stopping shutdown) =>
        match shutdown.stopped stopped current.attempt with
        | .ok (.resume shutdown) =>
          .ok ⟨pool, .operating (operating.insert position
            (cell.frame.cell (.worker current (.stopping shutdown)))), KeyedActions.cont⟩
        | .ok (.stop (shutdown, stopped)) =>
          .ok (recoverQuarantinedWorker pool operating position cell.frame current shutdown stopped)
        | .error (shutdown, stopped) =>
          .error (operating.insert position
            (cell.frame.cell (.worker current (.stopping shutdown))), stopped)
      | state => .error (operating.insert position (cell.frame.cell state), stopped)

/-- `KeyedPool::accept_quarantine_shutdown`. -/
def acceptQuarantineShutdown (operating : KeyedOperating R)
    (settlement : EstablishedShutdownResolved) :
    Except (KeyedOperating R × EstablishedShutdownResolved) (Acted R) :=
  match operating.workerShutdownPosition settlement.id with
  | none => .error (operating, settlement)
  | some position =>
    match operating.remove position with
    | none => .error (operating, settlement)
    | some (cell, operating) =>
      match cell.member.state with
      | .worker current (.stopping shutdown) =>
        match shutdown.settled settlement with
        | .ok (.resume shutdown) =>
          .ok ⟨pool, .operating (operating.insert position
            (cell.frame.cell (.worker current (.stopping shutdown)))), KeyedActions.cont⟩
        | .ok (.stop (shutdown, stopped)) =>
          .ok (recoverQuarantinedWorker pool operating position cell.frame current shutdown stopped)
        | .error (shutdown, settlement) =>
          .error (operating.insert position
            (cell.frame.cell (.worker current (.stopping shutdown))), settlement)
      | state => .error (operating.insert position (cell.frame.cell state), settlement)

/-! ### Creations -/

/-- What a batch loop does once the pool no longer operates: the rest of the batch
goes to the retiring pool, or comes back. -/
def retireBatch (acted : Acted R) (remaining : CreationsSettled R.workers) : Acted R :=
  match acted.state with
  | .retiring workers deadline =>
    let settled := acceptWorkerCreations acted.pool workers deadline remaining
    { settled with
      actions := { acted.actions.append settled.actions with become := settled.actions.become } }
  | state =>
    let returned := diagnose acted.pool state (.workerCreationsSettled remaining)
    { returned with actions := acted.actions.append returned.actions }

/-- The loop of `accept_creations`. -/
def admitCreations : List (ℕ × WorkerCreationSettlement R.workers) → Turn R → Acted R
  | [], turn => turn.operate
  | (position, settlement) :: received, turn =>
    match turn.operating.remove position with
    | none => turn.operate
    | some (cell, operating) =>
      match cell.member.admitCreation settlement with
      | .initializing member request =>
        admitCreations received
          { turn with
            operating := operating.insert position { cell with member := member }
            actions := turn.actions.requestInitialization request }
      | .rejected member role rejection startup stopped =>
        let acted := retireUnrecoveredWorker
          { turn with
            operating := operating
            actions := turn.actions.diagnose
              (.workerCreationRejected role rejection startup stopped) }
          position ⟨role, member.recoveries, cell.queue, cell.capacity⟩
        match acted.state with
        | .operating operating => admitCreations received ⟨acted.pool, operating, acted.actions⟩
        | _ =>
          if received.isEmpty then acted
          else retireBatch acted (.settled (received.map Prod.snd))
      | .unrelated member creation =>
        admitCreations received
          { turn with
            operating := operating.insert position { cell with member := member }
            actions := turn.actions.diagnose
              (.unexpected (.workerCreationsSettled (.settled [creation]))) }

/-- The loop of `reject_creation_batch`. -/
def rejectCreations (rejection : CreationBatchRejection) :
    List (ℕ × CreateChild R.workers) → Turn R → Acted R
  | [], turn => turn.operate
  | (position, creation) :: received, turn =>
    match turn.operating.remove position with
    | none => turn.operate
    | some (cell, operating) =>
      match cell.member.state with
      | .creating starting =>
        let acted := retireUnrecoveredWorker
          { turn with
            operating := operating
            actions := turn.actions.diagnose (.workerCreationRejected cell.role
              (rejection.worker creation.worker) starting.startup starting.stopped) }
          position cell.frame
        match acted.state with
        | .operating operating =>
          rejectCreations rejection received ⟨acted.pool, operating, acted.actions⟩
        | _ =>
          if received.isEmpty then acted
          else retireBatch acted (rejection.settlement (received.map Prod.snd))
      | state =>
        rejectCreations rejection received
          { turn with
            operating := operating.insert position (cell.frame.cell state)
            actions := turn.actions.diagnose
              (.unexpected (.workerCreationsSettled (rejection.settlement [creation]))) }

/-- `KeyedPool::reject_creation_batch`. -/
def rejectCreationBatch (operating : KeyedOperating R)
    (creations : List (CreateChild R.workers)) (rejection : CreationBatchRejection) :
    Except (KeyedOperating R × CreationsSettled R.workers) (Acted R) :=
  match operating.creationPositions (creations.map fun creation => (creation.id, creation.kind)) with
  | none => .error (operating, rejection.settlement creations)
  | some positions =>
    .ok (rejectCreations rejection (positions.zip creations) ⟨pool, operating, KeyedActions.cont⟩)

/-- `KeyedPool::accept_creations`. -/
def acceptCreations (operating : KeyedOperating R)
    (workers : CreationsSettled R.workers) :
    Except (KeyedOperating R × CreationsSettled R.workers) (Acted R) :=
  match workers with
  | .rejected creations => rejectCreationBatch pool operating creations .namespaceExhausted
  | .corrupt creations fault =>
    rejectCreationBatch pool operating creations (.interpreterCorrupt fault)
  | .settled settlements =>
    match operating.creationPositions (settlements.map creationIdentity) with
    | none => .error (operating, .settled settlements)
    | some positions =>
      .ok (admitCreations (positions.zip settlements) ⟨pool, operating, KeyedActions.cont⟩)

end Bombay.Keyed
