/-
# What one transition of an operating pool can do

The handlers of `queue/mod.rs` compose a small number of elementary moves: one
member changes its phase, one job leaves or enters the backlog, one source is
claimed or comes back.  `Move` lists them, and `Chain` is a sequence of moves
inside one transition.

A move may leave work undone: an idle worker beside a waiting job, a free
startup slot beside a waiting worker, a source at home beside a waiting role, a
backlog nobody can serve.  A `Dirt` records which of the four may be undone, and
a chain may wipe a mark only where the roster is in order again.  Work is handed
out last: a move that changes what a worker is able to do is `Fresh`.

Every invariant of an operating pool is proved once per move; that each handler
is a chain is proved once, in `Bombay.Fifo.Handlers`.
-/

import Bombay.Fifo.Transition

namespace Bombay.Fifo

variable {S : Signature}

/-! ### Order in the roster -/

/-- No idle worker stands beside a waiting job. -/
def WorkConserving (operating : FifoOperating S) : Prop :=
  operating.backlog.entries = [] ∨ operating.members.countP isIdle = 0

/-- No startup slot is free while a worker waits for one. -/
def SlotsUsed (maximum : ℕ) (operating : FifoOperating S) : Prop :=
  0 < operating.members.countP isWaiting → maximum ≤ operating.members.countP isOccupying

/-- No role waits for a source that is here. -/
def SourceServed (recovery : PoolRecoveryState S.Source) (operating : FifoOperating S) : Prop :=
  0 < operating.members.countP isWaitingForSource → recovery.sourceHere = false

/-- No job waits in a pool without a recoverable worker, unless a worker that was
asked to shut down has not departed yet. -/
def Serviceable (recovery : PoolRecoveryState S.Source) (operating : FifoOperating S) : Prop :=
  operating.members.countP (isRecoverable recovery) = 0 →
    operating.backlog.entries = [] ∨ 0 < operating.members.countP isStopping

/-- What a chain of moves may have left undone. -/
structure Dirt where
  /-- An idle worker may stand beside a waiting job. -/
  dispatch : Bool := false
  /-- A startup slot may be free. -/
  startup : Bool := false
  /-- The source may be here while a role waits. -/
  source : Bool := false
  /-- Jobs may wait for nobody. -/
  service : Bool := false

/-- Both marks. -/
def Dirt.merge (a b : Dirt) : Dirt where
  dispatch := a.dispatch || b.dispatch
  startup := a.startup || b.startup
  source := a.source || b.source
  service := a.service || b.service

@[simp] theorem Dirt.merge_clean (dirt : Dirt) : dirt.merge {} = dirt := by
  simp [Dirt.merge]

@[simp] theorem Dirt.clean_merge (dirt : Dirt) : ({} : Dirt).merge dirt = dirt := by
  simp [Dirt.merge]

/-! ### Elementary moves -/

/-- `members[position] = member`. -/
def FifoOperating.put (operating : FifoOperating S) (position : ℕ) (member : Member S) :
    FifoOperating S :=
  { operating with members := operating.members.set position member }

/-- `members[position] = member`. -/
def Turn.put (turn : Turn S) (position : ℕ) (member : Member S) : Turn S :=
  { turn with operating := turn.operating.put position member }

variable (turn : Turn S)

/-- Deliver one outcome. -/
def Turn.deliver (turn : Turn S) (customer : S.Customer) (outcome : FifoOutcome S) : Turn S :=
  { turn with actions := turn.actions.deliver customer outcome }

/-- Insert a job into the backlog. -/
def Turn.enqueue (turn : Turn S) (queued : QueuedJob S) : Turn S :=
  { turn with operating := turn.operating.enqueue queued }

/-- No job and no startup was handed to a worker yet. -/
def Fresh (actions : FifoActions S) : Prop :=
  actions.workerAssignments = [] ∧ actions.workerStartups = []

/-- A diagnostic that says nothing about an admission or a source, and that does
not hand the event back, except where the source diagnoses a delivery or, first
of all, a report it also uses. -/
def Plain (event : FifoEvent S) (diagnostics : List (FifoDiagnosticCause S)) :
    FifoDiagnosticCause S → Prop
  | .unexpected other => other = event →
      (∃ report, event = .workerInitialization report ∧ diagnostics = []) ∨
        ∃ settled, event = .assignmentSettled settled
  | .workerPreparationFailed .. => False
  | .workerReplacementFailed .. => False
  | _ => True

/-- A member phase that changes without any job, slot, source or service
changing hands. -/
inductive Shift (event : FifoEvent S) : MemberState S → MemberState S → Prop
  | creatingStopped {worker stopped} (hevent : event = .workerStopped stopped)
      (hchild : stopped.child = worker.attempt.creation) (hnone : worker.stopped = none) :
      Shift event (.creating worker) (.creating { worker with stopped := some stopped })
  | initializingStopped {current initialization stopped} (hevent : event = .workerStopped stopped)
      (hchild : stopped.child = current.attempt.creation) :
      Shift event (.worker current (.initializing initialization none))
        (.worker current (.initializing initialization (some stopped)))
  | requestedStopped {current attempt stopped} (hevent : event = .workerStopped stopped)
      (hchild : stopped.child = current.attempt.creation) :
      Shift event (.worker current (.startupRequested attempt none))
        (.worker current (.startupRequested attempt (some stopped)))
  | startingStopped {current attempt stopped} (hevent : event = .workerStopped stopped)
      (hchild : stopped.child = current.attempt.creation) :
      Shift event (.worker current (.starting attempt none))
        (.worker current (.starting attempt (some stopped)))
  | started {current attempt stopped} :
      Shift event (.worker current (.startupRequested attempt stopped))
        (.worker current (.starting attempt stopped))
  | joined {current assigned next} (hcustomer : next.customer = assigned.customer)
      (hcorrelation : next.correlation = assigned.correlation)
      (hstop : next.observedStop = assigned.observedStop) :
      Shift event (.worker current (.busy assigned)) (.worker current (.busy next))
  | exited {current assigned next stopped} (hevent : event = .workerStopped stopped)
      (hchild : stopped.child = current.attempt.creation)
      (hcustomer : next.customer = assigned.customer)
      (hcorrelation : next.correlation = assigned.correlation)
      (hnone : assigned.observedStop = none) (hstop : next.observedStop = some stopped) :
      Shift event (.worker current (.busy assigned)) (.worker current (.busy next))
  | shutdownSettled {current settlement} (hevent : event = .workerShutdownSettled settlement) :
      Shift event (.worker current (.stopping (.awaitingBoth settlement.id)))
        (.worker current (.stopping (.awaitingStop settlement)))
  | shutdownStopped {current request stopped} (hevent : event = .workerStopped stopped)
      (hchild : stopped.child = current.attempt.creation) :
      Shift event (.worker current (.stopping (.awaitingBoth request)))
        (.worker current (.stopping (.awaitingSettlement request stopped)))
  | preparationStarted {previous stopped ticket started}
      (hevent : event = .workerPreparationStarted started) :
      Shift event (.recovering (.preparing previous stopped (.issued ticket)))
        (.recovering (.preparing previous stopped (.started ticket)))
  | scheduled {previous stopped submission timer settled}
      (hevent : event = .restartScheduleSettled settled)
      (haccepts : timer.acceptsResult settled = true) :
      Shift event (.recovering (.scheduling previous stopped submission timer))
        (.recovering (.waitingForTimer previous stopped submission timer))

/-- The event brings the exact stop of a worker. -/
def Brings (event : FifoEvent S) (stopped : ChildStopped S) : Prop :=
  event = .workerStopped stopped ∨
    ∃ worker initialization startup,
      event = .workerInitialization (.stopped worker initialization startup stopped)

/-- A worker in this phase has stopped: the phase retained the stop, or the event
brings it and is not handed back. -/
def Halts (event : FifoEvent S) (diagnostics : List (FifoDiagnosticCause S))
    (current : CurrentWorker S) (phase : WorkerPhase S) (stopped : ChildStopped S) : Prop :=
  phase.retained = some stopped ∨
    (phase.retained = none ∧ stopped.child = current.attempt.creation ∧
      (event = .workerStopped stopped ∨
        (∃ worker initialization startup,
          event = .workerInitialization (.stopped worker initialization startup stopped)) ∧
        diagnostics ≠ [] ∧ .unexpected event ∉ diagnostics))

/-- The event ends a preparation: its start failed, or it came back. -/
def Returns (event : FifoEvent S) (preparation : WorkerPreparationExpectation) : Prop :=
  (∃ started, event = .workerPreparationStarted started ∧
    preparation.acceptsIssued started = true ∧
    ∀ ticket, started ≠ .attempted (.accepted ticket)) ∨
  ∃ returned, event = .workerPreparationReturned returned ∧
    preparation.acceptsReturn returned = true

/-- **A replacement can be charged**: a prepared worker came back, and the budget admits
one more replacement at the time of this stop. -/
def FifoPool.admits (pool : FifoPool S) (returned : WorkerPreparation S)
    (stopped : ChildStopped S) : Bool :=
  match restartPolicy pool.recovery, returned.outcome with
  | some (limit, _), .prepared _ (_ :: _) =>
    match pool.restarts.preview limit stopped.at' ⟨1, Nat.one_pos⟩ with
    | .admitted _ => true
    | .denied _ => false
  | _, _ => false

/-- What recovery decides for a stopped worker. -/
inductive Decided (turn : Turn S) (position : ℕ) (role : S.Role) (recoveries : RecoveryCount)
    (previous : WorkerAttempt) (stopped : ChildStopped S) : Dirt → Turn S → Prop
  | prepare {recovery} (source : S.Source) (hhere : turn.pool.recovery.sourceHere = true)
      (haway : recovery.sourceAway = true) (hpolicy : recovery.policy = turn.pool.recovery.policy)
      (heligible : turn.pool.recovery.eligible (stopKind stopped.outcome) = true) :
      Decided turn position role recoveries previous stopped {}
        { pool := { turn.pool with recovery := recovery, heap := turn.pool.heap + 1 }
          operating := turn.operating.put position ⟨role, recoveries,
            .recovering (.preparing previous stopped (.issued turn.pool.heap))⟩
          actions := turn.actions.prepare ⟨turn.pool.heap, source, role, []⟩ }
  | wait (haway : turn.pool.recovery.sourceAway = true)
      (heligible : turn.pool.recovery.eligible (stopKind stopped.outcome) = true) :
      Decided turn position role recoveries previous stopped {}
        (turn.put position ⟨role, recoveries, .recovering (.waitingForSource previous stopped)⟩)
  | retire :
      Decided turn position role recoveries previous stopped { service := true }
        (turn.put position ⟨role, recoveries, .retired⟩)

/-- What becomes of the job of a worker that does not finish it. -/
inductive Disposed (turn : Turn S) (role : S.Role) (customer : CustomerJob S) :
    Bool → Turn S → Prop
  | completed (result : S.WorkerResult) :
      Disposed turn role customer false
        (turn.deliver customer.customer (.completed customer.id role result))
  | returned (reason : AssignedReturnReason) :
      Disposed turn role customer false
        (turn.deliver customer.customer
          (.returnedAssigned customer.id role customer.payload reason))
  | requeued : Disposed turn role customer true (turn.enqueue ⟨customer, some role⟩)

/-- A worker that is asked to shut down although it did not stop. -/
inductive Suspect : WorkerPhase S → Prop
  | initializing {initialization} :
      Suspect (.initializing initialization none)
  | requested {attempt} : Suspect (.startupRequested attempt none)
  | starting {attempt} : Suspect (.starting attempt none)

/-- The pool after a shutdown identifier was reserved. -/
def Turn.withShutdowns (shutdowns : Sequence) : Turn S :=
  { turn with pool := { turn.pool with shutdowns := shutdowns } }

/-- Ask the worker at a position to shut down. -/
def Turn.quarantine (position : ℕ) (role : S.Role) (recoveries : RecoveryCount)
    (current : CurrentWorker S) (shutdown : ℕ) : Turn S :=
  { turn with
    operating := turn.operating.put position
      ⟨role, recoveries, .worker current (.stopping (.awaitingBoth shutdown))⟩
    actions := turn.actions.shutdown ⟨shutdown, current.actor⟩ }

/-- A prepared replacement is turned down: the source is back, the role retires. -/
def Turn.denied (position : ℕ) (role : S.Role) (recoveries : RecoveryCount)
    (recovery : PoolRecoveryState S.Source) (cause : FifoDiagnosticCause S) : Turn S :=
  { pool := { turn.pool with recovery := recovery }
    operating := turn.operating.put position ⟨role, recoveries, .retired⟩
    actions := turn.actions.diagnose cause }

/-- A replacement is created. -/
def Turn.replaced (position : ℕ) (role : S.Role) (recoveries : RecoveryCount)
    (previous creation : ℕ) (submission : WorkerSubmission S) : Turn S :=
  { pool := { turn.pool with heap := turn.pool.heap + 2 }
    operating := turn.operating.put position ⟨role, recoveries, .creating
      ⟨⟨creation, turn.pool.heap⟩, ⟨⟨creation, turn.pool.heap⟩, turn.pool.heap + 1⟩,
        submission.startup, .replacement previous, none⟩⟩
    actions := turn.actions.create ⟨creation, submission.worker, .replacement previous⟩ creation }

/-- A diagnostic that reports a failed preparation, its source being restored. -/
def RestoredFailure (role : S.Role) (previous : WorkerAttempt) (stopped : ChildStopped S)
    (budget : RestartBudget) : FifoDiagnosticCause S → Prop
  | .workerPreparationFailed role' previous' stopped' none error =>
      role' = role ∧ previous' = previous ∧ stopped' = stopped ∧ error ≠ .sourceStateCorrupt
  | .workerReplacementFailed role' previous' stopped' _ none (.restartDenied reason) =>
      role' = role ∧ previous' = previous ∧ stopped' = stopped ∧
        ((∃ latest ∈ budget.latest, stopped.at' < latest) ∨
          ∀ before observed, reason ≠ .clockRegressed before observed)
  | .workerReplacementFailed role' previous' stopped' _ none error =>
      role' = role ∧ previous' = previous ∧ stopped' = stopped ∧ error ≠ .sourceStateCorrupt
  | _ => False

/-- One job is sent to one idle worker. -/
def Turn.assigned (position : ℕ) (role : S.Role) (recoveries : RecoveryCount)
    (current : CurrentWorker S) (customer : CustomerJob S) (assignment : ℕ)
    (assignments : Sequence) : Turn S :=
  { pool := { turn.pool with assignments := assignments, heap := turn.pool.heap + 1 }
    operating :=
      { members := turn.operating.members.set position ⟨role, recoveries, .worker current
          (.busy ⟨customer, ⟨assignment, current.attempt, turn.pool.heap⟩, .awaitingReceipt⟩)⟩
        backlog := turn.operating.backlog
        cursor := position + 1 }
    actions := turn.actions.assign ⟨current.recipient,
      ⟨customer.payload, ⟨assignment, current.attempt, turn.pool.heap⟩⟩,
      ⟨assignment, current.attempt⟩⟩ }

/-- The turn with another backlog. -/
def Turn.withBacklog (backlog : OrderedMap ℕ (QueuedJob S)) : Turn S :=
  { turn with operating := { turn.operating with backlog := backlog } }

/-- The turn with another job sequence. -/
def Turn.withJobs (jobs : Sequence) : Turn S :=
  { turn with pool := { turn.pool with jobs := jobs } }

/-- **The elementary moves of an operating pool**, each with the marks it leaves. -/
inductive Move (event : FifoEvent S) : Dirt → Turn S → Turn S → Prop
  /-- A diagnostic. -/
  | note {turn : Turn S} {cause} (hplain : Plain event turn.actions.diagnostics cause) :
      Move event {} turn (turn.note cause)
  /-- A shutdown identifier is reserved. -/
  | reserve {turn : Turn S} (shutdowns : Sequence) :
      Move event {} turn (turn.withShutdowns shutdowns)
  /-- A member waits for its next fact. -/
  | shift {turn : Turn S} {position role recoveries before after}
      (hmember : turn.operating.members[position]? = some ⟨role, recoveries, before⟩)
      (hshift : Shift event before after) (hfresh : Fresh turn.actions) :
      Move event {} turn (turn.put position ⟨role, recoveries, after⟩)
  /-- A created worker is established and initializes. -/
  | establish {turn : Turn S} {position role recoveries worker settlement actor settlements}
      (hmember : turn.operating.members[position]? = some ⟨role, recoveries, .creating worker⟩)
      (hevent : event = .workerCreationsSettled (.settled settlements))
      (hmem : settlement ∈ settlements)
      (hidentity : creationIdentity settlement = (worker.attempt.creation, worker.kind))
      (hactor : settleWorkerCreation settlement = .established actor) :
      Move event {} turn
        { turn with
          operating := turn.operating.put position ⟨role, recoveries,
            .worker ⟨worker.attempt, actor⟩ (.initializing worker.initialization worker.stopped)⟩
          actions := turn.actions.requestInitialization
            ⟨worker.attempt, worker.initialization, S.recipient actor, worker.startup⟩ }
  /-- A worker could not be created. -/
  | rejectCreation {turn : Turn S} {position role recoveries worker workers}
      (rejection : WorkerCreationRejection S)
      (hmember : turn.operating.members[position]? = some ⟨role, recoveries, .creating worker⟩)
      (hevent : event = .workerCreationsSettled workers)
      (hidentity : (worker.attempt.creation, worker.kind) ∈ identities workers) :
      Move event { service := true } turn
        { turn with
          operating := turn.operating.put position ⟨role, recoveries, .retired⟩
          actions := turn.actions.diagnose
            (.workerCreationRejected role rejection worker.startup worker.stopped) }
  /-- An initialized worker waits for a startup slot. -/
  | permit {turn : Turn S} {position role recoveries current initialization}
      (authority : StartupPermit S) (startup : S.Plan)
      (hmember : turn.operating.members[position]?
        = some ⟨role, recoveries, .worker current (.initializing initialization none)⟩)
      (hfresh : Fresh turn.actions) :
      Move event { startup := true } turn
        (turn.put position
          ⟨role, recoveries, .worker current (.waitingForStartup authority startup)⟩)
  /-- The first waiting worker takes a free startup slot. -/
  | authorize {turn : Turn S} {position role recoveries current authority startup}
      (hmember : turn.operating.members[position]?
        = some ⟨role, recoveries, .worker current (.waitingForStartup authority startup)⟩)
      (hfirst : ∀ earlier < position, ∀ member ∈ turn.operating.members[earlier]?,
        isWaiting member = false)
      (hfree : turn.operating.members.countP isOccupying < turn.pool.startup.maximum) :
      Move event {} turn
        { pool := { turn.pool with heap := turn.pool.heap + 1 }
          operating := turn.operating.put position ⟨role, recoveries,
            .worker current (.startupRequested ⟨authority.worker, turn.pool.heap⟩ none)⟩
          actions := turn.actions.startup
            ⟨⟨authority.worker, turn.pool.heap⟩, authority, startup⟩ }
  /-- A started worker is ready for work. -/
  | ready {turn : Turn S} {position role recoveries current attempt}
      (hmember : turn.operating.members[position]?
        = some ⟨role, recoveries, .worker current (.starting attempt none)⟩)
      (hfresh : Fresh turn.actions) :
      Move event { dispatch := true, startup := true } turn
        (turn.put position ⟨role, recoveries, .worker current .idle⟩)
  /-- The first waiting job goes to the next idle worker. -/
  | dispatch {turn : Turn S} {position admitted role recoveries current queued backlog assignment
        assignments} (hfirst : turn.operating.backlog.popFirst = some ((admitted, queued), backlog))
      (hposition : turn.operating.availablePosition = some position)
      (hmember : turn.operating.members[position]?
        = some ⟨role, recoveries, .worker current .idle⟩)
      (hissue : turn.pool.assignments.issue = some (assignment, assignments)) :
      Move event {} turn
        ((turn.withBacklog backlog).assigned position role recoveries current queued.customer
          assignment assignments)
  /-- The first waiting job comes back: no correlation is left for it. -/
  | returnHead {turn : Turn S} {admitted queued backlog}
      (hfirst : turn.operating.backlog.popFirst = some ((admitted, queued), backlog))
      (hissue : turn.pool.assignments.issue = none) :
      Move event {} turn
        ((turn.withBacklog backlog).deliver queued.customer.customer (uncorrelated queued))
  /-- Every waiting job comes back: nobody can serve it. -/
  | returnAll {turn : Turn S}
      (hnone : turn.operating.recoverablePosition turn.pool.recovery = none) :
      Move event {} turn
        { turn with
          operating := { turn.operating with backlog := OrderedMap.empty }
          actions := returnQueued .noRecoverableWorkers turn.operating.backlog.values
            turn.actions }
  /-- A job completes and its worker is idle again. -/
  | complete {turn : Turn S} {position role recoveries current assigned result}
      (hmember : turn.operating.members[position]?
        = some ⟨role, recoveries, .worker current (.busy assigned)⟩)
      (hstop : assigned.observedStop = none) (hfresh : Fresh turn.actions) :
      Move event { dispatch := true } turn
        ((turn.deliver assigned.customer.customer
          (.completed assigned.customer.id role result)).put position
          ⟨role, recoveries, .worker current .idle⟩)
  /-- A worker without a job has stopped. -/
  | halt {turn next : Turn S} {position role recoveries current phase stopped dirt}
      (hmember : turn.operating.members[position]?
        = some ⟨role, recoveries, .worker current phase⟩)
      (hphase : ∀ assigned, phase ≠ .busy assigned)
      (hhalts : Halts event turn.actions.diagnostics current phase stopped)
      (hfresh : Fresh turn.actions)
      (hdecided : Decided turn position role recoveries current.attempt stopped dirt next) :
      Move event
        { dirt with
          startup := isOccupying (⟨role, recoveries, .worker current phase⟩ : Member S)
          dispatch := false }
        turn next
  /-- A worker with a job has stopped. -/
  | haltBusy {turn middle next : Turn S} {position role recoveries current assigned stopped requeues
        dirt}
      (hmember : turn.operating.members[position]?
        = some ⟨role, recoveries, .worker current (.busy assigned)⟩)
      (hhalts : Halts event turn.actions.diagnostics current (.busy assigned) stopped)
      (hdisposed : Disposed turn role assigned.customer requeues middle)
      (hfresh : Fresh turn.actions) (hfirst : requeues = true → turn.actions.customerOutcomes = [])
      (hdecided : Decided middle position role recoveries current.attempt stopped dirt next) :
      Move event { dirt with startup := false, dispatch := requeues } turn next
  /-- A worker that failed to start is asked to shut down. -/
  | quarantine {turn : Turn S} {position role recoveries current phase} (shutdown : ℕ)
      (hmember : turn.operating.members[position]?
        = some ⟨role, recoveries, .worker current phase⟩) (hsuspect : Suspect phase)
      (hfresh : Fresh turn.actions) :
      Move event
        { startup := isOccupying (⟨role, recoveries, .worker current phase⟩ : Member S) }
        turn (turn.quarantine position role recoveries current shutdown)
  /-- A worker whose delivery came back is asked to shut down. -/
  | quarantineBusy {turn middle : Turn S} {position role recoveries current assigned requeues}
      (shutdown : ℕ)
      (hmember : turn.operating.members[position]?
        = some ⟨role, recoveries, .worker current (.busy assigned)⟩)
      (hstop : assigned.observedStop = none)
      (hdisposed : Disposed turn role assigned.customer requeues middle)
      (hfresh : Fresh turn.actions) (hfirst : requeues = true → turn.actions.customerOutcomes = []) :
      Move event { dispatch := requeues } turn
        (middle.quarantine position role recoveries current shutdown)
  /-- The first waiting role takes the source that is here. -/
  | claim {turn : Turn S} {position role recoveries previous stopped recovery} (source : S.Source)
      (hmember : turn.operating.members[position]?
        = some ⟨role, recoveries, .recovering (.waitingForSource previous stopped)⟩)
      (hhere : turn.pool.recovery.sourceHere = true) (haway : recovery.sourceAway = true)
      (hpolicy : recovery.policy = turn.pool.recovery.policy) :
      Move event {} turn
        { pool := { turn.pool with recovery := recovery, heap := turn.pool.heap + 1 }
          operating := turn.operating.put position ⟨role, recoveries,
            .recovering (.preparing previous stopped (.issued turn.pool.heap))⟩
          actions := turn.actions.prepare ⟨turn.pool.heap, source, role, []⟩ }
  /-- A preparation or its replacement fails; the source is back. -/
  | deny {turn : Turn S} {position role recoveries previous stopped preparation recovery cause}
      (hmember : turn.operating.members[position]?
        = some ⟨role, recoveries, .recovering (.preparing previous stopped preparation)⟩)
      (haway : turn.pool.recovery.sourceAway = true) (hhere : recovery.sourceHere = true)
      (hpolicy : recovery.policy = turn.pool.recovery.policy)
      (hcause : RestoredFailure role previous stopped turn.pool.restarts cause)
      (hevent : Returns event preparation) :
      Move event { source := true, service := true } turn
        (turn.denied position role recoveries recovery cause)
  /-- A prepared replacement is admitted and created at once. -/
  | replaceNow {turn : Turn S} {position role recoveries recoveries'} {previous : WorkerAttempt}
      {stopped} {preparation : WorkerPreparationExpectation} {recovery : PoolRecoveryState S.Source}
      {limit budget submission creation creations returned}
      (hmember : turn.operating.members[position]?
        = some ⟨role, recoveries, .recovering (.preparing previous stopped preparation)⟩)
      (haway : turn.pool.recovery.sourceAway = true) (hhere : recovery.sourceHere = true)
      (hpolicy : recovery.policy = turn.pool.recovery.policy)
      (hbudget : turn.pool.restarts.preview limit stopped.at' ⟨1, Nat.one_pos⟩
        = .admitted budget) (hissue : turn.pool.creations.issue = some (creation, creations))
      (hevent : event = .workerPreparationReturned returned)
      (hreturn : preparation.acceptsReturn returned = true)
      (hadmits : turn.pool.admits returned stopped = true)
      (hfirst : turn.actions = FifoActions.cont) :
      Move event { source := true } turn
        (({ turn with pool := { turn.pool with
              recovery := recovery, restarts := budget, creations := creations } }).replaced
          position role recoveries' previous.creation creation submission)
  /-- A prepared replacement is admitted and waits for its timer. -/
  | schedule {turn : Turn S} {position role recoveries recoveries' previous stopped preparation
        recovery limit budget submission timer delay next returned}
      (hmember : turn.operating.members[position]?
        = some ⟨role, recoveries, .recovering (.preparing previous stopped preparation)⟩)
      (haway : turn.pool.recovery.sourceAway = true) (hhere : recovery.sourceHere = true)
      (hpolicy : recovery.policy = turn.pool.recovery.policy)
      (hbudget : turn.pool.restarts.preview limit stopped.at' ⟨1, Nat.one_pos⟩
        = .admitted budget)
      (htimer : ScheduleKey.issue turn.pool.nextRestartTimer = some (timer, next))
      (hevent : event = .workerPreparationReturned returned)
      (hreturn : preparation.acceptsReturn returned = true)
      (hadmits : turn.pool.admits returned stopped = true)
      (hfirst : turn.actions = FifoActions.cont) :
      Move event { source := true } turn
        { pool := { turn.pool with
            recovery := recovery, restarts := budget, nextRestartTimer := next }
          operating := turn.operating.put position ⟨role, recoveries',
            .recovering (.scheduling previous stopped submission timer)⟩
          actions := turn.actions.schedule (timer.after delay) }
  /-- A delayed replacement fails. -/
  | retireDelayed {turn : Turn S} {position role recoveries previous stopped submission timer before
        error}
      (hmember : turn.operating.members[position]?
        = some ⟨role, recoveries, .recovering before⟩)
      (hbefore : (before = .scheduling previous stopped submission timer ∧
          ∃ settled, event = .restartScheduleSettled settled ∧ timer.acceptsResult settled = true ∧
            error = .restartScheduleReturned settled) ∨
        (before = .waitingForTimer previous stopped submission timer ∧
          error = .workerCreationsExhausted)) :
      Move event { service := true } turn
        { turn with
          operating := turn.operating.put position ⟨role, recoveries, .retired⟩
          actions := turn.actions.diagnose
            (.workerReplacementFailed role previous stopped submission none error) }
  /-- A delayed replacement is created. -/
  | replaceDelayed {turn : Turn S} {position role recoveries} {previous : WorkerAttempt} {stopped
        submission timer creation creations}
      (hmember : turn.operating.members[position]? = some ⟨role, recoveries,
        .recovering (.waitingForTimer previous stopped submission timer)⟩)
      (hissue : turn.pool.creations.issue = some (creation, creations)) :
      Move event {} turn
        (({ turn with pool := { turn.pool with creations := creations } }).replaced position role
          recoveries previous.creation creation submission)
  /-- A submission is turned away. -/
  | refuse {turn : Turn S} {submission payload customer reason jobs}
      (hevent : event = .command (.submit submission payload customer))
      (hjobs : jobs = turn.pool.jobs ∨ ∃ job, turn.pool.jobs.issue = some (job, jobs)) :
      Move event {} turn
        ((turn.withJobs jobs).deliver customer (.rejected submission payload reason))
  /-- A submission waits. -/
  | queue {turn : Turn S} {submission job payload customer jobs}
      (hevent : event = .command (.submit submission payload customer))
      (hissue : turn.pool.jobs.issue = some (job, jobs))
      (hserve : ∃ position, turn.operating.recoverablePosition turn.pool.recovery
        = some position) (hbusy : turn.operating.availablePosition = none)
      (hroom : turn.operating.backlog.length < turn.pool.backlog) (hfresh : Fresh turn.actions) :
      Move event {} turn
        (((turn.withJobs jobs).enqueue ⟨⟨job, job, payload, customer⟩, none⟩).deliver customer
          (.accepted submission job))
  /-- A submission goes to an idle worker at once. -/
  | serve {turn : Turn S} {submission job position payload customer jobs role recoveries current
        assignment assignments} (hevent : event = .command (.submit submission payload customer))
      (hissue : turn.pool.jobs.issue = some (job, jobs))
      (hposition : turn.operating.availablePosition = some position)
      (hmember : turn.operating.members[position]?
        = some ⟨role, recoveries, .worker current .idle⟩)
      (hassign : turn.pool.assignments.issue = some (assignment, assignments))
      (hempty : turn.operating.backlog.entries = []) (hfresh : Fresh turn.actions) :
      Move event {} turn
        (((turn.withJobs jobs).assigned position role recoveries current
          ⟨job, job, payload, customer⟩ assignment assignments).deliver customer
          (.accepted submission job))

/-- **A sequence of moves inside one transition**, from a clean start. -/
inductive Chain (event : FifoEvent S) (start : Turn S) : Dirt → Turn S → Prop
  | start : Chain event start {} start
  | move {before after dirt marks} (hchain : Chain event start dirt before)
      (hmove : Move event marks before after) : Chain event start (dirt.merge marks) after
  | cleanDispatch {turn : Turn S} {dirt} (hchain : Chain event start dirt turn)
      (hclean : WorkConserving turn.operating) :
      Chain event start { dirt with dispatch := false } turn
  | cleanStartup {turn : Turn S} {dirt} (hchain : Chain event start dirt turn)
      (hclean : SlotsUsed turn.pool.startup.maximum turn.operating) :
      Chain event start { dirt with startup := false } turn
  | cleanSource {turn : Turn S} {dirt} (hchain : Chain event start dirt turn)
      (hclean : SourceServed turn.pool.recovery turn.operating) :
      Chain event start { dirt with source := false } turn
  | cleanService {turn : Turn S} {dirt} (hchain : Chain event start dirt turn)
      (hclean : Serviceable turn.pool.recovery turn.operating) :
      Chain event start { dirt with service := false } turn

/-! ### How a transition ends -/

/-- **What a transition of an operating pool can do**: moves that leave nothing
undone, moves and then a shutdown, or nothing but the diagnosed event. -/
inductive Settles (pool : FifoPool S) (operating : FifoOperating S) (event : FifoEvent S) :
    Acted S → Prop
  | operate {turn : Turn S}
      (hchain : Chain event ⟨pool, operating, FifoActions.cont⟩ {} turn) :
      Settles pool operating event turn.operate
  | leave {dirt} {turn : Turn S}
      (hchain : Chain event ⟨pool, operating, FifoActions.cont⟩ dirt turn)
      (hfresh : Fresh turn.actions) : Settles pool operating event (beginShutdown turn)
  | diagnosed (shutdowns : Sequence) :
      Settles pool operating event
        (diagnose { pool with shutdowns := shutdowns } (.operating operating) event)

end Bombay.Fifo
