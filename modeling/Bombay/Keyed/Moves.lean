/-
# What one transition of an operating keyed pool can do

The handlers of `router/` compose a small number of elementary moves: one member
changes its phase, one job enters or leaves a queue, one member gives its place
up and something else is seated there.  `Move` lists them, and `Chain` is a
sequence of moves inside one transition.

A move may leave work undone: an idle worker beside a waiting job, a free startup
slot beside a waiting worker, a source at home beside a waiting role, a retired
role that was not cleared.  `Marks` record which of the four may be undone, and a
chain wipes a mark only where the roster is in order again.

Every invariant of an operating pool is proved once per move; that each handler
is a chain is proved once, in `Bombay.Keyed.Handlers` and `Bombay.Keyed.Events`.
-/

import Bombay.Keyed.Transition

namespace Bombay.Keyed

variable {R : Router}

/-! ### Order in the roster -/

/-- No idle worker stands beside a job that waits for its role. -/
def Conserving (operating : KeyedOperating R) : Prop :=
  ∀ cell ∈ operating.roles, isIdle cell.member = true → cell.queue.entries = []

/-- No startup slot is free while a worker waits for one. -/
def SlotsUsed (maximum : ℕ) (operating : KeyedOperating R) : Prop :=
  0 < operating.roles.countP (fun cell => isWaiting cell.member) →
    maximum ≤ operating.roles.countP fun cell => isOccupying cell.member

/-- No role waits for a source that is here. -/
def SourceServed (recovery : PoolRecoveryState R.base.Source) (operating : KeyedOperating R) :
    Prop :=
  0 < operating.roles.countP (fun cell => isWaitingForSource cell.member) →
    recovery.sourceHere = false

/-- What a chain of moves may have left undone. -/
structure Marks where
  /-- An idle worker may stand beside a waiting job. -/
  idle : Bool := false
  /-- A startup slot may be free. -/
  slot : Bool := false
  /-- The source may be here while a role waits. -/
  source : Bool := false
  /-- A retired role may still have jobs and bindings. -/
  vacant : Bool := false

/-- Both marks. -/
def Marks.merge (a b : Marks) : Marks where
  idle := a.idle || b.idle
  slot := a.slot || b.slot
  source := a.source || b.source
  vacant := a.vacant || b.vacant

@[simp] theorem Marks.merge_clean (marks : Marks) : marks.merge {} = marks := by
  simp [Marks.merge]

@[simp] theorem Marks.clean_merge (marks : Marks) : ({} : Marks).merge marks = marks := by
  simp [Marks.merge]

/-! ### The role an event is about -/

/-- The receipt an assignment settlement is about. -/
def settledReceipt : AssignmentSettled R.workers → AssignmentReceipt
  | .attempted (.accepted receipt) => receipt
  | .attempted (.rejected item _) => item.receipt
  | .attempted (.corrupt item _) => item.receipt
  | .unattempted item => item.receipt

variable (event : KeyedEvent R)

/-- **The event is about the worker of this member**, or about a request it made. -/
def Concerns (member : Member R.workers) : Prop :=
  match event with
  | .workerCreationsSettled workers =>
    ∃ identity ∈ identities workers, member.expectedCreation = some identity
  | .workerInitialization report => member.workerAttempt = some report.worker
  | .workerStartupReported startup => member.workerAttempt = some startup.worker
  | .workerStopped stopped =>
    ∃ attempt, member.workerAttempt = some attempt ∧ attempt.creation = stopped.child
  | .workerCompleted report =>
    ∃ attempt, member.workerAttempt = some attempt ∧ attempt.creation = report.child
  | .assignmentSettled settled =>
    ∃ current assigned, member.state = .worker current (.busy assigned) ∧
      assigned.compareReceipt (settledReceipt settled) = .exact
  | .workerPreparationStarted started =>
    ∃ previous stopped preparation,
      member.state = .recovering (.preparing previous stopped preparation) ∧
        preparation.acceptsIssued started = true
  | .workerPreparationReturned returned =>
    ∃ previous stopped preparation,
      member.state = .recovering (.preparing previous stopped preparation) ∧
        preparation.acceptsReturn returned = true
  | .restartScheduleSettled settled =>
    ∃ worker, member.state = .recovering worker ∧ worker.acceptsRestartSchedule settled = true
  | .restartElapsed elapsed =>
    ∃ worker, member.state = .recovering worker ∧ worker.acceptsRestartTimer elapsed = true
  | .workerShutdownSettled settlement =>
    ∃ current join, member.state = .worker current (.stopping join) ∧
      join.request = settlement.id
  | .command _ => False
  | .shutdown => False

/-- The event is about the role at this position. -/
def Aims (operating : KeyedOperating R) (position : ℕ) : Prop :=
  ∃ cell, operating.roles[position]? = some cell ∧ Concerns event cell.member

/-- The job is with the worker at this position. -/
def Works (operating : KeyedOperating R) (position : ℕ) (customer : CustomerJob R.workers) : Prop :=
  ∃ cell, operating.roles[position]? = some cell ∧ customer ∈ customersOf cell.member

/-! ### Elementary moves -/

/-- `roles[position] = cell`. -/
def Turn.put (turn : Turn R) (position : ℕ) (cell : RoleCell R) : Turn R :=
  { turn with operating := turn.operating.put position cell }

/-- An event that may be handed back beside other effects. -/
def Repeats : Prop :=
  (∃ report, event = .workerInitialization report) ∨
    (∃ settled, event = .assignmentSettled settled) ∨ ∃ report, event = .workerCompleted report

/-- A diagnostic that says nothing about a binding, and that hands the event back only
where the source diagnoses what it also uses. -/
def Plain : KeyedDiagnosticCause R → Prop
  | .unexpected other => other = event → Repeats event
  | .bindingRemoved _ _ => False
  | _ => True

/-- A member phase that changes without any job, slot, source or place changing
hands. -/
inductive Shift (event : KeyedEvent R) : MemberState R.workers → MemberState R.workers → Prop
  | started {current attempt stopped} :
      Shift event (.worker current (.startupRequested attempt stopped))
        (.worker current (.starting attempt stopped))
  | joined {current assigned next} (hcustomer : next.customer = assigned.customer)
      (hcorrelation : next.correlation = assigned.correlation)
      (hstop : next.observedStop = assigned.observedStop) :
      Shift event (.worker current (.busy assigned)) (.worker current (.busy next))
  | exited {current assigned next stopped} (hevent : event = .workerStopped stopped)
      (hchild : stopped.child = current.attempt.creation)
      (hcustomer : next.customer = assigned.customer)
      (hcorrelation : next.correlation = assigned.correlation)
      (hnone : assigned.observedStop = none) (hstop : next.observedStop = some stopped) :
      Shift event (.worker current (.busy assigned)) (.worker current (.busy next))
  | shutdownSettled {current settlement} (hevent : event = .workerShutdownSettled settlement) :
      Shift event (.worker current (.stopping (.awaitingBoth settlement.id)))
        (.worker current (.stopping (.awaitingStop settlement)))
  | shutdownStopped {current request stopped} (hevent : event = .workerStopped stopped)
      (hchild : stopped.child = current.attempt.creation) :
      Shift event (.worker current (.stopping (.awaitingBoth request)))
        (.worker current (.stopping (.awaitingSettlement request stopped)))
  | preparationStarted {previous stopped ticket started}
      (hevent : event = .workerPreparationStarted started) :
      Shift event (.recovering (.preparing previous stopped (.issued ticket)))
        (.recovering (.preparing previous stopped (.started ticket)))
  | scheduled {previous stopped submission timer settled}
      (hevent : event = .restartScheduleSettled settled)
      (haccepts : timer.acceptsResult settled = true) :
      Shift event (.recovering (.scheduling previous stopped submission timer))
        (.recovering (.waitingForTimer previous stopped submission timer))

/-- A worker in this phase has departed with this stop: the event brings the last fact
that was missing. -/
inductive Halts (event : KeyedEvent R) (current : CurrentWorker R.workers) :
    WorkerPhase R.workers → ChildStopped R.workers → Prop
  | idle {stopped} (hevent : event = .workerStopped stopped)
      (hchild : stopped.child = current.attempt.creation) : Halts event current .idle stopped
  | retained {assigned stopped} (hstop : assigned.observedStop = some stopped) :
      Halts event current (.busy assigned) stopped
  | exits {assigned stopped} (hevent : event = .workerStopped stopped)
      (hchild : stopped.child = current.attempt.creation) (hnone : assigned.observedStop = none) :
      Halts event current (.busy assigned) stopped
  | departs {settlement stopped} (hevent : event = .workerStopped stopped)
      (hchild : stopped.child = current.attempt.creation) :
      Halts event current (.stopping (.awaitingStop settlement)) stopped
  | settles {settlement stopped} (hevent : event = .workerShutdownSettled settlement) :
      Halts event current (.stopping (.awaitingSettlement settlement.id stopped)) stopped

/-- What becomes of the job of a worker that does not go on with it. -/
inductive Disposes (frame : Frame R) (actions : KeyedActions R) (customer : CustomerJob R.workers) :
    KeyedActions R → Frame R → Prop
  | completed (result : R.base.WorkerResult) :
      Disposes frame actions customer
        (actions.deliver customer.customer.route
          (.completed customer.id customer.customer.binding result)) frame
  | returned (reason : KeyedAssignedReturnReason) :
      Disposes frame actions customer (returnAssigned customer reason actions) frame
  | requeued :
      Disposes frame actions customer actions
        { frame with queue := frame.queue.insert customer.admitted customer }

/-- The event ends a preparation: its start failed, or it came back. -/
def Returns (preparation : WorkerPreparationExpectation) : Prop :=
  (∃ started, event = .workerPreparationStarted started ∧
    preparation.acceptsIssued started = true ∧
    ∀ ticket, started ≠ .attempted (.accepted ticket)) ∨
  ∃ returned, event = .workerPreparationReturned returned ∧
    preparation.acceptsReturn returned = true

/-- **A member gives its place up.**  The flag tells whether it gave the source back. -/
inductive Vacates (event : KeyedEvent R) (pool : KeyedPool R) (actions : KeyedActions R)
    (frame : Frame R) :
    Bool → MemberState R.workers → KeyedPool R → KeyedActions R → Frame R → Prop
  | halted {current phase stopped} (hhalts : Halts event current phase stopped)
      (hjob : ∀ assigned, phase ≠ .busy assigned) :
      Vacates event pool actions frame false (.worker current phase) pool actions frame
  | interrupted {current assigned stopped actions' frame'}
      (hhalts : Halts event current (.busy assigned) stopped)
      (hdisposes : Disposes frame actions assigned.customer actions' frame') :
      Vacates event pool actions frame false (.worker current (.busy assigned)) pool actions' frame'
  | uncreated {worker workers} (hevent : event = .workerCreationsSettled workers)
      (hidentity : (worker.attempt.creation, worker.kind) ∈ identities workers) :
      Vacates event pool actions frame false (.creating worker) pool actions frame
  | returned {previous stopped preparation recovery} (recoveries : RecoveryCount)
      (hevent : Returns event preparation) (haway : pool.recovery.sourceAway = true)
      (hhere : recovery.sourceHere = true) (hpolicy : recovery.policy = pool.recovery.policy) :
      Vacates event pool actions frame true
        (.recovering (.preparing previous stopped preparation))
        { pool with recovery := recovery } actions { frame with recoveries := recoveries }
  | unscheduled {previous stopped submission timer settled}
      (hevent : event = .restartScheduleSettled settled)
      (haccepts : timer.acceptsResult settled = true) :
      Vacates event pool actions frame false
        (.recovering (.scheduling previous stopped submission timer)) pool actions frame
  | elapsed {previous stopped submission timer elapsed} (hevent : event = .restartElapsed elapsed) :
      Vacates event pool actions frame false
        (.recovering (.waitingForTimer previous stopped submission timer)) pool actions frame

/-- **What is seated in a place that was given up.**  The flag tells whether the role is
retired without being cleared. -/
inductive Seats (turn : Turn R) (position : ℕ) (frame : Frame R) : Bool → Turn R → Prop
  | lend {recovery} (previous : WorkerAttempt) (stopped : ChildStopped R.workers)
      (source : R.base.Source) (hhere : turn.pool.recovery.sourceHere = true)
      (haway : recovery.sourceAway = true) (hpolicy : recovery.policy = turn.pool.recovery.policy) :
      Seats turn position frame false
        { pool := { turn.pool with recovery := recovery, heap := turn.pool.heap + 1 }
          operating := turn.operating.put position (frame.cell
            (.recovering (.preparing previous stopped (.issued turn.pool.heap))))
          actions := turn.actions.prepare ⟨turn.pool.heap, source, frame.role, []⟩ }
  | wait (previous : WorkerAttempt) (stopped : ChildStopped R.workers)
      (haway : turn.pool.recovery.sourceAway = true) :
      Seats turn position frame false
        (turn.put position (frame.cell (.recovering (.waitingForSource previous stopped))))
  | birth {creation creations} (previous : ℕ) (submission : WorkerSubmission R.workers)
      (hissue : turn.pool.creations.issue = some (creation, creations)) :
      Seats turn position frame false
        { pool := { turn.pool with creations := creations, heap := turn.pool.heap + 2 }
          operating := turn.operating.put position (frame.cell (.creating
            ⟨⟨creation, turn.pool.heap⟩, ⟨⟨creation, turn.pool.heap⟩, turn.pool.heap + 1⟩,
              submission.startup, .replacement previous, none⟩))
          actions := turn.actions.create ⟨creation, submission.worker, .replacement previous⟩
            creation }
  | schedule (previous : WorkerAttempt) (stopped : ChildStopped R.workers)
      (submission : WorkerSubmission R.workers) (timer : ScheduleKey) (delay : ℕ) :
      Seats turn position frame false
        { turn with
          operating := turn.operating.put position
            (frame.cell (.recovering (.scheduling previous stopped submission timer)))
          actions := turn.actions.schedule (timer.after delay) }
  | clear :
      Seats turn position frame false
        { turn with
          operating := KeyedOperating.put
            { turn.operating with
              bindings := (turn.operating.bindings.retireRole frame.role).2 } position
            (Frame.cell { frame with queue := OrderedMap.empty } .retired)
          actions := removeBindings (turn.operating.bindings.retireRole frame.role).1
            (returnQueue frame.queue .rolePermanentlyUnavailable turn.actions) }
  | doom :
      Seats turn position frame true (turn.put position (frame.cell .retired))

/-- A job is sent to the idle worker of a cell. -/
def Turn.assigned (turn : Turn R) (position : ℕ) (frame : Frame R)
    (current : CurrentWorker R.workers) (customer : CustomerJob R.workers) (assignment : ℕ)
    (assignments : Sequence) : Turn R :=
  { pool := { turn.pool with assignments := assignments, heap := turn.pool.heap + 1 }
    operating := turn.operating.put position (frame.cell (.worker current
      (.busy ⟨customer, ⟨assignment, current.attempt, turn.pool.heap⟩, .awaitingReceipt⟩)))
    actions := turn.actions.assign ⟨current.recipient,
      ⟨customer.payload, ⟨assignment, current.attempt, turn.pool.heap⟩⟩,
      ⟨assignment, current.attempt⟩⟩ }

/-- The turn with another binding table. -/
def Turn.withBindings (turn : Turn R) (bindings : BindingTable R.Key R.base.Role) : Turn R :=
  { turn with operating := { turn.operating with bindings := bindings } }

/-- The turn with another job sequence. -/
def Turn.withJobs (turn : Turn R) (jobs : Sequence) : Turn R :=
  { turn with pool := { turn.pool with jobs := jobs } }

/-- The same table, with a generation issued or none. -/
inductive Spends (table : BindingTable R.Key R.base.Role) :
    BindingTable R.Key R.base.Role → Prop
  | nothing : Spends table table
  | generation {generation generations}
      (hissue : table.generations.issue = some (generation, generations)) :
      Spends table { table with generations := generations }

/-- **The binding a job is admitted under**: the one its key has, or a fresh one for the
selected role. -/
inductive Binds (table : BindingTable R.Key R.base.Role) (key : R.Key) (role : R.base.Role) :
    BindingEvidence R.base.Role → BindingTable R.Key R.base.Role → Prop
  | retained {evidence} (hbound : table.binding key = some evidence) (hrole : evidence.role = role) :
      Binds table key role evidence table
  | fresh {reserved : ReservedBinding R.Key R.base.Role} {generations}
      (hfree : table.binding key = none)
      (hissue : table.generations.issue = some (reserved.generation, generations))
      (hkey : reserved.key = key) (hrole : reserved.role = role)
      (htable : reserved.table = { table with generations := generations }) :
      Binds table key role reserved.commit.1 reserved.commit.2

/-- The command is current and asks for a role that is declared. -/
structure Targets (operating : KeyedOperating R) (command : BindingCommand R)
    (target : R.base.Role) (position : ℕ) (cell : RoleCell R) (status : ManagementTarget) :
    Prop where
  change : command.change = .rebalance target
  expected : command.expected = operating.bindingExpectation command.key
  found : operating.rolePosition target = some position
  declared : operating.roles[position]? = some cell
  status : cell.managementTarget = status

/-- **What a binding command does** to the table, and the reply it gets. -/
inductive Manages (operating : KeyedOperating R) (command : BindingCommand R) :
    BindingTable R.Key R.base.Role → BindingReply R → Prop
  | stale {reason} (hreason : reason = .staleExpectation (operating.bindingExpectation command.key))
      (hstale : command.expected ≠ operating.bindingExpectation command.key) :
      Manages operating command operating.bindings (.rejected command reason)
  | unknown {target} (hchange : command.change = .rebalance target)
      (hexpected : command.expected = operating.bindingExpectation command.key)
      (htarget : operating.rolePosition target = none) :
      Manages operating command operating.bindings (.rejected command .unknownTarget)
  | unavailable {target position cell}
      (htargets : Targets operating command target position cell .unavailable) :
      Manages operating command operating.bindings (.rejected command .targetUnavailable)
  | full {target position cell}
      (htargets : Targets operating command target position cell .bindable)
      (hfree : operating.bindings.binding command.key = none)
      (hfull : operating.bindings.capacity.maximum ≤ operating.bindings.bindings.length) :
      Manages operating command operating.bindings (.rejected command .bindingCapacityExhausted)
  | exhausted {target position cell}
      (htargets : Targets operating command target position cell .bindable)
      (hneeded : ∀ current, operating.bindings.binding command.key = some current →
        current.role ≠ cell.role)
      (hroom : operating.bindings.binding command.key = none →
        operating.bindings.bindings.length < operating.bindings.capacity.maximum)
      (hissue : operating.bindings.generations.issue = none) :
      Manages operating command operating.bindings (.rejected command .generationExhausted)
  | bound {target position cell} {reserved : ReservedBinding R.Key R.base.Role} {generations}
      (htargets : Targets operating command target position cell .bindable)
      (hfree : operating.bindings.binding command.key = none)
      (hroom : operating.bindings.bindings.length < operating.bindings.capacity.maximum)
      (hissue : operating.bindings.generations.issue = some (reserved.generation, generations))
      (hkey : reserved.key = command.key) (hrole : reserved.role = cell.role)
      (htable : reserved.table = { operating.bindings with generations := generations }) :
      Manages operating command reserved.commit.2 (.bound command.request reserved.commit.1)
  | unchanged {target position cell current}
      (htargets : Targets operating command target position cell .bindable)
      (hbound : operating.bindings.binding command.key = some current)
      (hrole : current.role = cell.role) :
      Manages operating command operating.bindings (.unchanged command.request current)
  | rebalanced {target position cell prior generation generations table}
      (htargets : Targets operating command target position cell .bindable)
      (hbound : operating.bindings.binding command.key = some prior)
      (hrole : prior.role ≠ cell.role)
      (hissue : operating.bindings.generations.issue = some (generation, generations))
      (hgenerations : table.generations = generations)
      (hcapacity : table.capacity = operating.bindings.capacity)
      (hbinding : table.binding = Function.update operating.bindings.binding command.key
        (some ⟨generation, cell.role⟩)) :
      Manages operating command table
        (.rebalanced command.request prior ⟨generation, cell.role⟩)
  | alreadyUnbound (hchange : command.change = .unbind)
      (hexpected : command.expected = operating.bindingExpectation command.key)
      (hfree : operating.bindings.binding command.key = none) :
      Manages operating command operating.bindings (.alreadyUnbound command)
  | unbound {removed table} (hchange : command.change = .unbind)
      (hexpected : command.expected = operating.bindingExpectation command.key)
      (hbound : operating.bindings.binding command.key = some removed)
      (hgenerations : table.generations = operating.bindings.generations)
      (hcapacity : table.capacity = operating.bindings.capacity)
      (hbinding : table.binding = Function.update operating.bindings.binding command.key none) :
      Manages operating command table (.unbound command.request command.key removed)

/-- **The elementary moves of an operating keyed pool**, each with the marks it leaves.
`start` is the roster the transition began with. -/
inductive Move (event : KeyedEvent R) (start : KeyedOperating R) : Marks → Turn R → Turn R → Prop
  /-- A diagnostic. -/
  | note {turn cause} (hplain : Plain event cause) :
      Move event start {} turn (turn.note cause)
  /-- Counters that no member shows change. -/
  | spend {turn} (restarts : RestartBudget) (shutdowns : Sequence) (timer : ℕ) :
      Move event start {} turn
        { turn with pool := { turn.pool with
          restarts := restarts, shutdowns := shutdowns, nextRestartTimer := timer } }
  /-- A member waits for its next fact. -/
  | shift {turn position} {frame : Frame R} {before after}
      (hcell : turn.operating.roles[position]? = some (frame.cell before))
      (haims : Aims event start position) (hshift : Shift event before after) :
      Move event start {} turn (turn.put position (frame.cell after))
  /-- A created worker is established and initializes. -/
  | establish {turn position} {frame : Frame R} {worker : CreatingWorker R.workers} {settlement
        actor settlements}
      (hcell : turn.operating.roles[position]? = some (frame.cell (.creating worker)))
      (hevent : event = .workerCreationsSettled (.settled settlements))
      (hmem : settlement ∈ settlements)
      (hidentity : creationIdentity settlement = (worker.attempt.creation, worker.kind))
      (hactor : settleWorkerCreation settlement = .established actor) :
      Move event start {} turn
        { turn with
          operating := turn.operating.put position (frame.cell
            (.worker ⟨worker.attempt, actor⟩ (.initializing worker.initialization worker.stopped)))
          actions := turn.actions.requestInitialization
            ⟨worker.attempt, worker.initialization, R.base.recipient actor, worker.startup⟩ }
  /-- An initialized worker waits for a startup slot. -/
  | permit {turn position} {frame : Frame R} {current initialization}
      (authority : StartupPermit R.workers) (startup : R.base.Plan)
      (hcell : turn.operating.roles[position]?
        = some (frame.cell (.worker current (.initializing initialization none)))) :
      Move event start { slot := true } turn
        (turn.put position (frame.cell (.worker current (.waitingForStartup authority startup))))
  /-- The first waiting worker takes a free startup slot. -/
  | authorize {turn position} {frame : Frame R} {current authority startup}
      (hcell : turn.operating.roles[position]?
        = some (frame.cell (.worker current (.waitingForStartup authority startup))))
      (hfree : turn.operating.roles.countP (fun cell => isOccupying cell.member)
        < turn.pool.startup.maximum) :
      Move event start {} turn
        { pool := { turn.pool with heap := turn.pool.heap + 1 }
          operating := turn.operating.put position (frame.cell
            (.worker current (.startupRequested ⟨authority.worker, turn.pool.heap⟩ none)))
          actions := turn.actions.startup
            ⟨⟨authority.worker, turn.pool.heap⟩, authority, startup⟩ }
  /-- A started worker is ready for work. -/
  | ready {turn position} {frame : Frame R} {current attempt}
      (hcell : turn.operating.roles[position]?
        = some (frame.cell (.worker current (.starting attempt none)))) :
      Move event start { idle := true, slot := true } turn
        (turn.put position (frame.cell (.worker current .idle)))
  /-- The first waiting job of a role goes to its idle worker. -/
  | fill {turn position admitted} {frame : Frame R} {cell current customer queue assignment
        assignments}
      (hcell : turn.operating.roles[position]? = some (frame.cell (.worker current .idle)))
      (haims : Aims event start position) (hstart : start.roles[position]? = some cell)
      (hqueue : cell.queue = frame.queue)
      (hfirst : frame.queue.popFirst = some ((admitted, customer), queue))
      (hissue : turn.pool.assignments.issue = some (assignment, assignments)) :
      Move event start {} turn
        (turn.assigned position { frame with queue := queue } current customer assignment
          assignments)
  /-- The first waiting job of a role comes back: no correlation is left for it. -/
  | refuse {turn position admitted} {frame : Frame R} {current customer queue}
      (hcell : turn.operating.roles[position]? = some (frame.cell (.worker current .idle)))
      (haims : Aims event start position)
      (hfirst : frame.queue.popFirst = some ((admitted, customer), queue))
      (hissue : turn.pool.assignments.issue = none) :
      Move event start { idle := true } turn
        { turn with
          operating := turn.operating.put position
            (Frame.cell { frame with queue := queue } (.worker current .idle))
          actions := returnWaiting customer .assignmentCorrelationExhausted turn.actions }
  /-- A job completes and its worker is idle again. -/
  | complete {turn position} {frame : Frame R} {current} {assigned : AssignedJob R.workers}
      (result : R.base.WorkerResult)
      (hcell : turn.operating.roles[position]?
        = some (frame.cell (.worker current (.busy assigned)))) (haims : Aims event start position)
      (hworks : Works start position assigned.customer) (hstop : assigned.observedStop = none) :
      Move event start { idle := true } turn
        { turn with
          operating := turn.operating.put position (frame.cell (.worker current .idle))
          actions := turn.actions.deliver assigned.customer.customer.route
            (.completed assigned.customer.id assigned.customer.customer.binding result) }
  /-- A worker that did not take its assignment is asked to shut down. -/
  | quarantine {turn position frame frame' current assigned actions'} (shutdown : ℕ)
      (hcell : turn.operating.roles[position]?
        = some (frame.cell (.worker current (.busy assigned)))) (haims : Aims event start position)
      (hworks : Works start position assigned.customer) (hstop : assigned.observedStop = none)
      (hdisposes : Disposes frame turn.actions assigned.customer actions' frame') :
      Move event start {} turn
        { turn with
          operating := turn.operating.put position
            (frame'.cell (.worker current (.stopping (.awaitingBoth shutdown))))
          actions := actions'.shutdown ⟨shutdown, current.actor⟩ }
  /-- A member gives its place up, and something is seated there. -/
  | turnover {turn turn' position frame frame' before pool' actions' restored doomed}
      (hcell : turn.operating.roles[position]? = some (frame.cell before))
      (haims : Aims event start position)
      (hworks : ∀ customer ∈ customersOf (frame.cell before).member, Works start position customer)
      (hvacates : Vacates event turn.pool turn.actions frame restored before pool' actions' frame')
      (hseats : Seats ⟨pool', turn.operating, actions'⟩ position frame' doomed turn') :
      Move event start { source := restored, vacant := doomed } turn turn'
  /-- A waiting role is lent the source. -/
  | serve {turn position} {frame : Frame R} {previous stopped recovery} (source : R.base.Source)
      (hcell : turn.operating.roles[position]?
        = some (frame.cell (.recovering (.waitingForSource previous stopped))))
      (hhere : turn.pool.recovery.sourceHere = true) (haway : recovery.sourceAway = true)
      (hpolicy : recovery.policy = turn.pool.recovery.policy) :
      Move event start {} turn
        { pool := { turn.pool with recovery := recovery, heap := turn.pool.heap + 1 }
          operating := turn.operating.put position (frame.cell
            (.recovering (.preparing previous stopped (.issued turn.pool.heap))))
          actions := turn.actions.prepare ⟨turn.pool.heap, source, frame.role, []⟩ }
  /-- A submission is turned away; a job or a generation may be spent on it. -/
  | reject {turn submission key payload customer bindings jobs} (reason : KeyedAdmissionRejection)
      (hevent : event = .command (.submit submission key payload customer))
      (hjobs : jobs = turn.pool.jobs ∨ ∃ job, turn.pool.jobs.issue = some (job, jobs))
      (hspends : Spends turn.operating.bindings bindings) (hreason : reason ≠ .shuttingDown) :
      Move event start {} turn
        { ((turn.withJobs jobs).withBindings bindings) with
          actions := turn.actions.deliver customer (.rejected submission key payload reason) }
  /-- A submission waits in the queue of its role. -/
  | enqueue {turn position submission job key payload customer cell evidence bindings jobs}
      (hevent : event = .command (.submit submission key payload customer))
      (hcell : turn.operating.roles[position]? = some cell)
      (htarget : cell.admissionTarget = .queue) (hjobs : turn.pool.jobs.issue = some (job, jobs))
      (hbinds : Binds turn.operating.bindings key cell.role evidence bindings) :
      Move event start {} turn
        { (((turn.withJobs jobs).withBindings bindings).put position
            { cell with queue := cell.queue.insert job ⟨job, job, payload, ⟨evidence, customer⟩⟩ })
          with actions := turn.actions.deliver customer (.accepted submission job evidence) }
  /-- A submission goes to the idle worker of its role at once. -/
  | dispatch {turn position submission job assignment key payload customer frame current evidence
        bindings jobs assignments}
      (hevent : event = .command (.submit submission key payload customer))
      (hcell : turn.operating.roles[position]? = some (frame.cell (.worker current .idle)))
      (hjobs : turn.pool.jobs.issue = some (job, jobs))
      (hissue : turn.pool.assignments.issue = some (assignment, assignments))
      (hbinds : Binds turn.operating.bindings key frame.role evidence bindings) :
      Move event start {} turn
        (Turn.assigned
          { ((turn.withJobs jobs).withBindings bindings) with
            actions := turn.actions.deliver customer (.accepted submission job evidence) }
          position frame current ⟨job, job, payload, ⟨evidence, customer⟩⟩ assignment assignments)
  /-- A binding command is answered. -/
  | manage {turn command bindings reply} (hevent : event = .command (.binding command))
      (hmanages : Manages turn.operating command bindings reply) :
      Move event start {} turn
        { (turn.withBindings bindings) with actions := turn.actions.reply command.reply reply }

/-- **A sequence of moves inside one transition.**  A mark is wiped where what it stands
for is in order again. -/
inductive Chain (event : KeyedEvent R) (start : Turn R) : Marks → Turn R → Prop
  | start : Chain event start {} start
  | move {marks more before after} (hchain : Chain event start marks before)
      (hmove : Move event start.operating more before after) :
      Chain event start (marks.merge more) after
  | settleIdle {marks turn} (hchain : Chain event start marks turn)
      (hconserving : Conserving start.operating → Conserving turn.operating) :
      Chain event start { marks with idle := false } turn
  | settleSlot {marks turn} (hchain : Chain event start marks turn)
      (hused : SlotsUsed turn.pool.startup.maximum turn.operating) :
      Chain event start { marks with slot := false } turn
  | settleSource {marks turn} (hchain : Chain event start marks turn)
      (hserved : SourceServed turn.pool.recovery turn.operating) :
      Chain event start { marks with source := false } turn

/-- The turn a transition of an operating pool begins with. -/
def Turn.begin (pool : KeyedPool R) (operating : KeyedOperating R) : Turn R :=
  ⟨pool, operating, KeyedActions.cont⟩

theorem Chain.single {event : KeyedEvent R} {start turn : Turn R} {marks : Marks}
    (h : Move event start.operating marks start turn) : Chain event start marks turn := by
  have hchain := Chain.start.move h
  rwa [Marks.clean_merge] at hchain

/-- A move that leaves nothing undone. -/
theorem Chain.clean {event : KeyedEvent R} {start before after : Turn R} {marks : Marks}
    (h : Chain event start marks before) (hmove : Move event start.operating {} before after) :
    Chain event start marks after := by
  have hchain := h.move hmove
  rwa [Marks.merge_clean] at hchain

/-! ### How a transition ends -/

/-- **The event makes the worker of this member idle**: it is ready, or its job is done. -/
def Readies (member : Member R.workers) : Prop :=
  match event with
  | .workerStartupReported input =>
    ∃ next, member.admitStartup input = .ok next ∧ isIdle next = true
  | .assignmentSettled (.attempted (.accepted receipt)) =>
    ∃ current assigned customer result, member.state = .worker current (.busy assigned) ∧
      assigned.acceptReceipt receipt = .ok (.jobCompleted customer result none)
  | .workerCompleted report =>
    ∃ current assigned customer result, member.state = .worker current (.busy assigned) ∧
      current.attempt.creation = report.child ∧
      assigned.acceptCompletion report.report = .ok (.jobCompleted customer result none)
  | _ => False

/-- **The event strands a job**: it makes a worker idle whose role has two jobs waiting,
and no assignment correlation is left. -/
def Strands (pool : KeyedPool R) (operating : KeyedOperating R) (event : KeyedEvent R) : Prop :=
  pool.assignments.issue = none ∧
    ∃ cell ∈ operating.roles, Readies event cell.member ∧ 2 ≤ cell.queue.length

/-- The moves of a handler end here, or in a retirement of the whole pool. -/
inductive Ends (event : KeyedEvent R) (start : Turn R) (marks : Marks) : Acted R → Prop
  | operate {turn : Turn R} (hchain : Chain event start marks turn) :
      Ends event start marks turn.operate
  | leave {more turn} (hchain : Chain event start more turn) :
      Ends event start marks (beginRetirement turn)

/-- The settlement names no more than the end of a batch. -/
inductive Remains : CreationsSettled R.workers → CreationsSettled R.workers → Prop
  | settled (passed rest : List (WorkerCreationSettlement R.workers)) :
      Remains (.settled (passed ++ rest)) (.settled rest)
  | returned (rejection : CreationBatchRejection) (passed rest : List (CreateChild R.workers)) :
      Remains (rejection.settlement (passed ++ rest)) (rejection.settlement rest)

/-- The roster still expects these creations, in its own order. -/
def Awaits (operating : KeyedOperating R) (awaited : List (ℕ × CreationKind)) : Prop :=
  awaited ≠ [] ∧ ∃ positions : List ℕ, positions.Pairwise (· < ·) ∧
    List.Forall₂ (fun position identity => ∃ cell, operating.roles[position]? = some cell ∧
      cell.member.expectedCreation = some identity) positions awaited

/-- **What a transition of an operating pool can do**: moves that leave nothing undone
but a job the event strands, moves and then a retirement, a retirement in the middle of
a batch, or nothing but the diagnosed event. -/
inductive Settles (pool : KeyedPool R) (operating : KeyedOperating R) (event : KeyedEvent R) :
    Acted R → Prop
  | operate {idle} {turn : Turn R}
      (hchain : Chain event (Turn.begin pool operating) { idle := idle } turn)
      (hidle : idle = true → Strands pool operating event) :
      Settles pool operating event turn.operate
  | leave {marks turn} (hchain : Chain event (Turn.begin pool operating) marks turn) :
      Settles pool operating event (beginRetirement turn)
  | batch {marks turn workers remaining}
      (hchain : Chain event (Turn.begin pool operating) marks turn)
      (hevent : event = .workerCreationsSettled workers) (hremains : Remains workers remaining)
      (hawaits : Awaits turn.operating (identities remaining)) :
      Settles pool operating event (retireBatch (beginRetirement turn) remaining)
  | diagnosed (shutdowns : Sequence) :
      Settles pool operating event
        (diagnose { pool with shutdowns := shutdowns } (.operating operating) event)

theorem Ends.settles {pool : KeyedPool R} {operating : KeyedOperating R} {event : KeyedEvent R}
    {acted : Acted R} (h : Ends event (Turn.begin pool operating) {} acted) :
    Settles pool operating event acted := by
  cases h with
  | operate hchain => exact .operate hchain fun hidle => absurd hidle Bool.false_ne_true
  | leave hchain => exact .leave hchain

end Bombay.Keyed
