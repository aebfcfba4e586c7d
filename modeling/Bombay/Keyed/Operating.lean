/-
# The operating keyed pool

`KeyedOperating` of `crates/actors/src/templates/pool/router/mod.rs` and
`RoleCell` of `role.rs`: one cell for each declared role, with its member, its
own admission queue and its capacity, beside the binding table.  Then the
searches the transitions start from, and `KeyedPool` itself.

A handler of the source takes a cell out of the roster, works on its parts and
inserts a successor.  A `Frame` is a cell without its member's state.
-/

import Bombay.Keyed.Protocol
import Bombay.Lib.OrderedMap

namespace Bombay.Keyed

section

variable (R : Router)

/-- `KeyedQueue`: waiting jobs by admission ordinal. -/
abbrev KeyedQueue := OrderedMap ℕ (CustomerJob R.workers)

/-- `RoleCell`. -/
structure RoleCell where
  member : Member R.workers
  queue : KeyedQueue R
  /-- `BacklogCapacity`. -/
  capacity : ℕ

/-- A cell that was taken apart, without the state of its member. -/
structure Frame where
  role : R.base.Role
  recoveries : RecoveryCount
  queue : KeyedQueue R
  capacity : ℕ

/-- `KeyedOperating`. -/
structure KeyedOperating where
  roles : List (RoleCell R)
  bindings : BindingTable R.Key R.base.Role

/-- `KeyedPoolState`. -/
inductive KeyedPoolState where
  | constructed (prepared : List (PreparedWorker R.workers))
  | operating (operating : KeyedOperating R)
  | retiring (workers : List (RetiringWorker R.workers)) (deadline : ShutdownDeadline)
  | stopped
  | forcedRetirement (workers : List (RetiringWorker R.workers)) (cause : ForcedRetirementCause)

/-- `KeyedPool`, with the allocator of the `Arc` tokens it issues. -/
structure KeyedPool where
  state : KeyedPoolState R
  selector : R.Key → R.base.Role
  startup : StartupLimit
  recovery : PoolRecoveryState R.base.Source
  restarts : RestartBudget
  /-- `BacklogCapacity`. -/
  backlog : ℕ
  bindingCapacity : BindingCapacity
  interruption : Interruption
  actorDrain : ActorDrainPolicy
  creations : Sequence
  jobs : Sequence
  assignments : Sequence
  shutdowns : Sequence
  nextRestartTimer : ℕ
  heap : ℕ

/-- `Config`, less the diagnostic route. -/
structure Config where
  startup : StartupLimit
  recovery : PoolRecovery R.base.Source
  backlog : ℕ
  bindings : BindingCapacity
  interruption : Interruption
  shutdown : ActorDrainPolicy

/-- What `prepare_initial_workers` makes of `OrderedRoles`, which turns duplicates
away. -/
structure PreparedRoster where
  workers : List (PreparedWorker R.workers)
  distinct : (workers.map (·.role)).Nodup

/-- What a handler of the source owns while it runs. -/
structure Turn where
  pool : KeyedPool R
  operating : KeyedOperating R
  actions : KeyedActions R

/-- What a handler of the source returns: `&mut self`, the next state and the
actions. -/
structure Acted where
  pool : KeyedPool R
  state : KeyedPoolState R
  actions : KeyedActions R

end

variable {R : Router}

/-- `router::new` once every initial worker is prepared. -/
def KeyedPool.new (config : Config R) (selector : R.Key → R.base.Role)
    (prepared : PreparedRoster R) : KeyedPool R where
  state := .constructed prepared.workers
  selector := selector
  startup := config.startup
  recovery := .ofRecovery config.recovery
  restarts := RestartBudget.empty
  backlog := config.backlog
  bindingCapacity := config.bindings
  interruption := config.interruption
  actorDrain := config.shutdown
  creations := ⟨some 1⟩
  jobs := AcceptedJobSequence.new
  assignments := AssignmentSequence.new
  shutdowns := ⟨some 0⟩
  nextRestartTimer := 1
  heap := 0

/-- The cell with this frame and this member state. -/
def Frame.cell (frame : Frame R) (state : MemberState R.workers) : RoleCell R :=
  ⟨⟨frame.role, frame.recoveries, state⟩, frame.queue, frame.capacity⟩

namespace RoleCell

/-- `RoleCell::new`. -/
def new (member : Member R.workers) (capacity : ℕ) : RoleCell R :=
  ⟨member, OrderedMap.empty, capacity⟩

/-- `RoleCell::role`. -/
def role (cell : RoleCell R) : R.base.Role := cell.member.role

/-- The cell without the state of its member. -/
def frame (cell : RoleCell R) : Frame R :=
  ⟨cell.member.role, cell.member.recoveries, cell.queue, cell.capacity⟩

end RoleCell

/-- `AdmissionTarget`. -/
inductive AdmissionTarget where
  | assign
  | queue
  | queueFull
  | unavailable
  deriving DecidableEq, Repr

/-- `ManagementTarget`. -/
inductive ManagementTarget where
  | bindable
  | unavailable
  deriving DecidableEq, Repr

namespace RoleCell

/-- `RoleCell::queue_target`. -/
def queueTarget (cell : RoleCell R) : AdmissionTarget :=
  if cell.queue.length < cell.capacity then .queue else .queueFull

/-- `RoleCell::admission_target`. -/
def admissionTarget (cell : RoleCell R) : AdmissionTarget :=
  match cell.member.state with
  | .creating _ => cell.queueTarget
  | .recovering _ => cell.queueTarget
  | .worker _ .idle => .assign
  | .worker _ (.initializing _ none) => cell.queueTarget
  | .worker _ (.waitingForStartup _ _) => cell.queueTarget
  | .worker _ (.startupRequested _ none) => cell.queueTarget
  | .worker _ (.starting _ none) => cell.queueTarget
  | .worker _ (.busy _) => cell.queueTarget
  | .worker _ (.initializing _ (some _)) => .unavailable
  | .worker _ (.startupRequested _ (some _)) => .unavailable
  | .worker _ (.starting _ (some _)) => .unavailable
  | .worker _ (.stopping _) => .unavailable
  | .retired => .unavailable

/-- `RoleCell::management_target`. -/
def managementTarget (cell : RoleCell R) : ManagementTarget :=
  match cell.member.state with
  | .creating _ => .bindable
  | .recovering _ => .bindable
  | .worker _ (.initializing _ none) => .bindable
  | .worker _ (.waitingForStartup _ _) => .bindable
  | .worker _ (.startupRequested _ none) => .bindable
  | .worker _ (.starting _ none) => .bindable
  | .worker _ .idle => .bindable
  | .worker _ (.busy _) => .bindable
  | .worker _ (.initializing _ (some _)) => .unavailable
  | .worker _ (.startupRequested _ (some _)) => .unavailable
  | .worker _ (.starting _ (some _)) => .unavailable
  | .worker _ (.stopping _) => .unavailable
  | .retired => .unavailable

end RoleCell

namespace KeyedOperating

variable (operating : KeyedOperating R)

/-- `operating.roles.remove(position)`. -/
def remove (position : ℕ) :
    Option (RoleCell R × KeyedOperating R) :=
  match operating.roles[position]? with
  | some cell => some (cell, { operating with roles := operating.roles.eraseIdx position })
  | none => none

/-- `operating.roles.insert(position, cell)`. -/
def insert (position : ℕ) (cell : RoleCell R) :
    KeyedOperating R :=
  { operating with roles := operating.roles.insertIdx position cell }

/-- `operating.roles[position] = cell`. -/
def put (position : ℕ) (cell : RoleCell R) : KeyedOperating R :=
  { operating with roles := operating.roles.set position cell }

/-- The first cell whose member satisfies `matches`. -/
def find (accepts : Member R.workers → Bool) : Option ℕ :=
  operating.roles.findIdx? fun cell => accepts cell.member

/-- `KeyedOperating::role_position`. -/
def rolePosition (role : R.base.Role) : Option ℕ :=
  operating.roles.findIdx? fun cell => cell.role = role

/-- `KeyedOperating::binding_expectation`. -/
def bindingExpectation (key : R.Key) : BindingExpectation :=
  match operating.bindings.binding key with
  | some evidence => .exact evidence.generation
  | none => .absent

/-- `KeyedOperating::creation_positions`. -/
def creationPositions (identities : List (ℕ × CreationKind)) :
    Option (List ℕ) :=
  orderedCreationPositions (operating.roles.map fun cell => cell.member.expectedCreation)
    identities

/-- `KeyedOperating::worker_position`. -/
def workerPosition (worker : WorkerAttempt) : Option ℕ :=
  operating.find fun member => member.workerAttempt == some worker

/-- `KeyedOperating::worker_id_position`. -/
def workerIdPosition (worker : ℕ) : Option ℕ :=
  operating.find fun member =>
    match member.workerAttempt with
    | some attempt => attempt.creation == worker
    | none => false

/-- `KeyedOperating::assignment_receipt_position`. -/
def assignmentReceiptPosition (receipt : AssignmentReceipt) :
    Option ℕ :=
  operating.find fun member =>
    match member.state with
    | .worker _ (.busy assignment) => assignment.compareReceipt receipt = .exact
    | _ => false

/-- `KeyedOperating::completion_position`. -/
def completionPosition (child : ℕ)
    (completion : Completion R.workers) : Option ℕ :=
  operating.find fun member =>
    match member.state with
    | .worker current (.busy assignment) =>
      current.attempt.creation == child && assignment.compareCompletion completion = .exact
    | _ => false

/-- `KeyedOperating::worker_shutdown_position`. -/
def workerShutdownPosition (request : ℕ) : Option ℕ :=
  operating.find fun member =>
    match member.state with
    | .worker _ (.stopping shutdown) => shutdown.request == request
    | _ => false

/-- `KeyedOperating::preparation_start_position`. -/
def preparationStartPosition (input : PreparationStarted R.workers) :
    Option ℕ :=
  operating.find fun member =>
    match member.state with
    | .recovering (.preparing _ _ expected) => expected.acceptsIssued input
    | _ => false

/-- `KeyedOperating::preparation_return_position`. -/
def preparationReturnPosition
    (returned : WorkerPreparation R.workers) : Option ℕ :=
  operating.find fun member =>
    match member.state with
    | .recovering (.preparing _ _ expected) => expected.acceptsReturn returned
    | _ => false

/-- `KeyedOperating::waiting_recovery_position`. -/
def waitingRecoveryPosition : Option ℕ :=
  operating.find isWaitingForSource

/-- `KeyedOperating::restart_schedule_position`. -/
def restartSchedulePosition (input : ScheduleSettled) : Option ℕ :=
  operating.find fun member =>
    match member.state with
    | .recovering worker => worker.acceptsRestartSchedule input
    | _ => false

/-- `KeyedOperating::restart_timer_position`. -/
def restartTimerPosition (elapsed : TimerElapsed) : Option ℕ :=
  operating.find fun member =>
    match member.state with
    | .recovering worker => worker.acceptsRestartTimer elapsed
    | _ => false

end KeyedOperating

namespace Turn

/-- `operating.roles.insert(position, cell)`. -/
def insert (turn : Turn R) (position : ℕ) (cell : RoleCell R) : Turn R :=
  { turn with operating := turn.operating.insert position cell }

/-- Append one diagnostic. -/
def note (turn : Turn R) (cause : KeyedDiagnosticCause R) : Turn R :=
  { turn with actions := turn.actions.diagnose cause }

/-- The pool goes on operating. -/
def operate (turn : Turn R) : Acted R := ⟨turn.pool, .operating turn.operating, turn.actions⟩

end Turn

end Bombay.Keyed
