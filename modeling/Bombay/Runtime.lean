/-
# What a pool and its runtime exchange

The values of the `behavior` and `actors` crates that cross the boundary between
an atomic owner and the interpreter that runs it: creation requests and their
settlements (`behavior/src/actor/creation.rs`,
`behavior/src/effects/actions.rs`), stops (`actors/src/termination.rs`,
`actors/src/protocol/mod.rs`), timers (`actors/src/protocol/timer.rs`), worker
shutdown (`actors/src/protocol/established.rs`), and the drain deadline of
`actors/src/templates/drain.rs`.

A `Signature` gathers the type parameters of the source.  An affine value is an
ordinary value here, and events may carry any value at all, so what is proved
holds for stale, duplicate and forged inputs too.  An `Arc<()>` compared with
`Arc::ptr_eq` is a number drawn from an allocator that never reuses one.

`Prerequisite = Never` leaves no inhabitant of `ItemSettlement::Blocked`, so the
alternative is absent.
-/

import Bombay.Restart
import Bombay.Lib.Sequence

namespace Bombay

/-- The type parameters of a direct-worker pool. -/
structure Signature where
  /-- `Role`; a `RoleName` shares one immutable role. -/
  Role : Type
  /-- `W`, the worker behaviour. -/
  Worker : Type
  /-- `P`, the startup plan, with its `Ready` and `Rejection`. -/
  Plan : Type
  Ready : Type
  Rejection : Type
  /-- `Source`, with its `WorkerRejection` and `SourceRejection`. -/
  Source : Type
  WorkerRejection : Type
  SourceRejection : Type
  Job : Type
  WorkerResult : Type
  /-- The customer's reply route. -/
  Customer : Type
  /-- `EstablishedActor<StopOnShutdown<W>>` and `EstablishedRecipient<W::Protocol>`. -/
  Actor : Type
  Recipient : Type
  recipient : Actor → Recipient
  /-- `BehaviorAddr<W>`. -/
  Address : Type
  /-- `W::Error`. -/
  WorkerError : Type
  /-- `HostedInitialization<W>`. -/
  Initialization : Type

/-- Roles, jobs, customers and actors are numbers; nothing else carries a value.  Concrete
runs of either pool are made of these. -/
abbrev numbers : Signature where
  Role := ℕ
  Worker := Unit
  Plan := Unit
  Ready := Unit
  Rejection := Unit
  Source := Unit
  WorkerRejection := Unit
  SourceRejection := Unit
  Job := ℕ
  WorkerResult := ℕ
  Customer := ℕ
  Actor := ℕ
  Recipient := ℕ
  recipient := id
  Address := Unit
  WorkerError := Unit
  Initialization := Unit

/-! ### Creation -/

/-- `CreationKind`. -/
inductive CreationKind where
  | birth
  | replacement (previous : ℕ)
  deriving DecidableEq, Repr

/-- `InterpreterFault`. -/
inductive InterpreterFault where
  | missingCapability
  | corruptTraversal
  deriving DecidableEq, Repr

/-- `AllocationRejection` and the other alternatives of `CreationRejection`. -/
inductive CreationRejection where
  | correlationAlreadyRecorded
  | allocation
  | initializationFailed
  | environmentFailed
  deriving DecidableEq, Repr

/-- `ItemSettlement` with an uninhabited prerequisite. -/
inductive ItemSettlement (Item Accepted Reason : Type) where
  | accepted (receipt : Accepted)
  | rejected (item : Item) (reason : Reason)
  | corrupt (item : Item) (fault : InterpreterFault)
  deriving DecidableEq

/-- `SettledItem`. -/
inductive SettledItem (Item Settlement : Type) where
  | attempted (settlement : Settlement)
  | unattempted (item : Item)
  deriving DecidableEq

/-- `ActionItemResult`. -/
abbrev ActionItemResult (Item Accepted Reason : Type) :=
  SettledItem Item (ItemSettlement Item Accepted Reason)

section Creation

variable (S : Signature)

/-- `CreateChild<A, StopOnShutdown<W>>`, also once routed (`RoutedCreation`). -/
structure CreateChild where
  id : ℕ
  worker : S.Worker
  kind : CreationKind

/-- `ChildCreationOutcome<StopOnShutdown<W>, ChildHead>`. -/
inductive ChildCreationOutcome where
  | established (id : ℕ) (kind : CreationKind) (actor : S.Actor)
  | unavailable (id : ℕ) (kind : CreationKind)
  | initializationRejected (creation : CreateChild S) (error : S.WorkerError)
  | initializationPanicked (creation : CreateChild S)
  | hostRejected (creation : CreateChild S) (initialization : S.Initialization)
      (reason : CreationRejection)

/-- `WorkerCreationSettlement<W>`. -/
abbrev WorkerCreationSettlement :=
  ActionItemResult (CreateChild S) (ChildCreationOutcome S) CreationRejection

/-- `CreationsSettled`: one settlement per request, or the whole batch back. -/
inductive CreationsSettled where
  | settled (settlements : List (WorkerCreationSettlement S))
  | rejected (creations : List (CreateChild S))
  | corrupt (creations : List (CreateChild S)) (fault : InterpreterFault)

/-- `WorkerCreationRejection<W>`. -/
inductive WorkerCreationRejection where
  | unavailable (id : ℕ) (kind : CreationKind)
  | namespaceExhausted (worker : S.Worker)
  | workerRejected (worker : S.Worker) (error : S.WorkerError)
  | workerPanicked (worker : S.Worker)
  | hostRejected (worker : S.Worker) (initialization : S.Initialization)
      (reason : CreationRejection)
  | creationRejected (worker : S.Worker) (reason : CreationRejection)
  | interpreterCorrupt (worker : S.Worker) (fault : InterpreterFault)
  | interpretationSkipped (worker : S.Worker)

/-- `WorkerCreationOutcome<W>`. -/
inductive WorkerCreationOutcome where
  | established (actor : S.Actor)
  | rejected (rejection : WorkerCreationRejection S)

variable {S}

/-- `creation_identity`. -/
def creationIdentity : WorkerCreationSettlement S → ℕ × CreationKind
  | .attempted (.accepted (.established id kind _)) => (id, kind)
  | .attempted (.accepted (.unavailable id kind)) => (id, kind)
  | .attempted (.accepted (.initializationRejected creation _)) => (creation.id, creation.kind)
  | .attempted (.accepted (.initializationPanicked creation)) => (creation.id, creation.kind)
  | .attempted (.accepted (.hostRejected creation _ _)) => (creation.id, creation.kind)
  | .attempted (.rejected item _) => (item.id, item.kind)
  | .attempted (.corrupt item _) => (item.id, item.kind)
  | .unattempted item => (item.id, item.kind)

/-- `settle_worker_creation`. -/
def settleWorkerCreation : WorkerCreationSettlement S → WorkerCreationOutcome S
  | .attempted (.accepted (.unavailable id kind)) => .rejected (.unavailable id kind)
  | .attempted (.accepted (.established _ _ actor)) => .established actor
  | .attempted (.accepted (.initializationRejected creation error)) =>
    .rejected (.workerRejected creation.worker error)
  | .attempted (.accepted (.initializationPanicked creation)) =>
    .rejected (.workerPanicked creation.worker)
  | .attempted (.accepted (.hostRejected creation initialization reason)) =>
    .rejected (.hostRejected creation.worker initialization reason)
  | .attempted (.rejected item reason) => .rejected (.creationRejected item.worker reason)
  | .attempted (.corrupt item fault) => .rejected (.interpreterCorrupt item.worker fault)
  | .unattempted item => .rejected (.interpretationSkipped item.worker)

/-- The identities a batch settles. -/
def identities : CreationsSettled S → List (ℕ × CreationKind)
  | .settled settlements => settlements.map creationIdentity
  | .rejected creations => creations.map fun creation => (creation.id, creation.kind)
  | .corrupt creations _ => creations.map fun creation => (creation.id, creation.kind)

/-- `CreationBatchRejection`. -/
inductive CreationBatchRejection where
  | namespaceExhausted
  | interpreterCorrupt (fault : InterpreterFault)
  deriving DecidableEq, Repr

/-- `CreationBatchRejection::worker`. -/
def CreationBatchRejection.worker (rejection : CreationBatchRejection) (worker : S.Worker) :
    WorkerCreationRejection S :=
  match rejection with
  | .namespaceExhausted => .namespaceExhausted worker
  | .interpreterCorrupt fault => .interpreterCorrupt worker fault

/-- `CreationBatchRejection::settlement`. -/
def CreationBatchRejection.settlement (rejection : CreationBatchRejection)
    (creations : List (CreateChild S)) : CreationsSettled S :=
  match rejection with
  | .namespaceExhausted => .rejected creations
  | .interpreterCorrupt fault => .corrupt creations fault

end Creation

/-! ### Stops -/

/-- `Crash`. -/
inductive Crash where
  | failed
  | environmentFailed
  | capabilityFailed
  | panicked
  | cancelled
  deriving DecidableEq, Repr

/-- `Exit<A>`; the reason of a failed supervision is not read by a pool. -/
inductive Exit (S : Signature) where
  | normal
  | collected
  | linkDied (peer : S.Address)
  | supervisionFailed

/-- `ChildStopped<A>`. -/
structure ChildStopped (S : Signature) where
  child : ℕ
  outcome : Except Crash (Exit S)
  at' : ℕ

/-- `StopKind`. -/
inductive StopKind where
  | normal
  | abnormal
  deriving DecidableEq, Repr

/-- `stop_kind`. -/
def stopKind {S : Signature} : Except Crash (Exit S) → StopKind
  | .ok .normal => .normal
  | .ok .collected => .normal
  | .ok (.linkDied _) => .abnormal
  | .ok .supervisionFailed => .abnormal
  | .error _ => .abnormal

/-! ### Timers -/

/-- `TimerElapsed`, also `TimerScheduled`, which carries the same key. -/
structure TimerElapsed where
  id : ℕ
  generation : ℕ
  deriving DecidableEq, Repr

/-- `ScheduleAfter`. -/
structure ScheduleAfter where
  id : ℕ
  generation : ℕ
  after : ℕ
  deriving DecidableEq, Repr

/-- `ScheduleAfterRejection`. -/
inductive ScheduleAfterRejection where
  | deadlineOverflow
  | queueGenerationExhausted
  | queueSequenceExhausted
  deriving DecidableEq, Repr

/-- `ActionItemResult<ScheduleAfter>`. -/
abbrev ScheduleSettled := ActionItemResult ScheduleAfter TimerElapsed ScheduleAfterRejection

/-- `ScheduleKey`. -/
structure ScheduleKey where
  id : ℕ
  generation : ℕ
  deriving DecidableEq, Repr

namespace ScheduleKey

/-- `ScheduleKey::after`. -/
def after (key : ScheduleKey) (delay : ℕ) : ScheduleAfter := ⟨key.id, key.generation, delay⟩

/-- `ScheduleKey::issue`: the last `u64` is never issued. -/
def issue (next : ℕ) : Option (ScheduleKey × ℕ) :=
  if next + 1 < 2 ^ 64 then some (⟨next, 0⟩, next + 1) else none

/-- `ScheduleKey::accepts_result`. -/
def acceptsResult (key : ScheduleKey) : ScheduleSettled → Bool
  | .attempted (.accepted scheduled) =>
    key.id == scheduled.id && key.generation == scheduled.generation
  | .attempted (.rejected item _) => key.id == item.id && key.generation == item.generation
  | .attempted (.corrupt item _) => key.id == item.id && key.generation == item.generation
  | .unattempted item => key.id == item.id && key.generation == item.generation

/-- `ScheduleKey::admit_elapsed`. -/
def admitElapsed (key : ScheduleKey) (elapsed : TimerElapsed) : Bool :=
  key.id == elapsed.id && key.generation == elapsed.generation

end ScheduleKey

/-! ### Shutdown -/

/-- `ShutdownRejection`. -/
inductive ShutdownRejection where
  | alreadyStopping
  | alreadyStopped
  deriving DecidableEq, Repr

/-- `EstablishedShutdownResolved`. -/
inductive EstablishedShutdownResolved where
  | accepted (id : ℕ)
  | rejected (id : ℕ) (reason : ShutdownRejection)
  deriving DecidableEq, Repr

/-- `EstablishedShutdownResolved::id`. -/
def EstablishedShutdownResolved.id : EstablishedShutdownResolved → ℕ
  | .accepted id => id
  | .rejected id _ => id

/-- `ShutdownEstablished<StopOnShutdown<W>, Here>`. -/
structure ShutdownEstablished (S : Signature) where
  id : ℕ
  actor : S.Actor

/-- `ActorDrainPolicy`. -/
inductive ActorDrainPolicy where
  | waitForActorGraph
  | retireActorGraphAfter (deadline : ℕ)
  deriving DecidableEq, Repr

/-- `ShutdownDeadline`. -/
inductive ShutdownDeadline where
  | unlimited
  | scheduling (key : ScheduleKey)
  | waiting (key : ScheduleKey)
  | notScheduled (settlement : ScheduleSettled)
  | elapsed (elapsed : TimerElapsed)
  deriving DecidableEq

namespace ShutdownDeadline

/-- `ShutdownDeadline::KEY`. -/
def key : ScheduleKey := ⟨0, 0⟩

/-- `ShutdownDeadline::begin`. -/
def begin : ActorDrainPolicy → ShutdownDeadline × Option ScheduleAfter
  | .waitForActorGraph => (.unlimited, none)
  | .retireActorGraphAfter deadline => (.scheduling key, some (key.after deadline))

/-- `ShutdownDeadline::accept_schedule`; `none` hands the input back. -/
def acceptSchedule (deadline : ShutdownDeadline) (input : ScheduleSettled) :
    Option ShutdownDeadline :=
  match deadline with
  | .scheduling expected =>
    if expected.acceptsResult input then
      match input with
      | .attempted (.accepted _) => some (.waiting expected)
      | input => some (.notScheduled input)
    else none
  | _ => none

/-- `ShutdownDeadline::accept_elapsed`; `none` hands the input back. -/
def acceptElapsed (deadline : ShutdownDeadline) (elapsed : TimerElapsed) :
    Option ShutdownDeadline :=
  match deadline with
  | .waiting expected =>
    if expected.admitElapsed elapsed then some (.elapsed elapsed) else none
  | _ => none

end ShutdownDeadline

/-- `ForcedRetirementCause`. -/
inductive ForcedRetirementCause where
  | workerShutdownIdsExhausted
  | deadlineNotScheduled (settlement : ScheduleSettled)
  | deadlineElapsed (elapsed : TimerElapsed)
  deriving DecidableEq

/-! ### Steps -/

/-- `core::ops::ControlFlow<B, C>`. -/
inductive ControlFlow (Break Continue : Type) where
  | stop (value : Break)
  | resume (value : Continue)

/-- `behavior::Step<Never, Stopped>`. -/
inductive Step where
  | continue'
  | stop
  deriving DecidableEq, Repr

end Bombay
