/-
# The dynamic supervisor

`crates/actors/src/templates/supervisor/directory/mod.rs`: the table of services,
the five commands, and the shutdown of the whole supervisor.

`services.remove` followed by an insertion of the same entry leaves the table as it
is, and the model leaves it alone there.
-/

import Bombay.Directory.Entry
import Bombay.Lib.OrderedMap

namespace Bombay.Directory

open Proxy (ProxyOutcome StableProxy)

/-- `EntryCapacity`. -/
structure EntryCapacity where
  maximum : ℕ
  positive : 0 < maximum

/-- `SupervisorAvailability`. -/
inductive SupervisorAvailability where
  | accepting (actorDrain : ActorDrainPolicy)
  | shuttingDown (deadline : ShutdownDeadline)
  deriving DecidableEq

section

variable (Key : Type) [LinearOrder Key] (S : Signature) (Message : Type)

/-- `DynamicSupervisor<Key, W, P, …>`; `heap` is the allocator of operation tokens. -/
structure DynamicSupervisor where
  services : OrderedMap Key (DynamicEntry S Message)
  entries : EntryCapacity
  startup : StartupLimit
  generations : Sequence
  operations : Sequence
  creations : Sequence
  unexpectedExit : UnexpectedExit
  availability : SupervisorAvailability
  heap : ℕ

/-- A supervisor and what it asks for, or the input it hands back (`BehaviorActed`). -/
abbrev Acted :=
  DynamicSupervisor Key S Message ×
    Except (DynamicSupervisorEvent Key S Message) (DynamicActions Key S Message)

end

/-- `Config`. -/
structure Config where
  entries : EntryCapacity
  startup : StartupLimit
  exit : UnexpectedExit
  shutdown : ActorDrainPolicy

variable {Key : Type} [LinearOrder Key] {S : Signature} {Message : Type}

/-- `directory::new`. -/
def DynamicSupervisor.new (config : Config) : DynamicSupervisor Key S Message :=
  ⟨.empty, config.entries, config.startup, ⟨some 1⟩, ⟨some 1⟩, ⟨some 1⟩, config.exit,
    .accepting config.shutdown, 0⟩

namespace DynamicSupervisor

variable (self : DynamicSupervisor Key S Message)

/-- The supervisor with one entry inserted. -/
def put (key : Key) (entry : DynamicEntry S Message) : DynamicSupervisor Key S Message :=
  { self with services := self.services.insert key entry }

/-- The supervisor with one entry removed. -/
def drop (key : Key) : DynamicSupervisor Key S Message :=
  { self with services := self.services.erase key }

/-- `take_proxy_entry`: the entry of a proxy creation, with its key. -/
def takeProxyEntry (creation : ℕ) : Option (Key × DynamicEntry S Message) :=
  self.services.entries.find? fun service => service.2.creation == creation

end DynamicSupervisor

open DynamicSupervisor

/-- `reject_input`. -/
def rejectInput (self : DynamicSupervisor Key S Message)
    (input : DynamicSupervisorEvent Key S Message) : Acted Key S Message :=
  (self, .error input)

/-- `entry_retired`. -/
def entryRetired (key : Key) (generation : ℕ) (cause : EntryRetirement) :
    List (DynamicLifecycle Key S Message) :=
  [.entryRetired key generation cause]

/-- `operation_cancelled`. -/
def operationCancelled (key : Key) (generation operation : ℕ) (change : WorkerChange)
    (outcome : CancellationOutcome S Message) : List (DynamicLifecycle Key S Message) :=
  [.operationCancelled key generation operation change outcome,
    .entryRetired key generation .cancellation]

/-! ### Startup slots -/

/-- The first entry with the smallest operation (`min_by_key`). -/
def earliest : List (Key × DynamicEntry S Message) → Option (Key × DynamicEntry S Message)
  | [] => none
  | service :: rest =>
    match earliest rest with
    | none => some service
    | some other => if other.2.operation < service.2.operation then some other else some service

/-- The number of startup slots that are taken. -/
def DynamicSupervisor.occupied (self : DynamicSupervisor Key S Message) : ℕ :=
  self.services.values.countP fun entry => entry.phase.occupies

/-- `authorize_waiting`. -/
def authorizeWaiting (self : DynamicSupervisor Key S Message) :
    DynamicSupervisor Key S Message × List (ProxyOperation S) :=
  if self.startup.maximum ≤ self.occupied then (self, [])
  else
    match earliest (self.services.entries.filter fun service => service.2.phase.waits) with
    | none => (self, [])
    | some (key, entry) =>
      match entry.phase with
      | .waitingForStartup proxy submission =>
        ({ self.put key { entry with phase := .waitingForProxyInput proxy self.heap } with
            heap := self.heap + 1 },
          [.initial entry.creation submission self.heap])
      | .replacementQueued proxy service submission =>
        ({ self.put key
              { entry with phase := .replacementAwaitingReceipt proxy service self.heap } with
            heap := self.heap + 1 },
          [.replacement entry.creation submission self.heap])
      | _ => (self, [])

/-! ### Commands -/

/-- `start`. -/
def start (self : DynamicSupervisor Key S Message) (key : Key) (submission : WorkerSubmission S)
    (replyTo : S.Customer) : Acted Key S Message :=
  let rejected (reason : StartRejection) : Acted Key S Message :=
    (self, .ok { startReplies := [(replyTo, .error ⟨key, submission, reason⟩)] })
  if (self.services.get? key).isSome then rejected .alreadyExists
  else if self.entries.maximum ≤ self.services.length then rejected .atCapacity
  else
    match self.generations.issue, self.operations.issue with
    | none, _ => rejected .entryGenerationExhausted
    | some _, none => rejected .operationExhausted
    | some (generation, generations), some (operation, operations) =>
      match self.creations.issue with
      | none => rejected .proxyCreationExhausted
      | some (creation, creations) =>
        ({ self.put key ⟨generation, operation, creation, .creatingProxy submission⟩ with
            generations := generations, operations := operations, creations := creations },
          .ok {
            proxyObservations := [creation]
            startReplies := [(replyTo, .ok ⟨key, ⟨key, operation⟩⟩)]
            creations := [⟨creation, StableProxy.new, .birth⟩] })

/-- `replace`. -/
def replace (self : DynamicSupervisor Key S Message) (key : Key) (submission : WorkerSubmission S)
    (replyTo : S.Customer) : Acted Key S Message :=
  let rejected (reason : ReplaceRejection) : Acted Key S Message :=
    (self, .ok { replaceReplies := [(replyTo, .error ⟨key, submission, reason⟩)] })
  match self.services.get? key with
  | none => rejected .unknown
  | some entry =>
    match entry.phase with
    | .available proxy service _ =>
      match self.operations.issue with
      | none => rejected .operationExhausted
      | some (operation, operations) =>
        let queued := { self.put key { entry with
            operation := operation, phase := .replacementQueued proxy service submission } with
          operations := operations }
        let (self, proxyOperations) := authorizeWaiting queued
        (self, .ok {
          proxyOperations := proxyOperations
          replaceReplies := [(replyTo, .ok ⟨key, ⟨key, operation⟩⟩)] })
    | _ => rejected .unavailable

/-- `stop_operation_exhausted`. -/
def stopOperationExhausted (self : DynamicSupervisor Key S Message) (key : Key)
    (replyTo : S.Customer) : Acted Key S Message :=
  (self, .ok { stopReplies := [(replyTo, .error (.operationExhausted key))] })

/-- The end of `stop` for an entry that goes to `Stopping`. -/
def beginStop (self : DynamicSupervisor Key S Message) (key : Key)
    (entry : DynamicEntry S Message) (proxy : S.Actor)
    (restorable : Option (ServiceAvailability S)) (operation : ℕ) (operations : Sequence)
    (lifecycle : List (DynamicLifecycle Key S Message)) (replyTo : S.Customer) :
    Acted Key S Message :=
  ({ self.put key { entry with
        operation := operation
        phase := .stopping proxy restorable (.awaitingSettlement self.heap) none } with
      operations := operations, heap := self.heap + 1 },
    .ok {
      proxyOperations := [.shutdown entry.creation self.heap]
      stopReplies := [(replyTo, .ok key)]
      lifecycle := lifecycle })

/-- The end of `stop` for an entry whose worker input was given away. -/
def interruptStart (self : DynamicSupervisor Key S Message) (key : Key)
    (entry : DynamicEntry S Message) (proxy : S.Actor) (input : ProxyInputCustody S Message)
    (operation : ℕ) (operations : Sequence) (replyTo : S.Customer) : Acted Key S Message :=
  let (retirement, shutdown) := ProxyRetirement.begin entry.creation proxy
    (.transferred (.interruptedStart entry.operation) input) self.heap
  ({ self.put key { entry with operation := operation, phase := .retiring retirement } with
      operations := operations, heap := self.heap + 1 },
    .ok { proxyOperations := [shutdown], stopReplies := [(replyTo, .ok key)] })

/-- `stop`. -/
def stop (self : DynamicSupervisor Key S Message) (key : Key) (replyTo : S.Customer) :
    Acted Key S Message :=
  match self.services.get? key with
  | none => (self, .ok { stopReplies := [(replyTo, .error (.unknown key))] })
  | some entry =>
    match entry.phase with
    | .available proxy service _ =>
      match self.operations.issue with
      | none =>
        stopOperationExhausted
          (self.put key { entry with phase := .available proxy service .committed }) key replyTo
      | some (operation, operations) =>
        beginStop self key entry proxy (some service) operation operations [] replyTo
    | .creatingProxy submission =>
      match self.operations.issue with
      | none => stopOperationExhausted self key replyTo
      | some (operation, operations) =>
        ({ self.put key { entry with
              operation := operation
              phase := .stoppingProxyCreation entry.operation submission } with
            operations := operations },
          .ok { stopReplies := [(replyTo, .ok key)] })
    | .waitingForStartup proxy submission =>
      match self.operations.issue with
      | none => stopOperationExhausted self key replyTo
      | some (operation, operations) =>
        beginStop self key entry proxy none operation operations
          [.workerChangeInterrupted key entry.generation entry.operation (.explicitStop operation)
            (.submission submission)] replyTo
    | .waitingForProxyInput proxy witness =>
      match self.operations.issue with
      | none => stopOperationExhausted self key replyTo
      | some (operation, operations) =>
        interruptStart self key entry proxy (.awaitingSettlement witness) operation operations
          replyTo
    | .waitingForProxyOutcome proxy proxyOperation =>
      match self.operations.issue with
      | none => stopOperationExhausted self key replyTo
      | some (operation, operations) =>
        interruptStart self key entry proxy (.awaitingOutcome proxyOperation) operation operations
          replyTo
    | .stopping _ _ _ _ => (self, .ok { stopReplies := [(replyTo, .error (.alreadyStopping key))] })
    | .stoppingProxyCreation _ _ =>
      (self, .ok { stopReplies := [(replyTo, .error (.alreadyStopping key))] })
    | _ => (self, .ok { stopReplies := [(replyTo, .error (.unavailable key))] })

/-- The reply to a `Query` that is accepted. -/
def query (self : DynamicSupervisor Key S Message) (key : Key) (replyTo : S.Customer) :
    Acted Key S Message :=
  let reply :=
    match self.services.get? key with
    | some entry => .known key entry.phase.status
    | none => .unknown key
  (self, .ok { queryReplies := [(replyTo, reply)] })

/-- The end of `cancel` for an entry whose proxy is shut down. -/
def cancelRetiring (self : DynamicSupervisor Key S Message) (key : Key)
    (entry : DynamicEntry S Message) (proxy : S.Actor) (work : RetiringWork S Message)
    (receipt : CancellationReceipt Key S) (replyTo : S.Customer) : Acted Key S Message :=
  let (retirement, shutdown) := ProxyRetirement.begin entry.creation proxy work self.heap
  ({ self.put key { entry with phase := .retiring retirement } with heap := self.heap + 1 },
    .ok { proxyOperations := [shutdown], cancelReplies := [(replyTo, receipt)] })

/-- `cancel`. -/
def cancel (self : DynamicSupervisor Key S Message) (authority : CancelAuthority Key)
    (replyTo : S.Customer) : Acted Key S Message :=
  let answer (receipt : CancellationReceipt Key S) : Acted Key S Message :=
    (self, .ok { cancelReplies := [(replyTo, receipt)] })
  let key := authority.key
  match self.services.get? key with
  | none => answer (.stale authority)
  | some entry =>
    if authority.operation ≠ entry.operation then answer (.stale authority)
    else
      match entry.phase with
      | .creatingProxy submission =>
        (self.put key { entry with phase := .cancellingProxyCreation },
          .ok { cancelReplies := [(replyTo, .returned authority submission)] })
      | .waitingForStartup proxy submission =>
        cancelRetiring self key entry proxy (.cancelledWorkerReturned .start)
          (.returned authority submission) replyTo
      | .waitingForProxyInput proxy witness =>
        cancelRetiring self key entry proxy
          (.transferred (.cancellation .start) (.awaitingSettlement witness))
          (.pending authority .awaitingProxy) replyTo
      | .waitingForProxyOutcome proxy proxyOperation =>
        cancelRetiring self key entry proxy
          (.transferred (.cancellation .start) (.awaitingOutcome proxyOperation))
          (.pending authority .awaitingProxy) replyTo
      | .cancellingProxyCreation => answer (.cancelled authority)
      | .retiring ⟨_, _, .cancelledWorkerReturned _, _⟩ => answer (.cancelled authority)
      | .retiring ⟨_, _, .transferred (.cancellation _) _, _⟩ => answer (.cancelled authority)
      | .retiring _ => answer (.committed authority .retiring)
      | .shuttingDownProxyCreation => answer (.draining authority)
      | .drainingProxyCreationStop => answer (.draining authority)
      | .available proxy service .committed =>
        answer (.committed authority
          (DynamicEntryPhase.status (.available proxy service .committed :
            DynamicEntryPhase S Message)))
      | .available _ _ .cancelled => answer (.cancelled authority)
      | .replacementQueued proxy service submission =>
        (self.put key { entry with phase := .available proxy service .cancelled },
          .ok { cancelReplies := [(replyTo, .returned authority submission)] })
      | .replacementAwaitingReceipt proxy _ witness =>
        cancelRetiring self key entry proxy
          (.transferred (.cancellation .replacement) (.awaitingSettlement witness))
          (.pending authority .replacing) replyTo
      | .replacementAwaitingOutcome proxy _ proxyOperation =>
        cancelRetiring self key entry proxy
          (.transferred (.cancellation .replacement) (.awaitingOutcome proxyOperation))
          (.pending authority .replacing) replyTo
      | .stopping _ _ _ _ => answer (.committed authority .stopping)
      | .stoppingProxyCreation _ _ => answer (.committed authority .stopping)

/-- `command_while_shutting_down`. -/
def commandWhileShuttingDown (self : DynamicSupervisor Key S Message)
    (command : DynamicCommand Key S) : Acted Key S Message :=
  match command with
  | .start key submission replyTo =>
    (self, .ok { startReplies := [(replyTo, .error ⟨key, submission, .shuttingDown⟩)] })
  | .replace key submission replyTo =>
    (self, .ok { replaceReplies := [(replyTo, .error ⟨key, submission, .shuttingDown⟩)] })
  | .stop key replyTo => (self, .ok { stopReplies := [(replyTo, .error (.shuttingDown key))] })
  | .query key replyTo =>
    let reply :=
      match self.services.get? key with
      | some _ => .known key .draining
      | none => .unknown key
    (self, .ok { queryReplies := [(replyTo, reply)] })
  | .cancel authority replyTo =>
    (self, .ok { cancelReplies := [(replyTo, .draining authority)] })

/-- `command`. -/
def command (self : DynamicSupervisor Key S Message) (command : DynamicCommand Key S) :
    Acted Key S Message :=
  match self.availability with
  | .shuttingDown _ => commandWhileShuttingDown self command
  | .accepting _ =>
    match command with
    | .start key submission replyTo => start self key submission replyTo
    | .replace key submission replyTo => replace self key submission replyTo
    | .query key replyTo => query self key replyTo
    | .cancel authority replyTo => cancel self authority replyTo
    | .stop key replyTo => stop self key replyTo

/-! ### Shutdown -/

/-- What the shutdown of the table has collected: operations, lifecycle messages, and the
allocator. -/
structure Sweep (Key : Type) (S : Signature) (Message : Type) where
  operations : List (ProxyOperation S)
  lifecycle : List (DynamicLifecycle Key S Message)
  heap : ℕ

/-- One round of the loop of `begin_shutdown`. -/
def sweepEntry (key : Key) (entry : DynamicEntry S Message) (sweep : Sweep Key S Message) :
    DynamicEntry S Message × Sweep Key S Message :=
  let (phase, shutdown, interruption) :=
    entry.phase.shutdown entry.creation entry.operation sweep.heap
  let interrupted :=
    match interruption with
    | some (operation, interruption, submission) =>
      [.workerChangeInterrupted key entry.generation operation interruption
        (.submission submission)]
    | none => []
  ({ entry with phase := phase },
    { operations := sweep.operations ++ shutdown.toList
      lifecycle := sweep.lifecycle ++ interrupted
      heap := sweep.heap + shutdown.toList.length })

/-- `begin_shutdown`. -/
def beginShutdown (self : DynamicSupervisor Key S Message) : Acted Key S Message :=
  match self.availability with
  | .shuttingDown _ => (self, .ok {})
  | .accepting actorDrain =>
    let (deadline, schedule) := ShutdownDeadline.begin actorDrain
    let (services, sweep) := self.services.mapAccum sweepEntry ⟨[], [], self.heap⟩
    ({ self with
        services := services, availability := .shuttingDown deadline, heap := sweep.heap },
      .ok {
        proxyOperations := sweep.operations
        shutdownSchedules := schedule.toList
        lifecycle := sweep.lifecycle })

/-- Nothing is left to wait for: the table is empty, or the deadline is over. -/
def DynamicSupervisor.finished (self : DynamicSupervisor Key S Message) : Bool :=
  match self.availability with
  | .accepting _ => false
  | .shuttingDown (.notScheduled _) => true
  | .shuttingDown (.elapsed _) => true
  | .shuttingDown _ => self.services.entries.isEmpty

/-- `apply_shutdown_step`. -/
def applyShutdownStep (acted : Acted Key S Message) : Acted Key S Message :=
  match acted with
  | (self, .ok actions) =>
    (self, .ok (if self.finished then { actions with step := .stop } else actions))
  | (self, .error input) => (self, .error input)

end Bombay.Directory
