/-
# What a dynamic supervisor is told and what it says

`crates/actors/src/templates/supervisor/directory/protocol.rs`, `lifecycle.rs`,
`diagnostic.rs`, `event.rs` and `requests.rs`, with the operations on a stable proxy
of `templates/proxy/operation.rs` and the creation of one in
`templates/proxy_creation.rs`.

A `ReplyRoute` is a value of `S.Customer`, whatever its protocol.  The routes of the
lifecycle messages and of the diagnostics are fixed at construction; a lane holds
the messages alone.
-/

import Bombay.Proxy.Transition

namespace Bombay.Directory

open Proxy (ProxyCommand ProxyOutcome ProxyDiagnostic InitialWorkerOutcome ReplacementOutcome
  WorkerStartResult StableProxy ProxyPhase ProxyDrain)

/-! ### Operations on a proxy -/

/-- The signature of a supervisor's children: it creates stable proxies, whose initialization
cannot fail (`type Error = Never`). -/
abbrev proxied (S : Signature) : Signature :=
  { S with Worker := StableProxy S, WorkerError := Empty }

/-- `ChildInputReason`. -/
inductive ChildInputReason where
  | missingBinding
  | closedControlLane
  deriving DecidableEq, Repr

section

variable (S : Signature)

/-- `ProxyOperation<Here, W, P>`; the operation is the token its witness shares. -/
structure ProxyOperation where
  creation : ℕ
  control : ProxyCommand S
  operation : ℕ

/-- `ProxyInputReceipt<W, P>`. -/
structure ProxyInputReceipt where
  creation : ℕ
  proxy : S.Actor
  operation : ℕ

/-- `ProxyInputResult<Here, W, P>`. -/
abbrev ProxyInputResult :=
  ActionItemResult (ProxyOperation S) (ProxyInputReceipt S) ChildInputReason

/-- `StableProxyCreationSettlement<W, P>`. -/
abbrev StableProxyCreationSettlement := WorkerCreationSettlement (proxied S)

/-- `StableProxyCreation<W, P>`. -/
inductive StableProxyCreation where
  | committed (proxy : S.Actor)
  | rejected (settlement : StableProxyCreationSettlement S)

end

variable {S : Signature}

/-- `proxy_input_creation`. -/
def proxyInputCreation : ProxyInputResult S → ℕ
  | .attempted (.accepted receipt) => receipt.creation
  | .attempted (.rejected item _) => item.creation
  | .attempted (.corrupt item _) => item.creation
  | .unattempted item => item.creation

/-- The token of the operation a result settles. -/
def proxyInputOperation : ProxyInputResult S → ℕ
  | .attempted (.accepted receipt) => receipt.operation
  | .attempted (.rejected item _) => item.operation
  | .attempted (.corrupt item _) => item.operation
  | .unattempted item => item.operation

/-- `ProxyOperationWitness::admit`. -/
def admits (witness : ℕ) (input : ProxyInputResult S) : Bool := witness == proxyInputOperation input

/-- `proxy_creation::resolve`: only a birth is committed. -/
def resolve (settlement : StableProxyCreationSettlement S) : StableProxyCreation S :=
  match (creationIdentity settlement).2 with
  | .birth =>
    match settlement with
    | .attempted (.accepted (.established _ _ actor)) => .committed actor
    | settlement => .rejected settlement
  | .replacement _ => .rejected settlement

/-! ### Commands and replies -/

/-- `CancelAuthority<Key>`. -/
structure CancelAuthority (Key : Type) where
  key : Key
  operation : ℕ
  deriving DecidableEq, Repr

/-- `WorkerChangeReceipt<Key>`. -/
structure WorkerChangeReceipt (Key : Type) where
  key : Key
  cancel : CancelAuthority Key
  deriving DecidableEq, Repr

/-- `StartRejection`. -/
inductive StartRejection where
  | alreadyExists
  | atCapacity
  | shuttingDown
  | entryGenerationExhausted
  | operationExhausted
  | proxyCreationExhausted
  deriving DecidableEq, Repr

/-- `ReplaceRejection`. -/
inductive ReplaceRejection where
  | unknown
  | unavailable
  | shuttingDown
  | operationExhausted
  deriving DecidableEq, Repr

/-- `StopRejection<Key>`. -/
inductive StopRejection (Key : Type) where
  | unknown (key : Key)
  | unavailable (key : Key)
  | alreadyStopping (key : Key)
  | shuttingDown (key : Key)
  | operationExhausted (key : Key)
  deriving DecidableEq, Repr

/-- `WorkerChange`. -/
inductive WorkerChange where
  | start
  | replacement
  deriving DecidableEq, Repr

/-- `WorkerChangeInterruption`. -/
inductive WorkerChangeInterruption where
  | explicitStop (operation : ℕ)
  | supervisorShutdown (change : WorkerChange)
  deriving DecidableEq, Repr

/-- `EntryRetirement`. -/
inductive EntryRetirement where
  | cancellation
  | startFailed
  | unexpectedWorkerStopped
  | stop
  | shutdown
  deriving DecidableEq, Repr

/-- `EntryStopFailureReason`. -/
inductive EntryStopFailureReason where
  | controlRejected (reason : ChildInputReason)
  | interpreterCorrupt (fault : InterpreterFault)
  | interpretationSkipped
  deriving DecidableEq, Repr

/-- `UnexpectedExit`. -/
inductive UnexpectedExit where
  | keepEmpty
  | retire
  deriving DecidableEq, Repr

section

variable (Key : Type) (S : Signature) (Message : Type)

/-- `WorkerChangeRejection<Key, W, P, Reason>`. -/
structure WorkerChangeRejection (Reason : Type) where
  key : Key
  submission : WorkerSubmission S
  reason : Reason

/-- `DynamicStatus<W::Protocol>`. -/
inductive DynamicStatus where
  | creatingProxy
  | waitingForStartup
  | awaitingProxy
  | ready (proxy : S.Recipient)
  | empty
  | replacing
  | stopping
  | cancelling
  | retiring
  | draining

/-- `QueryReply<Key, W::Protocol>`. -/
inductive QueryReply where
  | unknown (key : Key)
  | known (key : Key) (status : DynamicStatus S)

/-- `CancellationReceipt<Key, W, P>`. -/
inductive CancellationReceipt where
  | returned (authority : CancelAuthority Key) (submission : WorkerSubmission S)
  | pending (authority : CancelAuthority Key) (phase : DynamicStatus S)
  | committed (authority : CancelAuthority Key) (resultingPhase : DynamicStatus S)
  | cancelled (authority : CancelAuthority Key)
  | stale (authority : CancelAuthority Key)
  | draining (authority : CancelAuthority Key)

/-- `DynamicCommand<Key, W, P>`. -/
inductive DynamicCommand where
  | start (key : Key) (submission : WorkerSubmission S) (replyTo : S.Customer)
  | replace (key : Key) (submission : WorkerSubmission S) (replyTo : S.Customer)
  | stop (key : Key) (replyTo : S.Customer)
  | query (key : Key) (replyTo : S.Customer)
  | cancel (authority : CancelAuthority Key) (replyTo : S.Customer)

/-! ### Lifecycle messages and diagnostics -/

/-- `EntryStopFailure<A>`. -/
structure EntryStopFailure where
  reason : EntryStopFailureReason
  stopped : Option (ChildStopped S)

/-- `CancellationOutcome<W, P>`. -/
inductive CancellationOutcome where
  | workerReturned
  | proxyInputRejected
  | proxyReported (outcome : ProxyOutcome S Message)

/-- `InterruptedWorker<W, P>`. -/
inductive InterruptedWorker where
  | submission (submission : WorkerSubmission S)
  | proxyInputRejected
  | proxyReported (outcome : ProxyOutcome S Message)

/-- `ReplacementFailure<W, P>`. -/
inductive ReplacementFailure where
  | proxyRefused (worker : S.Worker) (startup : S.Plan) (phase : ProxyPhase)
  | workerAttemptsExhausted (worker : S.Worker) (startup : S.Plan)
  | workerCreationRejected (rejection : WorkerCreationRejection S) (startup : S.Plan)
      (stopped : Option (ChildStopped S))
  | workerUnavailable (drain : ProxyDrain S)

/-- `DynamicLifecycle<Key, W, P>`. -/
inductive DynamicLifecycle where
  | started (key : Key) (generation operation : ℕ) (proxy : S.Actor)
  | startCreationRejected (key : Key) (generation : ℕ) (submission : WorkerSubmission S)
      (creation : StableProxyCreationSettlement S)
  | workerChangeInterrupted (key : Key) (generation operation : ℕ)
      (interruption : WorkerChangeInterruption) (worker : InterruptedWorker S Message)
  | startInputRejected (key : Key) (generation : ℕ)
  | replacementInputRejected (key : Key) (generation operation : ℕ)
  | startOutcomeRejected (key : Key) (generation operation : ℕ) (outcome : InitialWorkerOutcome S)
  | replaced (key : Key) (generation operation : ℕ) (proxy : S.Actor)
  | replacementFailed (key : Key) (generation operation : ℕ) (failure : ReplacementFailure S)
  | stopFinished (key : Key) (generation operation : ℕ) (proxy : S.Actor)
      (result : Except (EntryStopFailure S) (ChildStopped S))
  | unexpectedWorkerStopped (key : Key) (generation : ℕ) (worker : WorkerAttempt)
      (readiness : S.Ready) (stopped : ChildStopped S) (disposition : UnexpectedExit)
  | commandUnavailable (key : Key) (generation : ℕ) (sender : S.Address) (proxyPhase : ProxyPhase)
      (command : Message)
  | operationCancelled (key : Key) (generation operation : ℕ) (change : WorkerChange)
      (outcome : CancellationOutcome S Message)
  | entryRetired (key : Key) (generation : ℕ) (cause : EntryRetirement)

/-- `ChildReport<R>`. -/
structure ChildReport (Report : Type) where
  child : ℕ
  report : Report

/-- `DynamicDiagnostic<Key, W, P>`. -/
inductive DynamicDiagnostic where
  | rejectedProxyOutcome (report : ChildReport (ProxyOutcome S Message))
  | proxyDiagnosticReported (report : ChildReport (ProxyDiagnostic S))
  | proxyInputRejected (key : Key) (generation : ℕ) (input : ProxyInputResult S)
  | proxyCreationRejected (key : Key) (generation : ℕ)
      (creation : StableProxyCreationSettlement S)
  | proxyShutdownRejected (key : Key) (generation : ℕ) (input : ProxyInputResult S)
  | rejectedProxyStop (stopped : ChildStopped S)

/-! ### Events and requests -/

/-- `DynamicSupervisorEvent<Key, W, P>`. -/
inductive DynamicSupervisorEvent where
  | command (command : DynamicCommand Key S)
  | proxyCreationsSettled (proxies : CreationsSettled (proxied S))
  | proxyInputSettled (input : ProxyInputResult S)
  | proxyReported (report : ChildReport (ProxyOutcome S Message))
  | proxyDiagnosed (report : ChildReport (ProxyDiagnostic S))
  | proxyStopped (stopped : ChildStopped S)
  | shutdown
  | shutdownScheduleSettled (input : ScheduleSettled)
  | shutdownElapsed (elapsed : TimerElapsed)

/-- `Actions<…, DynamicSupervisorRequests<…>, Births<StableProxy<W, P>>>`. -/
structure DynamicActions where
  proxyObservations : List ℕ := []
  proxyOperations : List (ProxyOperation S) := []
  shutdownSchedules : List ScheduleAfter := []
  startReplies : List (S.Customer ×
    Except (WorkerChangeRejection Key S StartRejection) (WorkerChangeReceipt Key)) := []
  replaceReplies : List (S.Customer ×
    Except (WorkerChangeRejection Key S ReplaceRejection) (WorkerChangeReceipt Key)) := []
  stopReplies : List (S.Customer × Except (StopRejection Key) Key) := []
  queryReplies : List (S.Customer × QueryReply Key S) := []
  cancelReplies : List (S.Customer × CancellationReceipt Key S) := []
  lifecycle : List (DynamicLifecycle Key S Message) := []
  diagnostics : List (DynamicDiagnostic Key S Message) := []
  creations : List (CreateChild (proxied S)) := []
  step : Step := .continue'

end

end Bombay.Directory
