/-
# One retained service of a dynamic supervisor

`crates/actors/src/templates/supervisor/directory/entry/mod.rs` and
`entry/retirement.rs`: the phases of an entry, and the retirement of its proxy with
the worker input that was already given away.

A `ProxyOperationWitness` and the `ProxyOperationId` it was reserved with are the
same number, drawn from the allocator of the supervisor.
-/

import Bombay.Directory.Protocol

namespace Bombay.Directory

open Proxy (ProxyOutcome)

/-- `ProxyShutdown`. -/
inductive ProxyShutdown where
  | awaitingSettlement (witness : ℕ)
  | accepted (operation : ℕ)
  | rejected
  deriving DecidableEq, Repr

/-- `WorkerChangeDisposition`. -/
inductive WorkerChangeDisposition where
  | committed
  | cancelled
  deriving DecidableEq, Repr

section

variable (S : Signature) (Message : Type)

/-- `ServiceAvailability<P::Ready>`. -/
inductive ServiceAvailability where
  | ready (worker : WorkerAttempt) (readiness : S.Ready)
  | empty (previous : WorkerAttempt)

/-- `ProxyInputPurpose<P::Ready>`. -/
inductive ProxyInputPurpose where
  | cancellation (change : WorkerChange)
  | interruptedStart (operation : ℕ)
  | supervisorStart (operation : ℕ)
  | supervisorReplacement (operation : ℕ) (service : ServiceAvailability S)

/-- `ProxyInputCustody<W, P>`. -/
inductive ProxyInputCustody where
  | awaitingSettlement (witness : ℕ)
  | awaitingOutcome (operation : ℕ)
  | inputRejected
  | proxyReported (outcome : ProxyOutcome S Message)

/-- `RetiringWork<W, P>`. -/
inductive RetiringWork where
  | startFailed
  | unexpectedWorkerStopped
  | interruptedStart
  | supervisorShutdown (service : Option (ServiceAvailability S))
  | cancelledWorkerReturned (change : WorkerChange)
  | transferred (purpose : ProxyInputPurpose S) (input : ProxyInputCustody S Message)

/-- `ProxyRetirement<W, P>`. -/
structure ProxyRetirement where
  proxy : S.Actor
  shutdown : ProxyShutdown
  work : RetiringWork S Message
  stopped : Option (ChildStopped S)

/-- `DynamicEntryPhase<W, P>`. -/
inductive DynamicEntryPhase where
  | creatingProxy (submission : WorkerSubmission S)
  | shuttingDownProxyCreation
  | drainingProxyCreationStop
  | waitingForStartup (proxy : S.Actor) (submission : WorkerSubmission S)
  | waitingForProxyInput (proxy : S.Actor) (witness : ℕ)
  | waitingForProxyOutcome (proxy : S.Actor) (operation : ℕ)
  | cancellingProxyCreation
  | stoppingProxyCreation (startOperation : ℕ) (submission : WorkerSubmission S)
  | available (proxy : S.Actor) (service : ServiceAvailability S)
      (latest : WorkerChangeDisposition)
  | replacementQueued (proxy : S.Actor) (service : ServiceAvailability S)
      (submission : WorkerSubmission S)
  | replacementAwaitingReceipt (proxy : S.Actor) (service : ServiceAvailability S) (witness : ℕ)
  | replacementAwaitingOutcome (proxy : S.Actor) (service : ServiceAvailability S)
      (operation : ℕ)
  | stopping (proxy : S.Actor) (restorable : Option (ServiceAvailability S))
      (shutdown : ProxyShutdown) (stopped : Option (ChildStopped S))
  | retiring (retirement : ProxyRetirement S Message)

/-- `DynamicEntry<W, P>`. -/
structure DynamicEntry where
  generation : ℕ
  operation : ℕ
  creation : ℕ
  phase : DynamicEntryPhase S Message

end

variable {S : Signature} {Message : Type}

/-- The shutdown of a proxy, with the token that its witness shares
(`ProxyOperation::shutdown`). -/
def ProxyOperation.shutdown (creation heap : ℕ) : ProxyOperation S := ⟨creation, .shutdown, heap⟩

/-- `ProxyOperation::initial`. -/
def ProxyOperation.initial (creation : ℕ) (submission : WorkerSubmission S) (heap : ℕ) :
    ProxyOperation S :=
  ⟨creation, .start submission, heap⟩

/-- `ProxyOperation::replacement`. -/
def ProxyOperation.replacement (creation : ℕ) (submission : WorkerSubmission S) (heap : ℕ) :
    ProxyOperation S :=
  ⟨creation, .replace submission, heap⟩

/-- `ProxyRetirement::begin`: the retirement, and the shutdown it waits for. -/
def ProxyRetirement.begin (creation : ℕ) (proxy : S.Actor) (work : RetiringWork S Message)
    (heap : ℕ) : ProxyRetirement S Message × ProxyOperation S :=
  (⟨proxy, .awaitingSettlement heap, work, none⟩, .shutdown creation heap)

/-- `ProxyInputCustody::into_interrupted_worker`. -/
def ProxyInputCustody.intoInterruptedWorker :
    ProxyInputCustody S Message → Option (InterruptedWorker S Message)
  | .inputRejected => some .proxyInputRejected
  | .proxyReported outcome => some (.proxyReported outcome)
  | .awaitingSettlement _ => none
  | .awaitingOutcome _ => none

/-- `RetiringWork::settle_input`: the work, and the input when it was rejected; `none` hands the
input back. -/
def RetiringWork.settleInput (work : RetiringWork S Message) (input : ProxyInputResult S) :
    Option (RetiringWork S Message × Option (ProxyInputResult S)) :=
  match work with
  | .transferred purpose (.awaitingSettlement witness) =>
    if admits witness input then
      match input with
      | .attempted (.accepted receipt) =>
        some (.transferred purpose (.awaitingOutcome receipt.operation), none)
      | input => some (.transferred purpose .inputRejected, some input)
    else none
  | _ => none

namespace DynamicEntryPhase

/-- `DynamicEntryPhase::status`. -/
def status : DynamicEntryPhase S Message → DynamicStatus S
  | .creatingProxy _ => .creatingProxy
  | .shuttingDownProxyCreation => .draining
  | .drainingProxyCreationStop => .draining
  | .waitingForStartup _ _ => .waitingForStartup
  | .waitingForProxyInput _ _ => .awaitingProxy
  | .waitingForProxyOutcome _ _ => .awaitingProxy
  | .cancellingProxyCreation => .cancelling
  | .stoppingProxyCreation _ _ => .stopping
  | .available proxy (.ready _ _) _ => .ready (S.recipient proxy)
  | .available _ (.empty _) _ => .empty
  | .replacementQueued _ _ _ => .replacing
  | .replacementAwaitingReceipt _ _ _ => .replacing
  | .replacementAwaitingOutcome _ _ _ => .replacing
  | .stopping _ _ _ _ => .stopping
  | .retiring _ => .retiring

/-- `DynamicEntryPhase::shutdown`: the phase, the shutdown that is asked for, and the submission
that is interrupted, with its operation. -/
def shutdown (phase : DynamicEntryPhase S Message) (creation operation heap : ℕ) :
    DynamicEntryPhase S Message × Option (ProxyOperation S) ×
      Option (ℕ × WorkerChangeInterruption × WorkerSubmission S) :=
  let retire (proxy : S.Actor) (work : RetiringWork S Message)
      (interruption : Option (ℕ × WorkerChangeInterruption × WorkerSubmission S)) :=
    let (retirement, shutdown) := ProxyRetirement.begin creation proxy work heap
    (DynamicEntryPhase.retiring retirement, some shutdown, interruption)
  match phase with
  | .creatingProxy submission =>
    (.shuttingDownProxyCreation, none, some (operation, .supervisorShutdown .start, submission))
  | .stoppingProxyCreation startOperation submission =>
    (.drainingProxyCreationStop, none,
      some (startOperation, .explicitStop operation, submission))
  | .waitingForStartup proxy submission =>
    retire proxy (.supervisorShutdown none)
      (some (operation, .supervisorShutdown .start, submission))
  | .waitingForProxyInput proxy witness =>
    retire proxy (.transferred (.supervisorStart operation) (.awaitingSettlement witness)) none
  | .waitingForProxyOutcome proxy proxyOperation =>
    retire proxy (.transferred (.supervisorStart operation) (.awaitingOutcome proxyOperation)) none
  | .available proxy service _ => retire proxy (.supervisorShutdown (some service)) none
  | .replacementQueued proxy service submission =>
    retire proxy (.supervisorShutdown (some service))
      (some (operation, .supervisorShutdown .replacement, submission))
  | .replacementAwaitingReceipt proxy service witness =>
    retire proxy
      (.transferred (.supervisorReplacement operation service) (.awaitingSettlement witness)) none
  | .replacementAwaitingOutcome proxy service proxyOperation =>
    retire proxy
      (.transferred (.supervisorReplacement operation service) (.awaitingOutcome proxyOperation))
      none
  | phase => (phase, none, none)

/-- A worker input of the entry was emitted and is not resolved: it occupies a startup slot. -/
def occupies : DynamicEntryPhase S Message → Bool
  | .waitingForProxyInput _ _ => true
  | .waitingForProxyOutcome _ _ => true
  | .replacementAwaitingReceipt _ _ _ => true
  | .replacementAwaitingOutcome _ _ _ => true
  | .retiring ⟨_, _, .transferred _ (.awaitingSettlement _), _⟩ => true
  | .retiring ⟨_, _, .transferred _ (.awaitingOutcome _), _⟩ => true
  | _ => false

/-- The entry waits for a startup slot. -/
def waits : DynamicEntryPhase S Message → Bool
  | .waitingForStartup _ _ => true
  | .replacementQueued _ _ _ => true
  | _ => false

end DynamicEntryPhase

end Bombay.Directory
