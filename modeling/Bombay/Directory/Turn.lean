/-
# What a dynamic supervisor does in one transition

A transition leaves the table alone, begins an entry, moves one entry, or, when the
shutdown of the supervisor is accepted, works through all of them.  After an entry
has moved, the waiting entry that comes first may be given a startup slot.  `Steps`
says everything an event can do to one entry, and `Turn` everything it can do to the
table.
-/

import Bombay.Directory.Transition

namespace Bombay.Directory

open Proxy (ProxyOutcome InitialWorkerOutcome ReplacementOutcome)

variable {Key : Type} [LinearOrder Key] {S : Signature} {Message : Type}

/-! ### Entries -/

/-- What a step leaves of an entry, and what it says. -/
structure Outcome (Key : Type) (S : Signature) (Message : Type) where
  after : Option (DynamicEntry S Message)
  operations : List (ProxyOperation S) := []
  lifecycle : List (DynamicLifecycle Key S Message) := []
  diagnostics : List (DynamicDiagnostic Key S Message) := []

/-- The input was attempted and not accepted, or not attempted. -/
def refused (input : ProxyInputResult S) : Bool :=
  match input with
  | .attempted (.accepted _) => false
  | _ => true

/-- What is left of an entry whose retirement goes on, or is closed. -/
def settled (key : Key) (entry : DynamicEntry S Message) (retirement : ProxyRetirement S Message)
    (lifecycle : List (DynamicLifecycle Key S Message))
    (diagnostics : List (DynamicDiagnostic Key S Message)) : Outcome Key S Message :=
  match closeRetirement key entry.generation entry.operation retirement with
  | some closing => ⟨none, [], lifecycle ++ closing, diagnostics⟩
  | none => ⟨some { entry with phase := .retiring retirement }, [], lifecycle, diagnostics⟩

/-- **The retirement of an entry begins**: with which proxy and work, under which operation. -/
inductive Retires (key : Key) : DynamicSupervisorEvent Key S Message → DynamicEntry S Message →
    S.Actor → RetiringWork S Message → ℕ → List (DynamicLifecycle Key S Message) →
      List (DynamicDiagnostic Key S Message) → Prop
  | stoppedInput {generation operation creation fresh proxy witness replyTo} :
      Retires key (.command (.stop key replyTo))
        ⟨generation, operation, creation, .waitingForProxyInput proxy witness⟩ proxy
        (.transferred (.interruptedStart operation) (.awaitingSettlement witness)) fresh [] []
  | stoppedOutcome {generation operation creation fresh proxy token replyTo} :
      Retires key (.command (.stop key replyTo))
        ⟨generation, operation, creation, .waitingForProxyOutcome proxy token⟩ proxy
        (.transferred (.interruptedStart operation) (.awaitingOutcome token)) fresh [] []
  | cancelledWaiting {generation operation creation proxy submission replyTo} :
      Retires key (.command (.cancel ⟨key, operation⟩ replyTo))
        ⟨generation, operation, creation, .waitingForStartup proxy submission⟩ proxy
        (.cancelledWorkerReturned .start) operation [] []
  | cancelledInput {generation operation creation proxy witness replyTo} :
      Retires key (.command (.cancel ⟨key, operation⟩ replyTo))
        ⟨generation, operation, creation, .waitingForProxyInput proxy witness⟩ proxy
        (.transferred (.cancellation .start) (.awaitingSettlement witness)) operation [] []
  | cancelledOutcome {generation operation creation proxy token replyTo} :
      Retires key (.command (.cancel ⟨key, operation⟩ replyTo))
        ⟨generation, operation, creation, .waitingForProxyOutcome proxy token⟩ proxy
        (.transferred (.cancellation .start) (.awaitingOutcome token)) operation [] []
  | cancelledReceipt {generation operation creation proxy service witness replyTo} :
      Retires key (.command (.cancel ⟨key, operation⟩ replyTo))
        ⟨generation, operation, creation, .replacementAwaitingReceipt proxy service witness⟩ proxy
        (.transferred (.cancellation .replacement) (.awaitingSettlement witness)) operation [] []
  | cancelledReplacement {generation operation creation proxy service token replyTo} :
      Retires key (.command (.cancel ⟨key, operation⟩ replyTo))
        ⟨generation, operation, creation, .replacementAwaitingOutcome proxy service token⟩ proxy
        (.transferred (.cancellation .replacement) (.awaitingOutcome token)) operation [] []
  | createdShut {generation operation creation proxy settlement}
      (hcreation : (creationIdentity settlement).1 = creation)
      (hresolve : resolve settlement = .committed proxy) :
      Retires key (.proxyCreationsSettled (.settled [settlement]))
        ⟨generation, operation, creation, .shuttingDownProxyCreation⟩ proxy
        (.supervisorShutdown none) operation [] []
  | createdCancelled {generation operation creation proxy settlement}
      (hcreation : (creationIdentity settlement).1 = creation)
      (hresolve : resolve settlement = .committed proxy) :
      Retires key (.proxyCreationsSettled (.settled [settlement]))
        ⟨generation, operation, creation, .cancellingProxyCreation⟩ proxy
        (.cancelledWorkerReturned .start) operation [] []
  | startRefused {generation operation creation proxy witness input}
      (hcreation : proxyInputCreation input = creation)
      (hwitness : proxyInputOperation input = witness) (hrefused : refused input = true) :
      Retires key (.proxyInputSettled input)
        ⟨generation, operation, creation, .waitingForProxyInput proxy witness⟩ proxy
        .startFailed operation [.startInputRejected key generation]
        [.proxyInputRejected key generation input]
  | startFailed {generation operation creation proxy token outcome}
      (hready : ∀ attempt readiness, outcome ≠ .resolved (.ready attempt readiness)) :
      Retires key (.proxyReported ⟨creation, .initial outcome⟩)
        ⟨generation, operation, creation, .waitingForProxyOutcome proxy token⟩ proxy
        .startFailed operation [.startOutcomeRejected key generation operation outcome] []
  | workerStopped {generation operation creation proxy worker readiness latest stopped} :
      Retires key (.proxyReported ⟨creation, .workerStopped worker stopped⟩)
        ⟨generation, operation, creation, .available proxy (.ready worker readiness) latest⟩ proxy
        .unexpectedWorkerStopped operation
        [.unexpectedWorkerStopped key generation worker readiness stopped .retire] []

/-- **The stop of an entry begins**: with which proxy and service to restore, under which
operation. -/
inductive BeginsStop (key : Key) : DynamicSupervisorEvent Key S Message →
    DynamicEntry S Message → S.Actor → Option (ServiceAvailability S) → ℕ →
      List (DynamicLifecycle Key S Message) → Prop
  | available {generation operation creation fresh proxy service latest replyTo} :
      BeginsStop key (.command (.stop key replyTo))
        ⟨generation, operation, creation, .available proxy service latest⟩ proxy (some service)
        fresh []
  | waiting {generation operation creation fresh proxy submission replyTo} :
      BeginsStop key (.command (.stop key replyTo))
        ⟨generation, operation, creation, .waitingForStartup proxy submission⟩ proxy none fresh
        [.workerChangeInterrupted key generation operation (.explicitStop fresh)
          (.submission submission)]
  | createdDraining {generation operation creation proxy settlement}
      (hcreation : (creationIdentity settlement).1 = creation)
      (hresolve : resolve settlement = .committed proxy) :
      BeginsStop key (.proxyCreationsSettled (.settled [settlement]))
        ⟨generation, operation, creation, .drainingProxyCreationStop⟩ proxy none operation []
  | createdStopping {generation operation creation startOperation proxy submission settlement}
      (hcreation : (creationIdentity settlement).1 = creation)
      (hresolve : resolve settlement = .committed proxy) :
      BeginsStop key (.proxyCreationsSettled (.settled [settlement]))
        ⟨generation, operation, creation, .stoppingProxyCreation startOperation submission⟩ proxy
        none operation
        [.workerChangeInterrupted key generation startOperation (.explicitStop operation)
          (.submission submission)]

/-- **An entry whose proxy was not created ends**: with which messages. -/
inductive Uncreated (key : Key) (settlement : StableProxyCreationSettlement S) :
    DynamicEntry S Message → List (DynamicLifecycle Key S Message) →
      List (DynamicDiagnostic Key S Message) → Prop
  | creating {generation operation creation submission} :
      Uncreated key settlement ⟨generation, operation, creation, .creatingProxy submission⟩
        [.startCreationRejected key generation submission settlement] []
  | shuttingDown {generation operation creation} :
      Uncreated key settlement ⟨generation, operation, creation, .shuttingDownProxyCreation⟩
        (entryRetired key generation .shutdown) [.proxyCreationRejected key generation settlement]
  | draining {generation operation creation} :
      Uncreated key settlement ⟨generation, operation, creation, .drainingProxyCreationStop⟩
        (entryRetired key generation .stop) [.proxyCreationRejected key generation settlement]
  | cancelling {generation operation creation} :
      Uncreated key settlement ⟨generation, operation, creation, .cancellingProxyCreation⟩
        (operationCancelled key generation operation .start .workerReturned)
        [.proxyCreationRejected key generation settlement]
  | stopping {generation operation creation startOperation submission} :
      Uncreated key settlement
        ⟨generation, operation, creation, .stoppingProxyCreation startOperation submission⟩
        ([.workerChangeInterrupted key generation startOperation (.explicitStop operation)
            (.submission submission)] ++ entryRetired key generation .stop)
        [.proxyCreationRejected key generation settlement]

/-- **An entry takes another phase**, with nothing asked of its proxy. -/
inductive Shifts (key : Key) : DynamicSupervisorEvent Key S Message → DynamicEntry S Message →
    DynamicEntry S Message → List (DynamicLifecycle Key S Message) →
      List (DynamicDiagnostic Key S Message) → Prop
  | queued {generation operation creation fresh proxy service latest submission replyTo} :
      Shifts key (.command (.replace key submission replyTo))
        ⟨generation, operation, creation, .available proxy service latest⟩
        ⟨generation, fresh, creation, .replacementQueued proxy service submission⟩ [] []
  | exhausted {generation operation creation proxy service latest replyTo} :
      Shifts key (.command (.stop key replyTo))
        ⟨generation, operation, creation, .available proxy service latest⟩
        ⟨generation, operation, creation, .available proxy service .committed⟩ [] []
  | stopsCreation {generation operation creation fresh submission replyTo} :
      Shifts key (.command (.stop key replyTo))
        ⟨generation, operation, creation, .creatingProxy submission⟩
        ⟨generation, fresh, creation, .stoppingProxyCreation operation submission⟩ [] []
  | cancelsCreation {generation operation creation submission replyTo} :
      Shifts key (.command (.cancel ⟨key, operation⟩ replyTo))
        ⟨generation, operation, creation, .creatingProxy submission⟩
        ⟨generation, operation, creation, .cancellingProxyCreation⟩ [] []
  | cancelsReplacement {generation operation creation proxy service submission replyTo} :
      Shifts key (.command (.cancel ⟨key, operation⟩ replyTo))
        ⟨generation, operation, creation, .replacementQueued proxy service submission⟩
        ⟨generation, operation, creation, .available proxy service .cancelled⟩ [] []
  | created {generation operation creation proxy submission settlement}
      (hcreation : (creationIdentity settlement).1 = creation)
      (hresolve : resolve settlement = .committed proxy) :
      Shifts key (.proxyCreationsSettled (.settled [settlement]))
        ⟨generation, operation, creation, .creatingProxy submission⟩
        ⟨generation, operation, creation, .waitingForStartup proxy submission⟩ [] []
  | startAccepted {generation operation creation proxy witness receipt}
      (hcreation : receipt.creation = creation) (hwitness : receipt.operation = witness) :
      Shifts key (.proxyInputSettled (.attempted (.accepted receipt)))
        ⟨generation, operation, creation, .waitingForProxyInput proxy witness⟩
        ⟨generation, operation, creation, .waitingForProxyOutcome receipt.proxy receipt.operation⟩
        [] []
  | replacementAccepted {generation operation creation proxy service witness receipt}
      (hcreation : receipt.creation = creation) (hwitness : receipt.operation = witness) :
      Shifts key (.proxyInputSettled (.attempted (.accepted receipt)))
        ⟨generation, operation, creation, .replacementAwaitingReceipt proxy service witness⟩
        ⟨generation, operation, creation,
          .replacementAwaitingOutcome receipt.proxy service receipt.operation⟩ [] []
  | replacementRefused {generation operation creation proxy service witness input}
      (hcreation : proxyInputCreation input = creation)
      (hwitness : proxyInputOperation input = witness) (hrefused : refused input = true) :
      Shifts key (.proxyInputSettled input)
        ⟨generation, operation, creation, .replacementAwaitingReceipt proxy service witness⟩
        ⟨generation, operation, creation, .available proxy service .committed⟩
        [.replacementInputRejected key generation operation]
        [.proxyInputRejected key generation input]
  | stopAccepted {generation operation creation proxy restorable witness receipt}
      (hcreation : receipt.creation = creation) (hwitness : receipt.operation = witness) :
      Shifts key (.proxyInputSettled (.attempted (.accepted receipt)))
        ⟨generation, operation, creation,
          .stopping proxy restorable (.awaitingSettlement witness) none⟩
        ⟨generation, operation, creation,
          .stopping receipt.proxy restorable (.accepted receipt.operation) none⟩ [] []
  | restored {generation operation creation proxy service witness input failure}
      (hcreation : proxyInputCreation input = creation)
      (hwitness : proxyInputOperation input = witness) (hrefused : refused input = true)
      (hfailure : entryStopResult none input = .error failure) :
      Shifts key (.proxyInputSettled input)
        ⟨generation, operation, creation,
          .stopping proxy (some service) (.awaitingSettlement witness) none⟩
        ⟨generation, operation, creation, .available proxy service .committed⟩
        [.stopFinished key generation operation proxy (.error failure)]
        [.proxyShutdownRejected key generation input]
  | stopRefused {generation operation creation proxy witness input failure}
      (hcreation : proxyInputCreation input = creation)
      (hwitness : proxyInputOperation input = witness) (hrefused : refused input = true)
      (hfailure : entryStopResult none input = .error failure) :
      Shifts key (.proxyInputSettled input)
        ⟨generation, operation, creation, .stopping proxy none (.awaitingSettlement witness) none⟩
        ⟨generation, operation, creation,
          .retiring ⟨proxy, .rejected, .interruptedStart, none⟩⟩
        [.stopFinished key generation operation proxy (.error failure)]
        [.proxyShutdownRejected key generation input]
  | stopObserved {generation operation creation proxy restorable witness stopped}
      (hchild : stopped.child = creation) :
      Shifts key (.proxyStopped stopped)
        ⟨generation, operation, creation,
          .stopping proxy restorable (.awaitingSettlement witness) none⟩
        ⟨generation, operation, creation,
          .stopping proxy restorable (.awaitingSettlement witness) (some stopped)⟩ [] []
  | ready {generation operation creation proxy token attempt readiness} :
      Shifts key (.proxyReported ⟨creation, .initial (.resolved (.ready attempt readiness))⟩)
        ⟨generation, operation, creation, .waitingForProxyOutcome proxy token⟩
        ⟨generation, operation, creation, .available proxy (.ready attempt readiness) .committed⟩
        [.started key generation operation proxy] []
  | replaced {generation operation creation proxy service service' token outcome}
      (hreplaces : (replacedAttempt outcome).any (· ≠ service.worker) = false)
      (hresult : replacementResult service outcome = some (service', none)) :
      Shifts key (.proxyReported ⟨creation, .replacement outcome⟩)
        ⟨generation, operation, creation, .replacementAwaitingOutcome proxy service token⟩
        ⟨generation, operation, creation, .available proxy service' .committed⟩
        [.replaced key generation operation proxy] []
  | unreplaced {generation operation creation proxy service service' token outcome failure}
      (hreplaces : (replacedAttempt outcome).any (· ≠ service.worker) = false)
      (hresult : replacementResult service outcome = some (service', some failure)) :
      Shifts key (.proxyReported ⟨creation, .replacement outcome⟩)
        ⟨generation, operation, creation, .replacementAwaitingOutcome proxy service token⟩
        ⟨generation, operation, creation, .available proxy service' .committed⟩
        [.replacementFailed key generation operation failure] []
  | emptied {generation operation creation proxy worker readiness latest stopped} :
      Shifts key (.proxyReported ⟨creation, .workerStopped worker stopped⟩)
        ⟨generation, operation, creation, .available proxy (.ready worker readiness) latest⟩
        ⟨generation, operation, creation, .available proxy (.empty worker) latest⟩
        [.unexpectedWorkerStopped key generation worker readiness stopped .keepEmpty] []

/-- **The stop of an entry ends it**: with which messages. -/
inductive StopsEntry (key : Key) : DynamicSupervisorEvent Key S Message →
    DynamicEntry S Message → List (DynamicLifecycle Key S Message) →
      List (DynamicDiagnostic Key S Message) → Prop
  | settled {generation operation creation proxy restorable witness stopped receipt}
      (hcreation : receipt.creation = creation) (hwitness : receipt.operation = witness) :
      StopsEntry key (.proxyInputSettled (.attempted (.accepted receipt)))
        ⟨generation, operation, creation,
          .stopping proxy restorable (.awaitingSettlement witness) (some stopped)⟩
        ([.stopFinished key generation operation receipt.proxy (.ok stopped)] ++
          entryRetired key generation .stop) []
  | failed {generation operation creation proxy restorable witness stopped input failure}
      (hcreation : proxyInputCreation input = creation)
      (hwitness : proxyInputOperation input = witness) (hrefused : refused input = true)
      (hfailure : entryStopResult (some stopped) input = .error failure) :
      StopsEntry key (.proxyInputSettled input)
        ⟨generation, operation, creation,
          .stopping proxy restorable (.awaitingSettlement witness) (some stopped)⟩
        ([.stopFinished key generation operation proxy (.error failure)] ++
          entryRetired key generation .stop)
        [.proxyShutdownRejected key generation input]
  | stopped {generation operation creation proxy restorable token stopped}
      (hchild : stopped.child = creation) :
      StopsEntry key (.proxyStopped stopped)
        ⟨generation, operation, creation, .stopping proxy restorable (.accepted token) none⟩
        ([.stopFinished key generation operation proxy (.ok stopped)] ++
          entryRetired key generation .stop) []

/-- **A retirement goes on**: to which retirement, with which messages. -/
inductive Continues (key : Key) (generation operation creation : ℕ) :
    DynamicSupervisorEvent Key S Message → ProxyRetirement S Message →
      ProxyRetirement S Message → List (DynamicLifecycle Key S Message) →
        List (DynamicDiagnostic Key S Message) → Prop
  | accepted {proxy work witness stopped receipt} (hcreation : receipt.creation = creation)
      (hwitness : receipt.operation = witness) :
      Continues key generation operation creation
        (.proxyInputSettled (.attempted (.accepted receipt)))
        ⟨proxy, .awaitingSettlement witness, work, stopped⟩
        ⟨receipt.proxy, .accepted receipt.operation, work, stopped⟩ [] []
  | refused {proxy work witness stopped input lifecycle}
      (hcreation : proxyInputCreation input = creation)
      (hwitness : proxyInputOperation input = witness) (hrefused : refused input = true)
      (hlifecycle : lifecycle = [] ∨ ∃ failure,
        lifecycle = [.stopFinished key generation operation proxy (.error failure)]) :
      Continues key generation operation creation (.proxyInputSettled input)
        ⟨proxy, .awaitingSettlement witness, work, stopped⟩ ⟨proxy, .rejected, work, stopped⟩
        lifecycle [.proxyShutdownRejected key generation input]
  | inputAccepted {proxy shutdown purpose witness stopped receipt}
      (hcreation : receipt.creation = creation) (hwitness : receipt.operation = witness) :
      Continues key generation operation creation
        (.proxyInputSettled (.attempted (.accepted receipt)))
        ⟨proxy, shutdown, .transferred purpose (.awaitingSettlement witness), stopped⟩
        ⟨proxy, shutdown, .transferred purpose (.awaitingOutcome receipt.operation), stopped⟩ [] []
  | inputRefused {proxy shutdown purpose witness stopped input}
      (hcreation : proxyInputCreation input = creation)
      (hwitness : proxyInputOperation input = witness) (hrefused : refused input = true) :
      Continues key generation operation creation (.proxyInputSettled input)
        ⟨proxy, shutdown, .transferred purpose (.awaitingSettlement witness), stopped⟩
        ⟨proxy, shutdown, .transferred purpose .inputRejected, stopped⟩ []
        [.proxyInputRejected key generation input]
  | stopped {proxy shutdown work stop} (hchild : stop.child = creation) :
      Continues key generation operation creation (.proxyStopped stop)
        ⟨proxy, shutdown, work, none⟩ ⟨proxy, shutdown, work, some stop⟩ [] []
  | reported {proxy shutdown purpose token stopped outcome}
      (hexpects : purpose.expects outcome = true) :
      Continues key generation operation creation (.proxyReported ⟨creation, outcome⟩)
        ⟨proxy, shutdown, .transferred purpose (.awaitingOutcome token), stopped⟩
        ⟨proxy, shutdown, .transferred purpose (.proxyReported outcome), stopped⟩ [] []

/-- **Everything an event does to one entry.** -/
inductive Steps (key : Key) (heap : ℕ) : DynamicSupervisorEvent Key S Message →
    DynamicEntry S Message → Outcome Key S Message → Prop
  | retired {event entry proxy work operation lifecycle diagnostics}
      (h : Retires key event entry proxy work operation lifecycle diagnostics) :
      Steps key heap event entry
        ⟨some ⟨entry.generation, operation, entry.creation,
            .retiring ⟨proxy, .awaitingSettlement heap, work, none⟩⟩,
          [.shutdown entry.creation heap], lifecycle, diagnostics⟩
  | stopping {event entry proxy restorable operation lifecycle}
      (h : BeginsStop key event entry proxy restorable operation lifecycle) :
      Steps key heap event entry
        ⟨some ⟨entry.generation, operation, entry.creation,
            .stopping proxy restorable (.awaitingSettlement heap) none⟩,
          [.shutdown entry.creation heap], lifecycle, []⟩
  | uncreated {settlement creation entry lifecycle diagnostics}
      (hcreation : (creationIdentity settlement).1 = entry.creation)
      (hresolve : resolve settlement = .rejected creation)
      (h : Uncreated key creation entry lifecycle diagnostics) :
      Steps key heap (.proxyCreationsSettled (.settled [settlement])) entry
        ⟨none, [], lifecycle, diagnostics⟩
  | shifted {event entry after lifecycle diagnostics}
      (h : Shifts key event entry after lifecycle diagnostics) :
      Steps key heap event entry ⟨some after, [], lifecycle, diagnostics⟩
  | ended {event entry lifecycle diagnostics} (h : StopsEntry key event entry lifecycle diagnostics) :
      Steps key heap event entry ⟨none, [], lifecycle, diagnostics⟩
  | continued {event generation operation creation before after lifecycle diagnostics}
      (h : Continues key generation operation creation event before after lifecycle diagnostics) :
      Steps key heap event ⟨generation, operation, creation, .retiring before⟩
        (settled key ⟨generation, operation, creation, .retiring before⟩ after lifecycle
          diagnostics)

/-! ### The table -/

/-- One entry replaced or removed. -/
def DynamicSupervisor.alter (self : DynamicSupervisor Key S Message) (key : Key) :
    Option (DynamicEntry S Message) → DynamicSupervisor Key S Message
  | some entry => self.put key entry
  | none => self.drop key

/-- After an entry has moved, the entry that waits longest may be given a slot. -/
def Authorizes (self : DynamicSupervisor Key S Message)
    (acted : DynamicSupervisor Key S Message × List (ProxyOperation S)) : Prop :=
  acted = (self, []) ∨ acted = authorizeWaiting self

/-- A step that frees no startup slot and makes nobody wait. -/
structure Outcome.Steady (outcome : Outcome Key S Message) (entry : DynamicEntry S Message) :
    Prop where
  occupies : (entry.phase.occupies && !outcome.after.any (·.phase.occupies)) = false
  waits : (outcome.after.any (·.phase.waits) && !entry.phase.waits) = false

/-- The supervisor after one entry has moved. -/
def DynamicSupervisor.moved (self : DynamicSupervisor Key S Message) (key : Key)
    (outcome : Outcome Key S Message) (operations : Sequence) : DynamicSupervisor Key S Message :=
  { self.alter key outcome.after with
      operations := operations, heap := self.heap + outcome.operations.length }

/-! ### Answers -/

/-- The answers to customers. -/
structure Replies (Key : Type) (S : Signature) where
  start : List (S.Customer ×
    Except (WorkerChangeRejection Key S StartRejection) (WorkerChangeReceipt Key)) := []
  replace : List (S.Customer ×
    Except (WorkerChangeRejection Key S ReplaceRejection) (WorkerChangeReceipt Key)) := []
  stop : List (S.Customer × Except (StopRejection Key) Key) := []
  query : List (S.Customer × QueryReply Key S) := []
  cancel : List (S.Customer × CancellationReceipt Key S) := []

/-- The answers of a transition. -/
def DynamicActions.answers (actions : DynamicActions Key S Message) : Replies Key S :=
  ⟨actions.startReplies, actions.replaceReplies, actions.stopReplies, actions.queryReplies,
    actions.cancelReplies⟩

/-- The cancellation was accepted. -/
def CancellationReceipt.accepts : CancellationReceipt Key S → Bool
  | .returned _ _ => true
  | .pending _ _ => true
  | _ => false

/-- The worker whose proxy input was not emitted yet, which the entry holds. -/
def DynamicEntryPhase.holds : DynamicEntryPhase S Message → List (WorkerSubmission S)
  | .creatingProxy submission => [submission]
  | .stoppingProxyCreation _ submission => [submission]
  | .waitingForStartup _ submission => [submission]
  | .replacementQueued _ _ submission => [submission]
  | _ => []

/-- **What is answered when nothing changes.** -/
inductive Keeps (self : DynamicSupervisor Key S Message) :
    DynamicSupervisorEvent Key S Message → DynamicActions Key S Message → Prop
  | startRejected {key submission replyTo reason} :
      Keeps self (.command (.start key submission replyTo))
        { startReplies := [(replyTo, .error ⟨key, submission, reason⟩)] }
  | replaceRejected {key submission replyTo reason} :
      Keeps self (.command (.replace key submission replyTo))
        { replaceReplies := [(replyTo, .error ⟨key, submission, reason⟩)] }
  | stopRejected {key replyTo reason} :
      Keeps self (.command (.stop key replyTo)) { stopReplies := [(replyTo, .error reason)] }
  | queried {key replyTo reply} :
      Keeps self (.command (.query key replyTo)) { queryReplies := [(replyTo, reply)] }
  | cancelAnswered {authority replyTo receipt} (hnot : receipt.accepts = false) :
      Keeps self (.command (.cancel authority replyTo)) { cancelReplies := [(replyTo, receipt)] }
  | outcomeRejected {report} :
      Keeps self (.proxyReported report) { diagnostics := [.rejectedProxyOutcome report] }
  | commandUnavailable {key generation operation creation service sender phase command}
      (hentry : self.services.get? key = some ⟨generation, operation, creation, service⟩) :
      Keeps self (.proxyReported ⟨creation, .unavailable sender phase command⟩)
        { lifecycle := [.commandUnavailable key generation sender phase command] }
  | diagnosed {report} :
      Keeps self (.proxyDiagnosed report) { diagnostics := [.proxyDiagnosticReported report] }
  | stopDiagnosed {stopped} :
      Keeps self (.proxyStopped stopped) { diagnostics := [.rejectedProxyStop stopped] }
  | shuttingDown {deadline} (h : self.availability = .shuttingDown deadline) :
      Keeps self .shutdown {}

/-- **What is answered when an entry moves**, with the operation numbers that are left before and
after. -/
inductive Answers (key : Key) (now later : Sequence) :
    DynamicSupervisorEvent Key S Message → DynamicEntry S Message →
      Option (DynamicEntry S Message) → Replies Key S → Prop
  | replaced {submission replyTo entry after} (hissue : now.issue = some (after.operation, later)) :
      Answers key now later (.command (.replace key submission replyTo)) entry (some after)
        { replace := [(replyTo, .ok ⟨key, ⟨key, after.operation⟩⟩)] }
  | stopped {replyTo entry after}
      (hstopping : after.phase.status = .stopping ∨ after.phase.status = .retiring) :
      Answers key now later (.command (.stop key replyTo)) entry (some after)
        { stop := [(replyTo, .ok key)] }
  | exhausted {replyTo entry after proxy service latest}
      (hentry : entry.phase = .available proxy service latest)
      (hafter : after.phase = .available proxy service .committed) :
      Answers key now later (.command (.stop key replyTo)) entry (some after)
        { stop := [(replyTo, .error (.operationExhausted key))] }
  | returned {replyTo generation operation creation phase after submission}
      (hheld : phase.holds = [submission]) :
      Answers key now later (.command (.cancel ⟨key, operation⟩ replyTo))
        ⟨generation, operation, creation, phase⟩ (some after)
        { cancel := [(replyTo, .returned ⟨key, operation⟩ submission)] }
  | pending {replyTo generation operation creation phase after status} (hheld : phase.holds = []) :
      Answers key now later (.command (.cancel ⟨key, operation⟩ replyTo))
        ⟨generation, operation, creation, phase⟩ (some after)
        { cancel := [(replyTo, .pending ⟨key, operation⟩ status)] }
  | fact {event entry after} (hfact : ∀ command, event ≠ .command command) :
      Answers key now later event entry after {}

/-- Actions that ask for nothing. -/
structure DynamicActions.Quiet (actions : DynamicActions Key S Message) : Prop where
  observations : actions.proxyObservations = []
  operations : actions.proxyOperations = []
  schedules : actions.shutdownSchedules = []
  creations : actions.creations = []

/-- What changes nothing asks for nothing and announces no end. -/
theorem Keeps.quiet {self : DynamicSupervisor Key S Message}
    {event : DynamicSupervisorEvent Key S Message} {actions : DynamicActions Key S Message}
    (h : Keeps self event actions) :
    actions.Quiet ∧ actions.step = .continue' ∧
      ∀ key generation cause, .entryRetired key generation cause ∉ actions.lifecycle := by
  cases h <;> exact ⟨⟨rfl, rfl, rfl, rfl⟩, rfl, by simp⟩

/-- **Everything a transition does to the table**, before the last step is applied. -/
inductive Turn (self : DynamicSupervisor Key S Message) :
    DynamicSupervisorEvent Key S Message → Acted Key S Message → Prop
  | refused {event} (hfact : ∀ command, event ≠ .command command) :
      Turn self event (self, .error event)
  | kept {event actions} (hkeeps : Keeps self event actions) : Turn self event (self, .ok actions)
  | timed {event deadline deadline'} (havailability : self.availability = .shuttingDown deadline)
      (hdeadline : (∃ input, event = .shutdownScheduleSettled input ∧
          deadline.acceptSchedule input = some deadline') ∨
        ∃ elapsed, event = .shutdownElapsed elapsed ∧
          deadline.acceptElapsed elapsed = some deadline') :
      Turn self event ({ self with availability := .shuttingDown deadline' }, .ok {})
  | begun {key submission replyTo generation operation creation generations operations creations
        drain} (haccepting : self.availability = .accepting drain)
      (habsent : self.services.get? key = none)
      (hcapacity : self.services.length < self.entries.maximum)
      (hgeneration : self.generations.issue = some (generation, generations))
      (hoperation : self.operations.issue = some (operation, operations))
      (hcreation : self.creations.issue = some (creation, creations)) :
      Turn self (.command (.start key submission replyTo))
        ({ self.put key ⟨generation, operation, creation, .creatingProxy submission⟩ with
            generations := generations, operations := operations, creations := creations },
          .ok {
            proxyObservations := [creation]
            startReplies := [(replyTo, .ok ⟨key, ⟨key, operation⟩⟩)]
            creations := [⟨creation, Proxy.StableProxy.new, .birth⟩] })
  | moved {event key entry outcome operations self' waiting actions}
      (hentry : self.services.get? key = some entry)
      (haccepting : ∀ command deadline, event = .command command →
        self.availability ≠ .shuttingDown deadline)
      (hstep : Steps key self.heap event entry outcome)
      (hexit : ∀ worker readiness stopped disposition,
        .unexpectedWorkerStopped key entry.generation worker readiness stopped disposition ∈
          outcome.lifecycle → disposition = self.unexpectedExit)
      (hoperation : (operations = self.operations ∧
          ∀ after, outcome.after = some after → after.operation = entry.operation) ∨
        ∃ after, outcome.after = some after ∧
          self.operations.issue = some (after.operation, operations))
      (hauthorizes : Authorizes (self.moved key outcome operations) (self', waiting))
      (hactions : actions.proxyObservations = [] ∧ actions.shutdownSchedules = [] ∧
        actions.creations = [] ∧ actions.step = .continue' ∧
        actions.proxyOperations = outcome.operations ++ waiting ∧
        actions.lifecycle = outcome.lifecycle ∧ actions.diagnostics = outcome.diagnostics)
      (hslots : (self', waiting) = authorizeWaiting (self.moved key outcome operations) ∨
        outcome.Steady entry)
      (hanswers : Answers key self.operations operations event entry outcome.after actions.answers) :
      Turn self event (self', .ok actions)
  | swept {actorDrain} (haccepting : self.availability = .accepting actorDrain) :
      Turn self .shutdown (beginShutdown self)

end Bombay.Directory
