/-
# The facts a dynamic supervisor is told

`crates/actors/src/templates/supervisor/directory/mod.rs`: the settlements of proxy
creations and of proxy inputs, the reports and the stops of proxies, the retirement
of an entry, and `transition`.
-/

import Bombay.Directory.Supervisor

namespace Bombay.Directory

open Proxy (ProxyOutcome InitialWorkerOutcome ReplacementOutcome)
open DynamicSupervisor

variable {Key : Type} [LinearOrder Key] {S : Signature} {Message : Type}

/-! ### Creations -/

variable (self : DynamicSupervisor Key S Message)

/-- The retirement of an entry whose proxy is created after all. -/
def retireCreated (key : Key)
    (entry : DynamicEntry S Message) (proxy : S.Actor) (work : RetiringWork S Message) :
    Acted Key S Message :=
  let (retirement, shutdown) := ProxyRetirement.begin entry.creation proxy work self.heap
  ({ self.put key { entry with phase := .retiring retirement } with heap := self.heap + 1 },
    .ok { proxyOperations := [shutdown] })

/-- The stop of an entry whose proxy is created after all. -/
def stopCreated (key : Key)
    (entry : DynamicEntry S Message) (proxy : S.Actor)
    (lifecycle : List (DynamicLifecycle Key S Message)) : Acted Key S Message :=
  ({ self.put key { entry with
        phase := .stopping proxy none (.awaitingSettlement self.heap) none } with
      heap := self.heap + 1 },
    .ok { proxyOperations := [.shutdown entry.creation self.heap], lifecycle := lifecycle })

/-- The end of an entry whose proxy was not created. -/
def creationRejected (key : Key)
    (entry : DynamicEntry S Message) (creation : StableProxyCreationSettlement S)
    (lifecycle : List (DynamicLifecycle Key S Message)) : Acted Key S Message :=
  (self.drop key,
    .ok {
      lifecycle := lifecycle
      diagnostics := [.proxyCreationRejected key entry.generation creation] })

/-- `accept_creations`. -/
def acceptCreations
    (proxies : CreationsSettled (proxied S)) : Acted Key S Message :=
  match proxies with
  | .settled [settlement] =>
    match self.takeProxyEntry (creationIdentity settlement).1 with
    | none => rejectInput self (.proxyCreationsSettled proxies)
    | some (key, entry) =>
      match entry.phase, resolve settlement with
      | .creatingProxy submission, .committed proxy =>
        let (self, waiting) := authorizeWaiting
          (self.put key { entry with phase := .waitingForStartup proxy submission })
        (self, .ok { proxyOperations := waiting })
      | .creatingProxy submission, .rejected creation =>
        (self.drop key,
          .ok { lifecycle := [.startCreationRejected key entry.generation submission creation] })
      | .shuttingDownProxyCreation, .committed proxy =>
        retireCreated self key entry proxy (.supervisorShutdown none)
      | .shuttingDownProxyCreation, .rejected creation =>
        creationRejected self key entry creation (entryRetired key entry.generation .shutdown)
      | .drainingProxyCreationStop, .committed proxy => stopCreated self key entry proxy []
      | .drainingProxyCreationStop, .rejected creation =>
        creationRejected self key entry creation (entryRetired key entry.generation .stop)
      | .cancellingProxyCreation, .committed proxy =>
        retireCreated self key entry proxy (.cancelledWorkerReturned .start)
      | .cancellingProxyCreation, .rejected creation =>
        creationRejected self key entry creation
          (operationCancelled key entry.generation entry.operation .start .workerReturned)
      | .stoppingProxyCreation startOperation submission, .committed proxy =>
        stopCreated self key entry proxy
          [.workerChangeInterrupted key entry.generation startOperation
            (.explicitStop entry.operation) (.submission submission)]
      | .stoppingProxyCreation startOperation submission, .rejected creation =>
        creationRejected self key entry creation
          ([.workerChangeInterrupted key entry.generation startOperation
              (.explicitStop entry.operation) (.submission submission)] ++
            entryRetired key entry.generation .stop)
      | _, _ => rejectInput self (.proxyCreationsSettled proxies)
  | proxies => rejectInput self (.proxyCreationsSettled proxies)

/-! ### Retirement -/

/-- `close_retirement`: the messages that end the entry, or `none` when it cannot end yet. -/
def closeRetirement (key : Key) (generation operation : ℕ)
    (retirement : ProxyRetirement S Message) : Option (List (DynamicLifecycle Key S Message)) :=
  match retirement.shutdown, retirement.stopped with
  | .awaitingSettlement _, _ => none
  | _, none => none
  | shutdown, some stopped =>
    match retirement.work with
    | .startFailed => some (entryRetired key generation .startFailed)
    | .unexpectedWorkerStopped => some (entryRetired key generation .unexpectedWorkerStopped)
    | .interruptedStart => some (entryRetired key generation .stop)
    | .supervisorShutdown _ => some (entryRetired key generation .shutdown)
    | .cancelledWorkerReturned change =>
      some (operationCancelled key generation operation change .workerReturned)
    | .transferred (.cancellation change) .inputRejected =>
      some (operationCancelled key generation operation change .proxyInputRejected)
    | .transferred (.cancellation change) (.proxyReported outcome) =>
      some (operationCancelled key generation operation change (.proxyReported outcome))
    | .transferred (.cancellation _) _ => none
    | .transferred (.interruptedStart startOperation) input =>
      match input.intoInterruptedWorker with
      | none => none
      | some worker =>
        let interrupted := .workerChangeInterrupted key generation startOperation
          (.explicitStop operation) worker
        match shutdown with
        | .accepted _ =>
          some ([interrupted, .stopFinished key generation operation retirement.proxy (.ok stopped)]
            ++ entryRetired key generation .stop)
        | _ => some ([interrupted] ++ entryRetired key generation .stop)
    | .transferred (.supervisorStart workerOperation) input =>
      input.intoInterruptedWorker.map fun worker =>
        [.workerChangeInterrupted key generation workerOperation (.supervisorShutdown .start)
          worker] ++ entryRetired key generation .shutdown
    | .transferred (.supervisorReplacement workerOperation _) input =>
      input.intoInterruptedWorker.map fun worker =>
        [.workerChangeInterrupted key generation workerOperation (.supervisorShutdown .replacement)
          worker] ++ entryRetired key generation .shutdown

/-- `settle_retirement`. -/
def settleRetirement (key : Key)
    (entry : DynamicEntry S Message) (retirement : ProxyRetirement S Message) :
    DynamicSupervisor Key S Message × List (DynamicLifecycle Key S Message) :=
  match closeRetirement key entry.generation entry.operation retirement with
  | some lifecycle => (self.drop key, lifecycle)
  | none => (self.put key { entry with phase := .retiring retirement }, [])

/-! ### Settlements of proxy inputs -/

/-- `entry_stop_result`: the receipt, or why the shutdown failed. -/
def entryStopResult (stopped : Option (ChildStopped S)) (input : ProxyInputResult S) :
    Except (EntryStopFailure S) (ProxyInputReceipt S) :=
  match input with
  | .attempted (.accepted receipt) => .ok receipt
  | .attempted (.rejected _ reason) => .error ⟨.controlRejected reason, stopped⟩
  | .attempted (.corrupt _ fault) => .error ⟨.interpreterCorrupt fault, stopped⟩
  | .unattempted _ => .error ⟨.interpretationSkipped, stopped⟩

/-- `accept_start_input`. -/
def acceptStartInput (key : Key)
    (entry : DynamicEntry S Message) (proxy : S.Actor) (witness : ℕ)
    (input : ProxyInputResult S) : Acted Key S Message :=
  if admits witness input then
    match input with
    | .attempted (.accepted receipt) =>
      (self.put key { entry with phase := .waitingForProxyOutcome receipt.proxy receipt.operation },
        .ok {})
    | input =>
      let (retirement, shutdown) :=
        ProxyRetirement.begin entry.creation proxy .startFailed self.heap
      let (self, waiting) := authorizeWaiting
        { self.put key { entry with phase := .retiring retirement } with heap := self.heap + 1 }
      (self, .ok {
        proxyOperations := shutdown :: waiting
        lifecycle := [.startInputRejected key entry.generation]
        diagnostics := [.proxyInputRejected key entry.generation input] })
  else rejectInput self (.proxyInputSettled input)

/-- `accept_replacement_input`. -/
def acceptReplacementInput (key : Key)
    (entry : DynamicEntry S Message) (proxy : S.Actor) (service : ServiceAvailability S)
    (witness : ℕ) (input : ProxyInputResult S) : Acted Key S Message :=
  if admits witness input then
    match input with
    | .attempted (.accepted receipt) =>
      (self.put key { entry with
          phase := .replacementAwaitingOutcome receipt.proxy service receipt.operation },
        .ok {})
    | input =>
      let (self, waiting) := authorizeWaiting
        (self.put key { entry with phase := .available proxy service .committed })
      (self, .ok {
        proxyOperations := waiting
        lifecycle := [.replacementInputRejected key entry.generation entry.operation]
        diagnostics := [.proxyInputRejected key entry.generation input] })
  else rejectInput self (.proxyInputSettled input)

/-- `accept_stopping_input`. -/
def acceptStoppingInput (key : Key)
    (entry : DynamicEntry S Message) (proxy : S.Actor)
    (restorable : Option (ServiceAvailability S)) (witness : ℕ)
    (stopped : Option (ChildStopped S)) (input : ProxyInputResult S) : Acted Key S Message :=
  if admits witness input then
    match entryStopResult stopped input with
    | .ok receipt =>
      match stopped with
      | some stopped =>
        (self.drop key,
          .ok {
            lifecycle :=
              [.stopFinished key entry.generation entry.operation receipt.proxy (.ok stopped)] ++
                entryRetired key entry.generation .stop })
      | none =>
        (self.put key { entry with
            phase := .stopping receipt.proxy restorable (.accepted receipt.operation) none },
          .ok {})
    | .error failure =>
      let diagnostics := [.proxyShutdownRejected key entry.generation input]
      let finished := .stopFinished key entry.generation entry.operation proxy (.error failure)
      match failure.stopped, restorable with
      | none, some service =>
        (self.put key { entry with phase := .available proxy service .committed },
          .ok { lifecycle := [finished], diagnostics := diagnostics })
      | none, none =>
        (self.put key { entry with phase := .retiring ⟨proxy, .rejected, .interruptedStart, none⟩ },
          .ok { lifecycle := [finished], diagnostics := diagnostics })
      | some _, _ =>
        (self.drop key,
          .ok {
            lifecycle := [finished] ++ entryRetired key entry.generation .stop
            diagnostics := diagnostics })
  else rejectInput self (.proxyInputSettled input)

/-- The end of `accept_retiring_input`. -/
def continueRetirement (key : Key)
    (entry : DynamicEntry S Message) (retirement : ProxyRetirement S Message)
    (lifecycle : List (DynamicLifecycle Key S Message))
    (diagnostics : List (DynamicDiagnostic Key S Message)) : Acted Key S Message :=
  let (self, settled) := settleRetirement self key entry retirement
  let (self, waiting) := authorizeWaiting self
  (self, .ok {
    proxyOperations := waiting
    lifecycle := lifecycle ++ settled
    diagnostics := diagnostics })

/-- The part of `accept_retiring_input` that is about the worker input. -/
def acceptRetiringWork (key : Key)
    (entry : DynamicEntry S Message) (retirement : ProxyRetirement S Message)
    (input : ProxyInputResult S) : Acted Key S Message :=
  match retirement.work.settleInput input with
  | none => rejectInput self (.proxyInputSettled input)
  | some (work, rejected) =>
    continueRetirement self key entry { retirement with work := work } []
      (rejected.toList.map (DynamicDiagnostic.proxyInputRejected key entry.generation))

/-- `accept_retiring_input`. -/
def acceptRetiringInput (key : Key)
    (entry : DynamicEntry S Message) (retirement : ProxyRetirement S Message)
    (input : ProxyInputResult S) : Acted Key S Message :=
  match retirement.shutdown with
  | .awaitingSettlement witness =>
    if admits witness input then
      match entryStopResult retirement.stopped input with
      | .ok receipt =>
        continueRetirement self key entry
          { retirement with proxy := receipt.proxy, shutdown := .accepted receipt.operation } [] []
      | .error failure =>
        let diagnostics := [.proxyShutdownRejected key entry.generation input]
        match retirement.work with
        | .transferred (.interruptedStart _) _ =>
          continueRetirement self key entry { retirement with shutdown := .rejected }
            [.stopFinished key entry.generation entry.operation retirement.proxy (.error failure)]
            diagnostics
        | _ =>
          continueRetirement self key entry { retirement with shutdown := .rejected } [] diagnostics
    else acceptRetiringWork self key entry retirement input
  | _ => acceptRetiringWork self key entry retirement input

/-- `accept_proxy_input`. -/
def acceptProxyInput (input : ProxyInputResult S) :
    Acted Key S Message :=
  match self.takeProxyEntry (proxyInputCreation input) with
  | none => rejectInput self (.proxyInputSettled input)
  | some (key, entry) =>
    match entry.phase with
    | .waitingForProxyInput proxy witness => acceptStartInput self key entry proxy witness input
    | .replacementAwaitingReceipt proxy service witness =>
      acceptReplacementInput self key entry proxy service witness input
    | .stopping proxy restorable (.awaitingSettlement witness) stopped =>
      acceptStoppingInput self key entry proxy restorable witness stopped input
    | .retiring retirement => acceptRetiringInput self key entry retirement input
    | _ => rejectInput self (.proxyInputSettled input)

/-! ### Stops and reports of proxies -/

/-- A stop that no entry waits for. -/
def rejectProxyStop (stopped : ChildStopped S) :
    Acted Key S Message :=
  (self, .ok { diagnostics := [.rejectedProxyStop stopped] })

/-- `accept_proxy_stop`. -/
def acceptProxyStop (stopped : ChildStopped S) :
    Acted Key S Message :=
  match self.takeProxyEntry stopped.child with
  | none => rejectProxyStop self stopped
  | some (key, entry) =>
    match entry.phase with
    | .stopping proxy restorable (.awaitingSettlement witness) none =>
      (self.put key { entry with
          phase := .stopping proxy restorable (.awaitingSettlement witness) (some stopped) },
        .ok {})
    | .stopping proxy _ (.accepted _) none =>
      (self.drop key,
        .ok {
          lifecycle :=
            [.stopFinished key entry.generation entry.operation proxy (.ok stopped)] ++
              entryRetired key entry.generation .stop })
    | .retiring ⟨proxy, shutdown, work, none⟩ =>
      let (self, lifecycle) :=
        settleRetirement self key entry ⟨proxy, shutdown, work, some stopped⟩
      (self, .ok { lifecycle := lifecycle })
    | _ => rejectProxyStop self stopped

/-- A report that does not fit its entry (`replacement_rejected`). -/
def rejectProxyOutcome
    (report : ChildReport (ProxyOutcome S Message)) : Acted Key S Message :=
  (self, .ok { diagnostics := [.rejectedProxyOutcome report] })

/-- The worker of a service, present or past. -/
def ServiceAvailability.worker : ServiceAvailability S → WorkerAttempt
  | .ready worker _ => worker
  | .empty previous => previous

/-- The attempt an outcome says it replaces. -/
def replacedAttempt : ReplacementOutcome S → Option WorkerAttempt
  | .workerAttemptsExhausted replaces _ _ => some replaces
  | .cancelledBeforeBirth replaces _ _ => some replaces
  | .resolved replaces _ => some replaces
  | .notReplaceable _ _ _ => none

/-- What a replacement outcome makes of a service: the new service and why the replacement failed,
if it did; `none` for a cancellation before birth, which was not asked for. -/
def replacementResult (service : ServiceAvailability S) :
    ReplacementOutcome S → Option (ServiceAvailability S × Option (ReplacementFailure S))
  | .resolved _ (.ready attempt readiness) => some (.ready attempt readiness, none)
  | .notReplaceable worker startup phase =>
    some (service, some (.proxyRefused worker startup phase))
  | .workerAttemptsExhausted _ worker startup =>
    some (service, some (.workerAttemptsExhausted worker startup))
  | .resolved replaces (.creationRejected rejection startup stopped) =>
    some (.empty replaces, some (.workerCreationRejected rejection startup stopped))
  | .resolved _ (.unavailable attempt drain) =>
    some (.empty attempt, some (.workerUnavailable drain))
  | .cancelledBeforeBirth _ _ _ => none

/-- A replacement outcome that reaches an entry which waits for it. -/
def acceptReplacementOutcome (key : Key)
    (entry : DynamicEntry S Message) (proxy : S.Actor) (service : ServiceAvailability S)
    (outcome : ReplacementOutcome S) : Acted Key S Message :=
  let report := ⟨entry.creation, .replacement outcome⟩
  if (replacedAttempt outcome).any (· ≠ service.worker) then rejectProxyOutcome self report
  else
    match replacementResult service outcome with
    | none => rejectProxyOutcome self report
    | some (service, failure) =>
      let lifecycle :=
        match failure with
        | none => .replaced key entry.generation entry.operation proxy
        | some failure => .replacementFailed key entry.generation entry.operation failure
      let (self, waiting) := authorizeWaiting
        (self.put key { entry with phase := .available proxy service .committed })
      (self, .ok { proxyOperations := waiting, lifecycle := [lifecycle] })

/-- The outcome is of the kind of operation that was given away. -/
def ProxyInputPurpose.expects (purpose : ProxyInputPurpose S) : ProxyOutcome S Message → Bool
  | .initial _ =>
    match purpose with
    | .cancellation .start => true
    | .interruptedStart _ => true
    | .supervisorStart _ => true
    | _ => false
  | .replacement _ =>
    match purpose with
    | .cancellation .replacement => true
    | .supervisorReplacement _ _ => true
    | _ => false
  | _ => false

/-- `accept_proxy_report`. -/
def acceptProxyReport
    (report : ChildReport (ProxyOutcome S Message)) : Acted Key S Message :=
  match self.takeProxyEntry report.child with
  | none => rejectProxyOutcome self report
  | some (key, entry) =>
    match entry.phase, report.report with
    | .waitingForProxyOutcome proxy _, .initial (.resolved (.ready attempt readiness)) =>
      let (self, waiting) := authorizeWaiting
        (self.put key { entry with
          phase := .available proxy (.ready attempt readiness) .committed })
      (self, .ok {
        proxyOperations := waiting
        lifecycle := [.started key entry.generation entry.operation proxy] })
    | .waitingForProxyOutcome proxy _, .initial outcome =>
      let (retirement, shutdown) :=
        ProxyRetirement.begin entry.creation proxy .startFailed self.heap
      let (self, waiting) := authorizeWaiting
        { self.put key { entry with phase := .retiring retirement } with heap := self.heap + 1 }
      (self, .ok {
        proxyOperations := shutdown :: waiting
        lifecycle := [.startOutcomeRejected key entry.generation entry.operation outcome] })
    | .replacementAwaitingOutcome proxy service _, .replacement outcome =>
      acceptReplacementOutcome self key entry proxy service outcome
    | .retiring ⟨proxy, shutdown, .transferred purpose (.awaitingOutcome _), stopped⟩,
        .initial outcome =>
      if purpose.expects (.initial outcome : ProxyOutcome S Message) then
        continueRetirement self key entry
          ⟨proxy, shutdown, .transferred purpose (.proxyReported (.initial outcome)), stopped⟩ [] []
      else rejectProxyOutcome self report
    | .retiring ⟨proxy, shutdown, .transferred purpose (.awaitingOutcome _), stopped⟩,
        .replacement outcome =>
      if purpose.expects (.replacement outcome : ProxyOutcome S Message) then
        continueRetirement self key entry
          ⟨proxy, shutdown, .transferred purpose (.proxyReported (.replacement outcome)), stopped⟩
          [] []
      else rejectProxyOutcome self report
    | _, .unavailable sender proxyPhase command =>
      (self, .ok { lifecycle := [.commandUnavailable key entry.generation sender proxyPhase command] })
    | .available proxy (.ready worker readiness) latest, .workerStopped stoppedWorker stopped =>
      if worker = stoppedWorker then
        let lifecycle := [.unexpectedWorkerStopped key entry.generation stoppedWorker readiness
          stopped self.unexpectedExit]
        match self.unexpectedExit with
        | .keepEmpty =>
          (self.put key { entry with phase := .available proxy (.empty worker) latest },
            .ok { lifecycle := lifecycle })
        | .retire =>
          let (retirement, shutdown) :=
            ProxyRetirement.begin entry.creation proxy .unexpectedWorkerStopped self.heap
          ({ self.put key { entry with phase := .retiring retirement } with heap := self.heap + 1 },
            .ok { proxyOperations := [shutdown], lifecycle := lifecycle })
      else rejectProxyOutcome self report
    | _, _ => rejectProxyOutcome self report

/-! ### The transition -/

/-- `DynamicSupervisor::transition`. -/
def DynamicSupervisor.transition
    (event : DynamicSupervisorEvent Key S Message) : Acted Key S Message :=
  applyShutdownStep <|
    match event with
    | .command message => command self message
    | .proxyCreationsSettled proxies => acceptCreations self proxies
    | .proxyInputSettled input => acceptProxyInput self input
    | .proxyReported report => acceptProxyReport self report
    | .proxyDiagnosed report => (self, .ok { diagnostics := [.proxyDiagnosticReported report] })
    | .proxyStopped stopped => acceptProxyStop self stopped
    | .shutdown => beginShutdown self
    | .shutdownScheduleSettled input =>
      match self.availability with
      | .shuttingDown deadline =>
        match deadline.acceptSchedule input with
        | some deadline => ({ self with availability := .shuttingDown deadline }, .ok {})
        | none => (self, .error (.shutdownScheduleSettled input))
      | .accepting _ => (self, .error (.shutdownScheduleSettled input))
    | .shutdownElapsed elapsed =>
      match self.availability with
      | .shuttingDown deadline =>
        match deadline.acceptElapsed elapsed with
        | some deadline => ({ self with availability := .shuttingDown deadline }, .ok {})
        | none => (self, .error (.shutdownElapsed elapsed))
      | .accepting _ => (self, .error (.shutdownElapsed elapsed))

/-! ### Runs -/

section

variable (Key S Message)

/-- One transition of a run. -/
structure Entry where
  before : DynamicSupervisor Key S Message
  event : DynamicSupervisorEvent Key S Message
  result : Except (DynamicSupervisorEvent Key S Message) (DynamicActions Key S Message)
  after : DynamicSupervisor Key S Message

/-- A run: the transitions so far, and the supervisor they lead to. -/
structure Journal where
  supervisor : DynamicSupervisor Key S Message
  entries : List (Entry Key S Message)

end

/-- The transition of an event, as an entry. -/
def DynamicSupervisor.entry
    (event : DynamicSupervisorEvent Key S Message) : Entry Key S Message :=
  ⟨self, event, (self.transition event).2, (self.transition event).1⟩

/-- The actions of a transition; an input that is handed back has none. -/
def Entry.actions (entry : Entry Key S Message) : DynamicActions Key S Message :=
  match entry.result with
  | .ok actions => actions
  | .error _ => {}

def Journal.step (journal : Journal Key S Message)
    (event : DynamicSupervisorEvent Key S Message) : Journal Key S Message :=
  ⟨(journal.supervisor.transition event).1, journal.entries ++ [journal.supervisor.entry event]⟩

/-- The run of a sequence of events. -/
def run (config : Config) (events : List (DynamicSupervisorEvent Key S Message)) :
    Journal Key S Message :=
  events.foldl Journal.step ⟨.new config, []⟩

theorem run_snoc (config : Config) (events : List (DynamicSupervisorEvent Key S Message))
    (event : DynamicSupervisorEvent Key S Message) :
    run config (events ++ [event]) = (run config events).step event := by
  rw [run, List.foldl_append]
  rfl

end Bombay.Directory
