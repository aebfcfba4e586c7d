/-
# The transitions of a fixed supervisor

`crates/actors/src/templates/supervisor/roster/mod.rs` with `config.rs`: one handler for each
input, from the roster and the recovery to their successors and the requests they make.

An input that its phase does not take is handed back unchanged and reported, after which
the supervisor goes on or stops, as its diagnostics are disposed of.
-/

import Bombay.Fixed.Admission

namespace Bombay.Fixed

open Proxy (ProxyOutcome ProxyPhase StableProxy)
open Directory (proxied ProxyOperation ProxyInputResult ChildReport)

section

variable (S : Signature) (Message : Type)

/-- `FixedRoster`. -/
inductive FixedRoster where
  | new' (members : List (PreparedWorker S))
  | operating (owners : List (RosterOwner S Message))
  | shuttingDown (shutdown : FixedShutdown S Message)
  | terminating (owners : List (RosterOwner S Message)) (prepared : List (WorkerSubmission S))
  | stopped

/-- `FixedSupervisor`; `lifecycle` says whether a lifecycle route was given, and `heap` is the
next free token. -/
structure FixedSupervisor where
  roster : FixedRoster S Message
  creations : Sequence
  startup : StartupLimit
  recovery : SupervisorRecovery S
  failureReaction : FailureReaction
  actorDrain : ActorDrainPolicy
  diagnostics : DiagnosticDisposition
  lifecycle : Bool
  heap : ℕ

/-- `Config`, with the choice of a lifecycle route. -/
structure Config where
  startup : StartupLimit
  recovery : Recovery S.Source
  failure : FailureReaction
  shutdown : ActorDrainPolicy
  diagnostics : DiagnosticDisposition
  lifecycle : Bool

/-- `BehaviorActed<FixedSupervisor>`. -/
abbrev Acted := FixedSupervisor S Message × Except (FixedSupervisorError S Message)
  (FixedActions S Message)

end

variable {S : Signature} {Message : Type}

namespace FixedSupervisor

/-- `FixedBuilder::build`, with the workers that were prepared. -/
def build (config : Config S) (prepared : List (PreparedWorker S)) : FixedSupervisor S Message where
  roster := .new' prepared
  creations := ⟨some 1⟩
  startup := config.startup
  recovery := .ofRecovery config.recovery
  failureReaction := config.failure
  actorDrain := config.shutdown
  diagnostics := config.diagnostics
  lifecycle := config.lifecycle
  heap := 0

/-- The next supervisor of a transition that keeps the roster in operation. -/
def operate (self : FixedSupervisor S Message) (owners : List (RosterOwner S Message)) :
    FixedSupervisor S Message :=
  { self with roster := .operating owners }

/-- The step that follows a diagnostic. -/
def disposed (self : FixedSupervisor S Message) : Step :=
  match self.diagnostics with
  | .deliverTo => .continue'
  | .terminate => .stop

/-- A lifecycle message, when a route was given. -/
def tell (self : FixedSupervisor S Message) (messages : List (FixedLifecycle S Message)) :
    List (FixedLifecycle S Message) :=
  if self.lifecycle then messages else []

end FixedSupervisor

open FixedSupervisor

variable (self : FixedSupervisor S Message)

/-- `Err(FixedSupervisorError::InputRejected)`. -/
def rejectInput (input : FixedSupervisorEvent S Message) :
    Acted S Message :=
  (self, .error (.inputRejected input))

/-! ### Authorization -/

/-- `authorize_roster` and the end of its callers: the inputs that free slots were given to, with
what else the caller asks for. -/
def authorizeRoster (owners : List (RosterOwner S Message))
    (actions : FixedActions S Message) : Acted S Message :=
  match FixedRoster.authorize self.startup.maximum self.heap owners with
  | (owners, .ok (operations, heap)) =>
    ({ self.operate owners with heap := heap }, .ok { actions with proxyOperations := operations })
  | (owners, .error occupied) =>
    (self.operate owners, .error (.authorizationStateRejected occupied self.startup.maximum))

/-- `authorize_waiting`. -/
def authorizeWaiting
    (owners : List (RosterOwner S Message)) : Acted S Message :=
  authorizeRoster self owners {}

/-- `member_retired`, for a role that did. -/
def memberRetired (self : FixedSupervisor S Message) (owners : List (RosterOwner S Message))
    (retired : Option S.Role) : Acted S Message :=
  match retired with
  | some role => authorizeRoster self owners { lifecycle := self.tell [.memberRetired role] }
  | none => authorizeWaiting self owners

/-! ### Shutdown -/

/-- `retain_shutdown`. -/
def retainShutdown (shutdown : FixedShutdown S Message)
    (operations : List (ProxyOperation S)) : Acted S Message :=
  ({ self with roster := .shuttingDown shutdown },
    .ok { proxyOperations := operations, step := shutdown.step self.recovery.sourceIsOut })

/-- What a shutdown makes of an input, or the input handed back. -/
def continueShutdown (input : FixedSupervisorEvent S Message)
    (shutdown : Option (FixedShutdown S Message)) : Acted S Message :=
  match shutdown with
  | some shutdown => retainShutdown self shutdown []
  | none => rejectInput self input

/-- `accept_command` for `FixedCommand::Shutdown`, with `FixedRoster::begin_shutdown`. -/
def acceptShutdown : Acted S Message :=
  match self.roster with
  | .operating owners =>
    let (shutdown, operations, schedule, heap) :=
      FixedShutdown.begin owners self.actorDrain self.heap
    let (self, result) :=
      retainShutdown { self with heap := heap } shutdown (operations.map Prod.snd)
    (self, result.map fun actions => { actions with restartSchedules := schedule.toList })
  | .shuttingDown shutdown => retainShutdown self shutdown []
  | _ => rejectInput self (.command .shutdown)

/-- The shutdown of the whole supervisor that a failed member brings about. -/
def stopSupervisor
    (begun : FixedShutdown S Message × List (ℕ × ProxyOperation S) × Option ScheduleAfter × ℕ)
    (lifecycle : List (FixedLifecycle S Message)) (diagnostic : FixedDiagnostic S Message) :
    Acted S Message :=
  let (shutdown, operations, schedule, heap) := begun
  ({ self with roster := .shuttingDown shutdown, heap := heap },
    .ok {
      proxyOperations := operations.map Prod.snd
      restartSchedules := schedule.toList
      lifecycle := lifecycle
      diagnostics := [diagnostic] })

/-! ### Births -/

/-- `accept_proxy_birth`. -/
def acceptProxyBirth
    (proxies : CreationsSettled (proxied S)) : Acted S Message :=
  match self.roster with
  | .shuttingDown shutdown =>
    match shutdown.acceptBirths proxies self.heap with
    | some (shutdown, operations, heap) =>
      retainShutdown { self with heap := heap } shutdown operations
    | none => rejectInput self (.proxyCreationsSettled proxies)
  | .operating owners =>
    match proxies with
    | .settled settlements =>
      match FixedRoster.proxiesCreated owners settlements with
      | some owners => authorizeWaiting self owners
      | none => rejectInput self (.proxyCreationsSettled proxies)
    | proxies => (self, .error (.proxyCreationRejected proxies))
  | _ => rejectInput self (.proxyCreationsSettled proxies)

/-! ### Failed members -/

/-- `apply_replacement_failure`. -/
def applyReplacementFailure
    (owners : List (RosterOwner S Message)) (previous : OnlineMember S)
    (stopped : Option (ChildStopped S)) (recovery : ℕ) (diagnostic : FixedDiagnostic S Message) :
    Acted S Message :=
  let (member, operation, lifecycle) : UnrecoveredMember S Message × ProxyOperation S ×
      List (FixedLifecycle S Message) :=
    match stopped, self.lifecycle with
    | some stopped, true =>
      let (member, operation) := UnrecoveredMember.beginAfterWorkerStopTransfer previous self.heap
      (member, operation, [.workerStoppedAfterAdmission previous.role.name stopped recovery])
    | stopped, _ =>
      let (member, operation) :=
        UnrecoveredMember.beginReplacementFailure previous stopped self.heap
      (member, operation, [])
  let owners := owners ++ [.unrecovered member]
  let heap := self.heap + 1
  match self.diagnostics, self.failureReaction with
  | .terminate, _ =>
    ({ self with roster := .terminating owners [], heap := heap },
      .ok {
        proxyOperations := [operation]
        lifecycle := lifecycle
        diagnostics := [diagnostic]
        step := .stop })
  | .deliverTo, .retireMember =>
    ({ self.operate owners with heap := heap },
      .ok { proxyOperations := [operation], lifecycle := lifecycle, diagnostics := [diagnostic] })
  | .deliverTo, .stopSupervisor =>
    let (shutdown, operations, schedule, heap) := FixedShutdown.begin owners self.actorDrain heap
    stopSupervisor self
      (shutdown,
        FixedShutdown.ordered (operations ++ [(previous.role.position, operation)]), schedule,
        heap)
      lifecycle diagnostic

/-- `accept_replacement_completion`. -/
def acceptReplacementCompletion
    (owners : List (RosterOwner S Message)) (completed : ReplacementCompletion S) :
    Acted S Message :=
  match completed with
  | .restarted role creation proxy _ stopped worker readiness recovery =>
    authorizeRoster self (owners ++ [.online ⟨role, creation, proxy, worker, readiness⟩])
      { lifecycle := self.tell [.workerStoppedAfterAdmission role.name stopped recovery,
          .restarted role.name proxy recovery] }
  | .inputRejected role creation proxy previous previousReadiness stopped operation reason
      recovery =>
    applyReplacementFailure self owners ⟨role, creation, proxy, previous, previousReadiness⟩
      stopped recovery (.proxyInputRejected role.name operation reason)
  | .proxyFailed role creation proxy previous previousReadiness stopped outcome recovery =>
    applyReplacementFailure self owners ⟨role, creation, proxy, previous, previousReadiness⟩
      (some stopped) recovery (.proxyOutcomeFailed role.name (.replacement outcome))

/-- What a recovery makes of an input: it goes on, or one of its replacements is complete. -/
def continueRecovery
    (progress : ControlFlow (List (RosterOwner S Message) × ReplacementCompletion S)
      (List (RosterOwner S Message))) : Acted S Message :=
  match progress with
  | .resume owners => authorizeWaiting self owners
  | .stop (owners, completed) => acceptReplacementCompletion self owners completed

/-- `apply_recovery_failure`. -/
def applyRecoveryFailure (failed : RecoveryFailure S Message)
    (diagnostic : FixedDiagnostic S Message) : Acted S Message :=
  match self.diagnostics, self.failureReaction with
  | .terminate, _ =>
    let (owners, prepared) := failed.intoTerminalOwnership
    ({ self with roster := .terminating owners prepared },
      .ok { diagnostics := [diagnostic], step := .stop })
  | .deliverTo, .retireMember =>
    let (owners, operation) := failed.retireMember self.heap
    ({ self.operate owners with heap := self.heap + 1 },
      .ok { proxyOperations := [operation], diagnostics := [diagnostic] })
  | .deliverTo, .stopSupervisor =>
    stopSupervisor self
      (FixedShutdown.beginWithUnissuedReplacements failed.owners failed.replacements
        self.actorDrain self.heap) [] diagnostic

/-- `apply_failed_preparation`: the source is available again. -/
def applyFailedPreparation (awaiting : AutomaticRecovery S)
    (failed : FailedPreparation S Message) : Acted S Message :=
  let self := { self with
    recovery := .automatic { awaiting with source := .available failed.source } }
  let diagnostic := .workerPreparationFailed failed.diagnostic
  match self.diagnostics, self.failureReaction with
  | .terminate, _ =>
    ({ self with roster := .terminating failed.intoOwners [] },
      .ok { diagnostics := [diagnostic], step := .stop })
  | .deliverTo, .retireMember =>
    let (member, operation) := UnrecoveredMember.begin failed.member self.heap
    ({ self.operate (failed.owners ++ [.unrecovered member]) with heap := self.heap + 1 },
      .ok { proxyOperations := [operation], diagnostics := [diagnostic] })
  | .deliverTo, .stopSupervisor =>
    stopSupervisor self (FixedShutdown.begin failed.intoOwners self.actorDrain self.heap) []
      diagnostic

/-! ### Settlements of proxy operations -/

/-- `accept_proxy_operation`. -/
def acceptProxyOperation (settlement : ProxyInputResult S) :
    Acted S Message :=
  match self.roster with
  | .shuttingDown shutdown =>
    continueShutdown self (.proxyInputSettled settlement) (shutdown.acceptOperation settlement)
  | .operating owners =>
    match FixedRoster.acceptReplacementOperation settlement owners with
    | some progress => continueRecovery self progress
    | none =>
      match FixedRoster.acceptOperation settlement owners with
      | some (owners, retired) => memberRetired self owners retired
      | none => rejectInput self (.proxyInputSettled settlement)
  | _ => rejectInput self (.proxyInputSettled settlement)

/-! ### Reports of proxies -/

/-- `FixedRoster::live_proxy_role`. -/
def FixedRoster.liveProxyRole (child : ℕ) : FixedRoster S Message → Option S.Role
  | .operating owners => owners.findSome? (RosterOwner.liveProxyRole child)
  | .shuttingDown shutdown =>
    shutdown.members.findSome? (FixedShutdownMember.liveProxyRole child)
  | _ => none

/-- `accept_unavailable`. -/
def acceptUnavailable (child : ℕ) (sender : S.Address)
    (phase : ProxyPhase) (command : Message) : Acted S Message :=
  match self.roster.liveProxyRole child with
  | none => rejectInput self (.proxyReported ⟨child, .unavailable sender phase command⟩)
  | some role =>
    if self.lifecycle then
      (self, .ok { lifecycle := [.unavailable role sender phase command] })
    else
      (self, .ok {
        diagnostics := [.workerUnavailable role sender phase command]
        step := self.disposed })

/-- `accept_worker_stop`: what the recovery chooses for a stop that the roster took. -/
def acceptWorkerStop (owners : List (RosterOwner S Message))
    (member : StoppedMember S) : Acted S Message :=
  let rejected : FixedSupervisorEvent S Message :=
    .proxyReported ⟨member.creation, .workerStopped member.worker member.stopped⟩
  match self.recovery.choose (stopKind member.stopped.outcome) with
  | .leaveEmpty =>
    let (empty, stopped) := member.intoEmpty
    (self.operate (owners ++ [.empty empty]),
      .ok { lifecycle := self.tell [.workerStoppedIneligible empty.role.name stopped] })
  | .sourceUnavailable =>
    rejectInput (self.operate (owners ++ [.online member.restore])) rejected
  | .prepare recovery source =>
    let strategy := recovery.settings.strategy
    let trigger := member.role.position
    match FixedRoster.selectPeers strategy trigger owners with
    | some (owners, beforeTrigger, afterTrigger) =>
      let (recovery, selected, request) :=
        PreparingRecovery.begin recovery source beforeTrigger member afterTrigger self.heap
      ({ self.operate (owners ++ [.recovery (.preparing selected)]) with
          recovery := .automatic recovery
          heap := self.heap + 1 },
        .ok { workerPreparations := [request] })
    | none =>
      rejectInput
        (self.operate (FixedRoster.deselected strategy trigger owners ++ [.online member.restore]))
        rejected

/-- `accept_initial_failure`, with `begin_stop_after_initial_failure`: the owners before and after
the member whose initial outcome failed. -/
def acceptInitialFailure
    (before after : List (RosterOwner S Message)) (role : MemberRole S) (creation : ℕ)
    (proxy : S.Actor) (operation : ℕ) (outcome : ProxyOutcome S Message) : Acted S Message :=
  let owners := before ++ .starting (.awaitingProxyOutcome role creation proxy operation) :: after
  let diagnostic := .proxyOutcomeFailed role.name outcome
  match self.diagnostics, self.failureReaction with
  | .terminate, _ =>
    ({ self with roster := .terminating owners [] },
      .ok { diagnostics := [diagnostic], step := .stop })
  | .deliverTo, .retireMember =>
    let (stopping, shutdown) := ProxyStoppingMember.begin role creation proxy self.heap
    ({ self.operate (before ++ .stopping stopping :: after) with heap := self.heap + 1 },
      .ok { proxyOperations := [shutdown], diagnostics := [diagnostic] })
  | .deliverTo, .stopSupervisor =>
    let (shutdown, operations, schedule, heap) :=
      FixedShutdown.begin owners self.actorDrain self.heap
    let (self, result) :=
      retainShutdown { self with heap := heap } shutdown (operations.map Prod.snd)
    (self, result.map fun actions =>
      { actions with restartSchedules := schedule.toList, diagnostics := [diagnostic] })

/-- The owner that awaits the initial outcome of a proxy, in its parts. -/
def RosterOwner.initialOutcome (child : ℕ) :
    RosterOwner S Message → Option (MemberRole S × ℕ × S.Actor × ℕ)
  | .starting (.awaitingProxyOutcome role creation proxy operation) =>
    if creation = child then some (role, creation, proxy, operation) else none
  | _ => none

/-- `accept_initial_outcome` and what follows it. -/
def acceptInitialOutcome
    (owners : List (RosterOwner S Message)) (report : ChildReport (ProxyOutcome S Message)) :
    Acted S Message :=
  match Search.first (RosterOwner.initialOutcome report.child) owners with
  | none => rejectInput self (.proxyReported report)
  | some (before, (role, creation, proxy, operation), after) =>
    match report.report with
    | .initial (.resolved (.ready attempt readiness)) =>
      authorizeRoster self
        (before ++ after ++ [.online ⟨role, creation, proxy, attempt, readiness⟩])
        { lifecycle := self.tell [.started role.name proxy] }
    | .initial outcome =>
      acceptInitialFailure self before after role creation proxy operation (.initial outcome)
    | _ => rejectInput self (.proxyReported report)

/-- `accept_proxy_report`. -/
def acceptProxyReport
    (report : ChildReport (ProxyOutcome S Message)) : Acted S Message :=
  match report with
  | ⟨child, .unavailable sender phase command⟩ => acceptUnavailable self child sender phase command
  | report =>
    match self.roster with
    | .shuttingDown shutdown =>
      continueShutdown self (.proxyReported report) (shutdown.acceptOutcome report)
    | .operating owners =>
      match FixedRoster.acceptRecoveryReport report owners with
      | some progress => continueRecovery self progress
      | none =>
        match report.report with
        | .workerStopped worker stopped =>
          match FixedRoster.acceptWorkerStop report.child worker stopped owners with
          | some (owners, member) => acceptWorkerStop self owners member
          | none => rejectInput self (.proxyReported report)
        | _ => acceptInitialOutcome self owners report
    | _ => rejectInput self (.proxyReported report)

/-! ### Stops of proxies -/

/-- `accept_proxy_exit`. -/
def acceptProxyExit (stopped : ChildStopped S) :
    Acted S Message :=
  match self.roster with
  | .shuttingDown shutdown =>
    continueShutdown self (.proxyStopped stopped) (shutdown.acceptStop stopped)
  | .operating owners =>
    match FixedRoster.acceptProxyStop stopped owners with
    | some (owners, retired) => memberRetired self owners retired
    | none => rejectInput self (.proxyStopped stopped)
  | _ => rejectInput self (.proxyStopped stopped)

/-! ### Preparation -/

/-- `accept_worker_preparation_start`, for a roster in operation. -/
def acceptPreparationStart (awaiting : AutomaticRecovery S)
    (owners : List (RosterOwner S Message)) (input : PreparationStarted S) : Acted S Message :=
  match FixedRoster.expecting (·.acceptsIssued input) owners with
  | none => rejectInput self (.workerPreparationStarted input)
  | some (before, recovery, after) =>
    match input with
    | .attempted (.accepted started) =>
      match recovery.expected.acceptStart started with
      | some expected =>
        (self.operate
          (before ++ .recovery (.preparing { recovery with expected := expected }) :: after),
          .ok {})
      | none => rejectInput self (.workerPreparationStarted input)
    | .attempted (.corrupt item fault) =>
      applyFailedPreparation self awaiting (recovery.fail (before ++ after) item.source
        (.interpreterFault fault (selectedRoles item.first item.remaining)))
    | .unattempted item =>
      applyFailedPreparation self awaiting (recovery.fail (before ++ after) item.source
        (.unattempted (selectedRoles item.first item.remaining)))

/-- `accept_worker_preparation_start`. -/
def acceptWorkerPreparationStart
    (input : PreparationStarted S) : Acted S Message :=
  match self.recovery.expectSource with
  | none => rejectInput self (.workerPreparationStarted input)
  | some awaiting =>
    match self.roster with
    | .shuttingDown shutdown =>
      match shutdown.acceptPreparationStart input with
      | some (.resume shutdown) => retainShutdown self shutdown []
      | some (.stop (shutdown, returned)) =>
        retainShutdown
          { self with recovery := .automatic { awaiting with source := .retirement (.start returned) } }
          shutdown []
      | none => rejectInput self (.workerPreparationStarted input)
    | .operating owners => acceptPreparationStart self awaiting owners input
    | _ => rejectInput self (.workerPreparationStarted input)

/-- `accept_worker_preparation_return`, for a roster in operation. -/
def acceptPreparationReturn (awaiting : AutomaticRecovery S)
    (owners : List (RosterOwner S Message)) (returned : WorkerPreparation S) : Acted S Message :=
  match FixedRoster.expecting (·.acceptsReturn returned) owners with
  | none => rejectInput self (.workerPreparationReturned returned)
  | some (before, recovery, after) =>
    match returned.outcome with
    | .prepared source members =>
      match recovery.acceptPrepared members with
      | none => rejectInput self (.workerPreparationReturned returned)
      | some prepared =>
        match awaiting.decidePrepared prepared source with
        | .admitted batch recovery schedule =>
          authorizeRoster { self with recovery := .automatic recovery }
            (before ++ .recovery (.admitted batch) :: after)
            { restartSchedules := schedule.toList }
        | .denied replacements recovery diagnostic =>
          applyRecoveryFailure { self with recovery := .automatic recovery }
            ⟨before ++ after, replacements⟩ diagnostic
    | .workerRejected source prepared failedRole reason remaining =>
      applyFailedPreparation self awaiting (recovery.fail (before ++ after) source
        (.workerRejected prepared failedRole reason remaining))
    | .sourceRejected source failedRole reason remaining =>
      applyFailedPreparation self awaiting (recovery.fail (before ++ after) source
        (.sourceRejected reason (selectedRoles failedRole remaining)))

/-- `accept_worker_preparation_return`. -/
def acceptWorkerPreparationReturn
    (returned : WorkerPreparation S) : Acted S Message :=
  match self.recovery.expectSource with
  | none => rejectInput self (.workerPreparationReturned returned)
  | some awaiting =>
    match self.roster with
    | .shuttingDown shutdown =>
      match shutdown.acceptPreparationReturn returned with
      | some shutdown =>
        retainShutdown
          { self with
            recovery := .automatic { awaiting with source := .retirement (.returned returned) } }
          shutdown []
      | none => rejectInput self (.workerPreparationReturned returned)
    | .operating owners => acceptPreparationReturn self awaiting owners returned
    | _ => rejectInput self (.workerPreparationReturned returned)

/-! ### Restart schedules -/

/-- `accept_restart_schedule`. -/
def acceptRestartSchedule (self : FixedSupervisor S Message) (input : ScheduleSettled) :
    Acted S Message :=
  match self.roster with
  | .shuttingDown shutdown =>
    continueShutdown self (.restartScheduleSettled input) (shutdown.acceptSchedule input)
  | .operating owners =>
    match FixedRoster.acceptRestartSchedule input owners with
    | some (.inl owners) => authorizeWaiting self owners
    | some (.inr (owners, prepared, request, reason)) =>
      applyRecoveryFailure self ⟨owners, retainRejectedSchedule prepared⟩
        (.restartScheduleFailed prepared.trigger.role.name request reason)
    | none => rejectInput self (.restartScheduleSettled input)
  | _ => rejectInput self (.restartScheduleSettled input)

/-- `accept_restart_elapsed`. -/
def acceptRestartElapsed (self : FixedSupervisor S Message) (elapsed : TimerElapsed) :
    Acted S Message :=
  match self.roster with
  | .shuttingDown shutdown =>
    continueShutdown self (.restartElapsed elapsed) (shutdown.acceptElapsed elapsed)
  | .operating owners =>
    match FixedRoster.acceptRestartElapsed elapsed owners with
    | some owners => authorizeWaiting self owners
    | none => rejectInput self (.restartElapsed elapsed)
  | _ => rejectInput self (.restartElapsed elapsed)

/-! ### Commands -/

namespace FixedRoster

/-- `FixedRoster::snapshot`. -/
def status : FixedRoster S Message → Option (FixedSnapshot S)
  | .operating owners => some (snapshot owners)
  | .shuttingDown shutdown =>
    some ⟨(FixedShutdown.declared shutdown.members).map fun member => member.phase.status⟩
  | _ => none

/-- `FixedRoster::capability`. -/
def capability [DecidableEq S.Role] (role : S.Role) :
    FixedRoster S Message → Option (CapabilityResult S)
  | .operating owners =>
    some (match owners.findSome? (RosterOwner.capability role) with
      | some (.ok proxy) => .ready role proxy
      | some (.error phase) => .unavailable role phase
      | none => .unknownRole role)
  | .shuttingDown shutdown =>
    some (match shutdown.members.find? (·.role.name = role) with
      | some member => .unavailable role member.phase
      | none => .unknownRole role)
  | _ => none

end FixedRoster

/-- `accept_command`. -/
def acceptCommand [DecidableEq S.Role] (self : FixedSupervisor S Message)
    (command : FixedCommand S) : Acted S Message :=
  match command with
  | .shutdown => acceptShutdown self
  | .status replyTo =>
    match self.roster.status with
    | some snapshot => (self, .ok { statusReplies := [(replyTo, snapshot)] })
    | none => rejectInput self (.command (.status replyTo))
  | .capability role replyTo =>
    match self.roster.capability role with
    | some result => (self, .ok { capabilityReplies := [(replyTo, result)] })
    | none => rejectInput self (.command (.capability role replyTo))

/-! ### The behaviour -/

/-- `unexpected_input`, for an input that was handed back. -/
def unexpectedInput (acted : Acted S Message) : Acted S Message :=
  match acted with
  | (self, .error (.inputRejected input)) =>
    (self, .ok { diagnostics := [.unexpectedInput input], step := self.disposed })
  | acted => acted

namespace FixedSupervisor

/-- The first owners of a roster, from its prepared workers and their creations. -/
def declared : (position heap : ℕ) → List (PreparedWorker S × ℕ) → List (RosterOwner S Message)
  | _, _, [] => []
  | position, heap, (member, creation) :: members =>
    .starting (.creatingProxy (.declared position member.role) heap
      (.initial creation member.submission heap)) :: declared (position + 1) (heap + 1) members

/-- `FixedSupervisor::init`, with `FixedRoster::begin`. -/
def init (self : FixedSupervisor S Message) : Acted S Message :=
  match self.roster with
  | .new' members =>
    match issueAll members.length self.creations with
    | (none, creations) =>
      ({ self with roster := .stopped, creations := creations },
        .error (.proxyCreationsExhausted members))
    | (some ids, creations) =>
      ({ self with
          roster := .operating (declared 0 self.heap (members.zip ids))
          creations := creations
          heap := self.heap + members.length },
        .ok {
          proxyObservations := ids
          creations := ids.map fun id => ⟨id, .new, .birth⟩ })
  | _ => (self, .error .initializationUnavailable)

/-- The handler of an input. -/
def accept [DecidableEq S.Role] (self : FixedSupervisor S Message) :
    FixedSupervisorEvent S Message → Acted S Message
  | .proxyCreationsSettled proxies => acceptProxyBirth self proxies
  | .proxyInputSettled settlement => acceptProxyOperation self settlement
  | .proxyReported report => acceptProxyReport self report
  | .proxyDiagnosed report => rejectInput self (.proxyDiagnosed report)
  | .proxyStopped stopped => acceptProxyExit self stopped
  | .workerPreparationStarted started => acceptWorkerPreparationStart self started
  | .workerPreparationReturned returned => acceptWorkerPreparationReturn self returned
  | .restartScheduleSettled input => acceptRestartSchedule self input
  | .restartElapsed elapsed => acceptRestartElapsed self elapsed
  | .command command => acceptCommand self command

/-- `FixedSupervisor::transition`. -/
def transition [DecidableEq S.Role] (self : FixedSupervisor S Message)
    (event : FixedSupervisorEvent S Message) : Acted S Message :=
  unexpectedInput (self.accept event)

end FixedSupervisor

/-! ### Runs -/

section

variable (S : Signature) (Message : Type)

/-- One transition of a run. -/
structure Entry where
  before : FixedSupervisor S Message
  event : FixedSupervisorEvent S Message
  result : Except (FixedSupervisorError S Message) (FixedActions S Message)
  after : FixedSupervisor S Message

/-- A run: the transitions so far, and the supervisor they lead to. -/
structure Journal where
  supervisor : FixedSupervisor S Message
  entries : List (Entry S Message)

end

variable [DecidableEq S.Role]

/-- The transition of an event, as an entry. -/
def FixedSupervisor.entry
    (event : FixedSupervisorEvent S Message) : Entry S Message :=
  ⟨self, event, (self.transition event).2, (self.transition event).1⟩

/-- One more transition. -/
def Journal.step (journal : Journal S Message) (event : FixedSupervisorEvent S Message) :
    Journal S Message :=
  ⟨(journal.supervisor.transition event).1, journal.entries ++ [journal.supervisor.entry event]⟩

/-- The run of a sequence of events on an initialized supervisor. -/
def run (config : Config S) (prepared : List (PreparedWorker S))
    (events : List (FixedSupervisorEvent S Message)) : Journal S Message :=
  events.foldl Journal.step ⟨(FixedSupervisor.build config prepared).init.1, []⟩

theorem run_snoc (config : Config S) (prepared : List (PreparedWorker S))
    (events : List (FixedSupervisorEvent S Message)) (event : FixedSupervisorEvent S Message) :
    run config prepared (events ++ [event]) = (run config prepared events).step event := by
  rw [run, List.foldl_append]
  rfl

end Bombay.Fixed
