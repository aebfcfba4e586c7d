/-
# What a fixed supervisor is told and what it says

`crates/actors/src/templates/supervisor/roster/protocol.rs`, `lifecycle.rs`,
`diagnostic.rs`, `event.rs`, `requests.rs`, `role.rs` and `restart/admission.rs`, with the
construction values of `mod.rs`.

A `RoleName` is its role.  The routes of the lifecycle messages and of the
diagnostics are fixed at construction; a lane holds the messages alone.
-/

import Bombay.Directory.Protocol

namespace Bombay.Fixed

open Proxy (ProxyOutcome ProxyDiagnostic ProxyPhase)
open Directory (proxied ProxyOperation ProxyInputResult ChildInputReason ChildReport)

/-! ### Construction values -/

/-- `Strategy`. -/
inductive Strategy where
  | oneForOne
  | oneForAll
  | restForOne
  deriving DecidableEq, Repr

/-- `RecoveryPolicy`. -/
structure RecoveryPolicy where
  strategy : Strategy
  limit : RestartLimit
  delay : RestartRelease

/-- `Recovery<Source>`. -/
inductive Recovery (Source : Type) where
  | permanent (source : Source) (policy : RecoveryPolicy)
  | transient (source : Source) (policy : RecoveryPolicy)
  | temporary

/-- `FailureReaction`. -/
inductive FailureReaction where
  | retireMember
  | stopSupervisor
  deriving DecidableEq, Repr

/-- `DiagnosticDisposition`. -/
inductive DiagnosticDisposition where
  | deliverTo
  | terminate
  deriving DecidableEq, Repr

/-! ### Roles -/

/-- `MemberRole<Role>`. -/
structure MemberRole (S : Signature) where
  position : ℕ
  name : S.Role
  recoveries : RecoveryCount

/-- `MemberRole::declared`. -/
def MemberRole.declared {S : Signature} (position : ℕ) (role : S.Role) : MemberRole S :=
  ⟨position, role, .new⟩

/-! ### Admission -/

/-- `RecoveryDenialReason`. -/
inductive RecoveryDenialReason where
  | recoveryTicketsExhausted
  | restartTimersExhausted
  | restartLimitReached (active requested maximum : ℕ)
  | clockRegressed (previous observed : ℕ)
  | recoveryCountExhausted (admitted : ℕ)
  | releaseCalculationFailed (reason : RestartReleaseFailure)
  deriving DecidableEq, Repr

/-- `RecoveryDenialReason::restart`. -/
def RecoveryDenialReason.restart : RestartDenial → RecoveryDenialReason
  | .restartLimitReached active requested maximum => .restartLimitReached active requested maximum
  | .clockRegressed previous observed => .clockRegressed previous observed
  | .recoveryCountExhausted admitted => .recoveryCountExhausted admitted
  | .releaseCalculationFailed reason => .releaseCalculationFailed reason

/-! ### Status -/

/-- `UnavailablePhase`. -/
inductive UnavailablePhase where
  | creatingProxy
  | waitingForStartup
  | awaitingProxy
  | empty
  | recovering
  | stopping
  | retired
  deriving DecidableEq, Repr

section

variable (S : Signature)

/-- `MemberStatus<Service>`. -/
inductive MemberStatus where
  | creatingProxy
  | waitingForStartup
  | awaitingProxy
  | ready (proxy : S.Recipient)
  | empty
  | recovering
  | stopping
  | retired

/-- `FixedSnapshot<Service>`. -/
structure FixedSnapshot where
  members : List (MemberStatus S)

/-- `CapabilityResult<Role, Service>`. -/
inductive CapabilityResult where
  | ready (role : S.Role) (proxy : S.Recipient)
  | unavailable (role : S.Role) (phase : UnavailablePhase)
  | unknownRole (submitted : S.Role)

/-- `FixedCommand`; a `ReplyRoute` is a value of `S.Customer`. -/
inductive FixedCommand where
  | status (replyTo : S.Customer)
  | capability (role : S.Role) (replyTo : S.Customer)
  | shutdown

end

/-- `UnavailablePhase::status`. -/
def UnavailablePhase.status {S : Signature} : UnavailablePhase → MemberStatus S
  | .creatingProxy => .creatingProxy
  | .waitingForStartup => .waitingForStartup
  | .awaitingProxy => .awaitingProxy
  | .empty => .empty
  | .recovering => .recovering
  | .stopping => .stopping
  | .retired => .retired

/-! ### Events, lifecycle messages, diagnostics and requests -/

section

variable (S : Signature) (Message : Type)

/-- `FixedSupervisorEvent`. -/
inductive FixedSupervisorEvent where
  | command (command : FixedCommand S)
  | proxyCreationsSettled (proxies : CreationsSettled (proxied S))
  | proxyInputSettled (settlement : ProxyInputResult S)
  | proxyReported (report : ChildReport (ProxyOutcome S Message))
  | proxyDiagnosed (report : ChildReport (ProxyDiagnostic S))
  | proxyStopped (stopped : ChildStopped S)
  | workerPreparationStarted (started : PreparationStarted S)
  | workerPreparationReturned (returned : WorkerPreparation S)
  | restartScheduleSettled (input : ScheduleSettled)
  | restartElapsed (elapsed : TimerElapsed)

/-- `FixedLifecycle<Role, W, P>`. -/
inductive FixedLifecycle where
  | started (role : S.Role) (proxy : S.Actor)
  | restarted (role : S.Role) (proxy : S.Actor) (recovery : ℕ)
  | workerStoppedIneligible (role : S.Role) (stopped : ChildStopped S)
  | workerStoppedAfterAdmission (role : S.Role) (stopped : ChildStopped S) (recovery : ℕ)
  | unavailable (role : S.Role) (sender : S.Address) (phase : ProxyPhase) (command : Message)
  | memberRetired (role : S.Role)

/-- `PreparationFailureState`. -/
inductive PreparationFailureState where
  | workerRejected (prepared : List (PreparedWorker S)) (failedRole : S.Role)
      (reason : S.WorkerRejection) (remaining : List S.Role)
  | sourceRejected (reason : S.SourceRejection) (remaining : List S.Role)
  | interpreterFault (fault : InterpreterFault) (remaining : List S.Role)
  | unattempted (remaining : List S.Role)

/-- `WorkerPreparationFailure`. -/
structure WorkerPreparationFailure where
  trigger : S.Role
  state : PreparationFailureState S

/-- `FixedDiagnostic`. -/
inductive FixedDiagnostic where
  | proxyOutcomeFailed (role : S.Role) (outcome : ProxyOutcome S Message)
  | proxyInputRejected (role : S.Role) (operation : ProxyOperation S) (reason : ChildInputReason)
  | workerPreparationFailed (failure : WorkerPreparationFailure S)
  | recoveryDenied (trigger : S.Role) (stopped : ChildStopped S) (reason : RecoveryDenialReason)
  | restartScheduleFailed (trigger : S.Role) (request : ScheduleAfter)
      (reason : ScheduleAfterRejection)
  | workerUnavailable (role : S.Role) (sender : S.Address) (phase : ProxyPhase)
      (command : Message)
  | unexpectedInput (input : FixedSupervisorEvent S Message)

/-- `FixedSupervisorError`. -/
inductive FixedSupervisorError where
  | initializationUnavailable
  | proxyCreationsExhausted (members : List (PreparedWorker S))
  | proxyCreationRejected (proxies : CreationsSettled (proxied S))
  | inputRejected (input : FixedSupervisorEvent S Message)
  | authorizationStateRejected (occupied maximum : ℕ)
  | initialOutcomeContradiction (report : ChildReport (ProxyOutcome S Message))

/-- `Actions<…, FixedSupervisorRequests<…>, Births<StableProxy<W, P>>>`. -/
structure FixedActions where
  proxyObservations : List ℕ := []
  workerPreparations : List (PrepareWorkers S) := []
  proxyOperations : List (ProxyOperation S) := []
  restartSchedules : List ScheduleAfter := []
  lifecycle : List (FixedLifecycle S Message) := []
  statusReplies : List (S.Customer × FixedSnapshot S) := []
  capabilityReplies : List (S.Customer × CapabilityResult S) := []
  diagnostics : List (FixedDiagnostic S Message) := []
  creations : List (CreateChild (proxied S)) := []
  step : Step := .continue'

end

end Bombay.Fixed
