/-
# Whether a stopped worker is recovered

`crates/actors/src/templates/supervisor/roster/recovery/mod.rs`, `recovery/stop.rs`,
`recovery/correlation.rs` and `restart/admission.rs`: the recovery settings, the one worker
source and its custodian, the restart budget, and the numbers that correlate recoveries
and timers.
-/

import Bombay.Fixed.Shutdown

namespace Bombay.Fixed

open Directory (ProxyOperation)

/-- `AutomaticEligibility`. -/
inductive AutomaticEligibility where
  | permanent
  | transient
  deriving DecidableEq, Repr

/-- `RecoverySettings`. -/
structure RecoverySettings where
  eligibility : AutomaticEligibility
  strategy : Strategy
  limit : RestartLimit
  release : RestartRelease

/-- `RecoveryCorrelations`; a `CorrelationSequence` is a `Sequence` that starts at one. -/
structure RecoveryCorrelations where
  recoveries : Sequence
  timers : Sequence

/-- `RecoveryCorrelations::new`. -/
def RecoveryCorrelations.new : RecoveryCorrelations := ⟨⟨some 1⟩, ⟨some 1⟩⟩

section

variable (S : Signature) (Message : Type)

/-- `WorkerPreparationRetirement`. -/
inductive WorkerPreparationRetirement where
  | start (input : PreparationStarted S)
  | returned (returned : WorkerPreparation S)

/-- `WorkerSourceCustody`. -/
inductive WorkerSourceCustody where
  | available (source : S.Source)
  | preparingWorkers
  | retirement (returned : WorkerPreparationRetirement S)

/-- `AutomaticRecovery`. -/
structure AutomaticRecovery where
  settings : RecoverySettings
  source : WorkerSourceCustody S
  budget : RestartBudget
  correlations : RecoveryCorrelations

/-- `SupervisorRecovery`. -/
inductive SupervisorRecovery where
  | automatic (recovery : AutomaticRecovery S)
  | temporary

/-- `RecoveryChoice`. -/
inductive RecoveryChoice where
  | leaveEmpty
  | sourceUnavailable
  | prepare (recovery : AutomaticRecovery S) (source : S.Source)

/-- `FailedPreparation`. -/
structure FailedPreparation where
  owners : List (RosterOwner S Message)
  member : StoppedMember S
  source : S.Source
  diagnostic : WorkerPreparationFailure S

/-- `RecoveryFailure`. -/
structure RecoveryFailure where
  owners : List (RosterOwner S Message)
  replacements : UnissuedReplacements S

/-- `PreparedRecoveryDecision`, with what becomes of the recovery. -/
inductive PreparedRecoveryDecision where
  | admitted (batch : RecoveryBatch S) (recovery : AutomaticRecovery S)
      (schedule : Option ScheduleAfter)
  | denied (replacements : UnissuedReplacements S) (recovery : AutomaticRecovery S)
      (diagnostic : FixedDiagnostic S Message)

end

variable {S : Signature} {Message : Type}

/-- `SupervisorRecovery::from`. -/
def SupervisorRecovery.ofRecovery : Recovery S.Source → SupervisorRecovery S
  | .permanent source policy =>
    .automatic ⟨⟨.permanent, policy.strategy, policy.limit, policy.delay⟩, .available source,
      .empty, .new⟩
  | .transient source policy =>
    .automatic ⟨⟨.transient, policy.strategy, policy.limit, policy.delay⟩, .available source,
      .empty, .new⟩
  | .temporary => .temporary

/-- `SupervisorRecovery::choose`. -/
def SupervisorRecovery.choose (recovery : SupervisorRecovery S) (stop : StopKind) :
    RecoveryChoice S :=
  match recovery with
  | .temporary => .leaveEmpty
  | .automatic recovery =>
    if recovery.settings.eligibility = .transient ∧ stop = .normal then .leaveEmpty
    else
      match recovery.source with
      | .available source => .prepare recovery source
      | .preparingWorkers => .sourceUnavailable
      | .retirement _ => .sourceUnavailable

/-- `SupervisorRecovery::expect_source`. -/
def SupervisorRecovery.expectSource : SupervisorRecovery S → Option (AutomaticRecovery S)
  | .automatic ⟨settings, .preparingWorkers, budget, correlations⟩ =>
    some ⟨settings, .preparingWorkers, budget, correlations⟩
  | _ => none

/-- `SupervisorRecovery::retirement`: whether the worker source is still out. -/
def SupervisorRecovery.sourceIsOut : SupervisorRecovery S → Bool
  | .automatic ⟨_, .preparingWorkers, _, _⟩ => true
  | _ => false

/-- `PreparingRecovery::begin`, with `RecoveryPreparation::begin`. -/
def PreparingRecovery.begin (recovery : AutomaticRecovery S) (source : S.Source)
    (beforeTrigger : List (RecoveryParticipant S)) (trigger : StoppedMember S)
    (afterTrigger : List (RecoveryParticipant S)) (heap : ℕ) :
    AutomaticRecovery S × PreparingRecovery S × PrepareWorkers S :=
  let (first, remaining) := selectedNames beforeTrigger trigger afterTrigger
  let (expected, request) := PrepareWorkers.new source first remaining heap
  ({ recovery with source := .preparingWorkers },
    ⟨.issued expected, beforeTrigger, trigger, afterTrigger⟩, request)

/-! ### The decision over prepared workers -/

/-- `deny_prepared_recovery`: the stop goes out with the diagnostic. -/
def denyPreparedRecovery (rejected : PreparedRecovery S) (reason : RecoveryDenialReason) :
    UnissuedReplacements S × FixedDiagnostic S Message :=
  let (trigger, stopped) := rejected.trigger.intoEmpty
  (⟨rejected.beforeTrigger ++ rejected.afterTrigger, trigger, rejected.triggerSubmission⟩,
    .recoveryDenied trigger.role.name stopped reason)

/-- `retain_rejected_schedule`: the stop stays with the trigger. -/
def retainRejectedSchedule (rejected : PreparedRecovery S) : UnissuedReplacements S :=
  ⟨rejected.beforeTrigger ++ rejected.afterTrigger, rejected.trigger.retainStop,
    rejected.triggerSubmission⟩

/-- `RecoveryTicketProposal::select_release` and the acceptance of its proposal: the timers, how
the batch waits, and the schedule it asks for. -/
def selectRelease (timers : Sequence) :
    RecoveryRelease → Option (Sequence × RestartReleaseState × Option ScheduleAfter)
  | .immediate => some (timers, .ready, none)
  | .delayed after =>
    match timers.issue with
    | some (timer, timers) =>
      let key : ScheduleKey := ⟨timer, 0⟩
      some (timers, .scheduling key, some (key.after after))
    | none => none

/-- `AwaitingWorkerSource::decide_prepared`; a denial leaves the budget and the correlations as
they were. -/
def AutomaticRecovery.decidePrepared (awaiting : AutomaticRecovery S)
    (prepared : PreparedRecovery S) (source : S.Source) : PreparedRecoveryDecision S Message :=
  let denied (reason : RecoveryDenialReason) : PreparedRecoveryDecision S Message :=
    let (replacements, diagnostic) := denyPreparedRecovery prepared reason
    .denied replacements { awaiting with source := .available source } diagnostic
  match awaiting.correlations.recoveries.issue with
  | none => denied .recoveryTicketsExhausted
  | some (ticket, recoveries) =>
    match admitRestart prepared.trigger.role.recoveries awaiting.budget awaiting.settings.limit
        awaiting.settings.release prepared.trigger.stopped.at' prepared.workerCount with
    | .denied _ _ reason => denied (.restart reason)
    | .proposed proposal =>
      match selectRelease awaiting.correlations.timers proposal.release with
      | none => denied .restartTimersExhausted
      | some (timers, release, schedule) =>
        let (recoveries', budget) := proposal.accept
        let role := { prepared.trigger.role with recoveries := recoveries' }
        let prepared := { prepared with trigger := { prepared.trigger with role := role } }
        .admitted (prepared.admitted ticket release)
          ⟨awaiting.settings, .available source, budget, ⟨recoveries, timers⟩⟩ schedule

/-! ### Failed preparation -/

/-- `selected_roles`. -/
def selectedRoles (first : S.Role) (remaining : List S.Role) : List S.Role := first :: remaining

/-- The failure of a preparation that was faulty, skipped or rejected. -/
def PreparingRecovery.fail (recovery : PreparingRecovery S) (owners : List (RosterOwner S Message))
    (source : S.Source) (state : PreparationFailureState S) : FailedPreparation S Message :=
  ⟨owners ++ recovery.restorePeersAfterPreparationFailure, recovery.trigger, source,
    ⟨recovery.trigger.role.name, state⟩⟩

/-- `FailedPreparation::into_owners`. -/
def FailedPreparation.intoOwners (failed : FailedPreparation S Message) :
    List (RosterOwner S Message) :=
  failed.owners ++ [.empty failed.member.retainStop]

/-- `RecoveryFailure::into_terminal_ownership`. -/
def RecoveryFailure.intoTerminalOwnership (failed : RecoveryFailure S Message) :
    List (RosterOwner S Message) × List (WorkerSubmission S) :=
  (failed.owners ++ failed.replacements.peers.map PreparedParticipant.cancel ++
      [.empty failed.replacements.trigger],
    failed.replacements.peers.map PreparedParticipant.submission ++
      [failed.replacements.triggerSubmission])

/-- `RecoveryFailure::retire_member`. -/
def RecoveryFailure.retireMember (failed : RecoveryFailure S Message) (heap : ℕ) :
    List (RosterOwner S Message) × ProxyOperation S :=
  let (trigger, operation) :=
    failed.replacements.trigger.retirePreparedWorker failed.replacements.triggerSubmission heap
  (failed.owners ++ failed.replacements.peers.map PreparedParticipant.cancel ++
    [.unrecovered trigger], operation)

end Bombay.Fixed
