/-
# Recoveries of a fixed roster

`crates/actors/src/templates/supervisor/roster/recovery/mod.rs`: the members a recovery
selected, the batch that an admitted recovery releases one replacement at a time, and
what one member of the batch does with a settlement or a report.
-/

import Bombay.Fixed.Member
import Bombay.Lib.Search

namespace Bombay.Fixed

open Proxy (ProxyOutcome ReplacementOutcome)
open Directory (ProxyOperation ProxyInputResult ChildInputReason ChildReport)

section

variable (S : Signature)

/-- `RecoveryParticipant`. -/
inductive RecoveryParticipant where
  | stopped (member : StoppedMember S)
  | initialInputDispatched (role : MemberRole S) (creation : ℕ) (proxy : S.Actor) (witness : ℕ)
  | awaitingInitialOutcome (role : MemberRole S) (creation : ℕ) (proxy : S.Actor)
      (operation : ℕ)
  | online (member : OnlineMember S)

/-- `PreparedParticipant`. -/
structure PreparedParticipant where
  member : RecoveryParticipant S
  submission : WorkerSubmission S

/-- `PreparingRecovery`. -/
structure PreparingRecovery where
  expected : WorkerPreparationExpectation
  beforeTrigger : List (RecoveryParticipant S)
  trigger : StoppedMember S
  afterTrigger : List (RecoveryParticipant S)

/-- `PreparedRecovery`. -/
structure PreparedRecovery where
  beforeTrigger : List (PreparedParticipant S)
  trigger : StoppedMember S
  triggerSubmission : WorkerSubmission S
  afterTrigger : List (PreparedParticipant S)

/-- `UnissuedReplacements`. -/
structure UnissuedReplacements where
  peers : List (PreparedParticipant S)
  trigger : EmptyMember S
  triggerSubmission : WorkerSubmission S

/-- `RecoveryMember`. -/
inductive RecoveryMember where
  | waiting (member : RecoveryParticipant S) (submission : WorkerSubmission S)
  | replacing (role : MemberRole S) (creation : ℕ) (proxy : S.Actor)
      (replacement : WorkerReplacement S)

/-- `ReplacementCompletion`. -/
inductive ReplacementCompletion where
  | restarted (role : MemberRole S) (creation : ℕ) (proxy : S.Actor)
      (previousReadiness : S.Ready) (stopped : ChildStopped S) (worker : WorkerAttempt)
      (readiness : S.Ready) (recovery : ℕ)
  | inputRejected (role : MemberRole S) (creation : ℕ) (proxy : S.Actor)
      (previous : WorkerAttempt) (previousReadiness : S.Ready)
      (stopped : Option (ChildStopped S)) (operation : ProxyOperation S)
      (reason : ChildInputReason) (recovery : ℕ)
  | proxyFailed (role : MemberRole S) (creation : ℕ) (proxy : S.Actor)
      (previous : WorkerAttempt) (previousReadiness : S.Ready) (stopped : ChildStopped S)
      (outcome : ReplacementOutcome S) (recovery : ℕ)

end

/-- `RestartReleaseState`. -/
inductive RestartReleaseState where
  | ready
  | scheduling (timer : ScheduleKey)
  | waiting (timer : ScheduleKey)
  deriving DecidableEq

/-- `RecoveryBatch`; its ticket is a `RecoveryTicket`. -/
structure RecoveryBatch (S : Signature) where
  ticket : ℕ
  trigger : ℕ
  release : RestartReleaseState
  members : List (RecoveryMember S)

variable {S : Signature} {Message : Type}

/-! ### Participants -/

namespace RecoveryParticipant

/-- `RecoveryParticipant::name` and `RecoveryParticipant::position` read this role. -/
def role : RecoveryParticipant S → MemberRole S
  | .stopped member => member.role
  | .initialInputDispatched role .. => role
  | .awaitingInitialOutcome role .. => role
  | .online member => member.role

/-- `RecoveryParticipant::live_proxy_role`. -/
def liveProxyRole (child : ℕ) : RecoveryParticipant S → Option S.Role
  | .stopped member => member.liveProxyRole child
  | .initialInputDispatched role creation .. => if creation = child then some role.name else none
  | .awaitingInitialOutcome role creation .. => if creation = child then some role.name else none
  | .online member => if member.creation = child then some member.role.name else none

end RecoveryParticipant

/-! ### Batches -/

/-- `PreparedParticipant::admit`. -/
def PreparedParticipant.admit (participant : PreparedParticipant S) : RecoveryMember S :=
  .waiting participant.member participant.submission

namespace PreparedRecovery

/-- `PreparedRecovery::worker_count`. -/
def workerCount (prepared : PreparedRecovery S) : NonZero :=
  ⟨prepared.beforeTrigger.length + 1 + prepared.afterTrigger.length, by omega⟩

/-- `PreparedRecovery::from_admitted`. -/
def fromAdmitted (trigger : ℕ) (members : List (PreparedParticipant S)) :
    Option (PreparedRecovery S) :=
  let at' (member : PreparedParticipant S) :=
    if member.member.role.position = trigger then some member else none
  match Search.first at' members with
  | some (before, ⟨.stopped stopped, submission⟩, after) =>
    some ⟨before, stopped, submission, after⟩
  | _ => none

/-- `PreparedRecovery::admit`. -/
def admitted (prepared : PreparedRecovery S) (ticket : ℕ) (release : RestartReleaseState) :
    RecoveryBatch S where
  ticket := ticket
  trigger := prepared.trigger.role.position
  release := release
  members := prepared.beforeTrigger.map PreparedParticipant.admit ++
    .waiting (.stopped prepared.trigger) prepared.triggerSubmission ::
      prepared.afterTrigger.map PreparedParticipant.admit

end PreparedRecovery

namespace RecoveryMember

/-- The role of a member (`RecoveryMember::position`). -/
def role : RecoveryMember S → MemberRole S
  | .waiting member _ => member.role
  | .replacing role .. => role

/-- `RecoveryMember::live_proxy_role`. -/
def liveProxyRole (child : ℕ) : RecoveryMember S → Option S.Role
  | .waiting member _ => member.liveProxyRole child
  | .replacing role creation .. => if creation = child then some role.name else none

/-- `RecoveryMember::authorization_count`. -/
def authorizationCount : RecoveryMember S → ℕ
  | .waiting .. => 0
  | .replacing _ _ _ replacement =>
    match replacement.response with
    | .inputPending _ => 1
    | .outcomePending _ => 1
    | .outcomeReturned _ => 0
    | .inputRejected _ _ => 0

/-- `RecoveryMember::authorize`: a member with nothing to replace yet is passed over. -/
def authorize (heap : ℕ) : RecoveryMember S → Option (RecoveryMember S × ProxyOperation S)
  | .waiting (.stopped member) submission =>
    some (.replacing member.role member.creation member.proxy
        ⟨member.worker, member.readiness, some member.stopped, .inputPending heap⟩,
      .replacement member.creation submission heap)
  | .waiting (.online member) submission =>
    some (.replacing member.role member.creation member.proxy
        ⟨member.worker, member.readiness, none, .inputPending heap⟩,
      .replacement member.creation submission heap)
  | .waiting (.initialInputDispatched ..) _ => none
  | .waiting (.awaitingInitialOutcome ..) _ => none
  | .replacing .. => none

/-- `RecoveryMember::into_prepared`. -/
def intoPrepared : RecoveryMember S → Option (PreparedParticipant S)
  | .waiting member submission => some ⟨member, submission⟩
  | .replacing .. => none

/-- `RecoveryMember::replacement_progress`. -/
def replacementProgress (role : MemberRole S) (creation : ℕ) (proxy : S.Actor)
    (replacement : WorkerReplacement S) (recovery : ℕ) :
    ControlFlow (ReplacementCompletion S) (RecoveryMember S) :=
  match replacement.stopped, replacement.response with
  | some stopped, .outcomeReturned (.resolved _ (.ready worker readiness)) =>
    .stop (.restarted role creation proxy replacement.readiness stopped worker readiness recovery)
  | some stopped, .outcomeReturned outcome =>
    .stop (.proxyFailed role creation proxy replacement.previous replacement.readiness stopped
      outcome recovery)
  | stopped, .inputRejected operation reason =>
    .stop (.inputRejected role creation proxy replacement.previous replacement.readiness stopped
      operation reason recovery)
  | _, _ => .resume (.replacing role creation proxy replacement)

/-- `RecoveryMember::accept_replacement_operation`. -/
def acceptReplacementOperation (recovery : ℕ) (settlement : ProxyInputResult S) :
    RecoveryMember S → Option (ControlFlow (ReplacementCompletion S) (RecoveryMember S))
  | .waiting .. => none
  | .replacing role creation proxy replacement =>
    (replacement.acceptOperation settlement).map fun replacement =>
      replacementProgress role creation proxy replacement recovery

/-- `RecoveryMember::accept_recovery_report`. -/
def acceptRecoveryReport (recovery : ℕ) (report : ChildReport (ProxyOutcome S Message)) :
    RecoveryMember S → Option (ControlFlow (ReplacementCompletion S) (RecoveryMember S))
  | .waiting (.online member) submission =>
    match report.report with
    | .workerStopped worker stopped =>
      if member.creation = report.child ∧ member.worker = worker then
        some (.resume (.waiting (.stopped (member.stop stopped)) submission))
      else none
    | _ => none
  | .waiting .. => none
  | .replacing role creation proxy replacement =>
    if creation = report.child then
      match report.report with
      | .replacement outcome =>
        (replacement.acceptOutcome outcome).map fun replacement =>
          replacementProgress role creation proxy replacement recovery
      | .workerStopped worker stopped =>
        (replacement.acceptWorkerStop worker stopped).map fun replacement =>
          replacementProgress role creation proxy replacement recovery
      | _ => none
    else none

end RecoveryMember

/-- `into_prepared_members`. -/
def intoPreparedMembers (members : List (RecoveryMember S)) :
    Option (List (PreparedParticipant S)) :=
  members.mapM RecoveryMember.intoPrepared

/-- `RecoveryScheduleAdmission`; an unrelated result is `none`. -/
inductive RecoveryScheduleAdmission (S : Signature) where
  | waiting (batch : RecoveryBatch S)
  | rejected (prepared : PreparedRecovery S) (request : ScheduleAfter)
      (reason : ScheduleAfterRejection)

namespace RecoveryBatch

/-- `RecoveryBatch::authorization_count`. -/
def authorizationCount (batch : RecoveryBatch S) : ℕ :=
  (batch.members.map RecoveryMember.authorizationCount).sum

/-- `RecoveryBatch::authorize`, with `authorize_recovery_sequence`. -/
def authorize (heap : ℕ) (batch : RecoveryBatch S) :
    Option (RecoveryBatch S × ProxyOperation S) :=
  match batch.release with
  | .ready =>
    match Search.first (RecoveryMember.authorize heap) batch.members with
    | some (before, (member, operation), after) =>
      some ({ batch with members := before ++ member :: after }, operation)
    | none => none
  | _ => none

/-- The first member that takes a value goes on in its place, or leaves the batch complete. -/
def acceptMember
    (accept : RecoveryMember S → Option (ControlFlow (ReplacementCompletion S) (RecoveryMember S)))
    (batch : RecoveryBatch S) :
    Option (ControlFlow (RecoveryBatch S × ReplacementCompletion S) (RecoveryBatch S)) :=
  match Search.first accept batch.members with
  | some (before, .resume member, after) =>
    some (.resume { batch with members := before ++ member :: after })
  | some (before, .stop completed, after) =>
    some (.stop ({ batch with members := before ++ after }, completed))
  | none => none

/-- `RecoveryBatch::accept_replacement_operation`. -/
def acceptReplacementOperation (settlement : ProxyInputResult S) (batch : RecoveryBatch S) :
    Option (ControlFlow (RecoveryBatch S × ReplacementCompletion S) (RecoveryBatch S)) :=
  batch.acceptMember (RecoveryMember.acceptReplacementOperation batch.ticket settlement)

/-- `RecoveryBatch::accept_recovery_report`. -/
def acceptRecoveryReport (report : ChildReport (ProxyOutcome S Message))
    (batch : RecoveryBatch S) :
    Option (ControlFlow (RecoveryBatch S × ReplacementCompletion S) (RecoveryBatch S)) :=
  batch.acceptMember (RecoveryMember.acceptRecoveryReport batch.ticket report)

/-- `RecoveryBatch::accept_schedule`: a fault or a skipped request is unrelated. -/
def acceptSchedule (input : ScheduleSettled) (batch : RecoveryBatch S) :
    Option (RecoveryScheduleAdmission S) :=
  match batch.release, input with
  | .scheduling timer, .attempted (.accepted scheduled) =>
    if timer.id = scheduled.id ∧ timer.generation = scheduled.generation then
      some (.waiting { batch with release := .waiting timer })
    else none
  | .scheduling timer, .attempted (.rejected item reason) =>
    if timer.id = item.id ∧ timer.generation = item.generation then
      match intoPreparedMembers batch.members with
      | some prepared =>
        match PreparedRecovery.fromAdmitted batch.trigger prepared with
        | some prepared => some (.rejected prepared item reason)
        | none => none
      | none => none
    else none
  | _, _ => none

/-- `RecoveryBatch::accept_elapsed`. -/
def acceptElapsed (elapsed : TimerElapsed) (batch : RecoveryBatch S) : Option (RecoveryBatch S) :=
  match batch.release with
  | .waiting timer =>
    if timer.id = elapsed.id ∧ timer.generation = elapsed.generation then
      some { batch with release := .ready }
    else none
  | _ => none

end RecoveryBatch

end Bombay.Fixed
