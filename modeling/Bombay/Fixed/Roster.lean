/-
# The owners of a fixed roster

`crates/actors/src/templates/supervisor/roster/member.rs`, `proxy/mod.rs`, `proxy/start.rs`,
`proxy/outcome.rs`, `proxy/stop.rs`, `recovery/mod.rs` and `recovery/stop.rs`: every role is
owned by a member of its own or by a recovery, and an input is offered to the owners in
their order until one of them takes it.
-/

import Bombay.Fixed.Recovery

namespace Bombay.Fixed

open Proxy (ProxyOutcome InitialWorkerOutcome WorkerStartResult StableProxy)
open Directory (proxied ProxyOperation ProxyInputResult ChildReport
  StableProxyCreationSettlement)

section

variable (S : Signature) (Message : Type)

/-- `FixedProxyOwnership`. -/
inductive FixedProxyOwnership where
  | ready (worker : WorkerAttempt) (readiness : S.Ready) (prepared : Option (WorkerSubmission S))
  | workerStopped (worker : WorkerAttempt) (readiness : S.Ready)
      (stopped : Option (ChildStopped S)) (prepared : Option (WorkerSubmission S))
  | initialInputCancelled (witness : ℕ) (operation : ProxyOperation S)
  | initialInputDispatched (witness : ℕ) (prepared : Option (WorkerSubmission S))
  | initialOutcomeWaiting (operation : ℕ) (prepared : Option (WorkerSubmission S))
  | initialOutcomeReceived (operation : ℕ) (outcome : ProxyOutcome S Message)
      (prepared : Option (WorkerSubmission S))
  | initialInputRejected (settlement : ProxyInputResult S)
      (prepared : Option (WorkerSubmission S))
  | replacement (replacement : WorkerReplacement S)
  | unavailable

/-- `UnrecoveredMember`. -/
structure UnrecoveredMember where
  proxy : ProxyStoppingMember S
  ownership : FixedProxyOwnership S Message

/-- `RecoveryRosterOwner`. -/
inductive RecoveryRosterOwner where
  | preparing (recovery : PreparingRecovery S)
  | admitted (recovery : RecoveryBatch S)

/-- `RosterOwner`. -/
inductive RosterOwner where
  | starting (member : ProxyStartingMember S)
  | stopping (member : ProxyStoppingMember S)
  | online (member : OnlineMember S)
  | empty (member : EmptyMember S)
  | recovery (recovery : RecoveryRosterOwner S)
  | unrecovered (member : UnrecoveredMember S Message)
  | retired (member : RetiredProxyMember S)

end

variable {S : Signature} {Message : Type}

/-! ### Unrecovered members -/

namespace UnrecoveredMember

/-- `UnrecoveredMember::begin`. -/
def begin (member : StoppedMember S) (heap : ℕ) :
    UnrecoveredMember S Message × ProxyOperation S :=
  let (proxy, operation) :=
    ProxyStoppingMember.begin member.role member.creation member.proxy heap
  (⟨proxy, .workerStopped member.worker member.readiness (some member.stopped) none⟩, operation)

/-- `UnrecoveredMember::begin_replacement_failure`. -/
def beginReplacementFailure (member : OnlineMember S) (stopped : Option (ChildStopped S))
    (heap : ℕ) : UnrecoveredMember S Message × ProxyOperation S :=
  let ownership : FixedProxyOwnership S Message :=
    match stopped with
    | some stopped => .workerStopped member.worker member.readiness (some stopped) none
    | none => .ready member.worker member.readiness none
  let (proxy, operation) :=
    ProxyStoppingMember.begin member.role member.creation member.proxy heap
  (⟨proxy, ownership⟩, operation)

/-- `UnrecoveredMember::begin_after_worker_stop_transfer`. -/
def beginAfterWorkerStopTransfer (member : OnlineMember S) (heap : ℕ) :
    UnrecoveredMember S Message × ProxyOperation S :=
  let (proxy, operation) :=
    ProxyStoppingMember.begin member.role member.creation member.proxy heap
  (⟨proxy, .unavailable⟩, operation)

end UnrecoveredMember

/-- `EmptyMember::retire_prepared_worker`. -/
def EmptyMember.retirePreparedWorker (member : EmptyMember S) (prepared : WorkerSubmission S)
    (heap : ℕ) : UnrecoveredMember S Message × ProxyOperation S :=
  let (proxy, operation) :=
    ProxyStoppingMember.begin member.role member.creation member.proxy heap
  (⟨proxy, .workerStopped member.worker member.readiness member.stopped (some prepared)⟩,
    operation)

/-! ### Participants and owners -/

/-- `RecoveryParticipant::select`. -/
def RecoveryParticipant.select : RosterOwner S Message → Option (RecoveryParticipant S)
  | .starting (.inputDispatched role creation proxy witness) =>
    some (.initialInputDispatched role creation proxy witness)
  | .starting (.awaitingProxyOutcome role creation proxy operation) =>
    some (.awaitingInitialOutcome role creation proxy operation)
  | .online member => some (.online member)
  | _ => none

/-- `RecoveryParticipant::release`. -/
def RecoveryParticipant.release : RecoveryParticipant S → RosterOwner S Message
  | .stopped member => .empty member.retainStop
  | .initialInputDispatched role creation proxy witness =>
    .starting (.inputDispatched role creation proxy witness)
  | .awaitingInitialOutcome role creation proxy operation =>
    .starting (.awaitingProxyOutcome role creation proxy operation)
  | .online member => .online member

/-- `PreparedParticipant::cancel`. -/
def PreparedParticipant.cancel (participant : PreparedParticipant S) : RosterOwner S Message :=
  participant.member.release

namespace PreparingRecovery

/-- The roles a recovery selected, in declaration order. -/
def roles (recovery : PreparingRecovery S) : List (MemberRole S) :=
  recovery.beforeTrigger.map RecoveryParticipant.role ++
    recovery.trigger.role :: recovery.afterTrigger.map RecoveryParticipant.role

/-- `PreparingRecovery::selected_names`. -/
def selectedNames (beforeTrigger : List (RecoveryParticipant S)) (trigger : StoppedMember S)
    (afterTrigger : List (RecoveryParticipant S)) : S.Role × List S.Role :=
  match beforeTrigger with
  | first :: before =>
    (first.role.name, before.map (·.role.name) ++
      trigger.role.name :: afterTrigger.map (·.role.name))
  | [] => (trigger.role.name, afterTrigger.map (·.role.name))

/-- `PreparingRecovery::restore_peers_after_preparation_failure`. -/
def restorePeersAfterPreparationFailure (recovery : PreparingRecovery S) :
    List (RosterOwner S Message) :=
  (recovery.beforeTrigger ++ recovery.afterTrigger).map RecoveryParticipant.release

/-- The `Prepared` arm of `PreparingRecovery::accept`: one submission for each selected role. -/
def acceptPrepared (recovery : PreparingRecovery S) (members : List (PreparedWorker S)) :
    Option (PreparedRecovery S) :=
  if members.length = recovery.beforeTrigger.length + 1 + recovery.afterTrigger.length then
    match members.drop recovery.beforeTrigger.length with
    | [] => none
    | triggerPrepared :: rest =>
      let prepare (participant : RecoveryParticipant S) (prepared : PreparedWorker S) :
          PreparedParticipant S := ⟨participant, prepared.submission⟩
      some {
        beforeTrigger :=
          recovery.beforeTrigger.zipWith prepare (members.take recovery.beforeTrigger.length)
        trigger := recovery.trigger
        triggerSubmission := triggerPrepared.submission
        afterTrigger := recovery.afterTrigger.zipWith prepare rest }
  else none

end PreparingRecovery

/-- `ProxyInputAuthorization`. -/
inductive ProxyInputAuthorization (S : Signature) (Message : Type) where
  | issued (member : RosterOwner S Message) (operation : ProxyOperation S) (heap : ℕ)
  | continue' (member : RosterOwner S Message)
  | wait (member : RosterOwner S Message)

namespace RosterOwner

/-- The roles an owner holds. -/
def roles : RosterOwner S Message → List (MemberRole S)
  | .starting member => [member.role]
  | .stopping member => [member.role]
  | .online member => [member.role]
  | .empty member => [member.role]
  | .recovery (.preparing selected) => selected.roles
  | .recovery (.admitted batch) => batch.members.map RecoveryMember.role
  | .unrecovered member => [member.proxy.role]
  | .retired member => [member.role]

/-- `RosterOwner::append_status`. -/
def statuses : RosterOwner S Message → List (ℕ × MemberStatus S)
  | .starting member => [(member.role.position, member.phase.status)]
  | .stopping member => [(member.role.position, .stopping)]
  | .online member => [(member.role.position, .ready (S.recipient member.proxy))]
  | .empty member => [(member.role.position, .empty)]
  | .recovery (.preparing selected) =>
    selected.roles.map fun role => (role.position, .recovering)
  | .recovery (.admitted batch) =>
    batch.members.map fun member => (member.role.position, .recovering)
  | .unrecovered member => [(member.proxy.role.position, .stopping)]
  | .retired member => [(member.role.position, .retired)]

/-- `RosterOwner::capability`. -/
def capability [DecidableEq S.Role] (expected : S.Role) (owner : RosterOwner S Message) :
    Option (Except UnavailablePhase S.Recipient) :=
  if expected ∈ owner.roles.map (·.name) then
    some (match owner with
      | .starting member => .error member.phase
      | .stopping _ => .error .stopping
      | .online member => .ok (S.recipient member.proxy)
      | .empty _ => .error .empty
      | .recovery _ => .error .recovering
      | .unrecovered _ => .error .stopping
      | .retired _ => .error .retired)
  else none

/-- `RosterOwner::live_proxy_role`. -/
def liveProxyRole (child : ℕ) : RosterOwner S Message → Option S.Role
  | .starting member => member.liveProxyRole child
  | .stopping member => member.liveProxyRole child
  | .online member => if member.creation = child then some member.role.name else none
  | .empty member => member.liveProxyRole child
  | .recovery (.preparing selected) =>
    (selected.beforeTrigger ++ .stopped selected.trigger :: selected.afterTrigger).findSome?
      (RecoveryParticipant.liveProxyRole child)
  | .recovery (.admitted batch) =>
    batch.members.findSome? (RecoveryMember.liveProxyRole child)
  | .unrecovered member => member.proxy.liveProxyRole child
  | .retired _ => none

/-- `RosterOwner::first_roster_position`. -/
def firstRosterPosition (owner : RosterOwner S Message) : Option ℕ :=
  (owner.roles.map (·.position)).min?

/-- `RosterOwner::last_roster_position`. -/
def lastRosterPosition (owner : RosterOwner S Message) : Option ℕ :=
  (owner.roles.map (·.position)).max?

/-- `RosterOwner::authorization_count`. -/
def authorizationCount : RosterOwner S Message → ℕ
  | .starting member => member.authorizationCount
  | .recovery (.admitted batch) => batch.authorizationCount
  | _ => 0

/-- `RosterOwner::authorize`. -/
def authorize (heap : ℕ) : RosterOwner S Message → ProxyInputAuthorization S Message
  | .starting (.waitingForAuthorization role proxy witness operation) =>
    .issued (.starting (.inputDispatched role operation.creation proxy witness)) operation heap
  | .starting (.inputDispatched role creation proxy witness) =>
    .continue' (.starting (.inputDispatched role creation proxy witness))
  | .starting (.awaitingProxyOutcome role creation proxy operation) =>
    .continue' (.starting (.awaitingProxyOutcome role creation proxy operation))
  | .starting member => .wait (.starting member)
  | .recovery (.admitted batch) =>
    match batch.authorize heap with
    | some (batch, operation) => .issued (.recovery (.admitted batch)) operation (heap + 1)
    | none => .continue' (.recovery (.admitted batch))
  | owner => .continue' owner

/-- `RosterOwner::accept_operation`: the owner, and the role of a member that retired. -/
def acceptOperation (settlement : ProxyInputResult S) :
    RosterOwner S Message → Option (RosterOwner S Message × Option S.Role)
  | .starting member =>
    (member.acceptOperation settlement).map fun member => (.starting member, none)
  | .stopping member =>
    (member.acceptOperation settlement).map fun
      | .resume member => (.stopping member, none)
      | .stop departed => (.retired departed, some departed.role.name)
  | .unrecovered member =>
    (member.proxy.acceptOperation settlement).map fun
      | .resume proxy => (.unrecovered ⟨proxy, member.ownership⟩, none)
      | .stop departed => (.retired departed, some departed.role.name)
  | _ => none

/-- Whether the proxy of an owner that is being shut down is the one that stopped. -/
def acceptsStop (stopped : ChildStopped S) : RosterOwner S Message → Bool
  | .stopping member => member.acceptsStop stopped
  | .unrecovered member => member.proxy.acceptsStop stopped
  | _ => false

/-- What the owner that `accept_proxy_stop` found makes of the stop. -/
def acceptStop (stopped : ChildStopped S) :
    RosterOwner S Message → Option (RosterOwner S Message × Option S.Role)
  | .stopping member =>
    (member.acceptStop stopped).map fun
      | .resume member => (.stopping member, none)
      | .stop departed => (.retired departed, some departed.role.name)
  | .unrecovered member =>
    (member.proxy.acceptStop stopped).map fun
      | .resume proxy => (.unrecovered ⟨proxy, member.ownership⟩, none)
      | .stop departed => (.retired departed, some departed.role.name)
  | _ => none

/-- `RosterOwner::owns_online_proxy`, with the member. -/
def ownsOnlineProxy (child : ℕ) : RosterOwner S Message → Option (OnlineMember S)
  | .online member => if member.creation = child then some member else none
  | _ => none

end RosterOwner

/-! ### Rosters in operation -/

namespace FixedRoster

/-- The owners of a roster in operation. -/
abbrev Owners (S : Signature) (Message : Type) := List (RosterOwner S Message)

/-- `FixedRoster::accept_births`, once every member awaits the birth it is given. -/
def proxiesCreated : Owners S Message → List (StableProxyCreationSettlement S) →
    Option (Owners S Message)
  | [], [] => some []
  | .starting (.creatingProxy role witness operation) :: owners, settlement :: settlements =>
    if creationIdentity settlement = (operation.creation, .birth) then
      (proxiesCreated owners settlements).map
        (.starting (.proxyCreated role witness operation settlement) :: ·)
    else none
  | _, _ => none

/-- What the loop of `authorize` does with one owner while slots are left: what it becomes, what
it was given, and how many slots go on to the next owner, if any owner is still asked. -/
def authorizeOwner : (available heap : ℕ) → RosterOwner S Message →
    RosterOwner S Message × List (ProxyOperation S) × ℕ × Option ℕ
  | 0, heap, owner => (owner, [], heap, none)
  | available + 1, heap, owner =>
    match owner.authorize heap with
    | .issued owner operation heap =>
      let (owner, operations, heap, left) := authorizeOwner available heap owner
      (owner, operation :: operations, heap, left)
    | .continue' owner => (owner, [], heap, some (available + 1))
    | .wait owner => (owner, [], heap, none)

/-- The loop of `FixedRoster::authorize`. -/
def authorizeOwners : (available heap : ℕ) → Owners S Message →
    Owners S Message × List (ProxyOperation S) × ℕ
  | _, heap, [] => ([], [], heap)
  | available, heap, owner :: owners =>
    match authorizeOwner available heap owner with
    | (owner, operations, heap, none) => (owner :: owners, operations, heap)
    | (owner, operations, heap, some available) =>
      let (owners, later, heap) := authorizeOwners available heap owners
      (owner :: owners, operations ++ later, heap)

/-- The slots in use. -/
def occupied (owners : Owners S Message) : ℕ := (owners.map RosterOwner.authorizationCount).sum

/-- The order in which `authorize` asks the owners. -/
def declared (owners : Owners S Message) : Owners S Message :=
  Search.sortBy RosterOwner.firstRosterPosition owners

/-- `FixedRoster::authorize`; the slots in use are the error. -/
def authorize (maximum heap : ℕ) (owners : Owners S Message) :
    Owners S Message × Except ℕ (List (ProxyOperation S) × ℕ) :=
  if occupied owners ≤ maximum then
    let (owners, operations, heap) :=
      authorizeOwners (maximum - occupied owners) heap (declared owners)
    (owners, .ok (operations, heap))
  else (declared owners, .error (occupied owners))

/-- `FixedRoster::accept_operation`. -/
def acceptOperation (settlement : ProxyInputResult S) (owners : Owners S Message) :
    Option (Owners S Message × Option S.Role) :=
  match Search.first (RosterOwner.acceptOperation settlement) owners with
  | some (before, (owner, retired), after) => some (before ++ owner :: after, retired)
  | none => none

/-- `FixedRoster::accept_proxy_stop`. -/
def acceptProxyStop (stopped : ChildStopped S) (owners : Owners S Message) :
    Option (Owners S Message × Option S.Role) :=
  let accepts (owner : RosterOwner S Message) :=
    if owner.acceptsStop stopped then some owner else none
  match Search.first accepts owners with
  | some (before, owner, after) =>
    (owner.acceptStop stopped).map fun (owner, retired) => (before ++ owner :: after, retired)
  | none => none

/-- An owner that is an admitted recovery offers a value to the members of its batch. -/
def acceptBatch {Answer : Type} (accept : RecoveryBatch S → Option Answer) :
    RosterOwner S Message → Option Answer
  | .recovery (.admitted recovery) => accept recovery
  | _ => none

/-- The first admitted recovery that takes a value goes on in its place; a replacement that it
completed is taken out of it, and a recovery without members out of the roster. -/
def acceptRecovery
    (accept : RecoveryBatch S →
      Option (ControlFlow (RecoveryBatch S × ReplacementCompletion S) (RecoveryBatch S)))
    (owners : Owners S Message) :
    Option (ControlFlow (Owners S Message × ReplacementCompletion S) (Owners S Message)) :=
  match Search.first (acceptBatch accept) owners with
  | some (before, .resume recovery, after) =>
    some (.resume (before ++ .recovery (.admitted recovery) :: after))
  | some (before, .stop (recovery, completed), after) =>
    match recovery.members with
    | [] => some (.stop (before ++ after, completed))
    | _ :: _ => some (.stop (before ++ .recovery (.admitted recovery) :: after, completed))
  | none => none

/-- `FixedRoster::accept_replacement_operation`. -/
def acceptReplacementOperation (settlement : ProxyInputResult S) (owners : Owners S Message) :
    Option (ControlFlow (Owners S Message × ReplacementCompletion S) (Owners S Message)) :=
  acceptRecovery (RecoveryBatch.acceptReplacementOperation settlement) owners

/-- `FixedRoster::accept_recovery_report`. -/
def acceptRecoveryReport (report : ChildReport (ProxyOutcome S Message))
    (owners : Owners S Message) :
    Option (ControlFlow (Owners S Message × ReplacementCompletion S) (Owners S Message)) :=
  acceptRecovery (RecoveryBatch.acceptRecoveryReport report) owners

/-- `FixedRoster::accept_restart_schedule`: the recovery that a refused schedule took out of the
roster is with the owners that remain. -/
def acceptRestartSchedule (input : ScheduleSettled) (owners : Owners S Message) :
    Option (Owners S Message ⊕
      Owners S Message × PreparedRecovery S × ScheduleAfter × ScheduleAfterRejection) :=
  match Search.first (acceptBatch (RecoveryBatch.acceptSchedule input)) owners with
  | some (before, .waiting recovery, after) =>
    some (.inl (before ++ .recovery (.admitted recovery) :: after))
  | some (before, .rejected prepared request reason, after) =>
    some (.inr (before ++ after, prepared, request, reason))
  | none => none

/-- `FixedRoster::accept_restart_elapsed`. -/
def acceptRestartElapsed (elapsed : TimerElapsed) (owners : Owners S Message) :
    Option (Owners S Message) :=
  match Search.first (acceptBatch (RecoveryBatch.acceptElapsed elapsed)) owners with
  | some (before, recovery, after) => some (before ++ .recovery (.admitted recovery) :: after)
  | none => none

/-! ### Worker stops -/

/-- `FixedRoster::accept_worker_stop`: the stopped member and the owners that remain. -/
def acceptWorkerStop (child : ℕ) (worker : WorkerAttempt) (stopped : ChildStopped S)
    (owners : Owners S Message) : Option (Owners S Message × StoppedMember S) :=
  match Search.first (RosterOwner.ownsOnlineProxy child) owners with
  | some (before, member, after) =>
    if worker = member.worker then some (before ++ after, member.stop stopped) else none
  | none => none

/-- The selection of `AcceptedWorkerStop::begin_recovery`: the owners that stay, and the peers
before and after the trigger; `none` when a peer cannot be selected. -/
def selectPeers (strategy : Strategy) (trigger : ℕ) (owners : Owners S Message) :
    Option (Owners S Message × List (RecoveryParticipant S) × List (RecoveryParticipant S)) :=
  let owners := Search.sortBy RosterOwner.lastRosterPosition owners
  match strategy with
  | .oneForOne => some (owners, [], [])
  | .oneForAll =>
    (owners.mapM RecoveryParticipant.select).map fun selected =>
      let before (participant : RecoveryParticipant S) := participant.role.position < trigger
      ([], selected.filter before, selected.filter fun participant => ¬ before participant)
  | .restForOne =>
    let before (owner : RosterOwner S Message) :=
      owner.lastRosterPosition.any (· < trigger)
    ((owners.filter fun owner => ! before owner).mapM RecoveryParticipant.select).map
      fun selected => (owners.filter before, [], selected)

/-- The order in which `AcceptedWorkerStop::begin_recovery` hands the owners back when a peer
cannot be selected. -/
def deselected (strategy : Strategy) (trigger : ℕ) (owners : Owners S Message) :
    Owners S Message :=
  let owners := Search.sortBy RosterOwner.lastRosterPosition owners
  match strategy with
  | .restForOne =>
    let before (owner : RosterOwner S Message) :=
      owner.lastRosterPosition.any (· < trigger)
    owners.filter before ++ owners.filter fun owner => ! before owner
  | _ => owners

/-! ### Preparation -/

/-- An owner that is a preparing recovery. -/
def preparing (accepts : WorkerPreparationExpectation → Bool) :
    RosterOwner S Message → Option (PreparingRecovery S)
  | .recovery (.preparing recovery) => if accepts recovery.expected then some recovery else none
  | _ => none

/-- The preparing recovery that an answer is for, between the owners around it. -/
def expecting (accepts : WorkerPreparationExpectation → Bool) (owners : Owners S Message) :
    Option (Owners S Message × PreparingRecovery S × Owners S Message) :=
  Search.first (preparing accepts) owners

/-- `FixedRoster::snapshot`, of a roster in operation. -/
def snapshot (owners : Owners S Message) : FixedSnapshot S :=
  ⟨(Search.sortBy (fun status => some status.1)
    (owners.flatMap RosterOwner.statuses)).map Prod.snd⟩

end FixedRoster

end Bombay.Fixed
