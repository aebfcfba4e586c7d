/-
# The shutdown of a fixed roster

`crates/actors/src/templates/supervisor/roster/shutdown/mod.rs` and `shutdown/member.rs`:
every role gives up its worker work and waits for what it still owes, until nothing is
owed or the deadline passes.
-/

import Bombay.Fixed.Roster

namespace Bombay.Fixed

open Proxy (ProxyOutcome StableProxy)
open Directory (proxied ProxyOperation ProxyInputResult ChildReport
  StableProxyCreationSettlement admits resolve)

/-- `CancelledRecovery`. -/
inductive CancelledRecovery where
  | awaiting (timer : ScheduleKey)
  | returned (input : ScheduleSettled)

section

variable (S : Signature) (Message : Type)

/-- `FixedShutdownMember`. -/
inductive FixedShutdownMember where
  | awaitingProxyBirth (role : MemberRole S) (witness : ℕ) (operation : ProxyOperation S)
  | proxy (proxy : ControlFlow (RetiredProxyMember S) (ProxyStoppingMember S))
      (ownership : FixedProxyOwnership S Message)
      (preparation : Option WorkerPreparationExpectation)
  | absentProxy (role : MemberRole S) (witness : ℕ) (operation : ProxyOperation S)
      (settlement : Option (StableProxyCreationSettlement S))

/-- `FixedShutdown`. -/
structure FixedShutdown where
  members : List (FixedShutdownMember S Message)
  unroutedProxies : Option (CreationsSettled (proxied S))
  cancelledRecoveries : List CancelledRecovery
  deadline : ShutdownDeadline

/-- What one owner leaves to a shutdown, and the next free token. -/
structure Begun where
  members : List (FixedShutdownMember S Message)
  operations : List (ℕ × ProxyOperation S)
  cancelled : List CancelledRecovery
  heap : ℕ

end

variable {S : Signature} {Message : Type}

/-- `CancelledRecovery::accept_schedule`. -/
def CancelledRecovery.acceptSchedule (input : ScheduleSettled) :
    CancelledRecovery → Option CancelledRecovery
  | .awaiting timer => if timer.acceptsResult input then some (.returned input) else none
  | .returned _ => none

/-! ### What remains of a worker input -/

namespace FixedProxyOwnership

/-- `FixedProxyOwnership::accept_input`. -/
def acceptInput (settlement : ProxyInputResult S) :
    FixedProxyOwnership S Message → Option (FixedProxyOwnership S Message)
  | .initialInputDispatched witness prepared =>
    if admits witness settlement then
      match settlement with
      | .attempted (.accepted accepted) => some (.initialOutcomeWaiting accepted.operation prepared)
      | settlement => some (.initialInputRejected settlement prepared)
    else none
  | .replacement pending => (pending.acceptOperation settlement).map .replacement
  | _ => none

/-- `FixedProxyOwnership::accept_outcome`. -/
def acceptOutcome (outcome : ProxyOutcome S Message) :
    FixedProxyOwnership S Message → Option (FixedProxyOwnership S Message)
  | .initialOutcomeWaiting operation prepared =>
    match outcome with
    | .initial outcome => some (.initialOutcomeReceived operation (.initial outcome) prepared)
    | _ => none
  | .replacement pending =>
    match outcome with
    | .replacement outcome => (pending.acceptOutcome outcome).map .replacement
    | .workerStopped worker stopped =>
      (pending.acceptWorkerStop worker stopped).map .replacement
    | _ => none
  | _ => none

end FixedProxyOwnership

/-! ### Members -/

namespace FixedShutdownMember

/-- The role of a member (`FixedShutdownMember::position`). -/
def role : FixedShutdownMember S Message → MemberRole S
  | .awaitingProxyBirth role .. => role
  | .proxy (.resume stopping) .. => stopping.role
  | .proxy (.stop retired) .. => retired.role
  | .absentProxy role .. => role

/-- The phase that `append_status` and `capability_phase` read. -/
def phase : FixedShutdownMember S Message → UnavailablePhase
  | .awaitingProxyBirth .. => .stopping
  | .proxy (.resume _) .. => .stopping
  | .proxy (.stop _) .. => .retired
  | .absentProxy .. => .retired

/-- `FixedShutdownMember::live_proxy_role`. -/
def liveProxyRole (child : ℕ) : FixedShutdownMember S Message → Option S.Role
  | .proxy (.resume stopping) .. => stopping.liveProxyRole child
  | _ => none

/-- `FixedShutdownMember::is_unresolved`. -/
def isUnresolved : FixedShutdownMember S Message → Bool
  | .awaitingProxyBirth .. => true
  | .proxy (.resume _) .. => true
  | .proxy (.stop _) ownership preparation =>
    match ownership with
    | .replacement ⟨_, _, _, .inputPending _⟩ => true
    | .replacement ⟨_, _, _, .outcomePending _⟩ => true
    | _ => preparation.isSome
  | .absentProxy .. => false

/-- `FixedShutdownMember::into_awaiting_proxy`. -/
def intoAwaitingProxy : FixedShutdownMember S Message → Option (MemberRole S × ℕ × ProxyOperation S)
  | .awaitingProxyBirth role witness operation => some (role, witness, operation)
  | _ => none

/-- `FixedShutdownMember::accept_operation`: the shutdown of the proxy is asked first. -/
def acceptOperation (settlement : ProxyInputResult S) :
    FixedShutdownMember S Message → Option (FixedShutdownMember S Message)
  | .proxy (.resume stopping) ownership preparation =>
    match stopping.acceptOperation settlement with
    | some custody => some (.proxy custody ownership preparation)
    | none =>
      (ownership.acceptInput settlement).map fun ownership =>
        .proxy (.resume stopping) ownership preparation
  | .proxy (.stop retired) ownership preparation =>
    (ownership.acceptInput settlement).map fun ownership =>
      .proxy (.stop retired) ownership preparation
  | _ => none

/-- `FixedShutdownMember::owns_outcome_source`. -/
def ownsOutcomeSource (child : ℕ) : FixedShutdownMember S Message → Bool
  | .proxy (.resume stopping) .. => stopping.creation == child
  | .proxy (.stop retired) .. => retired.stopped.child == child
  | _ => false

/-- `FixedShutdownMember::accept_outcome`. -/
def acceptOutcome (outcome : ProxyOutcome S Message) :
    FixedShutdownMember S Message → Option (FixedShutdownMember S Message)
  | .proxy custody ownership preparation =>
    (ownership.acceptOutcome outcome).map fun ownership => .proxy custody ownership preparation
  | _ => none

/-- `FixedShutdownMember::accepts_stop`. -/
def acceptsStop (stopped : ChildStopped S) : FixedShutdownMember S Message → Bool
  | .proxy (.resume stopping) .. => stopping.acceptsStop stopped
  | _ => false

/-- `FixedShutdownMember::accept_stop`. -/
def acceptStop (stopped : ChildStopped S) :
    FixedShutdownMember S Message → Option (FixedShutdownMember S Message)
  | .proxy (.resume stopping) ownership preparation =>
    (stopping.acceptStop stopped).map fun custody => .proxy custody ownership preparation
  | _ => none

/-- `FixedShutdownMember::accept_preparation_start`: a preparation that did not start comes
back. -/
def acceptPreparationStart (result : PreparationStarted S) :
    FixedShutdownMember S Message →
      Option (ControlFlow (FixedShutdownMember S Message × PreparationStarted S)
        (FixedShutdownMember S Message))
  | .proxy custody ownership (some expected) =>
    if expected.acceptsIssued result then
      match result with
      | .attempted (.accepted started) =>
        (expected.acceptStart started).map fun expected =>
          .resume (.proxy custody ownership (some expected))
      | result => some (.stop (.proxy custody ownership none, result))
    else none
  | _ => none

/-- `FixedShutdownMember::accept_preparation_return`. -/
def acceptPreparationReturn (returned : WorkerPreparation S) :
    FixedShutdownMember S Message → Option (FixedShutdownMember S Message)
  | .proxy custody ownership (some expected) =>
    if expected.acceptsReturn returned then some (.proxy custody ownership none) else none
  | _ => none

end FixedShutdownMember

/-! ### The beginning -/

/-- A member whose proxy is asked to shut down, with the request. -/
def Begun.proxy (role : MemberRole S) (creation : ℕ) (proxy : S.Actor)
    (ownership : FixedProxyOwnership S Message)
    (preparation : Option WorkerPreparationExpectation) (heap : ℕ) : Begun S Message :=
  let (proxy, operation) := ProxyStoppingMember.begin role creation proxy heap
  ⟨[.proxy (.resume proxy) ownership preparation], [(role.position, operation)], [], heap + 1⟩

/-- A member that asks for nothing. -/
def Begun.quiet (member : FixedShutdownMember S Message) (heap : ℕ) : Begun S Message :=
  ⟨[member], [], [], heap⟩

/-- One part of a shutdown after another. -/
def Begun.append (first second : Begun S Message) : Begun S Message where
  members := first.members ++ second.members
  operations := first.operations ++ second.operations
  cancelled := first.cancelled ++ second.cancelled
  heap := second.heap

/-- Begin with each of a list of owners or members in turn. -/
def Begun.all {α : Type} (begin : α → ℕ → Begun S Message) : List α → ℕ → Begun S Message
  | [], heap => ⟨[], [], [], heap⟩
  | a :: rest, heap => (begin a heap).append (Begun.all begin rest (begin a heap).heap)

/-- `RecoveryParticipant::begin_shutdown`. -/
def RecoveryParticipant.beginShutdown (prepared : Option (WorkerSubmission S)) :
    RecoveryParticipant S → ℕ → Begun S Message
  | .stopped member =>
    Begun.proxy member.role member.creation member.proxy
      (.workerStopped member.worker member.readiness (some member.stopped) prepared) none
  | .initialInputDispatched role creation proxy witness =>
    Begun.proxy role creation proxy (.initialInputDispatched witness prepared) none
  | .awaitingInitialOutcome role creation proxy operation =>
    Begun.proxy role creation proxy (.initialOutcomeWaiting operation prepared) none
  | .online member =>
    Begun.proxy member.role member.creation member.proxy
      (.ready member.worker member.readiness prepared) none

/-- `PreparedParticipant::begin_shutdown`. -/
def PreparedParticipant.beginShutdown (participant : PreparedParticipant S) :
    ℕ → Begun S Message :=
  participant.member.beginShutdown (some participant.submission)

/-- `RecoveryMember::begin_shutdown`. -/
def RecoveryMember.beginShutdown : RecoveryMember S → ℕ → Begun S Message
  | .waiting member submission => member.beginShutdown (some submission)
  | .replacing role creation proxy replacement =>
    Begun.proxy role creation proxy (.replacement replacement) none

/-- `RecoveryBatch::begin_shutdown`. -/
def RecoveryBatch.beginShutdown (batch : RecoveryBatch S) (heap : ℕ) : Begun S Message :=
  let begun := Begun.all RecoveryMember.beginShutdown batch.members heap
  { begun with
    cancelled := match batch.release with
      | .scheduling timer => [.awaiting timer]
      | _ => [] }

/-- The owners of a preparing recovery are released, its trigger with the preparation. -/
def RosterOwner.opened (owner : RosterOwner S Message) :
    List (RosterOwner S Message × Option WorkerPreparationExpectation) :=
  match owner with
  | .recovery (.preparing selected) =>
    selected.beforeTrigger.map (fun participant => (participant.release, none)) ++
      (.empty selected.trigger.retainStop, some selected.expected) ::
        selected.afterTrigger.map fun participant => (participant.release, none)
  | owner => [(owner, none)]

/-- The loop body of `FixedShutdown::begin`. -/
def RosterOwner.beginShutdown :
    RosterOwner S Message × Option WorkerPreparationExpectation → ℕ → Begun S Message
  | (.starting (.creatingProxy role witness operation), _) =>
    Begun.quiet (.awaitingProxyBirth role witness operation)
  | (.starting (.waitingForAuthorization role proxy witness operation), preparation) =>
    Begun.proxy role operation.creation proxy (.initialInputCancelled witness operation) preparation
  | (.starting (.inputDispatched role creation proxy witness), preparation) =>
    Begun.proxy role creation proxy (.initialInputDispatched witness none) preparation
  | (.starting (.awaitingProxyOutcome role creation proxy operation), preparation) =>
    Begun.proxy role creation proxy (.initialOutcomeWaiting operation none) preparation
  | (.starting (.proxyInputRejected role creation proxy settlement), preparation) =>
    Begun.proxy role creation proxy (.initialInputRejected settlement none) preparation
  | (.starting (.proxyBirthRejected role witness operation settlement), _) =>
    Begun.quiet (.absentProxy role witness operation (some settlement))
  | (.online member, preparation) =>
    Begun.proxy member.role member.creation member.proxy
      (.ready member.worker member.readiness none) preparation
  | (.empty member, preparation) =>
    Begun.proxy member.role member.creation member.proxy
      (.workerStopped member.worker member.readiness member.stopped none) preparation
  | (.recovery (.admitted batch), _) => batch.beginShutdown
  -- a preparing recovery was opened into the owners it selected
  | (.recovery (.preparing _), _) => fun heap => ⟨[], [], [], heap⟩
  | (.unrecovered member, _) => Begun.quiet (.proxy (.resume member.proxy) member.ownership none)
  | (.stopping member, preparation) =>
    Begun.quiet (.proxy (.resume member) .unavailable preparation)
  | (.retired member, preparation) => Begun.quiet (.proxy (.stop member) .unavailable preparation)

namespace FixedShutdown

/-- The members in declaration order. -/
def declared (members : List (FixedShutdownMember S Message)) :
    List (FixedShutdownMember S Message) :=
  Search.sortBy (fun member => some member.role.position) members

/-- The requests in declaration order. -/
def ordered (operations : List (ℕ × ProxyOperation S)) : List (ℕ × ProxyOperation S) :=
  Search.sortBy (fun operation => some operation.1) operations

/-- `FixedShutdown::begin`: the shutdown, its requests by position, its schedule and the next
free token. -/
def begin (owners : List (RosterOwner S Message)) (actorDrain : ActorDrainPolicy) (heap : ℕ) :
    FixedShutdown S Message × List (ℕ × ProxyOperation S) × Option ScheduleAfter × ℕ :=
  let begun := Begun.all RosterOwner.beginShutdown (owners.flatMap RosterOwner.opened) heap
  let (deadline, schedule) := ShutdownDeadline.begin actorDrain
  (⟨declared begun.members, none, begun.cancelled, deadline⟩, ordered begun.operations, schedule,
    begun.heap)

/-- `FixedShutdown::begin_with_unissued_replacements`. -/
def beginWithUnissuedReplacements (owners : List (RosterOwner S Message))
    (replacements : UnissuedReplacements S) (actorDrain : ActorDrainPolicy) (heap : ℕ) :
    FixedShutdown S Message × List (ℕ × ProxyOperation S) × Option ScheduleAfter × ℕ :=
  let (shutdown, operations, schedule, heap) := begin owners actorDrain heap
  let peers := Begun.all PreparedParticipant.beginShutdown replacements.peers heap
  let (trigger, operation) : UnrecoveredMember S Message × ProxyOperation S :=
    replacements.trigger.retirePreparedWorker replacements.triggerSubmission peers.heap
  let member := .proxy (.resume trigger.proxy) trigger.ownership none
  ({ shutdown with members := declared (shutdown.members ++ peers.members ++ [member]) },
    ordered (operations ++ peers.operations ++ [(replacements.trigger.role.position, operation)]),
    schedule, peers.heap + 1)

/-- `FixedShutdown::into_step`; whether the worker source is still out decides the last case. -/
def step (shutdown : FixedShutdown S Message) (sourceIsOut : Bool) : Step :=
  match shutdown.deadline with
  | .notScheduled _ => .stop
  | .elapsed _ => .stop
  | _ =>
    let awaited (recovery : CancelledRecovery) :=
      match recovery with
      | .awaiting _ => true
      | .returned _ => false
    if shutdown.cancelledRecoveries.any awaited then .continue'
    else if shutdown.members.any FixedShutdownMember.isUnresolved then .continue'
    else if sourceIsOut then .continue' else .stop

/-- The first member that takes a value. -/
def acceptMember (accept : FixedShutdownMember S Message → Option (FixedShutdownMember S Message))
    (shutdown : FixedShutdown S Message) : Option (FixedShutdown S Message) :=
  match Search.first accept shutdown.members with
  | some (before, member, after) => some { shutdown with members := before ++ member :: after }
  | none => none

/-- The member that owns a value, when it takes it. -/
def acceptOwned (owns : FixedShutdownMember S Message → Bool)
    (accept : FixedShutdownMember S Message → Option (FixedShutdownMember S Message))
    (shutdown : FixedShutdown S Message) : Option (FixedShutdown S Message) :=
  match Search.first (fun member => if owns member then some member else none) shutdown.members with
  | some (before, member, after) =>
    (accept member).map fun member => { shutdown with members := before ++ member :: after }
  | none => none

/-- `FixedShutdown::accept_operation`. -/
def acceptOperation (settlement : ProxyInputResult S) (shutdown : FixedShutdown S Message) :
    Option (FixedShutdown S Message) :=
  shutdown.acceptMember (FixedShutdownMember.acceptOperation settlement)

/-- `FixedShutdown::accept_outcome`. -/
def acceptOutcome (report : ChildReport (ProxyOutcome S Message))
    (shutdown : FixedShutdown S Message) : Option (FixedShutdown S Message) :=
  shutdown.acceptOwned (FixedShutdownMember.ownsOutcomeSource report.child)
    (FixedShutdownMember.acceptOutcome report.report)

/-- `FixedShutdown::accept_stop`. -/
def acceptStop (stopped : ChildStopped S) (shutdown : FixedShutdown S Message) :
    Option (FixedShutdown S Message) :=
  shutdown.acceptOwned (FixedShutdownMember.acceptsStop stopped)
    (FixedShutdownMember.acceptStop stopped)

/-- `FixedShutdown::accept_schedule`: the cancelled recoveries are asked before the deadline. -/
def acceptSchedule (input : ScheduleSettled) (shutdown : FixedShutdown S Message) :
    Option (FixedShutdown S Message) :=
  match Search.first (CancelledRecovery.acceptSchedule input) shutdown.cancelledRecoveries with
  | some (before, recovery, after) =>
    some { shutdown with cancelledRecoveries := before ++ recovery :: after }
  | none =>
    (shutdown.deadline.acceptSchedule input).map fun deadline =>
      { shutdown with deadline := deadline }

/-- `FixedShutdown::accept_elapsed`. -/
def acceptElapsed (elapsed : TimerElapsed) (shutdown : FixedShutdown S Message) :
    Option (FixedShutdown S Message) :=
  (shutdown.deadline.acceptElapsed elapsed).map fun deadline =>
    { shutdown with deadline := deadline }

/-- `FixedShutdown::accept_preparation_start`. -/
def acceptPreparationStart (result : PreparationStarted S) (shutdown : FixedShutdown S Message) :
    Option (ControlFlow (FixedShutdown S Message × PreparationStarted S)
      (FixedShutdown S Message)) :=
  match Search.first (FixedShutdownMember.acceptPreparationStart result) shutdown.members with
  | some (before, .resume member, after) =>
    some (.resume { shutdown with members := before ++ member :: after })
  | some (before, .stop (member, returned), after) =>
    some (.stop ({ shutdown with members := before ++ member :: after }, returned))
  | none => none

/-- `FixedShutdown::accept_preparation_return`. -/
def acceptPreparationReturn (returned : WorkerPreparation S) (shutdown : FixedShutdown S Message) :
    Option (FixedShutdown S Message) :=
  shutdown.acceptMember (FixedShutdownMember.acceptPreparationReturn returned)

/-- The proxies of a settled batch: those that exist are asked to shut down. -/
def proxiesCreated : List (MemberRole S × ℕ × ProxyOperation S) →
    List (StableProxyCreationSettlement S) → ℕ → Begun S Message
  | (role, witness, operation) :: awaiting, settlement :: settlements, heap =>
    let begun : Begun S Message :=
      match resolve settlement with
      | .committed proxy =>
        Begun.proxy role operation.creation proxy (.initialInputCancelled witness operation) none
          heap
      | .rejected settlement =>
        Begun.quiet (.absentProxy role witness operation (some settlement)) heap
    begun.append (proxiesCreated awaiting settlements begun.heap)
  | _, _, heap => ⟨[], [], [], heap⟩

/-- `FixedShutdown::accept_births`. -/
def acceptBirths (proxies : CreationsSettled (proxied S)) (shutdown : FixedShutdown S Message)
    (heap : ℕ) : Option (FixedShutdown S Message × List (ProxyOperation S) × ℕ) :=
  match shutdown.unroutedProxies with
  | some _ => none
  | none =>
    match shutdown.members.mapM FixedShutdownMember.intoAwaitingProxy with
    | none => none
    | some awaiting =>
      if identities proxies = awaiting.map fun waiting => (waiting.2.2.creation, .birth) then
        match proxies with
        | .settled settlements =>
          let begun : Begun S Message := proxiesCreated awaiting settlements heap
          some ({ shutdown with members := begun.members }, begun.operations.map Prod.snd,
            begun.heap)
        | proxies =>
          let absent (waiting : MemberRole S × ℕ × ProxyOperation S) :
              FixedShutdownMember S Message :=
            .absentProxy waiting.1 waiting.2.1 waiting.2.2 none
          some ({ shutdown with members := awaiting.map absent, unroutedProxies := some proxies },
            [], heap)
      else none

end FixedShutdown

end Bombay.Fixed
