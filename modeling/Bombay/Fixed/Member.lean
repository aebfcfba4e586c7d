/-
# Members of a fixed roster

`crates/actors/src/templates/supervisor/roster/member.rs`, `proxy/start.rs`,
`proxy/outcome.rs`, `proxy/stop.rs` and `recovery/stop.rs`: one role and what is known of
its stable proxy, outside of a recovery.

A `ProxyOperationWitness` and the `ProxyOperationId` it was reserved with are one token
of the supervisor's heap.  A value that an owner does not take is handed back: the
answer is `none`.
-/

import Bombay.Fixed.Protocol
import Bombay.Directory.Transition

namespace Bombay.Fixed

open Proxy (ProxyOutcome InitialWorkerOutcome ReplacementOutcome WorkerStartResult)
open Directory (ProxyOperation ProxyInputResult ChildInputReason ChildReport
  StableProxyCreationSettlement admits resolve)

section

variable (S : Signature)

/-- `OnlineMember`. -/
structure OnlineMember where
  role : MemberRole S
  creation : ℕ
  proxy : S.Actor
  worker : WorkerAttempt
  readiness : S.Ready

/-- `StoppedMember`. -/
structure StoppedMember where
  role : MemberRole S
  creation : ℕ
  proxy : S.Actor
  worker : WorkerAttempt
  readiness : S.Ready
  stopped : ChildStopped S

/-- `EmptyMember`. -/
structure EmptyMember where
  role : MemberRole S
  creation : ℕ
  proxy : S.Actor
  worker : WorkerAttempt
  readiness : S.Ready
  stopped : Option (ChildStopped S)

/-- `ProxyStartingMember`. -/
inductive ProxyStartingMember where
  | creatingProxy (role : MemberRole S) (witness : ℕ) (operation : ProxyOperation S)
  | waitingForAuthorization (role : MemberRole S) (proxy : S.Actor) (witness : ℕ)
      (operation : ProxyOperation S)
  | inputDispatched (role : MemberRole S) (creation : ℕ) (proxy : S.Actor) (witness : ℕ)
  | awaitingProxyOutcome (role : MemberRole S) (creation : ℕ) (proxy : S.Actor) (operation : ℕ)
  | proxyInputRejected (role : MemberRole S) (creation : ℕ) (proxy : S.Actor)
      (settlement : ProxyInputResult S)
  | proxyBirthRejected (role : MemberRole S) (witness : ℕ) (operation : ProxyOperation S)
      (settlement : StableProxyCreationSettlement S)

/-- `ProxyShutdown`. -/
inductive ProxyShutdown where
  | dispatched (witness : ℕ)
  | accepted (operation : ℕ)
  | rejected (input : ProxyInputResult S)

/-- `RetiredProxyMember`. -/
structure RetiredProxyMember where
  role : MemberRole S
  stopped : ChildStopped S
  rejected : Option (S.Actor × ProxyInputResult S)

/-- `ProxyStoppingMember`. -/
structure ProxyStoppingMember where
  role : MemberRole S
  creation : ℕ
  proxy : S.Actor
  shutdown : ProxyShutdown S
  stopped : Option (ChildStopped S)

/-- `ReplacementResponse`. -/
inductive ReplacementResponse where
  | inputPending (witness : ℕ)
  | outcomePending (operation : ℕ)
  | outcomeReturned (outcome : ReplacementOutcome S)
  | inputRejected (operation : ProxyOperation S) (reason : ChildInputReason)

/-- `WorkerReplacement`. -/
structure WorkerReplacement where
  previous : WorkerAttempt
  readiness : S.Ready
  stopped : Option (ChildStopped S)
  response : ReplacementResponse S

end

variable {S : Signature} {Message : Type}

/-! ### A member that starts -/

namespace ProxyStartingMember

/-- The role, under any phase (`role_phase`). -/
def role : ProxyStartingMember S → MemberRole S
  | .creatingProxy role .. => role
  | .waitingForAuthorization role .. => role
  | .inputDispatched role .. => role
  | .awaitingProxyOutcome role .. => role
  | .proxyInputRejected role .. => role
  | .proxyBirthRejected role .. => role

/-- The phase that `role_phase` names. -/
def phase : ProxyStartingMember S → UnavailablePhase
  | .creatingProxy .. => .creatingProxy
  | .waitingForAuthorization .. => .waitingForStartup
  | .inputDispatched .. => .awaitingProxy
  | .awaitingProxyOutcome .. => .awaitingProxy
  | .proxyInputRejected .. => .awaitingProxy
  | .proxyBirthRejected .. => .creatingProxy

/-- `ProxyStartingMember::live_proxy_role`. -/
def liveProxyRole (child : ℕ) : ProxyStartingMember S → Option S.Role
  | .waitingForAuthorization role _ _ operation =>
    if operation.creation = child then some role.name else none
  | .inputDispatched role creation .. => if creation = child then some role.name else none
  | .awaitingProxyOutcome role creation .. => if creation = child then some role.name else none
  | .proxyInputRejected role creation .. => if creation = child then some role.name else none
  | .creatingProxy .. => none
  | .proxyBirthRejected .. => none

/-- `ProxyStartingMember::proxy_created`. -/
def proxyCreated (role : MemberRole S) (witness : ℕ) (operation : ProxyOperation S)
    (settlement : StableProxyCreationSettlement S) : ProxyStartingMember S :=
  match resolve settlement with
  | .committed proxy => .waitingForAuthorization role proxy witness operation
  | .rejected settlement => .proxyBirthRejected role witness operation settlement

/-- `ProxyStartingMember::authorization_count`. -/
def authorizationCount : ProxyStartingMember S → ℕ
  | .inputDispatched .. => 1
  | .awaitingProxyOutcome .. => 1
  | _ => 0

/-- `ProxyStartingMember::accept_operation`. -/
def acceptOperation (member : ProxyStartingMember S) (settlement : ProxyInputResult S) :
    Option (ProxyStartingMember S) :=
  match member with
  | .inputDispatched role creation proxy witness =>
    if admits witness settlement then
      match settlement with
      | .attempted (.accepted accepted) =>
        some (.awaitingProxyOutcome role accepted.creation accepted.proxy accepted.operation)
      | settlement => some (.proxyInputRejected role creation proxy settlement)
    else none
  | _ => none

end ProxyStartingMember

/-! ### A member whose proxy shuts down -/

namespace ProxyStoppingMember

/-- `ProxyStoppingMember::live_proxy_role`. -/
def liveProxyRole (child : ℕ) (member : ProxyStoppingMember S) : Option S.Role :=
  match member.stopped with
  | none => if child = member.creation then some member.role.name else none
  | some _ => none

/-- `ProxyStoppingMember::begin`; the caller counts the token. -/
def begin (role : MemberRole S) (creation : ℕ) (proxy : S.Actor) (heap : ℕ) :
    ProxyStoppingMember S × ProxyOperation S :=
  (⟨role, creation, proxy, .dispatched heap, none⟩, .shutdown creation heap)

variable (member : ProxyStoppingMember S)

/-- `ProxyStoppingMember::finish`. -/
def finish :
    ControlFlow (RetiredProxyMember S) (ProxyStoppingMember S) :=
  match member.shutdown, member.stopped with
  | .accepted _, some stopped => .stop ⟨member.role, stopped, none⟩
  | .rejected input, some stopped => .stop ⟨member.role, stopped, some (member.proxy, input)⟩
  | _, _ => .resume member

/-- `ProxyStoppingMember::accept_operation`. -/
def acceptOperation (settlement : ProxyInputResult S) :
    Option (ControlFlow (RetiredProxyMember S) (ProxyStoppingMember S)) :=
  match member.shutdown with
  | .dispatched witness =>
    if admits witness settlement then
      match settlement with
      | .attempted (.accepted receipt) =>
        if receipt.creation = member.creation then
          some { member with proxy := receipt.proxy, shutdown := .accepted receipt.operation }.finish
        else some { member with shutdown := .rejected settlement }.finish
      | settlement => some { member with shutdown := .rejected settlement }.finish
    else none
  | _ => none

/-- `ProxyStoppingMember::accepts_stop`. -/
def acceptsStop (stopped : ChildStopped S) : Bool :=
  member.creation == stopped.child

/-- `ProxyStoppingMember::accept_stop`. -/
def acceptStop (stopped : ChildStopped S) :
    Option (ControlFlow (RetiredProxyMember S) (ProxyStoppingMember S)) :=
  match member.stopped with
  | none => some { member with stopped := some stopped }.finish
  | some _ => none

end ProxyStoppingMember

/-! ### A member whose worker stopped -/

namespace StoppedMember

/-- `StoppedMember::live_proxy_role`. -/
def liveProxyRole (child : ℕ) (member : StoppedMember S) : Option S.Role :=
  if member.creation = child then some member.role.name else none

/-- `StoppedMember::into_empty`. -/
def intoEmpty (member : StoppedMember S) : EmptyMember S × ChildStopped S :=
  (⟨member.role, member.creation, member.proxy, member.worker, member.readiness, none⟩,
    member.stopped)

/-- `StoppedMember::retain_stop`. -/
def retainStop (member : StoppedMember S) : EmptyMember S :=
  ⟨member.role, member.creation, member.proxy, member.worker, member.readiness,
    some member.stopped⟩

end StoppedMember

/-- `EmptyMember::live_proxy_role`. -/
def EmptyMember.liveProxyRole (child : ℕ) (member : EmptyMember S) : Option S.Role :=
  if member.creation = child then some member.role.name else none

/-- `OnlineMember` after its worker stopped. -/
def OnlineMember.stop (member : OnlineMember S) (stopped : ChildStopped S) : StoppedMember S :=
  ⟨member.role, member.creation, member.proxy, member.worker, member.readiness, stopped⟩

/-- The online member that `AcceptedWorkerStop::reject` puts back. -/
def StoppedMember.restore (member : StoppedMember S) : OnlineMember S :=
  ⟨member.role, member.creation, member.proxy, member.worker, member.readiness⟩

/-! ### A worker that is replaced -/

namespace WorkerReplacement

/-- `WorkerReplacement::accept_operation`: a fault or a skipped request is handed back. -/
def acceptOperation (replacement : WorkerReplacement S) (settlement : ProxyInputResult S) :
    Option (WorkerReplacement S) :=
  match replacement.response with
  | .inputPending witness =>
    match settlement with
    | .attempted (.accepted receipt) =>
      if witness = receipt.operation then
        some { replacement with response := .outcomePending receipt.operation }
      else none
    | .attempted (.rejected operation reason) =>
      if witness = operation.operation then
        some { replacement with response := .inputRejected operation reason }
      else none
    | .attempted (.corrupt _ _) => none
    | .unattempted _ => none
  | _ => none

/-- `WorkerReplacement::accept_outcome`. -/
def acceptOutcome (replacement : WorkerReplacement S) (outcome : ReplacementOutcome S) :
    Option (WorkerReplacement S) :=
  match replacement.response with
  | .outcomePending _ =>
    if Directory.replacedAttempt outcome = some replacement.previous then
      some { replacement with response := .outcomeReturned outcome }
    else none
  | _ => none

/-- `WorkerReplacement::accept_worker_stop`. -/
def acceptWorkerStop (replacement : WorkerReplacement S) (worker : WorkerAttempt)
    (stopped : ChildStopped S) : Option (WorkerReplacement S) :=
  match replacement.stopped with
  | none =>
    if worker = replacement.previous then some { replacement with stopped := some stopped }
    else none
  | some _ => none

end WorkerReplacement

end Bombay.Fixed
