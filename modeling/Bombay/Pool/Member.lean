/-
# One role of a pool

`crates/actors/src/templates/pool/worker.rs`, first half: a `Member` keeps its
role for the whole life of the pool while its `MemberState` goes from creation
through initialization, startup and work to recovery or retirement.  A function
that cannot use its input hands the member back together with it, as the source
does; `Member::…_cases` lemmas at the end say everything each of them can do.
-/

import Bombay.Pool.Assignment
import Bombay.Lib.Roster

namespace Bombay

section

variable (S : Signature)

/-- `WorkerPreparationError`. -/
inductive WorkerPreparationError where
  | workerRejected (reason : S.WorkerRejection)
  | sourceRejected (reason : S.SourceRejection)
  | interpreterCorrupt (fault : InterpreterFault)
  | interpretationSkipped
  | sourceStateCorrupt

/-- `CurrentWorker<W>`. -/
structure CurrentWorker where
  attempt : WorkerAttempt
  actor : S.Actor

/-- `CreatingWorker<W, P>`. -/
structure CreatingWorker where
  attempt : WorkerAttempt
  initialization : InitializationAttempt
  startup : S.Plan
  kind : CreationKind
  stopped : Option (ChildStopped S)

/-- `ShutdownJoin`: a requested shutdown and the stop it causes, in any order. -/
inductive ShutdownJoin where
  | awaitingBoth (request : ℕ)
  | awaitingStop (settlement : EstablishedShutdownResolved)
  | awaitingSettlement (request : ℕ) (stopped : ChildStopped S)

/-- `WorkerPhase<W, P, AssignedJob>`. -/
inductive WorkerPhase where
  | initializing (initialization : InitializationAttempt) (stopped : Option (ChildStopped S))
  | waitingForStartup (permit : StartupPermit S) (startup : S.Plan)
  | startupRequested (attempt : WorkerStartupGrant) (stopped : Option (ChildStopped S))
  | starting (attempt : WorkerStartupGrant) (stopped : Option (ChildStopped S))
  | idle
  | busy (assigned : AssignedJob S)
  | stopping (join : ShutdownJoin S)

/-- `RecoveringWorker<W, P>`. -/
inductive RecoveringWorker where
  | waitingForSource (previous : WorkerAttempt) (stopped : ChildStopped S)
  | preparing (previous : WorkerAttempt) (stopped : ChildStopped S)
      (preparation : WorkerPreparationExpectation)
  | scheduling (previous : WorkerAttempt) (stopped : ChildStopped S)
      (submission : WorkerSubmission S) (timer : ScheduleKey)
  | waitingForTimer (previous : WorkerAttempt) (stopped : ChildStopped S)
      (submission : WorkerSubmission S) (timer : ScheduleKey)

/-- `MemberState<W, P, Job, WorkerResult, Customer>`. -/
inductive MemberState where
  | creating (worker : CreatingWorker S)
  | worker (current : CurrentWorker S) (phase : WorkerPhase S)
  | recovering (worker : RecoveringWorker S)
  | retired

/-- `Member<Role, W, P, Job, WorkerResult, Customer>`. -/
structure Member where
  role : S.Role
  recoveries : RecoveryCount
  state : MemberState S

/-- `WorkerReplacementError`. -/
inductive WorkerReplacementError where
  | poolShutdown
  | restartDenied (reason : RestartDenial)
  | workerCreationsExhausted
  | restartTimersExhausted
  | restartScheduleReturned (settlement : ScheduleSettled)
  | sourceStateCorrupt

/-- `WorkerReplacementRelease`. -/
inductive WorkerReplacementRelease where
  | now (creation : ℕ)
  | after (timer : ScheduleKey) (delay : ℕ)

/-- `PendingWorkerReplacement<W, P>`. -/
structure PendingWorkerReplacement where
  previous : WorkerAttempt
  stopped : ChildStopped S
  submission : WorkerSubmission S

/-- `PreparedReplacement<Role, W, P, Source>`. -/
structure PreparedReplacement where
  role : S.Role
  recoveries : RecoveryCount
  previous : WorkerAttempt
  stopped : ChildStopped S
  source : S.Source
  submission : WorkerSubmission S

/-- `WorkerPreparationStartFault`. -/
inductive WorkerPreparationStartFault where
  | interpreterCorrupt (fault : InterpreterFault)
  | interpretationSkipped

/-- `FailedWorkerPreparation<Role, W, Source>`. -/
structure FailedWorkerPreparation where
  role : S.Role
  recoveries : RecoveryCount
  previous : WorkerAttempt
  stopped : ChildStopped S
  source : S.Source
  fault : WorkerPreparationStartFault

/-- `WorkerRecoveryPreparation<Role, W, P, Source>`. -/
inductive WorkerRecoveryPreparation where
  | ready (prepared : PreparedReplacement S)
  | failed (role : S.Role) (recoveries : RecoveryCount) (previous : WorkerAttempt)
      (stopped : ChildStopped S) (source : S.Source) (error : WorkerPreparationError S)

/-- What a role keeps while its preparation runs: the tuple that
`RecoveringWorker::accept_preparation_start` takes and hands back. -/
structure PendingPreparation where
  role : S.Role
  recoveries : RecoveryCount
  previous : WorkerAttempt
  stopped : ChildStopped S
  preparation : WorkerPreparationExpectation

/-- `WorkerCreationAdmission`. -/
inductive WorkerCreationAdmission where
  | initializing (member : Member S) (request : InitializeWorker S)
  | rejected (member : Member S) (role : S.Role) (rejection : WorkerCreationRejection S)
      (startup : S.Plan) (stopped : Option (ChildStopped S))
  | unrelated (member : Member S) (creation : WorkerCreationSettlement S)

end

variable {S : Signature}

/-- The error a failed preparation start stands for. -/
def WorkerPreparationStartFault.error :
    WorkerPreparationStartFault → WorkerPreparationError S
  | .interpreterCorrupt fault => .interpreterCorrupt fault
  | .interpretationSkipped => .interpretationSkipped

/-- `CurrentWorker::recipient`. -/
def CurrentWorker.recipient (current : CurrentWorker S) : S.Recipient := S.recipient current.actor

/-- `CurrentWorker::shutdown_request`. -/
def CurrentWorker.shutdownRequest (current : CurrentWorker S) (id : ℕ) : ShutdownEstablished S :=
  ⟨id, current.actor⟩

/-- The exact stop a worker phase retains. -/
def WorkerPhase.retained : WorkerPhase S → Option (ChildStopped S)
  | .initializing _ stopped => stopped
  | .waitingForStartup _ _ => none
  | .startupRequested _ stopped => stopped
  | .starting _ stopped => stopped
  | .idle => none
  | .busy assigned => assigned.observedStop
  | .stopping (.awaitingSettlement _ stopped) => some stopped
  | .stopping _ => none

namespace ShutdownJoin

/-- `ShutdownJoin::request`. -/
def request : ShutdownJoin S → ℕ
  | .awaitingBoth request => request
  | .awaitingStop settlement => settlement.id
  | .awaitingSettlement request _ => request

/-- `ShutdownJoin::settled`. -/
def settled (join : ShutdownJoin S) (settlement : EstablishedShutdownResolved) :
    Except (ShutdownJoin S × EstablishedShutdownResolved)
      (ControlFlow (EstablishedShutdownResolved × ChildStopped S) (ShutdownJoin S)) :=
  match join with
  | .awaitingBoth expected =>
    if settlement.id = expected then .ok (.resume (.awaitingStop settlement))
    else .error (.awaitingBoth expected, settlement)
  | .awaitingSettlement request stopped =>
    if settlement.id = request then .ok (.stop (settlement, stopped))
    else .error (.awaitingSettlement request stopped, settlement)
  | .awaitingStop held => .error (.awaitingStop held, settlement)

/-- `ShutdownJoin::stopped`. -/
def stopped (join : ShutdownJoin S) (stopped : ChildStopped S) (worker : WorkerAttempt) :
    Except (ShutdownJoin S × ChildStopped S)
      (ControlFlow (EstablishedShutdownResolved × ChildStopped S) (ShutdownJoin S)) :=
  if stopped.child ≠ worker.creation then .error (join, stopped)
  else
    match join with
    | .awaitingBoth request => .ok (.resume (.awaitingSettlement request stopped))
    | .awaitingStop settlement => .ok (.stop (settlement, stopped))
    | .awaitingSettlement request held => .error (.awaitingSettlement request held, stopped)

end ShutdownJoin

namespace RecoveringWorker

variable (worker : RecoveringWorker S)

/-- `RecoveringWorker::accepts_restart_schedule`. -/
def acceptsRestartSchedule (input : ScheduleSettled) : Bool :=
  match worker with
  | .scheduling _ _ _ timer => timer.acceptsResult input
  | _ => false

/-- `RecoveringWorker::accepts_restart_timer`. -/
def acceptsRestartTimer (elapsed : TimerElapsed) : Bool :=
  match worker with
  | .waitingForTimer _ _ _ timer =>
    timer.id == elapsed.id && timer.generation == elapsed.generation
  | _ => false

/-- `RecoveringWorker::admit_restart_schedule`. -/
def admitRestartSchedule (input : ScheduleSettled) :
    Except (RecoveringWorker S × ScheduleSettled)
      (ControlFlow (PendingWorkerReplacement S × ScheduleSettled) (RecoveringWorker S)) :=
  match worker with
  | .scheduling previous stopped submission timer =>
    if timer.acceptsResult input then
      match input with
      | .attempted (.accepted _) =>
        .ok (.resume (.waitingForTimer previous stopped submission timer))
      | input => .ok (.stop (⟨previous, stopped, submission⟩, input))
    else .error (.scheduling previous stopped submission timer, input)
  | worker => .error (worker, input)

/-- `RecoveringWorker::admit_restart_timer`. -/
def admitRestartTimer (elapsed : TimerElapsed) :
    Except (RecoveringWorker S × TimerElapsed) (PendingWorkerReplacement S) :=
  match worker with
  | .waitingForTimer previous stopped submission timer =>
    if timer.admitElapsed elapsed then .ok ⟨previous, stopped, submission⟩
    else .error (.waitingForTimer previous stopped submission timer, elapsed)
  | worker => .error (worker, elapsed)

/-- `RecoveringWorker::accept_preparation_start`. -/
def acceptPreparationStart (pending : PendingPreparation S) (input : PreparationStarted S) :
    Except (PendingPreparation S × PreparationStarted S)
      (ControlFlow (FailedWorkerPreparation S) (PendingPreparation S)) :=
  if pending.preparation.acceptsIssued input then
    match input with
    | .attempted (.accepted started) =>
      match pending.preparation.acceptStart started with
      | some preparation => .ok (.resume { pending with preparation := preparation })
      | none => .error (pending, .attempted (.accepted started))
    | .attempted (.corrupt item fault) =>
      .ok (.stop ⟨pending.role, pending.recoveries, pending.previous, pending.stopped,
        item.source, .interpreterCorrupt fault⟩)
    | .unattempted item =>
      .ok (.stop ⟨pending.role, pending.recoveries, pending.previous, pending.stopped,
        item.source, .interpretationSkipped⟩)
    | .attempted (.rejected _ reason) => nomatch reason
  else .error (pending, input)

/-- `RecoveringWorker::accept_preparation_return`.  `Vec::pop` takes the last
prepared worker; a return without one is handed back. -/
def acceptPreparationReturn (pending : PendingPreparation S) (returned : WorkerPreparation S) :
    Except (PendingPreparation S × WorkerPreparation S) (WorkerRecoveryPreparation S) :=
  if pending.preparation.acceptsReturn returned then
    match returned.outcome with
    | .prepared source members =>
      match members.getLast? with
      | some prepared =>
        .ok (.ready ⟨pending.role, pending.recoveries, pending.previous, pending.stopped,
          source, prepared.submission⟩)
      | none => .error (pending, ⟨returned.ticket, .prepared source members⟩)
    | .workerRejected source _ _ reason _ =>
      .ok (.failed pending.role pending.recoveries pending.previous pending.stopped source
        (.workerRejected reason))
    | .sourceRejected source _ reason _ =>
      .ok (.failed pending.role pending.recoveries pending.previous pending.stopped source
        (.sourceRejected reason))
  else .error (pending, returned)

end RecoveringWorker

namespace Member

variable (member : Member S)

/-- `Member::worker_attempt`. -/
def workerAttempt : Option WorkerAttempt :=
  match member.state with
  | .worker current _ => some current.attempt
  | _ => none

/-- `Member::authorize_startup`; the grant takes one token. -/
def authorizeStartup (token : ℕ) :
    Except (Member S) (Member S × StartWorker S) :=
  match member with
  | ⟨role, recoveries, .worker current (.waitingForStartup permit startup)⟩ =>
    let request := StartWorker.new startup permit token
    .ok (⟨role, recoveries, .worker current (.startupRequested request.startup none)⟩, request)
  | member => .error member

/-- `Member::accept_preparation_start`. -/
def acceptPreparationStart (member : Member S) (input : PreparationStarted S) :
    Except (Member S × PreparationStarted S)
      (ControlFlow (FailedWorkerPreparation S) (Member S)) :=
  match member with
  | ⟨role, recoveries, .recovering (.preparing previous stopped expected)⟩ =>
    match RecoveringWorker.acceptPreparationStart
        ⟨role, recoveries, previous, stopped, expected⟩ input with
    | .ok (.resume pending) =>
      .ok (.resume ⟨pending.role, pending.recoveries,
        .recovering (.preparing pending.previous pending.stopped pending.preparation)⟩)
    | .ok (.stop failed) => .ok (.stop failed)
    | .error (pending, input) =>
      .error (⟨pending.role, pending.recoveries,
        .recovering (.preparing pending.previous pending.stopped pending.preparation)⟩, input)
  | member => .error (member, input)

/-- `Member::accept_preparation_return`. -/
def acceptPreparationReturn (member : Member S) (returned : WorkerPreparation S) :
    Except (Member S × WorkerPreparation S) (WorkerRecoveryPreparation S) :=
  match member with
  | ⟨role, recoveries, .recovering (.preparing previous stopped preparation)⟩ =>
    match RecoveringWorker.acceptPreparationReturn
        ⟨role, recoveries, previous, stopped, preparation⟩ returned with
    | .ok accepted => .ok accepted
    | .error (pending, returned) =>
      .error (⟨pending.role, pending.recoveries,
        .recovering (.preparing pending.previous pending.stopped pending.preparation)⟩, returned)
  | member => .error (member, returned)

/-- `Member::expected_creation`. -/
def expectedCreation : Option (ℕ × CreationKind) :=
  match member.state with
  | .creating worker => some (worker.attempt.creation, worker.kind)
  | _ => none

/-- `Member::shutdown_target`. -/
def shutdownTarget : Option (CurrentWorker S) :=
  match member.state with
  | .worker current (.initializing _ none) => some current
  | .worker current (.waitingForStartup _ _) => some current
  | .worker current (.startupRequested _ none) => some current
  | .worker current (.starting _ none) => some current
  | .worker current .idle => some current
  | .worker current (.busy assignment) =>
    match assignment.observedStop with
    | some _ => none
    | none => some current
  | _ => none

/-- `Member::start`: the attempt and its initialization take one token each; the
observation request names the creation. -/
def start (role : S.Role) (recoveries : RecoveryCount) (startup : S.Plan)
    (request : CreateChild S) (token : ℕ) : Member S × CreateChild S × ℕ :=
  let attempt := WorkerAttempt.issued request.id token
  let initialization := InitializationAttempt.issued attempt (token + 1)
  (⟨role, recoveries, .creating ⟨attempt, initialization, startup, request.kind, none⟩⟩,
    request, request.id)

/-- `Member::begin`. -/
def begin (prepared : PreparedWorker S) (creation token : ℕ) : Member S × CreateChild S × ℕ :=
  start prepared.role RecoveryCount.new prepared.submission.startup
    ⟨creation, prepared.submission.worker, .birth⟩ token

/-- `Member::begin_replacement`. -/
def beginReplacement (prepared : PreparedWorker S) (recoveries : RecoveryCount)
    (previous creation token : ℕ) : Member S × CreateChild S × ℕ :=
  start prepared.role recoveries prepared.submission.startup
    ⟨creation, prepared.submission.worker, .replacement previous⟩ token

/-- `Member::begin_initialization`. -/
def beginInitialization (role : S.Role) (recoveries : RecoveryCount)
    (starting : CreatingWorker S) (actor : S.Actor) : Member S × InitializeWorker S :=
  let current : CurrentWorker S := ⟨starting.attempt, actor⟩
  (⟨role, recoveries, .worker current (.initializing starting.initialization starting.stopped)⟩,
    ⟨starting.attempt, starting.initialization, current.recipient, starting.startup⟩)

/-- `Member::admit_creation`. -/
def admitCreation (creation : WorkerCreationSettlement S) :
    WorkerCreationAdmission S :=
  match member with
  | ⟨role, recoveries, .creating starting⟩ =>
    if creationIdentity creation ≠ (starting.attempt.creation, starting.kind) then
      .unrelated ⟨role, recoveries, .creating starting⟩ creation
    else
      match settleWorkerCreation creation with
      | .established actor =>
        let (member, request) := beginInitialization role recoveries starting actor
        .initializing member request
      | .rejected rejection =>
        .rejected ⟨role, recoveries, .retired⟩ role rejection starting.startup starting.stopped
  | member => .unrelated member creation

/-- `Member::admit_initialization`. -/
def admitInitialization (input : WorkerInitializationReport S) :
    Except (Member S × WorkerInitializationReport S) (Member S) :=
  match member with
  | ⟨role, recoveries, .worker current (.initializing initialization none)⟩ =>
    match input with
    | .readyForStartup _ _ startup permit =>
      .ok ⟨role, recoveries, .worker current (.waitingForStartup permit startup)⟩
    | input =>
      .error (⟨role, recoveries, .worker current (.initializing initialization none)⟩, input)
  | member => .error (member, input)

/-- `Member::admit_startup`. -/
def admitStartup (input : WorkerStartup S) :
    Except (Member S × WorkerStartup S) (Member S) :=
  match member with
  | ⟨role, recoveries, .worker current phase⟩ =>
    if current.attempt ≠ input.worker then
      .error (⟨role, recoveries, .worker current phase⟩, input)
    else
      match phase with
      | .startupRequested attempt stopped =>
        if attempt = input.startup then
          match input.outcome with
          | .started => .ok ⟨role, recoveries, .worker current (.starting attempt stopped)⟩
          | _ => .error (⟨role, recoveries, .worker current (.startupRequested attempt stopped)⟩,
              input)
        else .error (⟨role, recoveries, .worker current (.startupRequested attempt stopped)⟩,
          input)
      | .starting attempt none =>
        if attempt = input.startup then
          match input.outcome with
          | .ready _ => .ok ⟨role, recoveries, .worker current .idle⟩
          | _ => .error (⟨role, recoveries, .worker current (.starting attempt none)⟩, input)
        else .error (⟨role, recoveries, .worker current (.starting attempt none)⟩, input)
      | phase => .error (⟨role, recoveries, .worker current phase⟩, input)
  | member => .error (member, input)

/-- **What a creation settlement can do** for a member: establish the worker it
expects, retire the role, or nothing. -/
theorem admitCreation_cases (creation : WorkerCreationSettlement S) :
    (∃ role recoveries worker actor, member = ⟨role, recoveries, .creating worker⟩ ∧
      creationIdentity creation = (worker.attempt.creation, worker.kind) ∧
      settleWorkerCreation creation = .established actor ∧
      member.admitCreation creation = .initializing
        ⟨role, recoveries, .worker ⟨worker.attempt, actor⟩
          (.initializing worker.initialization worker.stopped)⟩
        ⟨worker.attempt, worker.initialization, S.recipient actor, worker.startup⟩) ∨
    (∃ role recoveries worker rejection, member = ⟨role, recoveries, .creating worker⟩ ∧
      creationIdentity creation = (worker.attempt.creation, worker.kind) ∧
      settleWorkerCreation creation = .rejected rejection ∧
      member.admitCreation creation = .rejected ⟨role, recoveries, .retired⟩ role rejection
        worker.startup worker.stopped) ∨
    member.admitCreation creation = .unrelated member creation ∧
      member.expectedCreation ≠ some (creationIdentity creation) := by
  unfold admitCreation
  split
  · rename_i role recoveries worker
    split
    · rename_i hidentity
      exact .inr (.inr ⟨rfl, fun h => hidentity (Option.some.inj h).symm⟩)
    · rename_i hidentity
      have hsame := not_not.mp hidentity
      cases hsettle : settleWorkerCreation creation with
      | established actor => exact .inl ⟨_, _, _, actor, rfl, hsame, rfl, rfl⟩
      | rejected rejection => exact .inr (.inl ⟨_, _, _, rejection, rfl, hsame, rfl, rfl⟩)
  · rename_i hcreating
    refine .inr (.inr ⟨rfl, fun h => ?_⟩)
    obtain ⟨role, recoveries, state⟩ := member
    cases state with
    | creating worker => exact hcreating role recoveries worker rfl
    | _ => simp [expectedCreation] at h

/-- **What a readiness report can do**: an initializing worker waits for a startup
slot, or the report comes back. -/
theorem admitInitialization_cases (input : WorkerInitializationReport S) :
    (∃ role recoveries current initialization permit startup,
      member = ⟨role, recoveries, .worker current (.initializing initialization none)⟩ ∧
      member.admitInitialization input
        = .ok ⟨role, recoveries, .worker current (.waitingForStartup permit startup)⟩) ∨
    member.admitInitialization input = .error (member, input) := by
  unfold admitInitialization
  split
  · split
    · exact .inl ⟨_, _, _, _, _, _, rfl, rfl⟩
    · exact .inr rfl
  · exact .inr rfl

/-- **What a startup report can do**: a requested startup begins, a begun one is
ready, or the report comes back. -/
theorem admitStartup_cases (input : WorkerStartup S) :
    (∃ role recoveries current attempt stopped,
      member = ⟨role, recoveries, .worker current (.startupRequested attempt stopped)⟩ ∧
      member.admitStartup input
        = .ok ⟨role, recoveries, .worker current (.starting attempt stopped)⟩) ∨
    (∃ role recoveries current attempt,
      member = ⟨role, recoveries, .worker current (.starting attempt none)⟩ ∧
      member.admitStartup input = .ok ⟨role, recoveries, .worker current .idle⟩) ∨
    member.admitStartup input = .error (member, input) := by
  unfold admitStartup
  split
  · split
    · exact .inr (.inr rfl)
    · split
      · split
        · split
          · exact .inl ⟨_, _, _, _, _, rfl, rfl⟩
          · exact .inr (.inr rfl)
        · exact .inr (.inr rfl)
      · split
        · split
          · exact .inr (.inl ⟨_, _, _, _, rfl, rfl⟩)
          · exact .inr (.inr rfl)
        · exact .inr (.inr rfl)
      · exact .inr (.inr rfl)
  · exact .inr (.inr rfl)

end Member

/-! ### The phases a pool looks for -/

variable (member : Member S)

/-- The member is a ready worker without work. -/
def isIdle : Bool :=
  match member.state with
  | .worker _ .idle => true
  | _ => false

/-- The member waits for a startup slot. -/
def isWaiting : Bool :=
  match member.state with
  | .worker _ (.waitingForStartup _ _) => true
  | _ => false

/-- The member occupies a startup slot. -/
def isOccupying : Bool :=
  match member.state with
  | .worker _ (.startupRequested _ _) => true
  | .worker _ (.starting _ _) => true
  | _ => false

/-- The member waits for the worker source. -/
def isWaitingForSource : Bool :=
  match member.state with
  | .recovering (.waitingForSource _ _) => true
  | _ => false

/-- The member waits for a worker to be prepared. -/
def isPreparing : Bool :=
  match member.state with
  | .recovering (.preparing _ _ _) => true
  | _ => false

/-- The member's worker was asked to shut down, and has not departed yet. -/
def isStopping : Bool :=
  match member.state with
  | .worker _ (.stopping _) => true
  | _ => false

/-- `ordered_creation_positions`: the positions of the named creations, which
must come in roster order, and at least one of them. -/
def orderedCreationPositions (expected : List (Option (ℕ × CreationKind)))
    (identities : List (ℕ × CreationKind)) : Option (List ℕ) :=
  let positions := identities.foldl
    (fun positions identity =>
      match positions with
      | none => none
      | some positions =>
        match expected.findIdx? (fun expected => expected == some identity) with
        | none => none
        | some position =>
          match positions.getLast? with
          | some previous =>
            if position ≤ previous then none else some (positions ++ [position])
          | none => some (positions ++ [position]))
    (some [])
  match positions with
  | some (first :: rest) => some (first :: rest)
  | _ => none

/-- **The positions found for a batch** increase, and each is that of the member
which expects the creation named beside it. -/
theorem orderedCreationPositions_some {expected identities positions}
    (h : orderedCreationPositions expected identities = some positions) :
    positions.Pairwise (· < ·) ∧
      List.Forall₂ (fun position identity => expected[position]? = some (some identity))
        positions identities := by
  unfold orderedCreationPositions at h
  generalize hfound : identities.foldl _ (some []) = found at h
  replace h : found = some positions := by
    rcases found with _ | _ | ⟨first, rest⟩ <;> simp_all
  rw [h] at hfound
  clear h
  -- The fold keeps both facts about the identities it has read so far.
  revert positions
  induction identities using List.reverseRecOn with
  | nil =>
    intro positions hfound
    simp only [List.foldl_nil, Option.some.injEq] at hfound
    subst hfound
    exact ⟨List.Pairwise.nil, List.Forall₂.nil⟩
  | append_singleton identities identity ih =>
    intro positions hfound
    rw [List.foldl_append, List.foldl_cons, List.foldl_nil] at hfound
    split at hfound
    · simp at hfound
    · rename_i before hbefore
      obtain ⟨hincreasing, hexpected⟩ := ih hbefore
      split at hfound
      · simp at hfound
      · rename_i position hposition
        obtain ⟨found, hget, hfound', -⟩ := Roster.findIdx?_some hposition
        rw [beq_iff_eq.mp hfound'] at hget
        have hnext := List.rel_append hexpected (List.Forall₂.cons hget List.Forall₂.nil)
        split at hfound
        · rename_i previous hlast
          split at hfound
          · simp at hfound
          · rename_i hlt
            rw [Option.some.injEq] at hfound
            subst hfound
            refine ⟨List.pairwise_append.mpr ⟨hincreasing, List.pairwise_singleton _ _, ?_⟩, hnext⟩
            intro a ha b hb
            rw [List.mem_singleton.mp hb]
            have hordered : Window.Ordered id before := hincreasing.imp Nat.le_of_lt
            have hle := hordered.le_getLast hlast a ha
            simp only [id] at hle
            omega
        · rename_i hempty
          rw [Option.some.injEq] at hfound
          subst hfound
          rw [List.getLast?_eq_none_iff.mp hempty] at hnext ⊢
          exact ⟨List.pairwise_singleton _ _, hnext⟩

/-- **Every item of a batch whose positions were found** is looked up at the position of the
member that expects it. -/
theorem orderedCreationPositions_lookup {α : Type} {expected : List (Option (ℕ × CreationKind))}
    {identity : α → ℕ × CreationKind} {items : List α} {positions : List ℕ} {item : α}
    (h : orderedCreationPositions expected (items.map identity) = some positions)
    (hmem : item ∈ items) :
    ∃ position, (positions.zip items).lookup position = some item ∧
      expected[position]? = some (some (identity item)) := by
  obtain ⟨hincreasing, hmatch⟩ := orderedCreationPositions_some h
  rw [List.forall₂_map_right_iff] at hmatch
  obtain ⟨hlength, hmatch⟩ := List.forall₂_iff_zip.mp hmatch
  obtain ⟨index, hindex, rfl⟩ := List.getElem_of_mem hmem
  have hpair : (positions[index], items[index]) ∈ positions.zip items := by
    refine List.mem_iff_getElem.mpr ⟨index, ?_, List.getElem_zip⟩
    rw [List.length_zip]
    omega
  refine ⟨positions[index], Roster.lookup_of_mem ?_ hpair, hmatch hpair⟩
  rw [List.map_fst_zip hlength.le]
  exact hincreasing

/-! ### The job of a member -/

/-- The assignments a member holds. -/
def heldAssignments : List (AssignedJob S) :=
  match member.state with
  | .worker _ (.busy assigned) => [assigned]
  | _ => []

/-- The member's worker has a job. -/
def isBusy : Bool :=
  match member.state with
  | .worker _ (.busy _) => true
  | _ => false

/-- The jobs of one member. -/
def customersOf : List (CustomerJob S) :=
  (heldAssignments member).map (·.customer)

/-- A member holds one job at most. -/
theorem countP_customersOf (job : ℕ) :
    (customersOf member).countP (fun customer => customer.id = job)
      = if (customersOf member).any (fun customer => customer.id = job) then 1 else 0 := by
  unfold customersOf heldAssignments
  split
  · rename_i current assigned hstate
    by_cases hid : assigned.customer.id = job <;> simp [hid]
  · simp

/-! ### A roster that has just begun -/

/-- The member waits for its first worker to be created. -/
def isFirstBorn : Bool :=
  match member.state with
  | .creating worker => worker.stopped.isNone && worker.kind == .birth
  | _ => false

/-- Nobody works, waits or prepares while every worker is still to be created. -/
theorem countP_of_firstBorn {members : List (Member S)}
    (h : ∀ member ∈ members, isFirstBorn member = true) {p}
    (hp : ∀ role recoveries worker, p ⟨role, recoveries, .creating worker⟩ = false) :
    members.countP p = 0 := by
  refine List.countP_eq_zero.mpr fun member hmem => ?_
  obtain ⟨role, recoveries, state⟩ := member
  have hborn := h _ hmem
  cases state with
  | creating worker => simp [hp]
  | worker current phase | recovering worker | retired => simp [isFirstBorn] at hborn

end Bombay
