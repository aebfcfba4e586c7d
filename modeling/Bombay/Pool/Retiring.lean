/-
# A role whose pool is draining

`crates/actors/src/templates/pool/worker.rs`, second half: what is left of a
`Member` once its pool shuts down.  `Member::shutdown` reduces each of its
phases to the facts the pool still has to see, and the functions on
`RetiringWorker` consume those facts one at a time in any order.
-/

import Bombay.Pool.Member

namespace Bombay

section

variable (S : Signature)

/-- `WorkerStartupCustody<W, P>`. -/
inductive WorkerStartupCustody where
  | startupPlan (startup : S.Plan)
  | initializing (initialization : InitializationAttempt)
  | startupPermit (permit : StartupPermit S) (startup : S.Plan)
  | startupRequested (startup : WorkerStartupGrant)
  | starting (startup : WorkerStartupGrant)

/-- `WorkerShutdownStatus<P, A>`. -/
inductive WorkerShutdownStatus where
  | notRequested
  | waiting (join : ShutdownJoin S)

/-- `RetirementStatus<W, P>`. -/
inductive RetirementStatus where
  | awaitingCreation (worker : CreatingWorker S)
  | established (current : CurrentWorker S) (startup : Option (WorkerStartupCustody S))
      (shutdown : WorkerShutdownStatus S)
  | awaitingPreparation (recoveries : RecoveryCount) (previous : WorkerAttempt)
      (stopped : ChildStopped S) (preparation : WorkerPreparationExpectation)
  | awaitingRestartSchedule (replacement : PendingWorkerReplacement S) (timer : ScheduleKey)
  | drained

/-- `RetiringWorker<Role, W, P>`. -/
structure RetiringWorker where
  role : S.Role
  state : RetirementStatus S

/-- `WorkerDeparture<Role, W, P>`. -/
structure WorkerDeparture where
  role : S.Role
  startup : Option (WorkerStartupCustody S)
  shutdown : EstablishedShutdownResolved

/-- `WorkerCustody<Role, W, P>`. -/
inductive WorkerCustody where
  | running (role : S.Role) (worker : CurrentWorker S) (startup : S.Plan)
  | rejected (role : S.Role) (rejection : WorkerCreationRejection S) (startup : S.Plan)
      (stopped : Option (ChildStopped S))
  | stopped (role : S.Role) (worker : CurrentWorker S) (startup : S.Plan)
      (stopped : ChildStopped S)

/-- `RetiringWorkerInitialization<Role, W, P>`. -/
inductive RetiringWorkerInitialization where
  | returned (workers : List (RetiringWorker S)) (report : WorkerInitializationReport S)
  | workerStopped (workers : List (RetiringWorker S)) (departure : Option (WorkerDeparture S))
      (role : S.Role) (startup : S.Plan)

/-- `RetiringWorkerStartup<Role, W, P>`. -/
inductive RetiringWorkerStartup where
  | started (workers : List (RetiringWorker S))
  | returned (workers : List (RetiringWorker S)) (role : S.Role) (worker : WorkerAttempt)
      (startup : WorkerStartupGrant) (outcome : WorkerStartupOutcome S)
  | unrelated (workers : List (RetiringWorker S)) (startup : WorkerStartup S)

/-- `RetirementReturns`. -/
inductive RetirementReturns where
  | noTransfer
  | assignment (assignment : AssignmentShutdown S)
  | replacement (replacement : PendingWorkerReplacement S)

/-- `MemberRetirement`. -/
structure MemberRetirement where
  member : RetiringWorker S
  request : Option (ShutdownEstablished S)
  custody : RetirementReturns S

end

variable {S : Signature}

/-- `retire_worker`. -/
def retireWorker (role : S.Role) (current : CurrentWorker S)
    (startup : Option (WorkerStartupCustody S)) (shutdown : Option ℕ) :
    RetiringWorker S × Option (ShutdownEstablished S) :=
  match shutdown with
  | some shutdown =>
    (⟨role, .established current startup (.waiting (.awaitingBoth shutdown))⟩,
      some (current.shutdownRequest shutdown))
  | none => (⟨role, .established current startup .notRequested⟩, none)

/-- The retirement of a live worker that hands nothing else over. -/
def MemberRetirement.ofWorker (role : S.Role) (current : CurrentWorker S)
    (startup : Option (WorkerStartupCustody S)) (shutdown : Option ℕ)
    (custody : RetirementReturns S) : MemberRetirement S :=
  ⟨(retireWorker role current startup shutdown).1,
    (retireWorker role current startup shutdown).2, custody⟩

/-- `Member::shutdown`. -/
def Member.shutdown (member : Member S) (shutdown : Option ℕ) : MemberRetirement S :=
  let role := member.role
  match member.state with
  | .creating worker => ⟨⟨role, .awaitingCreation worker⟩, none, .noTransfer⟩
  | .worker current (.initializing initialization none) =>
    .ofWorker role current (some (.initializing initialization)) shutdown .noTransfer
  | .worker current (.waitingForStartup permit startup) =>
    .ofWorker role current (some (.startupPermit permit startup)) shutdown .noTransfer
  | .worker current (.startupRequested attempt none) =>
    .ofWorker role current (some (.startupRequested attempt)) shutdown .noTransfer
  | .worker current (.starting attempt none) =>
    .ofWorker role current (some (.starting attempt)) shutdown .noTransfer
  | .worker current .idle => .ofWorker role current none shutdown .noTransfer
  | .worker current (.busy assignment) =>
    match assignment.shutdown.stopped with
    | some _ => ⟨⟨role, .drained⟩, none, .assignment assignment.shutdown⟩
    | none => .ofWorker role current none shutdown (.assignment assignment.shutdown)
  | .worker current (.stopping (.awaitingBoth request)) =>
    ⟨⟨role, .established current none (.waiting (.awaitingBoth request))⟩, none, .noTransfer⟩
  | .worker current (.stopping (.awaitingStop settlement)) =>
    ⟨⟨role, .established current none (.waiting (.awaitingStop settlement))⟩, none, .noTransfer⟩
  | .worker _ (.initializing _ (some _)) => ⟨⟨role, .drained⟩, none, .noTransfer⟩
  | .worker _ (.startupRequested _ (some _)) => ⟨⟨role, .drained⟩, none, .noTransfer⟩
  | .worker _ (.starting _ (some _)) => ⟨⟨role, .drained⟩, none, .noTransfer⟩
  | .worker _ (.stopping (.awaitingSettlement _ _)) => ⟨⟨role, .drained⟩, none, .noTransfer⟩
  | .recovering (.preparing previous stopped preparation) =>
    ⟨⟨role, .awaitingPreparation member.recoveries previous stopped preparation⟩, none,
      .noTransfer⟩
  | .recovering (.scheduling previous stopped submission timer) =>
    ⟨⟨role, .awaitingRestartSchedule ⟨previous, stopped, submission⟩ timer⟩, none, .noTransfer⟩
  | .recovering (.waitingForTimer previous stopped submission _) =>
    ⟨⟨role, .drained⟩, none, .replacement ⟨previous, stopped, submission⟩⟩
  | .recovering (.waitingForSource _ _) => ⟨⟨role, .drained⟩, none, .noTransfer⟩
  | .retired => ⟨⟨role, .drained⟩, none, .noTransfer⟩

namespace RetiringWorker

/-- `RetiringWorker::initialization`. -/
def initialization (worker : RetiringWorker S) : Option InitializationAttempt :=
  match worker.state with
  | .established _ (some (.initializing initialization)) _ => some initialization
  | _ => none

/-- `RetiringWorker::startup`. -/
def startup (worker : RetiringWorker S) : Option WorkerStartupGrant :=
  match worker.state with
  | .established _ (some (.startupRequested startup)) _ => some startup
  | .established _ (some (.starting startup)) _ => some startup
  | _ => none

variable (worker : RetiringWorker S)

/-- `RetiringWorker::expected_creation`. -/
def expectedCreation : Option (ℕ × CreationKind) :=
  match worker.state with
  | .awaitingCreation worker => some (worker.attempt.creation, worker.kind)
  | _ => none

/-- `RetiringWorker::waiting`. -/
def waiting : Bool :=
  match worker.state with
  | .drained => false
  | _ => true

/-- `RetiringWorker::accept_exit`. -/
def acceptExit (stopped : ChildStopped S) :
    Except (RetiringWorker S × ChildStopped S)
      (ControlFlow (WorkerDeparture S) (RetiringWorker S)) :=
  match worker with
  | ⟨role, .awaitingCreation worker⟩ =>
    if worker.attempt.creation = stopped.child then
      match worker.stopped with
      | none => .ok (.resume ⟨role, .awaitingCreation { worker with stopped := some stopped }⟩)
      | some _ => .error (⟨role, .awaitingCreation worker⟩, stopped)
    else .error (⟨role, .awaitingCreation worker⟩, stopped)
  | ⟨role, .established current startup (.waiting join)⟩ =>
    match join.stopped stopped current.attempt with
    | .ok (.resume join) => .ok (.resume ⟨role, .established current startup (.waiting join)⟩)
    | .ok (.stop (shutdown, _)) => .ok (.stop ⟨role, startup, shutdown⟩)
    | .error (join, stopped) =>
      .error (⟨role, .established current startup (.waiting join)⟩, stopped)
  | worker => .error (worker, stopped)

/-- `RetiringWorker::accept_creation`. -/
def acceptCreation (creation : WorkerCreationSettlement S) :
    Except (RetiringWorker S × WorkerCreationSettlement S) (WorkerCustody S) :=
  match worker with
  | ⟨role, .awaitingCreation worker⟩ =>
    if creationIdentity creation ≠ (worker.attempt.creation, worker.kind) then
      .error (⟨role, .awaitingCreation worker⟩, creation)
    else
      match settleWorkerCreation creation with
      | .established actor =>
        match worker.stopped with
        | some stopped => .ok (.stopped role ⟨worker.attempt, actor⟩ worker.startup stopped)
        | none => .ok (.running role ⟨worker.attempt, actor⟩ worker.startup)
      | .rejected rejection => .ok (.rejected role rejection worker.startup worker.stopped)
  | worker => .error (worker, creation)

/-- `RetiringWorker::accept_creation_rejection`. -/
def acceptCreationRejection (id : ℕ) (kind : CreationKind)
    (rejection : WorkerCreationRejection S) :
    Except (RetiringWorker S × ℕ × CreationKind × WorkerCreationRejection S)
      (WorkerCustody S) :=
  match worker with
  | ⟨role, .awaitingCreation worker⟩ =>
    if (id, kind) ≠ (worker.attempt.creation, worker.kind) then
      .error (⟨role, .awaitingCreation worker⟩, id, kind, rejection)
    else .ok (.rejected role rejection worker.startup worker.stopped)
  | worker => .error (worker, id, kind, rejection)

/-- `RetiringWorker::accept_shutdown_settlement`. -/
def acceptShutdownSettlement
    (settlement : EstablishedShutdownResolved) :
    Except (RetiringWorker S × EstablishedShutdownResolved)
      (ControlFlow (WorkerDeparture S) (RetiringWorker S)) :=
  match worker with
  | ⟨role, .established current startup (.waiting join)⟩ =>
    match join.settled settlement with
    | .ok (.resume join) => .ok (.resume ⟨role, .established current startup (.waiting join)⟩)
    | .ok (.stop (shutdown, _)) => .ok (.stop ⟨role, startup, shutdown⟩)
    | .error (join, settlement) =>
      .error (⟨role, .established current startup (.waiting join)⟩, settlement)
  | worker => .error (worker, settlement)

/-- The worker at a position awaits a preparation that satisfies `accepts`. -/
def awaitsPreparation
    (accepts : WorkerPreparationExpectation → Bool) : Bool :=
  match worker.state with
  | .awaitingPreparation _ _ _ preparation => accepts preparation
  | _ => false

end RetiringWorker

variable (workers : List (RetiringWorker S))

/-- `accept_retiring_worker_preparation_start`. -/
def acceptRetiringWorkerPreparationStart
    (input : PreparationStarted S) :
    Except (List (RetiringWorker S) × PreparationStarted S)
      (ControlFlow (List (RetiringWorker S) × FailedWorkerPreparation S)
        (List (RetiringWorker S))) :=
  match workers.findIdx? (·.awaitsPreparation (·.acceptsIssued input)) with
  | none => .error (workers, input)
  | some position =>
    match workers[position]?, workers.eraseIdx position with
    | some ⟨role, .awaitingPreparation recoveries previous stopped preparation⟩, workers =>
      match RecoveringWorker.acceptPreparationStart
          ⟨role, recoveries, previous, stopped, preparation⟩ input with
      | .ok (.resume pending) =>
        .ok (.resume (workers.insertIdx position ⟨pending.role,
          .awaitingPreparation pending.recoveries pending.previous pending.stopped
            pending.preparation⟩))
      | .ok (.stop failed) =>
        .ok (.stop (workers.insertIdx position ⟨role, .drained⟩, failed))
      | .error (pending, input) =>
        .error (workers.insertIdx position ⟨pending.role,
          .awaitingPreparation pending.recoveries pending.previous pending.stopped
            pending.preparation⟩, input)
    | some worker, workers => .error (workers.insertIdx position worker, input)
    | none, workers => .error (workers, input)

/-- `accept_retiring_worker_preparation_return`. -/
def acceptRetiringWorkerPreparationReturn
    (returned : WorkerPreparation S) :
    Except (List (RetiringWorker S) × WorkerPreparation S)
      (List (RetiringWorker S) × WorkerRecoveryPreparation S) :=
  match workers.findIdx? (·.awaitsPreparation (·.acceptsReturn returned)) with
  | none => .error (workers, returned)
  | some position =>
    match workers[position]?, workers.eraseIdx position with
    | some ⟨role, .awaitingPreparation recoveries previous stopped preparation⟩, workers =>
      match RecoveringWorker.acceptPreparationReturn
          ⟨role, recoveries, previous, stopped, preparation⟩ returned with
      | .ok accepted => .ok (workers.insertIdx position ⟨role, .drained⟩, accepted)
      | .error (pending, returned) =>
        .error (workers.insertIdx position ⟨pending.role,
          .awaitingPreparation pending.recoveries pending.previous pending.stopped
            pending.preparation⟩, returned)
    | some worker, workers => .error (workers.insertIdx position worker, returned)
    | none, workers => .error (workers, returned)

/-- `accept_worker_initialization`. -/
def acceptWorkerInitialization
    (report : WorkerInitializationReport S) : RetiringWorkerInitialization S :=
  match workers.findIdx? (fun worker => worker.initialization == some report.initialization) with
  | none => .returned workers report
  | some position =>
    match workers[position]?, workers.eraseIdx position with
    | some ⟨role, .established current (some (.initializing expected)) (.waiting join)⟩,
        workers =>
      match report with
      | .stopped worker initialization startup stopped =>
        if stopped.child = current.attempt.creation then
          match join.stopped stopped current.attempt with
          | .ok (.resume join) =>
            .workerStopped
              (workers.insertIdx position ⟨role, .established current none (.waiting join)⟩)
              none role startup
          | .ok (.stop (shutdown, _)) =>
            .workerStopped workers (some ⟨role, none, shutdown⟩) role startup
          | .error (join, stopped) =>
            .returned
              (workers.insertIdx position
                ⟨role, .established current (some (.initializing expected)) (.waiting join)⟩)
              (.stopped worker initialization startup stopped)
        else
          .returned
            (workers.insertIdx position
              ⟨role, .established current (some (.initializing expected)) (.waiting join)⟩)
            (.stopped worker initialization startup stopped)
      | report =>
        .returned
          (workers.insertIdx position ⟨role, .established current none (.waiting join)⟩) report
    | some worker, workers => .returned (workers.insertIdx position worker) report
    | none, workers => .returned workers report

/-- `accept_worker_startup`. -/
def acceptWorkerStartup (input : WorkerStartup S) :
    RetiringWorkerStartup S :=
  match workers.findIdx? (fun worker => worker.startup == some input.startup) with
  | none => .unrelated workers input
  | some position =>
    match workers[position]?, workers.eraseIdx position with
    | some ⟨role, .established current startup shutdown⟩, workers =>
      match startup with
      | some (.startupRequested _) =>
        match input.outcome with
        | .started =>
          .started (workers.insertIdx position
            ⟨role, .established current (some (.starting input.startup)) shutdown⟩)
        | outcome =>
          .returned (workers.insertIdx position ⟨role, .established current none shutdown⟩)
            role input.worker input.startup outcome
      | some (.starting expected) =>
        let startup := match input.outcome with
          | .started => some (.starting expected)
          | _ => none
        .returned (workers.insertIdx position ⟨role, .established current startup shutdown⟩)
          role input.worker input.startup input.outcome
      | startup =>
        .unrelated (workers.insertIdx position ⟨role, .established current startup shutdown⟩)
          input
    | some worker, workers => .unrelated (workers.insertIdx position worker) input
    | none, workers => .unrelated workers input

/-- The loop of `accept_worker_exit` and `accept_worker_shutdown` from `position`
on: the first member that takes the fact ends it. -/
def offerEach {Fact : Type}
    (offer : RetiringWorker S → Fact →
      Except (RetiringWorker S × Fact) (ControlFlow (WorkerDeparture S) (RetiringWorker S))) :
    List ℕ → List (RetiringWorker S) → Fact →
      Except (List (RetiringWorker S) × Fact)
        (ControlFlow (List (RetiringWorker S) × WorkerDeparture S) (List (RetiringWorker S)))
  | [], workers, fact => .error (workers, fact)
  | position :: positions, workers, fact =>
    match workers[position]? with
    | none => .error (workers, fact)
    | some worker =>
      match offer worker fact with
      | .ok (.resume worker) =>
        .ok (.resume ((workers.eraseIdx position).insertIdx position worker))
      | .ok (.stop departure) => .ok (.stop (workers.eraseIdx position, departure))
      | .error (worker, fact) =>
        offerEach offer positions ((workers.eraseIdx position).insertIdx position worker) fact

/-- `accept_worker_exit`. -/
def acceptWorkerExit (stopped : ChildStopped S) :
    Except (List (RetiringWorker S) × ChildStopped S)
      (ControlFlow (List (RetiringWorker S) × WorkerDeparture S) (List (RetiringWorker S))) :=
  offerEach RetiringWorker.acceptExit (List.range workers.length) workers stopped

/-- `accept_worker_shutdown`. -/
def acceptWorkerShutdown
    (settlement : EstablishedShutdownResolved) :
    Except (List (RetiringWorker S) × EstablishedShutdownResolved)
      (ControlFlow (List (RetiringWorker S) × WorkerDeparture S) (List (RetiringWorker S))) :=
  offerEach RetiringWorker.acceptShutdownSettlement (List.range workers.length) workers
    settlement

/-- The member awaits the schedule that was settled. -/
def awaitsSchedule (settled : ScheduleSettled) (member : RetiringWorker S) : Bool :=
  match member.state with
  | .awaitingRestartSchedule _ timer => timer.acceptsResult settled
  | _ => false

/-! ### What each fact can do to a retired member -/

namespace RetiringWorker

/-- **An exit**: it is retained beside a creation or a shutdown, it ends a
shutdown that was settled, or it is handed back. -/
theorem acceptExit_cases (worker : RetiringWorker S) (stopped : ChildStopped S) :
    worker.acceptExit stopped = .error (worker, stopped) ∨
    (∃ role creating, worker = ⟨role, .awaitingCreation creating⟩ ∧
      stopped.child = creating.attempt.creation ∧ creating.stopped = none ∧
      worker.acceptExit stopped
        = .ok (.resume ⟨role, .awaitingCreation { creating with stopped := some stopped }⟩)) ∨
    (∃ role current startup request,
      worker = ⟨role, .established current startup (.waiting (.awaitingBoth request))⟩ ∧
      stopped.child = current.attempt.creation ∧
      worker.acceptExit stopped = .ok (.resume
        ⟨role, .established current startup (.waiting (.awaitingSettlement request stopped))⟩)) ∨
    ∃ role current startup settlement,
      worker = ⟨role, .established current startup (.waiting (.awaitingStop settlement))⟩ ∧
      stopped.child = current.attempt.creation ∧
      worker.acceptExit stopped = .ok (.stop ⟨role, startup, settlement⟩) := by
  obtain ⟨role, state⟩ := worker
  rcases state with creating | ⟨current, startup, _ | join⟩ | _ | _ | _
  · by_cases hchild : creating.attempt.creation = stopped.child
    · cases hstopped : creating.stopped with
      | none =>
        exact .inr (.inl ⟨role, creating, rfl, hchild.symm, hstopped, by
          simp [acceptExit, hchild, hstopped]⟩)
      | some retained => exact .inl (by simp [acceptExit, hchild, hstopped])
    · exact .inl (by simp [acceptExit, hchild])
  · exact .inl rfl
  · by_cases hchild : stopped.child = current.attempt.creation
    · cases join with
      | awaitingBoth request =>
        exact .inr (.inr (.inl ⟨role, current, startup, request, rfl, hchild, by
          simp [acceptExit, ShutdownJoin.stopped, hchild]⟩))
      | awaitingStop settlement =>
        exact .inr (.inr (.inr ⟨role, current, startup, settlement, rfl, hchild, by
          simp [acceptExit, ShutdownJoin.stopped, hchild]⟩))
      | awaitingSettlement request retained =>
        exact .inl (by simp [acceptExit, ShutdownJoin.stopped, hchild])
    · exact .inl (by simp [acceptExit, ShutdownJoin.stopped, hchild])
  · exact .inl rfl
  · exact .inl rfl
  · exact .inl rfl

/-- **A shutdown settlement**: it is retained, it ends a shutdown whose worker has
stopped, or it is handed back. -/
theorem acceptShutdownSettlement_cases (worker : RetiringWorker S)
    (settlement : EstablishedShutdownResolved) :
    worker.acceptShutdownSettlement settlement = .error (worker, settlement) ∨
    (∃ role current startup,
      worker = ⟨role, .established current startup (.waiting (.awaitingBoth settlement.id))⟩ ∧
      worker.acceptShutdownSettlement settlement = .ok (.resume
        ⟨role, .established current startup (.waiting (.awaitingStop settlement))⟩)) ∨
    ∃ role current startup stopped,
      worker = ⟨role, .established current startup
        (.waiting (.awaitingSettlement settlement.id stopped))⟩ ∧
      worker.acceptShutdownSettlement settlement = .ok (.stop ⟨role, startup, settlement⟩) := by
  obtain ⟨role, state⟩ := worker
  rcases state with creating | ⟨current, startup, _ | join⟩ | _ | _ | _
  · exact .inl rfl
  · exact .inl rfl
  · cases join with
    | awaitingBoth request =>
      by_cases hid : settlement.id = request
      · subst hid
        exact .inr (.inl ⟨role, current, startup, rfl, by
          simp [acceptShutdownSettlement, ShutdownJoin.settled]⟩)
      · exact .inl (by simp [acceptShutdownSettlement, ShutdownJoin.settled, hid])
    | awaitingStop held => exact .inl rfl
    | awaitingSettlement request stopped =>
      by_cases hid : settlement.id = request
      · subst hid
        exact .inr (.inr ⟨role, current, startup, stopped, rfl, by
          simp [acceptShutdownSettlement, ShutdownJoin.settled]⟩)
      · exact .inl (by simp [acceptShutdownSettlement, ShutdownJoin.settled, hid])
  · exact .inl rfl
  · exact .inl rfl
  · exact .inl rfl

/-- **A creation settlement**: the worker runs, is rejected, had stopped, or the
settlement is another member's. -/
theorem acceptCreation_cases (worker : RetiringWorker S)
    (creation : WorkerCreationSettlement S) :
    (∃ role creating, worker = ⟨role, .awaitingCreation creating⟩ ∧
      creationIdentity creation = (creating.attempt.creation, creating.kind) ∧
      ((∃ actor, settleWorkerCreation creation = .established actor ∧ creating.stopped = none ∧
          worker.acceptCreation creation
            = .ok (.running role ⟨creating.attempt, actor⟩ creating.startup)) ∨
        (∃ actor stopped, settleWorkerCreation creation = .established actor ∧
          creating.stopped = some stopped ∧ worker.acceptCreation creation
            = .ok (.stopped role ⟨creating.attempt, actor⟩ creating.startup stopped)) ∨
        ∃ rejection, settleWorkerCreation creation = .rejected rejection ∧
          worker.acceptCreation creation
            = .ok (.rejected role rejection creating.startup creating.stopped))) ∨
    worker.acceptCreation creation = .error (worker, creation) ∧
      worker.expectedCreation ≠ some (creationIdentity creation) := by
  obtain ⟨role, state⟩ := worker
  cases state with
  | awaitingCreation creating =>
    by_cases hidentity :
        creationIdentity creation = (creating.attempt.creation, creating.kind)
    · refine .inl ⟨role, creating, rfl, hidentity, ?_⟩
      cases hsettle : settleWorkerCreation creation with
      | established actor =>
        cases hstopped : creating.stopped with
        | none => exact .inl ⟨actor, rfl, rfl, by simp [acceptCreation, hidentity, hsettle, hstopped]⟩
        | some stopped =>
          exact .inr (.inl ⟨actor, stopped, rfl, rfl, by
            simp [acceptCreation, hidentity, hsettle, hstopped]⟩)
      | rejected rejection =>
        exact .inr (.inr ⟨rejection, rfl, by simp [acceptCreation, hidentity, hsettle]⟩)
    · refine .inr ⟨by simp [acceptCreation, hidentity], fun h => hidentity ?_⟩
      exact (Option.some.inj h).symm
  | established current startup shutdown | awaitingPreparation | awaitingRestartSchedule
  | drained => exact .inr ⟨rfl, by simp [expectedCreation]⟩

end RetiringWorker

/-- **A fact offered to each member in turn** reaches one of them, or comes back
with the members as they were. -/
theorem offerEach_cases {Fact : Type}
    {offer : RetiringWorker S → Fact →
      Except (RetiringWorker S × Fact) (ControlFlow (WorkerDeparture S) (RetiringWorker S))}
    {fact : Fact}
    (hback : ∀ worker worker' fact', offer worker fact = .error (worker', fact') →
      worker' = worker ∧ fact' = fact)
    (positions : List ℕ) (workers : List (RetiringWorker S)) :
    offerEach offer positions workers fact = .error (workers, fact) ∨
    (∃ position worker next, workers[position]? = some worker ∧
      offer worker fact = .ok (.resume next) ∧
      offerEach offer positions workers fact = .ok (.resume (workers.set position next))) ∨
    ∃ position worker departure, workers[position]? = some worker ∧
      offer worker fact = .ok (.stop departure) ∧
      offerEach offer positions workers fact
        = .ok (.stop (workers.eraseIdx position, departure)) := by
  induction positions with
  | nil => exact .inl rfl
  | cons position positions ih =>
    unfold offerEach
    cases hworker : workers[position]? with
    | none => exact .inl rfl
    | some worker =>
      have hlt := (List.getElem?_eq_some_iff.mp hworker).1
      rcases hoffer : offer worker fact with ⟨worker', fact'⟩ | (departure | next)
      · obtain ⟨rfl, rfl⟩ := hback _ _ _ hoffer
        simp only [hoffer, Roster.insertIdx_eraseIdx_self hworker]
        exact ih
      · exact .inr (.inr ⟨position, worker, departure, hworker, hoffer, by simp only [hoffer]⟩)
      · exact .inr (.inl ⟨position, worker, next, hworker, hoffer, by
          simp only [hoffer, Roster.insertIdx_eraseIdx hlt]⟩)

end Bombay
