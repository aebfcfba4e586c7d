/-
# What one transition of a draining pool can do

The drain handlers of `queue/mod.rs`, read as sequences of elementary moves like
those of an operating pool: a retired member sees one of the facts it waits for,
a preparation or a schedule ends, a worker departs after its stop and its
shutdown settlement, a creation settles.  A drain hands out no work and resolves
no job.
-/

import Bombay.Fifo.Handlers
import Bombay.Pool.Departure

namespace Bombay.Fifo

variable {S : Signature}

/-- What a drain handler owns while it runs. -/
structure Wake (S : Signature) where
  pool : FifoPool S
  members : List (RetiringWorker S)
  actions : FifoActions S

/-- Append one diagnostic. -/
def Wake.note (wake : Wake S) (cause : FifoDiagnosticCause S) : Wake S :=
  { wake with actions := wake.actions.diagnose cause }

/-- The event brings the exact stop of a worker and is not handed back. -/
def Stops (event : FifoEvent S) (diagnostics : List (FifoDiagnosticCause S))
    (stopped : ChildStopped S) : Prop :=
  event = .workerStopped stopped ∨
    (∃ worker initialization startup,
      event = .workerInitialization (.stopped worker initialization startup stopped)) ∧
    diagnostics ≠ [] ∧ .unexpected event ∉ diagnostics

/-- A retired member sees one fact and waits for the next. -/
inductive Fades (event : FifoEvent S) (diagnostics : List (FifoDiagnosticCause S)) :
    RetirementStatus S → RetirementStatus S → Prop
  | creationStopped {worker stopped} (hevent : event = .workerStopped stopped)
      (hchild : stopped.child = worker.attempt.creation) (hnone : worker.stopped = none) :
      Fades event diagnostics (.awaitingCreation worker)
        (.awaitingCreation { worker with stopped := some stopped })
  | stopped {current startup startup' request stopped} (hstops : Stops event diagnostics stopped)
      (hchild : stopped.child = current.attempt.creation) :
      Fades event diagnostics (.established current startup (.waiting (.awaitingBoth request)))
        (.established current startup' (.waiting (.awaitingSettlement request stopped)))
  | settled {current startup settlement} (hevent : event = .workerShutdownSettled settlement) :
      Fades event diagnostics
        (.established current startup (.waiting (.awaitingBoth settlement.id)))
        (.established current startup (.waiting (.awaitingStop settlement)))
  | custody {current startup shutdown} (startup' : Option (WorkerStartupCustody S)) :
      Fades event diagnostics (.established current startup shutdown)
        (.established current startup' shutdown)
  | started {recoveries previous stopped ticket started}
      (hevent : event = .workerPreparationStarted started) :
      Fades event diagnostics
        (.awaitingPreparation recoveries previous stopped (.issued ticket))
        (.awaitingPreparation recoveries previous stopped (.started ticket))

/-- A worker departs: its stop and its shutdown settlement are both known. -/
def Departs (event : FifoEvent S) (diagnostics : List (FifoDiagnosticCause S))
    (current : CurrentWorker S) (join : ShutdownJoin S) : Prop :=
  (∃ settlement stopped, join = .awaitingStop settlement ∧ Stops event diagnostics stopped ∧
    stopped.child = current.attempt.creation) ∨
  ∃ request stopped settlement, join = .awaitingSettlement request stopped ∧
    event = .workerShutdownSettled settlement ∧ settlement.id = request

/-- A failure of a preparation whose source is back. -/
def Restored : FifoDiagnosticCause S → Prop
  | .workerPreparationFailed _ _ _ none error => error ≠ .sourceStateCorrupt
  | .workerReplacementFailed _ _ _ _ none error => error = .poolShutdown
  | _ => False

/-- A diagnostic of a drain that says nothing about an admission or a source.  The
event itself is handed back only where a report is used all the same, and first
of all. -/
def Idles (event : FifoEvent S) (diagnostics : List (FifoDiagnosticCause S)) :
    FifoDiagnosticCause S → Prop
  | .unexpected other => other = event →
      ∃ report, event = .workerInitialization report ∧ diagnostics = []
  | .workerPreparationFailed .. => False
  | .workerReplacementFailed .. => False
  | _ => True

/-- **The elementary moves of a draining pool.** -/
inductive Wane (event : FifoEvent S) : Wake S → Wake S → Prop
  /-- A diagnostic. -/
  | note {wake cause} (hidles : Idles event wake.actions.diagnostics cause) :
      Wane event wake (wake.note cause)
  /-- A member waits for its next fact. -/
  | fade {wake position role before after} (hmember : wake.members[position]? = some ⟨role, before⟩)
      (hfades : Fades event wake.actions.diagnostics before after) :
      Wane event wake { wake with members := wake.members.set position ⟨role, after⟩ }
  /-- A preparation ends, and its source is back. -/
  | restore {wake position role recoveries previous stopped preparation recovery cause}
      (hmember : wake.members[position]?
        = some ⟨role, .awaitingPreparation recoveries previous stopped preparation⟩)
      (haway : wake.pool.recovery.sourceAway = true) (hhere : recovery.sourceHere = true)
      (hpolicy : recovery.policy = wake.pool.recovery.policy) (hevent : Returns event preparation)
      (hcause : Restored cause) :
      Wane event wake
        { pool := { wake.pool with recovery := recovery }
          members := wake.members.set position ⟨role, .drained⟩
          actions := wake.actions.diagnose cause }
  /-- A restart schedule is settled. -/
  | unschedule {wake position role replacement timer settled}
      (hmember : wake.members[position]?
        = some ⟨role, .awaitingRestartSchedule replacement timer⟩)
      (hevent : event = .restartScheduleSettled settled)
      (haccepts : timer.acceptsResult settled = true) :
      Wane event wake
        { wake with
          members := wake.members.set position ⟨role, .drained⟩
          actions := retainCancelledReplacement role replacement
            (.restartScheduleReturned settled) wake.actions }
  /-- A worker departs. -/
  | depart {wake position role current startup join}
      (hmember : wake.members[position]? = some ⟨role, .established current startup (.waiting join)⟩)
      (hdeparts : Departs event wake.actions.diagnostics current join) :
      Wane event wake { wake with members := wake.members.eraseIdx position }
  /-- A worker could not be created, or had stopped when it was established. -/
  | dismiss {wake position role worker workers cause}
      (hmember : wake.members[position]? = some ⟨role, .awaitingCreation worker⟩)
      (hevent : event = .workerCreationsSettled workers)
      (hidentity : (worker.attempt.creation, worker.kind) ∈ identities workers)
      (hidles : Idles event wake.actions.diagnostics cause) :
      Wane event wake
        { wake with
          members := wake.members.eraseIdx position
          actions := wake.actions.diagnose cause }
  /-- A created worker is established, and asked to shut down where an identifier
  is left for it. -/
  | establish {wake position role worker settlement actor settlements status requests}
      (shutdowns : Sequence)
      (hmember : wake.members[position]? = some ⟨role, .awaitingCreation worker⟩)
      (hevent : event = .workerCreationsSettled (.settled settlements))
      (hmem : settlement ∈ settlements)
      (hidentity : creationIdentity settlement = (worker.attempt.creation, worker.kind))
      (hactor : settleWorkerCreation settlement = .established actor)
      (hnone : worker.stopped = none)
      (hstatus : (status = .notRequested ∧ requests = []) ∨
        ∃ shutdown, status = .waiting (.awaitingBoth shutdown) ∧
          requests = [⟨shutdown, actor⟩]) :
      Wane event wake
        { pool := { wake.pool with shutdowns := shutdowns }
          members := wake.members.set position
            ⟨role, .established ⟨worker.attempt, actor⟩ (some (.startupPlan worker.startup)) status⟩
          actions := { wake.actions with
            workerShutdowns := wake.actions.workerShutdowns ++ requests } }

/-- A sequence of moves inside one transition. -/
inductive Waning (event : FifoEvent S) (start : Wake S) : Wake S → Prop
  | start : Waning event start start
  | move {before after} (hwaning : Waning event start before) (hwane : Wane event before after) :
      Waning event start after

/-- The wake of a drain that has just begun. -/
def Wake.begin (pool : FifoPool S) (members : List (RetiringWorker S)) : Wake S :=
  ⟨pool, members, FifoActions.cont⟩

/-- **What a transition of a draining pool can do.** -/
inductive Drains (pool : FifoPool S) (members : List (RetiringWorker S))
    (deadline : ShutdownDeadline) (event : FifoEvent S) : Acted S → Prop
  /-- Moves, and then whatever the deadline allows. -/
  | moved {wake} (hwaning : Waning event (Wake.begin pool members) wake) (next : ShutdownDeadline) :
      Drains pool members deadline event (continueDraining wake.pool wake.members next wake.actions)
  /-- Moves that found no shutdown identifier. -/
  | forced {wake} (hwaning : Waning event (Wake.begin pool members) wake)
      (cause : ForcedRetirementCause) :
      Drains pool members deadline event
        ⟨wake.pool, .forcedRetirement wake.members cause, wake.actions.stop⟩
  /-- A report is handed back, and used all the same. -/
  | returned {wake} (hwaning : Waning event (Wake.begin pool members) wake) :
      Drains pool members deadline event ⟨wake.pool, .draining wake.members deadline, wake.actions⟩
  /-- The event is handed back. -/
  | diagnosed : Drains pool members deadline event (diagnose pool (.draining members deadline) event)
  /-- A submission is turned away. -/
  | refused {submission payload customer}
      (hevent : event = .command (.submit submission payload customer)) :
      Drains pool members deadline event ⟨pool, .draining members deadline,
        FifoActions.cont.deliver customer (.rejected submission payload .shuttingDown)⟩

variable {pool : FifoPool S} {members : List (RetiringWorker S)} {deadline : ShutdownDeadline}
  {event : FifoEvent S}

theorem Waning.single {start wake} (h : Wane event start wake) :
    Waning event start wake :=
  .move .start h

/-- A retired member that awaits a preparation has the source away. -/
def RetiringLent (pool : FifoPool S) (members : List (RetiringWorker S)) : Prop :=
  ∀ member ∈ members, member.awaitsPreparation (fun _ => true) = true →
    pool.recovery.sourceAway = true

/-! ### Stops, settlements and reports -/

/-- **`retain_drained_worker`** only diagnoses. -/
theorem retainDrainedWorker_waning {start wake} (h : Waning event start wake)
    (departure : WorkerDeparture S) :
    Waning event start { wake with actions := retainDrainedWorker departure wake.actions } := by
  have hshutdown : ∀ wake : Wake S, Waning event start wake → Waning event start
      { wake with actions := retainDrainedWorker { departure with startup := none } wake.actions } := by
    intro wake h
    cases departure.shutdown with
    | accepted id =>
      simp only [retainDrainedWorker]
      exact h
    | rejected id reason =>
      have hidles : Idles event wake.actions.diagnostics
          (.workerShutdownRejected departure.role (.rejected id reason)) := trivial
      simp only [retainDrainedWorker]
      exact h.move (.note hidles)
  have hsame := hshutdown wake h
  simp only [retainDrainedWorker] at hshutdown hsame ⊢
  rcases hstartup : departure.startup with _ | (startup | initialization | ⟨permit, startup⟩ |
    startup | startup)
  · exact hsame
  · have hidles : Idles event wake.actions.diagnostics
        (.unusedStartup departure.role none startup) := trivial
    exact hshutdown _ (h.move (.note hidles))
  · exact hsame
  · have hidles : Idles event wake.actions.diagnostics
        (.unusedStartup departure.role (some permit) startup) := trivial
    exact hshutdown _ (h.move (.note hidles))
  · exact hsame
  · exact hsame

/-- **`accept_drain_stop`.** -/
theorem acceptDrainStop_drains (stopped : ChildStopped S) :
    Drains pool members deadline (.workerStopped stopped)
      (acceptDrainStop pool members deadline stopped) := by
  unfold acceptDrainStop
  rcases acceptWorkerExit_cases members stopped with heq |
    ⟨position, role, creating, hmember, hchild, hnone, heq⟩ |
    ⟨position, role, current, startup, request, hmember, hchild, heq⟩ |
    ⟨position, role, current, startup, settlement, hmember, hchild, heq⟩
  · rw [heq]
    exact .diagnosed
  · rw [heq]
    exact .moved (.single (.fade hmember (.creationStopped rfl hchild hnone))) deadline
  · rw [heq]
    exact .moved (.single (.fade hmember (.stopped (.inl rfl) hchild))) deadline
  · rw [heq]
    exact .moved (retainDrainedWorker_waning (.single (.depart hmember
      (.inl ⟨settlement, stopped, rfl, .inl rfl, hchild⟩))) _) deadline

/-- **`accept_drain_shutdown`.** -/
theorem acceptDrainShutdown_drains (settled : EstablishedShutdownResolved) :
    Drains pool members deadline (.workerShutdownSettled settled)
      (acceptDrainShutdown pool members deadline settled) := by
  unfold acceptDrainShutdown
  rcases acceptWorkerShutdown_cases members settled with heq |
    ⟨position, role, current, startup, hmember, heq⟩ |
    ⟨position, role, current, startup, stopped, hmember, heq⟩
  · rw [heq]
    exact .diagnosed
  · rw [heq]
    exact .moved (.single (.fade hmember (.settled rfl))) deadline
  · rw [heq]
    exact .moved (retainDrainedWorker_waning (.single (.depart hmember
      (.inr ⟨settled.id, stopped, settled, rfl, rfl, rfl⟩))) _) deadline

/-- **`accept_drain_startup`.** -/
theorem acceptDrainStartup_drains (input : WorkerStartup S) :
    Drains pool members deadline (.workerStartupReported input)
      (acceptDrainStartup pool members deadline input) := by
  unfold acceptDrainStartup
  rcases acceptWorkerStartup_cases members input with heq |
    ⟨position, role, current, startup, shutdown, startup', hmember, heq | heq⟩
  · rw [heq]
    exact .diagnosed
  · rw [heq]
    exact .moved (.single (.fade hmember (.custody startup'))) deadline
  · rw [heq]
    have hreturned : Idles (.workerStartupReported input) []
        (.workerStartupReturned role input.worker input.startup input.outcome) := trivial
    exact .moved (.move (.single (.note hreturned)) (.fade hmember (.custody startup'))) deadline

/-- **`accept_drain_initialization`.** -/
theorem acceptDrainInitialization_drains (input : WorkerInitializationReport S) :
    Drains pool members deadline (.workerInitialization input)
      (acceptDrainInitialization pool members deadline input) := by
  unfold acceptDrainInitialization
  rcases acceptWorkerInitialization_cases members input with heq |
    ⟨position, role, current, startup, shutdown, hmember, heq⟩ |
    ⟨position, role, current, custody, join, worker, initialization, startup, stopped, hmember,
      rfl, hchild, hjoin⟩
  · rw [heq]
    exact .diagnosed
  · rw [heq]
    -- A report that names no stop is handed back, but the worker has reported.
    have hidles : Idles (.workerInitialization input) []
        (.unexpected (.workerInitialization input)) := fun _ => ⟨input, rfl, rfl⟩
    exact .returned (.move (.single (.note hidles)) (.fade hmember (.custody none)))
  · have hunused : Idles (.workerInitialization
        (.stopped worker initialization startup stopped)) []
        (.unusedStartup role none startup) := trivial
    have hnoted : Waning (.workerInitialization
        (.stopped worker initialization startup stopped)) (Wake.begin pool members) _ :=
      .single (.note hunused)
    have hstops : Stops (.workerInitialization
        (.stopped worker initialization startup stopped))
        [.unusedStartup role none startup] stopped :=
      .inr ⟨⟨worker, initialization, startup, rfl⟩, by simp, by simp⟩
    rcases hjoin with ⟨request, rfl, heq⟩ | ⟨settlement, rfl, heq⟩
    · rw [heq]
      exact .moved (hnoted.move (.fade hmember (.stopped hstops hchild))) deadline
    · rw [heq]
      exact .moved (retainDrainedWorker_waning (hnoted.move (.depart hmember
        (.inl ⟨settlement, stopped, rfl, hstops, hchild⟩))) _) deadline

/-! ### Preparations, schedules and the deadline -/

/-- **A preparation ends while the pool drains**: its source is back. -/
theorem endedPreparation_drains {position role recoveries previous stopped preparation}
    (hmember : members[position]?
      = some ⟨role, .awaitingPreparation recoveries previous stopped preparation⟩)
    (haway : pool.recovery.sourceAway = true) (hevent : Returns event preparation)
    (source : S.Source) {cause : FifoDiagnosticCause S} (hcause : Restored cause) :
    ∃ recovery, pool.recovery.restoreSource source = some recovery ∧
      Drains pool members deadline event
        (continueDraining { pool with recovery := recovery }
          (members.set position ⟨role, .drained⟩) deadline (FifoActions.cont.diagnose cause)) := by
  obtain ⟨recovery, hrestore, hhere, hpolicy⟩ :=
    PoolRecoveryState.restoreSource_of_away haway source
  have hwane : Wane event (Wake.begin pool members) _ :=
    .restore hmember haway hhere hpolicy hevent hcause
  exact ⟨recovery, hrestore, .moved (.single hwane) deadline⟩

/-- **`accept_drain_preparation_start`.** -/
theorem acceptDrainPreparationStart_drains (hsource : RetiringLent pool members)
    (input : PreparationStarted S) :
    Drains pool members deadline (.workerPreparationStarted input)
      (acceptDrainPreparationStart pool members deadline input) := by
  unfold acceptDrainPreparationStart
  rcases acceptRetiringWorkerPreparationStart_cases members input with heq |
    ⟨position, role, recoveries, previous, stopped, preparation, hmember, hfound,
      ⟨ticket, rfl, heq⟩ | ⟨source, fault, hfailed, heq⟩⟩
  · rw [heq]
    exact .diagnosed
  · rw [heq]
    exact .moved (.single (.fade hmember (.started rfl))) deadline
  · have haway := hsource _ (List.mem_of_getElem? hmember) rfl
    have hcause : Restored
        (.workerPreparationFailed role previous stopped none fault.error) := by
      cases fault <;> simp [Restored, WorkerPreparationStartFault.error]
    obtain ⟨recovery, hrestore, hdrains⟩ := endedPreparation_drains hmember haway
      (.inl ⟨input, rfl, hfound, hfailed⟩) source hcause
    rw [heq]
    simp only [restoreOr, hrestore]
    exact hdrains

/-- **`accept_drain_preparation_return`.** -/
theorem acceptDrainPreparationReturn_drains (hsource : RetiringLent pool members)
    (input : WorkerPreparation S) :
    Drains pool members deadline (.workerPreparationReturned input)
      (acceptDrainPreparationReturn pool members deadline input) := by
  unfold acceptDrainPreparationReturn
  rcases acceptRetiringWorkerPreparationReturn_cases members input with heq |
    ⟨position, role, recoveries, previous, stopped, preparation, hmember, hfound, hended⟩
  · rw [heq]
    exact .diagnosed
  · have haway := hsource _ (List.mem_of_getElem? hmember) rfl
    have hevent : Returns (.workerPreparationReturned input) preparation :=
      .inr ⟨input, rfl, hfound⟩
    rcases hended with ⟨source, submission, heq⟩ | ⟨source, error, herror, heq⟩
    · have hcause : Restored (.workerReplacementFailed role previous stopped submission
          none .poolShutdown : FifoDiagnosticCause S) := rfl
      obtain ⟨recovery, hrestore, hdrains⟩ :=
        endedPreparation_drains hmember haway hevent source hcause
      rw [heq]
      simp only [restoreOr, hrestore]
      exact hdrains
    · have hcause : Restored (.workerPreparationFailed role previous stopped none error) := herror
      obtain ⟨recovery, hrestore, hdrains⟩ :=
        endedPreparation_drains hmember haway hevent source hcause
      rw [heq]
      simp only [restoreOr, hrestore]
      exact hdrains

/-- **`accept_drain_schedule`.** -/
theorem acceptDrainSchedule_drains (settled : ScheduleSettled) :
    Drains pool members deadline (.restartScheduleSettled settled)
      (acceptDrainSchedule pool members deadline settled) := by
  unfold acceptDrainSchedule
  cases hposition : members.findIdx? (awaitsSchedule settled) with
  | none =>
    cases hdeadline : deadline.acceptSchedule settled with
    | none => exact .diagnosed
    | some next => exact .moved .start next
  | some position =>
    obtain ⟨⟨role, state⟩, hmember, hfound, -⟩ := Roster.findIdx?_some hposition
    have hlt := (List.getElem?_eq_some_iff.mp hmember).1
    cases state with
    | awaitingRestartSchedule replacement timer =>
      simp only [hmember, Roster.insertIdx_eraseIdx hlt]
      exact .moved (.single (.unschedule hmember rfl hfound)) deadline
    | _ => simp [awaitsSchedule] at hfound

/-- **`accept_drain_deadline`.** -/
theorem acceptDrainDeadline_drains (elapsed : TimerElapsed) :
    Drains pool members deadline (.restartElapsed elapsed)
      (acceptDrainDeadline pool members deadline elapsed) := by
  unfold acceptDrainDeadline
  cases hdeadline : deadline.acceptElapsed elapsed with
  | none => exact .diagnosed
  | some next => exact .moved .start next

/-! ### Creations -/

/-- What a batch loop has made of the members it passed, before the rest. -/
def DrainBatch.wake (batch : DrainBatch S) (members : List (RetiringWorker S)) : Wake S :=
  ⟨batch.pool, batch.draining ++ members, batch.actions⟩

theorem DrainBatch.wake_push (batch : DrainBatch S) (member : RetiringWorker S)
    (members : List (RetiringWorker S)) :
    (batch.push member).wake members = batch.wake (member :: members) := by
  simp [wake, push]

theorem DrainBatch.wake_getElem? (batch : DrainBatch S) (member : RetiringWorker S)
    (members : List (RetiringWorker S)) :
    (batch.wake (member :: members)).members[batch.draining.length]? = some member := by
  simp [wake]

/-- **A settled creation of a draining pool**: the worker is asked to shut down, or
the member is gone. -/
theorem retainWorker_waning {start : Wake S} {batch : DrainBatch S} {role : S.Role}
    {creating : CreatingWorker S} {settlements : List (WorkerCreationSettlement S)}
    {settlement : WorkerCreationSettlement S} {members : List (RetiringWorker S)}
    {custody : WorkerCustody S} (hmem : settlement ∈ settlements)
    (hidentity : creationIdentity settlement = (creating.attempt.creation, creating.kind))
    (hcustody : (∃ actor, settleWorkerCreation settlement = .established actor ∧
        creating.stopped = none ∧
        custody = .running role ⟨creating.attempt, actor⟩ creating.startup) ∨
      (∃ actor stopped, custody = .stopped role ⟨creating.attempt, actor⟩ creating.startup stopped) ∨
      ∃ rejection, custody = .rejected role rejection creating.startup creating.stopped)
    (h : Waning (.workerCreationsSettled (.settled settlements)) start
      (batch.wake (⟨role, .awaitingCreation creating⟩ :: members))) :
    Waning (.workerCreationsSettled (.settled settlements)) start
      ((retainWorker batch custody).wake members) := by
  have hmember := batch.wake_getElem? ⟨role, .awaitingCreation creating⟩ members
  have hsettled : (creating.attempt.creation, creating.kind)
      ∈ identities (.settled settlements) := hidentity ▸ List.mem_map_of_mem hmem
  have hdismiss (cause : FifoDiagnosticCause S)
      (hidles : Idles (.workerCreationsSettled (.settled settlements))
        batch.actions.diagnostics cause) :
      Waning (.workerCreationsSettled (.settled settlements)) start
        ⟨batch.pool, batch.draining ++ members, batch.actions.diagnose cause⟩ := by
    have hmove := h.move (.dismiss hmember rfl hsettled hidles)
    simpa [DrainBatch.wake, List.eraseIdx_append_of_length_le] using hmove
  rcases hcustody with ⟨actor, hactor, hnone, rfl⟩ | ⟨actor, stopped, rfl⟩ | ⟨rejection, rfl⟩
  · have hestablish (shutdowns : Sequence) (status : WorkerShutdownStatus S)
        (requests : List (ShutdownEstablished S))
        (hstatus : (status = .notRequested ∧ requests = []) ∨
          ∃ shutdown, status = .waiting (.awaitingBoth shutdown) ∧
            requests = [⟨shutdown, actor⟩]) :
        Waning (.workerCreationsSettled (.settled settlements)) start
          ⟨{ batch.pool with shutdowns := shutdowns },
            batch.draining ++ ⟨role, .established ⟨creating.attempt, actor⟩
              (some (.startupPlan creating.startup)) status⟩ :: members,
            { batch.actions with
              workerShutdowns := batch.actions.workerShutdowns ++ requests }⟩ := by
      have hmove := h.move (.establish shutdowns hmember rfl hmem hidentity hactor
        hnone hstatus)
      simpa [DrainBatch.wake] using hmove
    have hnotRequested := hestablish batch.pool.shutdowns .notRequested [] (.inl ⟨rfl, rfl⟩)
    rcases hreserve : batch.pool.shutdowns.reserve 1 with _ | ⟨_ | ⟨shutdown, rest⟩, shutdowns⟩
    · simpa [retainWorker, hreserve, retireWorker, DrainBatch.wake, DrainBatch.push] using
        hnotRequested
    · simpa [retainWorker, hreserve, retireWorker, DrainBatch.wake, DrainBatch.push] using
        hnotRequested
    · simpa [retainWorker, hreserve, retireWorker, DrainBatch.wake, DrainBatch.push,
        CurrentWorker.shutdownRequest, FifoActions.shutdown] using
        hestablish shutdowns _ _ (.inr ⟨shutdown, rfl, rfl⟩)
  · exact hdismiss _ trivial
  · exact hdismiss _ trivial

/-- **The member loop of `accept_drain_creations`.** -/
theorem settleDrainMembers_waning {start : Wake S}
    {settlements : List (WorkerCreationSettlement S)}
    {returned : List (ℕ × WorkerCreationSettlement S)}
    (hreturned : ∀ position settlement, returned.lookup position = some settlement →
      settlement ∈ settlements) (members : List (RetiringWorker S)) (position : ℕ)
    (batch : DrainBatch S)
    (h : Waning (.workerCreationsSettled (.settled settlements)) start (batch.wake members)) :
    Waning (.workerCreationsSettled (.settled settlements)) start
      ((settleDrainMembers returned position members batch).wake []) := by
  induction members generalizing position batch with
  | nil => exact h
  | cons member members ih =>
    unfold settleDrainMembers
    cases hlookup : returned.lookup position with
    | none => exact ih _ _ (by rwa [DrainBatch.wake_push])
    | some settlement =>
      have hmem := hreturned _ _ hlookup
      rcases member.acceptCreation_cases settlement with
        ⟨role, creating, rfl, hidentity, ⟨actor, hactor, hnone, heq⟩ |
          ⟨actor, stopped, hactor, hstopped, heq⟩ | ⟨rejection, hrejected, heq⟩⟩ | ⟨heq, -⟩
      · simp only [heq]
        exact ih _ _ (retainWorker_waning hmem hidentity
          (.inl ⟨actor, hactor, hnone, rfl⟩) h)
      · simp only [heq]
        exact ih _ _ (retainWorker_waning hmem hidentity (.inr (.inl ⟨actor, stopped, rfl⟩)) h)
      · simp only [heq]
        exact ih _ _ (retainWorker_waning hmem hidentity (.inr (.inr ⟨rejection, rfl⟩)) h)
      · simp only [heq]
        refine ih _ _ ?_
        rw [DrainBatch.wake_push]
        have hidles : Idles (.workerCreationsSettled (.settled settlements))
            batch.actions.diagnostics (.workersReturned (.settled [settlement])) := trivial
        exact h.move (.note hidles)

/-- **The member loop of `reject_drain_creations`.** -/
theorem rejectDrainMembers_waning {start workers rejection returned}
    (hreturned : ∀ position creation, returned.lookup position = some creation →
      (creation.id, creation.kind) ∈ identities workers) (members : List (RetiringWorker S))
    (position : ℕ) (batch : DrainBatch S)
    (h : Waning (.workerCreationsSettled workers) start (batch.wake members)) :
    Waning (.workerCreationsSettled workers) start
      ((rejectDrainMembers rejection returned position members batch).wake []) := by
  induction members generalizing position batch with
  | nil => exact h
  | cons member members ih =>
    unfold rejectDrainMembers
    cases hlookup : returned.lookup position with
    | none => exact ih _ _ (by rwa [DrainBatch.wake_push])
    | some creation =>
      have hmem := hreturned _ _ hlookup
      have hunmatched : Waning (.workerCreationsSettled workers) start
          ((batch.wake (member :: members)).note (.unmatchedWorkerReturn creation.id creation.kind
            (rejection.worker creation.worker))) := by
        have hidles : Idles (.workerCreationsSettled workers)
            (batch.wake (member :: members)).actions.diagnostics
            (.unmatchedWorkerReturn creation.id creation.kind
              (rejection.worker creation.worker)) := trivial
        exact h.move (.note hidles)
      have hother : Waning (.workerCreationsSettled workers) start
          (DrainBatch.wake { batch.push member with
            actions := (batch.push member).actions.diagnose (.unmatchedWorkerReturn creation.id
              creation.kind (rejection.worker creation.worker)) } members) := by
        simpa [DrainBatch.wake, DrainBatch.push, Wake.note] using hunmatched
      obtain ⟨role, state⟩ := member
      cases state with
      | awaitingCreation creating =>
        by_cases hidentity :
            (creation.id, creation.kind) = (creating.attempt.creation, creating.kind)
        · simp only [RetiringWorker.acceptCreationRejection, hidentity, ne_eq, not_true_eq_false,
            if_false]
          refine ih _ _ ?_
          have hidles : Idles (.workerCreationsSettled workers) batch.actions.diagnostics
              (.workerCreationRejected role (rejection.worker creation.worker) creating.startup
                creating.stopped) := trivial
          have hmove := h.move (.dismiss (batch.wake_getElem? _ members) rfl (hidentity ▸ hmem)
            hidles)
          simpa [DrainBatch.wake, retainWorker, List.eraseIdx_append_of_length_le] using hmove
        · simp only [RetiringWorker.acceptCreationRejection, hidentity, ne_eq, not_false_eq_true,
            if_true]
          exact ih _ _ hother
      | _ => exact ih _ _ hother

theorem DrainBatch.finish_drains {batch : DrainBatch S}
    (h : Waning event (Wake.begin pool members) (batch.wake [])) :
    Drains pool members deadline event (batch.finish deadline) := by
  simp only [DrainBatch.wake, List.append_nil] at h
  unfold DrainBatch.finish
  cases batch.forced with
  | none => exact .moved h deadline
  | some cause => exact .forced h cause

/-- **`accept_drain_creations`.** -/
theorem acceptDrainCreations_drains (workers : CreationsSettled S) :
    Drains pool members deadline (.workerCreationsSettled workers)
      (acceptDrainCreations pool members deadline workers) := by
  have hbatch : ∀ (creations : List (CreateChild S)) (rejection : CreationBatchRejection),
      workers = rejection.settlement creations →
      Drains pool members deadline (.workerCreationsSettled workers)
        (rejectDrainCreations pool members deadline creations rejection) := by
    intro creations rejection hworkers
    unfold rejectDrainCreations
    cases hpositions : orderedCreationPositions (members.map RetiringWorker.expectedCreation)
        (creations.map fun creation => (creation.id, creation.kind)) with
    | none =>
      rw [← hworkers]
      exact .diagnosed
    | some positions =>
      have hidentities : identities workers
          = creations.map fun creation => (creation.id, creation.kind) := by
        rw [hworkers]
        cases rejection <;> rfl
      have hreturned : ∀ position creation,
          (positions.zip creations).lookup position = some creation →
          (creation.id, creation.kind) ∈ identities workers := by
        intro position creation hlookup
        rw [hidentities]
        exact List.mem_map_of_mem (List.of_mem_zip (Roster.mem_of_lookup hlookup)).2
      exact DrainBatch.finish_drains (rejectDrainMembers_waning hreturned members 0 _ .start)
  cases workers with
  | rejected creations => exact hbatch creations .namespaceExhausted rfl
  | corrupt creations fault => exact hbatch creations (.interpreterCorrupt fault) rfl
  | settled settlements =>
    unfold acceptDrainCreations
    cases hpositions : orderedCreationPositions (members.map RetiringWorker.expectedCreation)
        (settlements.map creationIdentity) with
    | none =>
      simp only [hpositions]
      exact .diagnosed
    | some positions =>
      simp only [hpositions]
      have hreturned : ∀ position settlement,
          (positions.zip settlements).lookup position = some settlement →
          settlement ∈ settlements := fun position settlement hlookup =>
        (List.of_mem_zip (Roster.mem_of_lookup hlookup)).2
      exact DrainBatch.finish_drains (settleDrainMembers_waning hreturned members 0 _ .start)

/-- **What any event can do to a draining pool.** -/
theorem drainingTransition_drains (hsource : RetiringLent pool members) (event : FifoEvent S) :
    Drains pool members deadline event (drainingTransition pool members deadline event) := by
  cases event with
  | command command =>
    cases command with
    | submit submission payload customer => exact .refused rfl
    | shutdown => exact .returned .start
  | shutdown => exact .returned .start
  | workerCreationsSettled workers => exact acceptDrainCreations_drains workers
  | workerInitialization report => exact acceptDrainInitialization_drains report
  | workerStartupReported startup => exact acceptDrainStartup_drains startup
  | workerStopped stopped => exact acceptDrainStop_drains stopped
  | workerCompleted report | assignmentSettled settled => exact .diagnosed
  | workerPreparationStarted started => exact acceptDrainPreparationStart_drains hsource started
  | workerPreparationReturned returned =>
    exact acceptDrainPreparationReturn_drains hsource returned
  | restartScheduleSettled settled => exact acceptDrainSchedule_drains settled
  | restartElapsed elapsed => exact acceptDrainDeadline_drains elapsed
  | workerShutdownSettled settled => exact acceptDrainShutdown_drains settled

end Bombay.Fifo
