/-
# What one transition of a retiring keyed pool can do

The handlers of `router/shutdown.rs`, read as sequences of elementary moves like
those of an operating pool: a retired member sees one of the facts it waits for,
a preparation or a schedule ends, a worker departs after its stop and its
shutdown settlement, a creation settles.  A retiring pool hands out no work,
resolves no job and touches no binding.
-/

import Bombay.Keyed.Moves
import Bombay.Pool.Departure

namespace Bombay.Keyed

variable {R : Router}

/-- What a handler of a retiring pool owns while it runs. -/
structure Wake (R : Router) where
  pool : KeyedPool R
  members : List (RetiringWorker R.workers)
  actions : KeyedActions R

/-- Append one diagnostic. -/
def Wake.note (wake : Wake R) (cause : KeyedDiagnosticCause R) : Wake R :=
  { wake with actions := wake.actions.diagnose cause }

/-- The event brings the exact stop of a worker and is not handed back. -/
def Stops (event : KeyedEvent R) (diagnostics : List (KeyedDiagnosticCause R))
    (stopped : ChildStopped R.workers) : Prop :=
  event = .workerStopped stopped ∨
    (∃ worker initialization startup,
      event = .workerInitialization (.stopped worker initialization startup stopped)) ∧
    diagnostics ≠ [] ∧ .unexpected event ∉ diagnostics

/-- A retired member sees one fact and waits for the next. -/
inductive Fades (event : KeyedEvent R) (diagnostics : List (KeyedDiagnosticCause R)) :
    RetirementStatus R.workers → RetirementStatus R.workers → Prop
  | creationStopped {worker stopped} (hevent : event = .workerStopped stopped)
      (hchild : stopped.child = worker.attempt.creation) (hnone : worker.stopped = none) :
      Fades event diagnostics (.awaitingCreation worker)
        (.awaitingCreation { worker with stopped := some stopped })
  | stopped {current startup startup' request stopped} (hstops : Stops event diagnostics stopped)
      (hchild : stopped.child = current.attempt.creation) :
      Fades event diagnostics (.established current startup (.waiting (.awaitingBoth request)))
        (.established current startup' (.waiting (.awaitingSettlement request stopped)))
  | settled {current startup settlement} (hevent : event = .workerShutdownSettled settlement) :
      Fades event diagnostics
        (.established current startup (.waiting (.awaitingBoth settlement.id)))
        (.established current startup (.waiting (.awaitingStop settlement)))
  | custody {current startup shutdown} (startup' : Option (WorkerStartupCustody R.workers)) :
      Fades event diagnostics (.established current startup shutdown)
        (.established current startup' shutdown)
  | started {recoveries previous stopped ticket started}
      (hevent : event = .workerPreparationStarted started) :
      Fades event diagnostics
        (.awaitingPreparation recoveries previous stopped (.issued ticket))
        (.awaitingPreparation recoveries previous stopped (.started ticket))

/-- A worker departs: its stop and its shutdown settlement are both known. -/
def Departs (event : KeyedEvent R) (diagnostics : List (KeyedDiagnosticCause R))
    (current : CurrentWorker R.workers) (join : ShutdownJoin R.workers) : Prop :=
  (∃ settlement stopped, join = .awaitingStop settlement ∧ Stops event diagnostics stopped ∧
    stopped.child = current.attempt.creation) ∨
  ∃ request stopped settlement, join = .awaitingSettlement request stopped ∧
    event = .workerShutdownSettled settlement ∧ settlement.id = request

/-- A failure of a preparation whose source is back. -/
def Restored : KeyedDiagnosticCause R → Prop
  | .workerPreparationFailed _ _ _ none error => error ≠ .sourceStateCorrupt
  | .workerReplacementFailed _ _ _ _ none error => error = .poolShutdown
  | _ => False

/-- A diagnostic that says nothing about a binding or a source.  The
event itself is handed back only where a report is used all the same, and first
of all. -/
def Idles (event : KeyedEvent R) (diagnostics : List (KeyedDiagnosticCause R)) :
    KeyedDiagnosticCause R → Prop
  | .unexpected other => other = event →
      ∃ report, event = .workerInitialization report ∧ diagnostics = []
  | .workerPreparationFailed .. => False
  | .workerReplacementFailed .. => False
  | .bindingRemoved .. => False
  | _ => True

/-- **The elementary moves of a retiring pool.** -/
inductive Wane (event : KeyedEvent R) : Wake R → Wake R → Prop
  /-- A diagnostic. -/
  | note {wake cause} (hidles : Idles event wake.actions.diagnostics cause) :
      Wane event wake (wake.note cause)
  /-- A member waits for its next fact. -/
  | fade {wake position role before after} (hmember : wake.members[position]? = some ⟨role, before⟩)
      (hfades : Fades event wake.actions.diagnostics before after) :
      Wane event wake { wake with members := wake.members.set position ⟨role, after⟩ }
  /-- A preparation ends, and its source is back. -/
  | restore {wake position role recoveries previous stopped preparation recovery cause}
      (hmember : wake.members[position]?
        = some ⟨role, .awaitingPreparation recoveries previous stopped preparation⟩)
      (haway : wake.pool.recovery.sourceAway = true) (hhere : recovery.sourceHere = true)
      (hpolicy : recovery.policy = wake.pool.recovery.policy) (hevent : Returns event preparation)
      (hcause : Restored cause) :
      Wane event wake
        { pool := { wake.pool with recovery := recovery }
          members := wake.members.set position ⟨role, .drained⟩
          actions := wake.actions.diagnose cause }
  /-- A restart schedule is settled. -/
  | unschedule {wake position role replacement timer settled}
      (hmember : wake.members[position]?
        = some ⟨role, .awaitingRestartSchedule replacement timer⟩)
      (hevent : event = .restartScheduleSettled settled)
      (haccepts : timer.acceptsResult settled = true) :
      Wane event wake
        { wake with
          members := wake.members.set position ⟨role, .drained⟩
          actions := wake.actions.diagnose (.workerReplacementFailed role replacement.previous
            replacement.stopped replacement.submission none (.restartScheduleReturned settled)) }
  /-- A worker departs. -/
  | depart {wake position role current startup join}
      (hmember : wake.members[position]? = some ⟨role, .established current startup (.waiting join)⟩)
      (hdeparts : Departs event wake.actions.diagnostics current join) :
      Wane event wake { wake with members := wake.members.eraseIdx position }
  /-- A worker could not be created, or had stopped when it was established. -/
  | dismiss {wake position role worker workers cause}
      (hmember : wake.members[position]? = some ⟨role, .awaitingCreation worker⟩)
      (hevent : event = .workerCreationsSettled workers)
      (hidentity : (worker.attempt.creation, worker.kind) ∈ identities workers)
      (hidles : Idles event wake.actions.diagnostics cause) :
      Wane event wake
        { wake with
          members := wake.members.eraseIdx position
          actions := wake.actions.diagnose cause }
  /-- A created worker is established, and asked to shut down where an identifier
  is left for it. -/
  | establish {wake position role worker settlement actor settlements status requests}
      (shutdowns : Sequence)
      (hmember : wake.members[position]? = some ⟨role, .awaitingCreation worker⟩)
      (hevent : event = .workerCreationsSettled (.settled settlements))
      (hmem : settlement ∈ settlements)
      (hidentity : creationIdentity settlement = (worker.attempt.creation, worker.kind))
      (hactor : settleWorkerCreation settlement = .established actor)
      (hnone : worker.stopped = none)
      (hstatus : (status = .notRequested ∧ requests = []) ∨
        ∃ shutdown, status = .waiting (.awaitingBoth shutdown) ∧
          requests = [⟨shutdown, actor⟩]) :
      Wane event wake
        { pool := { wake.pool with shutdowns := shutdowns }
          members := wake.members.set position
            ⟨role, .established ⟨worker.attempt, actor⟩ (some (.startupPlan worker.startup)) status⟩
          actions := { wake.actions with
            workerShutdowns := wake.actions.workerShutdowns ++ requests } }

/-- A sequence of moves inside one transition. -/
inductive Waning (event : KeyedEvent R) (start : Wake R) : Wake R → Prop
  | start : Waning event start start
  | move {before after} (hwaning : Waning event start before) (hwane : Wane event before after) :
      Waning event start after

/-- The wake a transition of a retiring pool begins with. -/
def Wake.begin (pool : KeyedPool R) (members : List (RetiringWorker R.workers)) : Wake R :=
  ⟨pool, members, KeyedActions.cont⟩

/-- **What a transition of a retiring pool can do.** -/
inductive Retires (pool : KeyedPool R) (members : List (RetiringWorker R.workers))
    (deadline : ShutdownDeadline) (event : KeyedEvent R) : Acted R → Prop
  /-- Moves, and then whatever the deadline allows. -/
  | moved {wake} (hwaning : Waning event (Wake.begin pool members) wake) (next : ShutdownDeadline) :
      Retires pool members deadline event
        (continueRetirement wake.pool wake.members next none wake.actions)
  /-- Moves that found no shutdown identifier. -/
  | forced {wake} (hwaning : Waning event (Wake.begin pool members) wake)
      (cause : ForcedRetirementCause) :
      Retires pool members deadline event
        ⟨wake.pool, .forcedRetirement wake.members cause, wake.actions.stop⟩
  /-- Moves after which the deadline is not looked at. -/
  | waits {wake} (hwaning : Waning event (Wake.begin pool members) wake) :
      Retires pool members deadline event ⟨wake.pool, .retiring wake.members deadline, wake.actions⟩
  /-- The event is handed back. -/
  | diagnosed :
      Retires pool members deadline event (diagnose pool (.retiring members deadline) event)

variable {pool : KeyedPool R} {members : List (RetiringWorker R.workers)} {deadline : ShutdownDeadline}
  {event : KeyedEvent R}

variable {start : Wake R} {batch : RetirementBatch R}

theorem Waning.single {wake} (h : Wane event start wake) :
    Waning event start wake :=
  .move .start h

/-- A retired member that awaits a preparation has the source away. -/
def RetiringLent (pool : KeyedPool R) (members : List (RetiringWorker R.workers)) : Prop :=
  ∀ member ∈ members, member.awaitsPreparation (fun _ => true) = true →
    pool.recovery.sourceAway = true

/-! ### Stops, settlements and reports -/

/-- **`retain_retired_worker`** only diagnoses. -/
theorem retainRetiredWorker_waning {wake} (h : Waning event start wake)
    (departure : WorkerDeparture R.workers) :
    Waning event start { wake with actions := retainRetiredWorker departure wake.actions } := by
  have hshutdown : ∀ wake : Wake R, Waning event start wake → Waning event start
      { wake with actions := retainRetiredWorker { departure with startup := none } wake.actions } := by
    intro wake h
    cases departure.shutdown with
    | accepted id =>
      simp only [retainRetiredWorker]
      exact h
    | rejected id reason =>
      have hidles : Idles event wake.actions.diagnostics
          (.workerShutdownRejected departure.role (.rejected id reason)) := trivial
      simp only [retainRetiredWorker]
      exact h.move (.note hidles)
  have hsame := hshutdown wake h
  simp only [retainRetiredWorker] at hshutdown hsame ⊢
  rcases hstartup : departure.startup with _ | (startup | initialization | ⟨permit, startup⟩ |
    startup | startup)
  · exact hsame
  · have hidles : Idles event wake.actions.diagnostics
        (.unusedStartup departure.role none startup) := trivial
    exact hshutdown _ (h.move (.note hidles))
  · exact hsame
  · have hidles : Idles event wake.actions.diagnostics
        (.unusedStartup departure.role (some permit) startup) := trivial
    exact hshutdown _ (h.move (.note hidles))
  · exact hsame
  · exact hsame

/-- **`KeyedPool::accept_worker_exit`.** -/
theorem acceptWorkerExit_retires (stopped : ChildStopped R.workers) :
    Retires pool members deadline (.workerStopped stopped)
      (acceptWorkerExit pool members deadline stopped) := by
  unfold acceptWorkerExit
  rcases Bombay.acceptWorkerExit_cases members stopped with heq |
    ⟨position, role, creating, hmember, hchild, hnone, heq⟩ |
    ⟨position, role, current, startup, request, hmember, hchild, heq⟩ |
    ⟨position, role, current, startup, settlement, hmember, hchild, heq⟩
  · rw [heq]
    exact .diagnosed
  · rw [heq]
    exact .waits (.single (.fade hmember (.creationStopped rfl hchild hnone)))
  · rw [heq]
    exact .waits (.single (.fade hmember (.stopped (.inl rfl) hchild)))
  · rw [heq]
    exact .moved (retainRetiredWorker_waning (.single (.depart hmember
      (.inl ⟨settlement, stopped, rfl, .inl rfl, hchild⟩))) _) deadline

/-- **`KeyedPool::accept_worker_shutdown`.** -/
theorem acceptWorkerShutdown_retires (settled : EstablishedShutdownResolved) :
    Retires pool members deadline (.workerShutdownSettled settled)
      (acceptWorkerShutdown pool members deadline settled) := by
  unfold acceptWorkerShutdown
  rcases Bombay.acceptWorkerShutdown_cases members settled with heq |
    ⟨position, role, current, startup, hmember, heq⟩ |
    ⟨position, role, current, startup, stopped, hmember, heq⟩
  · rw [heq]
    exact .diagnosed
  · rw [heq]
    exact .waits (.single (.fade hmember (.settled rfl)))
  · rw [heq]
    exact .moved (retainRetiredWorker_waning (.single (.depart hmember
      (.inr ⟨settled.id, stopped, settled, rfl, rfl, rfl⟩))) _) deadline

/-- **`KeyedPool::accept_worker_startup`.** -/
theorem acceptWorkerStartup_retires (input : WorkerStartup R.workers) :
    Retires pool members deadline (.workerStartupReported input)
      (acceptWorkerStartup pool members deadline input) := by
  unfold acceptWorkerStartup
  rcases acceptWorkerStartup_cases members input with heq |
    ⟨position, role, current, startup, shutdown, startup', hmember, heq | heq⟩
  · rw [heq]
    exact .diagnosed
  · rw [heq]
    exact .moved (.single (.fade hmember (.custody startup'))) deadline
  · rw [heq]
    have hreturned : Idles (.workerStartupReported input) []
        (.workerStartupReturned role input.worker input.startup input.outcome) := trivial
    exact .moved (.move (.single (.note hreturned)) (.fade hmember (.custody startup'))) deadline

/-- **`KeyedPool::accept_worker_initialization`.** -/
theorem acceptWorkerInitialization_retires (input : WorkerInitializationReport R.workers) :
    Retires pool members deadline (.workerInitialization input)
      (acceptWorkerInitialization pool members deadline input) := by
  unfold acceptWorkerInitialization
  rcases acceptWorkerInitialization_cases members input with heq |
    ⟨position, role, current, startup, shutdown, hmember, heq⟩ |
    ⟨position, role, current, custody, join, worker, initialization, startup, stopped, hmember,
      rfl, hchild, hjoin⟩
  · rw [heq]
    exact .diagnosed
  · rw [heq]
    -- A report that names no stop is handed back, but the worker has reported.
    have hidles : Idles (.workerInitialization input) []
        (.unexpected (.workerInitialization input)) := fun _ => ⟨input, rfl, rfl⟩
    exact .waits (.move (.single (.note hidles)) (.fade hmember (.custody none)))
  · have hunused : Idles (.workerInitialization
        (.stopped worker initialization startup stopped)) []
        (.unusedStartup role none startup) := trivial
    have hnoted : Waning (.workerInitialization
        (.stopped worker initialization startup stopped)) (Wake.begin pool members) _ :=
      .single (.note hunused)
    have hstops : Stops (.workerInitialization
        (.stopped worker initialization startup stopped))
        [.unusedStartup role none startup] stopped :=
      .inr ⟨⟨worker, initialization, startup, rfl⟩, by simp, by simp⟩
    rcases hjoin with ⟨request, rfl, heq⟩ | ⟨settlement, rfl, heq⟩
    · rw [heq]
      exact .moved (hnoted.move (.fade hmember (.stopped hstops hchild))) deadline
    · rw [heq]
      exact .moved (retainRetiredWorker_waning (hnoted.move (.depart hmember
        (.inl ⟨settlement, stopped, rfl, hstops, hchild⟩))) _) deadline

/-! ### Preparations, schedules and the deadline -/

/-- **A preparation ends while the pool drains**: its source is back. -/
theorem endedPreparation_retires {position role recoveries previous stopped preparation}
    (hmember : members[position]?
      = some ⟨role, .awaitingPreparation recoveries previous stopped preparation⟩)
    (haway : pool.recovery.sourceAway = true) (hevent : Returns event preparation)
    (source : R.base.Source) {cause : KeyedDiagnosticCause R} (hcause : Restored cause) :
    ∃ recovery, pool.recovery.restoreSource source = some recovery ∧
      Retires pool members deadline event
        (continueRetirement { pool with recovery := recovery }
          (members.set position ⟨role, .drained⟩) deadline none (KeyedActions.cont.diagnose cause)) := by
  obtain ⟨recovery, hrestore, hhere, hpolicy⟩ :=
    PoolRecoveryState.restoreSource_of_away haway source
  have hwane : Wane event (Wake.begin pool members) _ :=
    .restore hmember haway hhere hpolicy hevent hcause
  exact ⟨recovery, hrestore, .moved (.single hwane) deadline⟩

/-- **`accept_retired_preparation_start`.** -/
theorem acceptRetiredPreparationStart_retires (hsource : RetiringLent pool members)
    (input : PreparationStarted R.workers) :
    Retires pool members deadline (.workerPreparationStarted input)
      (acceptRetiredPreparationStart pool members deadline input) := by
  unfold acceptRetiredPreparationStart
  rcases acceptRetiringWorkerPreparationStart_cases members input with heq |
    ⟨position, role, recoveries, previous, stopped, preparation, hmember, hfound,
      ⟨ticket, rfl, heq⟩ | ⟨source, fault, hfailed, heq⟩⟩
  · rw [heq]
    exact .diagnosed
  · rw [heq]
    exact .moved (.single (.fade hmember (.started rfl))) deadline
  · have haway := hsource _ (List.mem_of_getElem? hmember) rfl
    have hcause : Restored
        (.workerPreparationFailed role previous stopped none fault.error) := by
      cases fault <;> simp [Restored, WorkerPreparationStartFault.error]
    obtain ⟨recovery, hrestore, hretires⟩ := endedPreparation_retires hmember haway
      (.inl ⟨input, rfl, hfound, hfailed⟩) source hcause
    rw [heq]
    simp only [restoreOr, hrestore]
    exact hretires

/-- **`accept_retired_preparation_return`.** -/
theorem acceptRetiredPreparationReturn_retires (hsource : RetiringLent pool members)
    (input : WorkerPreparation R.workers) :
    Retires pool members deadline (.workerPreparationReturned input)
      (acceptRetiredPreparationReturn pool members deadline input) := by
  unfold acceptRetiredPreparationReturn
  rcases acceptRetiringWorkerPreparationReturn_cases members input with heq |
    ⟨position, role, recoveries, previous, stopped, preparation, hmember, hfound, hended⟩
  · rw [heq]
    exact .diagnosed
  · have haway := hsource _ (List.mem_of_getElem? hmember) rfl
    have hevent : Returns (.workerPreparationReturned input) preparation :=
      .inr ⟨input, rfl, hfound⟩
    rcases hended with ⟨source, submission, heq⟩ | ⟨source, error, herror, heq⟩
    · have hcause : Restored (.workerReplacementFailed role previous stopped submission
          none .poolShutdown : KeyedDiagnosticCause R) := rfl
      obtain ⟨recovery, hrestore, hretires⟩ :=
        endedPreparation_retires hmember haway hevent source hcause
      rw [heq]
      simp only [restoreOr, hrestore]
      exact hretires
    · have hcause : Restored (.workerPreparationFailed role previous stopped none error) := herror
      obtain ⟨recovery, hrestore, hretires⟩ :=
        endedPreparation_retires hmember haway hevent source hcause
      rw [heq]
      simp only [restoreOr, hrestore]
      exact hretires

/-- **`accept_retirement_schedule`.** -/
theorem acceptRetirementSchedule_retires (settled : ScheduleSettled) :
    Retires pool members deadline (.restartScheduleSettled settled)
      (acceptRetirementSchedule pool members deadline settled) := by
  unfold acceptRetirementSchedule
  cases hposition : members.findIdx? (awaitsSchedule settled) with
  | none =>
    cases hdeadline : deadline.acceptSchedule settled with
    | none => exact .diagnosed
    | some next => exact .moved .start next
  | some position =>
    obtain ⟨⟨role, state⟩, hmember, hfound, -⟩ := Roster.findIdx?_some hposition
    have hlt := (List.getElem?_eq_some_iff.mp hmember).1
    cases state with
    | awaitingRestartSchedule replacement timer =>
      simp only [hmember, Roster.insertIdx_eraseIdx hlt]
      exact .moved (.single (.unschedule hmember rfl hfound)) deadline
    | _ => simp [awaitsSchedule] at hfound

/-- **`accept_deadline`.** -/
theorem acceptDeadline_retires (elapsed : TimerElapsed) :
    Retires pool members deadline (.restartElapsed elapsed)
      (acceptDeadline pool members deadline elapsed) := by
  unfold acceptDeadline
  cases hdeadline : deadline.acceptElapsed elapsed with
  | none => exact .diagnosed
  | some next => exact .moved .start next

/-! ### Creations -/

/-- What a batch loop has made of the members it passed, before the rest. -/
def RetirementBatch.wake (batch : RetirementBatch R) (members : List (RetiringWorker R.workers)) :
    Wake R :=
  ⟨batch.pool, batch.remaining ++ members, batch.actions⟩

theorem RetirementBatch.wake_push (batch : RetirementBatch R) (member : RetiringWorker R.workers)
    (members : List (RetiringWorker R.workers)) :
    (batch.push member).wake members = batch.wake (member :: members) := by
  simp [wake, push]

theorem RetirementBatch.wake_getElem? (batch : RetirementBatch R)
    (member : RetiringWorker R.workers) (members : List (RetiringWorker R.workers)) :
    (batch.wake (member :: members)).members[batch.remaining.length]? = some member := by
  simp [wake]

/-- The members from `position` on expect the creations a batch names for them. -/
def Meets {α : Type} (identity : α → ℕ × CreationKind) (received : List (ℕ × α)) (position : ℕ)
    (members : List (RetiringWorker R.workers)) : Prop :=
  ∀ index member item, members[index]? = some member →
    received.lookup (position + index) = some item →
    member.expectedCreation = some (identity item)

theorem Meets.head {α : Type} {identity : α → ℕ × CreationKind} {received : List (ℕ × α)}
    {position : ℕ} {member : RetiringWorker R.workers} {item : α}
    (h : Meets identity received position (member :: members))
    (hlookup : received.lookup position = some item) :
    ∃ role worker, member = ⟨role, .awaitingCreation worker⟩ ∧
      identity item = (worker.attempt.creation, worker.kind) := by
  have hexpected := h 0 member item rfl hlookup
  obtain ⟨role, state⟩ := member
  cases state with
  | awaitingCreation worker => exact ⟨role, worker, rfl, (Option.some.inj hexpected).symm⟩
  | _ => simp [RetiringWorker.expectedCreation] at hexpected

theorem Meets.tail {α : Type} {identity : α → ℕ × CreationKind} {received : List (ℕ × α)}
    {position : ℕ} {member : RetiringWorker R.workers}
    (h : Meets identity received position (member :: members)) :
    Meets identity received (position + 1) members := by
  intro index other item hother hlookup
  refine h (index + 1) other item hother ?_
  rwa [Nat.add_right_comm, Nat.add_assoc] at hlookup

/-- The positions found for a batch are those of members that expect it. -/
theorem meets_of_positions {α : Type} {identity : α → ℕ × CreationKind} {items : List α}
    {positions : List ℕ}
    (h : orderedCreationPositions (members.map RetiringWorker.expectedCreation)
      (items.map identity) = some positions) :
    Meets identity (positions.zip items) 0 members := by
  obtain ⟨-, hmatch⟩ := orderedCreationPositions_some h
  rw [List.forall₂_map_right_iff] at hmatch
  obtain ⟨-, hmatch⟩ := List.forall₂_iff_zip.mp hmatch
  intro index member item hmember hlookup
  rw [Nat.zero_add] at hlookup
  have hexpected := hmatch (Roster.mem_of_lookup hlookup)
  rw [List.getElem?_map, hmember] at hexpected
  exact Option.some.inj hexpected

/-- **A member whose worker is not there any more** leaves with one diagnostic. -/
theorem RetirementBatch.dismiss {role creating workers cause}
    (hidentity : (creating.attempt.creation, creating.kind) ∈ identities workers)
    (hidles : Idles (.workerCreationsSettled workers) batch.actions.diagnostics cause)
    (h : Waning (.workerCreationsSettled workers) start
      (batch.wake (⟨role, .awaitingCreation creating⟩ :: members))) :
    Waning (.workerCreationsSettled workers) start ((batch.note cause).wake members) := by
  have hmove := h.move (.dismiss (batch.wake_getElem? _ members) rfl hidentity hidles)
  simpa [wake, note, List.eraseIdx_append_of_length_le] using hmove

/-- **A worker that runs** is asked to shut down, where an identifier is left for it. -/
theorem RetirementBatch.establish {role creating actor settlements settlement}
    (hmem : settlement ∈ settlements)
    (hidentity : creationIdentity settlement = (creating.attempt.creation, creating.kind))
    (hactor : settleWorkerCreation settlement = .established actor)
    (hnone : creating.stopped = none)
    (h : Waning (.workerCreationsSettled (.settled settlements)) start
      (batch.wake (⟨role, .awaitingCreation creating⟩ :: members))) :
    Waning (.workerCreationsSettled (.settled settlements)) start
      ((batch.retainWorker (.running role ⟨creating.attempt, actor⟩ creating.startup)).wake
        members) := by
  have hestablish (shutdowns : Sequence) (status : WorkerShutdownStatus R.workers)
      (requests : List (ShutdownEstablished R.workers))
      (hstatus : (status = .notRequested ∧ requests = []) ∨
        ∃ shutdown, status = .waiting (.awaitingBoth shutdown) ∧
          requests = [⟨shutdown, actor⟩]) :
      Waning (.workerCreationsSettled (.settled settlements)) start
        ⟨{ batch.pool with shutdowns := shutdowns },
          batch.remaining ++ ⟨role, .established ⟨creating.attempt, actor⟩
            (some (.startupPlan creating.startup)) status⟩ :: members,
          { batch.actions with
            workerShutdowns := batch.actions.workerShutdowns ++ requests }⟩ := by
    have hmove := h.move (.establish shutdowns (batch.wake_getElem? _ members) rfl hmem hidentity
      hactor hnone hstatus)
    simpa [RetirementBatch.wake] using hmove
  have hnotRequested := hestablish batch.pool.shutdowns .notRequested [] (.inl ⟨rfl, rfl⟩)
  rcases hreserve : batch.pool.shutdowns.reserve 1 with _ | ⟨_ | ⟨shutdown, rest⟩, shutdowns⟩
  · simpa [retainWorker, hreserve, retireWorker, wake, push] using hnotRequested
  · simpa [retainWorker, hreserve, retireWorker, wake, push] using hnotRequested
  · simpa [retainWorker, hreserve, retireWorker, wake, push, CurrentWorker.shutdownRequest,
      KeyedActions.shutdown] using hestablish shutdowns _ _ (.inr ⟨shutdown, rfl, rfl⟩)

/-- **The loop of `accept_correlated_creations`.** -/
theorem settleRetired_waning {settlements : List (WorkerCreationSettlement R.workers)}
    {received : List (ℕ × WorkerCreationSettlement R.workers)}
    (hreceived : ∀ position settlement, received.lookup position = some settlement →
      settlement ∈ settlements)
    (members : List (RetiringWorker R.workers)) (position : ℕ) (batch : RetirementBatch R)
    (hmeets : Meets creationIdentity received position members)
    (h : Waning (.workerCreationsSettled (.settled settlements)) start (batch.wake members)) :
    Waning (.workerCreationsSettled (.settled settlements)) start
      ((settleRetired received position members batch).wake []) := by
  induction members generalizing position batch with
  | nil => exact h
  | cons member members ih =>
    unfold settleRetired
    cases hlookup : received.lookup position with
    | none => exact ih _ _ hmeets.tail (by rwa [RetirementBatch.wake_push])
    | some settlement =>
      have hmem := hreceived _ _ hlookup
      obtain ⟨role, creating, rfl, hidentity⟩ := hmeets.head hlookup
      have hsettled : (creating.attempt.creation, creating.kind)
          ∈ identities (.settled settlements) := hidentity ▸ List.mem_map_of_mem hmem
      rcases RetiringWorker.acceptCreation_cases ⟨role, .awaitingCreation creating⟩ settlement with
        ⟨role, creating, hsame, -, ⟨actor, hactor, hnone, heq⟩ |
          ⟨actor, stopped, hactor, hstopped, heq⟩ | ⟨rejection, hrejected, heq⟩⟩ | ⟨-, hother⟩
      · obtain ⟨rfl, hstate⟩ := RetiringWorker.mk.inj hsame
        obtain rfl := RetirementStatus.awaitingCreation.inj hstate
        simp only [heq]
        exact ih _ _ hmeets.tail (RetirementBatch.establish hmem hidentity hactor hnone h)
      · obtain ⟨rfl, hstate⟩ := RetiringWorker.mk.inj hsame
        obtain rfl := RetirementStatus.awaitingCreation.inj hstate
        simp only [heq]
        exact ih _ _ hmeets.tail (RetirementBatch.dismiss hsettled trivial h)
      · obtain ⟨rfl, hstate⟩ := RetiringWorker.mk.inj hsame
        obtain rfl := RetirementStatus.awaitingCreation.inj hstate
        simp only [heq]
        exact ih _ _ hmeets.tail (RetirementBatch.dismiss hsettled trivial h)
      · exact absurd (congrArg some hidentity.symm) hother

/-- **The loop of `accept_correlated_creation_rejections`.** -/
theorem rejectRetired_waning {workers : CreationsSettled R.workers}
    {returned : List (ℕ × ℕ × CreationKind × WorkerCreationRejection R.workers)}
    (hreturned : ∀ position item, returned.lookup position = some item →
      (item.1, item.2.1) ∈ identities workers)
    (members : List (RetiringWorker R.workers)) (position : ℕ) (batch : RetirementBatch R)
    (hmeets : Meets (fun item => (item.1, item.2.1)) returned position members)
    (h : Waning (.workerCreationsSettled workers) start (batch.wake members)) :
    Waning (.workerCreationsSettled workers) start
      ((rejectRetired returned position members batch).wake []) := by
  induction members generalizing position batch with
  | nil => exact h
  | cons member members ih =>
    unfold rejectRetired
    cases hlookup : returned.lookup position with
    | none => exact ih _ _ hmeets.tail (by rwa [RetirementBatch.wake_push])
    | some item =>
      have hmem := hreturned _ _ hlookup
      obtain ⟨role, creating, rfl, hidentity⟩ := hmeets.head hlookup
      obtain ⟨id, kind, rejection⟩ := item
      simp only [RetiringWorker.acceptCreationRejection, hidentity, ne_eq, not_true_eq_false,
        if_false]
      exact ih _ _ hmeets.tail (RetirementBatch.dismiss (hidentity ▸ hmem) trivial h)

theorem RetirementBatch.finish_retires
    (h : Waning event (Wake.begin pool members) (batch.wake [])) :
    Retires pool members deadline event (batch.finish deadline) := by
  simp only [RetirementBatch.wake, List.append_nil] at h
  unfold RetirementBatch.finish
  cases batch.forced with
  | none => exact .moved h deadline
  | some cause => exact .forced h cause

theorem Remains.mem {workers remaining : CreationsSettled R.workers} (h : Remains workers remaining)
    {identity : ℕ × CreationKind} (hmem : identity ∈ identities remaining) :
    identity ∈ identities workers := by
  cases h with
  | settled passed rest =>
    have hrest : identity ∈ (rest.map creationIdentity) := hmem
    show identity ∈ (passed ++ rest).map creationIdentity
    rw [List.map_append]
    exact List.mem_append_right _ hrest
  | returned rejection passed rest =>
    have hidentities (creations : List (CreateChild R.workers)) :
        identities (rejection.settlement creations)
          = creations.map fun creation => (creation.id, creation.kind) := by
      cases rejection <;> rfl
    rw [hidentities] at hmem ⊢
    rw [List.map_append]
    exact List.mem_append_right _ hmem

/-- A whole batch is an end of itself. -/
theorem Remains.refl (workers : CreationsSettled R.workers) : Remains workers workers := by
  cases workers with
  | settled settlements => exact .settled [] settlements
  | rejected creations => exact .returned .namespaceExhausted [] creations
  | corrupt creations fault => exact .returned (.interpreterCorrupt fault) [] creations

/-- The end of a settled batch holds settlements of that batch. -/
theorem Remains.whole {workers remaining : CreationsSettled R.workers}
    {settlements : List (WorkerCreationSettlement R.workers)} (h : Remains workers remaining)
    (hsettled : remaining = .settled settlements) :
    ∃ whole, workers = .settled whole ∧ settlements ⊆ whole := by
  cases h with
  | settled passed rest =>
    obtain rfl := CreationsSettled.settled.inj hsettled
    exact ⟨_, rfl, List.subset_append_right _ _⟩
  | returned rejection passed rest =>
    cases rejection <;> cases hsettled

/-- The end of a batch that the retiring pool does not know. -/
theorem unknownBatch_retires {workers remaining} :
    Retires pool members deadline (.workerCreationsSettled workers)
      (diagnose pool (.retiring members deadline) (.workerCreationsSettled remaining)) := by
  by_cases hsame : remaining = workers
  · rw [hsame]
    exact .diagnosed
  · have hidles : Idles (.workerCreationsSettled workers) []
        (.unexpected (.workerCreationsSettled remaining) : KeyedDiagnosticCause R) :=
      fun h => absurd (KeyedEvent.workerCreationsSettled.inj h) hsame
    exact .waits (.single (.note hidles))

/-- **`KeyedPool::accept_worker_creations`**, on the end of a batch. -/
theorem acceptWorkerCreations_retires {workers remaining : CreationsSettled R.workers}
    (hremains : Remains workers remaining) :
    Retires pool members deadline (.workerCreationsSettled workers)
      (acceptWorkerCreations pool members deadline remaining) := by
  have hbatch : ∀ (creations : List (CreateChild R.workers)) (rejection : CreationBatchRejection),
      remaining = rejection.settlement creations →
      Retires pool members deadline (.workerCreationsSettled workers)
        (acceptReturnedCreations pool members deadline creations rejection) := by
    intro creations rejection hremaining
    unfold acceptReturnedCreations
    cases hpositions : orderedCreationPositions (members.map RetiringWorker.expectedCreation)
        (creations.map fun creation => (creation.id, creation.kind)) with
    | none => exact unknownBatch_retires
    | some positions =>
      have hidentities : identities remaining
          = creations.map fun creation => (creation.id, creation.kind) := by
        rw [hremaining]
        cases rejection <;> rfl
      have hmeets : Meets (fun item : ℕ × CreationKind × WorkerCreationRejection R.workers =>
          (item.1, item.2.1)) (positions.zip (creations.map fun creation =>
            (creation.id, creation.kind, rejection.worker creation.worker))) 0 members := by
        apply meets_of_positions
        rw [List.map_map]
        exact hpositions
      refine RetirementBatch.finish_retires (rejectRetired_waning ?_ members 0 _ hmeets .start)
      intro position item hlookup
      obtain ⟨creation, hcreation, rfl⟩ :=
        List.mem_map.mp (List.of_mem_zip (Roster.mem_of_lookup hlookup)).2
      refine hremains.mem ?_
      rw [hidentities]
      exact List.mem_map_of_mem (f := fun creation : CreateChild R.workers =>
        (creation.id, creation.kind)) hcreation
  cases remaining with
  | rejected creations => exact hbatch creations .namespaceExhausted rfl
  | corrupt creations fault => exact hbatch creations (.interpreterCorrupt fault) rfl
  | settled settlements =>
    unfold acceptWorkerCreations
    cases hpositions : orderedCreationPositions (members.map RetiringWorker.expectedCreation)
        (settlements.map creationIdentity) with
    | none =>
      simp only [hpositions]
      exact unknownBatch_retires
    | some positions =>
      simp only [hpositions]
      obtain ⟨whole, rfl, hrest⟩ := hremains.whole rfl
      refine RetirementBatch.finish_retires (settleRetired_waning ?_ members 0 _
        (meets_of_positions hpositions) .start)
      intro position settlement hlookup
      exact hrest (List.of_mem_zip (Roster.mem_of_lookup hlookup)).2

/-- **What any event can do to a retiring pool.** -/
theorem retiringTransition_retires (hsource : RetiringLent pool members) (event : KeyedEvent R) :
    Retires pool members deadline event (retiringTransition pool members deadline event) := by
  cases event with
  | command command | shutdown | workerCompleted report | assignmentSettled settled =>
    exact .diagnosed
  | workerCreationsSettled workers => exact acceptWorkerCreations_retires (.refl workers)
  | workerInitialization report => exact acceptWorkerInitialization_retires report
  | workerStartupReported startup => exact acceptWorkerStartup_retires startup
  | workerStopped stopped => exact acceptWorkerExit_retires stopped
  | workerPreparationStarted started => exact acceptRetiredPreparationStart_retires hsource started
  | workerPreparationReturned returned =>
    exact acceptRetiredPreparationReturn_retires hsource returned
  | restartScheduleSettled settled => exact acceptRetirementSchedule_retires settled
  | restartElapsed elapsed => exact acceptDeadline_retires elapsed
  | workerShutdownSettled settled => exact acceptWorkerShutdown_retires settled

end Bombay.Keyed
