/-
# A stable proxy waits for exactly what it has asked for

Each transition opens what it asks for and closes what it is told.  `Lawful` says
so of one transition: what is opened is owed, what is owed stays owed until it is
told (or until the creation of its worker is rejected), and what is owed was owed
before or has just been opened.  A fact that is owed and told is taken, except in
three cases which `Missed` names.
-/

import Bombay.Proxy.Sound

namespace Bombay.Proxy

variable {S : Signature} {Message : Type}

/-! ### Facts -/

/-- A report about an initialization that stopped carries the stop of its own worker. -/
def exactReport (report : WorkerInitializationReport S) : Bool :=
  match report with
  | .stopped worker _ _ stopped => stopped.child == worker.creation
  | _ => true

/-- The stop that a report about an initialization carries. -/
def reportedStop : WorkerInitializationReport S → List Due
  | .stopped _ _ _ stopped => [.stop stopped.child]
  | _ => []

/-- Which part of a startup an outcome is about. -/
def startupDue (startup : WorkerStartupGrant) : WorkerStartupOutcome S → Due
  | .started => .start startup
  | .startRejected _ _ => .start startup
  | .ready _ => .result startup
  | .rejected _ => .result startup

/-- **The exact facts an event tells**, whether or not the proxy wants them. -/
def ProxyEvent.delivers : ProxyEvent S Message → List Due
  | .service _ _ => []
  | .owner _ => []
  | .workerCreationsSettled workers =>
    match identities workers with
    | [(id, kind)] => [.creation id kind]
    | _ => []
  | .workerInitialization report =>
    if exactReport report then [.initialization report.worker report.initialization] else []
  | .workerStartupReported startup => [startupDue startup.startup startup.outcome]
  | .workerShutdownResolved settlement => [.shutdown settlement.id]
  | .workerStopped stopped => [.stop stopped.child]

/-- The creation that an event settles as rejected. -/
def ProxyEvent.rejects : ProxyEvent S Message → Option ℕ
  | .workerCreationsSettled (.rejected [creation]) => some creation.id
  | .workerCreationsSettled (.settled [settlement]) =>
    match settleWorkerCreation settlement with
    | .rejected _ => some (creationIdentity settlement).1
    | .established _ => none
  | _ => none

/-- What the requests of a transition wait for. -/
@[simp] def ProxyActions.opens (actions : ProxyActions S Message) : List Due :=
  actions.creations.flatMap (fun creation => [.creation creation.id creation.kind,
      .stop creation.id]) ++
    actions.workerInitializations.map (fun request =>
      .initialization request.worker request.initialization) ++
    actions.workerStartups.map (fun request => .start request.startup) ++
    actions.workerShutdowns.map (fun request => .shutdown request.id)

/-- The transition takes the event: it does not hand it back. -/
@[simp] def Entry.accepted (entry : Entry S Message) : Prop := entry.actions.diagnostics = []

instance (entry : Entry S Message) : Decidable entry.accepted :=
  match h : entry.actions.diagnostics with
  | [] => .isTrue h
  | _ :: _ => .isFalse fun hnil => by rw [Entry.accepted, h] at hnil; cases hnil

/-- **The exact facts a transition is told**: those of its event, and the stop in a report that
it takes. -/
@[simp] def Entry.delivers (entry : Entry S Message) : List Due :=
  entry.event.delivers ++
    match entry.event with
    | .workerInitialization report => if entry.accepted then reportedStop report else []
    | _ => []

/-- **What a transition starts to wait for**: what it asks for, and the end of a startup that
was taken up. -/
@[simp] def Entry.opens (entry : Entry S Message) : List Due :=
  entry.actions.opens ++
    match entry.event with
    | .workerStartupReported ⟨_, startup, .started⟩ =>
      if entry.accepted then [.result startup] else []
    | _ => []

/-- **What a transition closes**: what it is told and takes, and the stop of a worker whose
creation it takes as rejected. -/
@[simp] def Entry.closes (entry : Entry S Message) (due : Due) : Prop :=
  entry.accepted ∧ (due ∈ entry.delivers ∨ ∃ id, entry.event.rejects = some id ∧ due = .stop id)

/-- The record of a transition. -/
@[simp] def record (self : StableProxy S) (event : ProxyEvent S Message) (acted : Acted S Message) :
    Entry S Message :=
  ⟨self, event, acted.2, acted.1⟩

/-! ### What is overlooked -/

/-- The creation whose settlement a state waits for. -/
def ProxyState.pending : ProxyState S → Option (PendingWorker S)
  | .starting ⟨_, .creating worker _⟩ => some worker
  | .shuttingDown (.waitingForCreation ⟨_, .creating worker _⟩) => some worker
  | _ => none

/-- A state of a drain in which the settlement of a predecessor is not looked for. -/
def ProxyShutdown.deaf : ProxyShutdown S → Option WorkerStartKind
  | .waitingForCreation start => some start.kind
  | .returningWorkerStart kind _ _ => some kind
  | .initializing kind _ => some kind
  | .starting kind _ => some kind
  | _ => none

/-- **The facts that are owed and handed back**: the stop of a worker whose creation is still
unsettled when the owner shuts the proxy down, the settlement of a predecessor while its
successor's start is drained, and the settlement of the only creation in a batch that is
corrupt as a whole. -/
inductive Missed : ProxyState S → ProxyEvent S Message → Prop
  | stop {kind : WorkerStartKind} {worker : PendingWorker S} {stopped : ChildStopped S}
      (hchild : stopped.child = worker.creation) :
      Missed (.shuttingDown (.waitingForCreation ⟨kind, .creating worker none⟩))
        (.workerStopped stopped)
  | predecessor {shutdown} {kind : WorkerStartKind} {settlement} (hdeaf : shutdown.deaf = some kind)
      (hawaits : kind.awaits = some settlement.id) :
      Missed (.shuttingDown shutdown) (.workerShutdownResolved settlement)
  | corrupt {state} {worker : PendingWorker S} {creation fault}
      (hpending : state.pending = some worker)
      (hidentity : (creation.id, creation.kind) = (worker.creation, worker.kind)) :
      Missed state (.workerCreationsSettled (.corrupt [creation] fault))

/-! ### The law of one transition -/

/-- **What one transition does to what is owed.** -/
structure Lawful (entry : Entry S Message) : Prop where
  opened : ∀ due ∈ entry.opens, due ∈ entry.after.state.owes
  kept : ∀ due ∈ entry.before.state.owes, due ∈ entry.after.state.owes ∨ entry.closes due
  known : ∀ due ∈ entry.after.state.owes,
    due ∈ entry.opens ∨ due ∈ entry.before.state.owes ∧
      (due ∈ entry.delivers → Missed entry.before.state entry.event)

/-- A transition is lawful when what is owed splits into what stays, and is not told, and what
is closed, and what is owed afterwards is what stays and what is opened. -/
theorem Lawful.of_split {entry : Entry S Message} (rest closed : List Due)
    (hbefore : ∀ due, due ∈ entry.before.state.owes ↔ due ∈ rest ∨ due ∈ closed)
    (hafter : ∀ due, due ∈ entry.after.state.owes ↔ due ∈ rest ∨ due ∈ entry.opens)
    (hclosed : ∀ due ∈ closed, entry.closes due)
    (hrest : ∀ due ∈ rest, due ∉ entry.delivers) : Lawful entry where
  opened due h := (hafter due).mpr (.inr h)
  kept due h := by
    rcases (hbefore due).mp h with h | h
    · exact .inl ((hafter due).mpr (.inl h))
    · exact .inr (hclosed due h)
  known due h := by
    rcases (hafter due).mp h with h | h
    · exact .inr ⟨(hbefore due).mpr (.inl h), fun htold => absurd htold (hrest due h)⟩
    · exact .inl h

/-- The same for a transition that takes its event, with what it is told. -/
theorem Lawful.of_told {entry : Entry S Message} (rest closed told : List Due)
    (haccepted : entry.accepted) (htold : entry.delivers = told)
    (hbefore : ∀ due, due ∈ entry.before.state.owes ↔ due ∈ rest ∨ due ∈ closed)
    (hafter : ∀ due, due ∈ entry.after.state.owes ↔ due ∈ rest ∨ due ∈ entry.opens)
    (hclosed : ∀ due ∈ closed, due ∈ told) (hrest : ∀ due ∈ rest, due ∉ told) : Lawful entry := by
  subst htold
  exact .of_split rest closed hbefore hafter (fun due h => ⟨haccepted, .inl (hclosed due h)⟩) hrest

theorem ProxyActions.Quiet.opens {actions : ProxyActions S Message} (h : actions.Quiet) :
    actions.opens = [] := by
  simp [h.creations, h.initializations, h.startups, h.shutdowns]

variable {self : StableProxy S} {acted : Acted S Message}

/-- A control of the owner tells nothing: what is owed stays, and what is asked for is opened. -/
theorem Orders.lawful {control : ProxyCommand S} (h : Orders self control acted) :
    Lawful (record self (.owner control) acted) := by
  refine .of_split self.state.owes [] (by simp) ?_ (by simp)
    (by simp [ProxyEvent.delivers])
  intro due
  cases h with
  | begun hissue | revived hissue =>
    simp [ProxyState.owes, PendingWorker.of, PendingWorker.creation, WorkerStartKind.awaits]
  | replaced hissue | dismissed | initializingShut | startingShut =>
    simp [ProxyState.owes, CurrentWorker.departure, CurrentWorker.shutdown]
    grind
  | closed hempty =>
    rcases hempty with ⟨rfl, -⟩ | ⟨rfl, -⟩ | ⟨attempt, rfl, -⟩ <;> simp [ProxyState.owes]
  | creatingShut | initializingHeldShut | startingHeldShut | returningShut | cancelled =>
    simp [ProxyState.owes]
  | successorShut =>
    simp [ProxyState.owes, CurrentWorker.departure, CurrentWorker.shutdown, PredecessorReturn.awaits]
    grind
  | completionShut hready =>
    cases ‹ReplacementCompletion S› with
    | ready worker result => exact absurd rfl (hready worker result)
    | readyAfterStop _ _ _ | empty _ _ => simp [ProxyState.owes]

/-- A start that is concluded keeps what its conclusion owes, and closes the rest. -/
theorem Concludes.lawful {event : ProxyEvent S Message} {rest : List Due} {awaited : Option ℕ}
    {worker : Option WorkerAttempt} (h : Concludes self rest awaited worker acted)
    (closed : List Due)
    (hbefore : ∀ due, due ∈ self.state.owes ↔ due ∈ rest ∨ due ∈ closed)
    (hopens : (record self event acted).opens = acted.2.opens)
    (hclosed : ∀ due ∈ closed, due ∈ (record self event acted).delivers ∨
      ∃ id, event.rejects = some id ∧ due = .stop id)
    (hrest : ∀ due ∈ rest, due ∉ (record self event acted).delivers) :
    Lawful (record self event acted) := by
  refine .of_split rest closed hbefore ?_ (fun due hdue => ⟨h.quiet.diagnostics, hclosed due hdue⟩)
    hrest
  intro due
  rw [hopens, h.quiet.opens]
  show due ∈ acted.1.state.owes ↔ due ∈ rest ∨ due ∈ []
  rw [h.owes]
  simp

variable {kind : WorkerStartKind} {held held' : Option (ChildStopped S)}
    {workers : CreationsSettled S} {startup : S.Plan} {worker : CurrentWorker S}
    {report : WorkerInitializationReport S} {stopped : ChildStopped S} {id : ℕ}
    {progress : StartupProgress} {outcome : WorkerStartupOutcome S} {input : WorkerStartup S}

/-- What a start waits for of its predecessor is a settlement. -/
theorem WorkerStartKind.owes_shutdown {due} (h : due ∈ kind.owes) :
    ∃ id, due = .shutdown id := by
  obtain ⟨id, -, hdue⟩ := WorkerStartKind.mem_owes.mp h
  exact ⟨id, hdue⟩

/-- A pending worker that reads a settlement is told of its own creation. -/
theorem PendingWorker.Reads.delivers {worker : PendingWorker S} {creation}
    (h : worker.Reads held workers creation) :
    (.workerCreationsSettled workers : ProxyEvent S Message).delivers =
      [.creation worker.creation worker.kind] := by
  cases h with
  | established hidentity _ | rejected hidentity _ =>
    simp [ProxyEvent.delivers, identities, hidentity]
  | batch hidentity =>
    obtain ⟨hid, hkind⟩ := Prod.mk.injEq .. ▸ hidentity
    simp [ProxyEvent.delivers, identities, hid, hkind]

/-- What a pending worker makes of a settlement: it was established as itself, or rejected. -/
theorem PendingWorker.Reads.initializing {worker : PendingWorker S} {current : CurrentWorker S}
    (h : worker.Reads held workers (.initializing current startup held')) :
    held' = held ∧ current.attempt = worker.attempt ∧
      current.initialization = worker.initialization ∧ startup = worker.startup := by
  cases h
  exact ⟨rfl, rfl, rfl, rfl⟩

theorem PendingWorker.Reads.rejects {worker : PendingWorker S} {rejection}
    (h : worker.Reads held workers (.rejected rejection startup held')) :
    (.workerCreationsSettled workers : ProxyEvent S Message).rejects = some worker.creation := by
  cases h with
  | rejected hidentity hsettled => simp [ProxyEvent.rejects, hsettled, hidentity]
  | batch hidentity =>
    obtain ⟨hid, -⟩ := Prod.mk.injEq .. ▸ hidentity
    simp [ProxyEvent.rejects, hid]

/-- A start whose creation is rejected is told of it, and no stop of its worker is owed. -/
theorem Concludes.lawful_rejected {worker : PendingWorker S} {rejection : WorkerCreationRejection S}
    (h : Concludes self kind.owes kind.awaits none acted)
    (howes : self.state.owes = kind.owes ++ WorkerStartPhase.owes (.creating worker held))
    (hreads : worker.Reads held workers (.rejected rejection startup held')) :
    Lawful (record self (.workerCreationsSettled workers) acted) := by
  refine h.lawful (WorkerStartPhase.owes (.creating worker held)) ?_ (by simp) ?_ ?_
  · simp [howes]
  · intro due hdue
    rcases List.mem_cons.mp hdue with rfl | hdue
    · left
      simp [hreads.delivers]
    · obtain ⟨-, rfl⟩ := mem_owedStop.mp hdue
      exact .inr ⟨_, hreads.rejects, rfl⟩
  · intro due hdue
    obtain ⟨id, rfl⟩ := WorkerStartKind.owes_shutdown hdue
    simp [hreads.delivers]

theorem Creates.lawful (h : Creates self workers acted) :
    Lawful (record self (.workerCreationsSettled workers) acted) := by
  cases h with
  | @established kind worker current startup held held' workers creations heap hreads =>
    obtain ⟨rfl, hattempt, hinitialization, rfl⟩ := hreads.initializing
    refine .of_split (kind.owes ++ owedStop worker.attempt.creation held')
      [.creation worker.creation worker.kind] ?_ ?_ ?_ ?_
    · simp [ProxyState.owes]
      grind
    · simp [ProxyState.owes, CurrentWorker.report, CurrentWorker.initRequest, hattempt]
      grind
    · simp [hreads.delivers]
    · simp [hreads.delivers]
      grind
  | rejected hstate hreads =>
    exact (workerCreationRejected_concludes self _ _).lawful_rejected (by rw [hstate]; rfl) hreads
  | @establishedShut kind worker current startup held workers creations heap hreads =>
    obtain ⟨rfl, hattempt, hinitialization, rfl⟩ := hreads.initializing
    refine .of_split (kind.owes ++ [.stop worker.attempt.creation])
      [.creation worker.creation worker.kind] ?_ ?_ ?_ ?_
    · simp [ProxyState.owes]
      grind
    · simp [ProxyState.owes, CurrentWorker.report, CurrentWorker.initRequest, CurrentWorker.departure,
        CurrentWorker.shutdown, hattempt]
      grind
    · simp [hreads.delivers]
    · simp [hreads.delivers]
      grind
  | @establishedHeldShut kind worker current startup held stopped workers creations heap hreads =>
    obtain ⟨rfl, hattempt, hinitialization, rfl⟩ := hreads.initializing
    refine .of_split kind.owes [.creation worker.creation worker.kind] ?_ ?_ ?_ ?_
    · simp [ProxyState.owes]
    · simp [ProxyState.owes, CurrentWorker.report, CurrentWorker.initRequest]
    · simp [hreads.delivers]
    · simp [hreads.delivers]
      grind
  | rejectedShut hstate hreads =>
    exact (finishStartRetirement_concludes self _ _).lawful_rejected (by rw [hstate]; rfl) hreads

/-- A report that is taken tells the end of its initialization, and the stop it carries. -/
theorem record_delivers_report
    (hadmits : report.worker = worker.attempt ∧ report.initialization = worker.initialization)
    (hexact : exactReport report = true) (haccepted : acted.2.diagnostics = []) :
    (record self (.workerInitialization report) acted).delivers =
      worker.report :: reportedStop report := by
  simp [ProxyEvent.delivers, CurrentWorker.report, hadmits.1, hadmits.2, hexact, haccepted]

/-- A stop of the report's own worker makes the report exact. -/
theorem exactReport_stopped {attempt initialization} (hattempt : attempt = worker.attempt)
    (hchild : stopped.child = worker.attempt.creation) :
    exactReport (.stopped attempt initialization startup stopped) = true := by
  simp [exactReport, hchild, hattempt]

theorem reportedStop_shutdown :
    .shutdown id ∉ reportedStop report := by
  cases report <;> simp [reportedStop]

/-- A report that concludes a start closes the initialization, and the stop it carries. -/
theorem Concludes.lawful_report {awaited tenant} (h : Concludes self kind.owes awaited tenant acted)
    (hadmits : report.worker = worker.attempt ∧ report.initialization = worker.initialization)
    (hexact : exactReport report = true) (closed : List Due)
    (howes : ∀ due, due ∈ self.state.owes ↔ due ∈ kind.owes ∨ due ∈ closed)
    (hclosed : ∀ due ∈ closed, due = worker.report ∨ due ∈ reportedStop report) :
    Lawful (record self (.workerInitialization report) acted) := by
  have htold : (record self (.workerInitialization report) acted).delivers =
      worker.report :: reportedStop report :=
    record_delivers_report hadmits hexact h.quiet.diagnostics
  refine h.lawful closed howes (by simp) (fun due hdue => ?_) fun due hdue => ?_
  · left
    rw [htold]
    exact List.mem_cons.mpr (hclosed due hdue)
  · rw [htold]
    obtain ⟨id, rfl⟩ := WorkerStartKind.owes_shutdown hdue
    simp [CurrentWorker.report, reportedStop_shutdown]

theorem Stillborn.exact {drain} (h : Stillborn worker held report drain)
    (hworker : report.worker = worker.attempt) :
    exactReport report = true ∧
      (held = none → .stop worker.attempt.creation ∈ reportedStop report) := by
  cases h with
  | completed hheld | rejected hheld => exact ⟨rfl, fun hnone => by simp [hnone] at hheld⟩
  | stopped hchild =>
    exact ⟨exactReport_stopped hworker hchild, fun _ => by simp [reportedStop, hchild]⟩

theorem Initializes.lawful (h : Initializes self report acted) :
    Lawful (record self (.workerInitialization report) acted) := by
  cases h with
  | @initialized kind worker attempt initialization startup permit creations heap hattempt
      hinitialization =>
    subst hattempt hinitialization
    refine .of_told (kind.owes ++ [.stop worker.attempt.creation]) [worker.report] _ rfl
      (record_delivers_report ⟨rfl, rfl⟩ rfl rfl) ?_ ?_ ?_ ?_
    · simp [ProxyState.owes]
      grind
    · simp [ProxyState.owes, StartupProgress.owes]
      grind
    · simp
    · simp [reportedStop, CurrentWorker.report]
      grind
  | @stillborn kind worker held report drain self hstate hadmits hstillborn =>
    obtain ⟨hexact, hcarried⟩ := hstillborn.exact hadmits.1
    refine (workerStartEmpty_concludes self kind _ _).lawful_report hadmits hexact
      (WorkerStartPhase.owes (.initializing worker held)) ?_ ?_
    · simp [hstate, ProxyState.owes]
    · intro due hdue
      rcases List.mem_cons.mp hdue with rfl | hdue
      · exact .inl rfl
      · obtain ⟨hnone, rfl⟩ := mem_owedStop.mp hdue
        exact .inr (hcarried hnone)
  | @uninitialized kind worker attempt initialization startup failure creations heap hattempt
      hinitialization =>
    subst hattempt hinitialization
    refine .of_told (kind.owes ++ [.stop worker.attempt.creation]) [worker.report] _ rfl
      (record_delivers_report ⟨rfl, rfl⟩ rfl rfl) ?_ ?_ ?_ ?_
    · simp [ProxyState.owes]
      grind
    · simp [ProxyState.owes, CurrentWorker.departure, CurrentWorker.shutdown]
      grind
    · simp
    · simp [reportedStop, CurrentWorker.report]
      grind
  | @retained kind departure departure' report retirement creations heap hadmits hretains =>
    cases hretains with
    | initialized | rejected =>
      refine .of_told (kind.owes ++ departure.owes) [departure.worker.report] _ rfl
        (record_delivers_report hadmits rfl rfl) ?_ ?_ ?_ ?_
      · simp [ProxyState.owes]
        grind
      · simp [ProxyState.owes]
      · simp
      · simp [reportedStop, CurrentWorker.report]
        grind
    | again hheld hchild =>
      refine .of_told (kind.owes ++ departure.owes) [departure.worker.report] _ rfl
        (record_delivers_report hadmits (exactReport_stopped hadmits.1 hchild) rfl) ?_ ?_ ?_ ?_
      · simp [ProxyState.owes]
        grind
      · simp [ProxyState.owes]
      · simp
      · simp [reportedStop, CurrentWorker.report, hheld]
        grind
    | taken hnone hrequested hchild =>
      refine .of_told (kind.owes ++ departure.shutdown.owes)
        [departure.worker.report, .stop departure.worker.attempt.creation] _ rfl
        (record_delivers_report hadmits (exactReport_stopped hadmits.1 hchild) rfl) ?_ ?_ ?_ ?_
      · simp [ProxyState.owes, hnone]
        grind
      · simp [ProxyState.owes]
      · simp [reportedStop, hchild]
      · simp [reportedStop, CurrentWorker.report]
        grind
  | @returnedStopped kind departure attempt initialization startup stopped settlement self hstate
      hadmits hnone hsettled hchild =>
    refine (finishStartRetirement_concludes self kind _).lawful_report hadmits
      (exactReport_stopped hadmits.1 hchild)
      [departure.worker.report, .stop departure.worker.attempt.creation] ?_ ?_
    · simp [hstate, ProxyState.owes, hnone, hsettled]
    · simp [reportedStop, hchild]
  | @lateInitialized kind worker shutdown stopped report retirement self hstate hadmits
      hclassified =>
    refine (finishStartRetirement_concludes self kind _).lawful_report hadmits ?_
      [worker.report] ?_ ?_
    · cases report with
      | readyForStartup _ _ _ _ => rfl
      | effectsRejected _ _ _ _ => rfl
      | stopped attempt initialization startup returned =>
        have hchild : worker.admitStop returned = true := by
          by_contra hnot
          simp [classifyInitializationAfterStop, hnot] at hclassified
        exact exactReport_stopped hadmits.1 (by simpa [CurrentWorker.admitStop] using hchild)
    · simp [hstate, ProxyState.owes]
    · simp

/-! A startup that is taken further answers what was waited for of it. -/

theorem Fails.answers {failure} (h : Fails progress outcome failure) :
    progress.owes = [startupDue progress.grant outcome] ∧ outcome ≠ .started := by
  cases h <;> exact ⟨rfl, nofun⟩

theorem Ends.answers {drain} (h : Ends stopped progress outcome drain) :
    progress.owes = [startupDue progress.grant outcome] ∧ outcome ≠ .started := by
  cases h <;> exact ⟨rfl, nofun⟩

/-- An input that goes with a startup takes it up, or brings it to its end. -/
theorem advance_answers {startup} (h : advanceStartupDuringShutdown progress input = some startup) :
    progress.owes = [startupDue progress.grant input.outcome] ∧
      ((input.outcome = .started ∧ startup = .pending (.running progress.grant)) ∨
        (input.outcome ≠ .started ∧ ∃ returned, startup = .returned returned)) := by
  obtain ⟨attempt, grant, outcome⟩ := input
  cases progress <;> cases outcome <;> simp [advanceStartupDuringShutdown] at h <;> subst h <;>
    simp [StartupProgress.owes, StartupProgress.grant, startupDue]

/-- Only a startup that is taken up opens more than its transition asks for. -/
theorem record_opens_startup (h : input.outcome ≠ .started) :
    (record self (.workerStartupReported input) acted).opens = acted.2.opens := by
  obtain ⟨attempt, grant, outcome⟩ := input
  cases outcome with
  | started => exact absurd rfl h
  | startRejected _ _ => simp
  | ready _ => simp
  | rejected _ => simp

theorem record_opens_started (h : input.outcome = .started) (haccepted : acted.2.diagnostics = []) :
    (record self (.workerStartupReported input) acted).opens =
      acted.2.opens ++ [.result input.startup] := by
  obtain ⟨attempt, grant, outcome⟩ := input
  subst h
  simp [haccepted]

theorem startupDue_ne_shutdown {startup} : Due.shutdown id ≠ startupDue startup outcome := by
  cases outcome <;> simp [startupDue]

theorem startupDue_ne_stop {startup} : Due.stop id ≠ startupDue startup outcome := by
  cases outcome <;> simp [startupDue]

/-- The end of a startup that concludes a start closes it. -/
theorem Concludes.lawful_startup {worker rest}
    (h : Concludes self (kind.owes ++ rest) kind.awaits worker acted)
    (hstarted : input.outcome ≠ .started) (hrest : startupDue input.startup input.outcome ∉ rest)
    (howes : ∀ due, due ∈ self.state.owes ↔
      due ∈ kind.owes ++ rest ∨ due ∈ [startupDue input.startup input.outcome]) :
    Lawful (record self (.workerStartupReported input) acted) := by
  have htold : (record self (.workerStartupReported input) acted).delivers =
      [startupDue input.startup input.outcome] := rfl
  refine h.lawful _ howes (record_opens_startup hstarted) (fun due hdue => ?_) fun due hdue => ?_
  · rw [htold]
    exact .inl hdue
  · rw [htold, List.mem_singleton]
    rintro rfl
    rcases List.mem_append.mp hdue with hkind | hmem
    · obtain ⟨id, hid⟩ := WorkerStartKind.owes_shutdown hkind
      exact startupDue_ne_shutdown hid.symm
    · exact hrest hmem

theorem Starts.lawful (h : Starts self input acted) :
    Lawful (record self (.workerStartupReported input) acted) := by
  cases h with
  | @started kind worker startup held attempt creations heap =>
    refine .of_told (kind.owes ++ owedStop worker.attempt.creation held) [.start startup]
      [.start startup] rfl rfl ?_ ?_ ?_ ?_
    · simp [ProxyState.owes, StartupProgress.owes]
      grind
    · simp [ProxyState.owes, StartupProgress.owes]
      grind
    · simp
    · simp
      grind
  | @failed kind worker progress attempt outcome failure creations heap hfails =>
    obtain ⟨howes, hstarted⟩ := hfails.answers
    refine .of_told (kind.owes ++ [.stop worker.attempt.creation])
      [startupDue progress.grant outcome] [startupDue progress.grant outcome] rfl rfl ?_ ?_
      (fun due h => h) ?_
    · simp [ProxyState.owes, howes]
      grind
    · rw [record_opens_startup hstarted]
      simp [ProxyState.owes, CurrentWorker.departure, CurrentWorker.shutdown]
      grind
    · simp
      grind [startupDue_ne_shutdown, startupDue_ne_stop]
  | @ended kind worker progress stopped attempt outcome drain self hstate hends =>
    obtain ⟨howes, hstarted⟩ := hends.answers
    have hconcludes : Concludes self (kind.owes ++ []) kind.awaits none
        (workerStartEmpty self kind worker.attempt (.unavailable worker.attempt drain) :
          Acted S Message) := by
      rw [List.append_nil]
      exact workerStartEmpty_concludes self kind worker.attempt _
    refine hconcludes.lawful_startup hstarted (by simp) ?_
    simp [hstate, ProxyState.owes, howes]
  | @ready kind worker startup attempt readiness self hstate =>
    refine (workerStartReady_concludes self kind worker _).lawful_startup nofun ?_ ?_
    · simp [startupDue]
    · simp [hstate, ProxyState.owes, StartupProgress.owes, startupDue]
      grind
  | @advanced kind progress startup departure input creations heap hadmits hadvance =>
    obtain ⟨howes, hcase⟩ := advance_answers hadvance
    refine .of_told (kind.owes ++ departure.owes) [startupDue input.startup input.outcome]
      [startupDue input.startup input.outcome] rfl rfl ?_ ?_ (fun due h => h) ?_
    · simp [ProxyState.owes, howes, hadmits]
      grind
    · rcases hcase with ⟨hstarted, rfl⟩ | ⟨hstarted, returned, rfl⟩
      · rw [record_opens_started hstarted rfl]
        simp [ProxyState.owes, StartupProgress.owes, hadmits]
        grind
      · rw [record_opens_startup hstarted]
        simp [ProxyState.owes]
    · simp
      grind [startupDue_ne_shutdown, startupDue_ne_stop]
  | @lateStarted kind progress startup worker shutdown stopped input creations heap hadmits
      hadvance =>
    obtain ⟨howes, ⟨hstarted, hstartup⟩ | ⟨-, returned, hreturned⟩⟩ := advance_answers hadvance
    · obtain rfl : startup = .running progress.grant := by simpa using hstartup
      refine .of_told kind.owes [startupDue input.startup input.outcome]
        [startupDue input.startup input.outcome] rfl rfl ?_ ?_ (fun due h => h) ?_
      · simp [ProxyState.owes, howes, hadmits]
      · rw [record_opens_started hstarted rfl]
        simp [ProxyState.owes, StartupProgress.owes, hadmits]
      · simp
        grind [startupDue_ne_shutdown]
    · simp at hreturned
  | @lateReturned kind progress startup worker shutdown stopped input self hstate hadmits
      hadvance =>
    obtain ⟨howes, ⟨-, hstartup⟩ | ⟨hstarted, -⟩⟩ := advance_answers hadvance
    · simp at hstartup
    · have hconcludes : Concludes self (kind.owes ++ []) kind.awaits none
          (finishStartRetirement self kind (.startup startup worker shutdown stopped) :
            Acted S Message) := by
        rw [List.append_nil]
        exact finishStartRetirement_concludes self kind _
      refine hconcludes.lawful_startup hstarted (by simp) ?_
      simp [hstate, ProxyState.owes, howes, hadmits]

/-! ### Departures -/

/-- What is owed besides a departure: no stop, and no settlement but the predecessor's. -/
theorem Leaving.mem_rest {place : Leaving S} {due} (h : due ∈ place.rest worker) :
    (∀ creation, due ≠ .stop creation) ∧ ∀ id, due = .shutdown id → place.awaits = some id := by
  have hkind : ∀ kind : WorkerStartKind, due ∈ kind.owes →
      (∀ creation, due ≠ .stop creation) ∧ ∀ id, due = .shutdown id → kind.awaits = some id := by
    intro kind hmem
    obtain ⟨id, hawaits, rfl⟩ := WorkerStartKind.mem_owes.mp hmem
    exact ⟨nofun, fun id' heq => by rw [hawaits, Due.shutdown.inj heq]⟩
  match place with
  | .returningStart kind _ | .retiringStart kind _ => exact hkind kind h
  | .returningPredecessor _ _ | .returningWorker | .cancelledPredecessor _ _ => simp [rest] at h
  | .returningSuccessor _ predecessor _ =>
    obtain ⟨id, hawaits, rfl⟩ := PredecessorReturn.mem_owes.mp h
    exact ⟨nofun, fun id' heq => by rw [← Due.shutdown.inj heq]; exact hawaits⟩
  | .retiringInitialization kind none =>
    rcases List.mem_append.mp h with h | h
    · exact hkind kind h
    · rw [List.mem_singleton.mp h]
      exact ⟨nofun, nofun⟩
  | .retiringInitialization kind (some _) => exact hkind kind h
  | .retiringStartup kind (.pending progress) =>
    rcases List.mem_append.mp h with h | h
    · exact hkind kind h
    · cases progress <;> rw [List.mem_singleton.mp h] <;> exact ⟨nofun, nofun⟩
  | .retiringStartup kind (.returned _) => exact hkind kind h

/-- The settlement of a departure is not the one its place waits for besides. -/
theorem Leaving.rest_ne_shutdown {place : Leaving S} {departure : WorkerStopping S}
    (hsound : Sound self) (hstate : self.state = place.state departure)
    (hrequested : departure.shutdown = .requested id) (worker : CurrentWorker S) :
    .shutdown id ∉ place.rest worker := by
  intro hmem
  have hawaits := (Leaving.mem_rest hmem).2 id rfl
  have hlt := hsound.awaited id (by rw [hstate, state_awaits]; exact hawaits)
    departure.worker.attempt (by rw [hstate, state_tenant])
  have hid := hsound.departing departure id (by rw [hstate, state_departure]) hrequested
  omega

/-- **A worker that has left closes its departure**, and may start its successor. -/
theorem Leaving.left_lawful {place : Leaving S} {departure : WorkerStopping S}
    {gone : StoppedWorker S} {event : ProxyEvent S Message} {told : Due}
    (hsound : Sound self) (hstate : self.state = place.state departure)
    (hworker : gone.worker = departure.worker)
    (htold : event.delivers = [told])
    (hevent : (record self event (place.left self gone)).delivers = event.delivers ∧
      (record self event (place.left self gone)).opens =
        (place.left self gone : Acted S Message).2.opens)
    (howes : ∀ due, due ∈ departure.owes ↔ due = told)
    (hrest : told ∉ place.rest departure.worker) :
    Lawful (record self event (place.left self gone)) := by
  cases hplace : place.isPredecessor with
  | false =>
    have hconcludes : Concludes self _ _ _ (_ : Acted S Message) :=
      Leaving.left_concludes self hplace gone
    rw [hworker] at hconcludes
    refine hconcludes.lawful [told] ?_ hevent.2 ?_ ?_
    · intro due
      rw [hstate, Leaving.state_owes, List.mem_append, howes, List.mem_singleton]
    · intro due hdue
      left
      rw [hevent.1, htold]
      exact hdue
    · intro due hdue
      rw [hevent.1, htold, List.mem_singleton]
      rintro rfl
      exact hrest hdue
  | true =>
    obtain ⟨successor, creation, rfl⟩ := Leaving.eq_returningPredecessor hplace
    obtain ⟨⟨hid, hkind⟩, -, -⟩ := hsound.unborn successor creation (by rw [hstate]; rfl)
    refine .of_told [] [told] [told] rfl (hevent.1.trans htold) ?_ ?_ (by simp) (by simp)
    · intro due
      show due ∈ self.state.owes ↔ _
      rw [hstate, Leaving.state_owes]
      simpa [Leaving.rest] using howes due
    · intro due
      rw [hevent.2]
      simp [ProxyState.owes, Leaving.left, startSuccessorAfterStop, WorkerStartKind.awaits, hid,
        hkind, PendingWorker.creation]

/-- The settlement a phase waits for is that of its worker's departure. -/
theorem WorkerStartPhase.shutdown_mem_owes {phase : WorkerStartPhase S}
    (h : .shutdown id ∈ phase.owes) :
    ∃ departure failure, phase = .returningWorker departure failure ∧
      departure.shutdown = .requested id := by
  cases phase with
  | creating worker held => simp at h
  | initializing worker held => simp [CurrentWorker.report] at h
  | starting worker progress held => cases progress <;> simp [StartupProgress.owes] at h
  | returningWorker departure failure => exact ⟨departure, failure, rfl, by simpa using h⟩

theorem Settles.lawful {settlement} (h : Settles self settlement acted) (hsound : Sound self) :
    Lawful (record self (.workerShutdownResolved settlement) acted) := by
  cases h with
  | @predecessorSettled replaces phase settlement creations heap =>
    refine .of_told phase.owes [.shutdown settlement.id] [.shutdown settlement.id] rfl rfl ?_ ?_
      (by simp) ?_
    · intro due
      show due ∈ [.shutdown settlement.id] ++ phase.owes ↔ _
      rw [List.mem_append, or_comm]
    · intro due
      show due ∈ phase.owes ↔ due ∈ phase.owes ∨ due ∈ []
      simp only [List.not_mem_nil, or_false]
    · intro due hdue
      rw [List.mem_singleton]
      rintro rfl
      obtain ⟨departure, failure, rfl, hrequested⟩ := WorkerStartPhase.shutdown_mem_owes hdue
      have hid := hsound.departing departure _ rfl hrequested
      have hlt := hsound.awaited settlement.id rfl departure.worker.attempt rfl
      omega
  | @published replaces completion settlement self hstate =>
    have hconcludes : Concludes self _ _ _ (_ : Acted S Message) :=
      publishReplacement_concludes self replaces completion
    refine hconcludes.lawful [.shutdown settlement.id] ?_ (by simp) ?_ ?_
    · intro due
      rw [hstate]
      show due ∈ [.shutdown settlement.id] ++ completion.owes ↔ _
      rw [List.mem_append, or_comm]
    · exact fun due hdue => .inl hdue
    · intro due hdue
      show due ∉ [.shutdown settlement.id]
      cases completion <;> simp_all
  | @predecessorReturned replaces departure result settlement creations heap =>
    refine .of_told departure.owes [.shutdown settlement.id] [.shutdown settlement.id] rfl rfl ?_ ?_
      (by simp) ?_
    · simp [ProxyState.owes, PredecessorReturn.awaits]
      grind
    · simp [ProxyState.owes, PredecessorReturn.awaits]
    · intro due hdue
      rw [List.mem_singleton]
      rintro rfl
      have hrequested : departure.shutdown = .requested settlement.id := by simpa using hdue
      have hid := hsound.departing departure _ rfl hrequested
      have hlt := hsound.awaited settlement.id rfl departure.worker.attempt rfl
      omega
  | @predecessorLast replaces retirement settlement creations heap =>
    refine .of_told [] [.shutdown settlement.id] [.shutdown settlement.id] rfl rfl ?_ ?_
      (by simp) (by simp)
    · simp [ProxyState.owes]
    · simp [ProxyState.owes]
  | @settled place departure settlement creations heap hrequested hnone =>
    refine .of_told (place.rest departure.worker ++ [.stop departure.worker.attempt.creation])
      [.shutdown settlement.id] [.shutdown settlement.id] rfl rfl ?_ ?_ (by simp) ?_
    · intro due
      show due ∈ (place.state departure).owes ↔ _
      rw [Leaving.state_owes]
      simp [hrequested, hnone]
      grind
    · intro due
      show due ∈ (place.state _).owes ↔ _
      rw [Leaving.state_owes]
      simp [hnone]
    · intro due hdue
      rw [List.mem_singleton]
      rintro rfl
      rcases List.mem_append.mp hdue with hmem | hmem
      · exact Leaving.rest_ne_shutdown hsound rfl hrequested _ hmem
      · simp at hmem
  | @settledLast place departure settlement stopped self hstate hrequested hheld =>
    refine Leaving.left_lawful hsound hstate rfl rfl ⟨by simp, by simp⟩ ?_
      (Leaving.rest_ne_shutdown hsound hstate hrequested _)
    simp [hrequested, hheld]

theorem Stops.lawful (h : Stops self stopped acted)
    (hsound : Sound self) : Lawful (record self (.workerStopped stopped) acted) := by
  cases h with
  | @creatingStopped kind worker stopped creations heap hchild =>
    refine .of_told (kind.owes ++ [.creation worker.creation worker.kind]) [.stop stopped.child]
      [.stop stopped.child] rfl rfl ?_ ?_ (by simp) ?_
    · simp [ProxyState.owes, hchild]
      grind
    · simp [ProxyState.owes]
    · simp
      grind
  | @initializingStopped kind worker stopped creations heap hchild =>
    refine .of_told (kind.owes ++ [worker.report]) [.stop stopped.child] [.stop stopped.child] rfl rfl
      ?_ ?_ (by simp) ?_
    · simp [ProxyState.owes, hchild]
      grind
    · simp [ProxyState.owes]
    · simp [CurrentWorker.report]
      grind
  | @startingStopped kind worker progress stopped creations heap hchild =>
    refine .of_told (kind.owes ++ progress.owes) [.stop stopped.child] [.stop stopped.child] rfl rfl
      ?_ ?_ (by simp) ?_
    · simp [ProxyState.owes, hchild]
      grind
    · simp [ProxyState.owes]
    · cases progress <;> simp [StartupProgress.owes] <;> grind
  | @readyStopped worker stopped creations heap hchild =>
    refine .of_told [] [.stop stopped.child] [.stop stopped.child] rfl rfl ?_ ?_ (by simp) (by simp)
    · simp [ProxyState.owes, hchild]
    · simp [ProxyState.owes]
  | @successorStopped replaces shutdown worker result stopped creations heap hchild =>
    refine .of_told [.shutdown shutdown] [.stop stopped.child] [.stop stopped.child] rfl rfl ?_ ?_
      (by simp) (by simp)
    · simp [ProxyState.owes, hchild]
    · simp [ProxyState.owes]
  | @predecessorStopped departure successor creation stopped id self hstate hrequested hnone
      hchild =>
    obtain ⟨⟨hid, hkind⟩, -, -⟩ := hsound.unborn successor creation (by rw [hstate]; rfl)
    refine .of_told [.shutdown id] [.stop stopped.child] [.stop stopped.child] rfl rfl ?_ ?_
      (by simp) (by simp)
    · simp [hstate, ProxyState.owes, hrequested, hnone, hchild]
    · simp [startSuccessorAfterStop, ProxyState.owes, WorkerStartKind.awaits, hid, hkind,
        PendingWorker.creation]
  | @held place departure stopped id creations heap hplace hrequested hnone hchild =>
    refine .of_told (place.rest departure.worker ++ [.shutdown id]) [.stop stopped.child]
      [.stop stopped.child] rfl rfl ?_ ?_ (by simp) ?_
    · intro due
      show due ∈ (place.state departure).owes ↔ _
      rw [Leaving.state_owes]
      simp [hrequested, hnone, hchild]
      grind
    · intro due
      show due ∈ (place.state _).owes ↔ _
      rw [Leaving.state_owes]
      simp [hrequested]
    · intro due hdue
      rw [List.mem_singleton]
      rintro rfl
      rcases List.mem_append.mp hdue with hmem | hmem
      · exact (Leaving.mem_rest hmem).1 _ rfl
      · simp at hmem
  | @stoppedLast place departure stopped settlement self hstate hsettled hnone hchild =>
    refine Leaving.left_lawful hsound hstate rfl rfl ⟨by simp, by simp⟩ ?_
      (fun hmem => (Leaving.mem_rest hmem).1 _ rfl)
    simp [hsettled, hnone, hchild]

end Bombay.Proxy
