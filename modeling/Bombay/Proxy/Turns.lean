/-
# Every transition of a stable proxy is a turn

Function by function, `proxy/mod.rs` does one of the things a `Turn` lists.  The
eight places a worker leaves from share two lemmas.
-/

import Bombay.Proxy.Turn

namespace Bombay.Proxy

variable {S : Signature} {Message : Type}

/-! ### Service and owner -/

variable (self : StableProxy S)

theorem service_turn (sender : S.Address) (message : Message) :
    Turn self (.service sender message) (service self sender message) := by
  obtain ⟨state, creations, heap⟩ := self
  by_cases hready : ∃ worker, state = .ready worker
  · obtain ⟨worker, rfl⟩ := hready
    exact .stays (.served rfl)
  · have hnot : ∀ worker, state ≠ .ready worker := fun worker h => hready ⟨worker, h⟩
    have hservice : service ⟨state, creations, heap⟩ sender message
        = (⟨state, creations, heap⟩, .report (.unavailable sender state.phase message)) := by
      cases state <;> first | rfl | exact absurd rfl (hnot _)
    rw [hservice]
    exact .stays (.unavailable hnot)

theorem startInitial_turn (submission : WorkerSubmission S) :
    Turn self (.owner (.start submission))
      (startInitial self submission.worker submission.startup : Acted S Message) := by
  obtain ⟨state, creations, heap⟩ := self
  by_cases hdormant : state = .dormant
  · subst hdormant
    show Turn _ _ (beginInitial _ _ _)
    cases hissue : creations.issue with
    | none =>
      simp only [beginInitial, PendingWorker.birth, hissue]
      exact .stays (.startExhausted rfl hissue)
    | some issued =>
      obtain ⟨id, rest⟩ := issued
      simp only [beginInitial, PendingWorker.birth, hissue]
      exact .ordered (.begun hissue)
  · have hstart : startInitial ⟨state, creations, heap⟩ submission.worker submission.startup
        = ((⟨state, creations, heap⟩, .report (.initial
            (.overlap submission.worker submission.startup state.phase))) : Acted S Message) := by
      cases state <;> first | rfl | exact absurd rfl hdormant
    rw [hstart]
    exact .stays (.overlap hdormant)

theorem replaceWorker_turn (submission : WorkerSubmission S) :
    Turn self (.owner (.replace submission))
      (replaceWorker self submission.worker submission.startup : Acted S Message) := by
  obtain ⟨state, creations, heap⟩ := self
  by_cases hready : ∃ worker, state = .ready worker
  · obtain ⟨worker, rfl⟩ := hready
    cases hissue : creations.issue with
    | none =>
      simp only [replaceWorker, PendingWorker.replacement, hissue]
      exact .stays (.replaceExhausted (.inl ⟨worker, rfl, rfl⟩) hissue)
    | some issued =>
      obtain ⟨id, rest⟩ := issued
      simp only [replaceWorker, PendingWorker.replacement, hissue]
      exact .ordered (.replaced hissue)
  by_cases hempty : ∃ previous, state = .emptyAfter previous
  · obtain ⟨previous, rfl⟩ := hempty
    cases hissue : creations.issue with
    | none =>
      simp only [replaceWorker, PendingWorker.replacement, hissue]
      exact .stays (.replaceExhausted (.inr rfl) hissue)
    | some issued =>
      obtain ⟨id, rest⟩ := issued
      simp only [replaceWorker, PendingWorker.replacement, hissue]
      exact .ordered (.revived hissue)
  have hnot : ∀ worker, state ≠ .ready worker := fun worker h => hready ⟨worker, h⟩
  have hnone : ∀ previous, state ≠ .emptyAfter previous := fun previous h => hempty ⟨previous, h⟩
  have hreplace : replaceWorker ⟨state, creations, heap⟩ submission.worker submission.startup
      = ((⟨state, creations, heap⟩, .report (.replacement
          (.notReplaceable submission.worker submission.startup state.phase))) :
          Acted S Message) := by
    cases state <;> first | rfl | exact absurd rfl (hnot _) | exact absurd rfl (hnone _)
  rw [hreplace]
  exact .stays (.notReplaceable hnot hnone)

theorem ownerShutdown_turn :
    Turn self (.owner .shutdown) (ownerShutdown self : Acted S Message) := by
  obtain ⟨state, creations, heap⟩ := self
  cases state with
  | dormant => exact .ordered (.closed (.inl ⟨rfl, rfl⟩))
  | emptyInitial => exact .ordered (.closed (.inr (.inl ⟨rfl, rfl⟩)))
  | emptyAfter previous => exact .ordered (.closed (.inr (.inr ⟨previous, rfl, rfl⟩)))
  | ready worker => exact .ordered .dismissed
  | shuttingDown shutdown => exact .stays (.draining rfl)
  | stopped retirement => exact .stays (.retired rfl)
  | starting start =>
    obtain ⟨kind, phase⟩ := start
    cases phase with
    | creating worker held => exact .ordered .creatingShut
    | initializing worker held =>
      cases held with
      | none => exact .ordered .initializingShut
      | some stopped => exact .ordered .initializingHeldShut
    | starting worker progress held =>
      cases held with
      | none => exact .ordered .startingShut
      | some stopped => exact .ordered .startingHeldShut
    | returningWorker departure failure => exact .ordered .returningShut
  | replacing replacement =>
    cases replacement with
    | returningPredecessor departure successor creation => exact .ordered .cancelled
    | successorResultAwaitingShutdown replaces shutdown completion =>
      cases completion with
      | ready worker result => exact .ordered .successorShut
      | readyAfterStop worker result stopped | empty worker result =>
        exact .ordered (.completionShut (by simp))

/-! ### Creation -/

theorem workersCreated_turn (workers : CreationsSettled S) :
    Turn self (.workerCreationsSettled workers)
      (workersCreated self workers : Acted S Message) := by
  obtain ⟨state, creations, heap⟩ := self
  match state with
  | .starting ⟨kind, .creating worker held⟩ =>
    rcases worker.created_cases workers held with hback | hreads
    · simp only [workersCreated, hback]
      exact .stays (.diagnosed rfl)
    · generalize hcreated : worker.created workers held = creation at hreads
      cases creation with
      | initializing current startup held' =>
        simp only [workersCreated, hcreated]
        exact .created (.established hreads)
      | rejected rejection startup held' =>
        simp only [workersCreated, hcreated]
        exact .created (.rejected rfl hreads)
      | unexpected => nomatch hreads
  | .shuttingDown (.waitingForCreation ⟨kind, .creating worker held⟩) =>
    rcases worker.created_cases workers held with hback | hreads
    · simp only [workersCreated, shutdownWorkersCreated, hback]
      exact .stays (.diagnosed rfl)
    · generalize hcreated : worker.created workers held = creation at hreads
      cases creation with
      | initializing current startup held' =>
        simp only [workersCreated, shutdownWorkersCreated, hcreated]
        cases held' with
        | none => exact .created (.establishedShut hreads)
        | some stopped => exact .created (.establishedHeldShut hreads)
      | rejected rejection startup held' =>
        simp only [workersCreated, shutdownWorkersCreated, hcreated]
        exact .created (.rejectedShut rfl hreads)
      | unexpected => nomatch hreads
  | .dormant | .ready _ | .emptyInitial | .emptyAfter _ | .replacing _ | .stopped _
  | .starting ⟨_, .initializing _ _⟩ | .starting ⟨_, .starting _ _ _⟩
  | .starting ⟨_, .returningWorker _ _⟩
  | .shuttingDown (.waitingForCreation ⟨_, .initializing _ _⟩)
  | .shuttingDown (.waitingForCreation ⟨_, .starting _ _ _⟩)
  | .shuttingDown (.waitingForCreation ⟨_, .returningWorker _ _⟩)
  | .shuttingDown (.returningWorker _) | .shuttingDown (.returningWorkerStart _ _ _)
  | .shuttingDown (.returningPredecessor _ _ _) | .shuttingDown (.returningSuccessor _ _ _ _)
  | .shuttingDown (.initializing _ _) | .shuttingDown (.starting _ _)
  | .shuttingDown (.waitingForPredecessor _ _ _) => exact .stays (.diagnosed rfl)

/-! ### Initialization -/

variable {creations : Sequence} {heap : ℕ} {worker : CurrentWorker S}
    {report : WorkerInitializationReport S} {kind : WorkerStartKind} {held : Option (ChildStopped S)}

theorem CurrentWorker.admitInitialization_iff :
    worker.admitInitialization report = true ↔
      report.worker = worker.attempt ∧ report.initialization = worker.initialization := by
  simp [admitInitialization]

theorem CurrentWorker.admitStop_iff {stopped} :
    worker.admitStop stopped = true ↔ stopped.child = worker.attempt.creation := by
  simp [admitStop]

theorem PendingWorker.admitStop_iff {worker : PendingWorker S} {stopped : ChildStopped S} :
    worker.admitStop stopped = true ↔ stopped.child = worker.attempt.creation := by
  simp [admitStop]

theorem initializationResolved_turn
    (hadmits : report.worker = worker.attempt ∧ report.initialization = worker.initialization) :
    Turn ⟨.starting ⟨kind, .initializing worker held⟩, creations, heap⟩
      (.workerInitialization report)
      (initializationResolved ⟨.starting ⟨kind, .initializing worker held⟩, creations, heap⟩ kind
        worker held report : Acted S Message) := by
  cases report with
  | readyForStartup attempt initialization startup permit =>
    cases held with
    | none => exact .initialized (.initialized hadmits.1 hadmits.2)
    | some stopped => exact .initialized (.stillborn rfl hadmits (.completed rfl))
  | effectsRejected attempt initialization startup failure =>
    cases held with
    | none => exact .initialized (.uninitialized hadmits.1 hadmits.2)
    | some stopped => exact .initialized (.stillborn rfl hadmits (.rejected rfl))
  | stopped attempt initialization startup returned =>
    simp only [initializationResolved]
    split_ifs with hstop
    · exact .initialized (.stillborn rfl hadmits (.stopped (CurrentWorker.admitStop_iff.mp hstop)))
    · exact .stays (.diagnosed rfl)

theorem retainInitialization_turn {departure}
    (hadmits : report.worker = departure.worker.attempt ∧
      report.initialization = departure.worker.initialization) :
    Turn ⟨.shuttingDown (.initializing kind (.departing none departure)), creations, heap⟩
      (.workerInitialization report) (continueInitializationShutdown
        ⟨.shuttingDown (.initializing kind (.departing none departure)), creations, heap⟩ kind
        unexpectedInitialization (retainInitializationWhileDeparting departure report) :
        Acted S Message) := by
  cases report with
  | readyForStartup attempt initialization startup permit =>
    exact .initialized (.retained hadmits .initialized)
  | effectsRejected attempt initialization startup failure =>
    exact .initialized (.retained hadmits .rejected)
  | stopped attempt initialization startup stopped =>
    simp only [retainInitializationWhileDeparting, retainInitializationStop]
    cases hheld : departure.stopped with
    | some held =>
      simp only
      split_ifs with hstop
      · exact .initialized (.retained hadmits (.again hheld (CurrentWorker.admitStop_iff.mp hstop)))
      · exact .stays (.diagnosed rfl)
    | none =>
      rcases departure.workerStopped_cases stopped with
        hback | ⟨id, hrequested, -, hchild, hresume⟩ | ⟨settlement, hsettled, -, hchild, hstop⟩
      · simp only [hback]
        exact .stays (.diagnosed rfl)
      · simp only [hresume]
        exact .initialized (.retained hadmits (.taken hheld hrequested hchild))
      · simp only [hstop]
        exact .initialized (.returnedStopped rfl hadmits hheld hsettled hchild)

variable (shutdown : ProxyShutdown S)

theorem shutdownWorkerInitialized_turn (report : WorkerInitializationReport S) :
    Turn ⟨.shuttingDown shutdown, creations, heap⟩ (.workerInitialization report)
      (shutdownWorkerInitialized ⟨.shuttingDown shutdown, creations, heap⟩ shutdown report :
        Acted S Message) := by
  cases shutdown with
  | initializing kind current =>
    unfold shutdownWorkerInitialized
    match current with
    | .departing none departure =>
      simp only [admitWorkerInitializedDuringShutdown]
      split_ifs with hadmits
      · exact retainInitialization_turn
          (CurrentWorker.admitInitialization_iff.mp hadmits)
      · exact .stays (.diagnosed rfl)
    | .departing (some _) departure => exact .stays (.diagnosed rfl)
    | .waitingForInitialization worker shutdown stopped =>
      simp only [admitWorkerInitializedDuringShutdown]
      split_ifs with hadmits
      · cases hclassified : classifyInitializationAfterStop worker report with
        | none => exact .stays (.diagnosed rfl)
        | some retirement =>
          exact .initialized
            (.lateInitialized rfl (CurrentWorker.admitInitialization_iff.mp hadmits) hclassified)
      · exact .stays (.diagnosed rfl)
  | waitingForCreation start | returningWorker departure
  | returningWorkerStart kind departure failure
  | returningPredecessor departure replaces successor
  | returningSuccessor replaces predecessor departure result | starting kind startup
  | waitingForPredecessor replaces shutdown retirement => exact .stays (.diagnosed rfl)

theorem workerInitialized_turn (report : WorkerInitializationReport S) :
    Turn self (.workerInitialization report)
      (workerInitialized self report : Acted S Message) := by
  obtain ⟨state, creations, heap⟩ := self
  match state with
  | .starting ⟨kind, .initializing worker held⟩ =>
    unfold workerInitialized
    simp only
    split_ifs with hadmits
    · exact initializationResolved_turn
        (CurrentWorker.admitInitialization_iff.mp hadmits)
    · exact .stays (.diagnosed rfl)
  | .shuttingDown shutdown => exact shutdownWorkerInitialized_turn shutdown report
  | .dormant | .ready _ | .emptyInitial | .emptyAfter _ | .replacing _ | .stopped _
  | .starting ⟨_, .creating _ _⟩ | .starting ⟨_, .starting _ _ _⟩
  | .starting ⟨_, .returningWorker _ _⟩ => exact .stays (.diagnosed rfl)

/-! ### Startup -/

theorem startupWaiting_turn {startup} {input}
    (hadmits : input.startup = startup) :
    Turn ⟨.starting ⟨kind, .starting worker (.waitingForStart startup) held⟩, creations, heap⟩
      (.workerStartupReported input) (startupWaiting
        ⟨.starting ⟨kind, .starting worker (.waitingForStart startup) held⟩, creations, heap⟩ kind
        worker startup held input : Acted S Message) := by
  obtain ⟨attempt, grant, outcome⟩ := input
  subst hadmits
  cases outcome with
  | started => exact .started .started
  | startRejected request reason =>
    cases held with
    | none => exact .started (.failed .refused)
    | some stopped => exact .started (.ended rfl .refused)
  | ready readiness | rejected rejection => cases held <;> exact .stays (.diagnosed rfl)

theorem startupRunning_turn {startup} {input}
    (hadmits : input.startup = startup) :
    Turn ⟨.starting ⟨kind, .starting worker (.running startup) held⟩, creations, heap⟩
      (.workerStartupReported input) (startupRunning
        ⟨.starting ⟨kind, .starting worker (.running startup) held⟩, creations, heap⟩ kind
        worker startup held input : Acted S Message) := by
  obtain ⟨attempt, grant, outcome⟩ := input
  subst hadmits
  cases outcome with
  | started | startRejected request reason => cases held <;> exact .stays (.diagnosed rfl)
  | ready readiness =>
    cases held with
    | none => exact .started (.ready rfl)
    | some stopped => exact .started (.ended rfl .ready)
  | rejected rejection =>
    cases held with
    | none => exact .started (.failed .rejected)
    | some stopped => exact .started (.ended rfl .rejected)

theorem settleShutdownStartup_turn (input : WorkerStartup S) :
    Turn ⟨.shuttingDown shutdown, creations, heap⟩ (.workerStartupReported input)
      (settleShutdownStartup ⟨.shuttingDown shutdown, creations, heap⟩ shutdown input :
        Acted S Message) := by
  cases shutdown with
  | starting kind startup =>
    unfold settleShutdownStartup
    match startup with
    | .departing (.pending progress) departure =>
      simp only [admitWorkerStartupDuringShutdown]
      split_ifs with hadmits
      · simp only [retainStartupWhileDeparting]
        cases hadvance : advanceStartupDuringShutdown progress input with
        | none => exact .stays (.diagnosed rfl)
        | some startup => exact .started (.advanced (admitStartup_iff.mp hadmits) hadvance)
      · exact .stays (.diagnosed rfl)
    | .departing (.returned _) departure => exact .stays (.diagnosed rfl)
    | .waitingForStartup progress worker shutdown stopped =>
      simp only [admitWorkerStartupDuringShutdown]
      split_ifs with hadmits
      · simp only [retainStartupAfterWorker]
        cases hadvance : advanceStartupDuringShutdown progress input with
        | none => exact .stays (.diagnosed rfl)
        | some startup =>
          cases startup with
          | pending startup => exact .started (.lateStarted (admitStartup_iff.mp hadmits) hadvance)
          | returned startup =>
            exact .started (.lateReturned rfl (admitStartup_iff.mp hadmits) hadvance)
      · exact .stays (.diagnosed rfl)
  | waitingForCreation start | returningWorker departure
  | returningWorkerStart kind departure failure
  | returningPredecessor departure replaces successor
  | returningSuccessor replaces predecessor departure result | initializing kind initialization
  | waitingForPredecessor replaces shutdown retirement => exact .stays (.diagnosed rfl)

theorem settleWorkerStartup_turn (input : WorkerStartup S) :
    Turn self (.workerStartupReported input)
      (settleWorkerStartup self input : Acted S Message) := by
  obtain ⟨state, creations, heap⟩ := self
  match state with
  | .starting ⟨kind, .starting worker progress held⟩ =>
    unfold settleWorkerStartup
    simp only
    split_ifs with hadmits
    · cases progress with
      | waitingForStart startup =>
        exact startupWaiting_turn (admitStartup_iff.mp hadmits)
      | running startup => exact startupRunning_turn (admitStartup_iff.mp hadmits)
    · exact .stays (.diagnosed rfl)
  | .shuttingDown shutdown => exact settleShutdownStartup_turn shutdown input
  | .dormant | .ready _ | .emptyInitial | .emptyAfter _ | .replacing _ | .stopped _
  | .starting ⟨_, .creating _ _⟩ | .starting ⟨_, .initializing _ _⟩
  | .starting ⟨_, .returningWorker _ _⟩ => exact .stays (.diagnosed rfl)

/-! ### Settled shutdowns and stops -/

/-- **A settlement in any place**: it comes back, it is kept, or the worker has left. -/
theorem Leaving.settle_turn (place : Leaving S) {departure settlement} {acted : Acted S Message}
    (hacted : acted = match departure.shutdownResolved settlement with
      | .ok (.resume departure) => (⟨place.state departure, creations, heap⟩, .cont)
      | .ok (.stop gone) => place.left ⟨place.state departure, creations, heap⟩ gone
      | .error (back, settlement) =>
        unexpectedShutdown ⟨place.state departure, creations, heap⟩ (place.state back)
          settlement) :
    Turn ⟨place.state departure, creations, heap⟩ (.workerShutdownResolved settlement) acted := by
  rw [hacted]
  rcases departure.shutdownResolved_cases settlement with
    h | ⟨hrequested, hnone, h⟩ | ⟨stopped, hrequested, hheld, h⟩
  · rw [h]
    exact .stays (.diagnosed rfl)
  · rw [h]
    exact .settled (.settled hrequested hnone)
  · rw [h]
    exact .settled (.settledLast rfl hrequested hheld)

/-- **A stop in any place but a predecessor's**: it comes back, it is kept, or the worker has
left. -/
theorem Leaving.stop_turn (place : Leaving S) {departure stopped} {acted : Acted S Message}
    (hplace : place.isPredecessor = false)
    (hacted : acted = match departure.workerStopped stopped with
      | .ok (.resume departure) => (⟨place.state departure, creations, heap⟩, .cont)
      | .ok (.stop gone) => place.left ⟨place.state departure, creations, heap⟩ gone
      | .error (back, stopped) =>
        unexpectedStop ⟨place.state departure, creations, heap⟩ (place.state back) stopped) :
    Turn ⟨place.state departure, creations, heap⟩ (.workerStopped stopped) acted := by
  rw [hacted]
  rcases departure.workerStopped_cases stopped with
    h | ⟨id, hrequested, hnone, hchild, h⟩ | ⟨settlement, hsettled, hnone, hchild, h⟩
  · rw [h]
    exact .stays (.diagnosed rfl)
  · rw [h]
    exact .stopped (.held hplace hrequested hnone hchild)
  · rw [h]
    exact .stopped (.stoppedLast rfl hsettled hnone hchild)

theorem shutdownResolved_turn
    (settlement : EstablishedShutdownResolved) :
    Turn ⟨.shuttingDown shutdown, creations, heap⟩ (.workerShutdownResolved settlement)
      (shutdownResolved ⟨.shuttingDown shutdown, creations, heap⟩ shutdown settlement :
        Acted S Message) := by
  match shutdown with
  | .returningWorker departure =>
    exact Leaving.settle_turn .returningWorker rfl
  | .returningWorkerStart kind departure failure =>
    exact Leaving.settle_turn (.retiringStart kind failure) rfl
  | .returningPredecessor departure replaces successor =>
    exact Leaving.settle_turn (.cancelledPredecessor replaces successor) rfl
  | .returningSuccessor replaces (.awaiting expected) departure result =>
    by_cases hid : settlement.id = expected
    · subst hid
      simp only [shutdownResolved, beq_self_eq_true, if_true]
      exact .settled .predecessorReturned
    · refine Leaving.settle_turn (.returningSuccessor replaces (.awaiting expected) result) ?_
      simp only [shutdownResolved, beq_eq_false_iff_ne.mpr hid, successorShutdownResolved,
        Bool.false_eq_true, if_false]
      rfl
  | .returningSuccessor replaces (.returned returned) departure result =>
    exact Leaving.settle_turn (.returningSuccessor replaces (.returned returned) result) rfl
  | .initializing kind (.departing initialization departure) =>
    refine Leaving.settle_turn (.retiringInitialization kind initialization) ?_
    simp only [shutdownResolved, rejoinInitializationDeparture]
    rcases departure.shutdownResolved settlement with _ | _ | _
    · rfl
    · cases initialization <;> rfl
    · rfl
  | .initializing kind (.waitingForInitialization worker settled stopped) =>
    exact .stays (.diagnosed rfl)
  | .starting kind (.departing startup departure) =>
    refine Leaving.settle_turn (.retiringStartup kind startup) ?_
    simp only [shutdownResolved, rejoinStartupDeparture]
    rcases departure.shutdownResolved settlement with _ | _ | _
    · rfl
    · cases startup <;> rfl
    · rfl
  | .starting kind (.waitingForStartup startup worker settled stopped) =>
    exact .stays (.diagnosed rfl)
  | .waitingForPredecessor replaces expected retirement =>
    by_cases hid : settlement.id = expected
    · subst hid
      simp only [shutdownResolved, beq_self_eq_true, if_true]
      exact .settled .predecessorLast
    · simp only [shutdownResolved, beq_eq_false_iff_ne.mpr hid, Bool.false_eq_true, if_false]
      exact .stays (.diagnosed rfl)
  | .waitingForCreation start => exact .stays (.diagnosed rfl)

theorem workerStartShutdownResolved_turn (start : WorkerStart S)
    (settlement : EstablishedShutdownResolved) :
    Turn ⟨.starting start, creations, heap⟩ (.workerShutdownResolved settlement)
      (workerStartShutdownResolved ⟨.starting start, creations, heap⟩ start settlement :
        Acted S Message) := by
  match start with
  | ⟨kind, .returningWorker departure failure⟩ =>
    exact Leaving.settle_turn (.returningStart kind failure) rfl
  | ⟨kind, .creating worker held⟩ => exact .stays (.diagnosed rfl)
  | ⟨kind, .initializing worker held⟩ => exact .stays (.diagnosed rfl)
  | ⟨kind, .starting worker progress held⟩ => exact .stays (.diagnosed rfl)

theorem replacementShutdownResolved_turn (replacement : ProxyReplacement S)
    (settlement : EstablishedShutdownResolved) :
    Turn ⟨.replacing replacement, creations, heap⟩ (.workerShutdownResolved settlement)
      (replacementShutdownResolved ⟨.replacing replacement, creations, heap⟩ replacement
        settlement : Acted S Message) := by
  cases replacement with
  | returningPredecessor departure successor creation =>
    exact Leaving.settle_turn (.returningPredecessor successor creation) rfl
  | successorResultAwaitingShutdown replaces expected completion =>
    by_cases hid : settlement.id = expected
    · subst hid
      simp only [replacementShutdownResolved, beq_self_eq_true, if_true]
      exact .settled (.published rfl)
    · simp only [replacementShutdownResolved, beq_eq_false_iff_ne.mpr hid, Bool.false_eq_true,
        if_false]
      exact .stays (.diagnosed rfl)

theorem workerShutdownResolved_turn
    (settlement : EstablishedShutdownResolved) :
    Turn self (.workerShutdownResolved settlement)
      (workerShutdownResolved self settlement : Acted S Message) := by
  obtain ⟨state, creations, heap⟩ := self
  match state with
  | .starting ⟨.replacement replaces (.awaiting id), phase⟩ =>
    by_cases hid : settlement.id = id
    · subst hid
      simp only [workerShutdownResolved, beq_self_eq_true, if_true]
      exact .settled .predecessorSettled
    · simp only [workerShutdownResolved, beq_eq_false_iff_ne.mpr hid, Bool.false_eq_true, if_false]
      exact workerStartShutdownResolved_turn _ settlement
  | .starting ⟨.replacement _ .settled, _⟩ | .starting ⟨.initial, _⟩ =>
    exact workerStartShutdownResolved_turn _ settlement
  | .replacing replacement =>
    exact replacementShutdownResolved_turn replacement settlement
  | .shuttingDown shutdown => exact shutdownResolved_turn shutdown settlement
  | .dormant | .ready _ | .emptyInitial | .emptyAfter _ | .stopped _ =>
    exact .stays (.diagnosed rfl)

theorem shutdownWorkerStopped_turn
    (stopped : ChildStopped S) :
    Turn ⟨.shuttingDown shutdown, creations, heap⟩ (.workerStopped stopped)
      (shutdownWorkerStopped ⟨.shuttingDown shutdown, creations, heap⟩ shutdown stopped :
        Acted S Message) := by
  match shutdown with
  | .returningWorker departure =>
    exact Leaving.stop_turn .returningWorker rfl rfl
  | .returningWorkerStart kind departure failure =>
    exact Leaving.stop_turn (.retiringStart kind failure) rfl rfl
  | .returningPredecessor departure replaces successor =>
    exact Leaving.stop_turn (.cancelledPredecessor replaces successor) rfl rfl
  | .returningSuccessor replaces predecessor departure result =>
    exact Leaving.stop_turn (.returningSuccessor replaces predecessor result) rfl rfl
  | .initializing kind (.departing initialization departure) =>
    refine Leaving.stop_turn (.retiringInitialization kind initialization) rfl ?_
    simp only [shutdownWorkerStopped, rejoinInitializationDeparture]
    rcases departure.workerStopped stopped with _ | _ | _
    · rfl
    · cases initialization <;> rfl
    · rfl
  | .initializing kind (.waitingForInitialization worker settled held) =>
    exact .stays (.diagnosed rfl)
  | .starting kind (.departing startup departure) =>
    refine Leaving.stop_turn (.retiringStartup kind startup) rfl ?_
    simp only [shutdownWorkerStopped, rejoinStartupDeparture]
    rcases departure.workerStopped stopped with _ | _ | _
    · rfl
    · cases startup <;> rfl
    · rfl
  | .starting kind (.waitingForStartup startup worker settled held) =>
    exact .stays (.diagnosed rfl)
  | .waitingForPredecessor _ _ _ | .waitingForCreation _ => exact .stays (.diagnosed rfl)

theorem workerStartStopped_turn (start : WorkerStart S)
    (stopped : ChildStopped S) :
    Turn ⟨.starting start, creations, heap⟩ (.workerStopped stopped)
      (workerStartStopped ⟨.starting start, creations, heap⟩ start stopped :
        Acted S Message) := by
  match start with
  | ⟨kind, .returningWorker departure failure⟩ =>
    exact Leaving.stop_turn (.returningStart kind failure) rfl rfl
  | ⟨kind, .creating worker none⟩ =>
    by_cases hstop : worker.admitStop stopped
    · simp only [workerStartStopped, admitPreReadyStop, hstop, if_true]
      exact .stopped (.creatingStopped (PendingWorker.admitStop_iff.mp hstop))
    · simp only [workerStartStopped, admitPreReadyStop, hstop, Bool.false_eq_true, if_false]
      exact .stays (.diagnosed rfl)
  | ⟨kind, .initializing worker none⟩ =>
    by_cases hstop : worker.admitStop stopped
    · simp only [workerStartStopped, admitPreReadyStop, hstop, if_true]
      exact .stopped (.initializingStopped (CurrentWorker.admitStop_iff.mp hstop))
    · simp only [workerStartStopped, admitPreReadyStop, hstop, Bool.false_eq_true, if_false]
      exact .stays (.diagnosed rfl)
  | ⟨kind, .starting worker progress none⟩ =>
    by_cases hstop : worker.admitStop stopped
    · simp only [workerStartStopped, admitPreReadyStop, hstop, if_true]
      exact .stopped (.startingStopped (CurrentWorker.admitStop_iff.mp hstop))
    · simp only [workerStartStopped, admitPreReadyStop, hstop, Bool.false_eq_true, if_false]
      exact .stays (.diagnosed rfl)
  | ⟨kind, .creating worker (some held)⟩ => exact .stays (.diagnosed rfl)
  | ⟨kind, .initializing worker (some held)⟩ => exact .stays (.diagnosed rfl)
  | ⟨kind, .starting worker progress (some held)⟩ => exact .stays (.diagnosed rfl)

theorem replacementWorkerStopped_turn (replacement : ProxyReplacement S) (stopped : ChildStopped S) :
    Turn ⟨.replacing replacement, creations, heap⟩ (.workerStopped stopped)
      (replacementWorkerStopped ⟨.replacing replacement, creations, heap⟩ replacement stopped :
        Acted S Message) := by
  match replacement with
  | .returningPredecessor departure successor creation =>
    rcases departure.workerStopped_cases stopped with
      h | ⟨id, hrequested, hnone, hchild, h⟩ | ⟨settlement, hsettled, hnone, hchild, h⟩
    · simp only [replacementWorkerStopped, h]
      exact .stays (.diagnosed rfl)
    · simp only [replacementWorkerStopped, h, WorkerStopping.intoStoppedBeforeShutdown, hrequested]
      exact .stopped (.predecessorStopped rfl hrequested hnone hchild)
    · simp only [replacementWorkerStopped, h]
      exact .stopped (@Stops.stoppedLast _ _ (.returningPredecessor successor creation) departure
        stopped settlement
        ⟨.replacing (.returningPredecessor departure successor creation), creations, heap⟩
        rfl hsettled hnone hchild)
  | .successorResultAwaitingShutdown replaces shutdown (.ready worker result) =>
    by_cases hstop : worker.admitStop stopped
    · simp only [replacementWorkerStopped, hstop, if_true]
      exact .stopped (.successorStopped (CurrentWorker.admitStop_iff.mp hstop))
    · simp only [replacementWorkerStopped, hstop, Bool.false_eq_true, if_false]
      exact .stays (.diagnosed rfl)
  | .successorResultAwaitingShutdown _ _ (.readyAfterStop _ _ _)
  | .successorResultAwaitingShutdown _ _ (.empty _ _) =>
    exact .stays (.diagnosed rfl)

theorem workerStopped_turn (stopped : ChildStopped S) :
    Turn self (.workerStopped stopped) (workerStopped self stopped : Acted S Message) := by
  obtain ⟨state, creations, heap⟩ := self
  match state with
  | .starting start => exact workerStartStopped_turn start stopped
  | .replacing replacement => exact replacementWorkerStopped_turn replacement stopped
  | .shuttingDown shutdown => exact shutdownWorkerStopped_turn shutdown stopped
  | .ready worker =>
    by_cases hstop : worker.admitStop stopped
    · simp only [workerStopped, hstop, if_true]
      exact .stopped (.readyStopped (CurrentWorker.admitStop_iff.mp hstop))
    · simp only [workerStopped, hstop, Bool.false_eq_true, if_false]
      exact .stays (.diagnosed rfl)
  | .dormant | .emptyInitial | .emptyAfter _ | .stopped _ => exact .stays (.diagnosed rfl)

/-- **Every transition is a turn.** -/
theorem transition_turn (event : ProxyEvent S Message) :
    Turn self event (self.transition event) := by
  cases event with
  | service sender message => exact service_turn self sender message
  | owner control =>
    cases control with
    | start submission => exact startInitial_turn self submission
    | replace submission => exact replaceWorker_turn self submission
    | shutdown => exact ownerShutdown_turn self
  | workerCreationsSettled workers => exact workersCreated_turn self workers
  | workerInitialization report => exact workerInitialized_turn self report
  | workerStartupReported input => exact settleWorkerStartup_turn self input
  | workerShutdownResolved settlement => exact workerShutdownResolved_turn self settlement
  | workerStopped stopped => exact workerStopped_turn self stopped

end Bombay.Proxy
