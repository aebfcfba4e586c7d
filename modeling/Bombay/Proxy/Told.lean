/-
# What a stable proxy is told, it takes

A fact that a proxy owes is taken when it is told, in whatever state it arrives,
except for what `Missed` names.  With the law of one transition this settles what a
whole run owes: what was asked for is owed or was told since, and what is owed was
asked for.
-/

import Bombay.Proxy.Duties

namespace Bombay.Proxy

variable {S : Signature} {Message : Type}

/-! ### Where each fact is owed -/

variable {due : Due} {self : StableProxy S} {event : ProxyEvent S Message}

theorem StartupProgress.mem_owes {progress : StartupProgress} :
    due ∈ progress.owes ↔ ∃ startup, (progress = .waitingForStart startup ∧ due = .start startup) ∨
      (progress = .running startup ∧ due = .result startup) := by
  cases progress <;> simp [owes]

/-- The worker whose initialization a state waits for. -/
def ProxyState.initializing : ProxyState S → Option (CurrentWorker S)
  | .starting ⟨_, .initializing worker _⟩ => some worker
  | .shuttingDown (.initializing _ (.departing none departure)) => some departure.worker
  | .shuttingDown (.initializing _ (.waitingForInitialization worker _ _)) => some worker
  | _ => none

/-- The startup whose next report a state waits for. -/
def ProxyState.startup : ProxyState S → Option StartupProgress
  | .starting ⟨_, .starting _ progress _⟩ => some progress
  | .shuttingDown (.starting _ (.departing (.pending progress) _)) => some progress
  | .shuttingDown (.starting _ (.waitingForStartup progress _ _ _)) => some progress
  | _ => none

/-- **What a state owes, one kind of fact after the other.** -/
inductive ProxyState.Owes (state : ProxyState S) : Due → Prop
  | creation {worker : PendingWorker S} (h : state.pending = some worker) :
      Owes state (.creation worker.creation worker.kind)
  | report {worker : CurrentWorker S} (h : state.initializing = some worker) :
      Owes state worker.report
  | startup {progress : StartupProgress} {due : Due} (h : state.startup = some progress)
      (hdue : due ∈ progress.owes) : Owes state due
  | predecessor {id} (h : state.awaits = some id) : Owes state (.shutdown id)
  | shutdown {departure : WorkerStopping S} {id} (h : state.departure = some departure)
      (hrequested : departure.shutdown = .requested id) : Owes state (.shutdown id)
  | stop {attempt} (h : state.tenant = some attempt) (hheld : state.held = none) :
      Owes state (.stop attempt.creation)

/-- What a departing worker owes. -/
theorem ProxyState.Owes.of_departure {state : ProxyState S} {departure : WorkerStopping S}
    (hdeparture : state.departure = some departure)
    (htenant : state.tenant = some departure.worker.attempt)
    (hheld : state.held = departure.stopped) (h : due ∈ departure.owes) : state.Owes due := by
  rcases List.mem_append.mp h with h | h
  · obtain ⟨id, hrequested, rfl⟩ := WorkerShutdown.mem_owes.mp h
    exact .shutdown hdeparture hrequested
  · obtain ⟨hnone, rfl⟩ := mem_owedStop.mp h
    exact .stop htenant (hheld.trans hnone)

theorem ProxyState.Owes.of_kind {state : ProxyState S} {kind : WorkerStartKind}
    (hawaits : state.awaits = kind.awaits) (h : due ∈ kind.owes) : state.Owes due := by
  obtain ⟨id, hid, rfl⟩ := WorkerStartKind.mem_owes.mp h
  exact .predecessor (hawaits.trans hid)

/-- A place owes its departure, and the predecessor or the worker's own report besides. -/
theorem Leaving.owes_of_mem (place : Leaving S) {departure : WorkerStopping S}
    (h : due ∈ (place.state departure).owes) : (place.state departure).Owes due := by
  rw [state_owes, List.mem_append] at h
  rcases h with h | h
  · match place with
    | .returningStart _ _ | .retiringStart _ _ => exact .of_kind rfl h
    | .returningSuccessor _ predecessor _ =>
      obtain ⟨id, hid, rfl⟩ := PredecessorReturn.mem_owes.mp h
      exact .predecessor hid
    | .retiringInitialization kind none =>
      rcases List.mem_append.mp h with h | h
      · exact .of_kind rfl h
      · rw [List.mem_singleton.mp h]
        exact .report rfl
    | .retiringInitialization kind (some _) => exact .of_kind rfl h
    | .retiringStartup kind (.pending progress) =>
      rcases List.mem_append.mp h with h | h
      · exact .of_kind rfl h
      · exact .startup rfl h
    | .retiringStartup kind (.returned _) => exact .of_kind rfl h
    | .returningPredecessor _ _ => cases h
    | .returningWorker => cases h
    | .cancelledPredecessor _ _ => cases h
  · exact .of_departure (state_departure place departure) (state_tenant place departure)
      (state_held place departure) h

/-- **What a reachable state owes is of one of these kinds.** -/
theorem Sound.owes (hsound : Sound self) (h : due ∈ self.state.owes) : self.state.Owes due := by
  obtain ⟨state, creations, heap⟩ := self
  match state with
  | .dormant => cases h
  | .emptyInitial => cases h
  | .emptyAfter _ => cases h
  | .stopped _ => cases h
  | .ready worker =>
    rw [List.mem_singleton.mp h]
    exact .stop rfl rfl
  | .starting ⟨kind, .creating worker held⟩ =>
    rcases List.mem_append.mp h with h | h
    · exact .of_kind rfl h
    · rcases List.mem_cons.mp h with rfl | h
      · exact .creation rfl
      · obtain ⟨hnone, rfl⟩ := mem_owedStop.mp h
        exact .stop rfl hnone
  | .starting ⟨kind, .initializing worker held⟩ =>
    rcases List.mem_append.mp h with h | h
    · exact .of_kind rfl h
    · rcases List.mem_cons.mp h with rfl | h
      · exact .report rfl
      · obtain ⟨hnone, rfl⟩ := mem_owedStop.mp h
        exact .stop rfl hnone
  | .starting ⟨kind, .starting worker progress held⟩ =>
    rcases List.mem_append.mp h with h | h
    · exact .of_kind rfl h
    · rcases List.mem_append.mp h with h | h
      · exact .startup rfl h
      · obtain ⟨hnone, rfl⟩ := mem_owedStop.mp h
        exact .stop rfl hnone
  | .starting ⟨kind, .returningWorker departure failure⟩ =>
    exact (.returningStart kind failure : Leaving S).owes_of_mem h
  | .replacing (.returningPredecessor departure successor creation) =>
    exact (.returningPredecessor successor creation : Leaving S).owes_of_mem h
  | .replacing (.successorResultAwaitingShutdown replaces id completion) =>
    rcases List.mem_cons.mp h with rfl | h
    · exact .predecessor rfl
    · cases completion with
      | ready worker result =>
        rw [List.mem_singleton.mp h]
        exact .stop rfl rfl
      | readyAfterStop _ _ _ => cases h
      | empty _ _ => cases h
  | .shuttingDown (.waitingForCreation ⟨kind, phase⟩) =>
    obtain ⟨worker, held, hphase⟩ := hsound.unsettled _ rfl
    obtain rfl : phase = .creating worker held := hphase
    rcases List.mem_append.mp h with h | h
    · exact .of_kind rfl h
    · rcases List.mem_cons.mp h with rfl | h
      · exact .creation rfl
      · obtain ⟨hnone, rfl⟩ := mem_owedStop.mp h
        exact .stop rfl hnone
  | .shuttingDown (.returningWorker departure) =>
    exact (.returningWorker : Leaving S).owes_of_mem h
  | .shuttingDown (.returningWorkerStart kind departure failure) =>
    exact (.retiringStart kind failure : Leaving S).owes_of_mem h
  | .shuttingDown (.returningPredecessor departure replaces successor) =>
    exact (.cancelledPredecessor replaces successor : Leaving S).owes_of_mem h
  | .shuttingDown (.returningSuccessor replaces predecessor departure result) =>
    exact (.returningSuccessor replaces predecessor result : Leaving S).owes_of_mem h
  | .shuttingDown (.initializing kind (.departing initialization departure)) =>
    exact (.retiringInitialization kind initialization : Leaving S).owes_of_mem h
  | .shuttingDown (.initializing kind (.waitingForInitialization worker shutdown stopped)) =>
    rcases List.mem_append.mp h with h | h
    · exact .of_kind rfl h
    · rw [List.mem_singleton.mp h]
      exact .report rfl
  | .shuttingDown (.starting kind (.departing startup departure)) =>
    exact (.retiringStartup kind startup : Leaving S).owes_of_mem h
  | .shuttingDown (.starting kind (.waitingForStartup progress worker shutdown stopped)) =>
    rcases List.mem_append.mp h with h | h
    · exact .of_kind rfl h
    · exact .startup rfl h
  | .shuttingDown (.waitingForPredecessor replaces id retirement) =>
    rw [List.mem_singleton.mp h]
    exact .predecessor rfl

/-! ### What is owed and told is taken -/

section Taken

variable {self : StableProxy S}

/-- What became of the one creation a batch is about. -/
def creationOutcome : CreationsSettled S → Option (WorkerCreationOutcome S)
  | .settled [settlement] => some (settleWorkerCreation settlement)
  | .rejected [creation] => some (.rejected (.namespaceExhausted creation.worker))
  | .corrupt [creation] fault => some (.rejected (.interpreterCorrupt creation.worker fault))
  | _ => none

variable {worker : PendingWorker S} {state : ProxyState S} {departure : WorkerStopping S}
    {stopped : ChildStopped S} {settlement : EstablishedShutdownResolved}
    {progress : StartupProgress}

/-- A pending worker reads every batch about its creation that is not corrupt, and keeps what
it says. -/
theorem PendingWorker.created_outcome {workers} (held : Option (ChildStopped S))
    (hidentity : identities workers = [(worker.creation, worker.kind)])
    (hcorrupt : ∀ creations fault, workers ≠ .corrupt creations fault) :
    (∃ actor, creationOutcome workers = some (.established actor) ∧
      worker.created workers held =
        .initializing ⟨worker.attempt, worker.initialization, actor⟩ worker.startup held) ∨
    ∃ rejection, creationOutcome workers = some (.rejected rejection) ∧
      worker.created workers held = .rejected rejection worker.startup held := by
  match workers with
  | .corrupt creations fault => exact absurd rfl (hcorrupt creations fault)
  | .rejected [] | .rejected (_ :: _ :: _) | .settled [] | .settled (_ :: _ :: _) =>
    simp [identities] at hidentity
  | .rejected [creation] =>
    right
    obtain ⟨hid, hkind⟩ : creation.id = worker.creation ∧ creation.kind = worker.kind := by
      simpa [identities] using hidentity
    exact ⟨.namespaceExhausted creation.worker, rfl, by simp [created, hid, hkind]⟩
  | .settled [settlement] =>
    have hadmits : worker.admitCreation settlement = true := by
      simpa [identities, admitCreation, creation] using hidentity
    simp only [creationOutcome, created, createdOne, hadmits, if_true]
    cases settleWorkerCreation settlement with
    | established actor => exact .inl ⟨actor, rfl, rfl⟩
    | rejected rejection => exact .inr ⟨rejection, rfl, rfl⟩

theorem ProxyState.pending_shape (h : state.pending = some worker) :
    ∃ kind held, state = .starting ⟨kind, .creating worker held⟩ ∨
      state = .shuttingDown (.waitingForCreation ⟨kind, .creating worker held⟩) := by
  unfold pending at h
  split at h
  · cases h
    exact ⟨_, _, .inl rfl⟩
  · cases h
    exact ⟨_, _, .inr rfl⟩
  · cases h

/-- The settlement of the creation a state waits for is taken, unless its batch is corrupt. -/
theorem creation_taken {workers} (hpending : self.state.pending = some worker)
    (hidentity : identities workers = [(worker.creation, worker.kind)])
    (hcorrupt : ∀ creations fault, workers ≠ .corrupt creations fault) :
    (workersCreated self workers : Acted S Message).2.diagnostics = [] := by
  obtain ⟨state, creations, heap⟩ := self
  obtain ⟨kind, held, hstate⟩ := ProxyState.pending_shape hpending
  have hcreated := PendingWorker.created_outcome held hidentity hcorrupt
  rcases hstate with rfl | rfl
  · rcases hcreated with ⟨actor, -, h⟩ | ⟨rejection, -, h⟩
    · simp only [workersCreated, h]
      rfl
    · simp only [workersCreated, h]
      exact (workerCreationRejected_concludes _ _ _).quiet.diagnostics
  · rcases hcreated with ⟨actor, -, h⟩ | ⟨rejection, -, h⟩
    · simp only [workersCreated, shutdownWorkersCreated, h]
      cases held <;> rfl
    · simp only [workersCreated, shutdownWorkersCreated, h]
      exact (finishStartRetirement_concludes _ _ _).quiet.diagnostics

theorem ProxyState.initializing_shape {worker} (h : state.initializing = some worker) :
    ∃ kind, (∃ held, state = .starting ⟨kind, .initializing worker held⟩) ∨
      (∃ departure, state = .shuttingDown (.initializing kind (.departing none departure)) ∧
        departure.worker = worker) ∨
      ∃ shutdown stopped, state =
        .shuttingDown (.initializing kind (.waitingForInitialization worker shutdown stopped)) := by
  unfold initializing at h
  split at h
  · cases h
    exact ⟨_, .inl ⟨_, rfl⟩⟩
  · cases h
    exact ⟨_, .inr (.inl ⟨_, rfl, rfl⟩)⟩
  · cases h
    exact ⟨_, .inr (.inr ⟨_, _, rfl⟩)⟩
  · cases h

/-- A departure takes the stop it waits for. -/
theorem WorkerStopping.workerStopped_taken
    (hnone : departure.stopped = none) (hchild : stopped.child = departure.worker.attempt.creation) :
    (∃ departure', departure.workerStopped stopped = .ok (.resume departure')) ∨
      ∃ gone, departure.workerStopped stopped = .ok (.stop gone) := by
  obtain ⟨worker, shutdown, held⟩ := departure
  obtain rfl : held = none := hnone
  have hadmits : worker.admitStop stopped = true := CurrentWorker.admitStop_iff.mpr hchild
  cases shutdown with
  | requested id => exact .inl ⟨_, by simp only [workerStopped, hadmits, if_true]; rfl⟩
  | settled settlement => exact .inr ⟨_, by simp only [workerStopped, hadmits, if_true]; rfl⟩

/-- A departure takes the settlement it waits for. -/
theorem WorkerStopping.shutdownResolved_taken
    (hrequested : departure.shutdown = .requested settlement.id) :
    (∃ departure', departure.shutdownResolved settlement = .ok (.resume departure')) ∨
      ∃ gone, departure.shutdownResolved settlement = .ok (.stop gone) := by
  obtain ⟨worker, shutdown, held⟩ := departure
  obtain rfl : shutdown = .requested settlement.id := hrequested
  cases held with
  | none => exact .inl ⟨_, by simp only [shutdownResolved, beq_self_eq_true, if_true]; rfl⟩
  | some stopped => exact .inr ⟨_, by simp only [shutdownResolved, beq_self_eq_true, if_true]; rfl⟩

/-- The report of the initialization a state waits for is taken. -/
theorem report_taken {worker report} (hworker : self.state.initializing = some worker)
    (hadmits : worker.admitInitialization report = true) (hexact : exactReport report = true) :
    (workerInitialized self report : Acted S Message).2.diagnostics = [] := by
  obtain ⟨state, creations, heap⟩ := self
  obtain ⟨hattempt, -⟩ := CurrentWorker.admitInitialization_iff.mp hadmits
  -- a report about a stop carries the stop of this very worker
  have hchild : ∀ attempt initialization startup returned,
      report = .stopped attempt initialization startup returned →
        returned.child = worker.attempt.creation := by
    rintro attempt initialization startup returned rfl
    rw [← hattempt]
    exact beq_iff_eq.mp hexact
  obtain ⟨kind, ⟨held, rfl⟩ | ⟨departure, rfl, rfl⟩ | ⟨shutdown, stopped, rfl⟩⟩ :=
    ProxyState.initializing_shape hworker
  · simp only [workerInitialized, hadmits, if_true]
    cases report with
    | readyForStartup attempt initialization startup permit
    | effectsRejected attempt initialization startup failure =>
      cases held with
      | none => rfl
      | some stopped => exact (workerStartEmpty_concludes _ _ _ _).quiet.diagnostics
    | stopped attempt initialization startup returned =>
      have hstop : worker.admitStop returned = true :=
        CurrentWorker.admitStop_iff.mpr (hchild _ _ _ _ rfl)
      simp only [initializationResolved, hstop, if_true]
      exact (workerStartEmpty_concludes _ _ _ _).quiet.diagnostics
  · simp only [workerInitialized, shutdownWorkerInitialized, admitWorkerInitializedDuringShutdown,
      hadmits, if_true]
    cases report with
    | readyForStartup attempt initialization startup permit => rfl
    | effectsRejected attempt initialization startup failure => rfl
    | stopped attempt initialization startup returned =>
      have hstop : departure.worker.admitStop returned = true :=
        CurrentWorker.admitStop_iff.mpr (hchild _ _ _ _ rfl)
      simp only [retainInitializationWhileDeparting, retainInitializationStop, hstop, if_true]
      cases hheld : departure.stopped with
      | some held => rfl
      | none =>
        rcases WorkerStopping.workerStopped_taken hheld (hchild _ _ _ _ rfl) with
          ⟨departure', h⟩ | ⟨gone, h⟩
        · simp only [h]
          rfl
        · simp only [h]
          exact (finishStartRetirement_concludes _ _ _).quiet.diagnostics
  · simp only [workerInitialized, shutdownWorkerInitialized, admitWorkerInitializedDuringShutdown,
      hadmits, if_true]
    cases report with
    | readyForStartup attempt initialization startup permit
    | effectsRejected attempt initialization startup failure =>
      exact (finishStartRetirement_concludes _ _ _).quiet.diagnostics
    | stopped attempt initialization startup returned =>
      have hstop : worker.admitStop returned = true :=
        CurrentWorker.admitStop_iff.mpr (hchild _ _ _ _ rfl)
      simp only [classifyInitializationAfterStop, hstop, if_true]
      exact (finishStartRetirement_concludes _ _ _).quiet.diagnostics

theorem ProxyState.startup_shape (h : state.startup = some progress) :
    ∃ kind, (∃ worker held, state = .starting ⟨kind, .starting worker progress held⟩) ∨
      (∃ departure, state =
        .shuttingDown (.starting kind (.departing (.pending progress) departure))) ∨
      ∃ worker shutdown stopped, state =
        .shuttingDown (.starting kind (.waitingForStartup progress worker shutdown stopped)) := by
  unfold startup at h
  split at h
  · cases h
    exact ⟨_, .inl ⟨_, _, rfl⟩⟩
  · cases h
    exact ⟨_, .inr (.inl ⟨_, rfl⟩)⟩
  · cases h
    exact ⟨_, .inr (.inr ⟨_, _, _, rfl⟩)⟩
  · cases h

/-- The reports that go with a startup. -/
inductive StartupProgress.Goes (grant : WorkerStartupGrant) :
    StartupProgress → WorkerStartupOutcome S → Prop
  | started : Goes grant (.waitingForStart grant) .started
  | refused {request reason} :
      Goes grant (.waitingForStart grant) (.startRejected request reason)
  | ready {readiness} : Goes grant (.running grant) (.ready readiness)
  | rejected {rejection} : Goes grant (.running grant) (.rejected rejection)

theorem StartupProgress.goes_of_mem {grant : WorkerStartupGrant}
    {outcome : WorkerStartupOutcome S} (h : startupDue grant outcome ∈ progress.owes) :
    Goes grant progress outcome := by
  cases progress with
  | waitingForStart startup =>
    cases outcome with
    | started =>
      obtain rfl : grant = startup := by simpa [startupDue, owes] using h
      exact .started
    | startRejected request reason =>
      obtain rfl : grant = startup := by simpa [startupDue, owes] using h
      exact .refused
    | ready readiness | rejected rejection => simp [startupDue, owes] at h
  | running startup =>
    cases outcome with
    | started | startRejected request reason => simp [startupDue, owes] at h
    | ready readiness =>
      obtain rfl : grant = startup := by simpa [startupDue, owes] using h
      exact .ready
    | rejected rejection =>
      obtain rfl : grant = startup := by simpa [startupDue, owes] using h
      exact .rejected

/-- The next report of the startup a state waits for is taken. -/
theorem startup_taken {input : WorkerStartup S} (hprogress : self.state.startup = some progress)
    (hdue : startupDue input.startup input.outcome ∈ progress.owes) :
    (settleWorkerStartup self input : Acted S Message).2.diagnostics = [] := by
  obtain ⟨state, creations, heap⟩ := self
  obtain ⟨attempt, grant, outcome⟩ := input
  have hgoes : progress.Goes grant outcome := StartupProgress.goes_of_mem hdue
  obtain ⟨kind, ⟨worker, held, rfl⟩ | ⟨departure, rfl⟩ | ⟨worker, shutdown, stopped, rfl⟩⟩ :=
    ProxyState.startup_shape hprogress
  · cases hgoes <;> simp only [settleWorkerStartup, admitStartup, beq_self_eq_true, if_true]
    · rfl
    · cases held with
      | none => rfl
      | some stopped => exact (workerStartEmpty_concludes _ _ _ _).quiet.diagnostics
    · cases held with
      | none => exact (workerStartReady_concludes _ _ _ _).quiet.diagnostics
      | some stopped => exact (workerStartEmpty_concludes _ _ _ _).quiet.diagnostics
    · cases held with
      | none => rfl
      | some stopped => exact (workerStartEmpty_concludes _ _ _ _).quiet.diagnostics
  · cases hgoes <;> simp only [settleWorkerStartup, settleShutdownStartup,
      admitWorkerStartupDuringShutdown, admitStartup, beq_self_eq_true, if_true] <;> rfl
  · cases hgoes <;> simp only [settleWorkerStartup, settleShutdownStartup,
      admitWorkerStartupDuringShutdown, admitStartup, beq_self_eq_true, if_true]
    · rfl
    · exact (finishStartRetirement_concludes _ _ _).quiet.diagnostics
    · exact (finishStartRetirement_concludes _ _ _).quiet.diagnostics
    · exact (finishStartRetirement_concludes _ _ _).quiet.diagnostics

/-! A departure, wherever it is. -/

theorem ProxyState.departure_place
    (h : state.departure = some departure) : ∃ place : Leaving S, state = place.state departure := by
  unfold ProxyState.departure at h
  split at h
  · cases h
    exact ⟨.returningStart _ _, rfl⟩
  · cases h
    exact ⟨.returningPredecessor _ _, rfl⟩
  · cases h
    exact ⟨.returningWorker, rfl⟩
  · cases h
    exact ⟨.retiringStart _ _, rfl⟩
  · cases h
    exact ⟨.cancelledPredecessor _ _, rfl⟩
  · cases h
    exact ⟨.returningSuccessor _ _ _, rfl⟩
  · cases h
    exact ⟨.retiringInitialization _ _, rfl⟩
  · cases h
    exact ⟨.retiringStartup _ _, rfl⟩
  · cases h

theorem Leaving.left_diagnostics (place : Leaving S) (gone : StoppedWorker S) :
    (place.left self gone : Acted S Message).2.diagnostics = [] := by
  cases hplace : place.isPredecessor with
  | false => exact (Leaving.left_concludes self hplace gone).quiet.diagnostics
  | true =>
    obtain ⟨successor, creation, rfl⟩ := Leaving.eq_returningPredecessor hplace
    rfl

/-- The settlement that ends a departure is taken in every place. -/
theorem Leaving.settlement_ends (place : Leaving S) (creations : Sequence) (heap : ℕ) {gone}
    (h : departure.shutdownResolved settlement = .ok (.stop gone)) :
    (workerShutdownResolved ⟨place.state departure, creations, heap⟩ settlement :
      Acted S Message).2.diagnostics = [] := by
  match place with
  | .returningStart .initial failure =>
    simp only [Leaving.state, workerShutdownResolved, workerStartShutdownResolved, h]
    exact Leaving.left_diagnostics (.returningStart .initial failure) gone
  | .returningStart (.replacement replaces .settled) failure =>
    simp only [Leaving.state, workerShutdownResolved, workerStartShutdownResolved, h]
    exact Leaving.left_diagnostics (.returningStart (.replacement replaces .settled) failure) gone
  | .returningStart (.replacement replaces (.awaiting id)) failure =>
    simp only [Leaving.state, workerShutdownResolved, workerStartShutdownResolved, h]
    split_ifs
    · rfl
    · exact Leaving.left_diagnostics (.returningStart (.replacement replaces (.awaiting id))
        failure) gone
  | .returningPredecessor _ _ | .returningWorker | .cancelledPredecessor _ _
  | .returningSuccessor _ (.returned _) _ | .retiringInitialization _ none
  | .retiringStartup _ (.pending _) =>
    simp only [Leaving.state, workerShutdownResolved, replacementShutdownResolved,
      shutdownResolved, successorShutdownResolved, rejoinInitializationDeparture,
      rejoinStartupDeparture, h]
    rfl
  | .retiringStart kind failure =>
    simp only [Leaving.state, workerShutdownResolved, shutdownResolved, h]
    exact Leaving.left_diagnostics (.retiringStart kind failure) gone
  | .returningSuccessor _ (.awaiting id) _ =>
    simp only [Leaving.state, workerShutdownResolved, shutdownResolved,
      successorShutdownResolved, h]
    split_ifs <;> rfl
  | .retiringInitialization _ (some _) | .retiringStartup _ (.returned _) =>
    simp only [Leaving.state, workerShutdownResolved, shutdownResolved,
      rejoinInitializationDeparture, rejoinStartupDeparture, h]
    exact (finishStartRetirement_concludes _ _ _).quiet.diagnostics

/-- The settlement of a departure is taken in every place. -/
theorem Leaving.settlement_taken (place : Leaving S) (creations : Sequence) (heap : ℕ)
    (hrequested : departure.shutdown = .requested settlement.id) :
    (workerShutdownResolved ⟨place.state departure, creations, heap⟩ settlement :
      Acted S Message).2.diagnostics = [] := by
  rcases WorkerStopping.shutdownResolved_taken hrequested with ⟨departure', h⟩ | ⟨gone, h⟩
  · -- The departure goes on, or its settlement is that of the predecessor.
    match place with
    | .returningStart .initial _ | .returningStart (.replacement _ .settled) _
    | .returningPredecessor _ _ | .returningWorker | .cancelledPredecessor _ _
    | .retiringStart _ _ | .returningSuccessor _ (.returned _) _ | .retiringInitialization _ _
    | .retiringStartup _ _ =>
      simp only [Leaving.state, workerShutdownResolved, workerStartShutdownResolved,
        replacementShutdownResolved, shutdownResolved, successorShutdownResolved,
        rejoinInitializationDeparture, rejoinStartupDeparture, h]
      rfl
    | .returningStart (.replacement _ (.awaiting id)) _ | .returningSuccessor _ (.awaiting id) _ =>
      simp only [Leaving.state, workerShutdownResolved, shutdownResolved,
        workerStartShutdownResolved, successorShutdownResolved, h]
      split_ifs <;> rfl
  · exact place.settlement_ends creations heap h

/-- The settlement of a predecessor is taken, except in the drains that do not look for it. -/
theorem predecessor_taken (hawaits : self.state.awaits = some settlement.id)
    (hnot : ¬ Missed self.state (.workerShutdownResolved settlement : ProxyEvent S Message)) :
    (workerShutdownResolved self settlement : Acted S Message).2.diagnostics = [] := by
  obtain ⟨state, creations, heap⟩ := self
  match state with
  | .starting ⟨.replacement replaces (.awaiting id), phase⟩ =>
    obtain rfl : id = settlement.id := by simpa [ProxyState.awaits, WorkerStartKind.awaits] using hawaits
    simp only [workerShutdownResolved, beq_self_eq_true, if_true]
    rfl
  | .starting ⟨.initial, _⟩ => cases hawaits
  | .starting ⟨.replacement _ .settled, _⟩ => cases hawaits
  | .replacing (.successorResultAwaitingShutdown replaces id completion) =>
    obtain rfl : id = settlement.id := by simpa [ProxyState.awaits] using hawaits
    simp only [workerShutdownResolved, replacementShutdownResolved, beq_self_eq_true, if_true]
    exact (publishReplacement_concludes _ _ _).quiet.diagnostics
  | .shuttingDown (.returningSuccessor replaces (.awaiting id) departure result) =>
    obtain rfl : id = settlement.id := by
      simpa [ProxyState.awaits, PredecessorReturn.awaits] using hawaits
    simp only [workerShutdownResolved, shutdownResolved, beq_self_eq_true, if_true]
    rfl
  | .shuttingDown (.returningSuccessor _ (.returned _) _ _) => cases hawaits
  | .shuttingDown (.waitingForPredecessor replaces id retirement) =>
    obtain rfl : id = settlement.id := by simpa [ProxyState.awaits] using hawaits
    simp only [workerShutdownResolved, shutdownResolved, beq_self_eq_true, if_true]
    rfl
  | .shuttingDown (.waitingForCreation _) | .shuttingDown (.returningWorkerStart _ _ _)
  | .shuttingDown (.initializing _ _) | .shuttingDown (.starting _ _) =>
    exact absurd (.predecessor rfl hawaits) hnot
  | .shuttingDown (.returningWorker _) => cases hawaits
  | .shuttingDown (.returningPredecessor _ _ _) => cases hawaits
  | .replacing (.returningPredecessor _ _ _) => cases hawaits
  | .dormant => cases hawaits
  | .ready _ => cases hawaits
  | .emptyInitial => cases hawaits
  | .emptyAfter _ => cases hawaits
  | .stopped _ => cases hawaits

/-- The stop of a departing worker is taken in every place. -/
theorem Leaving.stop_taken (place : Leaving S) (creations : Sequence) (heap : ℕ)
    (hnone : departure.stopped = none) (hchild : stopped.child = departure.worker.attempt.creation) :
    (workerStopped ⟨place.state departure, creations, heap⟩ stopped :
      Acted S Message).2.diagnostics = [] := by
  rcases (WorkerStopping.workerStopped_taken hnone hchild).symm with
    ⟨gone, h⟩ | ⟨departure', h⟩
  · match place with
    | .returningStart kind failure =>
      simp only [Leaving.state, workerStopped, workerStartStopped, h]
      exact Leaving.left_diagnostics (.returningStart kind failure) gone
    | .returningPredecessor _ _ | .returningWorker | .cancelledPredecessor _ _
    | .retiringInitialization _ none | .retiringStartup _ (.pending _) =>
      simp only [Leaving.state, workerStopped, replacementWorkerStopped, shutdownWorkerStopped,
        rejoinInitializationDeparture, rejoinStartupDeparture, h]
      rfl
    | .retiringStart kind failure =>
      simp only [Leaving.state, workerStopped, shutdownWorkerStopped, h]
      exact Leaving.left_diagnostics (.retiringStart kind failure) gone
    | .returningSuccessor replaces predecessor result =>
      simp only [Leaving.state, workerStopped, shutdownWorkerStopped, h]
      exact (successorDeparted_concludes _ _ _ _ _).quiet.diagnostics
    | .retiringInitialization _ (some _) | .retiringStartup _ (.returned _) =>
      simp only [Leaving.state, workerStopped, shutdownWorkerStopped,
        rejoinInitializationDeparture, rejoinStartupDeparture, h]
      exact (finishStartRetirement_concludes _ _ _).quiet.diagnostics
  · -- The departure goes on.
    cases place with
    | returningPredecessor successor creation =>
      simp only [Leaving.state, workerStopped, replacementWorkerStopped, h]
      cases departure'.intoStoppedBeforeShutdown <;> rfl
    | _ =>
      simp only [Leaving.state, workerStopped, workerStartStopped, shutdownWorkerStopped,
        rejoinInitializationDeparture, rejoinStartupDeparture, h]
      rfl

/-- **The stop of the attempt a state is about is taken**, except while the proxy is shut down
and the creation of that attempt is not settled. -/
theorem stop_taken {attempt} (htenant : self.state.tenant = some attempt)
    (hheld : self.state.held = none) (hchild : stopped.child = attempt.creation)
    (hnot : self.state.unsettled = none) :
    (workerStopped self stopped : Acted S Message).2.diagnostics = [] := by
  obtain ⟨state, creations, heap⟩ := self
  cases hdeparture : state.departure with
  | some departure =>
    obtain ⟨place, rfl⟩ := ProxyState.departure_place hdeparture
    rw [Leaving.state_tenant] at htenant
    rw [Leaving.state_held] at hheld
    cases htenant
    exact place.stop_taken creations heap hheld hchild
  | none =>
    match state with
    | .starting ⟨kind, .creating worker held⟩ =>
      cases htenant
      obtain rfl : held = none := hheld
      simp only [workerStopped, workerStartStopped, admitPreReadyStop,
        PendingWorker.admitStop_iff.mpr hchild, if_true]
      rfl
    | .starting ⟨_, .initializing _ held⟩ | .starting ⟨_, .starting _ _ held⟩ =>
      cases htenant
      obtain rfl : held = none := hheld
      simp only [workerStopped, workerStartStopped, admitPreReadyStop,
        CurrentWorker.admitStop_iff.mpr hchild, if_true]
      rfl
    | .ready worker =>
      cases htenant
      simp only [workerStopped, CurrentWorker.admitStop_iff.mpr hchild, if_true]
      rfl
    | .replacing (.successorResultAwaitingShutdown replaces id (.ready worker result)) =>
      cases htenant
      simp only [workerStopped, replacementWorkerStopped, CurrentWorker.admitStop_iff.mpr hchild,
        if_true]
      rfl
    | .shuttingDown (.waitingForCreation _) => cases hnot
    | .replacing (.successorResultAwaitingShutdown _ _ (.readyAfterStop _ _ _))
    | .shuttingDown (.initializing _ (.waitingForInitialization _ _ _))
    | .shuttingDown (.starting _ (.waitingForStartup _ _ _ _)) => cases hheld
    | .replacing (.successorResultAwaitingShutdown _ _ (.empty _ _))
    | .shuttingDown (.waitingForPredecessor _ _ _) | .dormant | .emptyInitial | .emptyAfter _
    | .stopped _ => cases htenant
    | .starting ⟨_, .returningWorker _ _⟩ | .replacing (.returningPredecessor _ _ _)
    | .shuttingDown (.returningWorker _) | .shuttingDown (.returningWorkerStart _ _ _)
    | .shuttingDown (.returningPredecessor _ _ _) | .shuttingDown (.returningSuccessor _ _ _ _)
    | .shuttingDown (.initializing _ (.departing _ _))
    | .shuttingDown (.starting _ (.departing _ _)) => cases hdeparture

end Taken

/-- What an event that settles creations tells. -/
theorem delivers_creations {workers}
    (h : due ∈ (.workerCreationsSettled workers : ProxyEvent S Message).delivers) :
    ∃ id kind, identities workers = [(id, kind)] ∧ due = .creation id kind := by
  simp only [ProxyEvent.delivers] at h
  split at h
  · exact ⟨_, _, ‹_›, List.mem_singleton.mp h⟩
  · cases h

/-! What a state owes of each kind. -/

section Inversion

variable {state : ProxyState S}

theorem ProxyState.Owes.pending {id : ℕ} {kind : CreationKind}
    (h : state.Owes (.creation id kind)) :
    ∃ worker, state.pending = some worker ∧ id = worker.creation ∧ kind = worker.kind := by
  generalize hdue : Due.creation id kind = due at h
  cases h with
  | creation h =>
    cases hdue
    exact ⟨_, h, rfl, rfl⟩
  | startup h hmem =>
    subst hdue
    simp [StartupProgress.mem_owes] at hmem
  | report h => cases hdue
  | predecessor h => cases hdue
  | shutdown h hrequested => cases hdue
  | stop h hheld => cases hdue

theorem ProxyState.Owes.initializing {attempt : WorkerAttempt}
    {initialization : InitializationAttempt} (h : state.Owes (.initialization attempt initialization)) :
    ∃ worker, state.initializing = some worker ∧ attempt = worker.attempt ∧
      initialization = worker.initialization := by
  generalize hdue : Due.initialization attempt initialization = due at h
  cases h with
  | report h =>
    cases hdue
    exact ⟨_, h, rfl, rfl⟩
  | startup h hmem =>
    subst hdue
    simp [StartupProgress.mem_owes] at hmem
  | creation h => cases hdue
  | predecessor h => cases hdue
  | shutdown h hrequested => cases hdue
  | stop h hheld => cases hdue

theorem ProxyState.Owes.startup_due {startup : WorkerStartupGrant}
    {outcome : WorkerStartupOutcome S} (h : state.Owes (startupDue startup outcome)) :
    ∃ progress, state.startup = some progress ∧ startupDue startup outcome ∈ progress.owes := by
  generalize hdue : startupDue startup outcome = due at h ⊢
  cases h with
  | startup h hmem => exact ⟨_, h, hmem⟩
  | report h | creation h | predecessor h | shutdown h hrequested | stop h hheld =>
    cases outcome <;> cases hdue

theorem ProxyState.Owes.requested {id : ℕ} (h : state.Owes (.shutdown id)) :
    state.awaits = some id ∨
      ∃ departure, state.departure = some departure ∧ departure.shutdown = .requested id := by
  generalize hdue : Due.shutdown id = due at h
  cases h with
  | predecessor h =>
    cases hdue
    exact .inl h
  | shutdown h hrequested =>
    cases hdue
    exact .inr ⟨_, h, hrequested⟩
  | startup h hmem =>
    subst hdue
    simp [StartupProgress.mem_owes] at hmem
  | report h => cases hdue
  | creation h => cases hdue
  | stop h hheld => cases hdue

theorem ProxyState.Owes.tenant {creation : ℕ} (h : state.Owes (.stop creation)) :
    ∃ attempt, state.tenant = some attempt ∧ attempt.creation = creation ∧ state.held = none := by
  generalize hdue : Due.stop creation = due at h
  cases h with
  | stop h hheld =>
    cases hdue
    exact ⟨_, h, rfl, hheld⟩
  | startup h hmem =>
    subst hdue
    simp [StartupProgress.mem_owes] at hmem
  | report h => cases hdue
  | creation h => cases hdue
  | predecessor h => cases hdue
  | shutdown h hrequested => cases hdue

end Inversion

/-- While the proxy is shut down, the stop of a worker whose creation is not settled is
missed. -/
theorem missed_of_unsettled {start attempt stopped} (hsound : Sound self)
    (hunsettled : self.state.unsettled = some start) (htenant : self.state.tenant = some attempt)
    (hheld : self.state.held = none) (hchild : stopped.child = attempt.creation) :
    Missed self.state (.workerStopped stopped : ProxyEvent S Message) := by
  obtain ⟨worker, held, hphase⟩ := hsound.unsettled start hunsettled
  obtain ⟨state, creations, heap⟩ := self
  obtain ⟨kind, phase⟩ := start
  obtain rfl : phase = .creating worker held := hphase
  unfold ProxyState.unsettled at hunsettled
  split at hunsettled
  · next hstate =>
    cases hunsettled
    obtain rfl : state = _ := hstate
    cases htenant
    obtain rfl : held = none := hheld
    exact .stop hchild
  · cases hunsettled

/-- **A fact that is owed is taken when it is told, or it is missed.** -/
theorem told_taken (hsound : Sound self)
    (howed : due ∈ self.state.owes) (htold : due ∈ event.delivers)
    (hmissed : ¬ Missed self.state event) : (self.transition event).2.diagnostics = [] := by
  have howes := hsound.owes howed
  cases event with
  | service sender message => cases htold
  | owner control => cases htold
  | workerCreationsSettled workers =>
    obtain ⟨id, kind, hidentity, rfl⟩ := delivers_creations htold
    obtain ⟨worker, hpending, rfl, rfl⟩ := howes.pending
    refine creation_taken hpending hidentity ?_
    rintro creations fault rfl
    obtain ⟨creation, rfl⟩ : ∃ creation, creations = [creation] := by
      refine List.length_eq_one_iff.mp ?_
      simpa [identities] using congrArg List.length hidentity
    exact hmissed (.corrupt hpending (by simpa [identities] using hidentity))
  | workerInitialization report =>
    simp only [ProxyEvent.delivers] at htold
    split at htold
    · obtain rfl := List.mem_singleton.mp htold
      obtain ⟨worker, hworker, hattempt, hinitialization⟩ := howes.initializing
      exact report_taken hworker
        (CurrentWorker.admitInitialization_iff.mpr ⟨hattempt, hinitialization⟩) ‹_›
    · cases htold
  | workerStartupReported input =>
    obtain rfl := List.mem_singleton.mp htold
    obtain ⟨progress, hprogress, hmem⟩ := howes.startup_due
    exact startup_taken hprogress hmem
  | workerShutdownResolved settlement =>
    obtain rfl := List.mem_singleton.mp htold
    rcases howes.requested with hawaits | ⟨departure, hdeparture, hrequested⟩
    · exact predecessor_taken hawaits hmissed
    · obtain ⟨place, hplace⟩ := ProxyState.departure_place hdeparture
      obtain ⟨state, creations, heap⟩ := self
      obtain rfl : state = place.state departure := hplace
      exact place.settlement_taken creations heap hrequested
  | workerStopped stopped =>
    obtain rfl := List.mem_singleton.mp htold
    obtain ⟨attempt, htenant, hchild, hheld⟩ := howes.tenant
    refine stop_taken htenant hheld hchild.symm ?_
    cases hunsettled : self.state.unsettled with
    | none => rfl
    | some start =>
      exact absurd (missed_of_unsettled hsound hunsettled htenant hheld hchild.symm) hmissed

/-- A transition that leaves the proxy as it is opens nothing. -/
theorem Stays.opens {actions} (h : Stays self event actions) :
    (record self event (self, actions)).opens = [] := by
  cases h with
  | diagnosed hdiagnostic =>
    cases event with
    | workerStartupReported input =>
      obtain ⟨attempt, grant, outcome⟩ := input
      cases outcome <;> simp
    | _ => rfl
  | _ => rfl

/-- What a transition that leaves the proxy as it is was told: it is handed back. -/
theorem Stays.told {actions} (h : Stays self event actions)
    (hdue : due ∈ (record self event (self, actions)).delivers) :
    due ∈ event.delivers ∧ actions.diagnostics ≠ [] := by
  cases h with
  | diagnosed hdiagnostic =>
    refine ⟨?_, by simp⟩
    cases event with
    | workerInitialization report => simpa using hdue
    | _ => simpa using hdue
  | _ => simp [ProxyEvent.delivers] at hdue

/-- **Every transition is lawful.** -/
theorem transition_lawful (hsound : Sound self)
    (event : ProxyEvent S Message) : Lawful (self.entry event) := by
  have hturn := transition_turn self event
  have htold : ∀ due, due ∈ self.state.owes → due ∈ event.delivers →
      ¬ Missed self.state event → (self.transition event).2.diagnostics = [] :=
    fun due howed htold hmissed => told_taken hsound howed htold hmissed
  show Lawful (record self event (self.transition event))
  generalize self.transition event = acted at hturn htold
  cases hturn with
  | stays h =>
    refine ⟨fun due hdue => ?_, fun due howed => .inl howed, fun due howed => .inr ⟨howed, ?_⟩⟩
    · rw [h.opens] at hdue
      cases hdue
    intro hdue
    by_contra hmissed
    obtain ⟨hevent, hback⟩ := h.told hdue
    exact hback (htold due howed hevent hmissed)
  | ordered h => exact h.lawful
  | created h => exact h.lawful
  | initialized h => exact h.lawful
  | started h => exact h.lawful
  | settled h | stopped h => exact h.lawful hsound

end Bombay.Proxy
