/-
# A stable proxy and the settlement of its creation

A proxy asks for one creation at a time.  What the interpreter returns for it is a
batch about exactly that creation: rejected, settled, or corrupt as a whole.  The
first two take the proxy out of the state that waits, with the worker or its
rejection and the startup plan; a corrupt batch is handed back like the settlement
of any other creation.
-/

import Bombay.Proxy.Effects

namespace Bombay.Proxy

variable {S : Signature} {Message : Type}

/-! ### The result of a start, wherever it is -/

def ReplacementCompletion.result : ReplacementCompletion S → WorkerStartResult S
  | .ready _ result => result
  | .readyAfterStop _ result _ => result
  | .empty _ result => result

def WorkerStartRetirement.startResult : WorkerStartRetirement S → Option (WorkerStartResult S)
  | .result value => some value
  | .readyWorker value _ => some value
  | .replacementCompletion completion => some completion.result
  | _ => none

/-- The result of a start that a state keeps. -/
def ProxyState.startResult : ProxyState S → Option (WorkerStartResult S)
  | .replacing (.successorResultAwaitingShutdown _ _ completion) => some completion.result
  | .shuttingDown (.waitingForPredecessor _ _ retirement) => retirement.startResult
  | .shuttingDown (.returningSuccessor _ _ _ result) => some result
  | .stopped (.workerStart _ retirement) => retirement.startResult
  | .stopped (.replacementAfterPredecessor _ _ retirement) => retirement.startResult
  | _ => none

/-- The result of a start that is told to the owner. -/
def ProxyOutcome.startResult : ProxyOutcome S Message → Option (WorkerStartResult S)
  | .initial (.resolved result) => some result
  | .replacement (.resolved _ result) => some result
  | _ => none

/-- The results of a start that a transition tells the owner or keeps. -/
def startResults (acted : Acted S Message) : List (WorkerStartResult S) :=
  acted.2.ownerOutcomes.filterMap ProxyOutcome.startResult ++ acted.1.state.startResult.toList

theorem publishReplacement_startResults (self : StableProxy S) (replaces : WorkerAttempt)
    (completion : ReplacementCompletion S) :
    completion.result ∈ startResults (publishReplacement self replaces completion :
      Acted S Message) := by
  cases completion <;> simp [publishReplacement, startResults, ProxyOutcome.startResult,
    ReplacementCompletion.result]

theorem workerCreationRejected_startResults (self : StableProxy S) (kind : WorkerStartKind)
    (result : WorkerStartResult S) :
    result ∈ startResults (workerCreationRejected self kind result : Acted S Message) := by
  match kind with
  | .initial => simp [workerCreationRejected, startResults, ProxyOutcome.startResult]
  | .replacement replaces .settled =>
    exact publishReplacement_startResults self replaces (.empty replaces result)
  | .replacement replaces (.awaiting id) =>
    simp [workerCreationRejected, finishReplacement, startResults, ProxyState.startResult,
      ReplacementCompletion.result]

theorem finishStartRetirement_startResults (self : StableProxy S) (kind : WorkerStartKind)
    (result : WorkerStartResult S) :
    result ∈ startResults (finishStartRetirement self kind (.result result) :
      Acted S Message) := by
  match kind with
  | .initial => simp [finishStartRetirement, stopWith, startResults, ProxyState.startResult,
      WorkerStartRetirement.startResult]
  | .replacement replaces .settled =>
    simp [finishStartRetirement, stopWith, startResults, ProxyState.startResult,
      WorkerStartRetirement.startResult]
  | .replacement replaces (.awaiting id) =>
    simp [finishStartRetirement, startResults, ProxyState.startResult,
      WorkerStartRetirement.startResult]

/-! ### What a batch about one creation says -/

/-- The worker, or its rejection, and the startup plan are kept. -/
def CreationKept (worker : PendingWorker S) (acted : Acted S Message) :
    WorkerCreationOutcome S → Prop
  | .established actor =>
    acted.1.state.initializing = some ⟨worker.attempt, worker.initialization, actor⟩ ∧
      acted.2.workerInitializations.map InitializeWorker.startup = [worker.startup]
  | .rejected rejection =>
    ∃ held, .creationRejected rejection worker.startup held ∈ startResults acted

/-- **The transition leaves the state that waits for the creation**, hands nothing back, and
keeps what the batch brought. -/
structure LeavesCreating (worker : PendingWorker S) (workers : CreationsSettled S)
    (acted : Acted S Message) : Prop where
  left : acted.1.state.pending = none
  taken : acted.2.diagnostics = []
  kept : ∃ outcome, creationOutcome workers = some outcome ∧ CreationKept worker acted outcome

variable {worker : PendingWorker S} {workers : CreationsSettled S}

/-- A batch about the creation that is waited for takes the proxy on. -/
theorem leavesCreating_of_not_corrupt {proxy} (hpending : proxy.state.pending = some worker)
    (hidentity : identities workers = [(worker.creation, worker.kind)])
    (hcorrupt : ∀ creations fault, workers ≠ .corrupt creations fault) :
    LeavesCreating worker workers (workersCreated proxy workers : Acted S Message) := by
  have htaken : (workersCreated proxy workers : Acted S Message).2.diagnostics = [] :=
    creation_taken hpending hidentity hcorrupt
  obtain ⟨state, creations, heap⟩ := proxy
  obtain ⟨kind, held, hstate⟩ := ProxyState.pending_shape hpending
  rcases PendingWorker.created_outcome held hidentity hcorrupt with
    ⟨actor, houtcome, hcreated⟩ | ⟨rejection, houtcome, hcreated⟩
  · refine ⟨?_, htaken, _, houtcome, ?_, ?_⟩ <;> rcases hstate with rfl | rfl <;>
      simp only [workersCreated, shutdownWorkersCreated, hcreated] <;> cases held <;> rfl
  · have hresult : ∀ acted : Acted S Message,
        workersCreated ⟨state, creations, heap⟩ workers = acted →
        acted.1.state.pending = none ∧
          .creationRejected rejection worker.startup held ∈ startResults acted := by
      rintro acted rfl
      rcases hstate with rfl | rfl
      · simp only [workersCreated, hcreated]
        refine ⟨?_, workerCreationRejected_startResults _ kind _⟩
        rcases kind with _ | ⟨_, _ | _⟩ <;> rfl
      · simp only [workersCreated, shutdownWorkersCreated, hcreated]
        refine ⟨?_, finishStartRetirement_startResults _ kind _⟩
        rcases kind with _ | ⟨_, _ | _⟩ <;> rfl
    obtain ⟨hleft, hkept⟩ := hresult _ rfl
    exact ⟨hleft, htaken, _, houtcome, held, hkept⟩

/-- A batch that no pending worker reads is handed back whole. -/
theorem workersCreated_back {proxy} (hpending : proxy.state.pending = some worker)
    (hback : ∀ held, worker.created workers held = .unexpected worker held workers) :
    (workersCreated proxy workers : Acted S Message) =
      (proxy, .diagnose (.unexpectedWorkerStart proxy.state.phase workers)) := by
  obtain ⟨state, creations, heap⟩ := proxy
  obtain ⟨kind, held, rfl | rfl⟩ := ProxyState.pending_shape hpending
  · simp only [workersCreated, hback held]
    rfl
  · simp only [workersCreated, shutdownWorkersCreated, hback held]
    rfl

theorem PendingWorker.created_back (h : identities workers ≠ [(worker.creation, worker.kind)] ∨
      ∃ creations fault, workers = .corrupt creations fault) (held : Option (ChildStopped S)) :
    worker.created workers held = .unexpected worker held workers := by
  rcases worker.created_cases workers held with hback | hreads
  · exact hback
  rcases h with hidentity | ⟨creations, fault, rfl⟩
  · refine absurd ?_ hidentity
    generalize worker.created workers held = creation at hreads
    cases hreads with
    | established hid _ | rejected hid _ => simp [identities, hid]
    | batch hid => simpa [identities] using hid
  · rfl

/-- **A proxy leaves the state that waits for a creation on every settlement of it except a
batch that is corrupt as a whole**; any other settlement is handed back, and nothing changes. -/
theorem leaves_creating_iff (events : List (ProxyEvent S Message)) (worker : PendingWorker S)
    (workers : CreationsSettled S)
    (hpending : (run events).proxy.state.pending = some worker) :
    (identities workers = [(worker.creation, worker.kind)] →
      (LeavesCreating worker workers
        ((run events).proxy.transition (.workerCreationsSettled workers) : Acted S Message) ↔
        ∀ creations fault, workers ≠ .corrupt creations fault)) ∧
    (identities workers ≠ [(worker.creation, worker.kind)] →
      ((run events).proxy.transition (.workerCreationsSettled workers) : Acted S Message) =
        ((run events).proxy,
          .diagnose (.unexpectedWorkerStart (run events).proxy.state.phase workers))) := by
  constructor
  · intro hidentity
    constructor
    · rintro hleaves creations fault rfl
      have hback : ((run events).proxy.transition
          (.workerCreationsSettled (.corrupt creations fault)) : Acted S Message) = _ :=
        workersCreated_back hpending (PendingWorker.created_back (.inr ⟨creations, fault, rfl⟩))
      have htaken := hleaves.taken
      rw [hback] at htaken
      cases htaken
    · exact leavesCreating_of_not_corrupt hpending hidentity
  · intro hidentity
    exact workersCreated_back hpending (PendingWorker.created_back (.inl hidentity))

/-- A start whose creation comes back established. -/
theorem leaves_creating_established :
    LeavesCreating (PendingWorker.of () 1 0 .birth : PendingWorker numbers)
      (.settled [.attempted (.accepted (.established 1 .birth (7 : ℕ)))])
      ((run [.owner (.start ⟨(), ()⟩)] : Journal numbers Unit).proxy.transition
        (.workerCreationsSettled (.settled [.attempted (.accepted (.established 1 .birth (7 : ℕ)))])) :
        Acted numbers Unit) :=
  ((leaves_creating_iff ([.owner (.start ⟨(), ()⟩)] : List (ProxyEvent numbers Unit))
    (PendingWorker.of () 1 0 .birth)
    (.settled [.attempted (.accepted (.established 1 .birth (7 : ℕ)))]) rfl).1 rfl).mpr nofun

/-- A start whose creation comes back in a corrupt batch waits for ever. -/
theorem creating_ignores_corrupt_batch :
    (run [.owner (.start ⟨(), ()⟩)] : Journal numbers Unit).proxy.state.pending =
      some (PendingWorker.of () 1 0 .birth) ∧
    identities (.corrupt [⟨1, (), .birth⟩] .corruptTraversal : CreationsSettled numbers) =
      [((PendingWorker.of () 1 0 .birth : PendingWorker numbers).creation, .birth)] ∧
    ¬ LeavesCreating (PendingWorker.of () 1 0 .birth : PendingWorker numbers)
      (.corrupt [⟨1, (), .birth⟩] .corruptTraversal)
      ((run [.owner (.start ⟨(), ()⟩)] : Journal numbers Unit).proxy.transition
        (.workerCreationsSettled (.corrupt [⟨1, (), .birth⟩] .corruptTraversal)) :
        Acted numbers Unit) := by
  refine ⟨rfl, rfl, fun hleaves => ?_⟩
  have htaken := hleaves.taken
  cases htaken

end Bombay.Proxy
