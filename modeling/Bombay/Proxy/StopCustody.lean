/-
# A stable proxy keeps the stop of its worker

The stop of a worker may reach the proxy in every state that is about that worker.
It is stored or reported, and its worker is not asked to shut down afterwards; only
while the proxy shuts down and the creation of the worker is still unsettled is it
handed back.
-/

import Bombay.Proxy.Settlement

namespace Bombay.Proxy

variable {S : Signature} {Message : Type}

/-! ### Where stops are kept -/

def ProxyDrain.stops : ProxyDrain S → List (ChildStopped S)
  | .initializationRejected _ _ _ stopped => [stopped]
  | .initializationStopped _ observed returned => observed.toList ++ [returned]
  | .initializationCompleted _ _ stopped => [stopped]
  | .startupRefused _ _ _ stopped => [stopped]
  | .startupRejected _ _ stopped => [stopped]
  | .startupCompleted _ stopped => [stopped]

def WorkerStartResult.stops : WorkerStartResult S → List (ChildStopped S)
  | .creationRejected _ _ stopped => stopped.toList
  | .ready _ _ => []
  | .unavailable _ drain => drain.stops

def ReplacementCompletion.stops : ReplacementCompletion S → List (ChildStopped S)
  | .ready _ result => result.stops
  | .readyAfterStop _ result stopped => result.stops ++ [stopped]
  | .empty _ result => result.stops

def WorkerInitializationRetirement.stops :
    WorkerInitializationRetirement S → List (ChildStopped S)
  | .stopped _ initializationStop => initializationStop.toList
  | _ => []

def WorkerStartRetirement.stops : WorkerStartRetirement S → List (ChildStopped S)
  | .result value => value.stops
  | .initialization report _ _ stopped => report.stops ++ [stopped]
  | .startup _ _ _ stopped => [stopped]
  | .readyWorker value departure => value.stops ++ [departure.stopped]
  | .replacementCompletion completion => completion.stops

def ProxyRetirement.stops : ProxyRetirement S → List (ChildStopped S)
  | .empty _ => []
  | .replacementCancelled _ _ predecessor => [predecessor.stopped]
  | .worker departure => [departure.stopped]
  | .workerStart _ retirement => retirement.stops
  | .replacementAfterPredecessor _ _ retirement => retirement.stops

/-- The stops a state keeps. -/
def ProxyState.stops : ProxyState S → List (ChildStopped S)
  | .replacing (.successorResultAwaitingShutdown _ _ completion) => completion.stops
  | .shuttingDown (.returningSuccessor _ _ departure result) =>
    result.stops ++ departure.stopped.toList
  | .shuttingDown (.initializing _ (.departing (some initialization) departure)) =>
    initialization.stops ++ departure.stopped.toList
  | .shuttingDown (.waitingForPredecessor _ _ retirement) => retirement.stops
  | .stopped retirement => retirement.stops
  | state => state.held.toList

/-- The stops an outcome tells. -/
def ProxyOutcome.stops : ProxyOutcome S Message → List (ChildStopped S)
  | .initial (.resolved result) => result.stops
  | .replacement (.resolved _ result) => result.stops
  | .workerStopped _ stopped => [stopped]
  | _ => []

/-- **The stop is stored or reported.** -/
def Custody (stopped : ChildStopped S) (acted : Acted S Message) : Prop :=
  stopped ∈ acted.1.state.stops ∨ ∃ outcome ∈ acted.2.ownerOutcomes, stopped ∈ outcome.stops

variable {self : StableProxy S} {acted : Acted S Message}

variable {stopped : ChildStopped S} {creation : ℕ} {entry : Entry S Message}

theorem publishReplacement_custody {replaces completion} (h : stopped ∈ completion.stops) :
    Custody stopped (publishReplacement self replaces completion : Acted S Message) := by
  right
  cases completion with
  | ready worker result | empty worker result => exact ⟨_, List.mem_singleton.mpr rfl, h⟩
  | readyAfterStop worker result held =>
    rcases List.mem_append.mp h with h | h
    · exact ⟨_, List.mem_cons_self, h⟩
    · exact ⟨.workerStopped worker held, by simp [publishReplacement], h⟩

theorem workerStartEmpty_custody {kind previous result} (h : stopped ∈ result.stops) :
    Custody stopped (workerStartEmpty self kind previous result : Acted S Message) := by
  match kind with
  | .initial => exact .inr ⟨_, List.mem_singleton.mpr rfl, h⟩
  | .replacement replaces .settled =>
    exact publishReplacement_custody (show stopped ∈ (ReplacementCompletion.empty _ _).stops from h)
  | .replacement replaces (.awaiting id) => exact .inl h

theorem finishStartRetirement_custody {kind retirement} (h : stopped ∈ retirement.stops) :
    Custody stopped (finishStartRetirement self kind retirement : Acted S Message) := by
  match kind with
  | .initial => exact .inl h
  | .replacement replaces .settled => exact .inl h
  | .replacement replaces (.awaiting id) => exact .inl h

theorem workerReturnResult_stops (departure : StoppedWorker S) (failure : PreReadyFailure S) :
    departure.stopped ∈ (workerReturnResult departure failure).stops := by
  cases failure <;> exact List.mem_singleton.mpr rfl

theorem Leaving.state_stops {place : Leaving S} {departure : WorkerStopping S}
    (h : departure.stopped = some stopped) :
    stopped ∈ (place.state departure).stops := by
  match place with
  | .returningStart kind failure =>
    simp [state, ProxyState.stops, ProxyState.held, WorkerStartPhase.held, h]
  | .returningPredecessor _ _ | .returningWorker | .retiringStart _ _
  | .cancelledPredecessor _ _ | .retiringInitialization _ none | .retiringStartup _ _ =>
    simp [state, ProxyState.stops, ProxyState.held, h]
  | .returningSuccessor _ _ _ | .retiringInitialization _ (some _) =>
    simp [state, ProxyState.stops, h]

/-- A worker that has left leaves its stop behind. -/
theorem Leaving.left_custody {place : Leaving S} (gone : StoppedWorker S) :
    Custody gone.stopped (place.left self gone : Acted S Message) := by
  match place with
  | .returningStart kind failure =>
    exact workerStartEmpty_custody (workerReturnResult_stops gone failure)
  | .returningPredecessor successor creation =>
    exact .inr ⟨_, List.mem_singleton.mpr rfl, List.mem_singleton.mpr rfl⟩
  | .returningWorker | .cancelledPredecessor _ _ | .retiringInitialization _ none
  | .retiringStartup _ (.pending _) => exact .inl (List.mem_singleton.mpr rfl)
  | .retiringStart kind failure =>
    exact finishStartRetirement_custody (workerReturnResult_stops gone failure)
  | .returningSuccessor _ (.awaiting _) _ | .returningSuccessor _ (.returned _) _ =>
    exact .inl (List.mem_append_right _ (List.mem_singleton.mpr rfl))
  | .retiringInitialization kind (some _) =>
    exact finishStartRetirement_custody (List.mem_append_right _ (List.mem_singleton.mpr rfl))
  | .retiringStartup kind (.returned _) =>
    exact finishStartRetirement_custody (List.mem_singleton.mpr rfl)

theorem Stops.custody (h : Stops self stopped acted) :
    Custody stopped acted := by
  cases h with
  | creatingStopped hchild | initializingStopped hchild | startingStopped hchild =>
    exact .inl (List.mem_singleton.mpr rfl)
  | readyStopped hchild => exact .inr ⟨_, List.mem_singleton.mpr rfl, List.mem_singleton.mpr rfl⟩
  | successorStopped hchild =>
    exact .inl (List.mem_append_right _ (List.mem_singleton.mpr rfl))
  | predecessorStopped hstate hrequested hnone hchild =>
    exact .inr ⟨_, List.mem_singleton.mpr rfl, List.mem_singleton.mpr rfl⟩
  | held hplace hrequested hnone hchild => exact .inl (Leaving.state_stops rfl)
  | @stoppedLast place departure stopped settlement self hstate hsettled hnone hchild =>
    exact Leaving.left_custody ⟨departure.worker, settlement, stopped⟩

/-! ### The stop is owed until it comes -/

/-- The stop of the attempt a state is about is owed until the state holds it. -/
theorem ProxyState.stop_mem_owes {state : ProxyState S} {attempt}
    (htenant : state.tenant = some attempt) (hheld : state.held = none) :
    .stop attempt.creation ∈ state.owes := by
  cases hdeparture : state.departure with
  | some departure =>
    obtain ⟨place, rfl⟩ := ProxyState.departure_place hdeparture
    rw [Leaving.state_tenant] at htenant
    rw [Leaving.state_held] at hheld
    cases htenant
    rw [Leaving.state_owes]
    simp [hheld]
  | none =>
    match state with
    | .starting ⟨_, .creating _ held⟩ | .starting ⟨_, .initializing _ held⟩
    | .starting ⟨_, .starting _ _ held⟩
    | .shuttingDown (.waitingForCreation ⟨_, .creating _ held⟩)
    | .shuttingDown (.waitingForCreation ⟨_, .initializing _ held⟩)
    | .shuttingDown (.waitingForCreation ⟨_, .starting _ _ held⟩) =>
      cases htenant
      obtain rfl : held = none := hheld
      simp [owes, WorkerStartPhase.tenant]
    | .shuttingDown (.waitingForCreation ⟨kind, .returningWorker departure failure⟩) =>
      cases htenant
      have hnone : departure.stopped = none := hheld
      simp [owes, WorkerStartPhase.tenant, hnone]
    | .ready _ | .replacing (.successorResultAwaitingShutdown _ _ (.ready _ _)) =>
      cases htenant
      simp [owes]
    | .replacing (.successorResultAwaitingShutdown _ _ (.readyAfterStop _ _ _))
    | .shuttingDown (.initializing _ (.waitingForInitialization _ _ _))
    | .shuttingDown (.starting _ (.waitingForStartup _ _ _ _)) => cases hheld
    | .replacing (.successorResultAwaitingShutdown _ _ (.empty _ _))
    | .shuttingDown (.waitingForPredecessor _ _ _) | .dormant | .emptyInitial | .emptyAfter _
    | .stopped _ => cases htenant
    | .starting ⟨_, .returningWorker _ _⟩ | .replacing (.returningPredecessor _ _ _)
    | .shuttingDown (.returningWorker _) | .shuttingDown (.returningWorkerStart _ _ _)
    | .shuttingDown (.returningPredecessor _ _ _) | .shuttingDown (.returningSuccessor _ _ _ _)
    | .shuttingDown (.initializing _ (.departing _ _))
    | .shuttingDown (.starting _ (.departing _ _)) => cases hdeparture

/-! ### No shutdown after the stop -/

/-- The attempt was issued and created, and its stop is not owed. -/
structure Spent (creation : ℕ) (proxy : StableProxy S) : Prop where
  past : proxy.creations.Past creation
  unborn : ∀ successor request, proxy.state.unborn = some (successor, request) →
    successor.creation ≠ creation
  stopped : .stop creation ∉ proxy.state.owes

/-- The stop that a transition starts to wait for is that of a worker it creates. -/
theorem Entry.stop_mem_opens (h : .stop creation ∈ entry.opens) :
    ∃ request ∈ entry.actions.creations, request.id = creation := by
  have hmem : Due.stop creation ∈ entry.actions.opens := by
    rcases List.mem_append.mp h with h | h
    · exact h
    · split at h
      · split_ifs at h
        · simp at h
        · cases h
      · cases h
  simp only [ProxyActions.opens, List.mem_append, List.mem_flatMap, List.mem_map, List.mem_cons,
    reduceCtorEq, Due.stop.injEq, List.not_mem_nil, or_false, false_or, and_false,
    exists_false] at hmem
  obtain ⟨request, hrequest, hid⟩ := hmem
  exact ⟨request, hrequest, hid.symm⟩

/-- An attempt that is spent is not created again. -/
theorem Spent.not_created (hvalid : entry.Valid) (hpast : entry.before.creations.Past creation)
    (hunborn : ∀ successor request, entry.before.state.unborn = some (successor, request) →
      successor.creation ≠ creation) : .stop creation ∉ entry.opens := by
  intro hopen
  obtain ⟨request, hrequest, rfl⟩ := Entry.stop_mem_opens hopen
  have hstage := StableProxy.two_le_stage hpast hunborn
  rcases hvalid.asks.births with ⟨hnil, -⟩ | ⟨one, hone, -, hbefore, -⟩
  · rw [hnil] at hrequest
    cases hrequest
  · rw [hone, List.mem_singleton] at hrequest
    subst hrequest
    omega

theorem Spent.keep (hvalid : entry.Valid)
    (h : Spent creation entry.before) : Spent creation entry.after where
  past := hvalid.turn.succeeds.past creation h.past
  unborn successor request hunborn := by
    rcases hvalid.turn.succeeds.unborn successor request hunborn with hsame | hfresh
    · exact h.unborn successor request hsame
    · rintro rfl
      exact hfresh h.past
  stopped howed := by
    rcases hvalid.lawful.known _ howed with hopen | ⟨howed, -⟩
    · exact Spent.not_created hvalid h.past h.unborn hopen
    · exact h.stopped howed

/-- A worker whose stop is not owed is not asked to shut down. -/
theorem Spent.not_dismissed (hvalid : entry.Valid) (h : Spent creation entry.before) :
    ∀ request ∈ entry.actions.workerShutdowns, request.id ≠ creation := by
  intro request hrequest hid
  rcases hvalid.asks.dismisses with hnil | ⟨one, attempt, hone, hattempt, -, htenant, hheld, -, -⟩
  · rw [hnil] at hrequest
    cases hrequest
  · rw [hone, List.mem_singleton] at hrequest
    subst hrequest
    refine h.stopped ?_
    rw [← hid, hattempt]
    exact ProxyState.stop_mem_owes htenant hheld

/-- **The proxy keeps the stop of an attempt**: it takes it, it stores or reports it, and however
it goes on it does not ask that worker to shut down. -/
structure KeepsStop (Message : Type) (proxy : StableProxy S) (attempt : WorkerAttempt)
    (stopped : ChildStopped S) : Prop where
  taken : (proxy.transition (.workerStopped stopped) : Acted S Message).2.diagnostics = []
  custody : Custody stopped (proxy.transition (.workerStopped stopped) : Acted S Message)
  silent : ∀ later : List (ProxyEvent S Message), ∀ entry ∈
    ((proxy.transition (.workerStopped stopped) : Acted S Message).1.resume later).entries,
      ∀ request ∈ entry.actions.workerShutdowns, request.id ≠ attempt.creation

/-- A stop that is taken leaves its attempt spent. -/
theorem spent_of_taken {proxy attempt} (hsound : Sound proxy)
    (htenant : proxy.state.tenant = some attempt) (hchild : stopped.child = attempt.creation)
    (hunsettled : proxy.state.unsettled = none) :
    Spent attempt.creation (proxy.transition (.workerStopped stopped) : Acted S Message).1 := by
  have hvalid := StableProxy.entry_valid hsound (.workerStopped stopped : ProxyEvent S Message)
  have hpast := hsound.past attempt htenant
  have hunborn : ∀ successor request, proxy.state.unborn = some (successor, request) →
      successor.creation ≠ attempt.creation := by
    intro successor request hunborn heq
    have hlt := (hsound.unborn successor request hunborn).2.2 attempt htenant
    omega
  refine ⟨hvalid.turn.succeeds.past _ hpast, ?_, ?_⟩
  · rintro successor request hpair heq
    rcases hvalid.turn.succeeds.unborn successor request hpair with hsame | hfresh
    · exact hunborn successor request hsame heq
    · exact hfresh (heq ▸ hpast)
  · intro howed
    rcases hvalid.lawful.known _ howed with hopen | ⟨-, hmissed⟩
    · exact Spent.not_created hvalid hpast hunborn hopen
    · have htold : Due.stop attempt.creation ∈
          (proxy.entry (.workerStopped stopped : ProxyEvent S Message)).delivers := by
        simp [StableProxy.entry, ProxyEvent.delivers, hchild]
      have hshape := hmissed htold
      generalize hevent : (proxy.entry (.workerStopped stopped : ProxyEvent S Message)).event = event
        at hshape
      generalize hstate : (proxy.entry (.workerStopped stopped : ProxyEvent S Message)).before.state
        = state at hshape
      have hstate' : proxy.state = state := hstate
      cases hshape with
      | stop _ =>
        rw [hstate'] at hunsettled
        cases hunsettled
      | predecessor _ _ => cases hevent
      | corrupt _ _ => cases hevent

/-- **In every state that is about an attempt whose stop is not held, the stop is kept, except
while the proxy shuts down with the creation of that attempt unsettled.** -/
theorem keeps_stop_iff (events : List (ProxyEvent S Message)) (attempt : WorkerAttempt)
    (stopped : ChildStopped S)
    (htenant : (run events).proxy.state.tenant = some attempt)
    (hheld : (run events).proxy.state.held = none) (hchild : stopped.child = attempt.creation) :
    KeepsStop Message (run events).proxy attempt stopped ↔
      ∀ start, (run events).proxy.state ≠ .shuttingDown (.waitingForCreation start) := by
  have hsound := (run_coherent events).sound
  generalize (run events).proxy = proxy at *
  constructor
  · intro hkeeps start hstate
    have htaken := hkeeps.taken
    simp [StableProxy.transition, workerStopped, hstate, shutdownWorkerStopped, unexpectedStop]
      at htaken
  · intro hnot
    have hunsettled : proxy.state.unsettled = none := by
      unfold ProxyState.unsettled
      split
      · exact absurd ‹_› (hnot _)
      · rfl
    have htaken : (proxy.transition (.workerStopped stopped) : Acted S Message).2.diagnostics = [] :=
      stop_taken htenant hheld hchild hunsettled
    refine ⟨htaken, ?_, ?_⟩
    · have hturn := transition_turn proxy (.workerStopped stopped : ProxyEvent S Message)
      generalize proxy.transition (.workerStopped stopped : ProxyEvent S Message) = acted
        at hturn htaken
      cases hturn with
      | stays h =>
        cases h with
        | diagnosed _ => cases htaken
      | stopped h => exact h.custody
    · intro later entry hentry
      have hspent : Spent attempt.creation
          (proxy.transition (.workerStopped stopped) : Acted S Message).1 :=
        spent_of_taken hsound htenant hchild hunsettled
      have hafter : Sound (proxy.transition (.workerStopped stopped : ProxyEvent S Message)).1 :=
        (StableProxy.entry_valid hsound _).sound_after
      have hrun := StableProxy.resume_coherent hafter later
      obtain ⟨before, after, heq⟩ := List.append_of_mem hentry
      obtain ⟨hbefore, -⟩ := hrun.trail.split heq
      refine Spent.not_dismissed (hrun.valid entry hentry) ?_
      refine hbefore.invariant (P := Spent attempt.creation) hspent fun early hearly => ?_
      exact Spent.keep (hrun.valid early (by rw [heq]; simp [hearly]))

/-- A worker that stops while it is initialized. -/
theorem keeps_stop_initializing :
    KeepsStop Unit (run [.owner (.start ⟨(), ()⟩), .workerCreationsSettled
        (.settled [.attempted (.accepted (.established 1 .birth (7 : ℕ)))])] :
        Journal numbers Unit).proxy ⟨1, 0⟩ ⟨1, .ok .normal, 0⟩ :=
  (keeps_stop_iff ([.owner (.start ⟨(), ()⟩), .workerCreationsSettled
      (.settled [.attempted (.accepted (.established 1 .birth (7 : ℕ)))])] :
      List (ProxyEvent numbers Unit)) ⟨1, 0⟩ ⟨1, .ok .normal, 0⟩ rfl rfl rfl).mpr
    fun start h => by cases h

/-- A worker that stops before its creation settles, after the owner has shut the proxy down: the
stop is handed back, and the worker is asked to shut down when its creation settles. -/
theorem draining_creation_loses_stop :
    (run [.owner (.start ⟨(), ()⟩), .owner .shutdown] : Journal numbers Unit).proxy.state.tenant =
      some ⟨1, 0⟩ ∧
    (run [.owner (.start ⟨(), ()⟩), .owner .shutdown] : Journal numbers Unit).proxy.state.held.isNone ∧
    ¬ KeepsStop Unit (run [.owner (.start ⟨(), ()⟩), .owner .shutdown] :
        Journal numbers Unit).proxy ⟨1, 0⟩ ⟨1, .ok .normal, 0⟩ ∧
    ((run [.owner (.start ⟨(), ()⟩), .owner .shutdown, .workerStopped ⟨1, .ok .normal, 0⟩] :
        Journal numbers Unit).proxy.transition (.workerCreationsSettled
          (.settled [.attempted (.accepted (.established 1 .birth (7 : ℕ)))])) :
        Acted numbers Unit).2.workerShutdowns.map ShutdownEstablished.id = [1] := by
  refine ⟨rfl, rfl, fun hkeeps => ?_, rfl⟩
  have htaken := hkeeps.taken
  cases htaken

end Bombay.Proxy
