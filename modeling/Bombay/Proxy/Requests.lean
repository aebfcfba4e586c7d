/-
# What a stable proxy asks for, and when

Each lane of a transition holds at most one request.  It is about the attempt that
the state is about, it is made at one step of that attempt, and the event of the
transition is the fact that authorises it.
-/

import Bombay.Proxy.Stages

namespace Bombay.Proxy

variable {S : Signature} {Message : Type}

/-- The fact that authorises the shutdown of a worker: it is replaced, the owner shuts the proxy
down, its initialization or its startup failed, or it is established while the proxy shuts
down. -/
inductive Dismissal (state : ProxyState S) : ProxyEvent S Message → Prop
  | replaced {worker submission} (hready : state = .ready worker) :
      Dismissal state (.owner (.replace submission))
  | closed : Dismissal state (.owner .shutdown)
  | uninitialized {worker initialization startup failure} :
      Dismissal state (.workerInitialization (.effectsRejected worker initialization startup failure))
  | refused {worker startup request reason} :
      Dismissal state (.workerStartupReported ⟨worker, startup, .startRejected request reason⟩)
  | rejected {worker startup rejection} :
      Dismissal state (.workerStartupReported ⟨worker, startup, .rejected rejection⟩)
  | established {start settlement actor}
      (hshutdown : state = .shuttingDown (.waitingForCreation start))
      (hsettled : settleWorkerCreation settlement = .established actor) :
      Dismissal state (.workerCreationsSettled (.settled [settlement]))

variable (entry : Entry S Message)

/-- A creation is asked for with its observation, for an attempt that was not created before. -/
def Births : Prop :=
  (entry.actions.creations = [] ∧ entry.actions.workerObservations = []) ∨
  ∃ creation, entry.actions.creations = [creation] ∧
    entry.actions.workerObservations = [creation.id] ∧
    entry.before.stage creation.id ≤ 1 ∧ entry.after.stage creation.id = 2

/-- An initialization is asked for when the creation of its worker is established. -/
def Installs : Prop :=
  entry.actions.workerInitializations = [] ∨
  ∃ request settlement actor, entry.actions.workerInitializations = [request] ∧
    entry.event = .workerCreationsSettled (.settled [settlement]) ∧
    (creationIdentity settlement).1 = request.worker.creation ∧
    settleWorkerCreation settlement = .established actor ∧
    entry.before.stage request.worker.creation = 2 ∧ 3 ≤ entry.after.stage request.worker.creation

/-- A startup is asked for when its worker is ready for it, and no stop of it is held. -/
def Begins : Prop :=
  entry.actions.workerStartups = [] ∨
  ∃ request attempt initialization startup permit, entry.actions.workerStartups = [request] ∧
    entry.event = .workerInitialization (.readyForStartup attempt initialization startup permit) ∧
    entry.before.state.tenant = some attempt ∧ entry.before.state.held = none ∧
    entry.before.stage attempt.creation = 3 ∧ entry.after.stage attempt.creation = 4

/-- A shutdown is asked for of the worker a state is about, whose stop it does not hold. -/
def Dismisses : Prop :=
  entry.actions.workerShutdowns = [] ∨
  ∃ request attempt, entry.actions.workerShutdowns = [request] ∧ request.id = attempt.creation ∧
    Dismissal entry.before.state entry.event ∧
    entry.before.state.tenant = some attempt ∧ entry.before.state.held = none ∧
    entry.before.stage attempt.creation ≤ 6 ∧ entry.after.stage attempt.creation = 7

/-- **What a transition asks for.** -/
structure Asks (entry : Entry S Message) : Prop where
  births : Births entry
  installs : Installs entry
  begins : Begins entry
  dismisses : Dismisses entry

variable {self : StableProxy S} {acted : Acted S Message} {event : ProxyEvent S Message}

/-- A quiet transition asks for nothing. -/
theorem ProxyActions.Quiet.asks (h : acted.2.Quiet) : Asks (record self event acted) :=
  ⟨.inl ⟨h.creations, h.observations⟩, .inl h.initializations, .inl h.startups, .inl h.shutdowns⟩

theorem Stays.asks {actions} (h : Stays self event actions) :
    Asks (record self event (self, actions)) := by
  cases h <;> exact ⟨.inl ⟨rfl, rfl⟩, .inl rfl, .inl rfl, .inl rfl⟩

/-- A creation that is asked for at once. -/
theorem asks_fresh {state creations rest heap heap' id kind worker creation}
    (hsound : Sound ⟨state, creations, heap⟩) (hissue : creations.issue = some (id, rest))
    (hworker : worker.creation = id) (hcreation : creation.id = id) :
    Asks (record ⟨state, creations, heap⟩ event
      (⟨.starting ⟨kind, .creating worker none⟩, rest, heap'⟩, .createWorker id creation)) := by
  refine ⟨.inr ⟨creation, rfl, by simp [hcreation], ?_, ?_⟩, .inl rfl, .inl rfl, .inl rfl⟩
  · have hfresh : ¬ creations.Past creation.id := by
      intro hpast
      have := hpast.ne_issue hissue
      omega
    have hstage := StableProxy.stage_fresh hsound hfresh
    show StableProxy.stage ⟨state, creations, heap⟩ creation.id ≤ 1
    omega
  · have hid : creation.id = worker.attempt.creation := hcreation.trans hworker.symm
    rw [hid]
    exact StableProxy.stage_tenant rfl

/-- A shutdown that is asked for of the worker a state is about. -/
theorem asks_shutdown {state state' creations creations' heap heap'} {worker : CurrentWorker S}
    (hdismissal : Dismissal state event) (htenant : state.tenant = some worker.attempt)
    (hheld : state.held = none) (hlevel : state.level ≤ 6)
    (htenant' : state'.tenant = some worker.attempt) (hlevel' : state'.level = 7) :
    Asks (record ⟨state, creations, heap⟩ event
      (⟨state', creations', heap'⟩, .requestWorkerShutdown worker.shutdown)) := by
  refine ⟨.inl ⟨rfl, rfl⟩, .inl rfl, .inl rfl,
    .inr ⟨worker.shutdown, worker.attempt, rfl, rfl, hdismissal, htenant, hheld, ?_, ?_⟩⟩
  · rw [show (record ⟨state, creations, heap⟩ event _).before.stage _ = _ from
      StableProxy.stage_tenant htenant]
    exact hlevel
  · exact (StableProxy.stage_tenant htenant').trans hlevel'

theorem Orders.asks {control : ProxyCommand S} (h : Orders self control acted)
    (hsound : Sound self) : Asks (record self (.owner control) acted) := by
  cases h with
  | begun hissue | revived hissue => exact asks_fresh hsound hissue rfl rfl
  | replaced hissue =>
    exact asks_shutdown (.replaced rfl) rfl rfl (Nat.le_of_ble_eq_true rfl) rfl rfl
  | closed hempty => exact ProxyActions.Quiet.stop.asks
  | dismissed | initializingShut | startingShut | successorShut =>
    exact asks_shutdown .closed rfl rfl (Nat.le_of_ble_eq_true rfl) rfl rfl
  | creatingShut | initializingHeldShut | startingHeldShut | returningShut
  | completionShut hready => exact ProxyActions.Quiet.cont.asks
  | cancelled => exact (ProxyActions.Quiet.report _).asks

theorem Creates.asks {workers} (h : Creates self workers acted) :
    Asks (record self (.workerCreationsSettled workers) acted) := by
  cases h with
  | established hreads | establishedHeldShut hreads =>
    cases hreads with
    | @established settlement actor hidentity hsettled =>
      refine ⟨.inl ⟨rfl, rfl⟩, .inr ⟨_, settlement, actor, rfl, rfl, ?_, hsettled, ?_, ?_⟩, .inl rfl,
        .inl rfl⟩
      · exact congrArg Prod.fst hidentity
      · exact StableProxy.stage_tenant rfl
      · exact le_trans (Nat.le_of_ble_eq_true rfl) (le_of_eq (StableProxy.stage_tenant rfl).symm)
  | rejected hstate hreads => exact (workerCreationRejected_concludes self _ _).quiet.asks
  | establishedShut hreads =>
    cases hreads with
    | @established settlement actor hidentity hsettled =>
      refine ⟨.inl ⟨rfl, rfl⟩, .inr ⟨_, settlement, actor, rfl, rfl, ?_, hsettled, ?_, ?_⟩, .inl rfl,
        .inr ⟨_, _, rfl, rfl, .established rfl hsettled, rfl, rfl, ?_, ?_⟩⟩
      · exact congrArg Prod.fst hidentity
      · exact StableProxy.stage_tenant rfl
      · exact le_trans (Nat.le_of_ble_eq_true rfl) (le_of_eq (StableProxy.stage_tenant rfl).symm)
      · exact le_trans (le_of_eq (StableProxy.stage_tenant rfl)) (Nat.le_of_ble_eq_true rfl)
      · exact StableProxy.stage_tenant rfl
  | rejectedShut hstate hreads => exact (finishStartRetirement_concludes self _ _).quiet.asks

theorem Initializes.asks {report : WorkerInitializationReport S}
    (h : Initializes self report acted) :
    Asks (record self (.workerInitialization report) acted) := by
  cases h with
  | @initialized kind worker attempt initialization startup permit creations heap hattempt
      hinitialization =>
    subst hattempt
    refine ⟨.inl ⟨rfl, rfl⟩, .inl rfl, .inr ⟨_, worker.attempt, initialization, startup, permit, rfl,
      rfl, rfl, rfl, ?_, ?_⟩, .inl rfl⟩
    · exact StableProxy.stage_tenant rfl
    · exact StableProxy.stage_tenant rfl
  | stillborn hstate hadmits hstillborn => exact (workerStartEmpty_concludes self _ _ _).quiet.asks
  | uninitialized hattempt hinitialization =>
    exact asks_shutdown .uninitialized rfl rfl (Nat.le_of_ble_eq_true rfl) rfl rfl
  | retained hadmits hretains => exact ProxyActions.Quiet.cont.asks
  | returnedStopped hstate hadmits hnone hsettled hchild
  | lateInitialized hstate hadmits hclassified =>
    exact (finishStartRetirement_concludes self _ _).quiet.asks

theorem Starts.asks {input : WorkerStartup S} (h : Starts self input acted) :
    Asks (record self (.workerStartupReported input) acted) := by
  cases h with
  | started | advanced hadmits hadvance | lateStarted hadmits hadvance =>
    exact ProxyActions.Quiet.cont.asks
  | failed hfails =>
    cases hfails with
    | refused => exact asks_shutdown .refused rfl rfl (Nat.le_of_ble_eq_true rfl) rfl rfl
    | rejected => exact asks_shutdown .rejected rfl rfl (Nat.le_of_ble_eq_true rfl) rfl rfl
  | ended hstate hends => exact (workerStartEmpty_concludes self _ _ _).quiet.asks
  | ready hstate => exact (workerStartReady_concludes self _ _ _).quiet.asks
  | lateReturned hstate hadmits hadvance =>
    exact (finishStartRetirement_concludes self _ _).quiet.asks

/-- A successor that is created at last. -/
theorem startSuccessorAfterStop_asks {departure successor creation predecessor replaces stopped}
    (hsound : Sound self)
    (hstate : self.state = .replacing (.returningPredecessor departure successor creation)) :
    Asks (record self event
      (startSuccessorAfterStop self replaces predecessor successor creation stopped)) := by
  have hunborn : self.state.unborn = some (successor, creation) := by
    rw [hstate]
    rfl
  obtain ⟨⟨hid, -⟩, -, -⟩ := hsound.unborn successor creation hunborn
  refine ⟨.inr ⟨creation, rfl, by simp [startSuccessorAfterStop, hid], ?_, ?_⟩, .inl rfl, .inl rfl,
    .inl rfl⟩
  · rw [hid]
    exact le_of_eq (StableProxy.stage_unborn hsound hunborn)
  · rw [hid]
    exact StableProxy.stage_tenant rfl

theorem Leaving.left_asks {place : Leaving S} {departure gone} (hsound : Sound self)
    (hstate : self.state = place.state departure) :
    Asks (record self event (place.left self gone)) := by
  cases hplace : place.isPredecessor with
  | false => exact (Leaving.left_concludes self hplace gone).quiet.asks
  | true =>
    obtain ⟨successor, creation, rfl⟩ := Leaving.eq_returningPredecessor hplace
    exact startSuccessorAfterStop_asks hsound hstate

theorem Settles.asks {settlement : EstablishedShutdownResolved}
    (h : Settles self settlement acted) (hsound : Sound self) :
    Asks (record self (.workerShutdownResolved settlement) acted) := by
  cases h with
  | predecessorSettled | predecessorReturned | settled hrequested hnone =>
    exact ProxyActions.Quiet.cont.asks
  | published hstate => exact (publishReplacement_concludes self _ _).quiet.asks
  | predecessorLast => exact ProxyActions.Quiet.stop.asks
  | settledLast hstate hrequested hheld => exact Leaving.left_asks hsound hstate

theorem Stops.asks {stopped : ChildStopped S} (h : Stops self stopped acted)
    (hsound : Sound self) : Asks (record self (.workerStopped stopped) acted) := by
  cases h with
  | creatingStopped hchild | initializingStopped hchild | startingStopped hchild
  | successorStopped hchild | held hplace hrequested hnone hchild =>
    exact ProxyActions.Quiet.cont.asks
  | readyStopped hchild => exact (ProxyActions.Quiet.report _).asks
  | predecessorStopped hstate hrequested hnone hchild =>
    exact startSuccessorAfterStop_asks hsound hstate
  | stoppedLast hstate hsettled hnone hchild => exact Leaving.left_asks hsound hstate

/-- **Every transition asks for what its event authorises.** -/
theorem Turn.asks (h : Turn self event acted) (hsound : Sound self) :
    Asks (record self event acted) := by
  cases h with
  | stays h => exact h.asks
  | ordered h | settled h | stopped h => exact h.asks hsound
  | created h => exact h.asks
  | initialized h => exact h.asks
  | started h => exact h.asks

theorem Entry.Valid.asks {entry : Entry S Message} (h : entry.Valid) : Asks entry :=
  h.turn.asks h.sound

theorem Entry.Valid.stage_le {entry : Entry S Message} (h : entry.Valid) (creation : ℕ) :
    entry.before.stage creation ≤ entry.after.stage creation :=
  h.turn.succeeds.stage_le h.sound h.sound_after creation

end Bombay.Proxy
