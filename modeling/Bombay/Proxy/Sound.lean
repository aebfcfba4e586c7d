/-
# What holds of every state of a stable proxy

The numbers of a state are in order: the attempt it is about was issued, a
predecessor it still waits for came before that attempt, a departure asked for the
shutdown of its own worker, and a successor that waits to be created came after
everybody else.  Every turn keeps this, so it holds along every run.
-/

import Bombay.Proxy.Owed

namespace Bombay.Proxy

variable {S : Signature} {Message : Type}

/-- Nothing is asked of what is not there. -/
theorem absent {α : Type*} {value : Option α} {P : α → Prop} (h : value = none) :
    ∀ a, value = some a → P a := by
  intro a ha
  rw [h] at ha
  cases ha

/-- **What holds of every reachable proxy.** -/
structure Sound (proxy : StableProxy S) : Prop where
  past : ∀ attempt, proxy.state.tenant = some attempt → proxy.creations.Past attempt.creation
  awaited : ∀ id, proxy.state.awaits = some id →
    ∀ attempt, proxy.state.tenant = some attempt → id < attempt.creation
  departing : ∀ departure id, proxy.state.departure = some departure →
    departure.shutdown = .requested id → id = departure.worker.attempt.creation
  unborn : ∀ successor creation, proxy.state.unborn = some (successor, creation) →
    (creation.id = successor.creation ∧ creation.kind = successor.kind) ∧
      proxy.creations.Past successor.creation ∧
        ∀ attempt, proxy.state.tenant = some attempt → attempt.creation < successor.creation
  predecessor : ∀ departure successor creation,
    proxy.state = .replacing (.returningPredecessor departure successor creation) →
      departure.stopped = none
  unsettled : ∀ start, proxy.state.unsettled = some start →
    ∃ worker held, start.phase = .creating worker held

theorem sound_new : Sound (StableProxy.new : StableProxy S) where
  past := absent rfl
  awaited := absent rfl
  departing departure id h := by cases h
  unborn successor creation h := by cases h
  predecessor departure successor creation h := by cases h
  unsettled := absent rfl

/-- A conclusion is sound when its worker and the predecessor it waits for are. -/
theorem Concludes.sound {proxy : StableProxy S} {due : List Due} {awaited : Option ℕ}
    {worker : Option WorkerAttempt} {acted : Acted S Message}
    (h : Concludes proxy due awaited worker acted)
    (hpast : ∀ attempt, worker = some attempt → proxy.creations.Past attempt.creation)
    (hawaited : ∀ id, awaited = some id →
      ∀ attempt, worker = some attempt → id < attempt.creation) :
    Sound acted.1 where
  past attempt hattempt := by
    rw [h.creations]
    exact hpast attempt (h.tenant attempt hattempt)
  awaited id hid attempt hattempt :=
    hawaited id (h.awaits ▸ hid) attempt (h.tenant attempt hattempt)
  departing departure id hdeparture := by
    rw [h.departure] at hdeparture
    cases hdeparture
  unborn successor creation hunborn := by
    rw [h.unborn] at hunborn
    cases hunborn
  predecessor departure successor creation hstate := by
    have hnone := h.unborn
    rw [hstate] at hnone
    cases hnone
  unsettled := absent h.unsettled

/-- A departure, if there is one, asked for the shutdown of its own worker. -/
def OwnDeparture (departure : Option (WorkerStopping S)) : Prop :=
  ∀ gone id, departure = some gone → gone.shutdown = .requested id →
    id = gone.worker.attempt.creation

theorem ownDeparture_none : OwnDeparture (none : Option (WorkerStopping S)) := nofun

theorem CurrentWorker.ownDeparture (worker : CurrentWorker S) :
    OwnDeparture (some worker.departure) := by
  rintro gone id ⟨⟩ ⟨⟩
  rfl

/-- A successor that is started at last. -/
theorem startSuccessorAfterStop_sound {self : StableProxy S} {departure : WorkerStopping S}
    {successor : PendingWorker S} {creation : CreateChild S} {predecessor : PredecessorShutdown}
    {replaces : WorkerAttempt} {stopped : ChildStopped S} (hsound : Sound self)
    (hstate : self.state = .replacing (.returningPredecessor departure successor creation))
    (hpredecessor : ∀ id, predecessor = .awaiting id → departure.shutdown = .requested id) :
    Sound (startSuccessorAfterStop self replaces predecessor successor creation stopped :
      Acted S Message).1 := by
  obtain ⟨-, hpast, hlt⟩ := hsound.unborn successor creation (by rw [hstate]; rfl)
  refine ⟨?_, ?_, ownDeparture_none, fun _ _ h => ?_, fun _ _ _ h => ?_, absent rfl⟩
  · rintro attempt ⟨⟩
    exact hpast
  · rintro id hid attempt ⟨⟩
    cases predecessor with
    | settled => cases hid
    | awaiting awaited =>
      cases hid
      have hrequested := hpredecessor id rfl
      rw [hsound.departing departure id (by rw [hstate]; rfl) hrequested]
      exact hlt departure.worker.attempt (by rw [hstate]; rfl)
  · cases h
  · cases h

/-- **A state that is about the same worker, and waits for no other predecessor, is sound.** -/
theorem Sound.move {self : StableProxy S} (hsound : Sound self) {state : ProxyState S} {heap : ℕ}
    (htenant : ∀ attempt, state.tenant = some attempt → self.state.tenant = some attempt)
    (hawaits : ∀ id, state.awaits = some id → self.state.awaits = some id)
    (hdeparture : OwnDeparture state.departure) (hunborn : state.unborn = none)
    (hunsettled : ∀ start, state.unsettled = some start →
      ∃ worker held, start.phase = .creating worker held) :
    Sound ⟨state, self.creations, heap⟩ where
  past attempt hattempt := hsound.past attempt (htenant attempt hattempt)
  awaited id hid attempt hattempt :=
    hsound.awaited id (hawaits id hid) attempt (htenant attempt hattempt)
  departing := hdeparture
  unborn successor creation h := by
    rw [hunborn] at h
    cases h
  predecessor departure successor creation h := by
    have h' : state = .replacing (.returningPredecessor departure successor creation) := h
    rw [h'] at hunborn
    cases hunborn
  unsettled := hunsettled

/-- A state that starts with a fresh number is sound. -/
theorem sound_fresh {creations rest : Sequence} {heap id : ℕ} {kind : WorkerStartKind}
    {worker : PendingWorker S} (hissue : creations.issue = some (id, rest))
    (hid : worker.attempt.creation = id) (hkind : kind.awaits = none) :
    Sound ⟨.starting ⟨kind, .creating worker none⟩, rest, heap⟩ where
  past := by
    rintro attempt ⟨⟩
    show rest.Past worker.attempt.creation
    rw [hid]
    exact Sequence.issue_past hissue
  awaited id h := by
    have h' : kind.awaits = some id := h
    rw [hkind] at h'
    cases h'
  departing := ownDeparture_none
  unborn successor creation h := by cases h
  predecessor departure successor creation h := by cases h
  unsettled := absent rfl

variable {self : StableProxy S} {acted : Acted S Message}

theorem Orders.sound {control : ProxyCommand S} (h : Orders self control acted)
    (hsound : Sound self) : Sound acted.1 := by
  cases h with
  | begun hissue | revived hissue => exact sound_fresh hissue rfl rfl
  | @replaced submission worker creations rest heap id hissue =>
    have hpast := hsound.past worker.attempt rfl
    refine ⟨?_, absent rfl, worker.ownDeparture, ?_, ?_, absent rfl⟩
    · rintro attempt ⟨⟩
      exact hpast.issue hissue
    · rintro successor creation ⟨⟩
      refine ⟨⟨rfl, rfl⟩, Sequence.issue_past hissue, ?_⟩
      rintro attempt ⟨⟩
      exact hpast.ne_issue hissue
    · rintro departure successor creation ⟨⟩
      rfl
  | closed hempty => exact hsound.move (absent rfl) (absent rfl) ownDeparture_none rfl (absent rfl)
  | @dismissed worker =>
    exact hsound.move (fun _ h => h) (absent rfl) worker.ownDeparture rfl (absent rfl)
  | creatingShut =>
    refine hsound.move (fun _ h => h) (fun _ h => h) ownDeparture_none rfl ?_
    rintro start ⟨⟩
    exact ⟨_, _, rfl⟩
  | @initializingShut kind worker =>
    exact hsound.move (fun _ h => h) (fun _ h => h) worker.ownDeparture rfl (absent rfl)
  | initializingHeldShut | startingHeldShut =>
    exact hsound.move (fun _ h => h) (fun _ h => h) ownDeparture_none rfl (absent rfl)
  | @startingShut kind worker =>
    exact hsound.move (fun _ h => h) (fun _ h => h) worker.ownDeparture rfl (absent rfl)
  | returningShut => exact hsound.move (fun _ h => h) (fun _ h => h) hsound.departing rfl (absent rfl)
  | cancelled => exact hsound.move (fun _ h => h) (absent rfl) hsound.departing rfl (absent rfl)
  | @successorShut replaces shutdown worker =>
    exact hsound.move (fun _ h => h) (fun _ h => h) worker.ownDeparture rfl (absent rfl)
  | completionShut hready =>
    exact hsound.move (absent rfl) (fun _ h => h) ownDeparture_none rfl (absent rfl)

theorem Creates.sound {workers : CreationsSettled S} (h : Creates self workers acted)
    (hsound : Sound self) : Sound acted.1 := by
  cases h with
  | established hreads | establishedHeldShut hreads =>
    cases hreads
    exact hsound.move (fun _ h => h) (fun _ h => h) ownDeparture_none rfl (absent rfl)
  | rejected hstate hreads =>
    exact (workerCreationRejected_concludes self _ _).sound (absent rfl) fun _ _ => absent rfl
  | @establishedShut kind worker current startup held workers creations heap hreads =>
    cases hreads
    exact hsound.move (fun _ h => h) (fun _ h => h) (CurrentWorker.ownDeparture _) rfl (absent rfl)
  | rejectedShut hstate hreads =>
    exact (finishStartRetirement_concludes self _ _).sound (absent rfl) fun _ _ => absent rfl

theorem Initializes.sound {report : WorkerInitializationReport S}
    (h : Initializes self report acted) (hsound : Sound self) : Sound acted.1 := by
  cases h with
  | initialized hattempt hinitialization =>
    exact hsound.move (fun _ h => h) (fun _ h => h) ownDeparture_none rfl (absent rfl)
  | stillborn hstate hadmits hstillborn =>
    exact (workerStartEmpty_concludes self _ _ _).sound (absent rfl) fun _ _ => absent rfl
  | @uninitialized kind worker =>
    exact hsound.move (fun _ h => h) (fun _ h => h) worker.ownDeparture rfl (absent rfl)
  | @retained kind departure departure' report retirement creations heap hadmits hretains =>
    have hsame : departure'.worker = departure.worker ∧ departure'.shutdown = departure.shutdown := by
      cases hretains <;> exact ⟨rfl, rfl⟩
    refine hsound.move ?_ (fun _ h => h) ?_ rfl (absent rfl)
    · rintro attempt ⟨⟩
      exact congrArg (some ·.attempt) hsame.1.symm
    · rintro gone id ⟨⟩ hrequested
      rw [hsame.1]
      exact hsound.departing departure id rfl (hsame.2 ▸ hrequested)
  | returnedStopped hstate hadmits hnone hsettled hchild
  | lateInitialized hstate hadmits hclassified =>
    exact (finishStartRetirement_concludes self _ _).sound (absent rfl) fun _ _ => absent rfl

theorem Starts.sound {input : WorkerStartup S} (h : Starts self input acted)
    (hsound : Sound self) : Sound acted.1 := by
  cases h with
  | started => exact hsound.move (fun _ h => h) (fun _ h => h) ownDeparture_none rfl (absent rfl)
  | @failed kind worker =>
    exact hsound.move (fun _ h => h) (fun _ h => h) worker.ownDeparture rfl (absent rfl)
  | ended hstate hends =>
    exact (workerStartEmpty_concludes self _ _ _).sound (absent rfl) fun _ _ => absent rfl
  | ready hstate =>
    refine (workerStartReady_concludes self _ _ _).sound ?_ ?_
    · rintro attempt ⟨⟩
      exact hsound.past _ (by rw [hstate]; rfl)
    · rintro id hid attempt ⟨⟩
      exact hsound.awaited id (by rw [hstate]; exact hid) _ (by rw [hstate]; rfl)
  | advanced hadmits hadvance =>
    exact hsound.move (fun _ h => h) (fun _ h => h) hsound.departing rfl (absent rfl)
  | lateStarted hadmits hadvance =>
    exact hsound.move (fun _ h => h) (fun _ h => h) ownDeparture_none rfl (absent rfl)
  | lateReturned hstate hadmits hadvance =>
    exact (finishStartRetirement_concludes self _ _).sound (absent rfl) fun _ _ => absent rfl

/-- What a departure becomes in its place is sound. -/
theorem Leaving.state_sound {place : Leaving S} {departure departure' : WorkerStopping S}
    {creations : Sequence} {heap : ℕ} (hsound : Sound ⟨place.state departure, creations, heap⟩)
    (hworker : departure'.worker = departure.worker)
    (hrequested : ∀ id, departure'.shutdown = .requested id → departure.shutdown = .requested id)
    (hheld : place.isPredecessor = true → departure'.stopped = none) :
    Sound ⟨place.state departure', creations, heap⟩ where
  past := by simpa [hworker] using hsound.past
  awaited := by simpa [hworker] using hsound.awaited
  departing gone id hgone hid := by
    simp only [Leaving.state_departure, Option.some.injEq] at hgone
    subst hgone
    rw [hworker]
    exact hsound.departing departure id (place.state_departure departure) (hrequested id hid)
  unborn := by simpa [hworker] using hsound.unborn
  predecessor gone successor creation hstate := by
    cases place with
    | returningPredecessor _ _ =>
      cases hstate
      exact hheld rfl
    | _ => nomatch hstate
  unsettled := absent (place.state_unsettled departure')

/-- What happens once a worker has left is sound. -/
theorem Leaving.left_sound {place : Leaving S} {departure settlement stopped} (hsound : Sound self)
    (hstate : self.state = place.state departure) :
    Sound (place.left self ⟨departure.worker, settlement, stopped⟩ : Acted S Message).1 := by
  cases hplace : place.isPredecessor with
  | false =>
    refine (place.left_concludes self hplace _).sound ?_ ?_
    · rintro attempt ⟨⟩
      exact hsound.past _ (by rw [hstate]; exact place.state_tenant departure)
    · rintro id hid attempt ⟨⟩
      exact hsound.awaited id (by rw [hstate, place.state_awaits]; exact hid) _
        (by rw [hstate]; exact place.state_tenant departure)
  | true =>
    obtain ⟨successor, creation, rfl⟩ := Leaving.eq_returningPredecessor hplace
    exact startSuccessorAfterStop_sound hsound hstate fun id h => by cases h

theorem Settles.sound {settlement : EstablishedShutdownResolved}
    (h : Settles self settlement acted) (hsound : Sound self) : Sound acted.1 := by
  cases h with
  | @predecessorSettled replaces phase =>
    cases phase <;> exact hsound.move (fun _ h => h) (absent rfl) hsound.departing rfl (absent rfl)
  | @published replaces completion _ _ hstate =>
    refine (publishReplacement_concludes self _ completion).sound ?_ (absent rfl)
    intro attempt hattempt
    exact hsound.past attempt (by rw [hstate]; exact hattempt)
  | predecessorReturned =>
    exact hsound.move (fun _ h => h) (absent rfl) hsound.departing rfl (absent rfl)
  | predecessorLast => exact hsound.move (absent rfl) (absent rfl) ownDeparture_none rfl (absent rfl)
  | settled hrequested hnone => exact Leaving.state_sound hsound rfl nofun fun _ => hnone
  | settledLast hstate hrequested hheld => exact Leaving.left_sound hsound hstate

theorem Stops.sound {stopped : ChildStopped S} (h : Stops self stopped acted)
    (hsound : Sound self) : Sound acted.1 := by
  cases h with
  | creatingStopped hchild | initializingStopped hchild | startingStopped hchild
  | successorStopped hchild =>
    exact hsound.move (fun _ h => h) (fun _ h => h) ownDeparture_none rfl (absent rfl)
  | readyStopped hchild =>
    exact hsound.move (absent rfl) (absent rfl) ownDeparture_none rfl (absent rfl)
  | predecessorStopped hstate hrequested hnone hchild =>
    refine startSuccessorAfterStop_sound hsound hstate ?_
    rintro id ⟨⟩
    exact hrequested
  | held hplace hrequested hnone hchild =>
    refine Leaving.state_sound hsound rfl (fun _ h => h) fun htrue => ?_
    rw [hplace] at htrue
    cases htrue
  | stoppedLast hstate hsettled hnone hchild => exact Leaving.left_sound hsound hstate

/-- **A turn keeps a proxy sound.** -/
theorem Turn.sound {event} (h : Turn self event acted) (hsound : Sound self) : Sound acted.1 := by
  cases h with
  | stays h => exact hsound
  | ordered h | created h | initialized h | started h | settled h | stopped h =>
    exact h.sound hsound

end Bombay.Proxy
