/-
# The stages of an attempt

Along a run the attempt behind a creation number only moves forward: it is not
issued yet, it waits to be created, it is created, initialized, started, resolved
and published as ready; then it departs and is gone.  Every request about it is made
at one of these steps, so it is made once.
-/

import Bombay.Proxy.Runs

namespace Bombay.Proxy

variable {S : Signature} {Message : Type}

/-- How far the attempt of a start has come. -/
def WorkerStartPhase.level : WorkerStartPhase S → ℕ
  | .creating _ _ => 2
  | .initializing _ _ => 3
  | .starting _ _ _ => 4
  | .returningWorker _ _ => 7

/-- How far the attempt has come that a state is about: `2` created, `3` initialized, `4`
started, `5` resolved, `6` published as ready, `7` departing. -/
def ProxyState.level : ProxyState S → ℕ
  | .starting start => start.phase.level
  | .ready _ => 6
  | .replacing (.returningPredecessor _ _ _) => 7
  | .replacing (.successorResultAwaitingShutdown _ _ _) => 5
  | .shuttingDown (.waitingForCreation start) => start.phase.level
  | .shuttingDown _ => 7
  | _ => 8

/-- **The stage of the attempt with a creation number**: `0` not issued, `1` not created yet,
`8` gone. -/
def StableProxy.stage (proxy : StableProxy S) (creation : ℕ) : ℕ :=
  if proxy.state.tenant.map WorkerAttempt.creation = some creation then proxy.state.level
  else if proxy.state.unborn.map (fun unborn => unborn.1.creation) = some creation then 1
  else
    match proxy.creations.next with
    | none => 8
    | some next => if creation < next then 8 else 0

section Stage

variable {proxy : StableProxy S} {creation : ℕ}

theorem StableProxy.stage_tenant {attempt} (h : proxy.state.tenant = some attempt) :
    proxy.stage attempt.creation = proxy.state.level := by
  simp [stage, h]

theorem StableProxy.stage_unborn (hsound : Sound proxy) {successor creation}
    (h : proxy.state.unborn = some (successor, creation)) :
    proxy.stage successor.creation = 1 := by
  have hne : proxy.state.tenant.map WorkerAttempt.creation ≠ some successor.creation := by
    intro htenant
    obtain ⟨attempt, hattempt, heq⟩ := Option.map_eq_some_iff.mp htenant
    have hlt := (hsound.unborn successor creation h).2.2 attempt hattempt
    omega
  simp [stage, h, hne]

/-- An attempt that is not issued yet. -/
theorem StableProxy.stage_fresh (hsound : Sound proxy) (h : ¬ proxy.creations.Past creation) :
    proxy.stage creation = 0 := by
  have htenant : proxy.state.tenant.map WorkerAttempt.creation ≠ some creation := by
    intro htenant
    obtain ⟨attempt, hattempt, rfl⟩ := Option.map_eq_some_iff.mp htenant
    exact h (hsound.past attempt hattempt)
  have hunborn : proxy.state.unborn.map (fun unborn => unborn.1.creation) ≠ some creation := by
    intro hunborn
    obtain ⟨⟨successor, request⟩, hpair, rfl⟩ := Option.map_eq_some_iff.mp hunborn
    exact h (hsound.unborn successor request hpair).2.1
  simp only [stage, htenant, hunborn, if_false]
  cases hnext : proxy.creations.next with
  | none =>
    refine absurd ?_ h
    intro next hmem
    simp [hnext] at hmem
  | some next =>
    have hge : ¬ creation < next := by
      intro hlt
      refine h ?_
      intro other hmem
      obtain rfl : next = other := by simpa [hnext] using hmem
      exact hlt
    simp [hge]

/-- An attempt that was issued, and that the state does not know any more. -/
theorem StableProxy.stage_gone (hpast : proxy.creations.Past creation)
    (htenant : ∀ attempt, proxy.state.tenant = some attempt → attempt.creation ≠ creation)
    (hunborn : ∀ successor request, proxy.state.unborn = some (successor, request) →
      successor.creation ≠ creation) : proxy.stage creation = 8 := by
  have htenant' : proxy.state.tenant.map WorkerAttempt.creation ≠ some creation := by
    intro h
    obtain ⟨attempt, hattempt, heq⟩ := Option.map_eq_some_iff.mp h
    exact htenant attempt hattempt heq
  have hunborn' : proxy.state.unborn.map (fun unborn => unborn.1.creation) ≠ some creation := by
    intro h
    obtain ⟨⟨successor, request⟩, hpair, heq⟩ := Option.map_eq_some_iff.mp h
    exact hunborn successor request hpair heq
  simp only [stage, htenant', hunborn', if_false]
  cases hnext : proxy.creations.next with
  | none => rfl
  | some next =>
    have hlt := hpast next (by simp [hnext])
    simp [hlt]

end Stage

/-! ### What becomes of an attempt in one turn -/

/-- **Attempts only move forward**: the one a state is about afterwards was there before and has
come as far, or it has just been created; the one that waits to be created waited before, or it
has just been issued. -/
structure Succeeds (before after : StableProxy S) : Prop where
  past : ∀ creation, before.creations.Past creation → after.creations.Past creation
  unborn : ∀ successor request, after.state.unborn = some (successor, request) →
    before.state.unborn = some (successor, request) ∨ ¬ before.creations.Past successor.creation
  tenant : ∀ attempt, after.state.tenant = some attempt →
    (before.state.tenant = some attempt ∧ before.state.level ≤ after.state.level ∧
      (before.state.held.isSome → after.state.held.isSome)) ∨
    (after.state.level = 2 ∧
      ((∃ successor request, before.state.unborn = some (successor, request) ∧
        successor.attempt = attempt) ∨ ¬ before.creations.Past attempt.creation))

theorem WorkerStartPhase.level_le (phase : WorkerStartPhase S) : phase.level ≤ 7 := by
  cases phase <;> exact Nat.le_of_ble_eq_true rfl

theorem ProxyState.level_le (state : ProxyState S) : state.level ≤ 8 := by
  unfold ProxyState.level
  split
  all_goals first | decide | exact (WorkerStartPhase.level_le _).trans (by decide)

theorem ProxyState.two_le_level (state : ProxyState S) : 2 ≤ state.level := by
  have hphase : ∀ phase : WorkerStartPhase S, 2 ≤ phase.level := by
    intro phase
    cases phase <;> exact Nat.le_of_ble_eq_true rfl
  unfold ProxyState.level
  split
  all_goals first | decide | exact hphase _

/-- An attempt that was issued and does not wait to be created was created. -/
theorem StableProxy.two_le_stage {proxy : StableProxy S} {creation}
    (hpast : proxy.creations.Past creation)
    (hunborn : ∀ successor request, proxy.state.unborn = some (successor, request) →
      successor.creation ≠ creation) : 2 ≤ proxy.stage creation := by
  by_cases htenant : ∃ attempt, proxy.state.tenant = some attempt ∧ attempt.creation = creation
  · obtain ⟨attempt, hattempt, rfl⟩ := htenant
    rw [stage_tenant hattempt]
    exact proxy.state.two_le_level
  · rw [stage_gone hpast (fun attempt hattempt heq => htenant ⟨attempt, hattempt, heq⟩) hunborn]
    decide

theorem StableProxy.stage_le (proxy : StableProxy S) (creation : ℕ) : proxy.stage creation ≤ 8 := by
  unfold stage
  split_ifs
  · exact proxy.state.level_le
  · decide
  · split
    · exact le_rfl
    · split_ifs <;> decide

/-- **The stage of an attempt never goes back.** -/
theorem Succeeds.stage_le {before after : StableProxy S} (h : Succeeds before after)
    (hbefore : Sound before) (hafter : Sound after) (creation : ℕ) :
    before.stage creation ≤ after.stage creation := by
  by_cases htenant : ∃ attempt, after.state.tenant = some attempt ∧ attempt.creation = creation
  · obtain ⟨attempt, hattempt, rfl⟩ := htenant
    rw [StableProxy.stage_tenant hattempt]
    rcases h.tenant attempt hattempt with ⟨hsame, hle, -⟩ | ⟨hlevel, hnew | hfresh⟩
    · rw [StableProxy.stage_tenant hsame]
      exact hle
    · obtain ⟨successor, request, hunborn, rfl⟩ := hnew
      have hstage := StableProxy.stage_unborn hbefore hunborn
      rw [PendingWorker.creation] at hstage
      omega
    · rw [StableProxy.stage_fresh hbefore hfresh]
      exact Nat.zero_le _
  by_cases hunborn : ∃ successor request, after.state.unborn = some (successor, request) ∧
      successor.creation = creation
  · obtain ⟨successor, request, hpair, rfl⟩ := hunborn
    rw [StableProxy.stage_unborn hafter hpair]
    rcases h.unborn successor request hpair with hsame | hfresh
    · rw [StableProxy.stage_unborn hbefore hsame]
    · rw [StableProxy.stage_fresh hbefore hfresh]
      exact Nat.zero_le _
  by_cases hpast : before.creations.Past creation
  · rw [StableProxy.stage_gone (h.past creation hpast)
      (fun attempt hattempt heq => htenant ⟨attempt, hattempt, heq⟩)
      (fun successor request hpair heq => hunborn ⟨successor, request, hpair, heq⟩)]
    exact before.stage_le creation
  · rw [StableProxy.stage_fresh hbefore hpast]
    exact Nat.zero_le _

variable {self : StableProxy S} {state : ProxyState S} {heap : ℕ} {departure : WorkerStopping S}

/-- A state that is about the same attempt, which has come as far. -/
theorem Succeeds.move
    (htenant : ∀ attempt, state.tenant = some attempt → self.state.tenant = some attempt ∧
      self.state.level ≤ state.level ∧ (self.state.held.isSome → state.held.isSome))
    (hunborn : ∀ pair, state.unborn = some pair → self.state.unborn = some pair) :
    Succeeds self ⟨state, self.creations, heap⟩ where
  past _ h := h
  unborn _ _ h := .inl (hunborn _ h)
  tenant attempt h := .inl (htenant attempt h)

/-- The worker of a state stays, and comes as far. -/
theorem Succeeds.keep
    (htenant : ∀ attempt, state.tenant = some attempt → self.state.tenant = some attempt)
    (hlevel : self.state.level ≤ state.level)
    (hheld : self.state.held.isSome → state.held.isSome) (hunborn : state.unborn = none) :
    Succeeds self ⟨state, self.creations, heap⟩ :=
  .move (fun attempt h => ⟨htenant attempt h, hlevel, hheld⟩) (absent hunborn)

/-- A start that is concluded without its worker. -/
theorem Concludes.succeeds {due : List Due} {awaited : Option ℕ}
    {acted : Acted S Message} (h : Concludes self due awaited none acted) :
    Succeeds self acted.1 where
  past creation hpast := by
    rw [h.creations]
    exact hpast
  unborn successor request hunborn := by
    rw [h.unborn] at hunborn
    cases hunborn
  tenant attempt htenant := by
    cases h.tenant attempt htenant

variable {self : StableProxy S} {acted : Acted S Message}

/-- A fresh attempt that is created at once. -/
theorem Succeeds.fresh {creations rest heap' id kind worker}
    (hissue : creations.issue = some (id, rest)) (hid : worker.attempt.creation = id) :
    Succeeds ⟨state, creations, heap⟩ ⟨.starting ⟨kind, .creating worker none⟩, rest, heap'⟩ where
  past creation hpast := hpast.issue hissue
  unborn := nofun
  tenant := by
    rintro attempt ⟨⟩
    refine .inr ⟨rfl, .inr ?_⟩
    intro hpast
    have hlt := Sequence.Past.ne_issue hpast hissue
    have hcreation : WorkerStartPhase.tenant (.creating worker none) = worker.attempt := rfl
    rw [hcreation] at hlt
    omega

theorem Orders.succeeds {control} (h : Orders self control acted) :
    Succeeds self acted.1 := by
  cases h with
  | begun hissue | revived hissue => exact .fresh hissue rfl
  | @replaced submission worker creations rest heap id hissue =>
    refine ⟨fun _ hpast => hpast.issue hissue, ?_, ?_⟩
    · rintro successor request ⟨⟩
      refine .inr fun hpast => ?_
      exact lt_irrefl _ (Sequence.Past.ne_issue hpast hissue)
    · rintro attempt ⟨⟩
      exact .inl ⟨rfl, Nat.le_of_ble_eq_true rfl, nofun⟩
  | closed hempty | completionShut hready => exact .move (absent rfl) (absent rfl)
  | dismissed => exact .keep (fun _ h => h) (Nat.le_of_ble_eq_true rfl) nofun rfl
  | creatingShut | initializingShut | initializingHeldShut | startingShut | startingHeldShut
  | returningShut | cancelled | successorShut =>
    exact .keep (fun _ h => h) (Nat.le_of_ble_eq_true rfl) (fun h => h) rfl

theorem Creates.succeeds {workers : CreationsSettled S} (h : Creates self workers acted) :
    Succeeds self acted.1 := by
  cases h with
  | established hreads | establishedShut hreads | establishedHeldShut hreads =>
    cases hreads
    exact .keep (fun _ h => h) (Nat.le_of_ble_eq_true rfl) (fun h => h) rfl
  | rejected hstate hreads => exact (workerCreationRejected_concludes self _ _).succeeds
  | rejectedShut hstate hreads => exact (finishStartRetirement_concludes self _ _).succeeds

theorem Initializes.succeeds {report : WorkerInitializationReport S}
    (h : Initializes self report acted) : Succeeds self acted.1 := by
  cases h with
  | initialized hattempt hinitialization | uninitialized hattempt hinitialization =>
    exact .keep (fun _ h => h) (Nat.le_of_ble_eq_true rfl) (fun h => h) rfl
  | stillborn hstate hadmits hstillborn => exact (workerStartEmpty_concludes self _ _ _).succeeds
  | retained hadmits hretains =>
    cases hretains with
    | taken hnone hrequested hchild =>
      exact .keep (fun _ h => h) (Nat.le_of_ble_eq_true rfl) (fun _ => rfl) rfl
    | _ => exact .keep (fun _ h => h) (Nat.le_of_ble_eq_true rfl) (fun h => h) rfl
  | returnedStopped hstate hadmits hnone hsettled hchild
  | lateInitialized hstate hadmits hclassified =>
    exact (finishStartRetirement_concludes self _ _).succeeds

theorem Starts.succeeds {input : WorkerStartup S} (h : Starts self input acted) :
    Succeeds self acted.1 := by
  cases h with
  | started | failed hfails =>
    exact .keep (fun _ h => h) (Nat.le_of_ble_eq_true rfl) (fun h => h) rfl
  | ended hstate hends => exact (workerStartEmpty_concludes self _ _ _).succeeds
  | @ready kind worker startup attempt readiness self hstate =>
    obtain ⟨state, creations, heap⟩ := self
    obtain rfl : state = _ := hstate
    match kind with
    | .initial => exact .keep (fun _ h => h) (Nat.le_of_ble_eq_true rfl) (fun h => h) rfl
    | .replacement _ .settled | .replacement _ (.awaiting _) =>
      exact .keep (fun _ h => h) (Nat.le_of_ble_eq_true rfl) (fun h => h) rfl
  | advanced hadmits hadvance | lateStarted hadmits hadvance =>
    exact .keep (fun _ h => h) (Nat.le_of_ble_eq_true rfl) (fun h => h) rfl
  | lateReturned hstate hadmits hadvance =>
    exact (finishStartRetirement_concludes self _ _).succeeds

@[simp] theorem Leaving.state_level (place : Leaving S) (departure : WorkerStopping S) :
    (place.state departure).level = 7 := by
  cases place <;> rfl

/-- A successor that is created at last. -/
theorem startSuccessorAfterStop_succeeds {successor creation predecessor replaces stopped}
    (hstate : self.state = .replacing (.returningPredecessor departure successor creation)) :
    Succeeds self (startSuccessorAfterStop self replaces predecessor successor creation stopped :
      Acted S Message).1 where
  past _ h := h
  unborn := nofun
  tenant := by
    rintro attempt ⟨⟩
    exact .inr ⟨rfl, .inl ⟨successor, creation, by rw [hstate]; rfl, rfl⟩⟩

/-- A worker that has left is gone, or waits for its last report. -/
theorem Leaving.left_succeeds {place : Leaving S}
    {gone : StoppedWorker S} (hstate : self.state = place.state departure)
    (hworker : gone.worker = departure.worker) :
    Succeeds self (place.left self gone : Acted S Message).1 := by
  -- the worker that only waits for its report is the one that departed
  have htenant : self.state.tenant = some gone.worker.attempt := by
    rw [hstate, state_tenant, hworker]
  have hlevel : self.state.level = 7 := by rw [hstate, state_level]
  match place with
  | .returningStart kind failure => exact (workerStartEmpty_concludes self _ _ _).succeeds
  | .returningPredecessor successor creation => exact startSuccessorAfterStop_succeeds hstate
  | .returningWorker | .cancelledPredecessor _ _ => exact .move (absent rfl) (absent rfl)
  | .retiringStart kind failure => exact (finishStartRetirement_concludes self _ _).succeeds
  | .returningSuccessor replaces predecessor result =>
    exact (successorDeparted_concludes self _ _ _ _).succeeds
  | .retiringInitialization _ none | .retiringStartup _ (.pending _) =>
    exact .keep (fun _ h => htenant.trans h) (le_of_eq hlevel) (fun _ => rfl) rfl
  | .retiringInitialization _ (some _) | .retiringStartup _ (.returned _) =>
    exact (finishStartRetirement_concludes self _ _).succeeds

/-- A departure that moves on in its place. -/
theorem Leaving.state_succeeds {place : Leaving S} {departure' : WorkerStopping S} {creations heap'}
    (hworker : departure'.worker = departure.worker)
    (hheld : departure.stopped.isSome → departure'.stopped.isSome) :
    Succeeds ⟨place.state departure, creations, heap⟩
      ⟨place.state departure', creations, heap'⟩ := by
  refine @Succeeds.move S ⟨place.state departure, creations, heap⟩ _ _ (fun attempt h => ?_)
    fun pair h => ?_
  · rw [state_tenant, hworker] at h
    refine ⟨?_, ?_, ?_⟩
    · show (place.state departure).tenant = _
      rw [state_tenant]
      exact h
    · show (place.state departure).level ≤ _
      rw [state_level, state_level]
    · show (place.state departure).held.isSome → _
      rw [state_held, state_held]
      exact hheld
  · show (place.state departure).unborn = _
    rw [state_unborn] at h ⊢
    exact h

theorem Settles.succeeds {settlement : EstablishedShutdownResolved}
    (h : Settles self settlement acted) : Succeeds self acted.1 := by
  cases h with
  | predecessorSettled | predecessorReturned => exact .keep (fun _ h => h) le_rfl (fun h => h) rfl
  | @published replaces completion settlement self hstate =>
    obtain ⟨state, creations, heap⟩ := self
    obtain rfl : state = _ := hstate
    cases completion with
    | ready worker result =>
      exact .keep (fun _ h => h) (Nat.le_of_ble_eq_true rfl) (fun h => h) rfl
    | readyAfterStop worker result stopped | empty worker result =>
      exact .move (absent rfl) (absent rfl)
  | predecessorLast => exact .move (absent rfl) (absent rfl)
  | settled hrequested hnone => exact Leaving.state_succeeds rfl (fun h => h)
  | settledLast hstate hrequested hheld => exact Leaving.left_succeeds hstate rfl

theorem Stops.succeeds {stopped : ChildStopped S} (h : Stops self stopped acted) :
    Succeeds self acted.1 := by
  cases h with
  | creatingStopped hchild | initializingStopped hchild | startingStopped hchild
  | successorStopped hchild => exact .keep (fun _ h => h) le_rfl (fun _ => rfl) rfl
  | readyStopped hchild => exact .move (absent rfl) (absent rfl)
  | predecessorStopped hstate hrequested hnone hchild =>
    exact startSuccessorAfterStop_succeeds hstate
  | held hplace hrequested hnone hchild => exact Leaving.state_succeeds rfl fun _ => rfl
  | stoppedLast hstate hsettled hnone hchild => exact Leaving.left_succeeds hstate rfl

theorem Turn.succeeds {event} (h : Turn self event acted) :
    Succeeds self acted.1 := by
  cases h with
  | stays h => exact .move (fun _ h => ⟨h, le_rfl, fun h => h⟩) (fun _ h => h)
  | ordered h | created h | initialized h | started h | settled h | stopped h => exact h.succeeds

end Bombay.Proxy
