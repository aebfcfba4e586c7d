/-
# A stable proxy that closes stays closed

Once the owner has shut a proxy down it drains or is stopped, and neither ends.  A
transition asks its host to stop exactly when it leaves the proxy stopped.
-/

import Bombay.Proxy.Requests

namespace Bombay.Proxy

variable {S : Signature} {Message : Type}

/-- The proxy drains, or it is stopped. -/
def ProxyState.closing : ProxyState S → Bool
  | .shuttingDown _ => true
  | .stopped _ => true
  | _ => false

/-- The proxy is stopped. -/
def ProxyState.over : ProxyState S → Bool
  | .stopped _ => true
  | _ => false

variable {self : StableProxy S} {acted : Acted S Message} {event : ProxyEvent S Message}

/-- What is true of a transition that keeps a closed proxy closed, and stops when it is over. -/
structure Closes (before : StableProxy S) (acted : Acted S Message) : Prop where
  closing : before.state.closing = true → acted.1.state.closing = true
  ended : before.state.over = true → acted.1.state.over = true
  step : acted.2.step = .stop → acted.1.state.over = true

theorem ProxyState.closing_of_over {state : ProxyState S} (h : state.over = true) :
    state.closing = true := by
  cases state with
  | stopped _ => rfl
  | _ => cases h

theorem Closes.of_open (hopen : self.state.closing = false)
    (hstep : acted.2.step = .stop → acted.1.state.over = true) : Closes self acted where
  closing h := by simp [hopen] at h
  ended h := by
    have hclosing := ProxyState.closing_of_over h
    simp [hopen] at hclosing
  step := hstep

theorem Closes.of_draining (hover : self.state.over = false)
    (hclosing : acted.1.state.closing = true)
    (hstep : acted.2.step = .stop → acted.1.state.over = true) : Closes self acted where
  closing _ := hclosing
  ended h := by simp [hover] at h
  step := hstep

/-- A start that goes on, or that is concluded, in a proxy that is not closed. -/
theorem Closes.of_continue (hopen : self.state.closing = false)
    (hstep : acted.2.step = .continue') : Closes self acted :=
  .of_open hopen fun h => by simp [hstep] at h

theorem publishReplacement_step (replaces : WorkerAttempt) (completion : ReplacementCompletion S) :
    (publishReplacement self replaces completion : Acted S Message).2.step = .continue' := by
  cases completion <;> rfl

theorem finishReplacement_step (replaces : WorkerAttempt) (predecessor : PredecessorShutdown)
    (completion : ReplacementCompletion S) :
    (finishReplacement self replaces predecessor completion : Acted S Message).2.step
      = .continue' := by
  cases predecessor with
  | settled => exact publishReplacement_step replaces completion
  | awaiting id => rfl

variable (kind : WorkerStartKind)

theorem workerStartEmpty_step (previous : WorkerAttempt)
    (result : WorkerStartResult S) :
    (workerStartEmpty self kind previous result : Acted S Message).2.step = .continue' := by
  cases kind with
  | initial => rfl
  | replacement replaces predecessor => exact finishReplacement_step _ _ _

theorem workerStartReady_step (worker : CurrentWorker S)
    (result : WorkerStartResult S) :
    (workerStartReady self kind worker result : Acted S Message).2.step = .continue' := by
  cases kind with
  | initial => rfl
  | replacement replaces predecessor => exact finishReplacement_step _ _ _

theorem workerCreationRejected_step (result : WorkerStartResult S) :
    (workerCreationRejected self kind result : Acted S Message).2.step = .continue' := by
  cases kind with
  | initial => rfl
  | replacement replaces predecessor => exact finishReplacement_step _ _ _

/-- A start that is retired leaves a closed proxy. -/
theorem finishStartRetirement_closing
    (retirement : WorkerStartRetirement S) :
    (finishStartRetirement self kind retirement : Acted S Message).1.state.closing = true ∧
      ((finishStartRetirement self kind retirement : Acted S Message).2.step = .stop →
        (finishStartRetirement self kind retirement : Acted S Message).1.state.over = true) := by
  match kind with
  | .initial | .replacement _ .settled => exact ⟨rfl, fun _ => rfl⟩
  | .replacement _ (.awaiting _) => exact ⟨rfl, nofun⟩

theorem successorDeparted_closing (replaces : WorkerAttempt) (predecessor : PredecessorReturn)
    (result : WorkerStartResult S) (gone : StoppedWorker S) :
    (successorDeparted self replaces predecessor result gone : Acted S Message).1.state.closing
        = true ∧
      ((successorDeparted self replaces predecessor result gone : Acted S Message).2.step = .stop →
        (successorDeparted self replaces predecessor result gone :
          Acted S Message).1.state.over = true) := by
  cases predecessor with
  | awaiting id => exact ⟨rfl, nofun⟩
  | returned resolution => exact ⟨rfl, fun _ => rfl⟩

@[simp] theorem Leaving.state_over (place : Leaving S) (departure : WorkerStopping S) :
    (place.state departure).over = false := by
  cases place <;> rfl

/-- The place a worker leaves from is part of a drain, or not. -/
theorem Leaving.state_closing (place : Leaving S) (departure departure' : WorkerStopping S) :
    (place.state departure).closing = (place.state departure').closing := by
  cases place <;> rfl

theorem Leaving.state_closes (place : Leaving S) {departure departure' : WorkerStopping S}
    {creations creations' : Sequence} {heap heap' : ℕ} {actions : ProxyActions S Message}
    (hstep : actions.step = .continue') :
    Closes ⟨place.state departure, creations, heap⟩
      (⟨place.state departure', creations', heap'⟩, actions) where
  closing h := by
    show (place.state departure').closing = true
    rw [place.state_closing departure' departure]
    exact h
  ended h := by simp at h
  step h := by simp [hstep] at h

/-- A start that is retired while the proxy drains. -/
theorem Closes.of_retirement (hover : self.state.over = false) (kind : WorkerStartKind)
    (retirement : WorkerStartRetirement S) :
    Closes self (finishStartRetirement self kind retirement : Acted S Message) :=
  .of_draining hover (finishStartRetirement_closing _ _).1 (finishStartRetirement_closing _ _).2

theorem Leaving.left_closes {place : Leaving S} {departure gone}
    (hstate : self.state = place.state departure) :
    Closes self (place.left self gone : Acted S Message) := by
  obtain ⟨state, creations, heap⟩ := self
  obtain rfl : state = place.state departure := hstate
  match place with
  | .returningStart kind failure =>
    exact .of_continue rfl (workerStartEmpty_step _ _ _)
  | .returningPredecessor successor creation => exact .of_continue rfl rfl
  | .returningWorker | .cancelledPredecessor _ _ => exact .of_draining rfl rfl fun _ => rfl
  | .retiringStart kind failure => exact .of_retirement rfl _ _
  | .returningSuccessor replaces predecessor result =>
    exact .of_draining rfl (successorDeparted_closing _ _ _ _).1 (successorDeparted_closing _ _ _ _).2
  | .retiringInitialization _ none | .retiringStartup _ (.pending _) =>
    exact .of_draining rfl rfl nofun
  | .retiringInitialization _ (some _) | .retiringStartup _ (.returned _) =>
    exact .of_retirement rfl _ _

/-- **Every turn keeps a closed proxy closed**, and stops only a proxy that is over. -/
theorem Turn.closes (h : Turn self event acted) : Closes self acted := by
  cases h with
  | stays h =>
    refine ⟨fun h => h, fun h => h, fun hstep => ?_⟩
    cases h with
    | retired hstopped =>
      show self.state.over = true
      rw [hstopped]
      rfl
    | _ => cases hstep
  | ordered h =>
    cases h with
    | begun hissue | replaced hissue | revived hissue => exact .of_continue rfl rfl
    | closed hempty => exact ⟨fun _ => rfl, fun _ => rfl, fun _ => rfl⟩
    | _ => exact .of_continue rfl rfl
  | created h =>
    cases h with
    | established hreads => exact .of_continue rfl rfl
    | rejected hstate hreads =>
      exact .of_continue (by rw [hstate]; rfl) (workerCreationRejected_step _ _)
    | establishedShut hreads | establishedHeldShut hreads => exact .of_draining rfl rfl nofun
    | rejectedShut hstate hreads => exact .of_retirement (by rw [hstate]; rfl) _ _
  | initialized h =>
    cases h with
    | initialized hattempt hinitialization | uninitialized hattempt hinitialization =>
      exact .of_continue rfl rfl
    | stillborn hstate hadmits hstillborn =>
      exact .of_continue (by rw [hstate]; rfl) (workerStartEmpty_step _ _ _)
    | retained hadmits hretains => exact .of_draining rfl rfl nofun
    | returnedStopped hstate hadmits hnone hsettled hchild =>
      exact .of_retirement (by rw [hstate]; rfl) _ _
    | lateInitialized hstate hadmits hclassified => exact .of_retirement (by rw [hstate]; rfl) _ _
  | started h =>
    cases h with
    | started | failed hfails => exact .of_continue rfl rfl
    | ended hstate hends => exact .of_continue (by rw [hstate]; rfl) (workerStartEmpty_step _ _ _)
    | ready hstate => exact .of_continue (by rw [hstate]; rfl) (workerStartReady_step _ _ _)
    | advanced hadmits hadvance | lateStarted hadmits hadvance => exact .of_draining rfl rfl nofun
    | lateReturned hstate hadmits hadvance => exact .of_retirement (by rw [hstate]; rfl) _ _
  | settled h =>
    cases h with
    | predecessorSettled => exact .of_continue rfl rfl
    | published hstate => exact .of_continue (by rw [hstate]; rfl) (publishReplacement_step _ _)
    | predecessorReturned => exact .of_draining rfl rfl nofun
    | predecessorLast => exact .of_draining rfl rfl fun _ => rfl
    | @settled place departure settlement creations heap hrequested hnone =>
      exact place.state_closes rfl
    | settledLast hstate hrequested hheld => exact Leaving.left_closes hstate
  | stopped h =>
    cases h with
    | predecessorStopped hstate hrequested hnone hchild =>
      exact .of_continue (by rw [hstate]; rfl) rfl
    | @held place departure stopped id creations heap hplace hrequested hnone hchild =>
      exact place.state_closes rfl
    | stoppedLast hstate hsettled hnone hchild => exact Leaving.left_closes hstate
    | _ => exact .of_continue rfl rfl

theorem Orders.closing_of_shutdown (h : Orders self .shutdown acted) :
    acted.1.state.closing = true := by
  cases h <;> rfl

/-- **The owner's shutdown closes the proxy.** -/
theorem Turn.closing_of_shutdown (h : Turn self (.owner .shutdown) acted) :
    acted.1.state.closing = true := by
  cases h with
  | stays h =>
    cases h with
    | draining hshutdown =>
      show self.state.closing = true
      rw [hshutdown]
      rfl
    | retired hstopped =>
      show self.state.closing = true
      rw [hstopped]
      rfl
    | diagnosed hdiagnostic => cases hdiagnostic
  | ordered h => exact h.closing_of_shutdown

end Bombay.Proxy
