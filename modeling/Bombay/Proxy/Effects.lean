/-
# Each effect once, and no stop while anything is owed

Over a whole run a proxy asks at most once for the creation, the observation, the
initialization, the startup and the shutdown of an attempt.  When it stops,
everything it ever asked for has been told.
-/

import Bombay.Proxy.Closing

namespace Bombay.Proxy

variable {S : Signature} {Message : Type}

/-! ### What a run has asked for -/

namespace Journal

variable (journal : Journal S Message)

/-- The creations a run has asked for. -/
def createdIds : List ℕ :=
  journal.entries.flatMap fun entry => entry.actions.creations.map CreateChild.id

/-- The observations a run has asked for. -/
def observedIds : List ℕ := journal.entries.flatMap fun entry => entry.actions.workerObservations

/-- The attempts whose initialization a run has asked for. -/
def initializedIds : List ℕ :=
  journal.entries.flatMap fun entry =>
    entry.actions.workerInitializations.map fun request => request.worker.creation

/-- The attempts whose startup a run has asked for: a startup is for the worker whose report it
answers. -/
def startedIds : List ℕ :=
  journal.entries.flatMap fun entry =>
    entry.actions.workerStartups.filterMap fun _ =>
      entry.before.state.tenant.map WorkerAttempt.creation

/-- The attempts whose shutdown a run has asked for. -/
def dismissedIds : List ℕ :=
  journal.entries.flatMap fun entry => entry.actions.workerShutdowns.map ShutdownEstablished.id

end Journal

section Once

variable (events : List (ProxyEvent S Message))

/-- What a run asks for at one step of an attempt, it asks for once. -/
theorem run_nodup {acts} (step : ℕ)
    (hacts : ∀ entry : Entry S Message, entry.Valid → acts entry = [] ∨
      ∃ creation, acts entry = [creation] ∧ entry.before.stage creation ≤ step ∧
        step < entry.after.stage creation) :
    ((run events).entries.flatMap acts).Nodup := by
  have h := run_coherent events
  refine (h.trail.nodup (fun proxy creation => proxy.stage creation ≤ step) acts ?_ ?_).1
  · intro entry hentry creation hmay
    exact ((h.valid entry hentry).stage_le creation).trans hmay
  · intro entry hentry
    rcases hacts entry (h.valid entry hentry) with hnil | ⟨creation, hone, hbefore, hafter⟩
    · simp [hnil]
    · simp [hone, hbefore, hafter]

theorem createdIds_nodup : (run events).createdIds.Nodup := by
  refine run_nodup events 1 fun entry hvalid => ?_
  rcases hvalid.asks.births with ⟨hnil, -⟩ | ⟨creation, hone, -, hbefore, hafter⟩
  · simp [hnil]
  · exact .inr ⟨creation.id, by simp [hone], hbefore, by omega⟩

theorem observedIds_nodup : (run events).observedIds.Nodup := by
  refine run_nodup events 1 fun entry hvalid => ?_
  rcases hvalid.asks.births with ⟨-, hnil⟩ | ⟨creation, -, hone, hbefore, hafter⟩
  · exact .inl hnil
  · exact .inr ⟨creation.id, hone, hbefore, by omega⟩

theorem initializedIds_nodup : (run events).initializedIds.Nodup := by
  refine run_nodup events 2 fun entry hvalid => ?_
  rcases hvalid.asks.installs with
    hnil | ⟨request, settlement, actor, hone, -, -, -, hbefore, hafter⟩
  · simp [hnil]
  · exact .inr ⟨request.worker.creation, by simp [hone], by omega, by omega⟩

theorem startedIds_nodup : (run events).startedIds.Nodup := by
  refine run_nodup events 3 fun entry hvalid => ?_
  rcases hvalid.asks.begins with
    hnil | ⟨request, attempt, _, _, _, hone, -, htenant, -, hbefore, hafter⟩
  · simp [hnil]
  · exact .inr ⟨attempt.creation, by simp [hone, htenant], by omega, by omega⟩

theorem dismissedIds_nodup : (run events).dismissedIds.Nodup := by
  refine run_nodup events 6 fun entry hvalid => ?_
  rcases hvalid.asks.dismisses with
    hnil | ⟨request, attempt, hone, hid, -, -, -, hbefore, hafter⟩
  · simp [hnil]
  · exact .inr ⟨attempt.creation, by simp [hone, hid], hbefore, by omega⟩

end Once

/-! ### After the owner's shutdown -/

/-- A closed proxy answers another shutdown without a request. -/
theorem Turn.shutdown_again {self : StableProxy S} {acted : Acted S Message}
    (h : Turn self (.owner .shutdown) acted) (hclosing : self.state.closing = true) :
    acted = (self, .cont) ∨ acted = (self, .stop) := by
  cases h with
  | stays h =>
    cases h with
    | draining hshutdown => exact .inl rfl
    | retired hstopped => exact .inr rfl
    | diagnosed hdiagnostic => cases hdiagnostic
  | ordered h =>
    cases h with
    | closed hempty => rcases hempty with ⟨rfl, -⟩ | ⟨rfl, -⟩ | ⟨attempt, rfl, -⟩ <;> cases hclosing
    | _ => cases hclosing

/-- **After a shutdown, the proxy is closed.** -/
theorem run_closing {events : List (ProxyEvent S Message)}
    {entry : Entry S Message} (hentry : entry ∈ (run events).entries)
    (hshutdown : entry.event = .owner .shutdown) : (run events).proxy.state.closing = true := by
  have h := run_coherent events
  refine h.trail.since (P := fun proxy => proxy.state.closing = true)
    (fun entry hentry hclosing => (h.valid entry hentry).turn.closes.closing hclosing) hentry ?_
  have hturn := (h.valid entry hentry).turn
  rw [hshutdown] at hturn
  exact hturn.closing_of_shutdown

/-- **Each effect is asked for at most once and only when it is authorised, and the proxy stops
only when nothing is owed.** -/
theorem effects_once_and_stop_settled (events : List (ProxyEvent S Message)) :
    ((run events).createdIds.Nodup ∧ (run events).observedIds.Nodup ∧
      (run events).initializedIds.Nodup ∧ (run events).startedIds.Nodup ∧
      (run events).dismissedIds.Nodup) ∧
    (∀ entry ∈ (run events).entries, Asks entry) ∧
    (∀ event, ((run events).proxy.transition event).2.step = .stop →
      (run (events ++ [event])).proxy.state.over = true) ∧
    ((run events).proxy.state.over = true → ∀ before entry after,
      (run events).entries = before ++ entry :: after → ∀ due ∈ entry.opens,
        ∃ later ∈ after, later.closes due) ∧
    (∀ entry ∈ (run events).entries, entry.event = .owner .shutdown →
      ((run events).proxy.transition (.owner .shutdown) : Acted S Message) =
          ((run events).proxy, .cont) ∨
        ((run events).proxy.transition (.owner .shutdown) : Acted S Message) =
          ((run events).proxy, .stop)) := by
  have h := run_coherent events
  refine ⟨⟨createdIds_nodup events, observedIds_nodup events, initializedIds_nodup events,
    startedIds_nodup events, dismissedIds_nodup events⟩, ?_, ?_, ?_, ?_⟩
  · exact fun entry hentry => (h.valid entry hentry).asks
  · intro event hstep
    rw [run_snoc]
    exact (transition_turn (run events).proxy event).closes.step hstep
  · intro hover before entry after heq due hdue
    rcases h.settled heq hdue with howed | hclosed
    · cases hstate : (run events).proxy.state with
      | stopped retirement => simp [hstate, ProxyState.owes] at howed
      | _ => simp [hstate, ProxyState.over] at hover
    · exact hclosed
  · intro entry hentry hshutdown
    exact (transition_turn (run events).proxy (.owner .shutdown)).shutdown_again
      (run_closing hentry hshutdown)

end Bombay.Proxy
