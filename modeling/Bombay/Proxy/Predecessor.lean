/-
# The settlement of a predecessor

A predecessor may stop before its shutdown request is settled.  Its successor is
started meanwhile, and the settlement may arrive in any state of that start.  It is
taken, except while the successor's start is drained: there nothing looks for it,
and the proxy waits for it for ever.
-/

import Bombay.Proxy.Operations

namespace Bombay.Proxy

variable {S : Signature} {Message : Type}

/-- The drain of a start does not look for the settlement of the predecessor. -/
theorem Turn.predecessor_back {self : StableProxy S} {acted : Acted S Message}
    {settlement : EstablishedShutdownResolved} {shutdown : ProxyShutdown S}
    {kind : WorkerStartKind} (h : Turn self (.workerShutdownResolved settlement) acted)
    (hsound : Sound self) (hstate : self.state = .shuttingDown shutdown)
    (hdeaf : shutdown.deaf = some kind) (hawaits : kind.awaits = some settlement.id) :
    acted.2.diagnostics ≠ [] := by
  have hself : self.state.awaits = some settlement.id := by
    rw [hstate]
    unfold ProxyShutdown.deaf at hdeaf
    split at hdeaf
    all_goals cases hdeaf
    all_goals exact hawaits
  -- A departing worker came after its predecessor, so its own settlement is another one.
  have hother : ∀ (place : Leaving S) (departure : WorkerStopping S),
      self.state = place.state departure → departure.shutdown ≠ .requested settlement.id := by
    intro place departure hplace hrequested
    have hdeparture : self.state.departure = some departure := by
      rw [hplace]
      exact place.state_departure departure
    have htenant : self.state.tenant = some departure.worker.attempt := by
      rw [hplace]
      exact place.state_tenant departure
    have hid := hsound.departing departure settlement.id hdeparture hrequested
    have hlt := hsound.awaited settlement.id hself departure.worker.attempt htenant
    omega
  cases h with
  | stays h =>
    cases h with
    | diagnosed hdiagnostic => exact List.cons_ne_nil _ _
  | settled h =>
    cases h with
    | predecessorSettled => cases hstate
    | published hreplacing => cases hreplacing.symm.trans hstate
    | predecessorReturned | predecessorLast =>
      cases hstate
      cases hdeaf
    | settled hrequested hnone => exact absurd hrequested (hother _ _ rfl)
    | settledLast hplace hrequested hheld => exact absurd hrequested (hother _ _ hplace)

/-- **The settlement of a shutdown is taken in every state but those**, and so a proxy that was
told everything, and handed nothing back, is not left waiting. -/
theorem predecessor_settlement_joins (events : List (ProxyEvent S Message)) :
    (∀ before asked between settlement, (run events).entries = before ++ asked :: between →
      .shutdown settlement.id ∈ asked.opens →
      (∀ later ∈ between, .shutdown settlement.id ∉ later.delivers) →
      (((run events).proxy.transition (.workerShutdownResolved settlement) :
          Acted S Message).2.diagnostics = [] ↔
        ∀ shutdown kind, (run events).proxy.state = .shuttingDown shutdown →
          shutdown.deaf = some kind → kind.awaits ≠ some settlement.id)) ∧
    ((run events).NothingMissed → (run events).allTold = true →
      ((run events).proxy.state.closing = true → (run events).proxy.state.over = true) ∧
      ((run events).proxy.state.closing = false →
        (run events).admitted = (run events).answered)) := by
  have h := run_coherent events
  constructor
  · intro before asked between settlement heq hopen hbetween
    have howed : .shutdown settlement.id ∈ (run events).proxy.state.owes := by
      rcases h.settled heq hopen with howed | ⟨later, hlater, -, htold | ⟨id, -, hstop⟩⟩
      · exact howed
      · exact absurd htold (hbetween later hlater)
      · cases hstop
    constructor
    · intro htaken shutdown kind hstate hdeaf hawaits
      exact (transition_turn (run events).proxy _).predecessor_back h.sound hstate hdeaf hawaits
        htaken
    · intro hhears
      refine told_taken h.sound howed (List.mem_singleton_self _) fun hmissed => ?_
      generalize hstate : (run events).proxy.state = state at hmissed
      cases hmissed with
      | predecessor hdeaf hawaits => exact hhears _ _ hstate hdeaf hawaits
  · intro hmissed htold
    have hbusy := h.not_busy hmissed htold
    constructor
    · intro hclosing
      simpa [ProxyState.busy, hclosing] using hbusy
    · intro hopen
      have hoperations : (run events).proxy.state.operations = [] := by
        simpa [ProxyState.busy, hopen] using hbusy
      rw [run_operations, hoperations, List.append_nil]

/-- A worker that serves. -/
def served : List (ProxyEvent numbers Unit) :=
  [.owner (.start ⟨(), ()⟩),
    .workerCreationsSettled (.settled [.attempted (.accepted (.established 1 .birth (7 : ℕ)))]),
    .workerInitialization (.readyForStartup ⟨1, 0⟩ ⟨⟨1, 0⟩, 1⟩ () ⟨⟨1, 0⟩, ⟨⟨1, 0⟩, 1⟩, (7 : ℕ)⟩),
    .workerStartupReported ⟨⟨1, 0⟩, ⟨⟨1, 0⟩, 2⟩, .started⟩,
    .workerStartupReported ⟨⟨1, 0⟩, ⟨⟨1, 0⟩, 2⟩, .ready ()⟩]

/-- A worker that serves is replaced, and stops before its shutdown is settled. -/
def overtaken : List (ProxyEvent numbers Unit) :=
  served ++ [.owner (.replace ⟨(), ()⟩), .workerStopped ⟨1, .ok .normal, 0⟩]

/-- The settlement arrives while the successor is created, whose creation is then rejected. -/
theorem predecessor_settlement_joins_creating :
    (run (overtaken ++ [.workerShutdownResolved (.accepted 1), .workerCreationsSettled
      (.rejected [⟨2, (), .replacement 1⟩])])).admitted =
    (run (overtaken ++ [.workerShutdownResolved (.accepted 1), .workerCreationsSettled
      (.rejected [⟨2, (), .replacement 1⟩])])).answered := by
  refine ((predecessor_settlement_joins _).2 ?_ rfl).2 rfl
  intro entry hentry hmissed
  simp only [overtaken, served, run, List.cons_append, List.nil_append, List.foldl_cons,
    List.foldl_nil, Journal.step, List.mem_cons, List.not_mem_nil, or_false] at hentry
  rcases hentry with rfl | rfl | rfl | rfl | rfl | rfl | rfl | rfl | rfl <;> cases hmissed

/-- The owner shuts the proxy down before the settlement arrives: it is handed back, and when
everything else was told the proxy still waits. -/
theorem drained_start_ignores_predecessor :
    ((run (overtaken ++ [.owner .shutdown])).proxy.transition
      (.workerShutdownResolved (.accepted 1)) : Acted numbers Unit).2.diagnostics ≠ [] ∧
    (run (overtaken ++ [.owner .shutdown, .workerShutdownResolved (.accepted 1),
      .workerCreationsSettled (.rejected [⟨2, (), .replacement 1⟩])])).allTold = true ∧
    (run (overtaken ++ [.owner .shutdown, .workerShutdownResolved (.accepted 1),
      .workerCreationsSettled (.rejected [⟨2, (), .replacement 1⟩])])).proxy.state.over = false := by
  refine ⟨nofun, rfl, rfl⟩

end Bombay.Proxy
