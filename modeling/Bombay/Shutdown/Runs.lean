/-
# What holds of every phased shutdown

The children of a plan are asked to shut down phase after phase, each of them once, and the
coordinator stops when the last of them has been reported.  All of it is read off the record of a
run, which accords with the state before and after every turn (`Order`).
-/

import Bombay.Shutdown.Choices

namespace Bombay.PhasedShutdown

variable {σ Event Sends Create Ph Error Id Outcome T : Type}

/-- Shutdown was requested, and every child of the installed plan has been reported. -/
def ShutdownRecord.Done (recorded : ShutdownRecord Id) : Prop :=
  ∃ plan, recorded.installed = some plan ∧ recorded.wanted = true ∧
    recorded.reported.Perm plan.children

/-- A turn accepts the stop of the last child of a phase. -/
def EndsPhase (start : Option (ShutdownPlan Id)) (plan : ShutdownPlan Id) (phase : ℕ)
    (earlier : List (ShutdownTurn σ Event Sends Create Ph Error Id Outcome))
    (now : ShutdownTurn σ Event Sends Create Ph Error Id Outcome) : Prop :=
  ∃ stopped, now.event = .childStopped stopped ∧ stopped.child ∈ plan.phase phase ∧
    stopped.child ∉ (record start earlier).reported ∧
    (record start (earlier ++ [now])).reported.Perm (plan.before (phase + 1))

/-- **The order of a phased shutdown.** -/
structure PhasedOrder (start : Option (ShutdownPlan Id))
    (turns : List (ShutdownTurn σ Event Sends Create Ph Error Id Outcome)) : Prop where
  /-- Nobody is asked twice. -/
  askedOnce : (record start turns).asked.Nodup
  /-- Whoever is asked is a child of the installed plan. -/
  askedPlanned : ∀ child ∈ (record start turns).asked,
    ∃ plan, (record start turns).installed = some plan ∧ child ∈ plan.children
  /-- The children of a phase are asked together, after those of the phases before and when the
  last child of the phase before has stopped. -/
  requestsInOrder : ∀ earlier now later, turns = earlier ++ now :: later → asks now ≠ [] →
    ∃ plan phase, (record start (earlier ++ [now])).installed = some plan ∧
      phase < plan.phases.length ∧ asks now = plan.phase phase ∧
      (record start earlier).asked = plan.before phase ∧
      ∀ previous, phase = previous + 1 → EndsPhase start plan previous earlier now
  /-- A stop is accepted in the phase of its child, when everyone before has been reported. -/
  reportsInPhase : ∀ earlier now later, turns = earlier ++ now :: later → ∀ child ∈ reports now,
    ∃ plan phase, (record start earlier).installed = some plan ∧ child ∈ plan.phase phase ∧
      (record start earlier).asked = plan.before (phase + 1) ∧
      (∀ other ∈ plan.before phase, other ∈ (record start earlier).reported) ∧
      child ∉ (record start earlier).reported
  /-- The coordinator has stopped once if it is done, and not at all before. -/
  stopsOnce : ∀ earlier later, turns = earlier ++ later → (record start earlier).stops ≤ 1 ∧
    ((record start earlier).stops = 1 ↔ (record start earlier).Done)
  /-- As soon as there are plan and request, in any order, the first phase has been asked, or the
  coordinator has stopped if the plan is empty. -/
  requestKept : ∀ earlier later, turns = earlier ++ later → ∀ plan,
    (record start earlier).installed = some plan → (record start earlier).wanted = true →
      plan.phase 0 <+: (record start earlier).asked ∧
        (plan.phases = [] → (record start earlier).stops = 1)
  /-- An error leaves the state as it is, and the coordinator too unless the error is the wrapped
  behavior's. -/
  errorsKeep : ∀ now ∈ turns, ∀ error, now.emitted = .error error →
    now.after.state = now.before.state ∧ (now.event.intoInner = none → now.after = now.before)
  /-- An event of the wrapped behavior leaves the state as it is and asks nobody. -/
  behaviorsPass : ∀ now ∈ turns, ∀ event, now.event = .behavior event →
    now.after.state = now.before.state ∧ asks now = []

/-- A step that accepts a stop is taken in a phase that awaits the child. -/
theorem Steps.awaited [DecidableEq Id] {state next : ShutdownState (ShutdownPlan Id) Id}
    {event : ShutdownCoordinatorEvent Event (ShutdownPlan Id) Id Outcome}
    {asked reported : List Id} {ends : Bool}
    (hsteps : Steps state event next asked reported ends)
    {child : Id} (hchild : child ∈ reported) :
    ∃ plan phase awaiting, state = .stopping plan phase awaiting ∧ child ∈ awaiting := by
  cases hsteps with
  | counted plan phase awaiting stopped hawaited
  | advanced plan phase awaiting stopped hawaited
  | finished plan phase awaiting stopped hawaited =>
    obtain rfl := List.mem_singleton.mp hchild
    exact ⟨plan, phase, awaiting, rfl, hawaited⟩
  | behavior | rejected | unexpected | again | «repeated» | kept | installed | begun | empty =>
    exact absurd hchild List.not_mem_nil

namespace Orderly

variable {recorded : ShutdownRecord Id} {state : ShutdownState (ShutdownPlan Id) Id}

theorem asked_once (h : Orderly recorded state) : recorded.asked.Nodup := by
  cases h with
  | awaitingPlan | awaitingPlanAfterShutdown | ready => exact List.nodup_nil
  | stopping plan phase => exact plan.before_nodup (phase + 1)
  | completed plan => exact plan.distinct

theorem asked_planned (h : Orderly recorded state) {child} (hchild : child ∈ recorded.asked) :
    ∃ plan, recorded.installed = some plan ∧ child ∈ plan.children := by
  cases h with
  | awaitingPlan | awaitingPlanAfterShutdown | ready => exact absurd hchild List.not_mem_nil
  | stopping plan phase => exact ⟨plan, rfl, (plan.before_sublist (phase + 1)).subset hchild⟩
  | completed plan => exact ⟨plan, rfl, hchild⟩

/-- As long as a child is awaited, not all have been reported. -/
theorem not_done {plan phase awaiting} (h : Orderly recorded (.stopping plan phase awaiting)) :
    ¬ recorded.Done := by
  cases h with
  | stopping _ _ _ reported _ hawaiting _ hreported =>
    rintro ⟨other, hother, -, hdone⟩
    obtain rfl := Option.some.inj hother
    have hall : reported.length = plan.children.length := hdone.length_eq
    have hlength := hreported.length_eq
    have hle := (plan.before_sublist (phase + 1)).length_le
    have hpos := List.length_pos_iff.mpr hawaiting
    rw [List.length_append] at hlength
    omega

theorem stops_once (h : Orderly recorded state) :
    recorded.stops ≤ 1 ∧ (recorded.stops = 1 ↔ recorded.Done) := by
  cases h with
  | awaitingPlan | awaitingPlanAfterShutdown =>
    refine ⟨Nat.zero_le 1, fun hstops => absurd hstops Nat.zero_ne_one, ?_⟩
    rintro ⟨plan, hplan, -⟩
    cases hplan
  | ready plan =>
    refine ⟨Nat.zero_le 1, fun hstops => absurd hstops Nat.zero_ne_one, ?_⟩
    rintro ⟨-, -, hwanted, -⟩
    cases hwanted
  | stopping plan phase awaiting reported hphase hawaiting hsublist hreported =>
    have horderly := Orderly.stopping plan phase awaiting reported hphase hawaiting hsublist hreported
    exact ⟨Nat.zero_le 1, fun hstops => absurd hstops Nat.zero_ne_one,
      fun hdone => absurd hdone horderly.not_done⟩
  | completed plan reported hreported =>
    exact ⟨Nat.le_refl 1, fun _ => ⟨plan, rfl, rfl, hreported⟩, fun _ => rfl⟩

/-- With plan and request the coordinator has begun. -/
theorem request_kept (h : Orderly recorded state) {plan} (hplan : recorded.installed = some plan)
    (hwanted : recorded.wanted = true) :
    plan.phase 0 <+: recorded.asked ∧ (plan.phases = [] → recorded.stops = 1) := by
  cases h with
  | awaitingPlan | awaitingPlanAfterShutdown => cases hplan
  | ready => cases hwanted
  | stopping current phase awaiting reported hphase =>
    obtain rfl := Option.some.inj hplan
    refine ⟨current.phase_prefix_before phase, fun hnil => ?_⟩
    rw [hnil] at hphase
    exact absurd hphase (Nat.not_lt_zero phase)
  | completed other reported =>
    obtain rfl := Option.some.inj hplan
    exact ⟨other.phase_prefix_children, fun _ => rfl⟩

variable [DecidableEq Id] {event : ShutdownCoordinatorEvent Event (ShutdownPlan Id) Id Outcome}
  {next : ShutdownState (ShutdownPlan Id) Id} {asked reported : List Id} {ends : Bool}

/-- **Whoever is asked is asked when the phase before has ended.** -/
theorem requests_in_order (h : Orderly recorded state)
    (hsteps : Steps state event next asked reported ends) (hasked : asked ≠ []) :
    ∃ plan phase, recorded.installed.or (offered event) = some plan ∧
      phase < plan.phases.length ∧ asked = plan.phase phase ∧
      recorded.asked = plan.before phase ∧
      ∀ previous, phase = previous + 1 → ∃ stopped, event = .childStopped stopped ∧
        stopped.child ∈ plan.phase previous ∧ stopped.child ∉ recorded.reported ∧
        (recorded.reported ++ reported).Perm (plan.before (previous + 1)) := by
  cases hsteps with
  | begun plan _ _ hbegins hphases =>
    obtain ⟨hinstalled, -, hnobody, -⟩ := h.begins hbegins
    exact ⟨plan, 0, hinstalled, hphases, rfl, hnobody, fun previous hprevious => nomatch hprevious⟩
  | advanced plan phase awaiting stopped hchild hrest hnext =>
    have hfresh := h.not_reported hchild
    cases h with
    | stopping _ _ _ _ hphase _ hsublist hreported =>
      refine ⟨plan, phase + 1, rfl, by omega, rfl, rfl, fun previous hprevious => ?_⟩
      obtain rfl : phase = previous := by omega
      exact ⟨stopped, rfl, hsublist.subset hchild, hfresh, ended hreported hchild hrest⟩
  | behavior | rejected | unexpected | again | «repeated» | kept | installed | empty | counted
    | finished => exact absurd rfl hasked

/-- **Whoever is reported is reported in its phase.** -/
theorem reports_in_phase (h : Orderly recorded state)
    (hsteps : Steps state event next asked reported ends) {child : Id} (hchild : child ∈ reported) :
    ∃ plan phase, recorded.installed = some plan ∧ recorded.wanted = true ∧
      child ∈ plan.phase phase ∧ recorded.asked = plan.before (phase + 1) ∧
      (∀ other ∈ plan.before phase, other ∈ recorded.reported) ∧ child ∉ recorded.reported := by
  obtain ⟨plan, phase, awaiting, rfl, hawaited⟩ := hsteps.awaited hchild
  have hbefore : ∀ other ∈ plan.before phase, other ∈ recorded.reported :=
    fun other hother => h.before_reported hother
  have hfresh := h.not_reported hawaited
  cases h with
  | stopping _ _ _ _ _ _ hsublist =>
    exact ⟨plan, phase, rfl, rfl, hsublist.subset hawaited, rfl, hbefore, hfresh⟩

end Orderly

/-- A step that the wrapped behavior takes leaves the state and asks nobody. -/
theorem Steps.behavior_eq [DecidableEq Id] {state next event asked reported ends}
    (h : Steps state (.behavior event : ShutdownCoordinatorEvent Event (ShutdownPlan Id) Id Outcome)
      next asked reported ends) : next = state ∧ asked = [] := by
  cases h with
  | behavior => exact ⟨rfl, rfl⟩
  | begun plan _ _ hbegins | empty plan _ _ hbegins => cases hbegins

section Law

variable [DecidableEq Id] [SendEffects Sends] (behavior : Behavior σ Event Sends Create Ph Error)
  (inner : σ)

/-- The run of a homogeneous coordinator has the order of a phased shutdown. -/
theorem run_phasedOrder (start : Option (ShutdownPlan Id))
    (events : List (ShutdownCoordinatorEvent Event (ShutdownPlan Id) Id Outcome)) :
    PhasedOrder start
      (Machine.turns (ShutdownCoordinator.transition behavior) (built inner start) events) := by
  have hrun : Orderly
      (record start
        (Machine.turns (ShutdownCoordinator.transition behavior) (built inner start) events))
      (Machine.reached (ShutdownCoordinator.transition behavior) (built inner start)
        events).state := run_orderly events
  have hprefix : ∀ earlier later,
      Machine.turns (ShutdownCoordinator.transition behavior) (built inner start) events =
        earlier ++ later → ∃ state, Orderly (record start earlier) state := by
    intro earlier later h
    cases later with
    | nil =>
      rw [List.append_nil] at h
      exact ⟨_, h ▸ hrun⟩
    | cons now later => exact ⟨_, (turn_orderly h).1⟩
  refine ⟨hrun.asked_once, fun child hchild => hrun.asked_planned hchild, ?_, ?_, ?_, ?_, ?_, ?_⟩
  · intro earlier now later h hasks
    obtain ⟨horderly, hsteps⟩ := turn_orderly h
    rw [record_snoc]
    obtain ⟨plan, phase, hinstalled, hphase, hnow, hasked, hprevious⟩ :=
      horderly.requests_in_order hsteps hasks
    refine ⟨plan, phase, hinstalled, hphase, hnow, hasked, fun previous heq => ?_⟩
    rw [EndsPhase, record_snoc]
    exact hprevious previous heq
  · intro earlier now later h child hchild
    obtain ⟨horderly, hsteps⟩ := turn_orderly h
    obtain ⟨plan, phase, hinstalled, -, hrest⟩ := horderly.reports_in_phase hsteps hchild
    exact ⟨plan, phase, hinstalled, hrest⟩
  · intro earlier later h
    obtain ⟨state, horderly⟩ := hprefix earlier later h
    exact horderly.stops_once
  · intro earlier later h plan hplan hwanted
    obtain ⟨state, horderly⟩ := hprefix earlier later h
    exact horderly.request_kept hplan hwanted
  · intro now hnow error herror
    have hturn := Machine.mem_turns hnow
    have hstep : now.before.transition behavior now.event = (now.after, now.emitted) := by
      rw [hturn]
      rfl
    rw [herror] at hstep
    exact ShutdownCoordinator.refused_state hstep
  · intro now hnow event hevent
    obtain ⟨earlier, later, hsplit⟩ := List.append_of_mem hnow
    have hsteps := (turn_orderly hsplit).2
    rw [hevent] at hsteps
    exact hsteps.behavior_eq

/-- **Coordinated shutdown keeps the order of its plan**, whatever comes in whatever order, and a
coordinator of choices does what the coordinator of their creation IDs does. -/
theorem shutdown_law [Selection T Id] :
    (∀ (start : Option (ShutdownPlan Id))
      (events : List (ShutdownCoordinatorEvent Event (ShutdownPlan Id) Id Outcome)),
      PhasedOrder start
        (Machine.turns (ShutdownCoordinator.transition behavior) (built inner start) events)) ∧
    (∀ (start : Option (HeterogeneousShutdownPlan T))
      (events : List (ShutdownCoordinatorEvent Event (HeterogeneousShutdownPlan T) Id Outcome)),
      let turns := Machine.turns (HeterogeneousShutdownCoordinator.transition behavior)
        (builtChoices inner start) events
      turns.map ChoiceTurn.erase =
        Machine.turns (ShutdownCoordinator.transition behavior)
          (built inner (start.map HeterogeneousShutdownPlan.erase))
          (events.map (.mapPlan HeterogeneousShutdownPlan.erase)) ∧
      PhasedOrder (start.map HeterogeneousShutdownPlan.erase) (turns.map ChoiceTurn.erase) ∧
      ∀ now ∈ turns, ∀ error, now.emitted = .error error →
        now.after.state = now.before.state ∧
          (now.event.intoInner = none → now.after = now.before)) := by
  refine ⟨run_phasedOrder behavior inner, fun start events => ?_⟩
  intro turns
  have herase := run_erase behavior inner start events
  refine ⟨herase.symm, ?_, ?_⟩
  · have h := run_phasedOrder behavior inner (start.map HeterogeneousShutdownPlan.erase)
      (events.map (.mapPlan HeterogeneousShutdownPlan.erase))
    rwa [herase] at h
  · intro now hnow error herror
    have hturn := Machine.mem_turns hnow
    have hstep : now.before.transition behavior now.event = (now.after, now.emitted) := by
      rw [hturn]
      rfl
    rw [herror] at hstep
    exact HeterogeneousShutdownCoordinator.refused_state hstep

end Law
end Bombay.PhasedShutdown
