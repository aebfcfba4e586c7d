/-
# The order of a phased shutdown

What a run of a `ShutdownCoordinator` has done is its record: the plan that was installed, whether
shutdown was requested, who was asked to stop, whose stop was accepted, and how often the
coordinator stopped.  Every transition is one of a few steps (`Steps`), and each keeps the record
in accord with the state (`Orderly`), so the state of a run can be read off its record.
-/

import Bombay.Lib.Machine
import Bombay.Shutdown.Coordinator

namespace Bombay.PhasedShutdown

variable {σ Event Sends Create Ph Error Id Outcome : Type}

/-- A turn of a homogeneous coordinator. -/
abbrev ShutdownTurn (σ Event Sends Create Ph Error Id Outcome : Type) :=
  Turn (ShutdownCoordinator σ Id) (ShutdownCoordinatorEvent Event (ShutdownPlan Id) Id Outcome)
    (Except (ShutdownCoordinatorError Error (ShutdownPlan Id) Id Outcome)
      (ShutdownCoordinatorActions Id Sends Create Ph))

/-! ### Records -/

/-- What the run of a coordinator has done. -/
structure ShutdownRecord (Id : Type) where
  installed : Option (ShutdownPlan Id)
  wanted : Bool
  asked : List Id
  reported : List Id
  stops : ℕ

/-- The plan that an event offers. -/
def offered : ShutdownCoordinatorEvent Event (ShutdownPlan Id) Id Outcome →
    Option (ShutdownPlan Id)
  | .plan plan => some plan
  | _ => none

/-- The event for the wrapped behavior. -/
def ShutdownCoordinatorEvent.intoInner {P : Type} :
    ShutdownCoordinatorEvent Event P Id Outcome → Option Event
  | .behavior event => some event
  | _ => none

/-- The child whose stop an event reports. -/
def ShutdownCoordinatorEvent.stopped {P : Type} :
    ShutdownCoordinatorEvent Event P Id Outcome → List Id
  | .childStopped stopped => [stopped.child]
  | _ => []

/-- The event requests shutdown. -/
def requests : ShutdownCoordinatorEvent Event (ShutdownPlan Id) Id Outcome → Bool
  | .requested => true
  | _ => false

/-- The children that a turn asks to shut down, in order. -/
def asks (now : ShutdownTurn σ Event Sends Create Ph Error Id Outcome) : List Id :=
  match now.emitted with
  | .ok actions => actions.sends.owned.map ShutdownChild.child
  | .error _ => []

/-- The child whose stop a turn accepts. -/
def reports (now : ShutdownTurn σ Event Sends Create Ph Error Id Outcome) : List Id :=
  match now.emitted with
  | .ok _ => now.event.stopped
  | .error _ => []

/-- The coordinator stops in a turn, on its own account: a stop of the wrapped behavior is not
counted. -/
def ends (now : ShutdownTurn σ Event Sends Create Ph Error Id Outcome) : Bool :=
  match now.event.intoInner, now.emitted with
  | none, .ok actions => actions.stops
  | _, _ => false

/-- The record of a run that started with the plan `start`, or without one.  The first plan is the
one that counts. -/
def record (start : Option (ShutdownPlan Id))
    (turns : List (ShutdownTurn σ Event Sends Create Ph Error Id Outcome)) : ShutdownRecord Id where
  installed := start.or (turns.findSome? fun now => offered now.event)
  wanted := turns.any fun now => requests now.event
  asked := turns.flatMap asks
  reported := turns.flatMap reports
  stops := turns.countP ends

section Fields

variable {start : Option (ShutdownPlan Id)}
  {turns : List (ShutdownTurn σ Event Sends Create Ph Error Id Outcome)}
  {now : ShutdownTurn σ Event Sends Create Ph Error Id Outcome}

/-- What one more turn adds to a record. -/
theorem record_snoc :
    record start (turns ++ [now]) =
      ⟨(record start turns).installed.or (offered now.event),
        (record start turns).wanted || requests now.event, (record start turns).asked ++ asks now,
        (record start turns).reported ++ reports now,
        (record start turns).stops + (ends now).toNat⟩ := by
  rw [record, record, ShutdownRecord.mk.injEq]
  refine ⟨?_, ?_, ?_, ?_, ?_⟩
  · rw [List.findSome?_append, Option.or_assoc, List.findSome?_singleton]
  · rw [List.any_append, List.any_cons, List.any_nil, Bool.or_false]
  · rw [List.flatMap_append, List.flatMap_singleton]
  · rw [List.flatMap_append, List.flatMap_singleton]
  · rw [List.countP_append, List.countP_singleton]
    cases ends now <;> rfl

end Fields

/-! ### The steps of a coordinator -/

/-- A plan is installed, or the state has none to wait for. -/
def ShutdownState.Planned {P : Type} : ShutdownState P Id → Prop
  | .ready _ | .stopping _ _ _ | .completed => True
  | .awaitingPlan | .awaitingPlanAfterShutdown => False

/-- Shutdown has been requested. -/
def ShutdownState.Wanted {P : Type} : ShutdownState P Id → Prop
  | .awaitingPlanAfterShutdown | .stopping _ _ _ | .completed => True
  | .awaitingPlan | .ready _ => False

/-- An event brings the second of plan and request. -/
inductive Begins (plan : ShutdownPlan Id) : ShutdownState (ShutdownPlan Id) Id →
    ShutdownCoordinatorEvent Event (ShutdownPlan Id) Id Outcome → Prop
  | plan : Begins plan .awaitingPlanAfterShutdown (.plan plan)
  | request : Begins plan (.ready plan) .requested

/-- **All that a transition can do**: the states around it, its event, whom it asks to stop, whose
stop it accepts, and whether the coordinator stops. -/
inductive Steps [DecidableEq Id] : ShutdownState (ShutdownPlan Id) Id →
    ShutdownCoordinatorEvent Event (ShutdownPlan Id) Id Outcome →
    ShutdownState (ShutdownPlan Id) Id → List Id → List Id → Bool → Prop
  | behavior state event : Steps state (.behavior event) state [] [] false
  | rejected state rejection : Steps state (.childRejected rejection) state [] [] false
  | unexpected state stopped (h : state.awaits stopped.child = false) :
      Steps state (.childStopped stopped) state [] [] false
  | again state plan (h : state.Planned) : Steps state (.plan plan) state [] [] false
  | repeated state (h : state.Wanted) : Steps state .requested state [] [] false
  | kept : Steps .awaitingPlan .requested .awaitingPlanAfterShutdown [] [] false
  | installed plan : Steps .awaitingPlan (.plan plan) (.ready plan) [] [] false
  | begun plan state event (h : Begins plan state event) (hphases : 0 < plan.phases.length) :
      Steps state event (.stopping plan 0 (plan.phase 0)) (plan.phase 0) [] false
  | empty plan state event (h : Begins plan state event) (hphases : plan.phases = []) :
      Steps state event .completed [] [] true
  | counted plan phase awaiting stopped (h : stopped.child ∈ awaiting)
      (hrest : awaiting.erase stopped.child ≠ []) :
      Steps (.stopping plan phase awaiting) (.childStopped stopped)
        (.stopping plan phase (awaiting.erase stopped.child)) [] [stopped.child] false
  | advanced plan phase awaiting stopped (h : stopped.child ∈ awaiting)
      (hrest : awaiting.erase stopped.child = []) (hnext : phase + 1 ≠ plan.phases.length) :
      Steps (.stopping plan phase awaiting) (.childStopped stopped)
        (.stopping plan (phase + 1) (plan.phase (phase + 1))) (plan.phase (phase + 1))
        [stopped.child] false
  | finished plan phase awaiting stopped (h : stopped.child ∈ awaiting)
      (hrest : awaiting.erase stopped.child = []) (hnext : phase + 1 = plan.phases.length) :
      Steps (.stopping plan phase awaiting) (.childStopped stopped) .completed [] [stopped.child]
        true

namespace ShutdownCoordinator

variable [DecidableEq Id]

/-- **A transition that answers with an error leaves the state as it is**, and the coordinator too
unless the error is the wrapped behavior's. -/
theorem refused_state [SendEffects Sends] {behavior : Behavior σ Event Sends Create Ph Error}
    {self next : ShutdownCoordinator σ Id}
    {event : ShutdownCoordinatorEvent Event (ShutdownPlan Id) Id Outcome}
    {error : ShutdownCoordinatorError Error (ShutdownPlan Id) Id Outcome}
    (h : self.transition behavior event = (next, .error error)) :
    next.state = self.state ∧ (event.intoInner = none → next = self) := by
  obtain ⟨inner, state⟩ := self
  cases event with
  | requested => cases congrArg Prod.snd h
  | plan plan =>
    cases state with
    | awaitingPlan | awaitingPlanAfterShutdown => cases congrArg Prod.snd h
    | ready | stopping | completed =>
      obtain rfl := congrArg Prod.fst h
      exact ⟨rfl, fun _ => rfl⟩
  | childStopped stopped =>
    rw [transition] at h
    split_ifs at h
    · cases congrArg Prod.snd h
    · obtain rfl := congrArg Prod.fst h
      exact ⟨rfl, fun _ => rfl⟩
  | childRejected rejected =>
    have hnext : next = ⟨inner, state⟩ := by
      rw [transition] at h
      split_ifs at h
      · exact (congrArg Prod.fst h).symm
      · exact (congrArg Prod.fst h).symm
    rw [hnext]
    exact ⟨rfl, fun _ => rfl⟩
  | behavior event =>
    obtain rfl := congrArg Prod.fst h
    exact ⟨rfl, fun hinner => nomatch hinner⟩

end ShutdownCoordinator

section Transition

variable [SendEffects Sends] {behavior : Behavior σ Event Sends Create Ph Error}

/-- The children that a move asks to shut down. -/
def ShutdownMove.asks : ShutdownMove (ShutdownPlan Id) → List Id
  | .startPhase plan phase => plan.phase phase
  | .none | .stop => []

/-- The move is to stop. -/
def ShutdownMove.stops : ShutdownMove (ShutdownPlan Id) → Bool
  | .stop => true
  | .none | .startPhase _ _ => false

omit [SendEffects Sends] in
/-- A turn that answers with an error asks nobody, accepts no stop and stops nothing. -/
theorem turn_refused_nothing {now : ShutdownTurn σ Event Sends Create Ph Error Id Outcome}
    {error : ShutdownCoordinatorError Error (ShutdownPlan Id) Id Outcome}
    (h : now.emitted = .error error) : asks now = [] ∧ reports now = [] ∧ ends now = false := by
  rw [asks, reports, ends, h]
  cases now.event.intoInner with
  | none | some => exact ⟨rfl, rfl, rfl⟩

theorem asks_moved {now : ShutdownTurn σ Event Sends Create Ph Error Id Outcome}
    {move : ShutdownMove (ShutdownPlan Id)}
    (h : now.emitted = .ok (ShutdownCoordinator.moveActions move)) : asks now = move.asks := by
  rw [asks, h]
  cases move with
  | none | stop => rfl
  | startPhase plan phase =>
    refine (List.map_map).trans ?_
    exact List.map_id (plan.phase phase)

theorem stops_moved {move} :
    (ShutdownCoordinator.moveActions move : ShutdownCoordinatorActions Id Sends Create Ph).stops =
      move.stops := by
  cases move with
  | none | stop | startPhase => rfl

/-- What `start_plan` moves to. -/
theorem startPlan_cases (self : ShutdownCoordinator σ Id) (plan : ShutdownPlan Id) :
    (plan.phases = [] ∧ self.startPlan plan = ({ self with state := .completed }, .stop)) ∨
    (0 < plan.phases.length ∧
      self.startPlan plan =
        ({ self with state := .stopping plan 0 (plan.phase 0) }, .startPhase plan 0)) := by
  rw [ShutdownCoordinator.startPlan]
  split_ifs with h
  · exact .inl ⟨List.isEmpty_iff.mp h, rfl⟩
  · exact .inr ⟨List.length_pos_iff.mpr fun hnil => h (List.isEmpty_iff.mpr hnil), rfl⟩

variable [DecidableEq Id]

variable {awaiting : List Id} {self : ShutdownCoordinator σ Id} {plan : ShutdownPlan Id}
    {event : ShutdownCoordinatorEvent Event (ShutdownPlan Id) Id Outcome}

theorem awaits_stopping {P : Type} {plan : P} {phase : ℕ} {child : Id} :
    (ShutdownState.stopping plan phase awaiting).awaits child = true ↔ child ∈ awaiting :=
  List.contains_iff_mem

/-- What `child_stopped` makes of an awaited child: its phase goes on, the next one starts, or the
coordinator stops. -/
theorem childStopped_cases {phase} (hstate : self.state = .stopping plan phase awaiting) {child}
    (h : child ∈ awaiting) :
    (awaiting.erase child ≠ [] ∧ self.childStopped child =
      ({ self with state := .stopping plan phase (awaiting.erase child) }, .none)) ∨
    (awaiting.erase child = [] ∧ phase + 1 = plan.phases.length ∧
      self.childStopped child = ({ self with state := .completed }, .stop)) ∨
    (awaiting.erase child = [] ∧ phase + 1 ≠ plan.phases.length ∧ self.childStopped child =
      ({ self with state := .stopping plan (phase + 1) (plan.phase (phase + 1)) },
        .startPhase plan (phase + 1))) := by
  obtain ⟨position, hposition⟩ : ∃ position, awaiting.idxOf? child = some position := by
    rw [← Option.isSome_iff_exists, List.isSome_idxOf?]
    exact h
  have herase : awaiting.eraseIdx position = awaiting.erase child := by
    rw [List.erase_eq_eraseIdx, hposition]
  simp only [ShutdownCoordinator.childStopped, hstate, hposition, herase, List.isEmpty_iff]
  split_ifs with hrest hlast
  · exact .inr (.inl ⟨hrest, hlast, rfl⟩)
  · exact .inr (.inr ⟨hrest, hlast, rfl⟩)
  · exact .inl ⟨hrest, rfl⟩

/-- A transition that is refused takes no step. -/
theorem turn_refused {next : ShutdownCoordinator σ Id}
    {error : ShutdownCoordinatorError Error (ShutdownPlan Id) Id Outcome}
    (h : self.transition behavior event = (next, .error error))
    (hsteps : Steps self.state event next.state [] [] false) :
    let now := Machine.turn (ShutdownCoordinator.transition behavior) self event
    Steps now.before.state now.event now.after.state (asks now) (reports now) (ends now) := by
  intro now
  have hafter : now.after = next := congrArg Prod.fst h
  have hemitted : now.emitted = .error error := congrArg Prod.snd h
  obtain ⟨hasks, hreports, hends⟩ := turn_refused_nothing hemitted
  rw [hasks, hreports, hends, hafter]
  exact hsteps

/-- A transition of the coordinator itself does what its move says. -/
theorem turn_moved {next : ShutdownCoordinator σ Id}
    (move : ShutdownMove (ShutdownPlan Id)) (hevent : event.intoInner = none)
    (h : self.transition behavior event = (next, .ok (ShutdownCoordinator.moveActions move)))
    (hsteps : Steps self.state event next.state move.asks event.stopped move.stops) :
    let now := Machine.turn (ShutdownCoordinator.transition behavior) self event
    Steps now.before.state now.event now.after.state (asks now) (reports now) (ends now) := by
  intro now
  have hafter : now.after = next := congrArg Prod.fst h
  have hemitted : now.emitted = .ok (ShutdownCoordinator.moveActions move) := congrArg Prod.snd h
  have hreports : reports now = event.stopped := by
    rw [reports, hemitted]
    rfl
  have hends : ends now = move.stops := by
    have hinner : now.event.intoInner = none := hevent
    rw [ends, hemitted, hinner]
    exact stops_moved
  rw [asks_moved hemitted, hreports, hends, hafter]
  exact hsteps

/-- The second of plan and request starts the plan, unless it is empty. -/
theorem turn_begins (hbegins : Begins plan self.state event) (hevent : event.intoInner = none)
    (hstopped : event.stopped = []) (h : self.transition behavior event =
      ((self.startPlan plan).1, .ok (ShutdownCoordinator.moveActions (self.startPlan plan).2))) :
    let now := Machine.turn (ShutdownCoordinator.transition behavior) self event
    Steps now.before.state now.event now.after.state (asks now) (reports now) (ends now) := by
  rcases startPlan_cases self plan with ⟨hphases, hstart⟩ | ⟨hphases, hstart⟩
  · rw [hstart] at h
    refine turn_moved .stop hevent h ?_
    rw [hstopped]
    exact .empty plan _ _ hbegins hphases
  · rw [hstart] at h
    refine turn_moved (.startPhase plan 0) hevent h ?_
    rw [hstopped]
    exact .begun plan _ _ hbegins hphases

/-- An awaited child that stops is counted; the last one of a phase starts the next phase or stops
the coordinator. -/
theorem turn_childStopped {phase : ℕ} (hstate : self.state = .stopping plan phase awaiting)
    {stopped : ChildStopped Id Outcome} (hchild : stopped.child ∈ awaiting) :
    let now := Machine.turn (ShutdownCoordinator.transition behavior) self (.childStopped stopped)
    Steps now.before.state now.event now.after.state (asks now) (reports now) (ends now) := by
  have hawaits : self.state.awaits stopped.child = true := by
    rw [hstate]
    exact awaits_stopping.mpr hchild
  have h : self.transition behavior (.childStopped stopped) =
      ((self.childStopped stopped.child).1,
        .ok (ShutdownCoordinator.moveActions (self.childStopped stopped.child).2)) :=
    if_neg (not_not_intro hawaits)
  rcases childStopped_cases hstate hchild with
    ⟨hrest, hnext⟩ | ⟨hrest, hlast, hnext⟩ | ⟨hrest, hlast, hnext⟩
  · rw [hnext] at h
    refine turn_moved .none rfl h ?_
    rw [hstate]
    exact .counted plan phase awaiting stopped hchild hrest
  · rw [hnext] at h
    refine turn_moved .stop rfl h ?_
    rw [hstate]
    exact .finished plan phase awaiting stopped hchild hrest hlast
  · rw [hnext] at h
    refine turn_moved (.startPhase plan (phase + 1)) rfl h ?_
    rw [hstate]
    exact .advanced plan phase awaiting stopped hchild hrest hlast

/-- The wrapped behavior asks no child to stop and accepts no stop. -/
theorem turn_behavior (self : ShutdownCoordinator σ Id) (event : Event) :
    let now : ShutdownTurn σ Event Sends Create Ph Error Id Outcome :=
      Machine.turn (ShutdownCoordinator.transition behavior) self (.behavior event)
    Steps now.before.state now.event now.after.state (asks now) (reports now) (ends now) := by
  intro now
  have h : asks now = [] ∧ reports now = [] ∧ ends now = false := by
    cases hacted : (behavior.transition self.inner event).2 with
    | error error =>
      have hemitted : now.emitted = .error (.behavior error) := by
        simp only [now, Machine.turn, ShutdownCoordinator.transition, hacted, Except.map,
          Except.mapError]
      exact turn_refused_nothing hemitted
    | ok actions =>
      have hemitted : now.emitted = .ok (ShutdownCoordinator.wrap actions) := by
        simp only [now, Machine.turn, ShutdownCoordinator.transition, hacted, Except.map,
          Except.mapError]
      rw [asks, reports, ends, hemitted]
      exact ⟨rfl, rfl, rfl⟩
  obtain ⟨hasks, hreports, hends⟩ := h
  rw [hasks, hreports, hends]
  exact .behavior self.state event

/-- **A transition takes one of the steps.** -/
theorem turn_steps (self : ShutdownCoordinator σ Id)
    (event : ShutdownCoordinatorEvent Event (ShutdownPlan Id) Id Outcome) :
    let now := Machine.turn (ShutdownCoordinator.transition behavior) self event
    Steps now.before.state now.event now.after.state (asks now) (reports now) (ends now) := by
  obtain ⟨inner, state⟩ := self
  cases event with
  | behavior event => exact turn_behavior _ event
  | childRejected rejected =>
    by_cases hawaits : state.awaits rejected.child = true
    · exact turn_refused (if_pos hawaits) (.rejected state rejected)
    · exact turn_refused (if_neg hawaits) (.rejected state rejected)
  | requested =>
    cases state with
    | awaitingPlan => exact turn_moved .none rfl rfl .kept
    | ready plan => exact turn_begins .request rfl rfl rfl
    | awaitingPlanAfterShutdown | stopping | completed =>
      exact turn_moved .none rfl rfl (.repeated _ trivial)
  | plan plan =>
    cases state with
    | awaitingPlan => exact turn_moved .none rfl rfl (.installed plan)
    | awaitingPlanAfterShutdown => exact turn_begins .plan rfl rfl rfl
    | ready | stopping | completed => exact turn_refused rfl (.again _ plan trivial)
  | childStopped stopped =>
    by_cases hawaits : state.awaits stopped.child = true
    · cases state with
      | stopping plan phase awaiting =>
        exact turn_childStopped rfl (awaits_stopping.mp hawaits)
      | awaitingPlan | awaitingPlanAfterShutdown | ready | completed => cases hawaits
    · exact turn_refused (if_pos hawaits) (.unexpected state stopped (Bool.not_eq_true _ ▸ hawaits))

end Transition

/-! ### The record and the state -/

/-- **The state of a coordinator follows from its record.**  In a phase, everyone asked has either
been reported or is awaited. -/
inductive Orderly : ShutdownRecord Id → ShutdownState (ShutdownPlan Id) Id → Prop
  | awaitingPlan : Orderly ⟨none, false, [], [], 0⟩ .awaitingPlan
  | awaitingPlanAfterShutdown : Orderly ⟨none, true, [], [], 0⟩ .awaitingPlanAfterShutdown
  | ready plan : Orderly ⟨some plan, false, [], [], 0⟩ (.ready plan)
  | stopping plan phase awaiting reported (hphase : phase < plan.phases.length)
      (hawaiting : awaiting ≠ []) (hsublist : awaiting.Sublist (plan.phase phase))
      (hreported : (reported ++ awaiting).Perm (plan.before (phase + 1))) :
      Orderly ⟨some plan, true, plan.before (phase + 1), reported, 0⟩
        (.stopping plan phase awaiting)
  | completed plan reported (hreported : reported.Perm plan.children) :
      Orderly ⟨some plan, true, plan.children, reported, 1⟩ .completed

namespace Orderly

variable {recorded : ShutdownRecord Id} {state : ShutdownState (ShutdownPlan Id) Id}

/-- A state that has a plan has it from an installation. -/
theorem planned (h : Orderly recorded state) (hstate : state.Planned) :
    ∃ plan, recorded.installed = some plan := by
  cases h with
  | awaitingPlan | awaitingPlanAfterShutdown => exact hstate.elim
  | ready plan | stopping plan | completed plan => exact ⟨plan, rfl⟩

/-- A state in which shutdown has been requested. -/
theorem wanted (h : Orderly recorded state) (hstate : state.Wanted) : recorded.wanted = true := by
  cases h with
  | awaitingPlan | ready => exact hstate.elim
  | awaitingPlanAfterShutdown | stopping | completed => rfl

variable {event : ShutdownCoordinatorEvent Event (ShutdownPlan Id) Id Outcome}

variable {plan : ShutdownPlan Id} {phase : ℕ} {awaiting reported : List Id} {child : Id}

/-- The event that begins a plan completes the record of plan and request. -/
theorem begins (h : Orderly recorded state) (hbegins : Begins plan state event) :
    recorded.installed.or (offered event) = some plan ∧
      (recorded.wanted || requests event) = true ∧ recorded.asked = [] ∧ recorded.reported = [] ∧
      recorded.stops = 0 := by
  cases hbegins with
  | plan =>
    cases h with
    | awaitingPlanAfterShutdown => exact ⟨rfl, rfl, rfl, rfl, rfl⟩
  | request =>
    cases h with
    | ready => exact ⟨rfl, rfl, rfl, rfl, rfl⟩

/-- All children of the phases before the current one have been reported. -/
theorem before_reported (h : Orderly recorded (.stopping plan phase awaiting))
    (hchild : child ∈ plan.before phase) : child ∈ recorded.reported := by
  cases h with
  | stopping _ _ _ reported hphase _ hsublist hreported =>
    have hmem : child ∈ reported ++ awaiting := by
      rw [hreported.mem_iff, plan.before_succ hphase]
      exact List.mem_append_left _ hchild
    rcases List.mem_append.mp hmem with hmem | hmem
    · exact hmem
    · have hnodup := plan.before_nodup (phase + 1)
      rw [plan.before_succ hphase] at hnodup
      exact absurd rfl ((List.nodup_append.mp hnodup).2.2 child hchild child (hsublist.subset hmem))

/-- A child that is awaited is one of the current phase of the plan that was installed. -/
theorem in_phase (h : Orderly recorded (.stopping plan phase awaiting))
    (hchild : child ∈ awaiting) :
    recorded.installed = some plan ∧ recorded.wanted = true ∧ child ∈ plan.phase phase := by
  cases h with
  | stopping _ _ _ _ _ _ hsublist => exact ⟨rfl, rfl, hsublist.subset hchild⟩

/-- A child that is awaited has not been reported. -/
theorem not_reported (h : Orderly recorded (.stopping plan phase awaiting))
    (hchild : child ∈ awaiting) : child ∉ recorded.reported := by
  cases h with
  | stopping _ _ _ reported _ _ _ hreported =>
    intro hmem
    have hnodup := hreported.nodup_iff.mpr (plan.before_nodup (phase + 1))
    exact absurd rfl ((List.nodup_append.mp hnodup).2.2 child hmem child hchild)

/-- In a phase that goes on or ends, the stop of an awaited child is reported once. -/
theorem counted [DecidableEq Id]
    (hreported : (reported ++ awaiting).Perm (plan.before (phase + 1))) (h : child ∈ awaiting) :
    ((reported ++ [child]) ++ awaiting.erase child).Perm (plan.before (phase + 1)) := by
  rw [List.append_assoc, List.singleton_append]
  exact ((List.perm_cons_erase h).symm.append_left reported).trans hreported

/-- When nobody is awaited any more, all children so far have been reported. -/
theorem ended [DecidableEq Id]
    (hreported : (reported ++ awaiting).Perm (plan.before (phase + 1))) (h : child ∈ awaiting)
    (hrest : awaiting.erase child = []) :
    (reported ++ [child]).Perm (plan.before (phase + 1)) := by
  have hcounted := counted hreported h
  rwa [hrest, List.append_nil] at hcounted

/-- **Every step keeps the record in accord with the state.** -/
theorem step [DecidableEq Id] {next asks ends} (h : Orderly recorded state)
    (hsteps : Steps state event next asks reported ends) :
    Orderly ⟨recorded.installed.or (offered event), recorded.wanted || requests event,
      recorded.asked ++ asks, recorded.reported ++ reported, recorded.stops + ends.toNat⟩ next := by
  cases hsteps with
  | behavior | rejected | unexpected =>
    simpa [offered, requests] using h
  | again _ plan hplanned =>
    obtain ⟨installed, hinstalled⟩ := h.planned hplanned
    have heq : recorded.installed.or (offered (.plan plan : ShutdownCoordinatorEvent Event
        (ShutdownPlan Id) Id Outcome)) = recorded.installed := by
      rw [hinstalled]
      rfl
    rw [heq]
    simpa [requests] using h
  | «repeated» _ hwanted =>
    have heq := h.wanted hwanted
    simpa [offered, requests, ← heq] using h
  | kept =>
    cases h with
    | awaitingPlan => exact .awaitingPlanAfterShutdown
  | installed plan =>
    cases h with
    | awaitingPlan => exact .ready plan
  | begun plan _ _ hbegins hphases =>
    obtain ⟨hinstalled, hwanted, hasked, hreported, hstops⟩ := h.begins hbegins
    rw [hinstalled, hwanted, hasked, hreported, hstops]
    have hbefore : plan.before (0 + 1) = plan.phase 0 := by
      rw [plan.before_succ hphases, plan.before_zero, List.nil_append]
    have horderly := Orderly.stopping plan 0 (plan.phase 0) [] hphases (plan.phase_ne_nil hphases)
      (.refl _) (.of_eq (hbefore.symm ▸ List.nil_append _))
    rwa [hbefore] at horderly
  | empty plan _ _ hbegins hphases =>
    obtain ⟨hinstalled, hwanted, hasked, hreported, hstops⟩ := h.begins hbegins
    rw [hinstalled, hwanted, hasked, hreported, hstops]
    have hchildren : plan.children = [] := by rw [ShutdownPlan.children, hphases, List.flatten_nil]
    have horderly := Orderly.completed plan [] (.of_eq hchildren.symm)
    rwa [hchildren] at horderly
  | counted plan phase awaiting stopped hchild hrest =>
    cases h with
    | stopping _ _ _ reported hphase hawaiting hsublist hreported =>
      have horderly := Orderly.stopping plan phase (awaiting.erase stopped.child)
        (reported ++ [stopped.child]) hphase hrest ((List.erase_sublist).trans hsublist)
        (counted hreported hchild)
      simpa [offered, requests] using horderly
  | advanced plan phase awaiting stopped hchild hrest hnext =>
    cases h with
    | stopping _ _ _ reported hphase hawaiting hsublist hreported =>
      have hlt : phase + 1 < plan.phases.length := by omega
      have hended := ended hreported hchild hrest
      have horderly := Orderly.stopping plan (phase + 1) (plan.phase (phase + 1))
        (reported ++ [stopped.child]) hlt (plan.phase_ne_nil hlt) (.refl _)
        (by rw [plan.before_succ hlt]; exact hended.append_right _)
      rw [plan.before_succ hlt] at horderly
      exact horderly
  | finished plan phase awaiting stopped hchild hrest hnext =>
    cases h with
    | stopping _ _ _ reported hphase hawaiting hsublist hreported =>
      have hended := ended hreported hchild hrest
      rw [hnext, plan.before_length] at hended
      have horderly := Orderly.completed plan (reported ++ [stopped.child]) hended
      simpa [offered, requests, hnext, plan.before_length] using horderly

end Orderly

/-! ### Runs -/

/-- The coordinator of a plan, or one that waits for its plan: `new` or `awaiting_plan`. -/
def built (inner : σ) : Option (ShutdownPlan Id) → ShutdownCoordinator σ Id
  | some plan => .new inner plan
  | none => .awaitingPlan inner

section Runs

variable [DecidableEq Id] [SendEffects Sends] {behavior : Behavior σ Event Sends Create Ph Error}
  {inner : σ} {start : Option (ShutdownPlan Id)}

/-- **The state of every run follows from its record.** -/
theorem run_orderly
    (events : List (ShutdownCoordinatorEvent Event (ShutdownPlan Id) Id Outcome)) :
    Orderly
      (record start (Machine.turns (ShutdownCoordinator.transition behavior) (built inner start)
        events))
      (Machine.reached (ShutdownCoordinator.transition behavior) (built inner start)
        events).state := by
  induction events using List.reverseRecOn with
  | nil =>
    cases start with
    | none => exact .awaitingPlan
    | some plan => exact .ready plan
  | append_singleton events event ih =>
    rw [Machine.turns_snoc, Machine.reached_snoc, record_snoc]
    exact ih.step (turn_steps _ event)

/-- **A turn of a run is a step from an orderly state.** -/
theorem turn_orderly
    {events : List (ShutdownCoordinatorEvent Event (ShutdownPlan Id) Id Outcome)}
    {earlier later : List (ShutdownTurn σ Event Sends Create Ph Error Id Outcome)}
    {now : ShutdownTurn σ Event Sends Create Ph Error Id Outcome}
    (h : Machine.turns (ShutdownCoordinator.transition behavior) (built inner start) events =
      earlier ++ now :: later) :
    Orderly (record start earlier) now.before.state ∧
      Steps now.before.state now.event now.after.state (asks now) (reports now) (ends now) := by
  obtain ⟨before, hearlier, hnow⟩ := Machine.turns_split h
  have hbefore : now.before =
      Machine.reached (ShutdownCoordinator.transition behavior) (built inner start) before := by
    rw [hnow]
    rfl
  constructor
  · rw [hearlier, hbefore]
    exact run_orderly before
  · rw [hnow]
    exact turn_steps _ now.event

end Runs
end Bombay.PhasedShutdown
