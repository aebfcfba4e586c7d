/-
# When a phased shutdown completes

A coordinator counts the stop of a child only in the phase of the child.  A stop that is reported
earlier, before the plan, before the request or during an earlier phase, is answered with
`UnexpectedChildStopped` and not remembered.  So if every child of the plan is reported once, the
shutdown completes exactly when every report comes in its phase.
-/

import Bombay.Shutdown.Runs

namespace Bombay.PhasedShutdown

variable {σ Event Sends Create Ph Error Id Outcome : Type}

/-- The children whose stop is reported by the events. -/
def stopsOf (events : List (ShutdownCoordinatorEvent Event (ShutdownPlan Id) Id Outcome)) :
    List Id := events.flatMap ShutdownCoordinatorEvent.stopped

/-- The plan of a coordinator that was built with the plan `start`, or without one: the first that
is offered counts. -/
def planOf (start : Option (ShutdownPlan Id))
    (events : List (ShutdownCoordinatorEvent Event (ShutdownPlan Id) Id Outcome)) :
    Option (ShutdownPlan Id) := start.or (events.findSome? offered)

/-- The events bring the plan and a request, and report every child of the plan once. -/
structure Given [DecidableEq Id] (start : Option (ShutdownPlan Id)) (plan : ShutdownPlan Id)
    (events : List (ShutdownCoordinatorEvent Event (ShutdownPlan Id) Id Outcome)) : Prop where
  installed : planOf start events = some plan
  requested : .requested ∈ events
  stopped : ∀ child ∈ plan.children, (stopsOf events).count child = 1

/-- After the events there are plan and request, and every child of the phases before that of
`child` has been reported. -/
def Due (start : Option (ShutdownPlan Id)) (plan : ShutdownPlan Id)
    (events : List (ShutdownCoordinatorEvent Event (ShutdownPlan Id) Id Outcome)) (child : Id) :
    Prop :=
  planOf start events = some plan ∧ .requested ∈ events ∧
    ∃ phase, child ∈ plan.phase phase ∧ ∀ other ∈ plan.before phase, other ∈ stopsOf events

/-- Every child of the plan is reported when it is due. -/
def InOrder (start : Option (ShutdownPlan Id)) (plan : ShutdownPlan Id)
    (events : List (ShutdownCoordinatorEvent Event (ShutdownPlan Id) Id Outcome)) : Prop :=
  ∀ earlier stopped later, events = earlier ++ .childStopped stopped :: later →
    stopped.child ∈ plan.children → Due start plan earlier stopped.child

/-! ### Events and records -/

section Events

variable {start : Option (ShutdownPlan Id)}
  {events earlier later : List (ShutdownCoordinatorEvent Event (ShutdownPlan Id) Id Outcome)}

theorem stopsOf_append : stopsOf (earlier ++ later) = stopsOf earlier ++ stopsOf later :=
  List.flatMap_append

/-- A plan that has been found stays. -/
theorem planOf_append {plan} (h : planOf start earlier = some plan) :
    planOf start (earlier ++ later) = some plan := by
  rw [planOf] at h
  rw [planOf, List.findSome?_append, ← Option.or_assoc, h, Option.some_or]

theorem requests_iff {event : ShutdownCoordinatorEvent Event (ShutdownPlan Id) Id Outcome} :
    requests event = true ↔ event = .requested := by
  cases event with
  | behavior | plan | requested | childStopped | childRejected => simp [requests]

theorem mem_stopped {event : ShutdownCoordinatorEvent Event (ShutdownPlan Id) Id Outcome} {child}
    (h : child ∈ event.stopped) :
    ∃ stopped, event = .childStopped stopped ∧ stopped.child = child := by
  cases event with
  | childStopped stopped => exact ⟨stopped, rfl, (List.mem_singleton.mp h).symm⟩
  | behavior | plan | requested | childRejected => exact absurd h List.not_mem_nil

end Events

section Records

variable {start : Option (ShutdownPlan Id)}
  {turns : List (ShutdownTurn σ Event Sends Create Ph Error Id Outcome)}

theorem record_installed : (record start turns).installed = planOf start (turns.map Turn.event) := by
  rw [record, planOf, List.findSome?_map]
  rfl

theorem record_wanted :
    (record start turns).wanted = true ↔ .requested ∈ turns.map Turn.event := by
  rw [record, List.any_eq_true, List.mem_map]
  simp only [requests_iff]

/-- A stop that a turn accepts is one that its event reports. -/
theorem reports_subset {now : ShutdownTurn σ Event Sends Create Ph Error Id Outcome} {child : Id}
    (h : child ∈ reports now) : child ∈ now.event.stopped := by
  rw [reports] at h
  cases hemitted : now.emitted with
  | ok actions => rwa [hemitted] at h
  | error error =>
    rw [hemitted] at h
    exact absurd h List.not_mem_nil

/-- Only what the events report is recorded. -/
theorem reported_stopsOf {child : Id} (h : child ∈ (record start turns).reported) :
    child ∈ stopsOf (turns.map Turn.event) := by
  obtain ⟨now, hnow, hchild⟩ := List.mem_flatMap.mp h
  exact List.mem_flatMap.mpr ⟨now.event, List.mem_map_of_mem hnow, reports_subset hchild⟩

end Records

/-- What occurs once in a list occurs at one place. -/
theorem split_unique {α β : Type} [DecidableEq β] {f : α → List β} {value : β}
    {first second first' second' : List α} {a b : α}
    (hsplit : first ++ a :: second = first' ++ b :: second') (ha : value ∈ f a) (hb : value ∈ f b)
    (hcount : ((first ++ a :: second).flatMap f).count value = 1) : first = first' := by
  induction first generalizing first' with
  | nil =>
    cases first' with
    | nil => rfl
    | cons head first' =>
      obtain ⟨rfl, hsecond⟩ := List.cons.inj hsplit
      have hpos := List.count_pos_iff.mpr ha
      have hpos' : 0 < (second.flatMap f).count value := by
        rw [hsecond]
        refine List.count_pos_iff.mpr (List.mem_flatMap.mpr ⟨b, ?_, hb⟩)
        exact List.mem_append_right _ List.mem_cons_self
      rw [List.nil_append, List.flatMap_cons, List.count_append] at hcount
      omega
  | cons head first ih =>
    simp only [List.cons_append, List.flatMap_cons, List.count_append] at hcount hsplit
    have hpos := List.count_pos_iff.mpr ha
    have hle : (f a).count value ≤ ((first ++ a :: second).flatMap f).count value := by
      simp only [List.flatMap_append, List.flatMap_cons, List.count_append]
      omega
    cases first' with
    | nil =>
      obtain ⟨rfl, -⟩ := List.cons.inj hsplit
      have hpos' := List.count_pos_iff.mpr hb
      omega
    | cons head' first' =>
      obtain ⟨rfl, hrest⟩ := List.cons.inj hsplit
      rw [ih hrest (by omega)]

/-! ### When a child is awaited -/

namespace Orderly

variable {recorded : ShutdownRecord Id} {state : ShutdownState (ShutdownPlan Id) Id}
  {plan : ShutdownPlan Id}

/-- **With plan and request, and the phases before reported, a child that is not reported is
awaited.** -/
theorem awaits_next [DecidableEq Id] (h : Orderly recorded state)
    (hinstalled : recorded.installed = some plan) (hwanted : recorded.wanted = true) {phase child}
    (hphase : child ∈ plan.phase phase)
    (hbefore : ∀ other ∈ plan.before phase, other ∈ recorded.reported)
    (hfresh : child ∉ recorded.reported) : state.awaits child = true := by
  cases h with
  | awaitingPlan | awaitingPlanAfterShutdown => cases hinstalled
  | ready => cases hwanted
  | completed current reported hreported =>
    obtain rfl := Option.some.inj hinstalled
    exact absurd (hreported.mem_iff.mpr (current.mem_children hphase)) hfresh
  | stopping current number awaiting reported hnumber hawaiting hsublist hreported =>
    obtain rfl := Option.some.inj hinstalled
    refine awaits_stopping.mpr ?_
    rcases Nat.lt_or_ge phase (number + 1) with hlt | hge
    · have hmem : child ∈ reported ++ awaiting :=
        hreported.mem_iff.mpr (current.mem_before hphase hlt)
      rcases List.mem_append.mp hmem with hmem | hmem
      · exact absurd hmem hfresh
      · exact hmem
    · -- a later phase: everyone who is awaited would have been reported
      obtain ⟨other, hother⟩ := List.exists_mem_of_ne_nil awaiting hawaiting
      have horderly :=
        Orderly.stopping current number awaiting reported hnumber hawaiting hsublist hreported
      have hasked : other ∈ current.before (number + 1) :=
        current.mem_before (hsublist.subset hother) (Nat.lt_succ_self number)
      exact absurd (hbefore other ((current.before_mono hge).subset hasked))
        (horderly.not_reported hother)

/-- When every child of the plan has been reported, the coordinator has completed. -/
theorem completed_of_reported (h : Orderly recorded state)
    (hinstalled : recorded.installed = some plan) (hwanted : recorded.wanted = true)
    (hall : ∀ child ∈ plan.children, child ∈ recorded.reported) : state = .completed := by
  cases h with
  | awaitingPlan | awaitingPlanAfterShutdown => cases hinstalled
  | ready => cases hwanted
  | completed => rfl
  | stopping current number awaiting reported hnumber hawaiting hsublist hreported =>
    obtain rfl := Option.some.inj hinstalled
    obtain ⟨other, hother⟩ := List.exists_mem_of_ne_nil awaiting hawaiting
    have horderly :=
      Orderly.stopping current number awaiting reported hnumber hawaiting hsublist hreported
    have hplanned := hall other (current.mem_children (hsublist.subset hother))
    exact absurd hplanned (horderly.not_reported hother)

/-- In a completed run every child of the plan has been reported. -/
theorem completed_reported (h : Orderly recorded .completed)
    (hinstalled : recorded.installed = some plan) {child} (hchild : child ∈ plan.children) :
    child ∈ recorded.reported := by
  cases h with
  | completed current reported hreported =>
    obtain rfl := Option.some.inj hinstalled
    exact hreported.mem_iff.mpr hchild

end Orderly

/-- **The stop of a child that is awaited is due.** -/
theorem awaited_due {start : Option (ShutdownPlan Id)} {plan : ShutdownPlan Id}
    {turns : List (ShutdownTurn σ Event Sends Create Ph Error Id Outcome)} {phase : ℕ}
    {awaiting : List Id} (h : Orderly (record start turns) (.stopping plan phase awaiting))
    {child : Id} (hchild : child ∈ awaiting) : Due start plan (turns.map Turn.event) child := by
  obtain ⟨hinstalled, hwanted, hphase⟩ := h.in_phase hchild
  rw [record_installed] at hinstalled
  rw [record_wanted] at hwanted
  exact ⟨hinstalled, hwanted, phase, hphase,
    fun other hother => reported_stopsOf (h.before_reported hother)⟩

/-! ### Runs -/

section Runs

variable [DecidableEq Id] [SendEffects Sends] {behavior : Behavior σ Event Sends Create Ph Error}
  {inner : σ} {start : Option (ShutdownPlan Id)} {plan : ShutdownPlan Id}
  {events : List (ShutdownCoordinatorEvent Event (ShutdownPlan Id) Id Outcome)}

/-- **A stop that is not due is refused, and the coordinator does not remember it.** -/
theorem early_refused {earlier : List (ShutdownCoordinatorEvent Event (ShutdownPlan Id) Id Outcome)}
    {stopped : ChildStopped Id Outcome} (h : ∀ plan, ¬ Due start plan earlier stopped.child) :
    let self := Machine.reached (ShutdownCoordinator.transition behavior) (built inner start) earlier
    self.transition behavior (.childStopped stopped) =
      (self, .error (.unexpectedChildStopped stopped)) := by
  intro self
  refine if_pos fun hawaits => ?_
  have horderly : Orderly (record start (Machine.turns (ShutdownCoordinator.transition behavior)
      (built inner start) earlier)) self.state := run_orderly earlier
  cases hstate : self.state with
  | stopping plan phase awaiting =>
    rw [hstate] at hawaits horderly
    have hdue := awaited_due horderly (awaits_stopping.mp hawaits)
    rw [Machine.turns_event] at hdue
    exact h plan hdue
  | awaitingPlan | awaitingPlanAfterShutdown | ready | completed =>
    rw [hstate] at hawaits
    cases hawaits

/-- A stop that is accepted was due. -/
theorem reported_due {child : Id}
    (h : child ∈ (record start (Machine.turns (ShutdownCoordinator.transition behavior)
      (built inner start) events)).reported) :
    ∃ earlier stopped later plan, events = earlier ++ .childStopped stopped :: later ∧
      stopped.child = child ∧ Due start plan earlier child := by
  obtain ⟨now, hnow, hchild⟩ := List.mem_flatMap.mp h
  obtain ⟨earlier, later, hsplit⟩ := List.append_of_mem hnow
  obtain ⟨horderly, hsteps⟩ := turn_orderly hsplit
  obtain ⟨plan, phase, awaiting, hstate, hawaited⟩ := hsteps.awaited hchild
  obtain ⟨stopped, hevent, hstopped⟩ := mem_stopped (reports_subset hchild)
  rw [hstate] at horderly
  refine ⟨earlier.map Turn.event, stopped, later.map Turn.event, plan, ?_, hstopped,
    awaited_due horderly hawaited⟩
  rw [← hevent, ← List.map_cons, ← List.map_append, ← hsplit]
  exact (Machine.turns_event events).symm

/-- The stop of an awaited child is accepted. -/
theorem reports_awaited {self : ShutdownCoordinator σ Id} {stopped : ChildStopped Id Outcome}
    (h : self.state.awaits stopped.child = true) :
    reports (Machine.turn (ShutdownCoordinator.transition behavior) self (.childStopped stopped)) =
      [stopped.child] := by
  have hstep : self.transition behavior (.childStopped stopped) =
      ((self.childStopped stopped.child).1,
        .ok (ShutdownCoordinator.moveActions (self.childStopped stopped.child).2)) :=
    if_neg (not_not_intro h)
  rw [Machine.turn, hstep]
  rfl

/-- Where every child is reported when it is due, every report is accepted. -/
theorem due_reported (horder : InOrder start plan events)
    {earlier later : List (ShutdownCoordinatorEvent Event (ShutdownPlan Id) Id Outcome)}
    (hsplit : events = earlier ++ later) {child : Id} (hplanned : child ∈ plan.children)
    (hchild : child ∈ stopsOf earlier) :
    child ∈ (record start (Machine.turns (ShutdownCoordinator.transition behavior)
      (built inner start) earlier)).reported := by
  induction earlier using List.reverseRecOn generalizing later child with
  | nil => exact absurd hchild List.not_mem_nil
  | append_singleton earlier event ih =>
    rw [List.append_assoc] at hsplit
    rw [Machine.turns_snoc, record_snoc]
    rw [stopsOf_append] at hchild
    by_cases hmem : child ∈ stopsOf earlier
    · exact List.mem_append_left _ (ih hsplit hplanned hmem)
    · refine List.mem_append_right _ ?_
      have hlast : child ∈ event.stopped := by
        rcases List.mem_append.mp hchild with hchild | hchild
        · exact absurd hchild hmem
        · rwa [stopsOf, List.flatMap_singleton] at hchild
      obtain ⟨stopped, rfl, rfl⟩ := mem_stopped hlast
      obtain ⟨hinstalled, hwanted, phase, hphase, hbefore⟩ :=
        horder earlier stopped later hsplit hplanned
      have horderly : Orderly (record start (Machine.turns (ShutdownCoordinator.transition behavior)
          (built inner start) earlier)) (Machine.reached (ShutdownCoordinator.transition behavior)
            (built inner start) earlier).state := run_orderly earlier
      have hevents : (Machine.turns (ShutdownCoordinator.transition behavior) (built inner start)
          earlier).map Turn.event = earlier := Machine.turns_event earlier
      rw [← hevents] at hinstalled hwanted hmem
      rw [← record_installed] at hinstalled
      rw [← record_wanted] at hwanted
      have hawaits := horderly.awaits_next hinstalled hwanted hphase
        (fun other hother =>
          ih hsplit ((plan.before_sublist phase).subset hother) (hbefore other hother))
        (fun hreported => hmem (reported_stopsOf hreported))
      rw [reports_awaited hawaits]
      exact List.mem_singleton_self stopped.child

/-- **When a phased shutdown completes.** -/
theorem completed_iff (hgiven : Given start plan events) :
    (Machine.reached (ShutdownCoordinator.transition behavior) (built inner start) events).state =
      .completed ↔ InOrder start plan events := by
  have hrun : Orderly (record start (Machine.turns (ShutdownCoordinator.transition behavior)
      (built inner start) events)) (Machine.reached (ShutdownCoordinator.transition behavior)
        (built inner start) events).state := run_orderly events
  have hinstalled : (record start (Machine.turns (ShutdownCoordinator.transition behavior)
      (built inner start) events)).installed = some plan := by
    rw [record_installed, Machine.turns_event]
    exact hgiven.installed
  constructor
  · intro hcompleted earlier stopped later hsplit hplanned
    rw [hcompleted] at hrun
    obtain ⟨accepted, other, rest, found, hother, hchild, hdue⟩ :=
      reported_due (hrun.completed_reported hinstalled hplanned)
    have hstopped : stopped.child ∈
        (.childStopped other : ShutdownCoordinatorEvent Event (ShutdownPlan Id) Id Outcome).stopped :=
      List.mem_singleton.mpr hchild.symm
    have hcount := hgiven.stopped stopped.child hplanned
    rw [stopsOf, hother] at hcount
    have hearlier : accepted = earlier :=
      split_unique (hother.symm.trans hsplit) hstopped (List.mem_singleton_self _) hcount
    have hfound : found = plan := by
      have h : planOf start (accepted ++ .childStopped other :: rest) = some found :=
        planOf_append hdue.1
      rw [← hother, hgiven.installed] at h
      exact (Option.some.inj h).symm
    rwa [hearlier, hfound] at hdue
  · intro horder
    have hwanted : (record start (Machine.turns (ShutdownCoordinator.transition behavior)
        (built inner start) events)).wanted = true := by
      rw [record_wanted, Machine.turns_event]
      exact hgiven.requested
    refine hrun.completed_of_reported hinstalled hwanted fun child hchild => ?_
    refine due_reported horder (List.append_nil events).symm hchild ?_
    rw [← List.count_pos_iff, hgiven.stopped child hchild]
    exact Nat.one_pos

variable (behavior inner)

/-- **A phased shutdown completes exactly if every child is reported when it is due**; a stop that
is reported before is refused, and changes nothing. -/
theorem completion_law (hgiven : Given start plan events) :
    ((Machine.reached (ShutdownCoordinator.transition behavior) (built inner start) events).state =
      .completed ↔ InOrder start plan events) ∧
    ∀ earlier stopped later, events = earlier ++ .childStopped stopped :: later →
      ¬ Due start plan earlier stopped.child →
      let self :=
        Machine.reached (ShutdownCoordinator.transition behavior) (built inner start) earlier
      self.transition behavior (.childStopped stopped) =
        (self, .error (.unexpectedChildStopped stopped)) := by
  refine ⟨completed_iff hgiven, fun earlier stopped later hsplit hdue => ?_⟩
  refine early_refused fun other hother => ?_
  have hplan : planOf start events = some other := by
    rw [hsplit]
    exact planOf_append hother.1
  rw [hgiven.installed] at hplan
  obtain rfl := Option.some.inj hplan
  exact hdue hother

end Runs

/-! ### A stop that comes early -/

/-- A behavior that does nothing. -/
def idle : Behavior Unit Empty (List Empty) Empty Empty Empty where
  init inner := (inner, .ok .cont)
  transition _ event := nomatch event

/-- A plan of two phases, with one child each. -/
def twoPhases : ShutdownPlan ℕ where
  phases := [[1], [2]]
  nonempty := by decide
  distinct := by decide

/-- Both children are reported when they are due. -/
def orderlyStops : List (ShutdownCoordinatorEvent Empty (ShutdownPlan ℕ) ℕ Unit) :=
  [.plan twoPhases, .requested, .childStopped ⟨1, (), 0⟩, .childStopped ⟨2, (), 0⟩]

/-- The child of the second phase stops on its own during the first. -/
def earlyStop : List (ShutdownCoordinatorEvent Empty (ShutdownPlan ℕ) ℕ Unit) :=
  [.plan twoPhases, .requested, .childStopped ⟨2, (), 0⟩, .childStopped ⟨1, (), 0⟩]

theorem completion_two_phases :
    (Machine.reached (ShutdownCoordinator.transition idle) (built () none) orderlyStops).state =
      .completed ↔ InOrder none twoPhases orderlyStops :=
  (completion_law idle () ⟨rfl, by decide, by decide⟩).1

/-- **The coordinator waits for a child whose stop it has been given**: the stop came early, so it
was refused, and there is no other. -/
theorem early_stop_waits :
    ¬ ∀ (start : Option (ShutdownPlan ℕ)) (plan : ShutdownPlan ℕ)
      (events : List (ShutdownCoordinatorEvent Empty (ShutdownPlan ℕ) ℕ Unit)),
      Given start plan events →
        (Machine.reached (ShutdownCoordinator.transition idle) (built () start) events).state =
          .completed := by
  intro h
  have hcompleted := h none twoPhases earlyStop ⟨rfl, by decide, by decide⟩
  have hwaiting : (Machine.reached (ShutdownCoordinator.transition idle) (built () none)
      earlyStop).state = .stopping twoPhases 1 [2] := by decide
  rw [hwaiting] at hcompleted
  cases hcompleted

end Bombay.PhasedShutdown
