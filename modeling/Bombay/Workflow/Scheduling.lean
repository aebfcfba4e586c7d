/-
# Workflows schedule every step once and never get stuck

In a running workflow a step is blocked exactly while a prerequisite is incomplete (`Settled`).
Every message is one of a few moves (`Moves`), each of which keeps that, so a step becomes active
when its last prerequisite completes.  As the dependencies have no cycle, of the incomplete steps
one has only complete prerequisites, and it is active: a running workflow is never stuck.
-/

import Bombay.Workflow.Validation
import Bombay.Lib.Machine

namespace Bombay.Workflows

open Precedence

variable {K Route : Type} [DecidableEq K]

/-! ### The table of a running workflow -/

/-- The entries of a running workflow whose steps have given states. -/
def table (definition : WorkflowDefinition K) (states : K → WorkflowStepState) :
    List (K × WorkflowStepState) :=
  definition.steps.map fun step => (step, states step)

variable {definition : WorkflowDefinition K} {states : K → WorkflowStepState}
    {message : WorkflowMessage K Route} {state : WorkflowState K Route}

omit [DecidableEq K] in
theorem mem_table {step state} :
    (step, state) ∈ table definition states ↔ step ∈ definition.steps ∧ states step = state := by
  rw [table, List.mem_map]
  constructor
  · rintro ⟨other, hother, h⟩
    obtain ⟨rfl, rfl⟩ := Prod.mk.inj h
    exact ⟨hother, rfl⟩
  · rintro ⟨hstep, rfl⟩
    exact ⟨step, hstep, rfl⟩

/-- The states when a run begins: the roots are active. -/
def begun (definition : WorkflowDefinition K) (step : K) : WorkflowStepState :=
  if Workflow.isRoot definition step then .active else .blocked

/-- The states when a step completes. -/
def finish (states : K → WorkflowStepState) (step : K) : K → WorkflowStepState :=
  Function.update states step .completed

/-- The step is blocked, and all its prerequisites are complete. -/
def ready (definition : WorkflowDefinition K) (states : K → WorkflowStepState) (step : K) : Bool :=
  states step = .blocked ∧
    prerequisitesIn definition.dependencies
      (definition.steps.filter fun other => states other = .completed) step

/-- The states when the steps that are ready become active. -/
def activateReady (definition : WorkflowDefinition K) (states : K → WorkflowStepState) (step : K) :
    WorkflowStepState :=
  if ready definition states step then .active else states step

/-- **A step is blocked exactly while a prerequisite is incomplete.** -/
def Settled (definition : WorkflowDefinition K) (states : K → WorkflowStepState) : Prop :=
  ∀ step ∈ definition.steps, states step = .blocked ↔
    ∃ required, definition.Before required step ∧ states required ≠ .completed

/-- A step is not complete. -/
def Unfinished (definition : WorkflowDefinition K) (states : K → WorkflowStepState) : Prop :=
  ∃ step ∈ definition.steps, states step ≠ .completed

theorem isRoot_iff {step} :
    Workflow.isRoot definition step = true ↔ ∀ required, ¬ definition.Before required step := by
  rw [Workflow.isRoot, Bool.not_eq_true', List.any_eq_false]
  constructor
  · intro h required hrequired
    exact h (required, step) hrequired (decide_eq_true rfl)
  · rintro h ⟨required, dependent⟩ hdependency hstep
    obtain rfl := of_decide_eq_true hstep
    exact h required hdependency

theorem ready_iff (hwell : definition.WellFormed) {step} :
    ready definition states step = true ↔ states step = .blocked ∧
      ∀ required, definition.Before required step → states required = .completed := by
  rw [ready, decide_eq_true_iff, prerequisitesIn_iff]
  refine and_congr_right fun _ => forall_congr' fun required => ?_
  refine ⟨fun h hbefore => ?_, fun h hbefore => ?_⟩
  · exact of_decide_eq_true (List.mem_filter.mp (h hbefore)).2
  · exact List.mem_filter.mpr ⟨(hwell.defined required step hbefore).1, decide_eq_true (h hbefore)⟩

/-- A step that becomes active was blocked, so the complete steps stay the same. -/
theorem activateReady_completed {step} :
    activateReady definition states step = .completed ↔ states step = .completed := by
  unfold activateReady
  split
  · next hready =>
    have hblocked : states step = .blocked := (decide_eq_true_iff.mp hready).1
    rw [hblocked]
    exact ⟨nofun, nofun⟩
  · exact Iff.rfl

/-- **A run begins settled.** -/
theorem begun_settled (definition : WorkflowDefinition K) :
    Settled definition (begun definition) := by
  intro step _
  have hincomplete : ∀ other, begun definition other ≠ .completed := by
    intro other
    unfold begun
    split <;> exact nofun
  unfold begun
  split
  · next hroot =>
    refine ⟨nofun, fun ⟨required, hbefore, _⟩ => ?_⟩
    exact absurd hbefore (isRoot_iff.mp hroot required)
  · next hroot =>
    refine ⟨fun _ => ?_, fun _ => rfl⟩
    rw [isRoot_iff, not_forall] at hroot
    obtain ⟨required, hbefore⟩ := hroot
    exact ⟨required, not_not.mp hbefore, hincomplete required⟩

/-- A step that was not complete stays as it is when another one completes. -/
theorem finish_blocked {step other} (hactive : states step = .active) :
    finish states step other = .blocked ↔ states other = .blocked := by
  by_cases hother : other = step
  · rw [hother, finish, Function.update_self, hactive]
    exact ⟨nofun, nofun⟩
  · rw [finish, Function.update_of_ne hother]

/-- **A completion keeps the workflow settled.** -/
theorem Settled.step (hwell : definition.WellFormed) (h : Settled definition states) {step}
    (hactive : states step = .active) :
    Settled definition (activateReady definition (finish states step)) := by
  intro other hother
  have hcomplete : (∃ required, definition.Before required other ∧
      activateReady definition (finish states step) required ≠ .completed) ↔
      ∃ required, definition.Before required other ∧ finish states step required ≠ .completed := by
    simp only [ne_eq, activateReady_completed]
  rw [hcomplete]
  unfold activateReady
  split
  · next hready =>
    refine ⟨nofun, fun ⟨required, hbefore, hincomplete⟩ => ?_⟩
    exact absurd (((ready_iff hwell).mp hready).2 required hbefore) hincomplete
  · next hready =>
    rw [ready_iff hwell, not_and, not_forall] at hready
    constructor
    · intro hblocked
      obtain ⟨required, hrequired⟩ := hready hblocked
      exact ⟨required, Classical.not_imp.mp hrequired⟩
    · rintro ⟨required, hbefore, hincomplete⟩
      rw [finish_blocked hactive, h other hother]
      refine ⟨required, hbefore, fun hcompleted => hincomplete ?_⟩
      by_cases hsame : required = step
      · rw [hsame, finish, Function.update_self]
      · rw [finish, Function.update_of_ne hsame, hcompleted]

omit [DecidableEq K] in
/-- **A workflow that is not finished has an active step.** -/
theorem Settled.exists_active (hwell : definition.WellFormed) (h : Settled definition states)
    (hunfinished : Unfinished definition states) :
    ∃ step, (step, WorkflowStepState.active) ∈ table definition states := by
  obtain ⟨some, hsome, hincomplete⟩ := hunfinished
  have hmem : some ∈ definition.steps.filter fun step => states step ≠ .completed :=
    List.mem_filter.mpr ⟨hsome, decide_eq_true hincomplete⟩
  obtain ⟨first, hfirst, hmin⟩ := hwell.acyclic.exists_first (List.ne_nil_of_mem hmem)
  obtain ⟨hstep, hfirst⟩ := List.mem_filter.mp hfirst
  have hunblocked : states first ≠ .blocked := by
    rw [ne_eq, h first hstep]
    rintro ⟨required, hbefore, hrequired⟩
    exact hmin required (List.mem_filter.mpr
      ⟨(hwell.defined required first hbefore).1, decide_eq_true hrequired⟩) hbefore
  refine ⟨first, mem_table.mpr ⟨hstep, ?_⟩⟩
  cases hstate : states first with
  | active => rfl
  | blocked => exact absurd hstate hunblocked
  | completed => exact absurd hstate (of_decide_eq_true hfirst)

/-! ### Moves -/

/-- What a transition emits. -/
abbrev Emitted (K Route : Type) := Except (WorkflowError K) (Replies K Route)

/-- The input is refused, with an error or with a rejection. -/
inductive Refuses : Emitted K Route → Prop
  | error (error : WorkflowError K) : Refuses (.error error)
  | rejected (replyTo : Route) (rejection : WorkflowRejection K) :
      Refuses (.ok [(replyTo, .rejected rejection)])

/-- The run is over. -/
def Terminal (state : WorkflowState K Route) : Prop :=
  match state with
  | .succeeded _ | .failed _ _ | .cancelled _ => True
  | .ready | .running _ _ => False

/-- **The messages that a state accepts**: the first start, what is said about an active step, and
a cancellation before the end. -/
def Accepts (state : WorkflowState K Route) : WorkflowMessage K Route → Prop
  | .start _ => state = .ready
  | .complete step | .fail step => ∃ steps replyTo, state = .running steps replyTo ∧
      (step, .active) ∈ steps
  | .cancel _ => ¬ Terminal state

/-- **What a message does to a workflow.** -/
inductive Moves (definition : WorkflowDefinition K) :
    WorkflowState K Route → WorkflowMessage K Route → WorkflowState K Route → Emitted K Route → Prop
  | started {replyTo} :
      Moves definition .ready (.start replyTo) (.running (table definition (begun definition)) replyTo)
        (.ok [(replyTo, .started (definition.steps.filter (Workflow.isRoot definition)))])
  | advanced {states step replyTo} (hsettled : Settled definition states)
      (hstep : step ∈ definition.steps) (hactive : states step = .active)
      (hrest : Unfinished definition (finish states step)) :
      Moves definition (.running (table definition states) replyTo) (.complete step)
        (.running (table definition (activateReady definition (finish states step))) replyTo)
        (.ok [(replyTo, .advanced step
          (definition.steps.filter (ready definition (finish states step))))])
  | succeeded {states step replyTo} (hstep : step ∈ definition.steps)
      (hactive : states step = .active) (hlast : ¬ Unfinished definition (finish states step)) :
      Moves definition (.running (table definition states) replyTo) (.complete step)
        (.succeeded replyTo) (.ok [(replyTo, .succeeded step)])
  | failed {states step replyTo} (hstep : step ∈ definition.steps)
      (hactive : states step = .active) :
      Moves definition (.running (table definition states) replyTo) (.fail step)
        (.failed step replyTo) (.ok [(replyTo, .failed step)])
  | cancelled {state replyTo} (hlive : ¬ Terminal state) :
      Moves definition state (.cancel replyTo) (.cancelled replyTo) (.ok [(replyTo, .cancelled)])
  | refused {state message emitted} (hrefuses : Refuses emitted)
      (hnot : ¬ Accepts state message) : Moves definition state message state emitted

/-- The steps of a running workflow have settled states, and it is not finished. -/
def Sound (definition : WorkflowDefinition K) (state : WorkflowState K Route) : Prop :=
  ∀ steps replyTo, state = .running steps replyTo →
    ∃ states, steps = table definition states ∧ Settled definition states ∧
      Unfinished definition states

/-- An entry of the table is found at the position of its step. -/
theorem findIdx?_table (definition : WorkflowDefinition K) (states : K → WorkflowStepState)
    (step : K) :
    (table definition states).findIdx? (fun entry => entry.1 = step) =
      definition.steps.findIdx? fun other => other = step := by
  rw [table, List.findIdx?_map]
  rfl

/-- What is found at a position is the step. -/
theorem getElem?_of_findIdx? {list : List K} {step index}
    (h : list.findIdx? (fun other => other = step) = some index) : list[index]? = some step := by
  obtain ⟨hlength, hfound, -⟩ := List.findIdx?_eq_some_iff_getElem.mp h
  rw [List.getElem?_eq_getElem hlength, of_decide_eq_true hfound]

theorem modify_table (hnodup : definition.steps.Nodup) {step index}
    (hindex : definition.steps[index]? = some step) :
    (table definition states).modify index (fun entry => (entry.1, .completed)) =
      table definition (finish states step) := by
  apply List.ext_getElem?
  intro position
  rw [List.getElem?_modify, table, table, List.getElem?_map, List.getElem?_map]
  cases hother : definition.steps[position]? with
  | none => rfl
  | some other =>
    by_cases hsame : index = position
    · rw [hsame] at hindex
      obtain rfl := Option.some.inj (hindex.symm.trans hother)
      simp [hsame, finish]
    · have hne : other ≠ step := by
        rintro rfl
        obtain ⟨hlength, hvalue⟩ := List.getElem?_eq_some_iff.mp hother
        obtain ⟨hlength', hvalue'⟩ := List.getElem?_eq_some_iff.mp hindex
        exact hsame ((hnodup.getElem_inj_iff).mp (hvalue'.trans hvalue.symm))
      simp [hsame, finish, Function.update_of_ne hne]

omit [DecidableEq K] in
/-- All entries are complete exactly if the workflow is finished. -/
theorem all_table :
    ((table definition states).all fun entry => entry.2 = .completed) = true ↔
      ¬ Unfinished definition states := by
  rw [List.all_eq_true, Unfinished]
  push Not
  constructor
  · intro h step hstep
    exact of_decide_eq_true (h (step, states step) (mem_table.mpr ⟨hstep, rfl⟩))
  · rintro h ⟨step, state⟩ hentry
    obtain ⟨hstep, rfl⟩ := mem_table.mp hentry
    exact decide_eq_true (h step hstep)

/-- The loop over the blocked steps activates the steps that are ready. -/
theorem activate_table (definition : WorkflowDefinition K) (states : K → WorkflowStepState) :
    Workflow.activate (prerequisitesIn definition.dependencies
        (((table definition states).filter fun entry => entry.2 = .completed).map Prod.fst))
      (table definition states) =
      (table definition (activateReady definition states),
        definition.steps.filter (ready definition states)) := by
  have hcompleted : ((table definition states).filter fun entry => entry.2 = .completed).map
      Prod.fst = definition.steps.filter fun step => states step = .completed := by
    rw [table, List.filter_map, List.map_map]
    exact List.map_id _
  rw [hcompleted, Workflow.activate]
  refine Prod.ext ?_ ?_
  · simp only [table, List.map_map]
    refine List.map_congr_left fun step _ => ?_
    simp only [Function.comp_apply, activateReady, ready, decide_eq_true_eq]
    split <;> rfl
  · simp only [table, List.filter_map, List.map_map]
    exact List.map_id _

omit [DecidableEq K] in
/-- Nothing is accepted about a step that is not active. -/
theorem not_accepts {replyTo step} (hmessage : message = .complete step ∨ message = .fail step)
    (hidle : step ∈ definition.steps → states step ≠ .active) :
    ¬ Accepts (.running (table definition states) replyTo) message := by
  rcases hmessage with rfl | rfl <;>
  · rintro ⟨steps, other, hstate, hactive⟩
    obtain ⟨rfl, -⟩ := WorkflowState.running.inj hstate
    obtain ⟨hmem, hactive⟩ := mem_table.mp hactive
    exact hidle hmem hactive

/-- `complete` on a running workflow. -/
theorem complete_moves (hnodup : definition.steps.Nodup)
    (hsettled : Settled definition states) (replyTo : Route) (step : K) :
    ∃ after replies,
      Workflow.complete ⟨definition, .running (table definition states) replyTo⟩ step =
        (⟨definition, after⟩, replies) ∧
      Moves definition (.running (table definition states) replyTo) (.complete step) after
        (.ok replies) := by
  simp only [Workflow.complete, findIdx?_table]
  cases hfound : definition.steps.findIdx? fun other => other = step with
  | none =>
    refine ⟨_, _, rfl, .refused (.rejected _ _) (not_accepts (.inl rfl) fun hstep => ?_)⟩
    have hnone := List.findIdx?_eq_none_iff.mp hfound step hstep
    exact absurd rfl (of_decide_eq_false hnone)
  | some index =>
    have hindex := getElem?_of_findIdx? hfound
    have hentry : (table definition states)[index]?.map Prod.snd = some (states step) := by
      rw [table, List.getElem?_map, hindex]
      rfl
    have hstep : step ∈ definition.steps := List.mem_of_getElem? hindex
    cases hstate : states step with
    | blocked | completed =>
      simp only [hentry, hstate]
      refine ⟨_, _, rfl, .refused (.rejected _ _) (not_accepts (.inl rfl) fun _ h => ?_)⟩
      cases hstate.symm.trans h
    | active =>
      simp only [hentry, hstate, modify_table hnodup hindex, activate_table]
      by_cases hlast : Unfinished definition (finish states step)
      · rw [if_neg fun h => all_table.mp h hlast]
        exact ⟨_, _, rfl, .advanced hsettled hstep hstate hlast⟩
      · rw [if_pos (all_table.mpr hlast)]
        exact ⟨_, _, rfl, .succeeded hstep hstate hlast⟩

/-- `fail` on a running workflow. -/
theorem fail_moves (definition : WorkflowDefinition K)
    (states : K → WorkflowStepState) (replyTo : Route) (step : K) :
    ∃ after replies,
      Workflow.fail ⟨definition, .running (table definition states) replyTo⟩ step =
        (⟨definition, after⟩, replies) ∧
      Moves definition (.running (table definition states) replyTo) (.fail step) after
        (.ok replies) := by
  have hfind : (table definition states).find? (fun entry => entry.1 = step) =
      (definition.steps.find? fun other => other = step).map fun step => (step, states step) := by
    rw [table, List.find?_map]
    rfl
  simp only [Workflow.fail, hfind]
  cases hfound : definition.steps.find? fun other => other = step with
  | none =>
    refine ⟨_, _, rfl, .refused (.rejected _ _) (not_accepts (.inr rfl) fun hstep => ?_)⟩
    exact absurd (decide_eq_true rfl) (List.find?_eq_none.mp hfound step hstep)
  | some other =>
    have hsame := List.find?_some (p := fun other => decide (other = step)) hfound
    have hstep := List.mem_of_find?_eq_some hfound
    obtain rfl := of_decide_eq_true hsame
    cases hstate : states other with
    | blocked | completed =>
      simp only [Option.map_some, hstate]
      refine ⟨_, _, rfl, .refused (.rejected _ _) (not_accepts (.inr rfl) fun _ h => ?_)⟩
      exact nomatch hstate.symm.trans h
    | active =>
      simp only [Option.map_some, hstate]
      exact ⟨_, _, rfl, .failed hstep hstate⟩

/-- **Every message is a move.** -/
theorem transition_moves (hwell : definition.WellFormed) (hsound : Sound definition state)
    (message : WorkflowMessage K Route) :
    ∃ after emitted,
      Workflow.transition ⟨definition, state⟩ message = (⟨definition, after⟩, emitted) ∧
        Moves definition state message after emitted := by
  cases message with
  | start replyTo =>
    cases state with
    | ready => exact ⟨_, _, rfl, .started⟩
    | running | succeeded | failed | cancelled =>
      exact ⟨_, _, rfl, .refused (.rejected _ _) nofun⟩
  | complete step =>
    cases state with
    | ready =>
      exact ⟨_, _, rfl, .refused (.error _) fun ⟨_, _, h, _⟩ => nomatch h⟩
    | running steps replyTo =>
      obtain ⟨states, rfl, hsettled, -⟩ := hsound _ _ rfl
      obtain ⟨after, replies, hcomplete, hmoves⟩ :=
        complete_moves hwell.nodup hsettled replyTo step
      refine ⟨after, .ok replies, ?_, hmoves⟩
      simp only [Workflow.transition, hcomplete]
    | succeeded | failed | cancelled =>
      exact ⟨_, _, rfl, .refused (.rejected _ _) fun ⟨_, _, h, _⟩ => nomatch h⟩
  | fail step =>
    cases state with
    | ready =>
      exact ⟨_, _, rfl, .refused (.error _) fun ⟨_, _, h, _⟩ => nomatch h⟩
    | running steps replyTo =>
      obtain ⟨states, rfl, -, -⟩ := hsound _ _ rfl
      obtain ⟨after, replies, hfail, hmoves⟩ := fail_moves definition states replyTo step
      refine ⟨after, .ok replies, ?_, hmoves⟩
      simp only [Workflow.transition, hfail]
    | succeeded | failed | cancelled =>
      exact ⟨_, _, rfl, .refused (.rejected _ _) fun ⟨_, _, h, _⟩ => nomatch h⟩
  | cancel replyTo =>
    cases state with
    | ready | running => exact ⟨_, _, rfl, .cancelled fun h => h⟩
    | succeeded | failed | cancelled =>
      exact ⟨_, _, rfl, .refused (.rejected _ _) fun h => h trivial⟩

end Bombay.Workflows
