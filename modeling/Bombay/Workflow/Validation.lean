/-
# A definition is accepted exactly if it is well formed

The checks of the steps and of the dependencies say what they check.  The loop that looks for a
cycle keeps the reached steps in dependency order, so if it ends with all of them then there is no
cycle; and if there is none, then of the steps that are not reached one has all its prerequisites
reached, so every round reaches another step.
-/

import Bombay.Workflow.Coordinator
import Bombay.Lib.Precedence

namespace Bombay.Workflows

open Precedence

variable {K Route : Type}

/-- One step is a prerequisite of another. -/
def WorkflowDefinition.Before (definition : WorkflowDefinition K) (required dependent : K) : Prop :=
  (required, dependent) ∈ definition.dependencies

/-- **What makes a definition well formed**: it has steps, all distinct; every dependency is
between two different steps of it; and there is no cycle. -/
structure WorkflowDefinition.WellFormed (definition : WorkflowDefinition K) : Prop where
  nonempty : definition.steps ≠ []
  nodup : definition.steps.Nodup
  defined : ∀ required dependent, definition.Before required dependent →
    required ∈ definition.steps ∧ dependent ∈ definition.steps ∧ required ≠ dependent
  acyclic : Acyclic definition.Before

variable [DecidableEq K]

variable {steps reached : List K} {dependencies : List (K × K)}
    {definition : WorkflowDefinition K}

theorem duplicate_eq_none {earlier} (hearlier : earlier.Nodup) :
    duplicate earlier steps = none ↔ (earlier ++ steps).Nodup := by
  induction steps generalizing earlier with
  | nil =>
    rw [List.append_nil]
    exact ⟨fun _ => hearlier, fun _ => rfl⟩
  | cons step steps ih =>
    rw [duplicate]
    by_cases hstep : step ∈ earlier
    · rw [if_pos hstep]
      refine ⟨nofun, fun h => ?_⟩
      exact absurd rfl ((List.nodup_append.mp h).2.2 step hstep step (.head _))
    · have hsnoc : (earlier ++ [step]).Nodup := by
        rw [List.nodup_append]
        refine ⟨hearlier, List.nodup_singleton step, fun other hother last hlast => ?_⟩
        rintro rfl
        exact hstep (List.mem_singleton.mp hlast ▸ hother)
      rw [if_neg hstep, ih hsnoc, List.append_assoc]
      rfl

theorem checkDependency_ok {dependency} :
    checkDependency steps dependency = .ok () ↔
      dependency.1 ∈ steps ∧ dependency.2 ∈ steps ∧ dependency.1 ≠ dependency.2 := by
  unfold checkDependency
  by_cases hrequired : dependency.1 ∈ steps
  · by_cases hdependent : dependency.2 ∈ steps
    · by_cases hsame : dependency.1 = dependency.2 <;> simp [hrequired, hdependent, hsame]
    · simp [hrequired, hdependent]
  · simp [hrequired]

theorem checkDependencies_ok :
    checkDependencies steps dependencies = .ok () ↔
      ∀ dependency ∈ dependencies,
        dependency.1 ∈ steps ∧ dependency.2 ∈ steps ∧ dependency.1 ≠ dependency.2 := by
  induction dependencies with
  | nil => exact ⟨nofun, fun _ => rfl⟩
  | cons dependency dependencies ih =>
    rw [checkDependencies, List.forall_mem_cons, ← checkDependency_ok, ← ih]
    cases checkDependency steps dependency with
    | error error => exact ⟨nofun, fun h => (nomatch h.1)⟩
    | ok checked => exact ⟨fun h => ⟨rfl, h⟩, fun h => h.2⟩

theorem prerequisitesIn_iff {list step} :
    prerequisitesIn dependencies list step = true ↔
      ∀ required, (required, step) ∈ dependencies → required ∈ list := by
  rw [prerequisitesIn, List.all_eq_true]
  constructor
  · intro h required hrequired
    have hmem := h (required, step) (List.mem_filter.mpr ⟨hrequired, decide_eq_true rfl⟩)
    exact of_decide_eq_true hmem
  · rintro h ⟨required, dependent⟩ hmem
    obtain ⟨hdependency, hstep⟩ := List.mem_filter.mp hmem
    obtain rfl := of_decide_eq_true hstep
    exact decide_eq_true (h required hdependency)

/-! ### The loop that looks for a cycle -/

/-- What the loop knows of the steps that it reached: they are steps, distinct and in dependency
order. -/
structure Reached (definition : WorkflowDefinition K) (reached : List K) : Prop where
  nodup : reached.Nodup
  subset : reached ⊆ definition.steps
  ordered : Ordered definition.Before reached

/-- A round keeps what is known of the reached steps. -/
theorem Reached.round (h : Reached definition reached) (hsteps : steps ⊆ definition.steps) :
    Reached definition (reachRound definition.dependencies reached steps) := by
  induction steps generalizing reached with
  | nil => exact h
  | cons step steps ih =>
    rw [reachRound]
    refine ih ?_ fun other hother => hsteps (.tail _ hother)
    split
    · next hready =>
      obtain ⟨hnew, hprerequisites⟩ := hready
      refine ⟨?_, ?_, h.ordered.snoc (prerequisitesIn_iff.mp hprerequisites)⟩
      · rw [List.nodup_append]
        refine ⟨h.nodup, List.nodup_singleton step, fun other hother last hlast => ?_⟩
        rintro rfl
        exact hnew (List.mem_singleton.mp hlast ▸ hother)
      · intro other hother
        rcases List.mem_append.mp hother with hother | hother
        · exact h.subset hother
        · rw [List.mem_singleton.mp hother]
          exact hsteps (.head _)
    · exact h

/-- **A round reaches another step** if there is one whose prerequisites are reached. -/
theorem reachRound_progress {step} (hstep : step ∈ steps) (hnew : step ∉ reached)
    (hready : prerequisitesIn dependencies reached step = true) :
    reached.length < (reachRound dependencies reached steps).length := by
  induction steps with
  | nil => exact nomatch hstep
  | cons head steps ih =>
    rw [reachRound]
    split
    · have hlonger := reachRound_length dependencies (reached ++ [head]) steps
      rw [List.length_append] at hlonger
      exact hlonger
    · next hhead =>
      rcases List.mem_cons.mp hstep with rfl | hstep
      · exact absurd ⟨hnew, hready⟩ hhead
      · exact ih hstep

/-- **The loop ends well exactly if there is no cycle.** -/
theorem reachAll_ok (hnodup : definition.steps.Nodup)
    (hdefined : ∀ required dependent, definition.Before required dependent →
      required ∈ definition.steps ∧ dependent ∈ definition.steps ∧ required ≠ dependent)
    (h : Reached definition reached) :
    reachAll definition reached = .ok () ↔ Acyclic definition.Before := by
  fun_induction reachAll definition reached with
  | case1 reached hmissing hstuck =>
    refine ⟨nofun, fun hacyclic => ?_⟩
    have hunreached : (definition.steps.filter (· ∉ reached)) ≠ [] := by
      intro hnone
      have hall : definition.steps ⊆ reached := by
        intro step hstep
        by_contra hnew
        have hmem : step ∈ definition.steps.filter (· ∉ reached) :=
          List.mem_filter.mpr ⟨hstep, decide_eq_true hnew⟩
        rw [hnone] at hmem
        exact nomatch hmem
      have hlength := (hnodup.subperm hall).length_le
      omega
    obtain ⟨first, hfirst, hmin⟩ := hacyclic.exists_first hunreached
    obtain ⟨hstep, hnew⟩ := List.mem_filter.mp hfirst
    have hready : prerequisitesIn definition.dependencies reached first = true := by
      rw [prerequisitesIn_iff]
      intro required hrequired
      by_contra hunmet
      exact hmin required (List.mem_filter.mpr
        ⟨(hdefined required first hrequired).1, decide_eq_true hunmet⟩) hrequired
    have hprogress := reachRound_progress hstep (of_decide_eq_true hnew) hready
    omega
  | case2 reached hmissing hprogress ih => exact ih (h.round (List.Subset.refl _))
  | case3 reached hall =>
    refine ⟨fun _ => ?_, fun _ => rfl⟩
    have hperm := (h.nodup.subperm h.subset).perm_of_length_le (Nat.le_of_not_lt hall)
    refine h.ordered.acyclic h.nodup fun required dependent hbefore => ?_
    exact hperm.mem_iff.mpr (hdefined required dependent hbefore).2.1

/-- **A definition is accepted exactly if it is well formed.** -/
theorem validate_ok_iff :
    validate definition = .ok () ↔ definition.WellFormed := by
  have hreached : Reached definition [] :=
    ⟨List.nodup_nil, List.nil_subset _, Ordered.nil⟩
  have hduplicate : duplicate [] definition.steps = none ↔ definition.steps.Nodup :=
    duplicate_eq_none List.nodup_nil
  have hdependencies := @checkDependencies_ok K _ definition.steps definition.dependencies
  unfold validate
  split
  · next hempty =>
    refine ⟨nofun, fun h => ?_⟩
    exact absurd (List.isEmpty_iff.mp hempty) h.nonempty
  · next hempty =>
    have hnonempty : definition.steps ≠ [] := fun h => hempty (List.isEmpty_iff.mpr h)
    cases hrepeated : duplicate [] definition.steps with
    | some step =>
      refine ⟨nofun, fun h => ?_⟩
      exact nomatch hrepeated.symm.trans (hduplicate.mpr h.nodup)
    | none =>
      have hnodup := hduplicate.mp hrepeated
      cases hchecked : checkDependencies definition.steps definition.dependencies with
      | error error =>
        refine ⟨nofun, fun h => ?_⟩
        have hok := hdependencies.mpr fun dependency => h.defined dependency.1 dependency.2
        exact nomatch hchecked.symm.trans hok
      | ok checked =>
        have hdefined : ∀ required dependent, definition.Before required dependent →
            required ∈ definition.steps ∧ dependent ∈ definition.steps ∧ required ≠ dependent :=
          fun required dependent => hdependencies.mp hchecked (required, dependent)
        have hloop := reachAll_ok hnodup hdefined hreached
        exact ⟨fun h => ⟨hnonempty, hnodup, hdefined, hloop.mp h⟩, fun h => hloop.mpr h.acyclic⟩

end Bombay.Workflows
