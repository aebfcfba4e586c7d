/-
# Shutdown plans

`crates/actors/src/lifecycle/shutdown_coordinator.rs`: the phases in which the children of an
actor are asked to shut down.  A plan is validated when it is built: no phase is empty, and no
child occurs twice, in one phase or in two.

A homogeneous plan lists creation IDs.  A heterogeneous plan lists choices, values of a closed sum
of child protocols; a choice carries a creation ID, and no two choices carry the same one.
-/

import Mathlib.Data.List.Flatten
import Mathlib.Data.List.GetD
import Mathlib.Data.List.Nodup

namespace Bombay.PhasedShutdown

variable {Id T : Type}

/-- `ShutdownPlanError`. -/
inductive ShutdownPlanError (Id : Type) where
  | emptyPhase (phase : ℕ)
  | duplicateChild (child : Id)
  deriving DecidableEq, Repr

/-- `heterogeneous::Selection`: a choice selects a child by its creation ID. -/
class Selection (T : Type) (Id : outParam Type) where
  creation : T → Id

/-- `ShutdownChoice`: the protocol at this position, or one of the remaining ones. -/
inductive ShutdownChoice (Id Tail : Type) where
  | child (creation : Id)
  | other (target : Tail)
  deriving DecidableEq, Repr

instance {Tail : Type} [Selection Tail Id] : Selection (ShutdownChoice Id Tail) Id where
  creation
    | .child creation => creation
    | .other target => Selection.creation target

/-- `NoShutdownTargets`: the end of a sum, without values. -/
inductive NoShutdownTargets (Id : Type)

instance : Selection (NoShutdownTargets Id) Id where
  creation target := nomatch target

/-! ### Validation -/

section Validate

variable [DecidableEq Id] (creation : T → Id)

/-- The children of one phase, none of which may have been seen. -/
def validateChildren (seen : List Id) : List T → Except (ShutdownPlanError Id) (List Id)
  | [] => .ok seen
  | child :: children =>
    if creation child ∈ seen then .error (.duplicateChild (creation child))
    else validateChildren (seen ++ [creation child]) children

/-- The loop over the phases from number `phase` on. -/
def validate (phase : ℕ) (seen : List Id) :
    List (List T) → Except (ShutdownPlanError Id) (List Id)
  | [] => .ok seen
  | children :: phases =>
    if children.isEmpty then .error (.emptyPhase phase)
    else
      match validateChildren creation seen children with
      | .error error => .error error
      | .ok seen => validate (phase + 1) seen phases

variable {creation}

variable {seen : List Id}

theorem validateChildren_ok {after children} (hseen : seen.Nodup)
    (h : validateChildren creation seen children = .ok after) :
    after = seen ++ children.map creation ∧ after.Nodup := by
  induction children generalizing seen with
  | nil =>
    obtain rfl := Except.ok.inj h
    exact ⟨(List.append_nil seen).symm, hseen⟩
  | cons child children ih =>
    rw [validateChildren] at h
    split_ifs at h with hchild
    have hnext : (seen ++ [creation child]).Nodup := by
      rw [List.nodup_append_comm]
      exact List.nodup_cons.mpr ⟨hchild, hseen⟩
    obtain ⟨hafter, hnodup⟩ := ih hnext h
    refine ⟨?_, hnodup⟩
    rw [hafter, List.append_assoc, List.singleton_append, List.map_cons]

/-- **A validated topology has no empty phase and no child twice.** -/
theorem validate_ok {phase after phases} (hseen : seen.Nodup)
    (h : validate creation phase seen phases = .ok after) :
    after = seen ++ phases.flatten.map creation ∧ after.Nodup ∧
      ∀ children ∈ phases, children ≠ [] := by
  induction phases generalizing phase seen with
  | nil =>
    obtain rfl := Except.ok.inj h
    refine ⟨(List.append_nil seen).symm, hseen, fun children hmem => ?_⟩
    exact absurd hmem List.not_mem_nil
  | cons children phases ih =>
    rw [validate] at h
    split_ifs at h with hempty
    cases hchildren : validateChildren creation seen children with
    | error error =>
      rw [hchildren] at h
      cases h
    | ok next =>
      rw [hchildren] at h
      obtain ⟨rfl, hnext⟩ := validateChildren_ok hseen hchildren
      obtain ⟨hafter, hnodup, hphases⟩ := ih hnext h
      refine ⟨?_, hnodup, List.forall_mem_cons.mpr ⟨?_, hphases⟩⟩
      · rw [hafter, List.append_assoc, List.flatten_cons, List.map_append]
      · exact fun hnil => hempty (List.isEmpty_iff.mpr hnil)

theorem validateChildren_of_nodup {children} (h : (seen ++ children.map creation).Nodup) :
    validateChildren creation seen children = .ok (seen ++ children.map creation) := by
  induction children generalizing seen with
  | nil => exact congrArg Except.ok (List.append_nil seen).symm
  | cons child children ih =>
    rw [List.map_cons, List.append_cons] at h ⊢
    have hchild : creation child ∉ seen := by
      intro hmem
      have hseen := (List.nodup_append.mp h).1
      rw [List.nodup_append_comm] at hseen
      exact (List.nodup_cons.mp hseen).1 hmem
    rw [validateChildren, if_neg hchild, ih h]

/-- **A topology without an empty phase and without a repeated child is valid.** -/
theorem validate_of_nodup {phase phases} (hphases : ∀ children ∈ phases, children ≠ [])
    (h : (seen ++ phases.flatten.map creation).Nodup) :
    validate creation phase seen phases = .ok (seen ++ phases.flatten.map creation) := by
  induction phases generalizing phase seen with
  | nil => exact congrArg Except.ok (List.append_nil seen).symm
  | cons children phases ih =>
    obtain ⟨hchildren, hphases⟩ := List.forall_mem_cons.mp hphases
    rw [List.flatten_cons, List.map_append, ← List.append_assoc] at h ⊢
    have hempty : ¬ children.isEmpty = true := fun hnil => hchildren (List.isEmpty_iff.mp hnil)
    rw [validate, if_neg hempty, validateChildren_of_nodup (List.nodup_append.mp h).1]
    exact ih hphases h

end Validate

/-! ### Plans -/

/-- `ShutdownPlan`. -/
structure ShutdownPlan (Id : Type) where
  phases : List (List Id)
  nonempty : ∀ children ∈ phases, children ≠ []
  distinct : phases.flatten.Nodup
  deriving DecidableEq

/-- `HeterogeneousShutdownPlan`. -/
structure HeterogeneousShutdownPlan (T : Type) {Id : Type} [Selection T Id] where
  phases : List (List T)
  nonempty : ∀ children ∈ phases, children ≠ []
  distinct : (phases.flatten.map Selection.creation).Nodup

namespace ShutdownPlan

variable (plan : ShutdownPlan Id)

/-- The children of a plan, phase after phase. -/
def children : List Id := plan.phases.flatten

/-- `plan.phases[phase]`.  Past the last phase, which no run reaches, there are no children. -/
def phase (plan : ShutdownPlan Id) (phase : ℕ) : List Id := plan.phases.getD phase []

/-- `ShutdownPlan::new`. -/
def new [DecidableEq Id] (phases : List (List Id)) :
    Except (ShutdownPlanError Id) (ShutdownPlan Id) :=
  match h : validate id 0 [] phases with
  | .error error => .error error
  | .ok _ => .ok
    { phases
      nonempty := (validate_ok .nil h).2.2
      distinct := by
        obtain ⟨hafter, hnodup, -⟩ := validate_ok .nil h
        rwa [hafter, List.nil_append, List.map_id] at hnodup }

/-- **Every plan is one that validation accepts.** -/
theorem new_phases [DecidableEq Id] (plan : ShutdownPlan Id) : new plan.phases = .ok plan := by
  have hvalid : validate id 0 [] plan.phases = .ok ([] ++ plan.phases.flatten.map id) := by
    refine validate_of_nodup plan.nonempty ?_
    rw [List.nil_append, List.map_id]
    exact plan.distinct
  rw [new]
  split
  · rename_i error h
    rw [hvalid] at h
    cases h
  · rfl

variable {phase : ℕ} {child : Id}

theorem phase_eq (h : phase < plan.phases.length) :
    plan.phase phase = plan.phases[phase] := by
  rw [ShutdownPlan.phase, List.getD_eq_getElem _ _ h]

/-- No phase is empty. -/
theorem phase_ne_nil (h : phase < plan.phases.length) :
    plan.phase phase ≠ [] := by
  rw [plan.phase_eq h]
  exact plan.nonempty _ (List.getElem_mem h)

/-- The children of the phases before number `phase`. -/
def before (phase : ℕ) : List Id := (plan.phases.take phase).flatten

@[simp] theorem before_zero : plan.before 0 = [] := rfl

theorem before_succ (h : phase < plan.phases.length) :
    plan.before (phase + 1) = plan.before phase ++ plan.phase phase := by
  rw [before, List.take_succ_eq_append_getElem h, List.flatten_append, plan.phase_eq h]
  simp [before]

theorem before_length :
    plan.before plan.phases.length = plan.children := by
  rw [before, List.take_length, children]

/-- The children of the first phases are children of the plan. -/
theorem before_sublist (phase : ℕ) :
    (plan.before phase).Sublist plan.children :=
  (List.take_sublist phase plan.phases).flatten

theorem before_nodup (phase : ℕ) : (plan.before phase).Nodup :=
  plan.distinct.sublist (plan.before_sublist phase)

/-- More phases have more children. -/
theorem before_mono {first second} (h : first ≤ second) :
    (plan.before first).Sublist (plan.before second) :=
  (List.take_sublist_take_left h).flatten

/-- A phase that has a child is one of the plan's. -/
theorem phase_lt (h : child ∈ plan.phase phase) :
    phase < plan.phases.length := by
  by_contra hphase
  rw [ShutdownPlan.phase, List.getD_eq_default _ _ (Nat.le_of_not_lt hphase)] at h
  exact List.not_mem_nil h

theorem mem_before {later} (h : child ∈ plan.phase phase) (hlater : phase < later) :
    child ∈ plan.before later := by
  refine (plan.before_mono hlater).subset ?_
  rw [plan.before_succ (plan.phase_lt h)]
  exact List.mem_append_right _ h

theorem mem_children
    (h : child ∈ plan.phase phase) : child ∈ plan.children :=
  (plan.before_sublist (phase + 1)).subset (plan.mem_before h (Nat.lt_succ_self phase))

/-- The first phase comes first. -/
theorem phase_prefix_before (phase : ℕ) :
    plan.phase 0 <+: plan.before (phase + 1) := by
  rw [ShutdownPlan.phase, before]
  cases plan.phases with
  | nil => exact List.nil_prefix
  | cons first rest => exact List.prefix_append first (rest.take phase).flatten

theorem phase_prefix_children : plan.phase 0 <+: plan.children := by
  rw [ShutdownPlan.phase, children]
  cases plan.phases with
  | nil => exact List.nil_prefix
  | cons first rest => exact List.prefix_append first rest.flatten

end ShutdownPlan

namespace HeterogeneousShutdownPlan

variable [Selection T Id]

/-- `plan.phases[phase]`. -/
def phase (plan : HeterogeneousShutdownPlan T) (phase : ℕ) : List T := plan.phases.getD phase []

/-- `HeterogeneousShutdownPlan::new`. -/
def new [DecidableEq Id] (phases : List (List T)) :
    Except (ShutdownPlanError Id) (HeterogeneousShutdownPlan T) :=
  match h : validate Selection.creation 0 [] phases with
  | .error error => .error error
  | .ok _ => .ok
    { phases
      nonempty := (validate_ok .nil h).2.2
      distinct := by
        obtain ⟨hafter, hnodup, -⟩ := validate_ok .nil h
        rwa [hafter, List.nil_append] at hnodup }

variable (plan : HeterogeneousShutdownPlan T)

/-- The plan of the creation IDs. -/
def erase : ShutdownPlan Id where
  phases := plan.phases.map (List.map Selection.creation)
  nonempty := by
    intro children hchildren
    obtain ⟨choices, hchoices, rfl⟩ := List.mem_map.mp hchildren
    exact fun hnil => plan.nonempty choices hchoices (List.map_eq_nil_iff.mp hnil)
  distinct := by
    have h := plan.distinct
    rwa [List.map_flatten] at h

theorem erase_length :
    plan.erase.phases.length = plan.phases.length := List.length_map _

theorem erase_isEmpty :
    plan.erase.phases.isEmpty = plan.phases.isEmpty := List.isEmpty_map

theorem erase_phase (phase : ℕ) :
    plan.erase.phase phase = (plan.phase phase).map Selection.creation := by
  exact List.getD_map plan.phases [] (List.map Selection.creation)

end HeterogeneousShutdownPlan
end Bombay.PhasedShutdown
