/-
# Shutdown trees

`crates/actors/src/lifecycle/shutdown_coordinator.rs`: a dependency topology compiled into the
phases of a shutdown plan.  An edge names a dependent, which stops first, and its dependency.  The
loop takes the nodes without a remaining dependent as the next phase, until no node remains or none
can be taken.

`layers_ok` says what the loop makes of an acyclic topology, and `layers_phases` what its phases are.
`tree_shutdown` puts the two halves together: a coordinator that is given the plan of a tree keeps the
topology.
-/

import Bombay.Lib.Precedence
import Bombay.Shutdown.Completion

namespace Bombay.PhasedShutdown

variable {N : Type} [DecidableEq N]

/-- `ShutdownTreeError`. -/
inductive ShutdownTreeError (N : Type) where
  | duplicateChild (child : N)
  | unknownChild (child : N)
  | cycle
  deriving DecidableEq, Repr

/-- The first node that has been seen before. -/
def duplicateChild (unique : List N) : List N → Option N
  | [] => none
  | node :: nodes =>
    if node ∈ unique then some node else duplicateChild (unique ++ [node]) nodes

/-- The first end of an edge that is not a node. -/
def unknownChild (nodes : List N) : List (N × N) → Option N
  | [] => none
  | (dependent, dependency) :: edges =>
    if dependent ∉ nodes then some dependent
    else if dependency ∉ nodes then some dependency
    else unknownChild nodes edges

/-- A remaining node depends on the candidate. -/
def blocked (edges : List (N × N)) (remaining : List N) (candidate : N) : Bool :=
  edges.any fun edge => edge.2 = candidate && edge.1 ∈ remaining

/-- `phase`: the nodes that can be taken. -/
def unblocked (edges : List (N × N)) (remaining : List N) : List N :=
  remaining.filter fun candidate => !blocked edges remaining candidate

/-- `remaining.retain(|node| !phase.contains(node))`. -/
def retained (edges : List (N × N)) (remaining : List N) : List N :=
  remaining.filter (· ∉ unblocked edges remaining)

/-- A round that takes a node leaves fewer. -/
theorem length_rest_lt {edges : List (N × N)} {remaining : List N}
    (h : ¬ (unblocked edges remaining).isEmpty = true) :
    (retained edges remaining).length < remaining.length := by
  obtain ⟨node, hnode⟩ := List.exists_mem_of_ne_nil _ fun hnil => h (List.isEmpty_iff.mpr hnil)
  refine List.length_filter_lt_length_iff_exists.mpr ⟨node, (List.mem_filter.mp hnode).1, ?_⟩
  rw [decide_eq_true_eq, not_not]
  exact hnode

/-- The loop: the phases of the nodes that remain. -/
def layers (edges : List (N × N)) (remaining : List N) :
    Except (ShutdownTreeError N) (List (List N)) :=
  if remaining.isEmpty then .ok []
  else if _ : (unblocked edges remaining).isEmpty then .error .cycle
  else
    (layers edges (retained edges remaining)).map (unblocked edges remaining :: ·)
termination_by remaining.length
decreasing_by exact length_rest_lt ‹_›

/-- The first node of an edge stops before the second one. -/
def Before (edges : List (N × N)) (dependent dependency : N) : Prop := (dependent, dependency) ∈ edges

variable {edges : List (N × N)} {nodes remaining phase : List N} {phases : List (List N)}

theorem duplicateChild_none (nodes : List N) {unique} (hunique : unique.Nodup) :
    duplicateChild unique nodes = none ↔ (unique ++ nodes).Nodup := by
  induction nodes generalizing unique with
  | nil => simpa [duplicateChild] using hunique
  | cons node nodes ih =>
    rw [duplicateChild]
    split_ifs with hnode
    · refine iff_of_false id fun h => ?_
      exact (List.nodup_append.mp h).2.2 node hnode node (.head _) rfl
    · have hnext : (unique ++ [node]).Nodup := by
        rw [List.nodup_append_comm]
        exact List.nodup_cons.mpr ⟨hnode, hunique⟩
      rw [ih hnext, List.append_assoc, List.singleton_append]

theorem unknownChild_none (edges : List (N × N)) :
    unknownChild nodes edges = none ↔ ∀ edge ∈ edges, edge.1 ∈ nodes ∧ edge.2 ∈ nodes := by
  induction edges with
  | nil => simp [unknownChild]
  | cons edge edges ih =>
    obtain ⟨dependent, dependency⟩ := edge
    rw [unknownChild, List.forall_mem_cons]
    split_ifs with hdependent hdependency
    · rw [ih]
      exact (and_iff_right ⟨hdependent, hdependency⟩).symm
    · exact iff_of_false id fun h => hdependency h.1.2
    · exact iff_of_false id fun h => hdependent h.1.1

theorem blocked_iff {candidate} :
    blocked edges remaining candidate = true ↔ ∃ other ∈ remaining, Before edges other candidate := by
  simp only [blocked, List.any_eq_true, Bool.and_eq_true, decide_eq_true_eq, Before]
  constructor
  · rintro ⟨⟨other, _⟩, hedge, rfl, hother⟩
    exact ⟨other, hother, hedge⟩
  · rintro ⟨other, hother, hedge⟩
    exact ⟨(other, candidate), hedge, rfl, hother⟩

/-! ### One round -/

/-- **One round of the loop**: what is not blocked is the first phase, and what is goes on. -/
theorem layers_cases (h : layers edges remaining = .ok phases) :
    (remaining = [] ∧ phases = []) ∨ ∃ later,
      unblocked edges remaining ≠ [] ∧ phases = unblocked edges remaining :: later ∧
      layers edges (remaining.filter (blocked edges remaining)) = .ok later := by
  rw [layers] at h
  split_ifs at h with hremaining hphase
  · exact .inl ⟨List.isEmpty_iff.mp hremaining, (Except.ok.inj h).symm⟩
  · have hrest : retained edges remaining = remaining.filter (blocked edges remaining) := by
      refine List.filter_congr fun node hnode => ?_
      simp [unblocked, hnode]
    rw [hrest] at h
    cases hlater : layers edges (remaining.filter (blocked edges remaining)) with
    | error error =>
      rw [hlater] at h
      cases h
    | ok later =>
      rw [hlater] at h
      exact .inr ⟨later, fun hnil => hphase (List.isEmpty_iff.mpr hnil),
        (Except.ok.inj h).symm, rfl⟩

theorem mem_rest (node : N) : node ∈ remaining.filter (blocked edges remaining) ↔
    node ∈ remaining ∧ ∃ other ∈ remaining, Before edges other node := by
  rw [List.mem_filter, blocked_iff]

theorem mem_unblocked {node} (h : node ∈ unblocked edges remaining) :
    node ∈ remaining ∧ ∀ other ∈ remaining, ¬ Before edges other node := by
  obtain ⟨hmem, hfree⟩ := List.mem_filter.mp h
  refine ⟨hmem, fun other hother hbefore => ?_⟩
  rw [blocked_iff.mpr ⟨other, hother, hbefore⟩] at hfree
  cases hfree

/-! ### All rounds -/

/-- The phases are not empty, hold every node once, and keep the order of the nodes. -/
structure Partitions (remaining : List N) (phases : List (List N)) : Prop where
  nonempty : ∀ phase ∈ phases, phase ≠ []
  perm : phases.flatten.Perm remaining
  ordered : ∀ phase ∈ phases, phase.Sublist remaining

/-- **The phases partition the nodes.** -/
theorem layers_partitions (h : layers edges remaining = .ok phases) :
    Partitions remaining phases := by
  induction phases generalizing remaining with
  | nil =>
    rcases layers_cases h with ⟨rfl, -⟩ | ⟨_, -, hphases, -⟩
    · exact ⟨fun _ hmem => absurd hmem List.not_mem_nil, .nil,
        fun _ hmem => absurd hmem List.not_mem_nil⟩
    · cases hphases
  | cons first later ih =>
    rcases layers_cases h with ⟨-, hphases⟩ | ⟨rest, hnonempty, hphases, hrest⟩
    · cases hphases
    obtain ⟨hfirst, rfl⟩ := List.cons.inj hphases
    rw [← hfirst] at hnonempty
    obtain ⟨hlater, hperm, hordered⟩ := ih hrest
    refine ⟨List.forall_mem_cons.mpr ⟨hnonempty, hlater⟩, ?_, List.forall_mem_cons.mpr ⟨?_, ?_⟩⟩
    · rw [List.flatten_cons, hfirst]
      refine (hperm.append_left _).trans ?_
      have hsplit := List.filter_append_perm (blocked edges remaining) remaining
      exact List.perm_append_comm.trans hsplit
    · exact hfirst ▸ List.filter_sublist
    · exact fun other hother => (hordered other hother).trans List.filter_sublist

/-- **The number of a phase is the length of the longest chain of dependents above its nodes.** -/
theorem layers_depth (h : layers edges remaining = .ok phases) {position node}
    (hphase : phases[position]? = some phase) (hnode : node ∈ phase) :
    IsGreatest {length | Precedence.Chain (Before edges) remaining length node} position := by
  induction phases generalizing remaining position with
  | nil => simp at hphase
  | cons first later ih =>
    rcases layers_cases h with ⟨-, hphases⟩ | ⟨_, -, hphases, hrest⟩
    · cases hphases
    obtain ⟨hfirst, rfl⟩ := List.cons.inj hphases
    cases position with
    | zero =>
      obtain rfl : first = phase := by simpa using hphase
      rw [hfirst] at hnode
      exact Precedence.greatest_of_first (mem_unblocked hnode).1 (mem_unblocked hnode).2
    | succ position =>
      rw [List.getElem?_cons_succ] at hphase
      exact Precedence.greatest_rest mem_rest (ih hrest hphase)

/-- **An acyclic topology has layers.** -/
theorem layers_ok (h : Precedence.Acyclic (Before edges)) (remaining : List N) :
    ∃ phases, layers edges remaining = .ok phases := by
  induction hlength : remaining.length using Nat.strong_induction_on generalizing remaining with
  | _ length ih =>
    rw [layers]
    split_ifs with hremaining hphase
    · exact ⟨[], rfl⟩
    · obtain ⟨first, hfirst, hfree⟩ :=
        h.exists_first (fun hnil => hremaining (List.isEmpty_iff.mpr hnil))
      have hblocked : blocked edges remaining first = false := by
        rw [Bool.eq_false_iff]
        intro hblocked
        obtain ⟨other, hother, hbefore⟩ := blocked_iff.mp hblocked
        exact hfree other hother hbefore
      have hmem : first ∈ unblocked edges remaining :=
        List.mem_filter.mpr ⟨hfirst, by rw [hblocked]; rfl⟩
      rw [List.isEmpty_iff.mp hphase] at hmem
      exact absurd hmem List.not_mem_nil
    · obtain ⟨later, hlater⟩ := ih _ (hlength ▸ length_rest_lt hphase) _ rfl
      exact ⟨_ :: later, by rw [hlater]; rfl⟩

/-- The loop fails only at a cycle. -/
theorem layers_error {error : ShutdownTreeError N} (h : layers edges remaining = .error error) :
    error = .cycle := by
  induction hlength : remaining.length using Nat.strong_induction_on generalizing remaining with
  | _ length ih =>
    rw [layers] at h
    split_ifs at h with hremaining hphase
    · exact (Except.error.inj h).symm
    · cases hlater : layers edges (retained edges remaining) with
      | ok later =>
        rw [hlater] at h
        cases h
      | error other =>
        rw [hlater] at h
        obtain rfl := Except.error.inj h
        exact ih _ (hlength ▸ length_rest_lt hphase) hlater rfl

/-! ### Trees -/

/-- `ShutdownTree`. -/
structure ShutdownTree (N : Type) where
  plan : ShutdownPlan N

namespace ShutdownTree

/-- `ShutdownTree::new`. -/
def new (nodes : List N) (edges : List (N × N)) : Except (ShutdownTreeError N) (ShutdownTree N) :=
  match hunique : duplicateChild [] nodes with
  | some node => .error (.duplicateChild node)
  | none =>
    match unknownChild nodes edges with
    | some node => .error (.unknownChild node)
    | none =>
      match h : layers edges nodes with
      | .error error => .error error
      | .ok phases => .ok
        { plan :=
          { phases
            nonempty := (layers_partitions h).nonempty
            distinct := (layers_partitions h).perm.nodup_iff.mpr
              ((duplicateChild_none nodes .nil).mp hunique) } }

/-- A topology that is closed and names no node twice is decided by the loop. -/
theorem new_closed (hnodes : nodes.Nodup)
    (hedges : ∀ edge ∈ edges, edge.1 ∈ nodes ∧ edge.2 ∈ nodes) :
    (∃ tree, new nodes edges = .ok tree ∧ layers edges nodes = .ok tree.plan.phases) ∨
      (new nodes edges = .error .cycle ∧ ∀ phases, layers edges nodes ≠ .ok phases) := by
  have hunique : duplicateChild [] nodes = none := (duplicateChild_none nodes .nil).mpr hnodes
  rw [new]
  split
  · rename_i node hduplicate
    rw [hunique] at hduplicate
    cases hduplicate
  · rw [(unknownChild_none edges).mpr hedges]
    dsimp only
    split
    · rename_i error h
      obtain rfl := layers_error h
      exact .inr ⟨rfl, fun phases hphases => by cases h.symm.trans hphases⟩
    · rename_i phases h
      exact .inl ⟨_, rfl, h⟩

/-- **Shutdown trees are layered.**  Exactly an acyclic topology is accepted.  Its phases are not
empty, partition the nodes and keep their order; every dependent is in an earlier phase than its
dependency, and every node as early as the longest chain of dependents above it allows.  The phases
are those of a valid plan. -/
theorem tree_law (hnodes : nodes.Nodup)
    (hedges : ∀ edge ∈ edges, edge.1 ∈ nodes ∧ edge.2 ∈ nodes) :
    ((∃ tree, new nodes edges = .ok tree) ↔ Precedence.Acyclic (Before edges)) ∧
    (¬ Precedence.Acyclic (Before edges) → new nodes edges = .error .cycle) ∧
    ∀ tree, new nodes edges = .ok tree →
      Partitions nodes tree.plan.phases ∧
      (∀ dependent dependency, (dependent, dependency) ∈ edges → ∀ (first second : ℕ) phase phase',
        tree.plan.phases[first]? = some phase → dependent ∈ phase →
        tree.plan.phases[second]? = some phase' → dependency ∈ phase' → first < second) ∧
      (∀ (position : ℕ) phase node, tree.plan.phases[position]? = some phase → node ∈ phase →
        IsGreatest {length | Precedence.Chain (Before edges) nodes length node} position) ∧
      ShutdownPlan.new tree.plan.phases = .ok tree.plan := by
  have hclosed : ∀ b c, Before edges b c → c ∈ nodes := fun b c h => (hedges _ h).2
  have hacyclic : ∀ phases, layers edges nodes = .ok phases →
      Precedence.Acyclic (Before edges) := by
    intro phases h node hcycle
    obtain ⟨_, -, hlast⟩ := Relation.TransGen.tail'_iff.mp hcycle
    have hmem := (layers_partitions h).perm.mem_iff.mpr (hclosed _ _ hlast)
    obtain ⟨phase, hphase, hnode⟩ := List.mem_flatten.mp hmem
    obtain ⟨position, hposition⟩ := List.mem_iff_getElem?.mp hphase
    exact Precedence.not_transGen_of_bounded hclosed (layers_depth h hposition hnode) hcycle
  rcases new_closed hnodes hedges with ⟨tree, htree, h⟩ | ⟨hcycle, hnone⟩
  · refine ⟨iff_of_true ⟨tree, htree⟩ (hacyclic _ h), fun hnot => absurd (hacyclic _ h) hnot, ?_⟩
    intro other hother
    obtain rfl := Except.ok.inj (htree.symm.trans hother)
    refine ⟨layers_partitions h, ?_, fun position phase node => layers_depth h,
      ShutdownPlan.new_phases tree.plan⟩
    intro dependent dependency hedge first second phase phase' hfirst hdependent hsecond hdependency
    have hchain := (layers_depth h hfirst hdependent).1.snoc hedge (hedges _ hedge).2
    exact Nat.lt_of_succ_le ((layers_depth h hsecond hdependency).2 hchain)
  · have hnot : ¬ Precedence.Acyclic (Before edges) := by
      intro hacyclic
      obtain ⟨phases, hphases⟩ := layers_ok hacyclic nodes
      exact hnone phases hphases
    refine ⟨iff_of_false ?_ hnot, fun _ => hcycle, ?_⟩
    · rintro ⟨tree, htree⟩
      cases hcycle.symm.trans htree
    · intro tree htree
      cases hcycle.symm.trans htree

/-- Two nodes that depend on each other. -/
theorem tree_law_cycle : new [1, 2] [(1, 2), (2, 1)] = .error .cycle := by
  refine (tree_law (by decide) (by decide)).2.1 fun hacyclic => hacyclic 1 ?_
  exact .tail (.single (.head _ : Before [(1, 2), (2, 1)] 1 2)) (.tail _ (.head _))

/-! ### Shutdowns -/

/-- An accepted topology is closed, and the phases of its plan are its layers. -/
theorem new_ok {tree} (h : new nodes edges = .ok tree) :
    (∀ edge ∈ edges, edge.1 ∈ nodes ∧ edge.2 ∈ nodes) ∧
      layers edges nodes = .ok tree.plan.phases := by
  rw [new] at h
  split at h
  · cases h
  · split at h
    · cases h
    · rename_i hknown
      split at h
      · cases h
      · rename_i phases hlayers
        obtain rfl := Except.ok.inj h
        exact ⟨(unknownChild_none edges).mp hknown, hlayers⟩

/-- **A shutdown keeps the topology of its tree**, whatever comes in whatever order: nobody is asked
to stop before all that depend on it, over any number of edges, have stopped; and the coordinator
stops exactly when shutdown was requested and every node has stopped once. -/
theorem tree_shutdown {tree : ShutdownTree N} (htree : new nodes edges = .ok tree)
    {σ Event Sends Create Ph Error Outcome : Type} [SendEffects Sends]
    (behavior : Behavior σ Event Sends Create Ph Error) (inner : σ)
    (start : Option (ShutdownPlan N))
    (events : List (ShutdownCoordinatorEvent Event (ShutdownPlan N) N Outcome)) :
    let turns := Machine.turns (ShutdownCoordinator.transition behavior) (built inner start) events
    (∀ earlier now later, turns = earlier ++ now :: later →
      (record start (earlier ++ [now])).installed = some tree.plan →
      ∀ dependency ∈ asks now, ∀ dependent,
        Relation.TransGen (Before edges) dependent dependency →
          dependent ∈ (record start (earlier ++ [now])).reported) ∧
    ((record start turns).installed = some tree.plan →
      ((record start turns).stops = 1 ↔
        (record start turns).wanted = true ∧ (record start turns).reported.Perm nodes)) := by
  intro turns
  obtain ⟨hedges, hlayers⟩ := new_ok htree
  have hperm := (layers_partitions hlayers).perm
  have horder := run_phasedOrder behavior inner start events
  refine ⟨?_, fun hinstalled => ?_⟩
  · intro earlier now later hsplit hinstalled dependency hdependency dependent hbefore
    obtain ⟨plan, phase, hplan, -, hasks, -, hprevious⟩ :=
      horder.requestsInOrder earlier now later hsplit (List.ne_nil_of_mem hdependency)
    obtain rfl := Option.some.inj (hinstalled.symm.trans hplan)
    rw [hasks] at hdependency
    -- the dependent has a phase, and the chain from it to the dependency makes it an earlier one
    obtain ⟨_, hfirst, -⟩ := Relation.TransGen.head'_iff.mp hbefore
    obtain ⟨children, hchildren, hdependent⟩ :=
      List.mem_flatten.mp (hperm.mem_iff.mpr (hedges _ hfirst).1)
    obtain ⟨position, hposition⟩ := List.mem_iff_getElem?.mp hchildren
    obtain ⟨longer, hlonger, hchain⟩ := (layers_depth hlayers hposition hdependent).1.transGen
      (fun _ _ hedge => (hedges _ hedge).2) hbefore
    have hphase : tree.plan.phases[phase]? = some (tree.plan.phase phase) := by
      rw [tree.plan.phase_eq (tree.plan.phase_lt hdependency)]
      exact List.getElem?_eq_getElem _
    have hle := (layers_depth hlayers hphase hdependency).2 hchain
    obtain ⟨previous, rfl⟩ : ∃ previous, phase = previous + 1 :=
      Nat.exists_eq_succ_of_ne_zero (by omega)
    obtain ⟨_, -, -, -, hreported⟩ := hprevious previous rfl
    have hmem : dependent ∈ tree.plan.phase position := by
      rw [ShutdownPlan.phase, List.getD_eq_getElem?_getD, hposition]
      exact hdependent
    exact hreported.mem_iff.mpr (tree.plan.mem_before hmem (by omega))
  · rw [(horder.stopsOnce turns [] (List.append_nil _).symm).2, ShutdownRecord.Done, hinstalled]
    constructor
    · rintro ⟨_, ⟨⟩, hwanted, hreported⟩
      exact ⟨hwanted, hreported.trans hperm⟩
    · rintro ⟨hwanted, hreported⟩
      exact ⟨tree.plan, rfl, hwanted, hreported.trans hperm.symm⟩

/-- Two children, the second of which the first depends on. -/
theorem tree_shutdown_pair :
    let turns := Machine.turns (ShutdownCoordinator.transition idle) (built () none) orderlyStops
    (record none turns).stops = 1 ↔
      (record none turns).wanted = true ∧ (record none turns).reported.Perm [1, 2] := by
  have hlayers : layers [(1, 2)] [1, 2] = .ok twoPhases.phases := by
    simp [layers, unblocked, blocked, retained, twoPhases, Except.map]
  obtain ⟨⟨⟨_, _, _⟩⟩, htree, h⟩ | ⟨-, hnone⟩ :=
    @new_closed ℕ _ [(1, 2)] [1, 2] (by decide) (by decide)
  · obtain rfl := Except.ok.inj (h.symm.trans hlayers)
    exact (tree_shutdown htree idle () none orderlyStops).2 rfl
  · exact absurd hlayers (hnone _)

end ShutdownTree
end Bombay.PhasedShutdown
