/-
# The binding table of a keyed pool

`crates/actors/src/templates/pool/router/binding.rs`: which role a key is bound
to, and since which generation.  The table keeps its bindings in key order and
finds a key by binary search; a generation is issued once and never again, so
that a stale one matches nothing.

The order and the capacity are fields of the table: whoever builds a table shows
that it keeps them.  `BindingTable.binding_eq_some` reads the table as a finite
map, and the lemmas after it say what each operation does to that map.
-/

import Bombay.Lib.BinarySearch
import Bombay.Lib.Sequence

namespace Bombay.Keyed

/-- `BindingCapacity`: a positive number of retained bindings. -/
structure BindingCapacity where
  maximum : ℕ
  positive : 0 < maximum

/-- `BindingGeneration`: an ordinal and the token of the pool that issued it. -/
structure BindingGeneration where
  ordinal : ℕ
  token : ℕ
  deriving DecidableEq, Repr

/-- `BindingExpectation`. -/
inductive BindingExpectation where
  | absent
  | exact (generation : BindingGeneration)
  deriving DecidableEq, Repr

/-- `BindingEvidence<Role>`. -/
structure BindingEvidence (Role : Type) where
  generation : BindingGeneration
  role : Role
  deriving DecidableEq

/-- `Binding<Key, Role>`. -/
structure Binding (Key Role : Type) where
  key : Key
  evidence : BindingEvidence Role
  deriving DecidableEq

/-- `GenerationSequence`. -/
structure GenerationSequence where
  next : Sequence
  token : ℕ
  deriving DecidableEq

/-- `GenerationSequence::new`. -/
def GenerationSequence.new (token : ℕ) : GenerationSequence := ⟨⟨some 1⟩, token⟩

/-- `GenerationSequence::issue`. -/
def GenerationSequence.issue (generations : GenerationSequence) :
    Option (BindingGeneration × GenerationSequence) :=
  match generations.next.issue with
  | none => none
  | some (ordinal, next) => some (⟨ordinal, generations.token⟩, ⟨next, generations.token⟩)

/-- `BindingReservationRejected<Key>`. -/
inductive BindingReservationRejected (Key : Type) where
  | alreadyBound (key : Key)
  | capacityExhausted (key : Key)
  | generationsExhausted (key : Key)

/-- `BindingTable<Key, Role>`: bindings in key order, no more than the capacity. -/
structure BindingTable (Key Role : Type) [LinearOrder Key] where
  capacity : BindingCapacity
  bindings : List (Binding Key Role)
  generations : GenerationSequence
  ordered : BinarySearch.Increasing Binding.key bindings
  within : bindings.length ≤ capacity.maximum

section

variable {Key Role : Type} [LinearOrder Key]

namespace BindingTable

/-- `BindingTable::new`. -/
def new (capacity : BindingCapacity) (token : ℕ) : BindingTable Key Role where
  capacity := capacity
  bindings := []
  generations := .new token
  ordered := List.Pairwise.nil
  within := Nat.zero_le _

/-- `BindingTable::position`. -/
def position (table : BindingTable Key Role) (key : Key) : Except ℕ ℕ :=
  BinarySearch.binarySearchBy (fun binding => compare binding.key key) table.bindings

/-- `BindingTable::binding`. -/
def binding (table : BindingTable Key Role) (key : Key) : Option (BindingEvidence Role) :=
  match table.position key with
  | .ok position => table.bindings[position]?.map (·.evidence)
  | .error _ => none

/-- The bindings without some of them, under the same generations. -/
def keep (table : BindingTable Key Role) (bindings : List (Binding Key Role))
    (h : bindings.Sublist table.bindings) : BindingTable Key Role where
  capacity := table.capacity
  bindings := bindings
  generations := table.generations
  ordered := table.ordered.sublist h
  within := h.length_le.trans table.within

/-- `BindingTable::remove`. -/
def remove (table : BindingTable Key Role) (key : Key) :
    Option ((Key × BindingEvidence Role) × BindingTable Key Role) :=
  match table.position key with
  | .ok position =>
    match table.bindings[position]? with
    | some binding =>
      some ((binding.key, binding.evidence),
        table.keep (table.bindings.eraseIdx position) (List.eraseIdx_sublist _ _))
    | none => none
  | .error _ => none

/-- `BindingTable::retire_role`: what is extracted, and the table without it. -/
def retireRole [DecidableEq Role] (table : BindingTable Key Role) (role : Role) :
    List (Key × BindingEvidence Role) × BindingTable Key Role :=
  ((table.bindings.filter fun binding => binding.evidence.role = role).map
      fun binding => (binding.key, binding.evidence),
    table.keep (table.bindings.filter fun binding => binding.evidence.role ≠ role)
      List.filter_sublist)

/-- `BindingTable::drain`. -/
def drain (table : BindingTable Key Role) : List (Key × BindingEvidence Role) :=
  table.bindings.map fun binding => (binding.key, binding.evidence)

end BindingTable

/-- `ReservedBinding`: a generation is issued for a key that has no binding, and there
is room for one. -/
structure ReservedBinding (Key Role : Type) [LinearOrder Key] where
  table : BindingTable Key Role
  position : ℕ
  key : Key
  generation : BindingGeneration
  role : Role
  vacant : table.position key = .error position
  room : table.bindings.length < table.capacity.maximum

/-- `OccupiedBinding`. -/
structure OccupiedBinding (Key Role : Type) [LinearOrder Key] where
  table : BindingTable Key Role
  position : ℕ
  binding : Binding Key Role
  found : table.bindings[position]? = some binding

/-- `BindingTable::reserve`. -/
def BindingTable.reserve (table : BindingTable Key Role) (key : Key) (role : Role) :
    Except (BindingReservationRejected Key) (ReservedBinding Key Role) :=
  match vacant : table.position key with
  | .ok _ => .error (.alreadyBound key)
  | .error position =>
    if room : table.bindings.length < table.capacity.maximum then
      match table.generations.issue with
      | none => .error (.generationsExhausted key)
      | some (generation, generations) =>
        .ok { table := { table with generations := generations }, position, key, generation, role,
              vacant, room }
    else .error (.capacityExhausted key)

/-- `BindingTable::occupied`. -/
def BindingTable.occupied (table : BindingTable Key Role) (key : Key) :
    Option (OccupiedBinding Key Role) :=
  match table.position key with
  | .ok position =>
    match found : table.bindings[position]? with
    | some binding => some { table, position, binding, found }
    | none => none
  | .error _ => none

namespace ReservedBinding

/-- `ReservedBinding::commit`. -/
def commit (reserved : ReservedBinding Key Role) : BindingEvidence Role × BindingTable Key Role :=
  (⟨reserved.generation, reserved.role⟩,
    { reserved.table with
      bindings := reserved.table.bindings.insertIdx reserved.position
        ⟨reserved.key, ⟨reserved.generation, reserved.role⟩⟩
      ordered := reserved.table.ordered.insertIdx reserved.vacant
      within := (List.length_insertIdx_le_succ).trans reserved.room })

/-- `ReservedBinding::reject`: the generation stays issued. -/
def reject (reserved : ReservedBinding Key Role) : Key × BindingTable Key Role :=
  (reserved.key, reserved.table)

end ReservedBinding

/-- `OccupiedBinding::rebind`: the prior and the current evidence. -/
def OccupiedBinding.rebind (occupied : OccupiedBinding Key Role) (role : Role) :
    Option ((BindingEvidence Role × BindingEvidence Role) × BindingTable Key Role) :=
  match occupied.table.generations.issue with
  | none => none
  | some (generation, generations) =>
    some ((occupied.binding.evidence, ⟨generation, role⟩),
      { occupied.table with
        bindings := occupied.table.bindings.set occupied.position
          ⟨occupied.binding.key, ⟨generation, role⟩⟩
        generations := generations
        ordered := occupied.table.ordered.set occupied.found rfl
        within := (List.length_set ..).trans_le occupied.table.within })

/-! ### The table as a finite map -/

namespace BindingTable

variable {table : BindingTable Key Role} {key : Key} {evidence : BindingEvidence Role}

theorem position_eq_ok {position} : table.position key = .ok position ↔
    ∃ binding, table.bindings[position]? = some binding ∧ binding.key = key :=
  BinarySearch.binarySearchBy_ok_iff table.ordered key position

/-- **A key is bound where a binding names it.** -/
theorem binding_eq_some : table.binding key = some evidence ↔ ⟨key, evidence⟩ ∈ table.bindings := by
  constructor
  · intro h
    unfold binding at h
    split at h
    · rename_i position hposition
      obtain ⟨found, hget, hkey⟩ := position_eq_ok.mp hposition
      rw [hget, Option.map_some, Option.some.injEq] at h
      have hsame : found = ⟨key, evidence⟩ := by
        rw [← hkey, ← h]
      exact hsame ▸ List.mem_of_getElem? hget
    · cases h
  · intro h
    obtain ⟨position, hget⟩ := List.getElem?_of_mem h
    unfold binding
    rw [position_eq_ok.mpr ⟨_, hget, rfl⟩]
    simp only [hget, Option.map_some]

/-- A key is not bound where no binding names it. -/
theorem binding_eq_none : table.binding key = none ↔
    ∀ binding ∈ table.bindings, binding.key ≠ key := by
  rw [Option.eq_none_iff_forall_ne_some]
  constructor
  · rintro h binding hmem rfl
    exact h binding.evidence (binding_eq_some.mpr hmem)
  · intro h evidence hbound
    exact h _ (binding_eq_some.mp hbound) rfl

/-- Tables with the same bindings are the same map. -/
theorem binding_congr {other : BindingTable Key Role} (h : other.bindings = table.bindings) :
    other.binding = table.binding := by
  funext key
  apply Option.ext
  intro evidence
  rw [binding_eq_some, binding_eq_some, h]

/-- The key is bound to nothing exactly where its binding is missing from the search. -/
theorem position_eq_error : (∃ position, table.position key = .error position) ↔
    table.binding key = none := by
  constructor
  · rintro ⟨position, h⟩
    unfold binding
    rw [h]
  · intro h
    cases hposition : table.position key with
    | error position => exact ⟨position, rfl⟩
    | ok position =>
      obtain ⟨binding, hget, hkey⟩ := position_eq_ok.mp hposition
      exact absurd hkey (binding_eq_none.mp h binding (List.mem_of_getElem? hget))

theorem new_binding (capacity : BindingCapacity) (token : ℕ) (key : Key) :
    (new capacity token : BindingTable Key Role).binding key = none :=
  binding_eq_none.mpr fun _ h => absurd h List.not_mem_nil

/-- **Removing a key** takes its binding out of the map, and nothing else. -/
theorem remove_eq_some (h : table.binding key = some evidence) :
    ∃ next, table.remove key = some ((key, evidence), next) ∧
      next.binding = Function.update table.binding key none ∧
      next.generations = table.generations ∧ next.capacity = table.capacity ∧
      ∀ binding, binding ∈ next.bindings ↔ binding ∈ table.bindings ∧ binding.key ≠ key := by
  obtain ⟨position, hget⟩ := List.getElem?_of_mem (binding_eq_some.mp h)
  have hmem (binding : Binding Key Role) : binding ∈ table.bindings.eraseIdx position ↔
      binding ∈ table.bindings ∧ binding.key ≠ key := by
    rw [List.mem_eraseIdx_iff_getElem?]
    constructor
    · rintro ⟨other, hother, hbinding⟩
      refine ⟨List.mem_of_getElem? hbinding, fun hkey => hother ?_⟩
      exact table.ordered.position_unique hbinding hget hkey
    · rintro ⟨hbinding, hkey⟩
      obtain ⟨other, hother⟩ := List.getElem?_of_mem hbinding
      refine ⟨other, ?_, hother⟩
      rintro rfl
      rw [hget, Option.some.injEq] at hother
      exact hkey (hother ▸ rfl)
  refine ⟨table.keep (table.bindings.eraseIdx position) (List.eraseIdx_sublist _ _), ?_, ?_, rfl,
    rfl, hmem⟩
  · unfold remove
    rw [position_eq_ok.mpr ⟨_, hget, rfl⟩]
    simp only [hget]
  · funext other
    by_cases hother : other = key
    · subst hother
      rw [Function.update_self, binding_eq_none]
      exact fun binding hbinding => ((hmem binding).mp hbinding).2
    · rw [Function.update_of_ne hother]
      apply Option.ext
      intro evidence
      rw [binding_eq_some, binding_eq_some]
      exact (hmem _).trans (and_iff_left hother)

/-- **Retiring a role** takes its bindings out of the map, and no others. -/
theorem retireRole_binding [DecidableEq Role] (role : Role) (key : Key) :
    (table.retireRole role).2.binding key
      = (table.binding key).filter fun evidence => evidence.role ≠ role := by
  apply Option.ext
  intro evidence
  rw [binding_eq_some, Option.filter_eq_some_iff, binding_eq_some]
  exact List.mem_filter

/-- **What a reservation answers.** -/
theorem reserve_cases (table : BindingTable Key Role) (key : Key) (role : Role) :
    (∃ evidence, table.binding key = some evidence ∧
      table.reserve key role = .error (.alreadyBound key)) ∨
    (table.binding key = none ∧ table.capacity.maximum ≤ table.bindings.length ∧
      table.reserve key role = .error (.capacityExhausted key)) ∨
    (table.binding key = none ∧ table.bindings.length < table.capacity.maximum ∧
      table.generations.issue = none ∧
      table.reserve key role = .error (.generationsExhausted key)) ∨
    ∃ reserved generations, table.binding key = none ∧
      table.bindings.length < table.capacity.maximum ∧
      table.generations.issue = some (reserved.generation, generations) ∧
      table.reserve key role = .ok reserved ∧ reserved.key = key ∧ reserved.role = role ∧
      reserved.table = { table with generations := generations } := by
  unfold reserve
  split
  · rename_i position hposition
    obtain ⟨binding, hget, hkey⟩ := position_eq_ok.mp hposition
    refine .inl ⟨binding.evidence, binding_eq_some.mpr ?_, rfl⟩
    exact hkey ▸ List.mem_of_getElem? hget
  · rename_i position hposition
    have hnone := position_eq_error.mp ⟨position, hposition⟩
    split
    · rename_i hroom
      split
      · rename_i hissue
        exact .inr (.inr (.inl ⟨hnone, hroom, hissue, rfl⟩))
      · rename_i generation generations hissue
        exact .inr (.inr (.inr ⟨_, generations, hnone, hroom, hissue, rfl, rfl, rfl, rfl⟩))
    · rename_i hfull
      exact .inr (.inl ⟨hnone, Nat.le_of_not_lt hfull, rfl⟩)

theorem occupied_eq_some (h : table.binding key = some evidence) :
    ∃ occupied, table.occupied key = some occupied ∧ occupied.table = table ∧
      occupied.binding = ⟨key, evidence⟩ := by
  obtain ⟨position, hget⟩ := List.getElem?_of_mem (binding_eq_some.mp h)
  unfold occupied
  rw [position_eq_ok.mpr ⟨_, hget, rfl⟩]
  dsimp only
  split
  · rename_i binding hfound
    rw [hget, Option.some.injEq] at hfound
    exact ⟨_, rfl, rfl, hfound.symm⟩
  · rename_i hnone
    rw [hget] at hnone
    cases hnone

end BindingTable

namespace ReservedBinding

variable (reserved : ReservedBinding Key Role)

theorem position_le : reserved.position ≤ reserved.table.bindings.length := by
  rcases BinarySearch.binarySearchBy_cases reserved.table.ordered reserved.key with
    ⟨position, binding, hposition, -, -⟩ | ⟨position, hposition, hle, -, -⟩
  · cases reserved.vacant.symm.trans hposition
  · cases reserved.vacant.symm.trans hposition
    exact hle

theorem mem_commit (binding : Binding Key Role) :
    binding ∈ reserved.commit.2.bindings ↔
      binding = ⟨reserved.key, ⟨reserved.generation, reserved.role⟩⟩ ∨
        binding ∈ reserved.table.bindings :=
  List.mem_insertIdx reserved.position_le

/-- **A committed reservation** binds its key, and changes no other. -/
theorem commit_binding : reserved.commit.2.binding
    = Function.update reserved.table.binding reserved.key
        (some ⟨reserved.generation, reserved.role⟩) := by
  have hvacant := BindingTable.position_eq_error.mp ⟨_, reserved.vacant⟩
  funext other
  apply Option.ext
  intro evidence
  rw [BindingTable.binding_eq_some, mem_commit]
  by_cases hother : other = reserved.key
  · subst hother
    rw [Function.update_self]
    constructor
    · rintro (hsame | hmem)
      · rw [Binding.mk.injEq] at hsame
        rw [hsame.2]
      · exact absurd rfl (BindingTable.binding_eq_none.mp hvacant _ hmem)
    · intro hsame
      rw [Option.some.injEq] at hsame
      exact .inl (by rw [hsame])
  · rw [Function.update_of_ne hother, BindingTable.binding_eq_some]
    refine or_iff_right fun hsame => hother ?_
    rw [Binding.mk.injEq] at hsame
    exact hsame.1

end ReservedBinding

/-- **What rebinding does**: it needs a generation, and moves the one key to it. -/
theorem OccupiedBinding.rebind_cases (occupied : OccupiedBinding Key Role) (role : Role) :
    (occupied.table.generations.issue = none ∧ occupied.rebind role = none) ∨
    ∃ generation generations next,
      occupied.table.generations.issue = some (generation, generations) ∧
      occupied.rebind role = some ((occupied.binding.evidence, ⟨generation, role⟩), next) ∧
      next.generations = generations ∧ next.capacity = occupied.table.capacity ∧
      next.bindings = occupied.table.bindings.set occupied.position
        ⟨occupied.binding.key, ⟨generation, role⟩⟩ ∧
      next.binding = Function.update occupied.table.binding occupied.binding.key
        (some ⟨generation, role⟩) := by
  unfold rebind
  cases hissue : occupied.table.generations.issue with
  | none => exact .inl ⟨rfl, rfl⟩
  | some issued =>
    obtain ⟨generation, generations⟩ := issued
    refine .inr ⟨generation, generations, _, rfl, rfl, rfl, rfl, rfl, ?_⟩
    have hlt := (List.getElem?_eq_some_iff.mp occupied.found).1
    funext other
    by_cases hother : other = occupied.binding.key
    · subst hother
      rw [Function.update_self, BindingTable.binding_eq_some]
      exact List.mem_of_getElem? (List.getElem?_set_self hlt)
    · rw [Function.update_of_ne hother]
      apply Option.ext
      intro evidence
      rw [BindingTable.binding_eq_some, BindingTable.binding_eq_some]
      constructor
      · intro hmem
        obtain ⟨position, hget⟩ := List.getElem?_of_mem hmem
        rw [List.getElem?_set] at hget
        split at hget
        · rw [Option.some.injEq, Binding.mk.injEq] at hget
          exact absurd hget.1.symm hother
        · exact List.mem_of_getElem? hget
      · intro hmem
        obtain ⟨position, hget⟩ := List.getElem?_of_mem hmem
        have hne : occupied.position ≠ position := by
          rintro rfl
          rw [occupied.found, Option.some.injEq] at hget
          exact hother (hget ▸ rfl)
        exact List.mem_of_getElem? ((List.getElem?_set_ne hne).trans hget)

end

end Bombay.Keyed
