/-
# Precedence

A relation that says what comes before what.  It is acyclic if nothing comes before itself, over
any number of steps, and then every list that is not empty has a first element.  A list that holds
everything in order proves that there is no cycle.  The longest chain that ends in an element says
how many rounds of taking first elements away it takes to reach it.
-/

import Mathlib.Order.WellFoundedSet

namespace Bombay.Precedence

open Relation

variable {α : Type*} {before : α → α → Prop}

/-- Nothing comes before itself. -/
def Acyclic (before : α → α → Prop) : Prop := ∀ a, ¬ TransGen before a a

/-- **A list has a first element**: one that no other element of it comes before. -/
theorem Acyclic.exists_first (h : Acyclic before) {list : List α} (hlist : list ≠ []) :
    ∃ first ∈ list, ∀ other ∈ list, ¬ before other first := by
  have : IsStrictOrder α (TransGen before) := { irrefl := h, trans := fun _ _ _ => TransGen.trans }
  have hwell : {a | a ∈ list}.WellFoundedOn (TransGen before) :=
    list.finite_toSet.wellFoundedOn
  obtain ⟨some, hsome⟩ := List.exists_mem_of_ne_nil list hlist
  obtain ⟨⟨first, hfirst⟩, -, hmin⟩ := hwell.has_min Set.univ ⟨⟨some, hsome⟩, trivial⟩
  exact ⟨first, hfirst, fun other hother hbefore => hmin ⟨other, hother⟩ trivial (.single hbefore)⟩

/-- Every element of the list comes after all that is before it. -/
def Ordered (before : α → α → Prop) (list : List α) : Prop :=
  ∀ earlier a later, list = earlier ++ a :: later → ∀ b, before b a → b ∈ earlier

theorem Ordered.nil : Ordered before [] :=
  fun _ _ _ hsplit => absurd hsplit (by simp)

/-- An element goes to the end of an ordered list if all that is before it is there. -/
theorem Ordered.snoc {list : List α} (h : Ordered before list) {last : α}
    (hlast : ∀ b, before b last → b ∈ list) : Ordered before (list ++ [last]) := by
  intro earlier a later hsplit b hbefore
  rcases List.eq_nil_or_concat later with rfl | ⟨between, other, rfl⟩
  · obtain ⟨rfl, ha⟩ := List.append_inj' hsplit rfl
    obtain rfl := List.singleton_inj.mp ha
    exact hlast b hbefore
  · rw [List.concat_eq_append, ← List.cons_append, ← List.append_assoc] at hsplit
    exact h earlier a between (List.append_inj' hsplit rfl).1 b hbefore

/-- In an ordered list, what comes before an element over several steps is in front of it. -/
theorem Ordered.transGen {list : List α} (h : Ordered before list) {a b : α}
    (hbefore : TransGen before b a) :
    ∀ earlier later, list = earlier ++ a :: later → b ∈ earlier := by
  induction hbefore with
  | single hbefore => exact fun earlier later hsplit => h earlier _ later hsplit b hbefore
  | @tail c a _ hlast ih =>
    intro earlier later hsplit
    obtain ⟨first, second, hfirst⟩ := List.append_of_mem (h earlier a later hsplit c hlast)
    have hmiddle : list = first ++ c :: (second ++ a :: later) := by
      rw [hsplit, hfirst, List.append_assoc, List.cons_append]
    rw [hfirst]
    exact List.mem_append_left _ (ih first _ hmiddle)

/-- **A list without repetition that holds everything in order proves that there is no cycle.** -/
theorem Ordered.acyclic {list : List α} (h : Ordered before list) (hnodup : list.Nodup)
    (hall : ∀ a b, before a b → b ∈ list) : Acyclic before := by
  intro a hcycle
  have hmem : a ∈ list := by
    obtain ⟨b, -, hlast⟩ := TransGen.tail'_iff.mp hcycle
    exact hall b a hlast
  obtain ⟨earlier, later, hsplit⟩ := List.append_of_mem hmem
  have hearlier := h.transGen hcycle earlier later hsplit
  rw [hsplit] at hnodup
  exact (List.nodup_append.mp hnodup).2.2 a hearlier a (.head _) rfl

/-! ### Chains -/

/-- A chain of elements of the list that ends in `a`, with `length` elements before `a`, each before
the next. -/
inductive Chain (before : α → α → Prop) (list : List α) : ℕ → α → Prop
  | single {a : α} (hmem : a ∈ list) : Chain before list 0 a
  | snoc {length : ℕ} {b a : α} (hchain : Chain before list length b) (hbefore : before b a)
      (hmem : a ∈ list) : Chain before list (length + 1) a

variable {list rest : List α} {length : ℕ} {a : α}

theorem Chain.mem (h : Chain before list length a) : a ∈ list := by
  cases h with
  | single hmem | snoc _ _ hmem => exact hmem

/-- What comes after the end of a chain ends a longer one. -/
theorem Chain.transGen (hall : ∀ b c, before b c → c ∈ list) {b : α} (h : Chain before list length b)
    (hbefore : TransGen before b a) : ∃ longer, length < longer ∧ Chain before list longer a := by
  induction hbefore with
  | single hbefore => exact ⟨_, Nat.lt_succ_self _, h.snoc hbefore (hall _ _ hbefore)⟩
  | tail _ hlast ih =>
    obtain ⟨longer, hlonger, hchain⟩ := ih
    exact ⟨_, Nat.lt_succ_of_lt hlonger, hchain.snoc hlast (hall _ _ hlast)⟩

/-- **Where every chain to an element is bounded there is no cycle through it.** -/
theorem not_transGen_of_bounded (hall : ∀ b c, before b c → c ∈ list) {bound : ℕ}
    (h : IsGreatest {length | Chain before list length a} bound) : ¬ TransGen before a a := by
  intro hcycle
  obtain ⟨longer, hlonger, hchain⟩ := h.1.transGen hall hcycle
  exact absurd (h.2 hchain) (Nat.not_le_of_lt hlonger)

/-- An element that nothing of the list comes before ends no longer chain. -/
theorem greatest_of_first (hmem : a ∈ list) (hfirst : ∀ other ∈ list, ¬ before other a) :
    IsGreatest {length | Chain before list length a} 0 := by
  refine ⟨.single hmem, fun length hchain => ?_⟩
  cases hchain with
  | single => exact Nat.le_refl _
  | snoc hchain hbefore => exact absurd hbefore (hfirst _ hchain.mem)

/-- **A chain loses its first element with the first elements of the list.** -/
theorem chain_rest (hrest : ∀ a, a ∈ rest ↔ a ∈ list ∧ ∃ other ∈ list, before other a) :
    Chain before list (length + 1) a ↔ Chain before rest length a := by
  constructor
  · intro h
    induction length generalizing a with
    | zero =>
      cases h with
      | snoc hchain hbefore hmem => exact .single ((hrest a).mpr ⟨hmem, _, hchain.mem, hbefore⟩)
    | succ length ih =>
      cases h with
      | snoc hchain hbefore hmem =>
        exact .snoc (ih hchain) hbefore ((hrest a).mpr ⟨hmem, _, hchain.mem, hbefore⟩)
  · intro h
    induction h with
    | single hmem =>
      obtain ⟨hmem, other, hother, hbefore⟩ := (hrest _).mp hmem
      exact .snoc (.single hother) hbefore hmem
    | snoc _ hbefore hmem ih => exact ih.snoc hbefore ((hrest _).mp hmem).1

/-- So the longest chain to an element of the rest is one longer in the list. -/
theorem greatest_rest (hrest : ∀ a, a ∈ rest ↔ a ∈ list ∧ ∃ other ∈ list, before other a)
    (h : IsGreatest {length | Chain before rest length a} length) :
    IsGreatest {length | Chain before list length a} (length + 1) := by
  refine ⟨(chain_rest hrest).mpr h.1, fun other hchain => ?_⟩
  cases other with
  | zero => exact Nat.zero_le _
  | succ other => exact Nat.succ_le_succ (h.2 ((chain_rest hrest).mp hchain))

end Bombay.Precedence
