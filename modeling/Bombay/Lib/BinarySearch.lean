/-
# Binary search in a sorted list

`slice::binary_search_by` of the Rust standard library: halve the part of the
list that can still hold the answer, then look at the one position left.  In a
list whose keys increase, a key that is there is found at its position, and a
key that is not there is told the position where it belongs: everything before
that position is smaller, and everything from it on is larger.
-/

import Bombay.Lib.Roster
import Mathlib.Data.List.Sort

namespace Bombay.BinarySearch

variable {α K : Type*} [LinearOrder K]

/-- The loop: `base` and `size` delimit the part that can still hold the answer. -/
def bisect (compareKey : α → Ordering) (items : List α) : ℕ → ℕ → ℕ → ℕ
  | 0, base, _ => base
  | fuel + 1, base, size =>
    if size ≤ 1 then base
    else
      match items[base + size / 2]?.map compareKey with
      | some .gt => bisect compareKey items fuel base (size - size / 2)
      | _ => bisect compareKey items fuel (base + size / 2) (size - size / 2)

/-- `slice::binary_search_by`: the position of a match, or where one belongs. -/
def binarySearchBy (compareKey : α → Ordering) (items : List α) : Except ℕ ℕ :=
  let base := bisect compareKey items items.length 0 items.length
  match items[base]?.map compareKey with
  | some .eq => .ok base
  | some .lt => .error (base + 1)
  | _ => .error base

variable {key : α → K} {items : List α}

/-- The keys increase. -/
def Increasing (key : α → K) (items : List α) : Prop :=
  items.Pairwise fun a b => key a < key b

theorem Increasing.lt {i j : ℕ} {a b : α} (h : Increasing key items) (ha : items[i]? = some a)
    (hb : items[j]? = some b) (hij : i < j) : key a < key b := by
  obtain ⟨hi, rfl⟩ := List.getElem?_eq_some_iff.mp ha
  obtain ⟨hj, rfl⟩ := List.getElem?_eq_some_iff.mp hb
  exact List.pairwise_iff_getElem.mp h i j hi hj hij

/-- Two positions with one key are one position. -/
theorem Increasing.position_unique {i j : ℕ} {a b : α} (h : Increasing key items)
    (ha : items[i]? = some a) (hb : items[j]? = some b) (heq : key a = key b) : i = j := by
  rcases Nat.lt_trichotomy i j with hij | hij | hij
  · exact absurd heq (h.lt ha hb hij).ne
  · exact hij
  · exact absurd heq.symm (h.lt hb ha hij).ne

/-- **What the loop leaves.**  The part shrinks to one position; what lies before it is
smaller than the target, what lies after it is larger. -/
theorem bisect_spec (h : Increasing key items) (target : K) (fuel base size : ℕ)
    (hfuel : size ≤ fuel + 1) (hsize : 0 < size) (hend : base + size ≤ items.length)
    (hbefore : ∀ i a, items[i]? = some a → i < base → key a < target)
    (hafter : ∀ i a, items[i]? = some a → base + size ≤ i → target < key a) :
    ∃ position a, bisect (fun a => compare (key a) target) items fuel base size = position ∧
      items[position]? = some a ∧
      (∀ i b, items[i]? = some b → i < position → key b < target) ∧
      ∀ i b, items[i]? = some b → position < i → target < key b := by
  induction fuel generalizing base size with
  | zero =>
    have hone : size = 1 := by omega
    subst hone
    exact ⟨base, items[base], rfl, List.getElem?_eq_getElem (by omega), hbefore, hafter⟩
  | succ fuel ih =>
    unfold bisect
    by_cases hone : size ≤ 1
    · have hsame : size = 1 := by omega
      subst hsame
      rw [if_pos hone]
      exact ⟨base, items[base], rfl, List.getElem?_eq_getElem (by omega), hbefore, hafter⟩
    · rw [if_neg hone]
      have hmid : base + size / 2 < items.length := by omega
      have hget : items[base + size / 2]? = some items[base + size / 2] :=
        List.getElem?_eq_getElem hmid
      have hleft (hlt : target < key items[base + size / 2]) :
          ∀ i a, items[i]? = some a → base + (size - size / 2) ≤ i → target < key a := by
        intro i a ha hi
        rcases Nat.lt_or_ge (base + size / 2) i with hlater | hearlier
        · exact hlt.trans (h.lt hget ha hlater)
        · have hsame : i = base + size / 2 := by omega
          subst hsame
          rw [hget, Option.some.injEq] at ha
          exact ha ▸ hlt
      have hright (hle : key items[base + size / 2] ≤ target) :
          ∀ i a, items[i]? = some a → i < base + size / 2 → key a < target :=
        fun i a ha hi => (h.lt ha hget hi).trans_le hle
      rw [hget, Option.map_some]
      rcases lt_trichotomy (key items[base + size / 2]) target with hlt | heq | hgt
      · rw [compare_lt_iff_lt.mpr hlt]
        exact ih _ _ (by omega) (by omega) (by omega) (hright hlt.le)
          fun i a ha hi => hafter i a ha (by omega)
      · rw [compare_eq_iff_eq.mpr heq]
        exact ih _ _ (by omega) (by omega) (by omega) (hright heq.le)
          fun i a ha hi => hafter i a ha (by omega)
      · rw [compare_gt_iff_gt.mpr hgt]
        exact ih _ _ (by omega) (by omega) (by omega) hbefore (hleft hgt)

/-- **What the search answers** in a list with increasing keys. -/
theorem binarySearchBy_cases (h : Increasing key items) (target : K) :
    (∃ position a, binarySearchBy (fun a => compare (key a) target) items = .ok position ∧
      items[position]? = some a ∧ key a = target) ∨
    ∃ position, binarySearchBy (fun a => compare (key a) target) items = .error position ∧
      position ≤ items.length ∧
      (∀ i a, items[i]? = some a → i < position → key a < target) ∧
      ∀ i a, items[i]? = some a → position ≤ i → target < key a := by
  unfold binarySearchBy
  rcases Nat.eq_zero_or_pos items.length with hempty | hpos
  · obtain rfl := List.length_eq_zero_iff.mp hempty
    exact .inr ⟨0, rfl, le_rfl, by simp, by simp⟩
  · obtain ⟨position, a, hbisect, hget, hbefore, hafter⟩ :=
      bisect_spec h target items.length 0 items.length (by omega) hpos (by omega)
        (fun i a _ hi => absurd hi (Nat.not_lt_zero i))
        fun i a ha hi => absurd (List.getElem?_eq_some_iff.mp ha).1 (by omega)
    have hlt := (List.getElem?_eq_some_iff.mp hget).1
    simp only [hbisect, hget, Option.map_some]
    rcases lt_trichotomy (key a) target with hsmaller | heq | hlarger
    · rw [compare_lt_iff_lt.mpr hsmaller]
      refine .inr ⟨position + 1, rfl, by omega, fun i b hb hi => ?_,
        fun i b hb hi => hafter i b hb (by omega)⟩
      rcases Nat.lt_or_ge i position with hearlier | hlater
      · exact hbefore i b hb hearlier
      · have hsame : i = position := by omega
        subst hsame
        rw [hget, Option.some.injEq] at hb
        exact hb ▸ hsmaller
    · rw [compare_eq_iff_eq.mpr heq]
      exact .inl ⟨position, a, rfl, hget, heq⟩
    · rw [compare_gt_iff_gt.mpr hlarger]
      refine .inr ⟨position, rfl, hlt.le, hbefore, fun i b hb hi => ?_⟩
      rcases Nat.lt_or_ge position i with hlater | hearlier
      · exact hafter i b hb hlater
      · have hsame : i = position := by omega
        subst hsame
        rw [hget, Option.some.injEq] at hb
        exact hb ▸ hlarger

/-- A found key is there, and a key that is there is found. -/
theorem binarySearchBy_ok_iff (h : Increasing key items) (target : K) (position : ℕ) :
    binarySearchBy (fun a => compare (key a) target) items = .ok position ↔
      ∃ a, items[position]? = some a ∧ key a = target := by
  rcases binarySearchBy_cases h target with ⟨found, a, heq, hget, hkey⟩ |
    ⟨place, heq, -, hbefore, hafter⟩
  · rw [heq]
    constructor
    · rintro ⟨⟩
      exact ⟨a, hget, hkey⟩
    · rintro ⟨b, hb, hkey'⟩
      rw [h.position_unique hget hb (hkey.trans hkey'.symm)]
  · rw [heq]
    constructor
    · rintro ⟨⟩
    · rintro ⟨b, hb, rfl⟩
      rcases Nat.lt_or_ge position place with hlt | hge
      · exact absurd (hbefore position b hb hlt) (lt_irrefl _)
      · exact absurd (hafter position b hb hge) (lt_irrefl _)

/-- An item replaced by one with the same key keeps the keys increasing. -/
theorem Increasing.set (h : Increasing key items) {position : ℕ} {a b : α}
    (ha : items[position]? = some a) (hkey : key b = key a) :
    Increasing key (items.set position b) := by
  have hmap : (items.set position b).map key = items.map key := Roster.map_set_of_eq ha hkey
  unfold Increasing at h ⊢
  rw [← List.pairwise_map] at h ⊢
  rwa [hmap]

/-- **An item inserted where the search says** keeps the keys increasing. -/
theorem Increasing.insertIdx (h : Increasing key items) {item : α} {position : ℕ}
    (hsearch : binarySearchBy (fun a => compare (key a) (key item)) items = .error position) :
    Increasing key (items.insertIdx position item) := by
  rcases binarySearchBy_cases h (key item) with ⟨found, a, heq, -, -⟩ |
    ⟨place, heq, hle, hbefore, hafter⟩
  · rw [hsearch] at heq
    cases heq
  · rw [hsearch, Except.error.injEq] at heq
    subst heq
    rw [Roster.insertIdx_eq_append hle]
    have hsplit := h
    rw [← List.take_append_drop position items] at hsplit
    obtain ⟨htake, hdrop, hcross⟩ := List.pairwise_append.mp hsplit
    have hsmaller : ∀ a ∈ items.take position, key a < key item := by
      intro a ha
      obtain ⟨i, hi⟩ := List.getElem?_of_mem ha
      rw [List.getElem?_take, Option.ite_none_right_eq_some] at hi
      exact hbefore i a hi.2 hi.1
    have hlarger : ∀ b ∈ items.drop position, key item < key b := by
      intro b hb
      obtain ⟨i, hi⟩ := List.getElem?_of_mem hb
      rw [List.getElem?_drop] at hi
      exact hafter (position + i) b hi (Nat.le_add_right _ _)
    refine List.pairwise_append.mpr ⟨htake, List.pairwise_cons.mpr ⟨hlarger, hdrop⟩, ?_⟩
    intro a ha b hb
    rcases List.mem_cons.mp hb with rfl | hb
    · exact hsmaller a ha
    · exact hcross a ha b hb

end Bombay.BinarySearch
