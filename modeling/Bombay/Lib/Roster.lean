/-
# Removing from a list and putting back

Code that owns its elements takes one out of a list by position, works on it
and inserts a successor at the same position.  `insertIdx_eraseIdx` says that
the two together set one element and move no other, and the counting lemmas say
what that does to how many elements satisfy a predicate.
-/

import Mathlib.Data.List.InsertIdx

namespace Bombay.Roster

variable {α β : Type*}

variable {l : List α} {i : ℕ} {a b : α} {p : α → Bool}

/-- **Remove and insert at one position is `set`.** -/
theorem insertIdx_eraseIdx (h : i < l.length) (a : α) :
    (l.eraseIdx i).insertIdx i a = l.set i a := by
  induction l generalizing i with
  | nil => simp at h
  | cons b l ih =>
    cases i with
    | zero => rfl
    | succ i =>
      simp only [List.eraseIdx_cons_succ, List.insertIdx_succ_cons, List.set_cons_succ]
      rw [ih (by simpa using h)]

/-- An inserted element stands between what was before it and what was after it. -/
theorem insertIdx_eq_append (h : i ≤ l.length) (a : α) :
    l.insertIdx i a = l.take i ++ a :: l.drop i := by
  induction l generalizing i with
  | nil =>
    have hzero : i = 0 := by simpa using h
    subst hzero
    rfl
  | cons b l ih =>
    cases i with
    | zero => rfl
    | succ i =>
      rw [List.insertIdx_succ_cons, ih (by simpa using h)]
      rfl

/-- Putting back the element that was removed changes nothing. -/
theorem insertIdx_eraseIdx_self (h : l[i]? = some a) :
    (l.eraseIdx i).insertIdx i a = l := by
  obtain ⟨hi, rfl⟩ := List.getElem?_eq_some_iff.mp h
  rw [insertIdx_eraseIdx hi, List.set_getElem_self]

/-- A projection that one change keeps is kept for the whole list. -/
theorem map_set_of_eq {f : α → β} (h : l[i]? = some a)
    (hf : f b = f a) : (l.set i b).map f = l.map f := by
  obtain ⟨hi, rfl⟩ := List.getElem?_eq_some_iff.mp h
  rw [List.map_set, hf]
  apply List.ext_getElem?
  intro j
  rw [List.getElem?_set]
  split
  · rename_i hij
    subst hij
    simp [hi]
  · rfl

/-- An element of a kind that one change neither had nor has stays where it was. -/
theorem getElem?_set_iff {j : ℕ} {c : α} (h : l[i]? = some a)
    (ha : p a = false) (hb : p b = false) (hc : p c = true) :
    (l.set i b)[j]? = some c ↔ l[j]? = some c := by
  rw [List.getElem?_set]
  split
  · rename_i hij
    subst hij
    have hba : b ≠ c := fun hbc => by simp_all
    have hac : a ≠ c := fun hac => by simp_all
    simp [h, hac, hba]
  · rfl

/-- **Counting after one change.** -/
theorem countP_set (h : l[i]? = some a) (b : α) :
    (l.set i b).countP p + (if p a then 1 else 0) = l.countP p + (if p b then 1 else 0) := by
  induction l generalizing i with
  | nil => simp at h
  | cons c l ih =>
    cases i with
    | zero =>
      simp only [List.getElem?_cons_zero, Option.some.injEq] at h
      subst h
      simp only [List.set_cons_zero, List.countP_cons]
      omega
    | succ i =>
      have := ih (by simpa using h)
      simp only [List.set_cons_succ, List.countP_cons]
      omega

theorem countP_set_of_eq (h : l[i]? = some a)
    (hsame : p b = p a) : (l.set i b).countP p = l.countP p := by
  have hcount := countP_set (p := p) h b
  rw [hsame] at hcount
  exact Nat.add_right_cancel hcount

/-- A change that does not begin to satisfy `p` does not raise its count. -/
theorem countP_set_le (h : l[i]? = some a)
    (hnew : p b = true → p a = true) : (l.set i b).countP p ≤ l.countP p := by
  have hcount := countP_set (p := p) h b
  cases hb : p b with
  | false =>
    simp only [hb, Bool.false_eq_true, if_false] at hcount
    omega
  | true =>
    simp only [hb, hnew hb, if_true] at hcount
    omega

/-- A change that does not cease to satisfy `p` does not lower its count. -/
theorem le_countP_set (h : l[i]? = some a)
    (hold : p a = true → p b = true) : l.countP p ≤ (l.set i b).countP p := by
  have hcount := countP_set (p := p) h b
  cases ha : p a with
  | false =>
    simp only [ha, Bool.false_eq_true, if_false] at hcount
    omega
  | true =>
    simp only [ha, hold ha, if_true] at hcount
    omega

theorem countP_set_le_succ (h : l[i]? = some a)
    (b : α) : (l.set i b).countP p ≤ l.countP p + 1 := by
  have hcount := countP_set (p := p) h b
  have hone : (if p b = true then 1 else 0) ≤ 1 := by split <;> omega
  omega

/-- Counting after one removal. -/
theorem countP_eraseIdx (h : l[i]? = some a) :
    l.countP p = (l.eraseIdx i).countP p + if p a then 1 else 0 := by
  induction l generalizing i with
  | nil => simp at h
  | cons c l ih =>
    cases i with
    | zero =>
      simp only [List.getElem?_cons_zero, Option.some.injEq] at h
      subst h
      simp only [List.eraseIdx_zero, List.tail_cons, List.countP_cons]
    | succ i =>
      have := ih (by simpa using h)
      simp only [List.eraseIdx_cons_succ, List.countP_cons]
      omega

/-- **What a search by position finds**: an element that satisfies the
predicate, with none before it. -/
theorem findIdx?_some (h : l.findIdx? p = some i) :
    ∃ a, l[i]? = some a ∧ p a = true ∧ ∀ j < i, ∀ b, l[j]? = some b → p b = false := by
  obtain ⟨hi, hp, hbefore⟩ := List.findIdx?_eq_some_iff_getElem.mp h
  refine ⟨l[i], List.getElem?_eq_getElem hi, hp, fun j hj b hb => ?_⟩
  obtain ⟨hjl, rfl⟩ := List.getElem?_eq_some_iff.mp hb
  simpa using hbefore j hj

theorem findIdx?_none (h : l.findIdx? p = none) : l.countP p = 0 := by
  rw [List.findIdx?_eq_none_iff] at h
  exact List.countP_eq_zero.mpr fun a ha => by simp [h a ha]

theorem countP_pos_of_getElem? (h : l[i]? = some a) (hp : p a = true) : 0 < l.countP p :=
  List.countP_pos_iff.mpr ⟨a, List.mem_of_getElem? h, hp⟩

/-- **A search over the first `n` numbers stops at the first success.** -/
theorem findSome?_range {f : ℕ → Option β} {n : ℕ} {b : β}
    (h : (List.range n).findSome? f = some b) :
    ∃ k < n, f k = some b ∧ ∀ j < k, f j = none := by
  induction n with
  | zero => simp at h
  | succ n ih =>
    rw [List.range_succ, List.findSome?_append] at h
    cases hn : (List.range n).findSome? f with
    | some c =>
      rw [hn, Option.some_or] at h
      obtain ⟨k, hk, hf, hbefore⟩ := ih (hn.trans h)
      exact ⟨k, Nat.lt_succ_of_lt hk, hf, hbefore⟩
    | none =>
      rw [hn, Option.none_or] at h
      refine ⟨n, Nat.lt_succ_self n, by simpa using h, fun j hj => ?_⟩
      exact List.findSome?_eq_none_iff.mp hn j (List.mem_range.mpr hj)

/-- An association list only answers with what it holds. -/
theorem mem_of_lookup {l : List (ℕ × β)} {key : ℕ} {value : β}
    (h : l.lookup key = some value) : (key, value) ∈ l := by
  obtain ⟨before, after, rfl, -⟩ := List.lookup_eq_some_iff.mp h
  simp

/-- Under increasing keys, an association list answers with all it holds. -/
theorem lookup_of_mem {l : List (ℕ × β)} {key : ℕ} {value : β}
    (hkeys : (l.map Prod.fst).Pairwise (· < ·)) (h : (key, value) ∈ l) :
    l.lookup key = some value := by
  obtain ⟨before, after, rfl⟩ := List.append_of_mem h
  refine List.lookup_eq_some_iff.mpr ⟨before, after, rfl, fun entry hentry => ?_⟩
  rw [List.map_append, List.map_cons] at hkeys
  have hlt := (List.pairwise_append.mp hkeys).2.2 entry.1 (List.mem_map_of_mem hentry) key
    List.mem_cons_self
  simp only [bne_iff_ne, ne_eq]
  omega

/-- What some element has, some element has after one change, unless the change lost it. -/
theorem exists_mem_set {p : α → Prop} {lost : Prop}
    (h : l[i]? = some a) (hold : ∃ x ∈ l, p x) (hnew : p a → p b ∨ lost) :
    (∃ x ∈ l.set i b, p x) ∨ lost := by
  have hlt := (List.getElem?_eq_some_iff.mp h).1
  obtain ⟨x, hx, hp⟩ := hold
  obtain ⟨j, hj⟩ := List.getElem?_of_mem hx
  by_cases hij : i = j
  · subst hij
    obtain rfl := Option.some.inj (h.symm.trans hj)
    exact (hnew hp).imp_left fun hb => ⟨b, List.mem_of_getElem? (List.getElem?_set_self hlt), hb⟩
  · exact .inl ⟨x, List.mem_of_getElem? ((List.getElem?_set_ne hij).trans hj), hp⟩

/-- What some element has, some element has after one removal, unless that lost it. -/
theorem exists_mem_eraseIdx {p : α → Prop} {lost : Prop}
    (h : l[i]? = some a) (hold : ∃ x ∈ l, p x) (hlost : p a → lost) :
    (∃ x ∈ l.eraseIdx i, p x) ∨ lost := by
  obtain ⟨x, hx, hp⟩ := hold
  obtain ⟨j, hj⟩ := List.getElem?_of_mem hx
  by_cases hij : j = i
  · subst hij
    obtain rfl := Option.some.inj (h.symm.trans hj)
    exact .inr (hlost hp)
  · exact .inl ⟨x, List.mem_eraseIdx_iff_getElem?.mpr ⟨j, hij, hj⟩, hp⟩

theorem forall_mem_set {p : α → Prop} (h : ∀ x ∈ l, p x) (hnew : p b) : ∀ x ∈ l.set i b, p x := by
  intro x hx
  rcases List.mem_or_eq_of_mem_set hx with hx | rfl
  · exact h x hx
  · exact hnew

/-- A list splits around the position of an element. -/
theorem perm_set (h : l[i]? = some a) (b : α) :
    ∃ rest, l.Perm (a :: rest) ∧ (l.set i b).Perm (b :: rest) := by
  induction l generalizing i with
  | nil => simp at h
  | cons c l ih =>
    cases i with
    | zero =>
      simp only [List.getElem?_cons_zero, Option.some.injEq] at h
      subst h
      exact ⟨l, List.Perm.refl _, List.Perm.refl _⟩
    | succ i =>
      obtain ⟨rest, hl, hs⟩ := ih (by simpa using h)
      exact ⟨c :: rest, (hl.cons c).trans (List.Perm.swap _ _ _),
        (hs.cons c).trans (List.Perm.swap _ _ _)⟩

/-- Whether some element has a property, before and after one change. -/
theorem exists_mem_set_iff {p : α → Prop} (h : l[i]? = some a)
    (b : α) : ∃ others, ((∃ x ∈ l, p x) ↔ p a ∨ others) ∧
      ((∃ x ∈ l.set i b, p x) ↔ p b ∨ others) := by
  obtain ⟨rest, hbefore, hafter⟩ := perm_set h b
  refine ⟨∃ x ∈ rest, p x, ?_, ?_⟩
  · simp only [hbefore.mem_iff, List.mem_cons, exists_eq_or_imp]
  · simp only [hafter.mem_iff, List.mem_cons, exists_eq_or_imp]

end Bombay.Roster
