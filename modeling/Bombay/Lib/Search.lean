/-
# The first element that accepts

Code that owns its elements offers a value to each of them in turn; the first one
that takes it is replaced by what it becomes, and the elements around it stay where
they are.  `first` is that search: it answers with the successor and with the two
parts of the list around it, so that a caller can put the successor back, move it to
the end, or leave it out.  `sortBy` is the stable sort by an optional key, absent keys
first.
-/

import Mathlib.Data.List.Sort

namespace Bombay.Search

variable {α β : Type*}

/-- What the first element `f` accepts becomes, between what is before it and after it. -/
def first (f : α → Option β) : List α → Option (List α × β × List α)
  | [] => none
  | a :: rest =>
    match f a with
    | some b => some ([], b, rest)
    | none =>
      match first f rest with
      | some (before, b, after) => some (a :: before, b, after)
      | none => none

/-- The first hit of a list with one more element. -/
theorem findSome?_snoc (f : α → Option β) (l : List α) (a : α) :
    (l ++ [a]).findSome? f = (l.findSome? f).or (f a) := by
  rw [List.findSome?_append, List.findSome?_cons]
  cases f a <;> rfl

variable {f : α → Option β} {l : List α}

/-- **What a search finds**: an accepting element with none before it. -/
theorem first_some {before after : List α} {b : β} (h : first f l = some (before, b, after)) :
    ∃ a, l = before ++ a :: after ∧ f a = some b ∧ ∀ x ∈ before, f x = none := by
  induction l generalizing before with
  | nil => simp [first] at h
  | cons a rest ih =>
    simp only [first] at h
    split at h
    · rename_i b' hb
      simp only [Option.some.injEq, Prod.mk.injEq] at h
      obtain ⟨rfl, rfl, rfl⟩ := h
      exact ⟨a, rfl, hb, by simp⟩
    · rename_i hnone
      split at h
      · rename_i before' b' after' heq
        simp only [Option.some.injEq, Prod.mk.injEq] at h
        obtain ⟨rfl, rfl, rfl⟩ := h
        obtain ⟨x, rfl, hx, hbefore⟩ := ih heq
        refine ⟨x, rfl, hx, fun y hy => ?_⟩
        rcases List.mem_cons.mp hy with rfl | hy
        · exact hnone
        · exact hbefore y hy
      · simp at h

/-- **A search that finds nothing** has offered the value to every element. -/
theorem first_none :
    first f l = none ↔ ∀ a ∈ l, f a = none := by
  induction l with
  | nil => simp [first]
  | cons a rest ih =>
    simp only [first, List.mem_cons, forall_eq_or_imp]
    cases hf : f a with
    | some b => simp
    | none =>
      cases hrest : first f rest with
      | some found | none => simpa [hrest] using ih

/-! ### All elements -/

/-- Where every element accepts, what each becomes. -/
theorem forall₂_of_mapM {l' : List β} (h : l.mapM f = some l') :
    List.Forall₂ (fun a b => f a = some b) l l' := by
  induction l generalizing l' with
  | nil =>
    rw [List.mapM_nil] at h
    obtain rfl := Option.some.inj h
    exact .nil
  | cons a rest ih =>
    rw [List.mapM_cons] at h
    obtain ⟨b, hb, h⟩ := Option.bind_eq_some_iff.mp h
    obtain ⟨bs, hbs, h⟩ := Option.bind_eq_some_iff.mp h
    obtain rfl := Option.some.inj h
    exact .cons hb (ih hbs)

/-! ### Sorting by an optional key -/

/-- `Option::cmp`: an absent key comes first. -/
def keyLe : Option ℕ → Option ℕ → Prop
  | none, _ => True
  | some _, none => False
  | some a, some b => a ≤ b

instance : DecidableRel keyLe := fun a b =>
  match a, b with
  | none, _ => isTrue trivial
  | some _, none => isFalse id
  | some a, some b => inferInstanceAs (Decidable (a ≤ b))

/-- `slice::sort_by_key`. -/
def sortBy (key : α → Option ℕ) (l : List α) : List α :=
  l.insertionSort fun a b => keyLe (key a) (key b)

theorem sortBy_perm (key : α → Option ℕ) (l : List α) : (sortBy key l).Perm l :=
  List.perm_insertionSort _ l

/-- **What is sorted is in order.** -/
theorem sortBy_pairwise (key : α → Option ℕ) (l : List α) :
    (sortBy key l).Pairwise fun a b => keyLe (key a) (key b) := by
  have htotal : ∀ a b : Option ℕ, keyLe a b ∨ keyLe b a := by
    rintro (_ | a) (_ | b)
    · exact .inl trivial
    · exact .inl trivial
    · exact .inr trivial
    · exact Nat.le_total a b
  have htrans : ∀ a b c : Option ℕ, keyLe a b → keyLe b c → keyLe a c := by
    rintro (_ | a) (_ | b) (_ | c) hab hbc
    all_goals first
      | trivial
      | exact hab.elim
      | exact hbc.elim
      | exact Nat.le_trans hab hbc
  have : Std.Total fun a b => keyLe (key a) (key b) := ⟨fun a b => htotal (key a) (key b)⟩
  have : IsTrans α fun a b => keyLe (key a) (key b) :=
    ⟨fun a b c => htrans (key a) (key b) (key c)⟩
  exact List.pairwise_insertionSort _ l

/-- **Elements that stand for the positions of a range** are sorted into it. -/
theorem sortBy_range {position : α → ℕ} {n : ℕ} (h : (l.map position).Perm (List.range n)) :
    (sortBy (fun a => some (position a)) l).map position = List.range n := by
  have hsorted := sortBy_pairwise (fun a => some (position a)) l
  refine List.Perm.eq_of_pairwise (fun _ _ _ _ hab hba => Nat.le_antisymm hab hba)
    (List.pairwise_map.mpr hsorted) ?_ (((sortBy_perm _ l).map position).trans h)
  exact List.pairwise_lt_range.imp Nat.le_of_lt

end Bombay.Search
