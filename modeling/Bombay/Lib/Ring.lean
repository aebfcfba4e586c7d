/-
# Taking turns on a ring

Places are numbered around a ring, and a cursor says where the next search starts.
`FirstFrom` is one search: the first free place at or after the cursor.  `Turns` is a
sequence of them, each place taken once and the cursor left just past it.
-/

import Mathlib.Data.Nat.Init

namespace Bombay.Ring

/-- `position` is the first free place at or after `cursor`, going once around. -/
def FirstFrom (size : ℕ) (Free : ℕ → Prop) (cursor position : ℕ) : Prop :=
  ∃ offset < size, position = (cursor + offset) % size ∧ Free position ∧
    ∀ earlier < offset, ¬ Free ((cursor + earlier) % size)

theorem FirstFrom.congr {size cursor position : ℕ} {Free Free' : ℕ → Prop}
    (h : FirstFrom size Free cursor position) (hfree : ∀ i, Free i ↔ Free' i) :
    FirstFrom size Free' cursor position := by
  obtain ⟨offset, hoffset, hposition, htaken, hbefore⟩ := h
  refine ⟨offset, hoffset, hposition, (hfree _).mp htaken, fun earlier hearlier => ?_⟩
  exact fun hother => hbefore earlier hearlier ((hfree _).mpr hother)

/-- **Places taken in turn** out of those free at the start, with the cursor after the
last of them. -/
inductive Turns (size : ℕ) (Free : ℕ → Prop) (cursor : ℕ) : List ℕ → ℕ → Prop
  | start : Turns size Free cursor [] cursor
  | take {taken next position} (hturns : Turns size Free cursor taken next)
      (hfirst : FirstFrom size (fun i => Free i ∧ i ∉ taken) next position) :
      Turns size Free cursor (taken ++ [position]) (position + 1)

theorem Turns.cursor_of_nil {size cursor next : ℕ} {Free : ℕ → Prop}
    (h : Turns size Free cursor [] next) : next = cursor := by
  generalize hnil : ([] : List ℕ) = taken at h
  cases h with
  | start => rfl
  | take => simp at hnil

theorem Turns.congr {size cursor next : ℕ} {Free Free' : ℕ → Prop} {taken : List ℕ}
    (h : Turns size Free cursor taken next) (hfree : ∀ i, Free i ↔ Free' i) :
    Turns size Free' cursor taken next := by
  induction h with
  | start => exact .start
  | take hturns hfirst ih => exact .take ih (hfirst.congr fun i => by rw [hfree i])

end Bombay.Ring
