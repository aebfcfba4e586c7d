/-
# Sequences of identifiers that are never reused

A counter of `u64` identifiers that stops instead of wrapping around: `next` is
the identifier the next `issue` hands out, `none` once the width is exhausted.
`reserve` takes a batch, all of it or nothing.
-/

import Mathlib.Algebra.Ring.Nat
import Mathlib.Data.List.Basic

namespace Bombay

/-- A checked counter; `none` is exhaustion. -/
structure Sequence where
  next : Option ℕ
  deriving DecidableEq, Repr

namespace Sequence

/-- The identifier after `value`, if `u64` has one. -/
def successor (value : ℕ) : Option ℕ := if value + 1 < 2 ^ 64 then some (value + 1) else none

/-- Hand out the next identifier. -/
def issue (sequence : Sequence) : Option (ℕ × Sequence) :=
  match sequence.next with
  | none => none
  | some value => some (value, ⟨successor value⟩)

/-- Hand out `count` identifiers in order, or none of them. -/
def reserve (sequence : Sequence) : ℕ → Option (List ℕ × Sequence)
  | 0 => some ([], sequence)
  | count + 1 =>
    match sequence.issue with
    | none => none
    | some (value, rest) =>
      match rest.reserve count with
      | none => none
      | some (values, rest) => some (value :: values, rest)

/-- `value` was handed out, or will never be: it lies below everything to come. -/
def Past (sequence : Sequence) (value : ℕ) : Prop := ∀ next ∈ sequence.next, value < next

variable {sequence rest : Sequence} {value : ℕ} {values : List ℕ}

theorem issue_next (h : sequence.issue = some (value, rest)) : sequence.next = some value := by
  unfold issue at h
  split at h
  · simp at h
  · simp_all

/-- An issued identifier is past once it is issued. -/
theorem issue_past (h : sequence.issue = some (value, rest)) : rest.Past value := by
  intro next hnext
  unfold issue at h
  split at h
  · simp at h
  · simp only [Option.some.injEq, Prod.mk.injEq] at h
    obtain ⟨rfl, rfl⟩ := h
    simp only [successor, Option.mem_def, Option.ite_none_right_eq_some, Option.some.injEq]
      at hnext
    omega

/-- Issuing keeps what was past past. -/
theorem Past.issue {other : ℕ} (hpast : sequence.Past other)
    (h : sequence.issue = some (value, rest)) : rest.Past other := by
  intro next hnext
  have hlt := issue_past h next hnext
  have hother := hpast value (issue_next h)
  omega

/-- An issued identifier differs from every past one. -/
theorem Past.ne_issue {other : ℕ} (hpast : sequence.Past other)
    (h : sequence.issue = some (value, rest)) : other < value :=
  hpast value (issue_next h)

theorem reserve_length {count : ℕ}
    (h : sequence.reserve count = some (values, rest)) : values.length = count := by
  induction count generalizing sequence rest values with
  | zero =>
    simp only [reserve, Option.some.injEq, Prod.mk.injEq] at h
    rw [← h.1]
    rfl
  | succ count ih =>
    simp only [reserve] at h
    split at h
    · simp at h
    · split at h
      · simp at h
      · rename_i values' rest' heq
        simp only [Option.some.injEq, Prod.mk.injEq] at h
        rw [← h.1, List.length_cons, ih heq]

end Sequence

/-- Hand out `count` identifiers one by one: what was issued before exhaustion stays
issued. -/
def issueAll : ℕ → Sequence → Option (List ℕ) × Sequence
  | 0, creations => (some [], creations)
  | count + 1, creations =>
    match creations.issue with
    | none => (none, creations)
    | some (id, creations) =>
      match issueAll count creations with
      | (none, creations) => (none, creations)
      | (some ids, creations) => (some (id :: ids), creations)

theorem issueAll_length {count : ℕ} {creations rest : Sequence} {ids : List ℕ}
    (h : issueAll count creations = (some ids, rest)) : ids.length = count := by
  induction count generalizing creations rest ids with
  | zero =>
    simp only [issueAll, Prod.mk.injEq, Option.some.injEq] at h
    rw [← h.1]
    rfl
  | succ count ih =>
    simp only [issueAll] at h
    split at h
    · simp at h
    · split at h
      · simp at h
      · rename_i ids' rest' heq
        simp only [Prod.mk.injEq, Option.some.injEq] at h
        rw [← h.1, List.length_cons, ih heq]

end Bombay
