/-
# Tables of records

Records in the order in which their keys were added, no key twice.  That is a field, so a search finds
the only record of a key, and both operations update the map `find` at one key, and at no other
(`find_push`, `find_set`).
-/

import Mathlib.Data.List.Nodup

namespace Bombay

/-- Records with distinct keys. -/
structure Table {ρ κ : Type*} (key : ρ → κ) where
  records : List ρ
  distinct : (records.map key).Nodup

namespace Table

variable {ρ κ : Type*} {key : ρ → κ}

/-- The table without records. -/
def empty : Table key := ⟨[], List.nodup_nil⟩

variable [DecidableEq κ] {table : Table key} {record : ρ} {target : κ}

/-- The record of a key. -/
def find (table : Table key) (target : κ) : Option ρ :=
  table.records.find? fun record => key record = target

theorem key_of_find (h : table.find target = some record) : key record = target :=
  of_decide_eq_true (List.find?_some h :)

theorem find_eq_none : table.find target = none ↔ target ∉ table.records.map key := by
  rw [find, List.find?_eq_none, List.mem_map]
  simp only [decide_eq_true_eq, not_exists, not_and]

/-- A record of a new key, at the end. -/
def push (table : Table key) (record : ρ) : Table key :=
  if h : table.find (key record) = none then
    ⟨table.records ++ [record], by
      rw [List.map_append, List.nodup_append']
      exact ⟨table.distinct, List.nodup_singleton _,
        List.disjoint_singleton.mpr (find_eq_none.mp h)⟩⟩
  else table

/-- A record replaces one of its key. -/
theorem key_replaced (record old : ρ) :
    key (if key old = key record then record else old) = key old := by
  split
  · exact Eq.symm ‹_›
  · rfl

/-- A record instead of the one with its key. -/
def set (table : Table key) (record : ρ) : Table key :=
  ⟨table.records.map fun old => if key old = key record then record else old, by
    simpa only [List.map_map, Function.comp_def, key_replaced] using table.distinct⟩

theorem find_push (h : table.find (key record) = none) (target : κ) :
    (table.push record).find target =
      if key record = target then some record else table.find target := by
  rw [push, dif_pos h, find, List.find?_append, ← find]
  split
  · next heq =>
    obtain rfl := heq
    simp [h]
  · next hne => simp [hne]

theorem find_set (h : table.find (key record) ≠ none) (target : κ) :
    (table.set record).find target =
      if key record = target then some record else table.find target := by
  rw [set, find, List.find?_map]
  simp only [Function.comp_def, key_replaced]
  rw [← find]
  cases hfind : table.find target with
  | none =>
    have hother : key record ≠ target := by
      rintro rfl
      exact h hfind
    rw [if_neg hother, Option.map_none]
  | some old =>
    rw [Option.map_some, key_of_find hfind]
    by_cases heq : key record = target
    · rw [if_pos heq.symm, if_pos heq]
    · rw [if_neg (Ne.symm heq), if_neg heq]

end Table
end Bombay
