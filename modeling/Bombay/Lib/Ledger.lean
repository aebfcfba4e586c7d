/-
# Keeping account

A ledger of things that were taken in, each under a key of its own: everything taken
in is still held or was settled, and nothing is both.  The balance and the keys are
fields, so a ledger that lost or doubled something cannot be written down.
-/

import Mathlib.Data.List.Nodup

namespace Bombay

open scoped List

variable {α κ : Type*}

/-- What was taken in, what is held of it, and what was settled. -/
structure Ledger (key : α → κ) where
  issued : List α
  held : List α
  settled : List α
  balanced : issued.Perm (held ++ settled)
  unique : (issued.map key).Nodup

namespace Ledger

variable {key : α → κ}

/-- The ledger before anything was taken in. -/
def empty : Ledger key := ⟨[], [], [], .nil, .nil⟩

/-- **One posting**: some things are taken in, some are settled, and the rest is held. -/
def post (ledger : Ledger key) (added held resolved : List α)
    (hperm : (ledger.held ++ added).Perm (held ++ resolved))
    (hunique : ((ledger.issued ++ added).map key).Nodup) : Ledger key where
  issued := ledger.issued ++ added
  held := held
  settled := ledger.settled ++ resolved
  balanced := by
    calc ledger.issued ++ added
        ~ (ledger.held ++ ledger.settled) ++ added := ledger.balanced.append_right _
      _ ~ (ledger.held ++ added) ++ ledger.settled := by
        rw [List.append_assoc, List.append_assoc]
        exact List.perm_append_comm.append_left _
      _ ~ (held ++ resolved) ++ ledger.settled := hperm.append_right _
      _ ~ held ++ (ledger.settled ++ resolved) := by
        rw [List.append_assoc]
        exact List.perm_append_comm.append_left _
  unique := hunique

theorem held_nodup (ledger : Ledger key) : (ledger.held.map key).Nodup := by
  have hnodup := (ledger.balanced.map key).nodup_iff.mp ledger.unique
  rw [List.map_append] at hnodup
  exact (List.nodup_append.mp hnodup).1

theorem mem_issued_of_held {ledger : Ledger key} {a : α} (h : a ∈ ledger.held) :
    a ∈ ledger.issued :=
  ledger.balanced.mem_iff.mpr (List.mem_append_left _ h)

theorem mem_issued_of_settled {ledger : Ledger key} {a : α} (h : a ∈ ledger.settled) :
    a ∈ ledger.issued :=
  ledger.balanced.mem_iff.mpr (List.mem_append_right _ h)

/-- A key names one thing only. -/
theorem eq_of_key (ledger : Ledger key) {a b : α} (ha : a ∈ ledger.issued)
    (hb : b ∈ ledger.issued) (h : key a = key b) : a = b :=
  List.inj_on_of_nodup_map ledger.unique ha hb h

theorem countP_key_of_nodup [DecidableEq κ] {l : List α} (hnodup : (l.map key).Nodup) {a : α}
    (ha : a ∈ l) : l.countP (fun b => key b = key a) = 1 := by
  have hcount := List.count_eq_one_of_mem hnodup (List.mem_map_of_mem ha)
  rw [List.count, List.countP_map] at hcount
  rw [← hcount]
  exact List.countP_congr fun b _ => by simp

/-- **Whatever was taken in is in one place, once.** -/
theorem once [DecidableEq κ] (ledger : Ledger key) {a : α} (ha : a ∈ ledger.issued) :
    ledger.held.countP (fun b => key b = key a) + ledger.settled.countP (fun b => key b = key a)
      = 1 := by
  rw [← List.countP_append, ← ledger.balanced.countP_eq]
  exact countP_key_of_nodup ledger.unique ha

end Ledger
end Bombay
