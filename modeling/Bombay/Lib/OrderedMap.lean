/-
# Finite maps in key order

A map kept as its entries in strictly increasing key order, the behaviour of a
`BTreeMap` seen from outside: `insert` replaces or places an entry, `erase` removes
one, `popFirst` removes the entry of the smallest key, and `mapAccum` works through
the values in key order.  The order is a field, so a map out of order cannot be
written down.
-/

import Mathlib.Data.List.Sort

namespace Bombay

/-- Entries in strictly increasing key order. -/
structure OrderedMap (K V : Type) [LinearOrder K] where
  entries : List (K × V)
  ordered : entries.Pairwise fun a b => a.1 < b.1

namespace OrderedMap

variable {K V : Type} [LinearOrder K]

/-- The map without entries. -/
def empty : OrderedMap K V := ⟨[], List.Pairwise.nil⟩

/-- The number of entries. -/
def length (map : OrderedMap K V) : ℕ := map.entries.length

/-- The values in key order. -/
def values (map : OrderedMap K V) : List V := map.entries.map (·.2)

/-- Place an entry in key order, replacing the entry of an equal key. -/
def place (key : K) (value : V) : List (K × V) → List (K × V)
  | [] => [(key, value)]
  | entry :: rest =>
    if key < entry.1 then (key, value) :: entry :: rest
    else if key = entry.1 then (key, value) :: rest
    else entry :: place key value rest

variable {key : K} {value : V} {entries : List (K × V)} {entry : K × V}
    {map rest : OrderedMap K V}

theorem mem_place
    (h : entry ∈ place key value entries) : entry = (key, value) ∨ entry ∈ entries := by
  induction entries with
  | nil => exact .inl (by simpa [place] using h)
  | cons head rest ih =>
    simp only [place] at h
    split at h
    · exact (List.mem_cons.mp h).imp_right id
    · split at h
      · exact (List.mem_cons.mp h).imp_right (List.mem_cons_of_mem _)
      · rcases List.mem_cons.mp h with rfl | h
        · exact .inr List.mem_cons_self
        · exact (ih h).imp_right (List.mem_cons_of_mem _)

theorem place_ordered (key : K) (value : V) (h : entries.Pairwise fun a b => a.1 < b.1) :
    (place key value entries).Pairwise fun a b => a.1 < b.1 := by
  induction entries with
  | nil => exact List.pairwise_singleton _ _
  | cons head rest ih =>
    obtain ⟨hhead, hrest⟩ := List.pairwise_cons.mp h
    simp only [place]
    split
    · rename_i hlt
      refine List.pairwise_cons.mpr ⟨fun b hb => ?_, h⟩
      rcases List.mem_cons.mp hb with rfl | hb
      · exact hlt
      · exact lt_trans hlt (hhead b hb)
    · split
      · rename_i heq
        exact List.pairwise_cons.mpr ⟨fun b hb => heq ▸ hhead b hb, hrest⟩
      · rename_i hge hne
        refine List.pairwise_cons.mpr ⟨fun b hb => ?_, ih hrest⟩
        rcases mem_place hb with rfl | hb
        · exact lt_of_le_of_ne (not_lt.mp hge) (Ne.symm hne)
        · exact hhead b hb

/-- Insert or replace one entry. -/
def insert (map : OrderedMap K V) (key : K) (value : V) : OrderedMap K V :=
  ⟨place key value map.entries, place_ordered key value map.ordered⟩

/-- The entry of the smallest key, and the map without it. -/
def popFirst (map : OrderedMap K V) : Option ((K × V) × OrderedMap K V) :=
  match map with
  | ⟨[], _⟩ => none
  | ⟨entry :: rest, ordered⟩ => some (entry, ⟨rest, (List.pairwise_cons.mp ordered).2⟩)

/-- **A fresh key is placed beside the entries that were there.** -/
theorem place_perm (hfresh : ∀ entry ∈ entries, entry.1 ≠ key) :
    (place key value entries).Perm ((key, value) :: entries) := by
  induction entries with
  | nil => exact List.Perm.refl _
  | cons head rest ih =>
    simp only [place]
    split
    · exact List.Perm.refl _
    · rw [if_neg fun h => hfresh head List.mem_cons_self h.symm]
      exact ((ih fun e he => hfresh e (List.mem_cons_of_mem _ he)).cons head).trans
        (List.Perm.swap _ _ _)

theorem insert_entries_perm (hfresh : ∀ entry ∈ map.entries, entry.1 ≠ key) :
    (map.insert key value).entries.Perm ((key, value) :: map.entries) :=
  place_perm hfresh

theorem values_insert_perm (hfresh : ∀ entry ∈ map.entries, entry.1 ≠ key) :
    (map.insert key value).values.Perm (value :: map.values) :=
  (insert_entries_perm hfresh).map Prod.snd

theorem length_insert_le (map : OrderedMap K V) (key : K) (value : V) :
    (map.insert key value).length ≤ map.length + 1 := by
  obtain ⟨entries, ordered⟩ := map
  show (place key value entries).length ≤ entries.length + 1
  clear ordered
  induction entries with
  | nil => exact le_rfl
  | cons head rest ih =>
    simp only [place]
    split
    · exact le_rfl
    · split
      · exact Nat.le_succ _
      · exact Nat.succ_le_succ ih

theorem popFirst_entries
    (h : map.popFirst = some (entry, rest)) : map.entries = entry :: rest.entries := by
  obtain ⟨entries, ordered⟩ := map
  cases entries with
  | nil => simp [popFirst] at h
  | cons head tail =>
    simp only [popFirst, Option.some.injEq, Prod.mk.injEq] at h
    obtain ⟨rfl, rfl⟩ := h
    rfl

theorem popFirst_values
    (h : map.popFirst = some (entry, rest)) : map.values = entry.2 :: rest.values := by
  rw [values, popFirst_entries h]
  rfl

theorem popFirst_eq_none (h : map.popFirst = none) :
    map.entries = [] := by
  obtain ⟨entries, ordered⟩ := map
  cases entries with
  | nil => rfl
  | cons head tail => simp [popFirst] at h

/-- **The first entry has the smallest key.** -/
theorem popFirst_lt
    (h : map.popFirst = some (entry, rest)) : ∀ other ∈ rest.entries, entry.1 < other.1 := by
  have hordered := map.ordered
  rw [popFirst_entries h] at hordered
  exact (List.pairwise_cons.mp hordered).1

/-! ### Lookup -/

/-- The value of a key. -/
def get? (map : OrderedMap K V) (key : K) : Option V :=
  (map.entries.find? fun entry => entry.1 = key).map (·.2)

/-- Remove the entry of a key. -/
def erase (map : OrderedMap K V) (key : K) : OrderedMap K V :=
  ⟨map.entries.filter fun entry => entry.1 ≠ key, map.ordered.filter _⟩

/-- **A key has one value.** -/
theorem mem_entries :
    (key, value) ∈ map.entries ↔ map.get? key = some value := by
  obtain ⟨entries, ordered⟩ := map
  simp only [get?, Option.map_eq_some_iff]
  constructor
  · intro hmem
    induction entries with
    | nil => cases hmem
    | cons head rest ih =>
      obtain ⟨hhead, hrest⟩ := List.pairwise_cons.mp ordered
      rcases List.mem_cons.mp hmem with rfl | hmem
      · exact ⟨(key, value), by simp, rfl⟩
      · have hne : head.1 ≠ key := ne_of_lt (hhead _ hmem)
        simpa [List.find?_cons, hne] using ih hrest hmem
  · rintro ⟨⟨other, found⟩, hfind, rfl⟩
    obtain rfl : other = key := by simpa using List.find?_some hfind
    exact List.mem_of_find?_eq_some hfind

theorem mem_place_iff (h : entries.Pairwise fun a b => a.1 < b.1) :
    entry ∈ place key value entries ↔ entry = (key, value) ∨ entry ∈ entries ∧ entry.1 ≠ key := by
  induction entries with
  | nil => simp [place]
  | cons head rest ih =>
    obtain ⟨hhead, hrest⟩ := List.pairwise_cons.mp h
    simp only [place]
    split
    · rename_i hlt
      have hne : ∀ other ∈ head :: rest, other.1 ≠ key := by
        intro other hother
        rcases List.mem_cons.mp hother with rfl | hother
        · exact ne_of_gt hlt
        · exact ne_of_gt (hlt.trans (hhead other hother))
      simp only [List.mem_cons]
      constructor
      · rintro (rfl | hmem)
        · exact .inl rfl
        · exact .inr ⟨hmem, hne entry (List.mem_cons.mpr hmem)⟩
      · rintro (rfl | hmem)
        · exact .inl rfl
        · exact .inr hmem.1
    · split
      · rename_i heq
        subst heq
        have hne : ∀ other ∈ rest, other.1 ≠ head.1 := fun other hother => ne_of_gt (hhead other hother)
        simp only [List.mem_cons]
        constructor
        · rintro (rfl | hmem)
          · exact .inl rfl
          · exact .inr ⟨.inr hmem, hne entry hmem⟩
        · rintro (rfl | ⟨rfl | hmem, hkey⟩)
          · exact .inl rfl
          · exact absurd rfl hkey
          · exact .inr hmem
      · rename_i hne
        simp only [List.mem_cons, ih hrest]
        constructor
        · rintro (rfl | rfl | hmem)
          · exact .inr ⟨.inl rfl, fun h => hne h.symm⟩
          · exact .inl rfl
          · exact .inr ⟨.inr hmem.1, hmem.2⟩
        · rintro (rfl | ⟨rfl | hmem, hkey⟩)
          · exact .inr (.inl rfl)
          · exact .inl rfl
          · exact .inr (.inr ⟨hmem, hkey⟩)

/-- **Insertion changes one key.** -/
theorem get?_insert (map : OrderedMap K V) (key other : K) (value : V) :
    (map.insert key value).get? other = if other = key then some value else map.get? other := by
  apply Option.ext
  intro found
  rw [← mem_entries, insert, mem_place_iff map.ordered]
  split
  · rename_i heq
    simp [heq, eq_comm]
  · rename_i hne
    simp [hne, mem_entries]

/-- **Removal changes one key.** -/
theorem get?_erase (map : OrderedMap K V) (key other : K) :
    (map.erase key).get? other = if other = key then none else map.get? other := by
  apply Option.ext
  intro found
  rw [← mem_entries, erase, List.mem_filter]
  split
  · rename_i heq
    simp [heq]
  · rename_i hne
    simp [hne, mem_entries]

/-- Inserting the value that a key has changes nothing. -/
theorem insert_get? (h : map.get? key = some value) : map.insert key value = map := by
  have hmem := mem_entries.mpr h
  obtain ⟨entries, ordered⟩ := map
  simp only [insert, mk.injEq]
  clear h
  induction entries with
  | nil => cases hmem
  | cons head rest ih =>
    obtain ⟨hhead, hrest⟩ := List.pairwise_cons.mp ordered
    rcases List.mem_cons.mp hmem with rfl | hmem
    · simp [place]
    · have hlt : head.1 < key := hhead _ hmem
      rw [place, if_neg (not_lt_of_gt hlt), if_neg (ne_of_gt hlt), ih hrest hmem]

theorem entries_nodup (map : OrderedMap K V) : map.entries.Nodup := by
  refine map.ordered.imp ?_
  rintro entry other hlt rfl
  exact lt_irrefl _ hlt

/-- **Maps with the same values are the same.** -/
theorem ext_get? {map' : OrderedMap K V} (h : ∀ key, map.get? key = map'.get? key) :
    map = map' := by
  have hperm : map.entries.Perm map'.entries := by
    refine (List.perm_ext_iff_of_nodup map.entries_nodup map'.entries_nodup).mpr ?_
    rintro ⟨key, value⟩
    rw [mem_entries, mem_entries, h]
  have hentries : map.entries = map'.entries :=
    hperm.eq_of_pairwise (fun _ _ _ _ hlt hgt => absurd hlt (lt_asymm hgt)) map.ordered map'.ordered
  cases map
  cases map'
  congr

/-- **Removal takes the value of one key.** -/
theorem values_erase_perm (map : OrderedMap K V) (key : K) :
    ((map.get? key).toList ++ (map.erase key).values).Perm map.values := by
  have hentries : ((map.get? key).toList.map (key, ·) ++ (map.erase key).entries).Perm
      map.entries := by
    have hnot : ∀ entry ∈ (map.get? key).toList.map (key, ·), entry ∉ (map.erase key).entries := by
      rintro ⟨other, value⟩ hmem herased
      obtain ⟨_, _, hsame⟩ := List.mem_map.mp hmem
      obtain rfl : key = other := congrArg Prod.fst hsame
      rw [mem_entries, get?_erase, if_pos rfl] at herased
      cases herased
    refine (List.perm_ext_iff_of_nodup (List.Nodup.append ?_ (entries_nodup _) hnot)
      map.entries_nodup).mpr fun entry => ?_
    · cases map.get? key with
      | none => exact List.nodup_nil
      | some value => exact List.nodup_singleton _
    · obtain ⟨other, value⟩ := entry
      rw [List.mem_append, mem_entries, mem_entries, get?_erase]
      by_cases hkey : other = key
      · subst hkey
        simp
      · simp [hkey, Ne.symm hkey]
  have hvalues := hentries.map Prod.snd
  rw [List.map_append, List.map_map] at hvalues
  simpa [values, Function.comp_def] using hvalues

/-- **Insertion replaces the value of one key.** -/
theorem values_put_perm (map : OrderedMap K V) (key : K) (value : V) :
    ((map.get? key).toList ++ (map.insert key value).values).Perm (value :: map.values) := by
  have herase : (map.insert key value).erase key = map.erase key := by
    obtain ⟨entries, ordered⟩ := map
    simp only [erase, insert, mk.injEq]
    clear ordered
    induction entries with
    | nil => simp [place]
    | cons head rest ih =>
      simp only [place]
      split
      · simp
      · split
        · rename_i heq
          simp [heq]
        · rw [List.filter_cons, List.filter_cons, ih]
  have hinsert := values_erase_perm (map.insert key value) key
  rw [get?_insert, if_pos rfl, herase] at hinsert
  have hmiddle : ((map.get? key).toList ++ (value :: (map.erase key).values)).Perm
      (value :: map.values) :=
    List.perm_middle.trans ((values_erase_perm map key).cons value)
  exact (hinsert.symm.append_left _).trans hmiddle

/-! ### Working through the values -/

section Accumulate

omit [LinearOrder K]

variable {A : Type} {f : K → V → A → V × A}

/-- Work through the values in order, with an accumulator. -/
def accumulate (f : K → V → A → V × A) : List (K × V) → A → List (K × V) × A
  | [], acc => ([], acc)
  | (key, value) :: rest, acc =>
    let (value, acc) := f key value acc
    let (rest, acc) := accumulate f rest acc
    ((key, value) :: rest, acc)

theorem accumulate_keys (f : K → V → A → V × A) (entries : List (K × V)) (acc : A) :
    (accumulate f entries acc).1.map (·.1) = entries.map (·.1) := by
  induction entries generalizing acc with
  | nil => rfl
  | cons head rest ih => simp [accumulate, ih]

/-- What no step changes about a value is the same afterwards. -/
theorem accumulate_map {B : Type} {g : V → B} (entries : List (K × V)) (acc : A)
    (hkeeps : ∀ key value acc, g (f key value acc).1 = g value) :
    (accumulate f entries acc).1.map (fun entry => g entry.2)
      = entries.map fun entry => g entry.2 := by
  induction entries generalizing acc with
  | nil => rfl
  | cons head rest ih => simp [accumulate, ih, hkeeps]

/-- **What every step keeps holds throughout**: each new value comes from the old one of its key
in a state of the accumulator where it holds. -/
theorem accumulate_invariant {P : A → Prop} (entries : List (K × V)) (acc : A) (hacc : P acc)
    (hstep : ∀ key value acc, (key, value) ∈ entries → P acc → P (f key value acc).2) :
    P (accumulate f entries acc).2 ∧
      (∀ key value, (key, value) ∈ entries →
        ∃ now, P now ∧ (key, (f key value now).1) ∈ (accumulate f entries acc).1) ∧
      ∀ key value, (key, value) ∈ (accumulate f entries acc).1 →
        ∃ old now, (key, old) ∈ entries ∧ P now ∧ value = (f key old now).1 := by
  induction entries generalizing acc with
  | nil => exact ⟨hacc, by simp, by simp [accumulate]⟩
  | cons head rest ih =>
    obtain ⟨first, value⟩ := head
    have hhead : P (f first value acc).2 := hstep first value acc List.mem_cons_self hacc
    obtain ⟨hlast, hold, hnew⟩ := ih _ hhead fun key value acc hmem =>
      hstep key value acc (List.mem_cons_of_mem _ hmem)
    refine ⟨hlast, fun key old hmem => ?_, fun key new hmem => ?_⟩
    · rcases List.mem_cons.mp hmem with heq | hmem
      · cases heq
        exact ⟨acc, hacc, List.mem_cons_self⟩
      · obtain ⟨now, hnow, hmem⟩ := hold key old hmem
        exact ⟨now, hnow, List.mem_cons_of_mem _ hmem⟩
    · rcases List.mem_cons.mp hmem with heq | hmem
      · cases heq
        exact ⟨value, acc, List.mem_cons_self, hacc, rfl⟩
      · obtain ⟨old, now, hthere, hnow, rfl⟩ := hnew key new hmem
        exact ⟨old, now, List.mem_cons_of_mem _ hthere, hnow, rfl⟩

end Accumulate

/-- Work through the values of a map in key order; the keys stay. -/
def mapAccum {A : Type} (map : OrderedMap K V) (f : K → V → A → V × A) (acc : A) :
    OrderedMap K V × A :=
  (⟨(accumulate f map.entries acc).1, by
      have h := List.pairwise_map.mpr map.ordered
      rw [← accumulate_keys f map.entries acc] at h
      exact List.pairwise_map.mp h⟩,
    (accumulate f map.entries acc).2)

end OrderedMap
end Bombay
