/-
# The cache

`crates/actors/src/persistence/cache.rs`: a bounded list of entries, the least recently used first.
A put and a successful get take the entry out and append it; a put at capacity evicts the first.

What a key holds and how long ago it was used are read off the history alone (`held`, `age`);
`transition_recalls` shows that every turn keeps the list in step with them, and `cache_law` says
what a run answers.
-/

import Bombay.Lib.Machine

namespace Bombay.Persistence

variable {K V Route : Type}

/-- `CacheEntry`. -/
@[ext]
structure CacheEntry (K V : Type) where
  key : K
  value : V
  deriving DecidableEq

/-- `CacheState`: least- to most-recently used. -/
structure CacheState (K V : Type) where
  capacity : ℕ
  entries : List (CacheEntry K V)

/-- `CacheResult`. -/
inductive CacheResult (K V : Type) where
  | stored (key : K) (replaced : Option V) (evicted : Option (CacheEntry K V))
  | hit (key : K) (value : V)
  | miss (key : K)
  | removed (key : K) (value : V)
  | absent (key : K)
  deriving DecidableEq

/-- `CacheMessage`. -/
inductive CacheMessage (K V Route : Type) where
  | put (key : K) (value : V) (replyTo : Route)
  | get (key : K) (replyTo : Route)
  | remove (key : K) (replyTo : Route)

/-- `CacheConfigError`. -/
inductive CacheConfigError where
  | zeroCapacity
  deriving DecidableEq

/-- `CacheConfiguration`: a validated capacity. -/
structure CacheConfiguration where
  capacity : ℕ
  pos : 0 < capacity

/-- `CacheConfiguration::new`. -/
def CacheConfiguration.new (capacity : ℕ) : Except CacheConfigError CacheConfiguration :=
  if h : capacity = 0 then .error .zeroCapacity else .ok ⟨capacity, Nat.pos_of_ne_zero h⟩

namespace CacheState

/-- `Cache::new`. -/
def new (configuration : CacheConfiguration) : CacheState K V := ⟨configuration.capacity, []⟩

variable [DecidableEq K]

/-- The entry at `entries.iter().position(|entry| entry.key == key)`. -/
def find (self : CacheState K V) (key : K) : Option (CacheEntry K V) :=
  self.entries.find? fun entry => entry.key = key

/-- The entries that are left when that entry is removed. -/
def rest (self : CacheState K V) (key : K) : List (CacheEntry K V) :=
  self.entries.eraseP fun entry => entry.key = key

/-- `Cache::transition`; every command is answered with one result. -/
def transition (self : CacheState K V) :
    CacheMessage K V Route → CacheState K V × (Route × CacheResult K V)
  | .put key value replyTo =>
    let replaced := (self.find key).map (·.value)
    let entries := self.rest key
    let (evicted, entries) :=
      if replaced.isNone ∧ entries.length = self.capacity then (entries.head?, entries.tail)
      else (none, entries)
    ({ self with entries := entries ++ [⟨key, value⟩] }, replyTo, .stored key replaced evicted)
  | .get key replyTo =>
    match self.find key with
    | none => (self, replyTo, .miss key)
    | some entry =>
      ({ self with entries := self.rest key ++ [entry] }, replyTo, .hit key entry.value)
  | .remove key replyTo =>
    match self.find key with
    | none => (self, replyTo, .absent key)
    | some entry => ({ self with entries := self.rest key }, replyTo, .removed key entry.value)

end CacheState

/-- A turn of a cache. -/
abbrev CacheTurn (K V Route : Type) :=
  Turn (CacheState K V) (CacheMessage K V Route) (Route × CacheResult K V)

namespace CacheTurn

/-- The entry that is put. -/
def put (now : CacheTurn K V Route) : List (CacheEntry K V) :=
  match now.event with
  | .put key value _ => [⟨key, value⟩]
  | _ => []

/-- The entries that leave the cache: replaced, evicted or removed. -/
def leaving (now : CacheTurn K V Route) : List (CacheEntry K V) :=
  match now.emitted.2 with
  | .stored key replaced evicted => (replaced.map (CacheEntry.mk key)).toList ++ evicted.toList
  | .removed key value => [⟨key, value⟩]
  | _ => []

/-- The key that is put, or got with success. -/
def used (now : CacheTurn K V Route) : Option K :=
  match now.emitted.2 with
  | .stored key _ _ => some key
  | .hit key _ => some key
  | _ => none

variable [DecidableEq K]

/-- What a turn says that a key holds from now on: the value that is put, or nothing when the key is
removed or evicted. -/
def told (now : CacheTurn K V Route) (key : K) : Option (Option V) :=
  match now.put.find? fun entry => entry.key = key with
  | some entry => some (some entry.value)
  | none => if now.leaving.any fun entry => entry.key = key then some none else none

end CacheTurn

section History

variable [DecidableEq K] (history : List (CacheTurn K V Route))

/-- **What a key holds**: the value of its last put, unless it was removed or evicted since. -/
def held (key : K) : Option V := (history.filterMap fun now => now.told key).getLast?.join

/-- How many uses of other keys there were since the last use of a key. -/
def age (key : K) : ℕ := (history.filterMap CacheTurn.used).reverse.idxOf key

/-- **The least recently used entry**: held, and used before every other key that holds a value. -/
def Oldest (entry : CacheEntry K V) : Prop :=
  held history entry.key = some entry.value ∧
    ∀ key value, held history key = some value → key ≠ entry.key →
      age history key < age history entry.key

/-- **The answer of a least-recently-used cache**, from the history before it. -/
def Answers (now : CacheTurn K V Route) : Prop :=
  match now.event with
  | .put key _ replyTo => ∃ evicted,
      now.emitted = (replyTo, .stored key (held history key) evicted) ∧
      (evicted.isSome ↔
        held history key = none ∧ now.before.entries.length = now.before.capacity) ∧
      ∀ entry, evicted = some entry → Oldest history entry
  | .get key replyTo => now.emitted = (replyTo, (held history key).elim (.miss key) (.hit key))
  | .remove key replyTo =>
      now.emitted = (replyTo, (held history key).elim (.absent key) (.removed key))

/-- **The list is in step with the history.** -/
structure Recalls (cache : CacheState K V) : Prop where
  bounded : cache.entries.length ≤ cache.capacity
  recency : cache.entries.Pairwise fun a b => age history b.key < age history a.key
  holds : ∀ entry, entry ∈ cache.entries ↔ held history entry.key = some entry.value

/-- **What a turn does**: it keeps the list in step, answers from the history, and conserves the
entries. -/
structure Steps (history : List (CacheTurn K V Route)) (now : CacheTurn K V Route) : Prop where
  recalls : Recalls (history ++ [now]) now.after
  answers : Answers history now
  conserves : (now.leaving ++ now.after.entries).Perm (now.put ++ now.before.entries)

variable {history} {self : CacheState K V} {now : CacheTurn K V Route}

theorem held_snoc (key : K) :
    held (history ++ [now]) key = (now.told key).getD (held history key) := by
  rw [held, List.filterMap_append, List.getLast?_append]
  cases h : now.told key <;> simp [List.filterMap, h, held]

/-- What a put says of a key. -/
theorem told_put {entry} (hput : now.put = [entry]) (key : K) :
    now.told key = if entry.key = key then some (some entry.value)
      else if now.leaving.any fun other => other.key = key then some none else none := by
  rw [CacheTurn.told, hput]
  by_cases h : entry.key = key <;> simp [h]

theorem age_snoc (key : K) :
    age (history ++ [now]) key =
      now.used.elim (age history key) fun used => if used = key then 0 else age history key + 1 := by
  rw [age, List.filterMap_append, List.reverse_append]
  cases h : now.used with
  | none => simp [List.filterMap, h, age]
  | some used =>
    by_cases hkey : used = key
    · simp [List.filterMap, h, hkey]
    · simp [List.filterMap, h, hkey, age, List.idxOf_cons_ne]

namespace Recalls

theorem distinct (h : Recalls history self) : (self.entries.map (·.key)).Nodup :=
  List.pairwise_map.mpr (h.recency.imp fun hlt hkey => by rw [hkey] at hlt; exact lt_irrefl _ hlt)

theorem find_key {key entry} (h : self.find key = some entry) :
    entry.key = key := by
  simpa using List.find?_some h

/-- What is found is what the key holds. -/
theorem find_held (h : Recalls history self) (key : K) :
    (self.find key).map (·.value) = held history key := by
  cases hfind : self.find key with
  | none =>
    cases hheld : held history key with
    | none => rfl
    | some value =>
      have hmem := (h.holds ⟨key, value⟩).mpr hheld
      exact absurd (decide_eq_true rfl) (List.find?_eq_none.mp hfind _ hmem)
  | some entry =>
    have hkey := find_key hfind
    rw [← hkey]
    exact ((h.holds entry).mp (List.mem_of_find?_eq_some hfind)).symm

/-- Taking an entry out leaves the others. -/
theorem rest_perm (self : CacheState K V) (key : K) :
    ((self.find key).toList ++ self.rest key).Perm self.entries := by
  cases hfind : self.find key with
  | none =>
    have hnone := List.find?_eq_none.mp hfind
    rw [CacheState.rest, List.eraseP_of_forall_not hnone]
    exact .refl _
  | some entry =>
    obtain ⟨hkey, before, after, hsplit, hbefore⟩ := List.find?_eq_some_iff_append.mp hfind
    have hrest : self.rest key = before ++ after := by
      rw [CacheState.rest, hsplit,
        List.eraseP_append_right _ fun other hother => by simpa using hbefore other hother]
      exact congrArg (before ++ ·) (List.eraseP_cons_of_pos hkey)
    rw [hrest, hsplit]
    show (entry :: (before ++ after)).Perm _
    exact List.perm_middle.symm

theorem mem_rest (h : Recalls history self) {key entry} :
    entry ∈ self.rest key ↔ entry ∈ self.entries ∧ entry.key ≠ key := by
  have hperm := rest_perm self key
  have hnodup := (hperm.map (·.key)).nodup_iff.mpr h.distinct
  have hmem := hperm.mem_iff (a := entry)
  cases hfind : self.find key with
  | none =>
    rw [hfind] at hmem
    have hne : entry ∈ self.entries → entry.key ≠ key := fun hentry hkey =>
      List.find?_eq_none.mp hfind entry hentry (decide_eq_true hkey)
    exact ⟨fun hentry => ⟨hmem.mp hentry, hne (hmem.mp hentry)⟩, fun hentry => hmem.mpr hentry.1⟩
  | some found =>
    obtain rfl := find_key hfind
    rw [hfind] at hmem hnodup
    rw [← hmem]
    simp only [Option.toList, List.singleton_append, List.map_cons, List.nodup_cons,
      List.mem_cons] at hnodup ⊢
    constructor
    · intro hentry
      exact ⟨.inr hentry, fun heq => hnodup.1 (List.mem_map.mpr ⟨entry, hentry, heq⟩)⟩
    · rintro ⟨rfl | hentry, hne⟩
      · exact absurd rfl hne
      · exact hentry

/-- **A turn keeps the list in step** when it keeps some entries in their order, appends the one that
is used, and says of every key what it then holds. -/
theorem snoc (h : Recalls history self) (kept : List (CacheEntry K V))
    (touched : Option (CacheEntry K V)) (hkept : kept.Sublist self.entries)
    (hused : now.used = touched.map (·.key))
    (hfresh : ∀ entry, touched = some entry → ∀ other ∈ kept, other.key ≠ entry.key)
    (hbounded : (kept ++ touched.toList).length ≤ self.capacity)
    (hholds : ∀ entry, entry ∈ kept ++ touched.toList ↔
      (now.told entry.key).getD (held history entry.key) = some entry.value) :
    Recalls (history ++ [now]) { self with entries := kept ++ touched.toList } where
  bounded := hbounded
  holds entry := by
    rw [held_snoc]
    exact hholds entry
  recency := by
    have hrecency := h.recency.sublist hkept
    cases touched with
    | none =>
      have hage : ∀ key, age (history ++ [now]) key = age history key := fun key => by
        rw [age_snoc, hused]
        rfl
      simpa [hage] using hrecency
    | some entry =>
      -- The used key is the youngest, and the others grow older together.
      have hage : ∀ other ∈ kept, age (history ++ [now]) other.key = age history other.key + 1 := by
        intro other hother
        rw [age_snoc, hused]
        exact if_neg (hfresh entry rfl other hother).symm
      have hzero : age (history ++ [now]) entry.key = 0 := by
        rw [age_snoc, hused]
        exact if_pos rfl
      refine List.pairwise_append.mpr ⟨?_, List.pairwise_singleton _ _, ?_⟩
      · refine hrecency.imp_of_mem fun ha hb hlt => ?_
        rw [hage _ ha, hage _ hb]
        omega
      · intro other hother last hlast
        rw [List.mem_singleton.mp hlast, hzero, hage _ hother]
        omega

/-- What is held after a put, when the entries that are kept are those of other keys that do not
leave. -/
theorem holds_put (h : Recalls history self) {entry} (hput : now.put = [entry]) {kept}
    (hkept : ∀ other, other ∈ kept ↔ other ∈ self.entries ∧ other.key ≠ entry.key ∧
      ∀ gone ∈ now.leaving, gone.key ≠ other.key) (other : CacheEntry K V) :
    other ∈ kept ++ (some entry).toList ↔
      (now.told other.key).getD (held history other.key) = some other.value := by
  rw [told_put hput, List.mem_append, Option.toList_some, List.mem_singleton, hkept]
  by_cases hkey : entry.key = other.key
  · obtain ⟨key, value⟩ := other
    obtain rfl : entry.key = key := hkey
    simp [CacheEntry.ext_iff, eq_comm]
  · rw [if_neg hkey]
    have hne : other ≠ entry := fun heq => hkey (heq ▸ rfl)
    split_ifs with hgone
    · obtain ⟨gone, hmem, hgone⟩ := List.any_eq_true.mp hgone
      have hnot : ¬ ∀ gone ∈ now.leaving, gone.key ≠ other.key := fun hall =>
        hall gone hmem (of_decide_eq_true hgone)
      simp [hne, hnot]
    · have hall : ∀ gone ∈ now.leaving, gone.key ≠ other.key := fun gone hmem heq =>
        hgone (List.any_eq_true.mpr ⟨gone, hmem, decide_eq_true heq⟩)
      rw [Option.getD_none, ← h.holds]
      exact ⟨fun hmem => hmem.elim And.left fun heq => absurd heq hne,
        fun hmem => .inl ⟨hmem, Ne.symm hkey, hall⟩⟩

/-- **Every put keeps the list in step**, and evicts the least recently used entry at capacity. -/
theorem put (h : Recalls history self) (hpos : 0 < self.capacity) (key : K) (value : V)
    (replyTo : Route) :
    Steps history (Machine.turn CacheState.transition self (.put key value replyTo)) := by
  have hperm := rest_perm self key
  have hheld := h.find_held key
  simp only [Machine.turn, CacheState.transition]
  split_ifs with hfull
  · obtain ⟨hnone, hlength⟩ := hfull
    rw [Option.isNone_iff_eq_none, Option.map_eq_none_iff] at hnone
    have hrest : self.rest key = self.entries :=
      List.eraseP_of_forall_not (List.find?_eq_none.mp hnone)
    rw [hrest] at hlength
    rw [hnone] at hheld
    obtain ⟨first, tail, hentries⟩ := List.exists_cons_of_length_pos (hlength ▸ hpos)
    have hmem : ∀ entry, entry ∈ self.entries ↔ entry = first ∨ entry ∈ tail := fun entry => by
      rw [hentries, List.mem_cons]
    have htail : ∀ other ∈ tail, other.key ≠ first.key := by
      have hdistinct := h.distinct
      rw [hentries, List.map_cons, List.nodup_cons] at hdistinct
      exact fun other hother heq => hdistinct.1 (List.mem_map.mpr ⟨other, hother, heq⟩)
    have hfresh : ∀ other ∈ self.entries, other.key ≠ key := fun other hother heq =>
      List.find?_eq_none.mp hnone other hother (decide_eq_true heq)
    simp only [hnone, hrest, hentries, List.head?_cons, List.tail_cons, Option.map_none]
    refine ⟨h.snoc tail (some ⟨key, value⟩) (hentries ▸ List.sublist_cons_self _ _) rfl ?_ ?_
      (h.holds_put rfl fun other => ?_), ⟨some first, ?_, ?_, ?_⟩, ?_⟩
    · rintro entry ⟨rfl⟩ other hother
      exact hfresh other ((hmem other).mpr (.inr hother))
    · rw [← hlength, hentries]
      simp
    · show other ∈ tail ↔
        other ∈ self.entries ∧ other.key ≠ key ∧ ∀ gone ∈ [first], gone.key ≠ other.key
      rw [hmem]
      constructor
      · exact fun hother => ⟨.inr hother, hfresh other ((hmem other).mpr (.inr hother)),
          fun gone hgone => List.mem_singleton.mp hgone ▸ (htail other hother).symm⟩
      · rintro ⟨rfl | hother, -, hgone⟩
        · exact absurd rfl (hgone other (.head _))
        · exact hother
    · rw [← hheld]
      rfl
    · simp [← hheld, hlength]
    · rintro entry ⟨rfl⟩
      -- The entries are in the order of their uses, so the first is the oldest.
      refine ⟨(h.holds first).mp ((hmem first).mpr (.inl rfl)), fun other value hother hne => ?_⟩
      have hrecency := h.recency
      rw [hentries] at hrecency
      rcases (hmem ⟨other, value⟩).mp ((h.holds ⟨other, value⟩).mpr hother) with heq | hmem
      · exact absurd (congrArg CacheEntry.key heq) hne
      · exact (List.pairwise_cons.mp hrecency).1 _ hmem
    · show (first :: (tail ++ [⟨key, value⟩])).Perm (⟨key, value⟩ :: self.entries)
      rw [hentries]
      exact List.perm_append_singleton _ (first :: tail)
  · have hleaving : CacheTurn.leaving (⟨self, .put key value replyTo,
        ⟨self.capacity, self.rest key ++ [⟨key, value⟩]⟩,
        replyTo, .stored key ((self.find key).map (·.value)) none⟩ : CacheTurn K V Route) =
        (self.find key).toList := by
      rw [CacheTurn.leaving]
      cases hfind : self.find key with
      | none => rfl
      | some entry => rw [← find_key hfind]; rfl
    have hrest : ∀ other ∈ self.rest key, other.key ≠ key := fun other hother =>
      (h.mem_rest.mp hother).2
    dsimp only
    refine ⟨h.snoc (self.rest key) (some ⟨key, value⟩) List.eraseP_sublist rfl ?_ ?_
      (h.holds_put rfl fun other => ?_), ⟨none, ?_, ?_, fun _ hnone => by cases hnone⟩, ?_⟩
    · rintro entry ⟨rfl⟩ other hother
      exact hrest other hother
    · have hlength := hperm.length_eq
      have hbounded := h.bounded
      rw [List.length_append] at hlength ⊢
      cases hfind : self.find key with
      | none =>
        rw [hfind] at hlength hfull
        have hne : (self.rest key).length ≠ self.capacity := fun heq => hfull ⟨rfl, heq⟩
        simp only [Option.toList_none, Option.toList_some, List.length_nil, List.length_singleton]
          at hlength ⊢
        omega
      | some entry =>
        rw [hfind] at hlength
        simp only [Option.toList_some, List.length_singleton] at hlength ⊢
        omega
    · rw [h.mem_rest, hleaving]
      refine and_congr_right fun _ => (and_iff_left_of_imp fun hne gone hgone heq => ?_).symm
      rw [Option.mem_toList] at hgone
      exact hne (heq ▸ find_key hgone)
    · rw [← hheld]
    · rw [← hheld]
      refine iff_of_false Bool.false_ne_true fun hboth => ?_
      obtain ⟨hnone, hlength⟩ := hboth
      refine hfull ⟨by rw [hnone]; rfl, ?_⟩
      rw [Option.map_eq_none_iff] at hnone
      rw [CacheState.rest, List.eraseP_of_forall_not (List.find?_eq_none.mp hnone)]
      exact hlength
    · rw [hleaving, ← List.append_assoc]
      exact (List.perm_append_singleton _ _).trans (hperm.cons _)

/-- A turn that uses nothing and says nothing keeps the list in step. -/
theorem idle (h : Recalls history self) (hused : now.used = none)
    (htold : ∀ key, now.told key = none) : Recalls (history ++ [now]) self := by
  have hsnoc := h.snoc self.entries none (.refl _) hused (fun _ h => by cases h)
    (by simpa using h.bounded) fun entry => by simpa [htold] using h.holds entry
  simpa using hsnoc

/-- **Every turn keeps the list in step with the history.** -/
theorem step (h : Recalls history self) (hpos : 0 < self.capacity)
    (message : CacheMessage K V Route) :
    Steps history (Machine.turn CacheState.transition self message) := by
  cases message with
  | put key value replyTo => exact h.put hpos key value replyTo
  | get key replyTo =>
    have hheld := h.find_held key
    have hperm := rest_perm self key
    cases hfind : self.find key with
    | none =>
      rw [hfind] at hheld
      simp only [Machine.turn, CacheState.transition, hfind]
      exact ⟨h.idle rfl fun _ => rfl, by simp [Answers, ← hheld], .refl _⟩
    | some entry =>
      obtain rfl := find_key hfind
      rw [hfind] at hheld hperm
      have hafter : (self.rest entry.key ++ [entry]).Perm self.entries :=
        (List.perm_append_singleton _ _).trans hperm
      simp only [Machine.turn, CacheState.transition, hfind]
      refine ⟨h.snoc _ (some entry) List.eraseP_sublist rfl ?_ ?_ fun other => ?_,
        by simp [Answers, ← hheld], hafter⟩
      · rintro _ ⟨rfl⟩ other hother
        exact (h.mem_rest.mp hother).2
      · exact Nat.le_trans (Nat.le_of_eq hafter.length_eq) h.bounded
      · exact hafter.mem_iff.trans (h.holds other)
  | remove key replyTo =>
    have hheld := h.find_held key
    have hperm := rest_perm self key
    cases hfind : self.find key with
    | none =>
      rw [hfind] at hheld
      simp only [Machine.turn, CacheState.transition, hfind]
      exact ⟨h.idle rfl fun _ => rfl, by simp [Answers, ← hheld], .refl _⟩
    | some entry =>
      obtain rfl := find_key hfind
      rw [hfind] at hheld hperm
      simp only [Machine.turn, CacheState.transition, hfind]
      refine ⟨?_, by simp [Answers, ← hheld], hperm⟩
      suffices hsnoc : Recalls (history ++ [⟨self, .remove entry.key replyTo,
          ⟨self.capacity, self.rest entry.key⟩, replyTo, .removed entry.key entry.value⟩])
          ⟨self.capacity, self.rest entry.key ++ none.toList⟩ by
        simpa using hsnoc
      refine h.snoc (self.rest entry.key) none List.eraseP_sublist rfl (fun _ h => by cases h) ?_
        fun other => ?_
      · rw [Option.toList_none, List.append_nil]
        exact Nat.le_trans List.eraseP_sublist.length_le h.bounded
      · rw [Option.toList_none, List.append_nil, h.mem_rest, h.holds]
        by_cases hkey : entry.key = other.key
        · simp [CacheTurn.told, CacheTurn.put, CacheTurn.leaving, hkey]
        · simp [CacheTurn.told, CacheTurn.put, CacheTurn.leaving, hkey, Ne.symm hkey]

end Recalls

/-! ### Runs -/

/-- The cache after a run. -/
def run (configuration : CacheConfiguration) (messages : List (CacheMessage K V Route)) :
    CacheState K V :=
  Machine.reached CacheState.transition (.new configuration) messages

/-- The turns of a run. -/
def turns (configuration : CacheConfiguration) (messages : List (CacheMessage K V Route)) :
    List (CacheTurn K V Route) :=
  Machine.turns CacheState.transition (.new configuration) messages

theorem run_recalls (configuration : CacheConfiguration)
    (messages : List (CacheMessage K V Route)) :
    (run configuration messages).capacity = configuration.capacity ∧
      Recalls (turns configuration messages) (run configuration messages) := by
  induction messages using List.reverseRecOn with
  | nil =>
    exact ⟨rfl, Nat.zero_le _, .nil, fun entry => iff_of_false List.not_mem_nil fun h => by cases h⟩
  | append_singleton messages message ih =>
    obtain ⟨hcapacity, hrecalls⟩ := ih
    rw [run, turns, Machine.turns_snoc, Machine.reached_snoc]
    refine ⟨Eq.trans ?_ hcapacity,
      (hrecalls.step (hcapacity ▸ configuration.pos) message).recalls⟩
    cases message with
    | put => rfl
    | get | remove =>
      simp only [CacheState.transition]
      split <;> rfl

/-- **The law of the cache.**  The keys are unique, no more than the capacity, and an entry is kept
exactly when its key holds its value.  Every turn answers as a least-recently-used cache does with the
history before it, and over a run every entry that was put left the cache once or is still kept. -/
theorem cache_law (configuration : CacheConfiguration) (messages : List (CacheMessage K V Route)) :
    ((run configuration messages).entries.map (·.key)).Nodup ∧
    (run configuration messages).entries.length ≤ configuration.capacity ∧
    (∀ entry, entry ∈ (run configuration messages).entries ↔
      held (turns configuration messages) entry.key = some entry.value) ∧
    (∀ earlier now later, turns configuration messages = earlier ++ now :: later →
      Answers earlier now) ∧
    ((turns configuration messages).flatMap CacheTurn.leaving ++
        (run configuration messages).entries).Perm
      ((turns configuration messages).flatMap CacheTurn.put) := by
  have hstep := fun (before : List (CacheMessage K V Route)) message =>
    (run_recalls configuration before).2.step
      ((run_recalls configuration before).1 ▸ configuration.pos) message
  obtain ⟨hcapacity, hrecalls⟩ := run_recalls configuration messages
  refine ⟨hrecalls.distinct, hcapacity ▸ hrecalls.bounded, hrecalls.holds, ?_, ?_⟩
  · intro earlier now later hsplit
    obtain ⟨before, rfl, hnow⟩ := Machine.turns_split hsplit
    rw [hnow]
    exact (hstep before now.event).answers
  · exact Machine.turns_conserve (fun self : CacheState K V => self.entries) CacheTurn.put
      CacheTurn.leaving rfl (fun before message => (hstep before message).conserves) messages

end History
end Bombay.Persistence
