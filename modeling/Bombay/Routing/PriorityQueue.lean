/-
# The priority queue

`crates/actors/src/routing/priority_queue.rs`: a bounded `BinaryHeap` of entries that are ordered by
priority and, at equal priority, by the token of their admission.  Tokens count up and are never used
again, so the order of the entries is strict and the heap has one greatest entry.

The heap is a parameter, with the documented behaviour of `std`'s: it is a bag, and takes out a
greatest element.
-/

import Bombay.Lib.Machine
import Mathlib.Order.Lattice

namespace Bombay.Routing

/-- `BinaryHeap`, as documented: a bag of elements from which `pop` takes a greatest. -/
structure BinaryHeap {E : Type} (cmp : E → E → Ordering) where
  Heap : Type
  elements : Heap → List E
  empty : Heap
  push : Heap → E → Heap
  pop : Heap → Option (E × Heap)
  elements_empty : elements empty = []
  elements_push (heap : Heap) (element : E) :
    (elements (push heap element)).Perm (element :: elements heap)
  pop_none (heap : Heap) : pop heap = none → elements heap = []
  pop_some (heap rest : Heap) (element : E) : pop heap = some (element, rest) →
    (elements heap).Perm (element :: elements rest) ∧
      ∀ other ∈ elements heap, (cmp other element).isLE

variable {T P Target Reply : Type}

/-- `PriorityQueueRejection`. -/
inductive PriorityQueueRejection where
  | full
  | sequenceExhausted
  deriving DecidableEq

/-- `PriorityQueueOutcome`. -/
inductive PriorityQueueOutcome (T P : Type) where
  | accepted (depth : ℕ)
  | rejected (value : T) (priority : P) (reason : PriorityQueueRejection)
  | released (remaining : ℕ)
  | empty
  deriving DecidableEq

/-- `PriorityQueueMessage`; the route `to` is `target`. -/
inductive PriorityQueueMessage (T P Target Reply : Type) where
  | offer (value : T) (priority : P) (replyTo : Reply)
  | release (target : Target) (replyTo : Reply)

/-- `PriorityQueueConfigError`. -/
inductive PriorityQueueConfigError where
  | zeroCapacity
  deriving DecidableEq

/-- `DeliveryOutcomes` of a priority queue: what is delivered, and the one outcome. -/
structure PrioritySends (T P Target Reply : Type) where
  deliveries : List (Target × T)
  outcome : Reply × PriorityQueueOutcome T P

/-- `Entry`. -/
structure Entry (T P : Type) where
  value : T
  priority : P
  order : ℕ

variable [LinearOrder P]

/-- `Ord for Entry`: by priority, and the older entry is the greater. -/
def Entry.cmp (self other : Entry T P) : Ordering :=
  (compare self.priority other.priority).then (compare other.order self.order)

/-- `PriorityQueue`; `next` is a `u64`. -/
structure PriorityQueue (heap : BinaryHeap (Entry.cmp : Entry T P → Entry T P → Ordering)) where
  capacity : ℕ
  next : Option ℕ
  queued : heap.Heap

namespace PriorityQueue

variable {heap : BinaryHeap (Entry.cmp : Entry T P → Entry T P → Ordering)}

/-- `PriorityQueue::new`. -/
def new (heap : BinaryHeap (Entry.cmp : Entry T P → Entry T P → Ordering)) (capacity : ℕ) :
    Except PriorityQueueConfigError (PriorityQueue heap) :=
  if capacity = 0 then .error .zeroCapacity else .ok ⟨capacity, some 0, heap.empty⟩

/-- The entries that are queued. -/
def entries (self : PriorityQueue heap) : List (Entry T P) := heap.elements self.queued

/-- `PriorityQueue::offer`; `next` is `order.checked_add(1)`. -/
def offer (self : PriorityQueue heap) (value : T) (priority : P) (replyTo : Reply) :
    PriorityQueue heap × PrioritySends T P Target Reply :=
  if self.entries.length = self.capacity then
    (self, ⟨[], replyTo, .rejected value priority .full⟩)
  else
    match self.next with
    | none => (self, ⟨[], replyTo, .rejected value priority .sequenceExhausted⟩)
    | some order =>
      let next := if order + 1 < 2 ^ 64 then some (order + 1) else none
      let queued := heap.push self.queued ⟨value, priority, order⟩
      ({ self with next, queued }, ⟨[], replyTo, .accepted (heap.elements queued).length⟩)

/-- `PriorityQueue::transition`. -/
def transition (self : PriorityQueue heap) :
    PriorityQueueMessage T P Target Reply → PriorityQueue heap × PrioritySends T P Target Reply
  | .offer value priority replyTo => self.offer value priority replyTo
  | .release target replyTo =>
    match heap.pop self.queued with
    | none => (self, ⟨[], replyTo, .empty⟩)
    | some (entry, queued) =>
      ({ self with queued },
        ⟨[(target, entry.value)], replyTo, .released (heap.elements queued).length⟩)

end PriorityQueue

/-- A turn of a priority queue. -/
abbrev PriorityTurn (heap : BinaryHeap (Entry.cmp : Entry T P → Entry T P → Ordering))
    (Target Reply : Type) :=
  Turn (PriorityQueue heap) (PriorityQueueMessage T P Target Reply) (PrioritySends T P Target Reply)

namespace PriorityTurn

variable {heap : BinaryHeap (Entry.cmp : Entry T P → Entry T P → Ordering)}

/-- The entry that is admitted. -/
def admitted (now : PriorityTurn heap Target Reply) : List (Entry T P) :=
  match now.event, now.emitted.outcome.2, now.before.next with
  | .offer value priority _, .accepted _, some order => [⟨value, priority, order⟩]
  | _, _, _ => []

/-- The entry that a release takes out. -/
def taken (now : PriorityTurn heap Target Reply) : List (Entry T P) :=
  match now.event with
  | .offer .. => []
  | .release .. => ((heap.pop now.before.queued).map (·.1)).toList

/-- An entry goes before another: it has the greater priority or, at equal priority, was admitted
first. -/
def Before (entry other : Entry T P) : Prop :=
  other.priority < entry.priority ∨ other.priority = entry.priority ∧ entry.order < other.order

/-- **What a turn answers.**  An offer is admitted or returned, with the exact reason; a release
delivers the entry that goes before all others. -/
def Answers (now : PriorityTurn heap Target Reply) : Prop :=
  match now.event with
  | .offer value priority replyTo =>
    (∃ order, now.before.next = some order ∧ now.admitted = [⟨value, priority, order⟩] ∧
      now.before.entries.length ≠ now.before.capacity ∧
      now.emitted = ⟨[], replyTo, .accepted now.after.entries.length⟩) ∨
    ∃ reason, now.after = now.before ∧ now.admitted = [] ∧
      now.emitted = ⟨[], replyTo, .rejected value priority reason⟩ ∧
      (reason = .full ↔ now.before.entries.length = now.before.capacity) ∧
      (reason = .sequenceExhausted → now.before.next = none)
  | .release target replyTo =>
    (now.after = now.before ∧ now.before.entries = [] ∧ now.emitted = ⟨[], replyTo, .empty⟩) ∨
    ∃ entry, now.taken = [entry] ∧ entry ∈ now.before.entries ∧
      (∀ other ∈ now.before.entries, other = entry ∨ Before entry other) ∧
      now.emitted = ⟨[(target, entry.value)], replyTo, .released now.after.entries.length⟩

end PriorityTurn

/-! ### The order of the entries -/

namespace Entry

variable {self other third : Entry T P}

theorem isLE_cmp : (self.cmp other).isLE ↔
    self.priority < other.priority ∨ self.priority = other.priority ∧ other.order ≤ self.order := by
  rw [cmp, Ordering.isLE_then_iff_and, Ordering.isLE_iff_ne_gt, Ordering.isLE_iff_ne_gt]
  rw [← ne_eq, ← ne_eq, compare_le_iff_le, compare_le_iff_le, compare_lt_iff_lt]
  constructor
  · rintro ⟨hle, hlt | hle'⟩
    · exact .inl hlt
    · exact hle.lt_or_eq.imp_right fun heq => ⟨heq, hle'⟩
  · rintro (hlt | ⟨heq, hle⟩)
    · exact ⟨hlt.le, .inl hlt⟩
    · exact ⟨heq.le, .inr hle⟩

/-- **The order is total, consistent with equality and transitive**, as the heap relies on. -/
theorem cmp_lawful : other.cmp self = (self.cmp other).swap ∧
    (self.cmp other = .eq ↔ self.priority = other.priority ∧ self.order = other.order) ∧
    ((self.cmp other).isLE → (other.cmp third).isLE → (self.cmp third).isLE) := by
  refine ⟨?_, ?_, fun h h' => ?_⟩
  · rw [cmp, cmp, Ordering.swap_then, ← Std.OrientedOrd.eq_swap, ← Std.OrientedOrd.eq_swap]
  · rw [cmp, Ordering.then_eq_eq, compare_eq_iff_eq, compare_eq_iff_eq, eq_comm (a := other.order)]
  · rw [isLE_cmp] at h h' ⊢
    rcases h with h | ⟨h, hle⟩ <;> rcases h' with h' | ⟨h', hle'⟩
    · exact .inl (h.trans h')
    · exact .inl (h' ▸ h)
    · exact .inl (h ▸ h')
    · exact .inr ⟨h.trans h', Nat.le_trans hle' hle⟩

end Entry

namespace PriorityQueue

variable {heap : BinaryHeap (Entry.cmp : Entry T P → Entry T P → Ordering)}

/-- **What every turn keeps**: the entries it takes and has are those it admits and had, a token is
the next one, and the entries fit. -/
structure Keeps (now : PriorityTurn heap Target Reply) : Prop where
  conserves : (now.taken ++ now.after.entries).Perm (now.admitted ++ now.before.entries)
  capacity : now.after.capacity = now.before.capacity
  fits : now.before.entries.length ≤ now.before.capacity →
    now.after.entries.length ≤ now.after.capacity
  tokens : (now.admitted = [] ∧ now.after.next = now.before.next) ∨
    ∃ entry, now.admitted = [entry] ∧ now.before.next = some entry.order ∧
      now.after.next = if entry.order + 1 < 2 ^ 64 then some (entry.order + 1) else none

theorem transition_keeps (self : PriorityQueue heap)
    (message : PriorityQueueMessage T P Target Reply) :
    Keeps (Machine.turn transition self message) := by
  obtain ⟨capacity, next, queued⟩ := self
  cases message with
  | offer value priority replyTo =>
    simp only [Machine.turn, transition, offer]
    split_ifs with hfull
    · exact ⟨.refl _, rfl, id, .inl ⟨rfl, rfl⟩⟩
    · cases next with
      | none => exact ⟨.refl _, rfl, id, .inl ⟨rfl, rfl⟩⟩
      | some order =>
        have hpush := heap.elements_push queued ⟨value, priority, order⟩
        refine ⟨hpush, rfl, fun h => ?_, .inr ⟨⟨value, priority, order⟩, rfl, rfl, rfl⟩⟩
        exact Nat.le_trans (Nat.le_of_eq hpush.length_eq) (Nat.lt_of_le_of_ne h hfull)
  | release target replyTo =>
    simp only [Machine.turn, transition]
    cases hpop : heap.pop queued with
    | none =>
      refine ⟨?_, rfl, id, .inl ⟨rfl, rfl⟩⟩
      simp [PriorityTurn.taken, PriorityTurn.admitted, hpop]
    | some popped =>
      obtain ⟨entry, rest⟩ := popped
      have hperm := (heap.pop_some _ _ _ hpop).1
      have hless : (heap.elements rest).length ≤ (heap.elements queued).length :=
        hperm.length_eq ▸ Nat.le_succ _
      refine ⟨?_, rfl, Nat.le_trans hless, .inl ⟨rfl, rfl⟩⟩
      simp only [PriorityTurn.taken, PriorityTurn.admitted, hpop]
      exact hperm.symm

/-- **What every turn answers**, when no two entries have the same token. -/
theorem transition_answers (self : PriorityQueue heap) (hdistinct : (self.entries.map (·.order)).Nodup)
    (message : PriorityQueueMessage T P Target Reply) :
    PriorityTurn.Answers (Machine.turn transition self message) := by
  obtain ⟨capacity, next, queued⟩ := self
  cases message with
  | offer value priority replyTo =>
    simp only [Machine.turn, transition, offer]
    split_ifs with hfull
    · exact .inr ⟨.full, rfl, rfl, rfl, iff_of_true rfl hfull, fun h => by cases h⟩
    · cases next with
      | none => exact .inr ⟨.sequenceExhausted, rfl, rfl, rfl,
          iff_of_false (fun h => by cases h) hfull, fun _ => rfl⟩
      | some order => exact .inl ⟨order, rfl, rfl, hfull, rfl⟩
  | release target replyTo =>
    simp only [Machine.turn, transition]
    cases hpop : heap.pop queued with
    | none => exact .inl ⟨rfl, heap.pop_none _ hpop, rfl⟩
    | some popped =>
      obtain ⟨entry, rest⟩ := popped
      obtain ⟨hperm, hgreatest⟩ := heap.pop_some _ _ _ hpop
      have hmem : entry ∈ heap.elements queued := hperm.mem_iff.mpr (.head _)
      refine .inr ⟨entry, ?_, hmem, fun other hother => ?_, rfl⟩
      · simp only [PriorityTurn.taken, hpop]
        rfl
      · rcases Entry.isLE_cmp.mp (hgreatest other hother) with hlt | ⟨heq, hle⟩
        · exact .inr (.inl hlt)
        · rcases Nat.lt_or_eq_of_le hle with hlt | hsame
          · exact .inr (.inr ⟨heq, hlt⟩)
          · exact .inl (List.inj_on_of_nodup_map hdistinct hother hmem hsame.symm)

/-! ### Runs -/

variable {capacity : ℕ}

/-- The queue after a run. -/
def run (heap : BinaryHeap (Entry.cmp : Entry T P → Entry T P → Ordering)) (capacity : ℕ)
    (messages : List (PriorityQueueMessage T P Target Reply)) : PriorityQueue heap :=
  Machine.reached transition ⟨capacity, some 0, heap.empty⟩ messages

/-- The turns of a run. -/
def turns (heap : BinaryHeap (Entry.cmp : Entry T P → Entry T P → Ordering)) (capacity : ℕ)
    (messages : List (PriorityQueueMessage T P Target Reply)) :
    List (PriorityTurn heap Target Reply) :=
  Machine.turns transition ⟨capacity, some 0, heap.empty⟩ messages

/-- The entries that a run admits. -/
def admissions (heap : BinaryHeap (Entry.cmp : Entry T P → Entry T P → Ordering)) (capacity : ℕ)
    (messages : List (PriorityQueueMessage T P Target Reply)) : List (Entry T P) :=
  (turns heap capacity messages).flatMap PriorityTurn.admitted

variable (messages : List (PriorityQueueMessage T P Target Reply))

/-- The entries fit. -/
theorem run_fits :
    (run heap capacity messages).capacity = capacity ∧
      (run heap capacity messages).entries.length ≤ capacity := by
  suffices hfits : (run heap capacity messages).capacity = capacity ∧
      (run heap capacity messages).entries.length ≤ (run heap capacity messages).capacity from
    ⟨hfits.1, Nat.le_trans hfits.2 (Nat.le_of_eq hfits.1)⟩
  refine Machine.reached_invariant (P := fun self : PriorityQueue heap =>
    self.capacity = capacity ∧ self.entries.length ≤ self.capacity) ⟨rfl, ?_⟩
    (fun self message h => ?_) messages
  · simp [entries, heap.elements_empty]
  · have hkeeps := transition_keeps self message
    exact ⟨hkeeps.capacity.trans h.1, hkeeps.fits h.2⟩

/-- **Tokens count the admissions**, up to the last `u64`. -/
theorem run_tokens :
    (admissions heap capacity messages).map (·.order) =
      List.range (admissions heap capacity messages).length ∧
    (admissions heap capacity messages).length ≤ 2 ^ 64 ∧
    (run heap capacity messages).next =
      if (admissions heap capacity messages).length < 2 ^ 64
      then some (admissions heap capacity messages).length else none := by
  induction messages using List.reverseRecOn with
  | nil => exact ⟨rfl, Nat.zero_le _, rfl⟩
  | append_singleton messages message ih =>
    obtain ⟨horders, hbound, hnext⟩ := ih
    have hsnoc : admissions heap capacity (messages ++ [message]) =
        admissions heap capacity messages ++
          PriorityTurn.admitted (Machine.turn transition (run heap capacity messages) message) := by
      rw [admissions, turns, Machine.turns_snoc, List.flatMap_append, List.flatMap_singleton]
      rfl
    rw [run, Machine.reached_snoc, hsnoc]
    rcases (transition_keeps (run heap capacity messages) message).tokens with
      ⟨hadmitted, hsame⟩ | ⟨entry, hadmitted, hbefore, hafter⟩
    · rw [hadmitted, List.append_nil]
      exact ⟨horders, hbound, hsame.trans hnext⟩
    · rw [show (run heap capacity messages).next = some entry.order from hbefore] at hnext
      split_ifs at hnext with hlt
      have horder : entry.order = (admissions heap capacity messages).length :=
        Option.some.inj hnext
      rw [hadmitted, List.map_append, horders, List.length_append, List.length_singleton,
        List.range_succ, ← horder]
      exact ⟨rfl, horder ▸ hlt, hafter⟩

/-- Every admitted entry was taken, or is still queued. -/
theorem run_conserves :
    ((turns heap capacity messages).flatMap PriorityTurn.taken ++
        (run heap capacity messages).entries).Perm (admissions heap capacity messages) :=
  Machine.turns_conserve (fun self : PriorityQueue heap => self.entries) PriorityTurn.admitted
    PriorityTurn.taken
    (show PriorityQueue.entries ⟨capacity, some 0, heap.empty⟩ = [] from heap.elements_empty)
    (fun _ message => (transition_keeps _ message).conserves) messages

/-- No two queued entries have the same token. -/
theorem run_distinct :
    ((run heap capacity messages).entries.map (·.order)).Nodup := by
  have hnodup : ((admissions heap capacity messages).map (·.order)).Nodup := by
    rw [(run_tokens messages).1]
    exact List.nodup_range
  rw [← ((run_conserves messages).map (·.order)).nodup_iff, List.map_append] at hnodup
  exact (List.nodup_append'.mp hnodup).2.1

/-- **The law of the priority queue.**  The entries fit.  The tokens of the admissions count up from
zero and stay below `2 ^ 64`, so none is used twice and, of two entries, the one that was admitted
first has the smaller.  Every offer is admitted or returned, every release delivers the entry that
goes before all others, and every admitted entry was delivered once or is still queued. -/
theorem priority_queue_law (heap : BinaryHeap (Entry.cmp : Entry T P → Entry T P → Ordering))
    {capacity : ℕ} {first : PriorityQueue heap} (hnew : new heap capacity = .ok first)
    (messages : List (PriorityQueueMessage T P Target Reply)) :
    first = ⟨capacity, some 0, heap.empty⟩ ∧
    (run heap capacity messages).entries.length ≤ capacity ∧
    ((admissions heap capacity messages).map (·.order) =
        List.range (admissions heap capacity messages).length ∧
      (admissions heap capacity messages).length ≤ 2 ^ 64) ∧
    (∀ now ∈ turns heap capacity messages, now.Answers) ∧
    ((turns heap capacity messages).flatMap PriorityTurn.taken ++
        (run heap capacity messages).entries).Perm (admissions heap capacity messages) := by
  have hfirst : first = ⟨capacity, some 0, heap.empty⟩ := by
    rw [new] at hnew
    split_ifs at hnew
    exact (Except.ok.inj hnew).symm
  refine ⟨hfirst, (run_fits messages).2, ⟨(run_tokens messages).1, (run_tokens messages).2.1⟩,
    fun now hnow => ?_, run_conserves messages⟩
  obtain ⟨earlier, later, hsplit⟩ := List.append_of_mem hnow
  obtain ⟨before, -, hturn⟩ := Machine.turns_split hsplit
  rw [hturn]
  exact transition_answers _ (run_distinct before) now.event

/-- A heap: a list that is sorted when an entry is taken out. -/
def sortedHeap : BinaryHeap (Entry.cmp : Entry T P → Entry T P → Ordering) where
  Heap := List (Entry T P)
  elements := id
  empty := []
  push entries entry := entry :: entries
  pop entries :=
    match entries.mergeSort fun a b => (b.cmp a).isLE with
    | [] => none
    | entry :: rest => some (entry, rest)
  elements_empty := rfl
  elements_push _ _ := .refl _
  pop_none entries h := by
    have hperm := List.mergeSort_perm entries fun a b => (b.cmp a).isLE
    split at h
    · rename_i hsorted
      exact List.Perm.nil_eq (hsorted ▸ hperm) |>.symm
    · cases h
  pop_some entries rest entry h := by
    have hperm := List.mergeSort_perm entries fun a b => (b.cmp a).isLE
    have hsorted : (entries.mergeSort fun a b => (b.cmp a).isLE).Pairwise
        fun a b => (b.cmp a).isLE := by
      refine List.pairwise_mergeSort (fun a b c hab hbc => ?_) (fun a b => ?_) entries
      · exact Entry.cmp_lawful.2.2 hbc hab
      rw [Bool.or_eq_true, Entry.isLE_cmp, Entry.isLE_cmp]
      rcases lt_trichotomy a.priority b.priority with hlt | heq | hlt
      · exact .inr (.inl hlt)
      · exact (Nat.le_total a.order b.order).imp (fun hle => .inr ⟨heq.symm, hle⟩)
          fun hle => .inr ⟨heq, hle⟩
      · exact .inl (.inl hlt)
    split at h
    · cases h
    · rename_i heq
      cases h
      rw [heq] at hperm hsorted
      refine ⟨hperm.symm, fun other hother => ?_⟩
      rcases List.mem_cons.mp (hperm.mem_iff.mpr hother) with rfl | hother
      · exact Entry.isLE_cmp.mpr (.inr ⟨rfl, Nat.le_refl _⟩)
      · exact (List.pairwise_cons.mp hsorted).1 other hother

/-- A queue of two places is full when a third value comes; the two have the same priority. -/
theorem priority_queue_law_tie :
    let messages : List (PriorityQueueMessage Bool ℕ Unit Unit) :=
      [.offer true 3 (), .offer false 3 (), .offer true 4 (), .release () ()]
    (run sortedHeap 2 messages).entries.length ≤ 2 ∧
      ∀ now ∈ turns sortedHeap 2 messages, now.Answers := by
  intro messages
  have hnew : new (sortedHeap (T := Bool) (P := ℕ)) 2 = .ok ⟨2, some 0, sortedHeap.empty⟩ := rfl
  obtain ⟨-, hfits, -, hanswers, -⟩ := priority_queue_law sortedHeap hnew messages
  exact ⟨hfits, hanswers⟩

end PriorityQueue
end Bombay.Routing
