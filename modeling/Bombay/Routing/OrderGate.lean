/-
# The order gate

`crates/actors/src/routing/order_gate.rs`: values with ordered keys wait until their key is opened.
An opening moves the watermark up and releases every kept value at or below it, in the order of
the keys; a value with an open key is delivered at once.

`transition_gates` says what one turn does, and `order_gate_law` what a run does: a submission was
delivered, is still kept, or was returned as a duplicate.
-/

import Bombay.Lib.Machine
import Bombay.Lib.OrderedMap

namespace Bombay.Routing

variable {K T Target Reply : Type}

/-- `OrderGateOutcome`. -/
inductive OrderGateOutcome (K T : Type) where
  | held (key : K) (held : ℕ)
  | delivered (key : K)
  | duplicate (key : K) (value : T)
  | opened (through : K) (released held : ℕ)
  | staleOpening (requested current : K)
  deriving DecidableEq

/-- `OrderGateMessage`; the route `to` is `target`. -/
inductive OrderGateMessage (K T Target Reply : Type) where
  | hold (key : K) (value : T) (target : Target) (replyTo : Reply)
  | openThrough (through : K) (replyTo : Reply)

/-- `Held`; the route `to` is `target`. -/
structure Held (T Target : Type) where
  value : T
  target : Target
  deriving DecidableEq

/-- `held.to.deliver(held.value)`. -/
def Held.deliver (held : Held T Target) : Target × T := (held.target, held.value)

/-- `DeliveryOutcomes` of a gate: what is delivered, and the one outcome. -/
structure GateSends (K T Target Reply : Type) where
  deliveries : List (Target × T) := []
  outcome : Reply × OrderGateOutcome K T

variable [LinearOrder K]

/-- `OrderGate`. -/
structure OrderGate (K T Target : Type) [LinearOrder K] where
  watermark : Option K
  held : OrderedMap K (Held T Target)

namespace OrderGate

/-- `OrderGate::new`. -/
def new : OrderGate K T Target := ⟨none, .empty⟩

/-- The watermark is at or above the key. -/
def isOpen (self : OrderGate K T Target) (key : K) : Bool :=
  self.watermark.any fun watermark => key ≤ watermark

/-- `OrderGate::hold`. -/
def hold (self : OrderGate K T Target) (key : K) (value : T) (target : Target) (replyTo : Reply) :
    OrderGate K T Target × GateSends K T Target Reply :=
  if self.isOpen key then (self, ⟨[(target, value)], replyTo, .delivered key⟩)
  else if (self.held.get? key).isSome then (self, ⟨[], replyTo, .duplicate key value⟩)
  else
    let held := self.held.insert key ⟨value, target⟩
    ({ self with held }, ⟨[], replyTo, .held key held.length⟩)

/-- The loop of `open`: remove the keys one by one, and deliver their values. -/
def release (held : OrderedMap K (Held T Target)) (deliveries : List (Target × T)) :
    List K → OrderedMap K (Held T Target) × List (Target × T)
  | [] => (held, deliveries)
  | key :: keys =>
    match held.get? key with
    | some value => release (held.erase key) (deliveries ++ [value.deliver]) keys
    | none => release held deliveries keys

/-- `held.range(..=through)`. -/
def range (held : OrderedMap K (Held T Target)) (through : K) : List (K × Held T Target) :=
  held.entries.filter fun entry => entry.1 ≤ through

/-- `OrderGate::open`. -/
def openThrough (self : OrderGate K T Target) (through : K) (replyTo : Reply) :
    OrderGate K T Target × GateSends K T Target Reply :=
  match self.watermark.filter fun current => through ≤ current with
  | some current => (self, ⟨[], replyTo, .staleOpening through current⟩)
  | none =>
    let keys := (range self.held through).map (·.1)
    let (held, deliveries) := release self.held [] keys
    (⟨some through, held⟩, ⟨deliveries, replyTo, .opened through keys.length held.length⟩)

/-- `OrderGate::transition`. -/
def transition (self : OrderGate K T Target) :
    OrderGateMessage K T Target Reply → OrderGate K T Target × GateSends K T Target Reply
  | .hold key value target replyTo => self.hold key value target replyTo
  | .openThrough through replyTo => self.openThrough through replyTo

/-- Every kept key is above the watermark. -/
def Above (self : OrderGate K T Target) : Prop :=
  ∀ watermark, self.watermark = some watermark → ∀ entry ∈ self.held.entries, watermark < entry.1

end OrderGate

/-- A turn of an order gate. -/
abbrev GateTurn (K T Target Reply : Type) [LinearOrder K] :=
  Turn (OrderGate K T Target) (OrderGateMessage K T Target Reply) (GateSends K T Target Reply)

namespace GateTurn

/-- What is submitted: a key, with its value and where that goes. -/
def submitted (now : GateTurn K T Target Reply) : Option (K × Held T Target) :=
  match now.event with
  | .hold key value target _ => some (key, ⟨value, target⟩)
  | .openThrough .. => none

/-- The submission that is returned as a duplicate, with the key and the value that are returned. -/
def duplicate (now : GateTurn K T Target Reply) : Option (K × Held T Target) :=
  match now.emitted.outcome.2, now.submitted with
  | .duplicate key value, some (_, held) => some (key, { held with value })
  | _, _ => none

/-- The key of an opening that is accepted. -/
def opening (now : GateTurn K T Target Reply) : Option K :=
  match now.event, now.emitted.outcome.2 with
  | .openThrough through _, .opened .. => some through
  | _, _ => none

/-- The submissions that are delivered: one with an open key, or those that an opening releases. -/
def released (now : GateTurn K T Target Reply) : List (K × Held T Target) :=
  match now.emitted.outcome.2 with
  | .delivered _ => now.submitted.toList
  | .opened through _ _ => OrderGate.range now.before.held through
  | _ => []

/-- **What a turn does**: it conserves the submissions, and accepts an opening exactly if it is above
the watermark; nothing else moves the watermark. -/
structure Gates (now : GateTurn K T Target Reply) : Prop where
  deliveries : now.emitted.deliveries = now.released.map (·.2.deliver)
  conserves : (now.released ++ now.duplicate.toList ++ now.after.held.entries).Perm
    (now.submitted.toList ++ now.before.held.entries)
  above : now.before.Above → now.after.Above
  accepts : ∀ through replyTo, now.event = .openThrough through replyTo →
    if now.before.isOpen through then
      ∃ current, now.emitted.outcome = (replyTo, .staleOpening through current)
    else ∃ released held, now.emitted.outcome = (replyTo, .opened through released held)
  opens : ∀ through, now.opening = some through →
    (∀ watermark, now.before.watermark = some watermark → watermark < through) ∧
    now.after.watermark = some through ∧
    now.released = now.before.held.entries.filter (fun entry => entry.1 ≤ through) ∧
    now.after.held.entries = now.before.held.entries.filter fun entry => through < entry.1
  keeps : now.opening = none → now.after.watermark = now.before.watermark
  unchanged : now.duplicate.isSome ∨ (now.submitted = none ∧ now.opening = none) →
    now.after = now.before ∧ now.released = []

end GateTurn

namespace OrderGate

variable {self : OrderGate K T Target}

/-- **The loop releases the range**, and leaves what is above it. -/
theorem release_range (held : OrderedMap K (Held T Target)) (through : K)
    (deliveries : List (Target × T)) :
    (release held deliveries ((range held through).map (·.1))).1.entries =
        held.entries.filter (fun entry => through < entry.1) ∧
      (release held deliveries ((range held through).map (·.1))).2 =
        deliveries ++ (range held through).map (·.2.deliver) := by
  obtain ⟨entries, ordered⟩ := held
  induction entries generalizing deliveries with
  | nil => simp [range, release]
  | cons head rest ih =>
    obtain ⟨hhead, hrest⟩ := List.pairwise_cons.mp ordered
    by_cases hle : head.1 ≤ through
    · have hrange : range ⟨head :: rest, ordered⟩ through = head :: range ⟨rest, hrest⟩ through := by
        simp [range, hle]
      have hget : (⟨head :: rest, ordered⟩ : OrderedMap K (Held T Target)).get? head.1 =
          some head.2 := OrderedMap.mem_entries.mp (.head _)
      have herase : (⟨head :: rest, ordered⟩ : OrderedMap K (Held T Target)).erase head.1 =
          ⟨rest, hrest⟩ := by
        have hkept : rest.filter (fun entry => entry.1 ≠ head.1) = rest :=
          List.filter_eq_self.mpr fun entry hentry => by
            rw [decide_eq_true_eq]
            exact (hhead entry hentry).ne'
        have herased : (head :: rest).filter (fun entry => entry.1 ≠ head.1) = rest := by
          rw [List.filter_cons_of_neg (by simp), hkept]
        simp only [OrderedMap.erase, herased]
      obtain ⟨hkept, hdelivered⟩ := ih (deliveries ++ [head.2.deliver]) hrest
      rw [hrange, List.map_cons, release, hget, herase]
      refine ⟨hkept.trans ?_, hdelivered.trans ?_⟩
      · simp [not_lt.mpr hle]
      · rw [List.append_assoc, List.singleton_append, List.map_cons]
    · have habove : ∀ entry ∈ head :: rest, through < entry.1 := by
        intro entry hentry
        rcases List.mem_cons.mp hentry with rfl | hentry
        · exact not_le.mp hle
        · exact (not_le.mp hle).trans (hhead entry hentry)
      have hrange : range ⟨head :: rest, ordered⟩ through = [] :=
        List.filter_eq_nil_iff.mpr fun entry hentry => by simpa using habove entry hentry
      have hkept : (head :: rest).filter (fun entry => through < entry.1) = head :: rest :=
        List.filter_eq_self.mpr fun entry hentry => by simpa using habove entry hentry
      rw [hrange, hkept]
      exact ⟨rfl, (List.append_nil _).symm⟩

/-- A turn that changes nothing, and delivers or returns what was submitted. -/
theorem gates_same {now : GateTurn K T Target Reply} (hafter : now.after = now.before)
    (hdeliveries : now.emitted.deliveries = now.released.map (·.2.deliver))
    (hopening : now.opening = none) (hsame : now.released ++ now.duplicate.toList = now.submitted.toList)
    (hstale : ∀ through replyTo, now.event = .openThrough through replyTo →
      now.before.isOpen through = true ∧
        ∃ current, now.emitted.outcome = (replyTo, .staleOpening through current))
    (hquiet : now.duplicate.isSome ∨ now.submitted = none → now.released = []) : now.Gates where
  deliveries := hdeliveries
  conserves := by
    rw [hsame, hafter]
  above h := by rwa [hafter]
  accepts through replyTo h := by
    obtain ⟨hopen, hreply⟩ := hstale through replyTo h
    rw [if_pos hopen]
    exact hreply
  opens through h := by cases hopening.symm.trans h
  keeps _ := by rw [hafter]
  unchanged h := ⟨hafter, hquiet (h.imp_right And.left)⟩

/-- An accepted opening. -/
theorem gates_opened {through replyTo released kept held deliveries}
    (hclosed : self.isOpen through = false)
    (hbelow : ∀ watermark, self.watermark = some watermark → watermark < through)
    (hheld : held.entries = self.held.entries.filter fun entry => through < entry.1)
    (hdeliveries : deliveries = (range self.held through).map (·.2.deliver)) :
    GateTurn.Gates (⟨self, .openThrough through replyTo, ⟨some through, held⟩,
      ⟨deliveries, replyTo, .opened through released kept⟩⟩ : GateTurn K T Target Reply) where
  deliveries := hdeliveries
  conserves := by
    have hsplit := List.filter_append_perm (fun entry : K × Held T Target => decide (entry.1 ≤ through))
      self.held.entries
    have habove : (fun entry : K × Held T Target => decide (through < entry.1)) =
        fun entry => !decide (entry.1 ≤ through) := by
      funext entry
      rw [← decide_not]
      exact decide_eq_decide.mpr not_le.symm
    show (range self.held through ++ [] ++ held.entries).Perm self.held.entries
    rw [hheld, habove, List.append_nil]
    exact hsplit
  above _ watermark hwatermark entry hentry := by
    obtain rfl := Option.some.inj hwatermark
    rw [show _ = self.held.entries.filter _ from hheld] at hentry
    simpa using (List.mem_filter.mp hentry).2
  accepts _ _ h := by
    obtain ⟨rfl, rfl⟩ := OrderGateMessage.openThrough.inj h
    rw [if_neg (ne_true_of_eq_false hclosed)]
    exact ⟨_, _, rfl⟩
  opens other h := by
    obtain rfl := Option.some.inj h
    exact ⟨hbelow, rfl, rfl, hheld⟩
  keeps h := by cases h
  unchanged h := by rcases h with h | ⟨-, h⟩ <;> cases h

/-- **Every turn delivers what it releases and keeps the rest.** -/
theorem transition_gates (self : OrderGate K T Target) (message : OrderGateMessage K T Target Reply) :
    GateTurn.Gates (Machine.turn transition self message) := by
  cases message with
  | hold key value target replyTo =>
    simp only [Machine.turn, transition, hold]
    split_ifs with hopen htaken
    · exact gates_same rfl rfl rfl rfl (fun _ _ h => by cases h) fun h => by
        rcases h with h | h <;> cases h
    · exact gates_same rfl rfl rfl rfl (fun _ _ h => by cases h) fun _ => rfl
    · have hfresh : ∀ entry ∈ self.held.entries, entry.1 ≠ key := by
        intro entry hentry hkey
        have hget := OrderedMap.mem_entries.mp (show (entry.1, entry.2) ∈ _ from hentry)
        rw [← hkey, hget] at htaken
        exact htaken rfl
      refine ⟨rfl, OrderedMap.insert_entries_perm hfresh,
        fun habove watermark hwatermark entry hentry => ?_, fun _ _ h => (by cases h),
        fun _ h => (by cases h), fun _ => rfl, fun h => by rcases h with h | ⟨h, -⟩ <;> cases h⟩
      rcases OrderedMap.mem_place hentry with rfl | hentry
      · rw [isOpen, show self.watermark = some watermark from hwatermark] at hopen
        simpa using hopen
      · exact habove watermark hwatermark entry hentry
  | openThrough through replyTo =>
    simp only [Machine.turn, transition, openThrough]
    split
    · rename_i current hcurrent
      obtain ⟨hwatermark, hle⟩ := Option.filter_eq_some_iff.mp hcurrent
      refine gates_same rfl rfl rfl rfl (fun _ _ h => ?_) fun _ => rfl
      obtain ⟨rfl, rfl⟩ := OrderGateMessage.openThrough.inj h
      refine ⟨?_, current, rfl⟩
      rw [isOpen, hwatermark]
      exact hle
    · rename_i hstale
      obtain ⟨hkept, hdelivered⟩ := release_range self.held through []
      have hbelow (watermark) (hwatermark : self.watermark = some watermark) :
          watermark < through := by
        simpa using Option.filter_eq_none_iff.mp hstale watermark hwatermark
      refine gates_opened ?_ hbelow hkept (by simpa using hdelivered)
      rw [isOpen, Option.any_eq_false]
      exact fun watermark hwatermark => by simpa using hbelow watermark hwatermark

/-! ### Runs -/

variable (messages : List (OrderGateMessage K T Target Reply))

/-- The gate after a run. -/
def run : OrderGate K T Target :=
  Machine.reached transition new messages

/-- The turns of a run. -/
def turns (messages : List (OrderGateMessage K T Target Reply)) : List (GateTurn K T Target Reply) :=
  Machine.turns transition new messages

theorem run_above : Above (run messages) :=
  Machine.reached_invariant (fun _ h => by cases h)
    (fun self message habove => (transition_gates self message).above habove) messages

/-- The openings of a run rise, and its watermark is the last. -/
theorem openings_rise :
    ((turns messages).filterMap GateTurn.opening).Pairwise (· < ·) ∧
      ∀ through ∈ (turns messages).filterMap GateTurn.opening,
        ∃ watermark, (run messages).watermark = some watermark ∧ through ≤ watermark := by
  induction messages using List.reverseRecOn with
  | nil => exact ⟨.nil, fun _ h => absurd h List.not_mem_nil⟩
  | append_singleton messages message ih =>
    simp only [turns, run, Machine.turns_snoc, Machine.reached_snoc, List.filterMap_append] at ih ⊢
    obtain ⟨hrise, hbound⟩ := ih
    have hgates := transition_gates (Machine.reached transition new messages) message
    cases hopening : GateTurn.opening
        (Machine.turn transition (Machine.reached transition new messages) message) with
    | none =>
      simp only [List.filterMap_cons_none hopening, List.filterMap_nil, List.append_nil]
      refine ⟨hrise, fun through hthrough => ?_⟩
      obtain ⟨watermark, hwatermark, hle⟩ := hbound through hthrough
      exact ⟨watermark, (hgates.keeps hopening).trans hwatermark, hle⟩
    | some through =>
      obtain ⟨habove, hwatermark, -, -⟩ := hgates.opens through hopening
      have hlt : ∀ earlier ∈ (Machine.turns transition new messages).filterMap GateTurn.opening,
          earlier < through := by
        intro earlier hearlier
        obtain ⟨watermark, hbefore, hle⟩ := hbound earlier hearlier
        exact hle.trans_lt (habove watermark hbefore)
      simp only [List.filterMap_cons_some hopening, List.filterMap_nil]
      refine ⟨List.pairwise_append.mpr ⟨hrise, List.pairwise_singleton _ _, ?_⟩, ?_⟩
      · intro earlier hearlier other hother
        exact List.mem_singleton.mp hother ▸ hlt earlier hearlier
      · intro other hother
        refine ⟨through, hwatermark, ?_⟩
        rcases List.mem_append.mp hother with hother | hother
        · exact (hlt other hother).le
        · exact (List.mem_singleton.mp hother).le

/-- **The law of the gate.**  Every kept key is above the watermark.  The accepted openings rise, and
each delivers exactly the kept values at or below it, in the order of their keys, and keeps the
others; stale openings and duplicates deliver nothing and change nothing.  Over a run every
submission is delivered once, is still kept, or was returned as a duplicate. -/
theorem order_gate_law :
    Above (run messages) ∧
    ((turns messages).filterMap GateTurn.opening).Pairwise (· < ·) ∧
    (∀ now ∈ turns messages, now.Gates ∧
      ∀ through, now.opening = some through → now.released.Pairwise fun a b => a.1 < b.1) ∧
    ((turns messages).flatMap (fun now => now.released ++ now.duplicate.toList) ++
        (run messages).held.entries).Perm
      ((turns messages).flatMap fun now => now.submitted.toList) := by
  refine ⟨run_above messages, (openings_rise messages).1, fun now hnow => ?_, ?_⟩
  · have hgates := transition_gates now.before now.event
    rw [← Machine.mem_turns hnow] at hgates
    refine ⟨hgates, fun through hopening => ?_⟩
    rw [(hgates.opens through hopening).2.2.1]
    exact now.before.held.ordered.filter _
  · exact Machine.turns_conserve (fun self : OrderGate K T Target => self.held.entries)
      (fun now : GateTurn K T Target Reply => now.submitted.toList)
      (fun now : GateTurn K T Target Reply => now.released ++ now.duplicate.toList) rfl
      (fun earlier message => (transition_gates _ message).conserves) messages

end OrderGate
end Bombay.Routing
