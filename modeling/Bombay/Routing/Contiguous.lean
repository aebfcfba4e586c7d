/-
# A sequencer delivers the contiguous prefix

Over every run the deliveries are the first accepted offers of the positions from the
first one up to the expected one, in order, and what waits are the first accepted
offers from there on (`run_delivers`).  So the order in which distinct positions are
offered does not matter, and the last position ends the stream.

The bound of a sequencer is the expected position, or `2 ^ 64` once it is exhausted:
positions below it are delivered, all others are still to come.
-/

import Bombay.Routing.Sequencer

namespace Bombay.Routing

variable {T Target Reply : Type}

namespace Sequencer

/-- The positions below the bound are delivered. -/
def bound (self : Sequencer T Target) : ℕ :=
  match self.expected with
  | some expected => expected
  | none => 2 ^ 64

theorem bound_some {self : Sequencer T Target} {expected} (h : self.expected = some expected) :
    self.bound = expected := by
  rw [bound, h]

theorem bound_none {self : Sequencer T Target} (h : self.expected = none) :
    self.bound = 2 ^ 64 := by
  rw [bound, h]

theorem bound_le (self : Sequencer T Target) : self.bound ≤ 2 ^ 64 := by
  unfold bound
  split
  · exact (Fin.isLt _).le
  · exact le_rfl

/-- **What the release loop does**: it delivers a run of positions from the cursor on, in order,
takes them from what waits, and stops before a position at which nothing waits. -/
theorem release_spec {self : Sequencer T Target} {cursor} (hexpected : self.expected = some cursor)
    (held : ℕ → Option (Pending T Target))
    (hheld : ∀ position : Position, cursor ≤ position → self.pending.get? position = held position)
    (deliveries : List (Target × T)) (released : ℕ) :
    ∃ (run : List (Pending T Target)) (next : Sequencer T Target),
      self.release cursor deliveries released =
        (next, deliveries ++ run.map Pending.deliver, released + run.length) ∧
      run.map some = (List.range' cursor run.length).map held ∧
      next.bound = cursor + run.length ∧
      (∀ position : Position, next.pending.get? position =
        if cursor ≤ position ∧ position.val < next.bound then none
        else self.pending.get? position) ∧
      ∀ expected, next.expected = some expected → next.pending.get? expected = none := by
  induction hdistance : 2 ^ 64 - cursor.val using Nat.strong_induction_on
    generalizing self cursor deliveries released with
  | _ distance ih =>
    rw [release]
    cases hhead : self.pending.get? cursor with
    | none =>
      refine ⟨[], self, by simp, rfl, ?_, ?_, ?_⟩
      · simpa using bound_some hexpected
      · intro position
        rw [bound_some hexpected]
        rw [if_neg]
        rintro ⟨hle, hlt⟩
        exact absurd hlt (not_lt.mpr hle)
      · intro expected hnext
        obtain rfl := Option.some.inj (hexpected.symm.trans hnext)
        exact hhead
    | some head =>
      have hhere : held cursor = some head := (hheld cursor le_rfl).symm.trans hhead
      simp only
      split
      · rename_i hsuccessor
        let cursor' : Position := ⟨cursor.val + 1, hsuccessor⟩
        have hrest : ∀ position : Position, cursor' ≤ position →
            (self.pending.erase cursor).get? position = held position := by
          intro position hposition
          have hlt : cursor.val < position.val := hposition
          rw [OrderedMap.get?_erase, if_neg (fun h => by rw [h] at hlt; exact lt_irrefl _ hlt)]
          exact hheld position hlt.le
        have hcursor : (⟨some cursor', self.pending.erase cursor⟩ :
            Sequencer T Target).expected = some cursor' := rfl
        obtain ⟨run, next, hrelease, hrun, hbound, hget, hgap⟩ :=
          ih (2 ^ 64 - cursor'.val) (by
              have hlt := cursor.isLt
              show 2 ^ 64 - (cursor.val + 1) < distance
              omega)
            hcursor hrest (deliveries ++ [head.deliver]) (released + 1) rfl
        have hbound' : next.bound = cursor.val + (run.length + 1) := by
          rw [hbound]
          show cursor.val + 1 + run.length = _
          omega
        refine ⟨head :: run, next, ?_, ?_, by rw [hbound', List.length_cons], ?_, hgap⟩
        · rw [hrelease]
          simp only [List.append_assoc, List.map_cons, List.cons_append, List.nil_append,
            List.length_cons, Prod.mk.injEq, true_and]
          omega
        · simp only [List.map_cons, List.length_cons, List.range'_succ, hhere]
          rw [hrun]
        · intro position
          rw [hget, OrderedMap.get?_erase]
          have hlt := position.isLt
          rcases lt_trichotomy position cursor with hbefore | rfl | hafter
          · have hnot : ¬ cursor' ≤ position := fun h =>
              absurd (hbefore.trans (show cursor.val < cursor'.val from Nat.lt_succ_self _))
                (not_lt.mpr h)
            simp only [hnot, not_le.mpr hbefore, ne_of_lt hbefore, false_and, if_false]
          · rw [if_pos rfl, ite_self, if_pos ⟨le_rfl, by rw [hbound']; omega⟩]
          · have h1 : cursor' ≤ position := hafter
            simp only [h1, hafter.le, true_and, ne_of_gt hafter, if_false]
      · rename_i hlast
        have hcursor : cursor.val + 1 = 2 ^ 64 := by
          have := cursor.isLt
          omega
        refine ⟨[head], ⟨none, self.pending.erase cursor⟩, by simp, ?_, ?_, ?_, ?_⟩
        · simp [hhere]
        · simp only [bound, List.length_singleton]
          omega
        · intro position
          have hlt := position.isLt
          rw [OrderedMap.get?_erase]
          simp only [bound, hlt, and_true]
          by_cases heq : position = cursor
          · rw [if_pos heq, if_pos (le_of_eq heq.symm)]
          · rw [if_neg heq, if_neg]
            intro hle
            have : cursor.val < position.val := lt_of_le_of_ne hle (fun h => heq (Fin.ext h.symm))
            omega
        · intro expected hnone
          cases hnone

/-- **What an offer does**: it is rejected and changes nothing, or it is kept, and the release
loop runs from the expected position. -/
theorem transition_cases (self : Sequencer T Target) (offer : Offer T Target Reply) :
    (∃ outcome, outcome.returned = some (offer.sequence, offer.value) ∧
      self.transition offer = (self, { outcomes := [(offer.replyTo, outcome)] }) ∧
      (self.expected = none ∨ offer.sequence.val < self.bound ∨
        (self.pending.get? offer.sequence).isSome)) ∨
    ∃ expected next deliveries released, self.expected = some expected ∧
      expected ≤ offer.sequence ∧ self.pending.get? offer.sequence = none ∧
      release { self with pending := self.pending.insert offer.sequence offer.pending } expected
        [] 0 = (next, deliveries, released) ∧
      self.transition offer = (next,
        ⟨deliveries, [(offer.replyTo, .accepted released next.pending.length)]⟩) := by
  unfold transition
  cases hexpected : self.expected with
  | none => exact .inl ⟨_, rfl, rfl, .inl rfl⟩
  | some expected =>
    simp only
    split
    · rename_i hlt
      refine .inl ⟨_, rfl, rfl, .inr (.inl ?_)⟩
      rw [bound_some hexpected]
      exact hlt
    · rename_i hle
      split
      · rename_i hsome
        exact .inl ⟨_, rfl, rfl, .inr (.inr hsome)⟩
      · rename_i hnone
        rcases hrelease : release
          { self with pending := self.pending.insert offer.sequence offer.pending } expected [] 0
          with ⟨next, deliveries, released⟩
        refine .inr ⟨expected, next, deliveries, released, rfl, not_lt.mp hle,
          Option.not_isSome_iff_eq_none.mp hnone, ?_, ?_⟩
        · rw [← hrelease, hexpected]
        · rw [hexpected] at hrelease
          rw [hrelease]

end Sequencer

/-! ### The first accepted offers -/

/-- The outcome of a turn accepts its offer. -/
def SequencerTurn.accepts (turn : SequencerTurn T Target Reply) : Bool :=
  turn.emitted.outcomes.any fun reply => reply.2.isAccepted

/-- The first offer of a position that was accepted. -/
def accepted (turns : List (SequencerTurn T Target Reply)) (position : ℕ) :
    Option (Pending T Target) :=
  (turns.find? fun turn => turn.event.sequence.val = position ∧ turn.accepts).map
    fun turn => turn.event.pending

/-- The first offer of a position. -/
def offered (offers : List (Offer T Target Reply)) (position : ℕ) : Option (Pending T Target) :=
  (offers.find? fun offer => offer.sequence.val = position).map Offer.pending

/-- All deliveries of some turns, in order. -/
def delivered (turns : List (SequencerTurn T Target Reply)) : List (Target × T) :=
  turns.flatMap fun turn => turn.emitted.deliveries

theorem accepted_snoc (turns : List (SequencerTurn T Target Reply))
    (turn : SequencerTurn T Target Reply) (position : ℕ) :
    accepted (turns ++ [turn]) position =
      (accepted turns position).or
        (if turn.event.sequence.val = position ∧ turn.accepts then some turn.event.pending
          else none) := by
  simp only [accepted, List.find?_append, Option.map_or, List.find?_singleton, decide_eq_true_eq]
  by_cases hhere : turn.event.sequence.val = position ∧ turn.accepts
  · rw [if_pos hhere, if_pos hhere]
    rfl
  · rw [if_neg hhere, if_neg hhere]
    rfl

theorem offered_snoc (offers : List (Offer T Target Reply)) (offer : Offer T Target Reply)
    (position : ℕ) :
    offered (offers ++ [offer]) position =
      (offered offers position).or
        (if offer.sequence.val = position then some offer.pending else none) := by
  simp only [offered, List.find?_append, Option.map_or, List.find?_singleton, decide_eq_true_eq]
  by_cases hhere : offer.sequence.val = position
  · rw [if_pos hhere, if_pos hhere]
    rfl
  · rw [if_neg hhere, if_neg hhere]
    rfl

theorem delivered_snoc (turns : List (SequencerTurn T Target Reply))
    (turn : SequencerTurn T Target Reply) :
    delivered (turns ++ [turn]) = delivered turns ++ turn.emitted.deliveries := by
  simp [delivered]

/-! ### Every run -/

/-- What a run has done, seen from the sequencer that it reached. -/
structure Delivers (first : Position) (turns : List (SequencerTurn T Target Reply))
    (sequencer : Sequencer T Target) : Prop where
  start : first.val ≤ sequencer.bound
  waiting : ∀ position : Position,
    sequencer.pending.get? position =
      if sequencer.bound ≤ position then accepted turns position else none
  gap : ∀ expected, sequencer.expected = some expected → accepted turns expected = none
  delivered : ∃ run : List (Pending T Target),
    delivered turns = run.map Pending.deliver ∧
      run.map some = (List.range' first (sequencer.bound - first)).map (accepted turns)
  earliest : ∀ position, accepted turns position =
    if first.val ≤ position then offered (turns.map Turn.event) position else none

namespace Delivers

variable {first : Position} {turns : List (SequencerTurn T Target Reply)}
    {sequencer : Sequencer T Target}

theorem nil (first : Position) :
    Delivers first ([] : List (SequencerTurn T Target Reply)) (Sequencer.new first) where
  start := le_rfl
  waiting position := by
    rw [show accepted ([] : List (SequencerTurn T Target Reply)) position = none from rfl, ite_self]
    rfl
  gap _ _ := rfl
  delivered := ⟨[], rfl, by simp [Sequencer.new, Sequencer.bound]⟩
  earliest position := by
    rw [List.map_nil, show offered ([] : List (Offer T Target Reply)) position = none from rfl,
      ite_self]
    rfl

/-- A position from the first one up to the bound was accepted. -/
theorem ready (h : Delivers first turns sequencer) {position} (hfirst : first.val ≤ position)
    (hbound : position < sequencer.bound) : (accepted turns position).isSome := by
  obtain ⟨run, -, hrun⟩ := h.delivered
  have hmem : accepted turns position ∈ run.map some := by
    rw [hrun]
    refine List.mem_map_of_mem (List.mem_range'_1.mpr ⟨hfirst, ?_⟩)
    omega
  obtain ⟨pending, -, hpending⟩ := List.mem_map.mp hmem
  rw [← hpending]
  rfl

/-- An offer that is rejected is at a position that is accepted already, or before the first. -/
theorem rejected (h : Delivers first turns sequencer) {offer : Offer T Target Reply}
    (hwhy : sequencer.expected = none ∨ offer.sequence.val < sequencer.bound ∨
      (sequencer.pending.get? offer.sequence).isSome) (hfirst : first ≤ offer.sequence) :
    (accepted turns offer.sequence).isSome := by
  rcases hwhy with hnone | hlt | hsome
  · refine h.ready hfirst ?_
    rw [Sequencer.bound_none hnone]
    exact offer.sequence.isLt
  · exact h.ready hfirst hlt
  · rw [h.waiting] at hsome
    split at hsome
    · exact hsome
    · cases hsome

/-- **Every offer keeps the account of the run.** -/
theorem step (h : Delivers first turns sequencer) (offer : Offer T Target Reply) :
    Delivers first (turns ++ [Machine.turn Sequencer.transition sequencer offer])
      (sequencer.transition offer).1 := by
  rcases sequencer.transition_cases offer with ⟨outcome, hreturned, htransition, hwhy⟩ |
    ⟨expected, next, deliveries, released, hexpected, hle, hfree, hrelease, htransition⟩
  · have hrejects : outcome.isAccepted = false := by
      cases outcome <;> first | rfl | cases hreturned
    have hsame : ∀ position, accepted
        (turns ++ [Machine.turn Sequencer.transition sequencer offer]) position =
          accepted turns position := by
      intro position
      rw [accepted_snoc, if_neg, Option.or_none]
      rintro ⟨-, haccepts⟩
      simp [SequencerTurn.accepts, Machine.turn, htransition, hrejects] at haccepts
    rw [htransition]
    constructor
    · exact h.start
    · intro position
      rw [hsame]
      exact h.waiting position
    · intro expected hexpected
      rw [hsame]
      exact h.gap expected hexpected
    · obtain ⟨run, hrun, hsome⟩ := h.delivered
      refine ⟨run, ?_, ?_⟩
      · rw [delivered_snoc, ← hrun]
        simp [Machine.turn, htransition]
      · rw [hsome]
        exact List.map_congr_left fun position _ => (hsame position).symm
    · intro position
      rw [hsame, h.earliest, List.map_append, List.map_singleton, offered_snoc]
      split
      · rename_i hfirst
        by_cases hhere : offer.sequence.val = position
        · have hsome := h.rejected hwhy (show first.val ≤ offer.sequence.val by omega)
          rw [hhere, h.earliest, if_pos hfirst] at hsome
          obtain ⟨pending, hpending⟩ := Option.isSome_iff_exists.mp hsome
          rw [hpending]
          rfl
        · rw [show (Machine.turn Sequencer.transition sequencer offer).event = offer from rfl,
            if_neg hhere, Option.or_none]
      · rfl
  · have hbound : sequencer.bound = expected := Sequencer.bound_some hexpected
    have hnew : accepted turns offer.sequence = none := by
      have hwaiting := h.waiting offer.sequence
      rwa [hfree, hbound, if_pos (show expected.val ≤ offer.sequence.val from hle),
        eq_comm] at hwaiting
    have haccepted : ∀ position, accepted
        (turns ++ [Machine.turn Sequencer.transition sequencer offer]) position =
          if offer.sequence.val = position then some offer.pending
          else accepted turns position := by
      intro position
      have haccepts :
          SequencerTurn.accepts (Machine.turn Sequencer.transition sequencer offer) = true := by
        simp [SequencerTurn.accepts, Machine.turn, htransition, SequencerOutcome.isAccepted]
      rw [accepted_snoc, haccepts]
      simp only [Machine.turn, and_true]
      split
      · rename_i hhere
        rw [← hhere, hnew, Option.none_or]
      · rw [Option.or_none]
    have hheld : ∀ position : Position, expected ≤ position →
        (sequencer.pending.insert offer.sequence offer.pending).get? position =
          accepted (turns ++ [Machine.turn Sequencer.transition sequencer offer]) position := by
      intro position hposition
      rw [OrderedMap.get?_insert, haccepted]
      by_cases hhere : position = offer.sequence
      · rw [if_pos hhere, if_pos (congrArg Fin.val hhere.symm)]
      · rw [if_neg hhere, if_neg (fun heq => hhere (Fin.ext heq.symm)), h.waiting, hbound,
          if_pos (show expected.val ≤ position.val from hposition)]
    have hcursor : ({ sequencer with
        pending := sequencer.pending.insert offer.sequence offer.pending } :
          Sequencer T Target).expected = some expected := hexpected
    obtain ⟨run, next', hspec, hrun, hnext, hget, hgap⟩ :=
      Sequencer.release_spec hcursor _ hheld [] 0
    rw [hrelease] at hspec
    obtain ⟨rfl, hdeliveries, -⟩ : next = next' ∧ deliveries = [] ++ run.map Pending.deliver ∧
        released = 0 + run.length := by simpa using hspec
    rw [htransition]
    have hstart : first.val ≤ expected.val := hbound ▸ h.start
    have hwaiting : ∀ position : Position, next.pending.get? position =
        if next.bound ≤ position then
          accepted (turns ++ [Machine.turn Sequencer.transition sequencer offer]) position
        else none := by
      intro position
      rw [hget position]
      by_cases hge : next.bound ≤ position.val
      · rw [if_neg (fun hlt => absurd hlt.2 (not_lt.mpr hge)), if_pos hge]
        exact hheld position (show expected.val ≤ position.val by omega)
      · rw [if_neg hge]
        by_cases hle' : expected ≤ position
        · rw [if_pos ⟨hle', not_le.mp hge⟩]
        · have hne : position ≠ offer.sequence := fun heq => hle' (heq ▸ hle)
          rw [if_neg (fun hlt => hle' hlt.1), OrderedMap.get?_insert, if_neg hne, h.waiting,
            hbound, if_neg (show ¬ expected.val ≤ position.val from hle')]
    constructor
    · show first.val ≤ next.bound
      omega
    · exact hwaiting
    · intro expected' hexpected'
      have hnone := hgap expected' hexpected'
      rwa [hwaiting, Sequencer.bound_some hexpected', if_pos le_rfl] at hnone
    · obtain ⟨old, hold, hsome⟩ := h.delivered
      refine ⟨old ++ run, ?_, ?_⟩
      · rw [delivered_snoc, hold, List.map_append]
        simp only [Machine.turn, htransition, hdeliveries, List.nil_append]
      · have hsplit : List.range' first.val (next.bound - first.val) =
            List.range' first.val (expected.val - first.val) ++
              List.range' expected.val run.length := by
          rw [hnext, show expected.val + run.length - first.val =
              (expected.val - first.val) + run.length by omega, ← List.range'_append_1,
            show first.val + (expected.val - first.val) = expected.val by omega]
        rw [hsplit, List.map_append, List.map_append, hrun, hsome, hbound]
        congr 1
        refine List.map_congr_left fun position hposition => ?_
        have hlt := (List.mem_range'_1.mp hposition).2
        have hge : expected.val ≤ offer.sequence.val := hle
        rw [haccepted, if_neg (by omega)]
    · intro position
      rw [haccepted, List.map_append, List.map_singleton, offered_snoc]
      have hge : expected.val ≤ offer.sequence.val := hle
      by_cases hhere : offer.sequence.val = position
      · have hnone : offered (turns.map Turn.event) position = none := by
          have hearliest := h.earliest position
          rwa [← hhere, hnew, if_pos (by omega), eq_comm, hhere] at hearliest
        rw [if_pos hhere, if_pos (by omega), hnone, Option.none_or, eq_comm]
        exact if_pos hhere
      · rw [if_neg hhere, h.earliest,
          show (Machine.turn Sequencer.transition sequencer offer).event = offer from rfl,
          if_neg hhere, Option.or_none]

end Delivers

/-- **Every run is accounted for.** -/
theorem run_delivers (first : Position) (offers : List (Offer T Target Reply)) :
    Delivers first (Sequencer.turns first offers) (Sequencer.run first offers) := by
  induction offers using List.reverseRecOn with
  | nil => exact .nil first
  | append_singleton offers offer ih =>
    rw [Sequencer.turns, Sequencer.run, Machine.turns_snoc, Machine.reached_snoc]
    exact ih.step offer

/-- The bound never goes back. -/
theorem Sequencer.bound_transition (sequencer : Sequencer T Target) (offer : Offer T Target Reply) :
    sequencer.bound ≤ (sequencer.transition offer).1.bound := by
  rcases sequencer.transition_cases offer with ⟨outcome, -, htransition, -⟩ |
    ⟨expected, next, deliveries, released, hexpected, -, -, hrelease, htransition⟩
  · rw [htransition]
  · have hcursor : ({ sequencer with
        pending := sequencer.pending.insert offer.sequence offer.pending } :
          Sequencer T Target).expected = some expected := hexpected
    obtain ⟨run, next', hspec, -, hbound, -⟩ :=
      release_spec hcursor (fun position => if h : position < 2 ^ 64 then
          (sequencer.pending.insert offer.sequence offer.pending).get? ⟨position, h⟩ else none)
        (fun position _ => by rw [dif_pos position.isLt]) [] 0
    rw [hrelease] at hspec
    obtain rfl := (Prod.mk.inj hspec).1
    rw [htransition, bound_some hexpected, hbound]
    exact Nat.le_add_right _ _

/-! ### The order of the offers -/

/-- Offers of distinct positions are found in any order. -/
theorem offered_perm {offers offers' : List (Offer T Target Reply)} (hperm : offers.Perm offers')
    (hdistinct : (offers.map Offer.sequence).Nodup) (position : ℕ) :
    offered offers position = offered offers' position := by
  have hfound : ∀ {offers : List (Offer T Target Reply)}, (offers.map Offer.sequence).Nodup →
      ∀ pending, offered offers position = some pending ↔
        ∃ offer ∈ offers, offer.sequence.val = position ∧ offer.pending = pending := by
    intro offers hdistinct pending
    simp only [offered, Option.map_eq_some_iff]
    constructor
    · rintro ⟨offer, hfind, rfl⟩
      exact ⟨offer, List.mem_of_find?_eq_some hfind, by simpa using List.find?_some hfind, rfl⟩
    · rintro ⟨offer, hoffer, hposition, rfl⟩
      refine ⟨offer, ?_, rfl⟩
      cases hfind : offers.find? fun offer => decide (offer.sequence.val = position) with
      | none => exact absurd hposition (by simpa using List.find?_eq_none.mp hfind offer hoffer)
      | some other =>
        have hother : other.sequence.val = position := by simpa using List.find?_some hfind
        rw [List.inj_on_of_nodup_map hdistinct (List.mem_of_find?_eq_some hfind) hoffer
          (Fin.ext (hother.trans hposition.symm))]
  apply Option.ext
  intro pending
  rw [hfound hdistinct, hfound ((hperm.map _).nodup_iff.mp hdistinct)]
  simp only [hperm.mem_iff]

/-- **What was accepted decides what a run has done.** -/
theorem Delivers.agree {first : Position} {turns turns' : List (SequencerTurn T Target Reply)}
    {sequencer sequencer' : Sequencer T Target} (h : Delivers first turns sequencer)
    (h' : Delivers first turns' sequencer')
    (hsame : ∀ position, accepted turns position = accepted turns' position) :
    sequencer = sequencer' ∧ Routing.delivered turns = Routing.delivered turns' := by
  -- the smaller bound is a gap of its own run, and delivered in the other one
  have hle : ∀ {turns turns' : List (SequencerTurn T Target Reply)}
      {sequencer sequencer' : Sequencer T Target}, Delivers first turns sequencer →
      Delivers first turns' sequencer' →
      (∀ position, accepted turns position = accepted turns' position) →
      sequencer'.bound ≤ sequencer.bound := by
    intro turns turns' sequencer sequencer' h h' hsame
    by_contra hlt
    cases hexpected : sequencer.expected with
    | none =>
      have hmax := sequencer'.bound_le
      rw [Sequencer.bound_none hexpected] at hlt
      exact hlt hmax
    | some expected =>
      have hbound := Sequencer.bound_some hexpected
      have hready := h'.ready (hbound ▸ h.start) (hbound ▸ not_le.mp hlt)
      rw [← hsame, h.gap expected hexpected] at hready
      cases hready
  have hbound : sequencer.bound = sequencer'.bound :=
    le_antisymm (hle h' h fun position => (hsame position).symm) (hle h h' hsame)
  have hpending : sequencer.pending = sequencer'.pending := by
    refine OrderedMap.ext_get? fun position => ?_
    rw [h.waiting, h'.waiting, hbound, hsame]
  have hexpected : sequencer.expected = sequencer'.expected := by
    cases hone : sequencer.expected with
    | none =>
      cases hother : sequencer'.expected with
      | none => rfl
      | some expected =>
        rw [Sequencer.bound_none hone, Sequencer.bound_some hother] at hbound
        exact absurd hbound.symm (Nat.ne_of_lt expected.isLt)
    | some expected =>
      cases hother : sequencer'.expected with
      | none =>
        rw [Sequencer.bound_some hone, Sequencer.bound_none hother] at hbound
        exact absurd hbound (Nat.ne_of_lt expected.isLt)
      | some expected' =>
        rw [Sequencer.bound_some hone, Sequencer.bound_some hother] at hbound
        rw [Fin.ext hbound]
  constructor
  · cases sequencer
    cases sequencer'
    congr
  · obtain ⟨run, hrun, hsome⟩ := h.delivered
    obtain ⟨run', hrun', hsome'⟩ := h'.delivered
    have hruns : run.map some = run'.map some := by
      rw [hsome, hsome', hbound]
      exact List.map_congr_left fun position _ => hsame position
    rw [hrun, hrun', List.map_injective_iff.mpr (Option.some_injective _) hruns]

/-- **A sequencer delivers the contiguous prefix in order**, whatever is offered: the deliveries are
the first accepted offers of all positions below the bound, each to its own route; what waits are
the first accepted offers from the bound on, which are the first ones offered, and the expected
position is not among them; a rejection returns its position and value and changes nothing; distinct
positions may come in any order; and once the last position is delivered nothing waits. -/
theorem sequencer_law (first : Position) (offers : List (Offer T Target Reply)) :
    let turns := Sequencer.turns first offers
    let last := Sequencer.run first offers
    ((delivered turns).map some = (List.range' first (last.bound - first)).map
        fun position => (accepted turns position).map Pending.deliver) ∧
    (∀ position : Position, last.pending.get? position =
      if last.bound ≤ position then accepted turns position else none) ∧
    (∀ position, accepted turns position =
      if first.val ≤ position then offered offers position else none) ∧
    (∀ expected, last.expected = some expected → last.pending.get? expected = none) ∧
    (∀ turn ∈ turns, turn.before.bound ≤ turn.after.bound ∧
      ∃ outcome, turn.emitted.outcomes = [(turn.event.replyTo, outcome)] ∧
        (outcome.isAccepted = false → turn.after = turn.before ∧ turn.emitted.deliveries = [] ∧
          outcome.returned = some (turn.event.sequence, turn.event.value))) ∧
    (∀ offers', offers.Perm offers' → (offers.map Offer.sequence).Nodup →
      Sequencer.run first offers' = last ∧
        delivered (Sequencer.turns first offers') = delivered turns) ∧
    (2 ^ 64 ≤ last.bound → last.state = .exhausted ∧ last.pending = .empty) := by
  intro turns last
  have hrun : Delivers first turns last := run_delivers first offers
  have hearliest : ∀ (offers : List (Offer T Target Reply)) position,
      accepted (Sequencer.turns first offers) position =
        if first.val ≤ position then offered offers position else none := by
    intro offers position
    rw [(run_delivers first offers).earliest, Sequencer.turns, Machine.turns_event]
  refine ⟨?_, hrun.waiting, hearliest offers, ?_, ?_, ?_, ?_⟩
  · obtain ⟨run, hdelivered, hsome⟩ := hrun.delivered
    have hmap := congrArg (List.map (Option.map Pending.deliver)) hsome
    rw [List.map_map, List.map_map] at hmap
    rw [hdelivered, List.map_map]
    exact hmap
  · intro expected hexpected
    rw [hrun.waiting, Sequencer.bound_some hexpected, if_pos le_rfl]
    exact hrun.gap expected hexpected
  · intro turn hturn
    rw [Machine.mem_turns hturn]
    refine ⟨Sequencer.bound_transition _ _, ?_⟩
    rcases turn.before.transition_cases turn.event with ⟨outcome, hreturned, htransition, -⟩ |
      ⟨expected, next, deliveries, released, -, -, -, -, htransition⟩
    · exact ⟨outcome, by simp only [Machine.turn, htransition],
        fun _ => ⟨by simp only [Machine.turn, htransition],
          by simp only [Machine.turn, htransition], hreturned⟩⟩
    · exact ⟨.accepted released next.pending.length, by simp only [Machine.turn, htransition],
        fun hrejected => by cases hrejected⟩
  · intro offers' hperm hdistinct
    obtain ⟨hlast, hdelivered⟩ := hrun.agree (run_delivers first offers') fun position => by
      rw [hearliest offers, hearliest offers', offered_perm hperm hdistinct]
    exact ⟨hlast.symm, hdelivered.symm⟩
  · intro hbound
    constructor
    · unfold Sequencer.state
      cases hexpected : last.expected with
      | none => rfl
      | some expected =>
        rw [Sequencer.bound_some hexpected] at hbound
        exact absurd expected.isLt (not_lt.mpr hbound)
    · refine OrderedMap.ext_get? fun position => ?_
      have hlt := position.isLt
      rw [hrun.waiting, if_neg (by omega)]
      rfl

end Bombay.Routing
