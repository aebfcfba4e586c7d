/-
# A lane is swept

The progress of a send product keeps a slot for every row, and only the row the traversal
stands at is on loan (`Sound`).  Going through the rows of a lane is a sweep over its slots
(`interpretRows_follows`), and finishing it settles it when the sweep has (`finishItemRows_spec`).
-/

import Bombay.Effects.Actions

namespace Bombay.Effects

open Sweep

variable {T : ActionTypes} {σ : Type}

/-! ### Offers and answers -/

/-- What an interpreter is offered after the batch. -/
inductive Offer (T : ActionTypes) where
  | birth (creation : T.Routed)
  | item (item : T.Item)

/-- What it answers. -/
inductive Answer (T : ActionTypes) where
  | birth (reply : BirthReply T)
  | item (reply : Reply T)

/-- The answer is corrupt. -/
def Answer.isCorrupt : Answer T → Bool
  | birth reply => reply.isCorrupt
  | item reply => reply.isCorrupt

/-- The invocation that makes an offer. -/
def Offer.call : Offer T → Call T
  | birth creation => .birth creation
  | item request => .item ⟨some request, none⟩

/-- What is held for an item on loan. -/
def loanSlot : Loan T.Item (Reply T) → Slot (Offer T) (Answer T)
  | ⟨some item, none⟩ => .untouched (.item item)
  | ⟨none, some reply⟩ => .replied (.item reply)
  | _ => .taken

/-- What an interpreter makes of an offer. -/
def Interpreter.attempt (interpreter : Interpreter T σ) (state : σ) :
    Offer T → σ × Slot (Offer T) (Answer T) × Poll
  | .birth creation =>
    match interpreter.dispatchBirth state creation with
    | (state, none) => (state, .taken, .abandoned)
    | (state, some reply) => (state, .replied (.birth reply), .ready)
  | .item item =>
    let (state, loan, poll) := interpreter.interpretItem state ⟨some item, none⟩
    (state, loanSlot loan, poll)

/-- **A lawful interpreter** leaves an item that it is offered alone, takes it, or takes it and
leaves a reply; and so with a batch. -/
structure Interpreter.Lawful (interpreter : Interpreter T σ) : Prop where
  item : ∀ state item, (interpreter.interpretItem state ⟨some item, none⟩).2.1 = ⟨some item, none⟩ ∨
    (interpreter.interpretItem state ⟨some item, none⟩).2.1.input = none
  batch : ∀ state creations,
    (interpreter.interpretCreations state ⟨some creations, none⟩).2.1 = ⟨some creations, none⟩ ∨
      (interpreter.interpretCreations state ⟨some creations, none⟩).2.1.input = none

/-! ### Slots -/

/-- What is held for an item. -/
def itemSlot : ItemProgress T → Slot (Offer T) (Answer T)
  | .original item => .untouched (.item item)
  | .interpreting loan => loanSlot loan
  | .completed received => .replied (.item received.settlement)

/-- What a settled row holds. -/
def resultSlot : ItemResult T → Slot (Offer T) (Answer T)
  | .attempted reply => .replied (.item reply)
  | .unattempted item => .untouched (.item item)

/-- What is held for an item that is untouched. -/
def freshSlot (item : T.Item) : Slot (Offer T) (Answer T) := .untouched (.item item)

namespace SendsProgress

/-- **What a send product holds for each of its rows**, inner to outer. -/
def slots : SendsProgress T → List (Slot (Offer T) (Answer T))
  | original sends => sends.rows.map freshSlot
  | rows _ items => items.map itemSlot
  | layer owned inner => inner.slots ++ owned.slots
  | completed received => received.settlement.rows.map resultSlot

/-- The shape of a send product. -/
def shape : SendsProgress T → Lanes Unit
  | original sends => sends.shape
  | rows kind items => .lane kind (items.map fun _ => ())
  | layer owned inner => .layer owned.shape inner.shape
  | completed received => received.settlement.shape

end SendsProgress

/-- **The rows of a lane in progress**: completed ones, then at most one that is on loan or corrupt,
then originals. -/
inductive RowsSound : List (ItemProgress T) → Prop
  | untouched (items : List T.Item) : RowsSound (items.map .original)
  | done (received : Reply T) (hsound : received.isCorrupt = false) {rest} (hrest : RowsSound rest) :
      RowsSound (.completed (.complete received) :: rest)
  | corrupt (received : Reply T) (hcorrupt : received.isCorrupt = true) (items : List T.Item) :
      RowsSound (.completed (.corrupt received) :: items.map .original)
  | loaned (loan : Loan T.Item (Reply T)) (hloan : loan.input = none ∨ loan.received = none)
      (items : List T.Item) : RowsSound (.interpreting loan :: items.map .original)

/-- **A send product in progress**: a half of a layer is untouched until the half before it is
complete. -/
inductive SendsProgress.Sound : SendsProgress T → Prop
  | original (sends : Lanes T.Item) : Sound (.original sends)
  | rows (kind : LaneKind) {items : List (ItemProgress T)} (hitems : RowsSound items) :
      Sound (.rows kind items)
  | inner (sends : Lanes T.Item) {inner} (hinner : Sound inner) :
      Sound (.layer (.original sends) inner)
  | owned (settlement : Lanes (ItemResult T))
      (hthrough : verdict Answer.isCorrupt (settlement.rows.map resultSlot) = .through) {owned}
      (howned : Sound owned) :
      Sound (.layer owned (.completed (.complete settlement)))
  | completed (received : Interpretation (Lanes (ItemResult T)))
      (hverdict : verdict Answer.isCorrupt (received.settlement.rows.map resultSlot) =
        if received.isCorrupt then .corrupt else .through) : Sound (.completed received)

/-- **A traversal that ran to its end has completed what its slots say is complete.** -/
def SendsProgress.Closed (progress : SendsProgress T) : Prop :=
  match verdict Answer.isCorrupt progress.slots with
  | .through => ∃ settlement, progress = completed (.complete settlement)
  | .corrupt => ∃ settlement, progress = completed (.corrupt settlement)
  | _ => ∀ received, progress ≠ completed received

/-- Whether a sweep was abandoned. -/
def poll : Halt → Poll
  | .abandoned => .abandoned
  | _ => .ready

theorem poll_settled {halt} (h : halt ≠ .abandoned) : .ready = poll halt := by
  cases halt with
  | abandoned => exact absurd rfl h
  | through => rfl
  | corrupt => rfl
  | stuck => rfl

/-! ### One lane -/

attribute [local simp] interpretRows

theorem slots_original (items : List T.Item) :
    (items.map (InterpretationProgress.original : T.Item → ItemProgress T)).map itemSlot =
      items.map freshSlot := by
  rw [List.map_map]
  rfl

/-- **Going through the rows of a lane is a sweep over them**, from every state. -/
def RowsFollow (interpreter : Interpreter T σ) (items : List (ItemProgress T)) : Prop :=
  ∀ state,
    let ran := interpretRows interpreter state items
    let swept := sweep interpreter.attempt Answer.isCorrupt state (items.map itemSlot)
    ran.progress.map itemSlot = swept.slots ∧ ran.state = swept.state ∧
      ran.calls = swept.attempts.map Offer.call ∧ ran.poll = poll swept.halt ∧
      RowsSound ran.progress ∧ ran.progress.length = items.length

variable {interpreter : Interpreter T σ} {items : List (ItemProgress T)}

theorem RowsFollow.done {received} (hsound : received.isCorrupt = false) {rest}
    (hrest : RowsFollow interpreter rest) :
    RowsFollow interpreter (.completed (.complete received) :: rest) := by
  intro state
  obtain ⟨hslots, hstate, hcalls, hpoll, hrows, hlength⟩ := hrest state
  simp only [interpretRows, List.map_cons, itemSlot, Interpretation.settlement, sweep,
    Answer.isCorrupt, hsound, Bool.false_eq_true, if_false, after, List.nil_append]
  exact ⟨by rw [hslots], hstate, hcalls, hpoll, .done received hsound hrows, by simp [hlength]⟩

/-- An item that is offered. -/
theorem RowsFollow.offer (hlawful : interpreter.Lawful) {row item}
    (hrow : row = .original item ∨ row = .interpreting ⟨some item, none⟩) {items : List T.Item}
    (hrest : RowsFollow interpreter (items.map .original)) :
    RowsFollow interpreter (row :: items.map .original) := by
  intro state
  have hslot : itemSlot row = .untouched (.item item) := by
    rcases hrow with rfl | rfl <;> rfl
  have hloop : interpretRows interpreter state (row :: items.map .original) =
      interpretRows interpreter state (.original item :: items.map .original) := by
    rcases hrow with rfl | rfl <;> rfl
  have hlaw := hlawful.item state item
  rcases hresult : interpreter.interpretItem state ⟨some item, none⟩ with ⟨state', loan, polled⟩
  rw [hresult] at hlaw
  have hattempt : interpreter.attempt state (.item item) = (state', loanSlot loan, polled) := by
    simp only [Interpreter.attempt, hresult]
  have hloan : loan.input = none ∨ loan.received = none := by
    rcases hlaw with rfl | hnone
    · exact .inr rfl
    · exact .inl hnone
  rw [hloop, List.map_cons, hslot]
  simp only [sweep, hattempt, interpretRows, settleItem, prepareItem, interpretationInput, hresult]
  cases polled with
  | abandoned => exact ⟨rfl, rfl, rfl, rfl, .loaned loan hloan items, rfl⟩
  | ready =>
    obtain ⟨input, received⟩ := loan
    cases received with
    | none =>
      cases input with
      | none | some item' => exact ⟨rfl, rfl, rfl, rfl, .loaned _ hloan items, rfl⟩
    | some reply =>
      cases input with
      | some item' => rcases hloan with hloan | hloan <;> cases hloan
      | none =>
        cases hcorrupt : reply.isCorrupt with
        | true =>
          simp only [finishItem, loanSlot, Answer.isCorrupt, hcorrupt, if_true]
          refine ⟨?_, ?_, ?_, ?_, .corrupt reply hcorrupt items, ?_⟩ <;> trivial
        | false =>
          obtain ⟨hslots, hstate, hcalls, hpoll, hrows, hlength⟩ := hrest state'
          simp only [finishItem, loanSlot, Answer.isCorrupt, hcorrupt, Bool.false_eq_true,
            if_false, after, List.map_cons, List.map_append, List.map_nil]
          refine ⟨by rw [hslots]; rfl, hstate, by rw [hcalls]; rfl, hpoll,
            .done reply hcorrupt hrows, ?_⟩
          rw [List.length_cons, List.length_cons, hlength]

/-- An item that was answered when the traversal was abandoned. -/
theorem RowsFollow.answered (reply : Reply T)
    {items : List T.Item} (hrest : RowsFollow interpreter (items.map .original)) :
    RowsFollow interpreter (.interpreting ⟨none, some reply⟩ :: items.map .original) := by
  intro state
  cases hcorrupt : reply.isCorrupt with
  | true =>
    simp only [interpretRows, settleItem, prepareItem, interpretationInput, finishItem, hcorrupt,
      if_true, List.map_cons, itemSlot, loanSlot, sweep, Answer.isCorrupt]
    refine ⟨?_, ?_, ?_, ?_, .corrupt reply hcorrupt items, ?_⟩ <;> trivial
  | false =>
    obtain ⟨hslots, hstate, hcalls, hpoll, hrows, hlength⟩ := hrest state
    simp only [interpretRows, settleItem, prepareItem, interpretationInput, finishItem, hcorrupt,
      Bool.false_eq_true, if_false, List.map_cons, itemSlot, loanSlot, sweep, Answer.isCorrupt,
      after, List.nil_append]
    refine ⟨by rw [hslots]; rfl, hstate, hcalls, hpoll, .done reply hcorrupt hrows, ?_⟩
    rw [List.length_cons, List.length_cons, hlength]

/-- **Going through the rows of a lane is a sweep.** -/
theorem interpretRows_follows (hlawful : interpreter.Lawful)
    (hitems : RowsSound items) : RowsFollow interpreter items := by
  have horiginal : ∀ items : List T.Item, RowsFollow interpreter (items.map .original) := by
    intro items
    induction items with
    | nil => exact fun state => ⟨rfl, rfl, rfl, rfl, .untouched [], rfl⟩
    | cons item items ih => exact .offer hlawful (.inl rfl) ih
  induction hitems with
  | untouched items => exact horiginal items
  | done received hsound hrest ih => exact .done hsound ih
  | corrupt received hcorrupt items =>
    intro state
    simp only [interpretRows, List.map_cons, itemSlot, Interpretation.settlement, sweep,
      Answer.isCorrupt, hcorrupt, if_true]
    refine ⟨?_, ?_, ?_, ?_, .corrupt received hcorrupt items, ?_⟩ <;> trivial
  | loaned loan hloan items =>
    obtain ⟨input, received⟩ := loan
    cases received with
    | none =>
      cases input with
      | none => exact fun state => ⟨rfl, rfl, rfl, rfl, .loaned _ hloan items, rfl⟩
      | some item => exact .offer hlawful (.inr rfl) (horiginal items)
    | some reply =>
      cases input with
      | some item => rcases hloan with hloan | hloan <;> cases hloan
      | none => exact .answered reply (horiginal items)

/-! ### Finishing a lane -/

/-- **The rows of a lane once they are finished**: completed ones, and what follows them. -/
theorem RowsSound.finished (h : RowsSound items) :
    ∃ (done : List (Reply T)) (tail : List (ItemProgress T)),
      items.map finishItem = done.map (fun reply => .completed (.complete reply)) ++ tail ∧
      (∀ reply ∈ done, reply.isCorrupt = false) ∧ (tail = [] ∨
        (∃ (reply : Reply T) (rest : List T.Item), reply.isCorrupt = true ∧
          tail = .completed (.corrupt reply) :: rest.map .original) ∨
        (∃ (item : T.Item) (rest : List T.Item), tail = .original item :: rest.map .original) ∨
        ∃ (loan : Loan T.Item (Reply T)) (rest : List T.Item), loan.received = none ∧
          tail = .interpreting loan :: rest.map .original) := by
  have horiginal : ∀ items : List T.Item,
      (items.map .original).map finishItem = (items.map .original : List (ItemProgress T)) := by
    intro items
    rw [List.map_map]
    rfl
  induction h with
  | untouched items =>
    refine ⟨[], items.map .original, horiginal items, fun _ h => absurd h List.not_mem_nil, ?_⟩
    cases items with
    | nil => exact .inl rfl
    | cons item items => exact .inr (.inr (.inl ⟨item, items, rfl⟩))
  | done received hsound hrest ih =>
    obtain ⟨done, tail, heq, hdone, htail⟩ := ih
    refine ⟨received :: done, tail, ?_, ?_, htail⟩
    · rw [List.map_cons, heq]
      rfl
    · intro reply hreply
      rcases List.mem_cons.mp hreply with rfl | hreply
      · exact hsound
      · exact hdone reply hreply
  | corrupt received hcorrupt items =>
    refine ⟨[], _, ?_, fun _ h => absurd h List.not_mem_nil,
      .inr (.inl ⟨received, items, hcorrupt, rfl⟩)⟩
    rw [List.map_cons, horiginal]
    rfl
  | loaned loan hloan items =>
    obtain ⟨input, received⟩ := loan
    cases received with
    | none =>
      refine ⟨[], _, ?_, fun _ h => absurd h List.not_mem_nil,
        .inr (.inr (.inr ⟨⟨input, none⟩, items, rfl, rfl⟩))⟩
      rw [List.map_cons, horiginal]
      cases input <;> rfl
    | some reply =>
      obtain rfl : input = none := hloan.resolve_right nofun
      cases hcorrupt : reply.isCorrupt with
      | true =>
        refine ⟨[], _, ?_, fun _ h => absurd h List.not_mem_nil,
          .inr (.inl ⟨reply, items, hcorrupt, rfl⟩)⟩
        rw [List.map_cons, horiginal]
        simp only [finishItem, hcorrupt, if_true, List.map_nil, List.nil_append]
      | false =>
        refine ⟨[reply], items.map .original, ?_, ?_, ?_⟩
        · rw [List.map_cons, horiginal]
          simp only [finishItem, hcorrupt, Bool.false_eq_true, if_false, List.map_cons,
            List.map_nil, List.cons_append, List.nil_append]
        · intro other hother
          rw [List.mem_singleton.mp hother]
          exact hcorrupt
        · cases items with
          | nil => exact .inl rfl
          | cons item items => exact .inr (.inr (.inl ⟨item, items, rfl⟩))

theorem finishItem_slot {row : ItemProgress T}
    (h : ∀ loan, row = .interpreting loan → loan.input = none ∨ loan.received = none) :
    itemSlot (finishItem row) = itemSlot row := by
  cases row with
  | original item => rfl
  | completed received => rfl
  | interpreting loan =>
    obtain ⟨input, received⟩ := loan
    have hloan := h _ rfl
    cases received with
    | none => cases input <;> rfl
    | some reply =>
      obtain rfl : input = none := hloan.resolve_right nofun
      simp only [finishItem]
      split <;> rfl

theorem RowsSound.loans (h : RowsSound items) :
    ∀ row ∈ items, ∀ loan, row = .interpreting loan →
      loan.input = none ∨ loan.received = none := by
  have horiginal : ∀ (items : List T.Item) (row : ItemProgress T), row ∈ items.map .original →
      ∀ loan, row = .interpreting loan → loan.input = none ∨ loan.received = none := by
    intro items row hrow loan heq
    obtain ⟨item, -, rfl⟩ := List.mem_map.mp hrow
    cases heq
  induction h with
  | untouched items => exact horiginal items
  | done received hsound hrest ih =>
    intro row hrow loan heq
    rcases List.mem_cons.mp hrow with rfl | hrow
    · cases heq
    · exact ih row hrow loan heq
  | corrupt received hcorrupt items =>
    intro row hrow loan heq
    rcases List.mem_cons.mp hrow with rfl | hrow
    · cases heq
    · exact horiginal items row hrow loan heq
  | loaned held hloan items =>
    intro row hrow loan heq
    rcases List.mem_cons.mp hrow with rfl | hrow
    · cases heq
      exact hloan
    · exact horiginal items row hrow loan heq

/-- Finishing the rows changes no slot. -/
theorem RowsSound.slots_finish (h : RowsSound items) :
    (items.map finishItem).map itemSlot = items.map itemSlot := by
  rw [List.map_map]
  exact List.map_congr_left fun row hrow => finishItem_slot (h.loans row hrow)

/-- Rows that are finished are in progress still. -/
theorem rowsSound_append {done : List (Reply T)} (hdone : ∀ reply ∈ done, reply.isCorrupt = false)
    {tail} (htail : RowsSound tail) :
    RowsSound (done.map (fun reply => .completed (.complete reply)) ++ tail) := by
  induction done with
  | nil => exact htail
  | cons reply done ih =>
    exact .done reply (hdone reply List.mem_cons_self)
      (ih fun other hother => hdone other (List.mem_cons_of_mem _ hother))

theorem verdict_done {done : List (Reply T)} (hdone : ∀ reply ∈ done, reply.isCorrupt = false)
    (tail : List (ItemProgress T)) :
    verdict Answer.isCorrupt
        ((done.map (fun reply => (.completed (.complete reply) : ItemProgress T)) ++ tail).map
          itemSlot) =
      verdict Answer.isCorrupt (tail.map itemSlot) := by
  induction done with
  | nil => rfl
  | cons reply done ih =>
    have hsound := hdone reply List.mem_cons_self
    simp only [List.map_cons, List.cons_append, itemSlot, Interpretation.settlement, verdict,
      Answer.isCorrupt, hsound, Bool.false_eq_true, if_false]
    exact ih fun other hother => hdone other (List.mem_cons_of_mem _ hother)

/-- Answers of which none is corrupt, as rows. -/
theorem done_sound {done : List (Reply T)} (row : ItemProgress T)
    (hrow : row ∈ done.map fun reply => (.completed (.complete reply) : ItemProgress T)) :
    isCorruptRow row = false := by
  obtain ⟨reply, -, rfl⟩ := List.mem_map.mp hrow
  rfl

theorem done_completed (done : List (Reply T)) :
    (done.map fun reply => (.completed (.complete reply) : ItemProgress T)).all isCompletedRow =
      true := by
  rw [List.all_map, List.all_eq_true]
  exact fun _ _ => rfl

theorem rest_original (rest : List T.Item) :
    (rest.map InterpretationProgress.original : List (ItemProgress T)).all isOriginalRow = true := by
  rw [List.all_map, List.all_eq_true]
  exact fun _ _ => rfl

theorem rest_sound {rest : List T.Item} (row : ItemProgress T)
    (hrow : row ∈ rest.map InterpretationProgress.original) : isCorruptRow row = false := by
  obtain ⟨item, -, rfl⟩ := List.mem_map.mp hrow
  rfl

theorem done_settled (done : List (Reply T)) (tail : List (ItemProgress T)) :
    ((done.map fun reply => (.completed (.complete reply) : ItemProgress T)) ++ tail).filterMap
        settledRow = done.map .attempted ++ tail.filterMap settledRow := by
  induction done with
  | nil => rfl
  | cons reply done ih =>
    simp only [List.map_cons, List.cons_append, List.filterMap_cons, settledRow, ih,
      Interpretation.settlement]

theorem rest_settled (rest : List T.Item) :
    (rest.map InterpretationProgress.original : List (ItemProgress T)).filterMap settledRow =
      rest.map .unattempted := by
  induction rest with
  | nil => rfl
  | cons item rest ih => simp only [List.map_cons, List.filterMap_cons, settledRow, ih]

/-- **Finishing a lane settles it if every row up to a corrupt one has a reply**, and leaves it in
progress otherwise. -/
theorem finishItemRows_spec (h : RowsSound items) :
    match verdict Answer.isCorrupt (items.map itemSlot) with
    | .through => ∃ settled, finishItemRows items = .inr (.complete settled) ∧
        settled.map resultSlot = items.map itemSlot ∧ settled.length = items.length
    | .corrupt => ∃ settled, finishItemRows items = .inr (.corrupt settled) ∧
        settled.map resultSlot = items.map itemSlot ∧ settled.length = items.length
    | _ => ∃ items', finishItemRows items = .inl items' ∧
        items'.map itemSlot = items.map itemSlot ∧ RowsSound items' ∧
          items'.length = items.length := by
  have hslots := h.slots_finish
  have hlength : (items.map finishItem).length = items.length := List.length_map _
  obtain ⟨done, tail, heq, hdone, htail⟩ := h.finished
  rw [← hslots, heq, verdict_done hdone]
  rw [heq] at hlength
  rcases htail with rfl | ⟨reply, rest, hcorrupt, rfl⟩ | ⟨item, rest, rfl⟩ |
    ⟨loan, rest, hreceived, rfl⟩
  · have hcomplete : isComplete (items.map finishItem) = true := by
      rw [heq, List.append_nil]
      exact (settledRows_through isOriginalRow isCompletedRow done_sound).trans
        (done_completed done)
    refine ⟨done.map .attempted, ?_, ?_, by simpa using hlength⟩
    · unfold finishItemRows
      rw [if_pos hcomplete, heq, done_settled, List.append_nil, if_neg]
      · simp
      · rw [Bool.not_eq_true, List.any_eq_false]
        exact fun row hrow => by rw [done_sound row hrow]; exact Bool.false_ne_true
    · simp [resultSlot, itemSlot, Interpretation.settlement]
  · have hrow : isCorruptRow (.completed (.corrupt reply) : ItemProgress T) = true := rfl
    have hcomplete : isComplete (items.map finishItem) = true := by
      rw [heq]
      refine (settledRows_corrupt isOriginalRow isCompletedRow done_sound hrow _).trans ?_
      rw [done_completed, rest_original]
      rfl
    have hverdict : verdict Answer.isCorrupt
        ((.completed (.corrupt reply) :: rest.map .original : List (ItemProgress T)).map itemSlot) =
        .corrupt := by
      simp only [List.map_cons, itemSlot, Interpretation.settlement, verdict, Answer.isCorrupt,
        hcorrupt, if_true]
    rw [hverdict]
    refine ⟨done.map .attempted ++ .attempted reply :: rest.map .unattempted, ?_, ?_, ?_⟩
    · unfold finishItemRows
      rw [if_pos hcomplete, heq, done_settled, if_pos]
      · rw [List.filterMap_cons_some (by rfl), rest_settled]
        rfl
      · rw [List.any_append, List.any_cons, hrow]
        simp
    · simp [resultSlot, itemSlot, Interpretation.settlement]
      rfl
    · simpa using hlength
  · have hcomplete : isComplete (items.map finishItem) = false := by
      rw [heq]
      refine (settledRows_through isOriginalRow isCompletedRow ?_).trans ?_
      · intro row hrow
        rcases List.mem_append.mp hrow with hrow | hrow
        · exact done_sound row hrow
        · have hmem : row ∈ (item :: rest).map InterpretationProgress.original := hrow
          exact rest_sound row hmem
      · simp [isCompletedRow]
    have hverdict : verdict Answer.isCorrupt
        ((.original item :: rest.map .original : List (ItemProgress T)).map itemSlot) = .stuck := rfl
    rw [hverdict]
    refine ⟨items.map finishItem, ?_, by rw [heq], ?_, by rw [heq]; exact hlength⟩
    · unfold finishItemRows
      rw [if_neg (by rw [hcomplete]; exact Bool.false_ne_true)]
    · rw [heq]
      exact rowsSound_append hdone (.untouched (item :: rest))
  · have hcomplete : isComplete (items.map finishItem) = false := by
      rw [heq]
      refine (settledRows_through isOriginalRow isCompletedRow ?_).trans ?_
      · intro row hrow
        rcases List.mem_append.mp hrow with hrow | hrow
        · exact done_sound row hrow
        · rcases List.mem_cons.mp hrow with rfl | hrow
          · rfl
          · exact rest_sound row hrow
      · simp [isCompletedRow]
    have hverdict : verdict Answer.isCorrupt
        ((.interpreting loan :: rest.map .original : List (ItemProgress T)).map itemSlot) =
        .stuck := by
      obtain ⟨input, received⟩ := loan
      cases hreceived
      cases input <;> rfl
    rw [hverdict]
    refine ⟨items.map finishItem, ?_, by rw [heq], ?_, by rw [heq]; exact hlength⟩
    · unfold finishItemRows
      rw [if_neg (by rw [hcomplete]; exact Bool.false_ne_true)]
    · rw [heq]
      exact rowsSound_append hdone (.loaned loan (.inr hreceived) rest)

end Bombay.Effects
