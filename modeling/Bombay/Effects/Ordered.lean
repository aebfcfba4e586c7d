/-
# Interpretation is ordered and stops at the first corruption

`Actions::interpret` of `crates/behavior/src/effects/actions.rs`, run without interruption
under an interpreter that takes each input and leaves one reply (`Total`): the interpreter is
invoked for the batch, the routed creations and the rows of the sends in turn, up to a
corrupt reply, and each is settled at its position (`interpret_ordered`).
-/

import Bombay.Effects.Interpretation

namespace Bombay.Effects

open Sweep

variable {T : ActionTypes} {σ : Type}

/-- **An interpreter that takes each input that it is offered and leaves one reply**; a routing that
it accepts holds the creations of the batch, in batch order. -/
structure Interpreter.Total (interpreter : Interpreter T σ) (creation : T.Routed → T.Create) :
    Prop where
  item : ∀ state item, ∃ state' reply,
    interpreter.interpretItem state ⟨some item, none⟩ = (state', ⟨none, some reply⟩, .ready)
  batch : ∀ state creations, ∃ state' reply,
    interpreter.interpretCreations state ⟨some creations, none⟩ =
      (state', ⟨none, some reply⟩, .ready)
  birth : ∀ state routed, ∃ state' reply,
    interpreter.dispatchBirth state routed = (state', some reply)
  routes : ∀ state creations routed,
    (interpreter.interpretCreations state ⟨some creations, none⟩).2.1.received =
      some (.accepted routed) → routed.map creation = creations

/-- The creation batch, if there is one. -/
def Creates.batch : Creates T → Option (List T.Create)
  | .noBirths => none
  | .births creations => some creations
  | .retirement creations => some creations

/-- What the interpreter makes of a creation batch: its state, and its reply. -/
def Interpreter.route (interpreter : Interpreter T σ) (state : σ) (creates : Creates T) :
    σ × Option (RoutingReply T) :=
  match creates.batch with
  | none => (state, none)
  | some creations =>
    let (state, loan, _) := interpreter.interpretCreations state ⟨some creations, none⟩
    (state, loan.received)

/-- The creations that a reply to the batch routes. -/
def routedBy : Option (RoutingReply T) → List T.Routed
  | some (.accepted routed) => routed
  | _ => []

/-- The reply to the batch is corrupt. -/
def corruptRouting : Option (RoutingReply T) → Bool
  | some reply => reply.isCorrupt
  | none => false

/-- **What is offered after the batch**: the routed creations in batch order, and then the rows of the
sends, inner to outer and in authored order within a lane. -/
def offers (routing : Option (RoutingReply T)) (sends : Lanes T.Item) : List (Offer T) :=
  (routedBy routing).map .birth ++ sends.rows.map .item

/-- **How a batch is settled**, given the reply to it. -/
def SettledBy (routing : Option (RoutingReply T)) (settlement : CreationSettlement T) : Prop :=
  match routing with
  | some (.accepted routed) =>
    ∃ settlements, settlement = .settled settlements ∧ settlements.length = routed.length
  | some (.rejected creations _) => settlement = .rejected creations
  | some (.corrupt creations fault) => settlement = .corrupt creations fault
  | some (.blocked _ prerequisite) => prerequisite.elim
  | none => settlement = .settled []

theorem Interpreter.Total.lawful {interpreter : Interpreter T σ} {creation}
    (h : interpreter.Total creation) : interpreter.Lawful := by
  constructor
  · intro state item
    obtain ⟨state', reply, heq⟩ := h.item state item
    exact .inr (by rw [heq])
  · intro state creations
    obtain ⟨state', reply, heq⟩ := h.batch state creations
    exact .inr (by rw [heq])

theorem Interpreter.Total.attempt {interpreter : Interpreter T σ} {creation}
    (h : interpreter.Total creation) (state : σ) (offer : Offer T) :
    ∃ state' reply, interpreter.attempt state offer = (state', .replied reply, .ready) := by
  cases offer with
  | birth routed =>
    obtain ⟨state', reply, heq⟩ := h.birth state routed
    exact ⟨state', .birth reply, by simp only [Interpreter.attempt, heq]⟩
  | item item =>
    obtain ⟨state', reply, heq⟩ := h.item state item
    exact ⟨state', .item reply, by simp only [Interpreter.attempt, heq, loanSlot]⟩

namespace ActionsProgress

/-- **Interpreting untouched actions**, where the batch is replied to: what is offered after it is swept
if its reply is not corrupt. -/
theorem interpret_original {interpreter} (hlawful : interpreter.Lawful) (actions : Actions T)
    (state : σ)
    (hreplied : ∀ creations, actions.creates.batch = some creations → ∃ state' reply,
      interpreter.interpretCreations state ⟨some creations, none⟩ =
        (state', ⟨none, some reply⟩, .ready)) :
    let routing := interpreter.route state actions.creates
    ∃ base : BirthsProgress T,
      Follows (actions.creates.batch.toList.map fun creations => .batch ⟨some creations, none⟩)
        (interpret interpreter (.original actions) state) actions.view base
        (gate interpreter.attempt Answer.isCorrupt base.batch routing.1
          ((offers routing.2 actions.sends).map .untouched)) ∧
      base.batch = (if corruptRouting routing.2 then .corrupt else .through) ∧
      base.From ⟨none, some (routing.2.getD (.accepted []))⟩ := by
  intro routing
  obtain ⟨sends, creates, become⟩ := actions
  have hbirths : ∀ creations, creates.batch = some creations →
      offering (.original ⟨sends, creates, become⟩) = some ⟨some creations, none⟩ →
      ∃ base : BirthsProgress T,
        Follows (creates.batch.toList.map fun creations => .batch ⟨some creations, none⟩)
          (interpret interpreter (.original ⟨sends, creates, become⟩) state)
          (Actions.view ⟨sends, creates, become⟩) base
          (gate interpreter.attempt Answer.isCorrupt base.batch routing.1
            ((offers routing.2 sends).map .untouched)) ∧
        base.batch = (if corruptRouting routing.2 then .corrupt else .through) ∧
        base.From ⟨none, some (routing.2.getD (.accepted []))⟩ := by
    intro creations hbatch hoffering
    obtain ⟨state', reply, hroute⟩ := hreplied creations hbatch
    have hrouting : routing = (state', some reply) := by
      simp only [routing, Interpreter.route, hbatch, hroute]
    have hoffers := interpret_offers hlawful (.original _) hoffering state
    rw [hroute] at hoffers
    rw [hrouting, hbatch]
    refine ⟨.interpreting (.routing ⟨none, some reply⟩), ?_, rfl, .routing⟩
    have hslots : BirthsProgress.children (.interpreting (.routing ⟨none, some reply⟩)) ++
        slots (.original ⟨sends, creates, become⟩) = (offers (some reply) sends).map .untouched := by
      cases reply with
      | accepted routed | rejected item reason | corrupt item fault =>
        simp only [BirthsProgress.children, slots, offers, routedBy, List.map_append, List.map_map]
        rfl
      | blocked item prerequisite => exact prerequisite.elim
    rw [← hslots]
    exact hoffers
  cases creates with
  | births creations | retirement creations => exact hbirths creations rfl rfl
  | noBirths =>
    have hfollows := interpret_follows hlawful (.original ⟨sends, .noBirths, become⟩) rfl state
    refine ⟨_, ?_, rfl, .completed _ rfl (.complete (.settled [])) (.settled [] rfl [])⟩
    have hslots : slots (.original ⟨sends, .noBirths, become⟩) =
        (offers (none : Option (RoutingReply T)) sends).map .untouched := by
      simp only [slots, offers, routedBy, List.map_append, List.map_map]
      rfl
    exact hslots ▸ hfollows

/-- A batch whose children are those that were routed is settled by the reply to it. -/
theorem settledBy_of_from {routing : Option (RoutingReply T)} {settlement : CreationSettlement T}
    (hfrom : settlement.From (routing.getD (.accepted [])))
    (hlength : settlement.slots.length = (routedBy routing).length) :
    SettledBy routing settlement := by
  cases routing with
  | none =>
    cases hfrom with
    | settled routed hreply settlements =>
      rw [CreationSettlement.slots, List.length_map] at hlength
      rw [List.length_eq_zero_iff.mp hlength]
      rfl
    | rejected creations hreply => cases hreply
    | corrupt creations fault hreply => cases hreply
  | some reply =>
    cases hfrom with
    | settled routed hreply settlements =>
      obtain rfl : reply = .accepted routed := hreply
      rw [CreationSettlement.slots, List.length_map] at hlength
      exact ⟨settlements, rfl, hlength⟩
    | rejected creations hreply =>
      obtain rfl : reply = .rejected creations () := hreply
      rfl
    | corrupt creations fault hreply =>
      obtain rfl : reply = .corrupt creations fault := hreply
      rfl

/-- The answers to what is offered after the batch: none if the reply to the batch is corrupt. -/
def answers (interpreter : Interpreter T σ) (actions : Actions T) (state : σ) : List (Answer T) :=
  let routing := interpreter.route state actions.creates
  if corruptRouting routing.2 then []
  else replies interpreter.attempt Answer.isCorrupt routing.1 (offers routing.2 actions.sends)

/-- **Action interpretation is ordered, lossless and stops at the first corruption.**  Without
interruption `Actions::interpret` ends completed.  The interpreter is invoked for the batch, then for
the routed creations in batch order, then for the rows, inner to outer and in authored order, up to a
corrupt reply and for nothing after it.  The settlement has the shape of the actions, holds each reply
at the position of what it answers and the rest unchanged, keeps `become`, and is corrupt if and only
if a reply is. -/
theorem interpret_ordered {interpreter : Interpreter T σ} {creation : T.Routed → T.Create}
    (htotal : interpreter.Total creation) (actions : Actions T) (state : σ) :
    let ran := interpret interpreter (.original actions) state
    let routing := (interpreter.route state actions.creates).2
    let offered := offers routing actions.sends
    let answered := answers interpreter actions state
    ran.poll = .ready ∧
    ran.calls = (actions.creates.batch.toList.map fun creations => .batch ⟨some creations, none⟩) ++
      (offered.take answered.length).map Offer.call ∧
    (∀ creations, actions.creates.batch = some creations → ∀ routed,
      routing = some (.accepted routed) → routed.map creation = creations) ∧
    answered.length ≤ offered.length ∧
    (∀ answer ∈ answered.dropLast, answer.isCorrupt = false) ∧
    ((corruptRouting routing || answered.any Answer.isCorrupt) = false →
      answered.length = offered.length) ∧
    ∃ settlement,
      ran.progress = .completed
        (if corruptRouting routing || answered.any Answer.isCorrupt then .corrupt settlement
        else .complete settlement) ∧
      settlement.view = actions.view ∧ SettledBy routing settlement.creations.base ∧
      settlement.slots = answered.map .replied ++ (offered.drop answered.length).map .untouched := by
  intro ran routing offered answered
  obtain ⟨base, hran, hbatch, hfrom⟩ := interpret_original htotal.lawful actions state
    fun creations _ => htotal.batch state creations
  have hroutes : ∀ creations, actions.creates.batch = some creations → ∀ routed,
      routing = some (.accepted routed) → routed.map creation = creations := by
    intro creations hcreations routed hrouted
    refine htotal.routes state creations routed ?_
    rw [← hrouted]
    simp only [routing, Interpreter.route, hcreations]
  obtain ⟨hslots, hattempts, hhalt, hstanding, hle, hlast, hall⟩ :=
    gate_answered interpreter.attempt Answer.isCorrupt htotal.attempt (corruptRouting routing)
      (interpreter.route state actions.creates).1 offered
  have hanswered : (if corruptRouting routing then []
      else replies interpreter.attempt Answer.isCorrupt (interpreter.route state actions.creates).1
        offered) = answered := rfl
  rw [hanswered] at hslots hattempts hhalt hle hlast hall
  rw [← hbatch] at hslots hattempts hhalt hstanding
  have hready : ran.poll = .ready := by
    rw [show ran.poll = _ from hran.poll, hhalt]
    cases corruptRouting routing || answered.any Answer.isCorrupt <;> rfl
  have hstands : ran.progress.standing =
      if corruptRouting routing || answered.any Answer.isCorrupt then .corrupt else .through := by
    rw [standing, hran.batch, hran.slots, ← hhalt]
    exact hstanding
  refine ⟨hready, ?_, hroutes, hle, hlast, hall, ?_⟩
  · rw [hran.calls, hattempts]
  · have hclosed := hran.closed hready
    unfold Closed at hclosed
    have hcompleted : ∃ settlement, ran.progress = .completed
        (if corruptRouting routing || answered.any Answer.isCorrupt then .corrupt settlement
        else .complete settlement) := by
      rw [hstands] at hclosed
      cases hcorrupt : corruptRouting routing || answered.any Answer.isCorrupt <;>
        rw [hcorrupt] at hclosed <;> exact hclosed
    obtain ⟨settlement, hprogress⟩ := hcompleted
    have hsettlement : (if corruptRouting routing || answered.any Answer.isCorrupt then
        Interpretation.corrupt settlement else .complete settlement).settlement = settlement := by
      split <;> rfl
    have hview : settlement.view = actions.view := by
      rw [← hran.view, show interpret interpreter (.original actions) state = ran from rfl,
        hprogress, view, hsettlement]
    have hslots' : settlement.slots =
        answered.map .replied ++ (offered.drop answered.length).map .untouched := by
      rw [← hsettlement]
      refine Eq.trans ?_ hslots
      rw [← hran.slots, show interpret interpreter (.original actions) state = ran from rfl,
        hprogress]
      rfl
    have hfrom' : settlement.creations.base.From (routing.getD (.accepted [])) := by
      have := hran.origin _ hfrom
      rw [show interpret interpreter (.original actions) state = ran from rfl, hprogress,
        ActionsProgress.base, hsettlement] at this
      cases this with
      | completed reply hreply received hreceived =>
        cases hreply
        exact hreceived
    refine ⟨settlement, hprogress, hview, settledBy_of_from hfrom' ?_, hslots'⟩
    -- The shape of the sends tells how many of the slots are those of the children.
    have hrows : settlement.sends.rows.length = actions.sends.rows.length :=
      Lanes.rows_length_of_shape (congrArg View.shape hview)
    have hlength := congrArg List.length hslots'
    simp only [ActionSettlement.slots, offered, offers, List.length_append, List.length_map,
      List.length_drop] at hlength hle
    omega

/-- Actions whose items and creations are numbers. -/
abbrev Numbers : ActionTypes := ⟨ℕ, Unit, Unit, Unit, ℕ, ℕ, Unit, Unit⟩

/-- An interpreter that accepts item 0, rejects item 1 and answers every other one as corrupt; it
routes each creation as itself. -/
def grader : Interpreter Numbers Unit where
  interpretItem _ loan := ((), ⟨none, loan.input.map fun
    | 0 => .accepted ()
    | 1 => .rejected 1 ()
    | item => .corrupt item .missingCapability⟩, .ready)
  interpretCreations _ loan := ((), ⟨none, loan.input.map .accepted⟩, .ready)
  dispatchBirth _ _ := ((), some (.accepted ()))

theorem grader_total : grader.Total id where
  item := fun _ _ => ⟨(), _, rfl⟩
  batch := fun _ _ => ⟨(), _, rfl⟩
  birth := fun _ _ => ⟨(), _, rfl⟩
  routes := by
    rintro _ creations routed ⟨⟩
    exact List.map_id creations

/-- One creation, and items in two layers: the corrupt one keeps the item of the outer layer from
being attempted. -/
theorem interpret_ordered_layers :
    (interpret grader (.original ⟨.layer (.lane .vec [0]) (.layer (.lane .interpreterRequests [1, 2])
      .noSends), .births [7], ()⟩) ()).calls =
      [.batch ⟨some [7], none⟩, .birth 7, .item ⟨some 1, none⟩, .item ⟨some 2, none⟩] :=
  (interpret_ordered grader_total _ ()).2.1.trans rfl

end ActionsProgress

end Bombay.Effects
