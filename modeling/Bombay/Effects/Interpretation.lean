/-
# Actions are interpreted as one sweep

`Actions::interpret` goes through the creations and then through the sends.  Once the batch has
its reply, that is one sweep over the routed creations and the rows of the sends
(`interpret_follows`), wherever earlier calls have left them.
-/

import Bombay.Effects.Creation

namespace Bombay.Effects

open Sweep

variable {T : ActionTypes} {σ : Type}

/-! ### Birth modes -/

/-- The birth modes. -/
inductive Mode where
  | noBirths
  | births
  | retirement
  deriving DecidableEq, Repr

/-- The settlement of a batch, in a birth mode. -/
def Mode.wrap : Mode → CreationSettlement T → CreatesSettlement T
  | noBirths, _ => .noBirths
  | births, settlement => .births settlement
  | retirement, settlement => .retirement ⟨settlement⟩

namespace CreatesSettlement

/-- The birth mode of a settlement. -/
def mode : CreatesSettlement T → Mode
  | noBirths => .noBirths
  | births _ => .births
  | retirement _ => .retirement

/-- **The settlement under a birth mode**; without births no child is settled. -/
def base : CreatesSettlement T → CreationSettlement T
  | noBirths => .settled []
  | births settlement => settlement
  | retirement settlement => settlement.settlement

theorem base_wrap {mode : Mode} {settlement : CreationSettlement T}
    (h : mode = .noBirths → settlement = .settled []) : (mode.wrap settlement).base = settlement := by
  cases mode with
  | noBirths => exact (h rfl).symm
  | births => rfl
  | retirement => rfl

theorem mode_wrap (mode : Mode) (settlement : CreationSettlement T) :
    (mode.wrap settlement).mode = mode := by
  cases mode <;> rfl

end CreatesSettlement

namespace CreatesProgress

/-- The birth mode of a batch. -/
def mode : CreatesProgress T → Mode
  | noBirths _ => .noBirths
  | births _ => .births
  | retirement _ => .retirement

/-- **The batch under a birth mode**; without births it is one that has no child. -/
def base : CreatesProgress T → BirthsProgress T
  | noBirths _ => .completed (.complete (.settled []))
  | births progress => progress
  | retirement (.original creations) => .original creations
  | retirement (.interpreting progress) => progress
  | retirement (.completed received) => .completed (received.map (·.settlement))

/-- A batch in progress; without births there is nothing to be corrupt. -/
def Sound (progress : CreatesProgress T) : Prop :=
  progress.base.Sound ∧
    ∀ received, progress = noBirths (.completed received) → received = .complete ()

theorem map_settlement (received : Interpretation (CreationSettlement T)) :
    (received.map RetirementCreationSettlement.mk).map (·.settlement) = received := by
  cases received <;> rfl

/-- **Finishing a batch that is closed**: it keeps its children, and its settlement is that of the
batch under its birth mode. -/
theorem finish_spec (progress : CreatesProgress T) (h : progress.Sound)
    (hclosed : progress.base.Closed) :
    BirthsProgress.Keeps progress.base progress.finish.base ∧ progress.finish.base.Closed ∧
      progress.finish.mode = progress.mode ∧ progress.finish.Sound ∧
      progress.finish.completed =
        match progress.finish.base with
        | .completed received => some (received.map progress.mode.wrap)
        | _ => none := by
  obtain ⟨hsound, hnoBirths⟩ := h
  cases progress with
  | noBirths progress =>
    cases progress with
    | original =>
      exact ⟨.refl hsound, hclosed, rfl, ⟨hsound, by rintro _ ⟨⟩; rfl⟩, rfl⟩
    | interpreting custody => exact custody.elim
    | completed received =>
      obtain rfl := hnoBirths received rfl
      exact ⟨.refl hsound, hclosed, rfl, ⟨hsound, hnoBirths⟩, rfl⟩
  | births progress =>
    obtain ⟨hkeeps, hclosed'⟩ := BirthsProgress.finish_keeps hsound
    refine ⟨hkeeps, hclosed', rfl, ⟨hkeeps.sound, nofun⟩, ?_⟩
    change completed (births progress.finish) = _
    cases hfinish : progress.finish with
    | original creations | interpreting custody => simp only [finish, completed, base, hfinish]
    | completed received => simp only [finish, completed, base, hfinish, mode]; rfl
  | retirement progress =>
    cases progress with
    | original creations => exact ⟨.refl hsound, hclosed, rfl, ⟨hsound, nofun⟩, rfl⟩
    | completed received =>
      refine ⟨.refl hsound, hclosed, rfl, ⟨hsound, nofun⟩, ?_⟩
      cases received <;> rfl
    | interpreting progress =>
      cases progress with
      | original creations | interpreting custody =>
        exact ⟨.refl hsound, hclosed, rfl, ⟨hsound, nofun⟩, rfl⟩
      | completed received =>
        have hbase : (finish (retirement (.interpreting (.completed received)))).base =
            .completed received :=
          congrArg InterpretationProgress.completed (map_settlement received)
        rw [hbase]
        refine ⟨.refl hsound, hclosed, rfl, ⟨by rw [hbase]; exact hsound, nofun⟩, ?_⟩
        cases received <;> rfl

/-- **What going through a batch in its birth mode does to the batch.** -/
structure Follows (before : List (Call T)) (ran : Ran T σ (CreatesProgress T)) (mode : Mode)
    (base : BirthsProgress T) (swept : Swept σ (Offer T) (Answer T)) : Prop where
  children : ran.progress.base.children = swept.slots
  state : ran.state = swept.state
  calls : ran.calls = before ++ swept.attempts.map Offer.call
  poll : ran.poll = poll swept.halt
  batch : ran.progress.base.batch = base.batch
  mode : ran.progress.mode = mode
  sound : ran.progress.Sound
  origin : ∀ loan, BirthsProgress.From loan base → BirthsProgress.From loan ran.progress.base
  halt : ran.poll = .ready → ran.progress.base.standing = swept.halt
  closed : ran.poll = .ready → ran.progress.base.Closed

variable {progress : CreatesProgress T}

/-- A batch in its birth mode is gone through as the batch is. -/
theorem interpret_base (interpreter : Interpreter T σ) (h : progress.Sound)
    {before base state swept}
    (hrun : BirthsProgress.Follows before (progress.base.interpret interpreter state) base swept) :
    Follows before (progress.interpret interpreter state) progress.mode base swept := by
  obtain ⟨h1, h2, h3, h4, h5, h6, h7, h8, h9⟩ := hrun
  obtain ⟨hsound, hnoBirths⟩ := h
  -- `RetirementBirths` finishes the batch below it once more.
  have hretirement : ∀ inner : BirthsProgress T, inner.interpret interpreter state =
      progress.base.interpret interpreter state → progress.mode = .retirement →
      Follows before (interpret.interpretBase interpreter state inner) progress.mode base swept := by
    intro inner hinner hmode
    rw [← hinner] at h1 h2 h3 h4 h5 h6 h7 h8 h9
    cases hready : (inner.interpret interpreter state).poll with
    | abandoned =>
      have hrun : interpret.interpretBase interpreter state inner =
          { inner.interpret interpreter state with
            progress := retirement (.interpreting (inner.interpret interpreter state).progress) } := by
        simp only [interpret.interpretBase, hready]
      rw [hrun]
      exact ⟨h1, h2, h3, h4, h5, hmode.symm, ⟨h6, nofun⟩, h7, h8, h9⟩
    | ready =>
      have hrun : interpret.interpretBase interpreter state inner =
          { inner.interpret interpreter state with
            progress := finish (retirement
              (.interpreting (inner.interpret interpreter state).progress.finish)) } := by
        simp only [interpret.interpretBase, hready]
      obtain ⟨hkeeps, hclosed⟩ := BirthsProgress.finish_keeps h6
      obtain ⟨hkeeps', hclosed', hmode', hsound', -⟩ := finish_spec (retirement
        (.interpreting (inner.interpret interpreter state).progress.finish))
        ⟨hkeeps.sound, nofun⟩ hclosed
      have hboth := hkeeps.trans hkeeps'
      rw [hrun]
      exact ⟨hboth.children.trans h1, h2, h3, h4, hboth.batch.trans h5, hmode'.trans hmode.symm,
        hsound', fun loan h => hboth.origin loan (h7 loan h),
        fun h => hboth.standing.trans (h8 h), fun _ => hclosed'⟩
  cases progress with
  | noBirths progress =>
    cases progress with
    | original => exact ⟨h1, h2, h3, h4, h5, rfl, ⟨hsound, by rintro _ ⟨⟩; rfl⟩, h7, h8, h9⟩
    | interpreting custody => exact custody.elim
    | completed received => exact ⟨h1, h2, h3, h4, h5, rfl, ⟨hsound, hnoBirths⟩, h7, h8, h9⟩
  | births progress => exact ⟨h1, h2, h3, h4, h5, rfl, ⟨h6, nofun⟩, h7, h8, h9⟩
  | retirement progress =>
    cases progress with
    | original creations | interpreting inner => exact hretirement _ rfl rfl
    | completed received => exact ⟨h1, h2, h3, h4, h5, rfl, ⟨hsound, nofun⟩, h7, h8, h9⟩

/-- The invocations and the interpreter's state that an offer of the batch leaves, and how the sweep
goes on from there. -/
def offered (interpreter : Interpreter T σ) (state : σ)
    (loan : Loan (List T.Create) (RoutingReply T)) :
    BirthsProgress T × Swept σ (Offer T) (Answer T) :=
  let (state, routed, poll) := interpreter.interpretCreations state loan
  let base : BirthsProgress T := .interpreting (.routing routed)
  match poll with
  | .abandoned => (base, ⟨base.children, state, [], .abandoned⟩)
  | .ready => (base, base.swept interpreter state)

/-- **A batch that is on offer**: the routing loan is passed to the interpreter, whatever it holds. -/
def offering (progress : CreatesProgress T) : Option (Loan (List T.Create) (RoutingReply T)) :=
  match progress.base.prepare with
  | .interpreting (.routing loan) => some loan
  | _ => none

/-- A batch on offer that has no reply is stuck, and no child of it is known. -/
theorem offering_stuck {loan} (hoffering : progress.offering = some loan)
    (hreceived : loan.received = none) :
    progress.base.standing = .stuck ∧ progress.base.children = [] := by
  unfold offering at hoffering
  cases hbase : progress.base with
  | original creations => exact ⟨rfl, rfl⟩
  | completed received =>
    rw [hbase] at hoffering
    cases hoffering
  | interpreting custody =>
    rw [hbase] at hoffering
    cases custody with
    | children rows => cases hoffering
    | routing held =>
      obtain ⟨input, received⟩ := held
      cases hoffering
      cases hreceived
      cases input <;> exact ⟨rfl, rfl⟩

/-- **Going through a batch that has its reply** is the sweep it is up for. -/
theorem interpret_routed (interpreter : Interpreter T σ)
    (h : progress.Sound) (hoffering : progress.offering = none) (state : σ) :
    Follows [] (progress.interpret interpreter state) progress.mode progress.base
      (progress.base.swept interpreter state) := by
  refine interpret_base interpreter h ?_
  have hrun : progress.base.interpret interpreter state =
      BirthsProgress.interpretRouted interpreter progress.base state := by
    unfold offering at hoffering
    cases hbase : progress.base with
    | original creations =>
      rw [hbase] at hoffering
      cases hoffering
    | completed received => rfl
    | interpreting custody =>
      cases custody with
      | children rows => rfl
      | routing loan =>
        rw [hbase] at hoffering
        cases hoffering
  rw [hrun]
  exact BirthsProgress.interpretRouted_follows interpreter h.1 state

/-- **Offering a batch**: one invocation, and what goes on from what it leaves. -/
theorem interpret_offering (interpreter : Interpreter T σ) (h : progress.Sound) {loan}
    (hoffering : progress.offering = some loan) (state : σ)
    (hlawful : (interpreter.interpretCreations state loan).2.1.input = none ∨
      (interpreter.interpretCreations state loan).2.1.received = none) :
    Follows [.batch loan] (progress.interpret interpreter state) progress.mode
      (offered interpreter state loan).1 (offered interpreter state loan).2 := by
  refine interpret_base interpreter h ?_
  have hprepare : progress.base.prepare = .interpreting (.routing loan) := by
    unfold offering at hoffering
    split at hoffering
    · cases hoffering
      assumption
    · cases hoffering
  rcases hroute : interpreter.interpretCreations state loan with ⟨state', routed, polled⟩
  rw [hroute] at hlawful
  have hsound : BirthsProgress.Sound (.interpreting (.routing routed) : BirthsProgress T) :=
    .routing routed hlawful
  cases polled with
  | abandoned =>
    have hrun : progress.base.interpret interpreter state =
        ⟨.interpreting (.routing routed), state', [.batch loan], .abandoned⟩ := by
      simp only [BirthsProgress.interpret, hprepare, hroute]
    rw [hrun]
    simp only [offered, hroute]
    exact ⟨rfl, rfl, rfl, rfl, rfl, hsound, fun _ h => h, nofun, nofun⟩
  | ready =>
    obtain ⟨h1, h2, h3, h4, h5, h6, h7, h8, h9⟩ :=
      BirthsProgress.interpretRouted_follows interpreter hsound state'
    have hrun : progress.base.interpret interpreter state =
        { BirthsProgress.interpretRouted interpreter (.interpreting (.routing routed)) state' with
          calls := .batch loan :: (BirthsProgress.interpretRouted interpreter
            (.interpreting (.routing routed)) state').calls } := by
      simp only [BirthsProgress.interpret, hprepare, hroute]
    rw [hrun]
    simp only [offered, hroute]
    refine ⟨h1, h2, ?_, h4, h5, h6, h7, h8, h9⟩
    rw [h3]
    rfl

/-- A batch without births has no child. -/
theorem base_noBirths (h : progress.mode = .noBirths) :
    progress.base = .completed (.complete (.settled [])) := by
  cases progress with
  | noBirths progress => rfl
  | births progress => cases h
  | retirement progress => cases h

end CreatesProgress

/-! ### Actions -/

/-- The birth mode of a batch that is untouched. -/
def Creates.mode : Creates T → Mode
  | .noBirths => .noBirths
  | .births _ => .births
  | .retirement _ => .retirement

namespace Lanes

variable {Row Row' : Type}

theorem shape_rows_length (lanes : Lanes Row) : lanes.shape.rows.length = lanes.rows.length := by
  induction lanes with
  | noSends => rfl
  | lane kind items => exact List.length_map _
  | layer owned inner ihowned ihinner =>
    simp only [shape, rows, List.length_append, ihowned, ihinner]

/-- Products of one shape have as many rows. -/
theorem rows_length_of_shape {lanes : Lanes Row} {lanes' : Lanes Row'}
    (h : lanes.shape = lanes'.shape) : lanes.rows.length = lanes'.rows.length := by
  rw [← shape_rows_length, h, shape_rows_length]

/-- **A product is known by its shape and its rows.** -/
theorem eq_of_shape {lanes lanes' : Lanes Row} (hshape : lanes.shape = lanes'.shape)
    (hrows : lanes.rows = lanes'.rows) : lanes = lanes' := by
  induction lanes generalizing lanes' with
  | noSends =>
    cases lanes' with
    | noSends => rfl
    | lane kind items => cases hshape
    | layer owned inner => cases hshape
  | lane kind items =>
    cases lanes' with
    | noSends => cases hshape
    | layer owned inner => cases hshape
    | lane kind' items' =>
      rw [shape, shape, Lanes.lane.injEq] at hshape
      rw [hshape.1, show items = items' from hrows]
  | layer owned inner ihowned ihinner =>
    cases lanes' with
    | noSends => cases hshape
    | lane kind items => cases hshape
    | layer owned' inner' =>
      rw [shape, shape, Lanes.layer.injEq] at hshape
      obtain ⟨hinner, howned⟩ :=
        List.append_inj hrows (rows_length_of_shape hshape.2)
      rw [ihowned hshape.1 howned, ihinner hshape.2 hinner]

end Lanes

/-- What interpreting actions does not change: the birth mode, the shape of the sends and `become`. -/
structure View (T : ActionTypes) where
  mode : Mode
  shape : Lanes Unit
  become : T.Become

/-- The view of actions. -/
def Actions.view (actions : Actions T) : View T :=
  ⟨actions.creates.mode, actions.sends.shape, actions.become⟩

namespace ActionSettlement

/-- The view of settled actions. -/
def view (settlement : ActionSettlement T) : View T :=
  ⟨settlement.creations.mode, settlement.sends.shape, settlement.become⟩

/-- **What is held for each routed creation and each row**, in the order of the traversal. -/
def slots (settlement : ActionSettlement T) : List (Slot (Offer T) (Answer T)) :=
  settlement.creations.base.slots ++ settlement.sends.rows.map resultSlot

end ActionSettlement

namespace ActionsProgress

/-- The view of actions in progress. -/
def view : ActionsProgress T → View T
  | .original actions => actions.view
  | .interpreting ((creates, sends), become) => ⟨creates.mode, sends.shape, become⟩
  | .completed received => received.settlement.view

/-- **What is held for each routed creation and each row**, in the order of the traversal. -/
def slots : ActionsProgress T → List (Slot (Offer T) (Answer T))
  | .original actions => actions.sends.rows.map freshSlot
  | .interpreting ((creates, sends), _) => creates.base.children ++ sends.slots
  | .completed received => received.settlement.slots

/-- The creation batch; once the actions are completed it is not told whether it was corrupt. -/
def base : ActionsProgress T → BirthsProgress T
  | .original actions => (CreatesProgress.original actions.creates).base
  | .interpreting ((creates, _), _) => creates.base
  | .completed received => .completed (.complete received.settlement.creations.base)

/-- **Where actions stand**: the batch, its children and the rows. -/
def standing (progress : ActionsProgress T) : Halt :=
  Sweep.standing Answer.isCorrupt progress.base.batch progress.slots

/-- The routing loan that a call offers to the interpreter. -/
def offering (progress : ActionsProgress T) : Option (Loan (List T.Create) (RoutingReply T)) :=
  match progress.prepare with
  | .interpreting ((creates, _), _) => creates.offering
  | _ => none

/-- **Actions in progress**: the sends are untouched until the creations are complete. -/
inductive Sound : ActionsProgress T → Prop
  | original (actions : Actions T) : Sound (.original actions)
  | interpreting {creates : CreatesProgress T} {sends : SendsProgress T} (become : T.Become)
      (hcreates : creates.Sound) (hsends : sends.Sound)
      (horder : creates.base.standing = .through ∨ ∃ lanes, sends = .original lanes) :
      Sound (.interpreting ((creates, sends), become))
  | completed (received : Interpretation (ActionSettlement T))
      (hstanding : standing (.completed received) =
        if received.isCorrupt then .corrupt else .through) : Sound (.completed received)

/-- Actions whose traversal ran to its end are completed where their slots are settled. -/
def Closed (progress : ActionsProgress T) : Prop :=
  match progress.standing with
  | .through => ∃ settlement, progress = .completed (.complete settlement)
  | .corrupt => ∃ settlement, progress = .completed (.corrupt settlement)
  | _ => ∀ received, progress ≠ .completed received

/-- **What a call of `Actions::interpret` does**: after the invocations that offered the batch it is a
sweep. -/
structure Follows (before : List (Call T)) (ran : Ran T σ (ActionsProgress T)) (view : View T)
    (base : BirthsProgress T) (swept : Swept σ (Offer T) (Answer T)) : Prop where
  slots : ran.progress.slots = swept.slots
  state : ran.state = swept.state
  calls : ran.calls = before ++ swept.attempts.map Offer.call
  poll : ran.poll = poll swept.halt
  batch : ran.progress.base.batch = base.batch
  view : ran.progress.view = view
  sound : ran.progress.Sound
  origin : ∀ loan, base.From loan → ran.progress.base.From loan
  closed : ran.poll = .ready → ran.progress.Closed

theorem standing_interpreting (creates : CreatesProgress T) (sends : SendsProgress T)
    (become : T.Become) :
    standing (.interpreting ((creates, sends), become)) =
      Sweep.standing Answer.isCorrupt creates.base.standing sends.slots := by
  simp only [standing, base, slots, BirthsProgress.standing, standing_append]

theorem combine_settlement (become : T.Become) (creations : Interpretation (CreatesSettlement T))
    (sends : Interpretation (Lanes (ItemResult T))) :
    (combine become creations sends).settlement =
        ⟨creations.settlement, sends.settlement, become⟩ ∧
      (combine become creations sends).isCorrupt = (creations.isCorrupt || sends.isCorrupt) := by
  cases creations <;> cases sends <;> exact ⟨rfl, rfl⟩

variable {progress : ActionsProgress T} {creates : CreatesProgress T} {sends : SendsProgress T}
    {before : List (Call T)} {base : BirthsProgress T} {swept : Swept σ (Offer T) (Answer T)}
    {interpreter : Interpreter T σ}

/-- Actions are closed if they are completed where they are settled. -/
theorem Sound.closed (h : progress.Sound) (hthrough : progress.standing = .through →
      ∃ settlement, progress = .completed (.complete settlement))
    (hcorrupt : progress.standing = .corrupt →
      ∃ settlement, progress = .completed (.corrupt settlement)) : progress.Closed := by
  unfold Closed
  split
  · exact hthrough ‹_›
  · exact hcorrupt ‹_›
  · rename_i hnot hnot'
    rintro received rfl
    cases h with
    | completed received hstanding =>
      split at hstanding
      · exact hnot' hstanding
      · exact hnot hstanding

/-- Completed actions are closed. -/
theorem closed_completed {received : Interpretation (ActionSettlement T)}
    (h : Sound (.completed received)) : Closed (.completed received) := by
  have hsound := h
  cases h with
  | completed received hstanding =>
    refine hsound.closed (fun h => ?_) fun h => ?_
    · cases received with
      | complete settlement => exact ⟨settlement, rfl⟩
      | corrupt settlement => exact absurd (hstanding.symm.trans h) nofun
    · cases received with
      | complete settlement => exact absurd (hstanding.symm.trans h) nofun
      | corrupt settlement => exact ⟨settlement, rfl⟩

/-- What a call makes of the actions it goes on with. -/
structure Completes (creates : CreatesProgress T) (sends : SendsProgress T) (become : T.Become)
    (after : ActionsProgress T) : Prop where
  slots : after.slots = creates.base.children ++ sends.slots
  batch : after.base.batch = creates.base.batch
  view : after.view = ⟨creates.mode, sends.shape, become⟩
  sound : after.Sound
  closed : after.Closed
  origin : ∀ loan, creates.base.From loan → after.base.From loan

/-- **Two halves that are completed complete the actions.** -/
theorem finish_completes
    {received : Interpretation (CreationSettlement T)} (sends : Interpretation (Lanes (ItemResult T)))
    (become : T.Become) (hcreates : creates.Sound) (hbase : creates.base = .completed received)
    (hcompleted : creates.completed = some (received.map creates.mode.wrap))
    (hsends : received.isCorrupt = true ∨ (SendsProgress.completed sends).Sound) :
    Completes creates (.completed sends) become
      (finish (.interpreting ((creates, .completed sends), become))) := by
  have hfinish : finish (.interpreting ((creates, .completed sends), become)) =
      .completed (combine become (received.map creates.mode.wrap) sends) := by
    simp only [finish, hcompleted]
  obtain ⟨hsettlement, hcorrupt⟩ :=
    combine_settlement become (received.map creates.mode.wrap) sends
  have hmapped : (received.map creates.mode.wrap).settlement =
      creates.mode.wrap received.settlement ∧
      (received.map creates.mode.wrap).isCorrupt = received.isCorrupt := by
    cases received <;> exact ⟨rfl, rfl⟩
  have hwrap : (creates.mode.wrap received.settlement).base = received.settlement := by
    refine CreatesSettlement.base_wrap fun hmode => ?_
    have := hbase.symm.trans (CreatesProgress.base_noBirths hmode)
    cases this
    rfl
  have hslots : slots (.completed (combine become (received.map creates.mode.wrap) sends)) =
      creates.base.children ++ (SendsProgress.completed sends).slots := by
    simp only [slots, hsettlement, ActionSettlement.slots, hmapped.1, hwrap, hbase]
    rfl
  have hbatch : BirthsProgress.batch
        (base (.completed (combine become (received.map creates.mode.wrap) sends))) =
      creates.base.batch := by
    simp only [base, hsettlement, hmapped.1, hwrap, hbase]
    rfl
  have hstanding : standing (.completed (combine become (received.map creates.mode.wrap) sends)) =
      if (combine become (received.map creates.mode.wrap) sends).isCorrupt then .corrupt
      else .through := by
    have hsame : standing (.completed (combine become (received.map creates.mode.wrap) sends)) =
        standing (.interpreting ((creates, .completed sends), become)) := by
      simp only [standing, hbatch, hslots]
      rfl
    have hcreates' := hcreates.1
    rw [hbase] at hcreates'
    rw [hsame, standing_interpreting, hbase, hcorrupt, hmapped.2]
    cases hcreates' with
    | completed received hreceived =>
      rw [hreceived]
      cases received with
      | corrupt settlement => rfl
      | complete settlement =>
        cases hsends.resolve_left nofun with
        | completed sends hverdict => exact hverdict
  have hsound : Sound (.completed (combine become (received.map creates.mode.wrap) sends)) :=
    .completed _ hstanding
  rw [hfinish]
  refine ⟨hslots, hbatch, ?_, hsound, closed_completed hsound, fun loan hfrom => ?_⟩
  · simp only [view, hsettlement, ActionSettlement.view, hmapped.1, CreatesSettlement.mode_wrap]
    rfl
  · rw [hbase] at hfrom
    cases hfrom with
    | completed reply hreply received hreceived =>
      simp only [base, hsettlement, hmapped.1, hwrap]
      exact .completed reply hreply _ hreceived

/-- **Complete creations and sends that are closed** complete the actions, or leave them at a row. -/
theorem finish_halves (become : T.Become) (hcreates : creates.Sound) {settlement}
    (hbase : creates.base = .completed (.complete settlement))
    (hstanding : creates.base.standing = .through)
    (hcompleted : creates.completed = some (.complete (creates.mode.wrap settlement)))
    (hsends : sends.Sound) (hclosed : sends.Closed) :
    Completes creates sends become (finish (.interpreting ((creates, sends), become))) := by
  by_cases hdone : ∃ received, sends = .completed received
  · obtain ⟨received, rfl⟩ := hdone
    exact finish_completes received become hcreates hbase hcompleted (.inr hsends)
  · have hfinish : finish (.interpreting ((creates, sends), become)) =
        .interpreting ((creates, sends), become) := by
      cases sends with
      | original lanes => rfl
      | rows kind items => rfl
      | layer owned inner => rfl
      | completed received => exact absurd ⟨received, rfl⟩ hdone
    have hsound : Sound (.interpreting ((creates, sends), become)) :=
      .interpreting become hcreates hsends (.inl hstanding)
    unfold SendsProgress.Closed at hclosed
    rw [hfinish]
    refine ⟨rfl, rfl, rfl, hsound, hsound.closed ?_ ?_, fun _ h => h⟩ <;> intro h <;>
      rw [standing_interpreting, hstanding] at h
    · rw [show verdict Answer.isCorrupt sends.slots = .through from h] at hclosed
      obtain ⟨settlement', heq⟩ := hclosed
      exact absurd ⟨_, heq⟩ hdone
    · rw [show verdict Answer.isCorrupt sends.slots = .corrupt from h] at hclosed
      obtain ⟨settlement', heq⟩ := hclosed
      exact absurd ⟨_, heq⟩ hdone

/-! ### Going through actions -/

/-- Actions that stop within the creations, or before the sends. -/
theorem halted {after ran} (hran : CreatesProgress.Follows before ran creates.mode base swept)
    (lanes : Lanes T.Item) (become : T.Become) (hhalt : swept.halt ≠ .through)
    (hafter : BirthsProgress.Keeps ran.progress.base after.base) (hsound : after.Sound)
    (hmode : after.mode = creates.mode)
    (hprogress : progress = .interpreting ((after, .original lanes), become) ∨
      Completes after (.original lanes) become progress)
    (hclosed : ran.poll = .ready → progress.Closed) (second : σ → Swept σ (Offer T) (Answer T)) :
    Follows before { ran with progress := progress }
      ⟨creates.mode, (SendsProgress.original lanes).shape, become⟩ base
      (andThen swept (SendsProgress.original lanes).slots second) := by
  rw [andThen_halted hhalt]
  have hcompletes : progress.slots = after.base.children ++ (SendsProgress.original lanes).slots ∧
      progress.base.batch = after.base.batch ∧
      progress.view = ⟨after.mode, (SendsProgress.original lanes).shape, become⟩ ∧
      progress.Sound ∧ ∀ loan, after.base.From loan → progress.base.From loan := by
    rcases hprogress with rfl | h
    · exact ⟨rfl, rfl, rfl, .interpreting become hsound (.original lanes) (.inr ⟨lanes, rfl⟩),
        fun _ h => h⟩
    · exact ⟨h.slots, h.batch, h.view, h.sound, h.origin⟩
  obtain ⟨hslots, hbatch, hview, hprogress, horigin⟩ := hcompletes
  refine ⟨?_, hran.state, hran.calls, hran.poll, ?_, ?_, hprogress, ?_, hclosed⟩
  · rw [hslots, hafter.children, hran.children]
  · rw [hbatch, hafter.batch, hran.batch]
  · rw [hview, hmode]
  · exact fun loan h => horigin loan (hafter.origin loan (hran.origin loan h))

/-- Actions whose creations are complete. -/
theorem through (hlawful : interpreter.Lawful) {become}
    (hprepare : progress.prepare = .interpreting ((creates, sends), become)) {state}
    (hran : CreatesProgress.Follows before (creates.interpret interpreter state) creates.mode base
      swept) (hready : (creates.interpret interpreter state).poll = .ready)
    (hhalt : swept.halt = .through) (hsends : sends.Sound) {after}
    (hafter : (creates.interpret interpreter state).progress.finish = after)
    (hkeeps : BirthsProgress.Keeps (creates.interpret interpreter state).progress.base after.base)
    (hsound : after.Sound) (hmode : after.mode = creates.mode)
    (hstanding : after.base.standing = .through) {settlement}
    (hbase : after.base = .completed (.complete settlement))
    (hcompleted : after.completed = some (.complete (after.mode.wrap settlement))) :
    Follows before (interpret interpreter progress state) ⟨creates.mode, sends.shape, become⟩ base
      (andThen swept sends.slots fun state =>
        sweep interpreter.attempt Answer.isCorrupt state sends.slots) := by
  have hnext := SendsProgress.interpret_sweeps hlawful hsends
    (creates.interpret interpreter state).state
  rw [andThen_through hhalt, ← hran.state]
  have hchildren : after.base.children = swept.slots := hkeeps.children.trans hran.children
  have hbatch : after.base.batch = base.batch := hkeeps.batch.trans hran.batch
  have horigin : ∀ loan, base.From loan → after.base.From loan :=
    fun loan h => hkeeps.origin loan (hran.origin loan h)
  cases hready' : (sends.interpret interpreter (creates.interpret interpreter state).state).poll with
  | abandoned =>
    have hrun : interpret interpreter progress state =
        ⟨.interpreting ((after, (sends.interpret interpreter
            (creates.interpret interpreter state).state).progress), become),
          (sends.interpret interpreter (creates.interpret interpreter state).state).state,
          (creates.interpret interpreter state).calls ++ (sends.interpret interpreter
            (creates.interpret interpreter state).state).calls, .abandoned⟩ := by
      simp only [interpret, hprepare, hready, hafter, hcompleted, hready']
    rw [hrun]
    refine ⟨?_, hnext.state, ?_, hready'.symm.trans hnext.poll, hbatch, ?_,
      .interpreting become hsound hnext.sound (.inl hstanding), horigin, nofun⟩
    · rw [← hchildren, ← hnext.slots]
      rfl
    · simp only [hran.calls, hnext.calls, List.map_append, List.append_assoc]
    · simp only [view, hmode, hnext.shape]
  | ready =>
    have hrun : interpret interpreter progress state =
        ⟨finish (.interpreting ((after, (sends.interpret interpreter
            (creates.interpret interpreter state).state).progress.finish), become)),
          (sends.interpret interpreter (creates.interpret interpreter state).state).state,
          (creates.interpret interpreter state).calls ++ (sends.interpret interpreter
            (creates.interpret interpreter state).state).calls, .ready⟩ := by
      simp only [interpret, hprepare, hready, hafter, hcompleted, hready']
    obtain ⟨hslots, hshape, hfinished⟩ := SendsProgress.finish_sound hnext.sound
    have hcompletes : Completes after (sends.interpret interpreter
        (creates.interpret interpreter state).state).progress.finish become
        (finish (.interpreting ((after, (sends.interpret interpreter
          (creates.interpret interpreter state).state).progress.finish), become))) :=
      finish_halves become hsound hbase hstanding hcompleted hfinished
        (SendsProgress.Closed.finish hnext.sound (hnext.closed hready'))
    rw [hrun]
    refine ⟨?_, hnext.state, ?_, hready'.symm.trans hnext.poll, hcompletes.batch.trans hbatch, ?_,
      hcompletes.sound, fun loan h => hcompletes.origin loan (horigin loan h),
      fun _ => hcompletes.closed⟩
    · rw [hcompletes.slots, hchildren, hslots, hnext.slots]
    · simp only [hran.calls, hnext.calls, List.map_append, List.append_assoc]
    · rw [hcompletes.view, hmode, hshape, hnext.shape]

/-- **Interpreting actions goes through the creations, and then through the sends.** -/
theorem interpret_from (hlawful : interpreter.Lawful) {become}
    (hprepare : progress.prepare = .interpreting ((creates, sends), become)) {state}
    (hran : CreatesProgress.Follows before (creates.interpret interpreter state) creates.mode base
      swept) (hsends : sends.Sound)
    (horder : swept.halt = .through ∨ ∃ lanes, sends = .original lanes) :
    Follows before (interpret interpreter progress state) ⟨creates.mode, sends.shape, become⟩ base
      (andThen swept sends.slots fun state =>
        sweep interpreter.attempt Answer.isCorrupt state sends.slots) := by
  cases hready : (creates.interpret interpreter state).poll with
  | abandoned =>
    have hhalt : swept.halt ≠ .through := by
      rw [SendsProgress.poll_abandoned (hran.poll.symm.trans hready)]
      intro h
      cases h
    obtain ⟨lanes, rfl⟩ := horder.resolve_left hhalt
    have hrun : interpret interpreter progress state =
        { creates.interpret interpreter state with
          progress := .interpreting
            (((creates.interpret interpreter state).progress, .original lanes), become) } := by
      simp only [interpret, hprepare, hready]
    rw [hrun]
    refine halted hran lanes become hhalt (.refl hran.sound.1) hran.sound hran.mode (.inl rfl)
      (fun h => ?_) _
    rw [hready] at h
    cases h
  | ready =>
    obtain ⟨hkeeps, hclosed, hmode, hsound, hcompleted⟩ :=
      CreatesProgress.finish_spec _ hran.sound (hran.closed hready)
    have hstanding := hkeeps.standing.trans (hran.halt hready)
    have hmode' := hmode.trans hran.mode
    rw [← hmode] at hcompleted
    unfold BirthsProgress.Closed at hclosed
    rw [hstanding] at hclosed
    cases hhalt : swept.halt with
    | abandoned =>
      have := hran.poll.symm.trans hready
      rw [hhalt] at this
      cases this
    | through =>
      rw [hhalt] at hclosed hstanding
      obtain ⟨settlement, hbase⟩ := hclosed
      rw [hbase] at hcompleted
      exact through hlawful hprepare hran hready hhalt hsends rfl hkeeps hsound hmode' hstanding hbase
        hcompleted
    | corrupt =>
      rw [hhalt] at hclosed
      obtain ⟨settlement, hbase⟩ := hclosed
      have hnot : swept.halt ≠ .through := fun h => by cases hhalt.symm.trans h
      obtain ⟨lanes, rfl⟩ := horder.resolve_left hnot
      rw [hbase] at hcompleted
      obtain ⟨rest, heq, hrows, hshape⟩ := SendsProgress.unattemptedSends_spec lanes
      have hrun : interpret interpreter progress state =
          { creates.interpret interpreter state with
            progress := finish (.interpreting
              (((creates.interpret interpreter state).progress.finish,
                .completed (.complete rest)), become)) } := by
        simp only [interpret, hprepare, hready, hcompleted, SendsProgress.unattempted, heq,
          Interpretation.map]
      have hsettled : (SendsProgress.completed (.complete rest)).slots =
          (SendsProgress.original lanes).slots := hrows
      have hcompletes := finish_completes (.complete rest) become hsound hbase hcompleted
        (.inl rfl)
      rw [hrun]
      refine halted hran lanes become hnot hkeeps hsound hmode'
        (.inr ⟨hcompletes.slots.trans (by rw [hsettled]), hcompletes.batch, ?_, hcompletes.sound,
          hcompletes.closed, hcompletes.origin⟩) (fun _ => hcompletes.closed) _
      rw [hcompletes.view]
      simp only [SendsProgress.shape, Interpretation.settlement, hshape]
    | stuck =>
      rw [hhalt] at hclosed hstanding
      have hnot : swept.halt ≠ .through := fun h => by cases hhalt.symm.trans h
      obtain ⟨lanes, rfl⟩ := horder.resolve_left hnot
      have hnone : (creates.interpret interpreter state).progress.finish.completed = none := by
        rw [hcompleted]
        split
        · exact absurd ‹_› (hclosed _)
        · rfl
      have hrun : interpret interpreter progress state =
          { creates.interpret interpreter state with
            progress := .interpreting
              (((creates.interpret interpreter state).progress.finish, .original lanes),
                become) } := by
        simp only [interpret, hprepare, hready, hnone]
      have hinterpreting := Sound.interpreting become hsound (.original lanes) (.inr ⟨lanes, rfl⟩)
      rw [hrun]
      refine halted hran lanes become hnot hkeeps hsound hmode' (.inl rfl)
        (fun _ => hinterpreting.closed ?_ ?_) _ <;> intro h <;>
        rw [standing_interpreting, hstanding] at h <;> cases h

/-- The halves that a call of `Actions::interpret` goes on with. -/
theorem Sound.halves (h : progress.Sound) :
    (∃ received, progress = .completed received) ∨
      ∃ creates sends become, progress.prepare = .interpreting ((creates, sends), become) ∧
        creates.Sound ∧ sends.Sound ∧
        (creates.base.standing = .through ∨ ∃ lanes, sends = .original lanes) ∧
        progress.slots = creates.base.children ++ sends.slots ∧ progress.base = creates.base ∧
        progress.view = ⟨creates.mode, sends.shape, become⟩ := by
  cases h with
  | completed received hstanding => exact .inl ⟨received, rfl⟩
  | interpreting become hcreates hsends horder =>
    exact .inr ⟨_, _, become, rfl, hcreates, hsends, horder, rfl, rfl, rfl⟩
  | original actions =>
    obtain ⟨sends, creates, become⟩ := actions
    refine .inr ⟨.original creates, .original sends, become, rfl, ?_, .original sends,
      .inr ⟨sends, rfl⟩, ?_, rfl, ?_⟩
    · cases creates with
      | noBirths => exact ⟨.completed _ rfl, nofun⟩
      | births creations | retirement creations => exact ⟨.original creations, nofun⟩
    · cases creates <;> rfl
    · cases creates <;> rfl

/-- **A call that does not offer the batch is one sweep over what is held**, behind the batch. -/
theorem interpret_follows (hlawful : interpreter.Lawful)
    (h : progress.Sound) (hoffering : progress.offering = none) (state : σ) :
    Follows [] (interpret interpreter progress state) progress.view progress.base
      (gate interpreter.attempt Answer.isCorrupt progress.base.batch state progress.slots) := by
  rcases h.halves with ⟨received, rfl⟩ |
    ⟨creates, sends, become, hprepare, hcreates, hsends, horder, hslots, hbase, hview⟩
  · have hclosed := closed_completed h
    cases h with
    | completed received hstanding =>
      have hsettled : standing (.completed received) ≠ .stuck ∧
          standing (.completed received) ≠ .abandoned := by
        rw [hstanding]
        constructor <;> split <;> nofun
      rw [gate_stays _ (.inl hsettled.1)]
      exact ⟨rfl, rfl, rfl, poll_settled hsettled.2, rfl, rfl, .completed _ hstanding,
        fun _ h => h, fun _ => hclosed⟩
  · have hoffering' : creates.offering = none := by
      simpa only [offering, hprepare] using hoffering
    have hran := CreatesProgress.interpret_routed interpreter hcreates hoffering' state
    rw [hslots, hbase, hview, ← gate_append]
    refine interpret_from hlawful hprepare hran hsends (horder.imp_left fun hthrough => ?_)
    have hstays : creates.base.swept interpreter state =
        ⟨creates.base.children, state, [], creates.base.standing⟩ :=
      gate_stays _ (.inl (by
        change creates.base.standing ≠ .stuck
        rw [hthrough]
        nofun)) state
    exact (congrArg Swept.halt hstays).trans hthrough

/-- **A call that offers the batch**: one invocation with the routing loan, and then a sweep over the
children that are routed and the sends. -/
theorem interpret_offers (hlawful : interpreter.Lawful) (h : progress.Sound) {creations}
    (hoffering : progress.offering = some ⟨some creations, none⟩) (state : σ) :
    let routed := interpreter.interpretCreations state ⟨some creations, none⟩
    let base : BirthsProgress T := .interpreting (.routing routed.2.1)
    Follows [.batch ⟨some creations, none⟩] (interpret interpreter progress state) progress.view base
      (match routed.2.2 with
        | .abandoned => ⟨base.children ++ progress.slots, routed.1, [], .abandoned⟩
        | .ready => gate interpreter.attempt Answer.isCorrupt base.batch routed.1
            (base.children ++ progress.slots)) := by
  rcases h.halves with ⟨received, rfl⟩ |
    ⟨creates, sends, become, hprepare, hcreates, hsends, horder, hslots, -, hview⟩
  · cases hoffering
  · have hoffering' : creates.offering = some ⟨some creations, none⟩ := by
      simpa only [offering, hprepare] using hoffering
    obtain ⟨hstuck, hchildren⟩ := CreatesProgress.offering_stuck hoffering' rfl
    obtain ⟨lanes, rfl⟩ := horder.resolve_left (by rw [hstuck]; nofun)
    have hlaw : (interpreter.interpretCreations state ⟨some creations, none⟩).2.1.input = none ∨
        (interpreter.interpretCreations state ⟨some creations, none⟩).2.1.received = none := by
      rcases hlawful.batch state creations with heq | hinput
      · exact .inr (congrArg Loan.received heq)
      · exact .inl hinput
    have hran := CreatesProgress.interpret_offering interpreter hcreates hoffering' state hlaw
    rw [hslots, hchildren, hview, List.nil_append]
    have hinterpret := interpret_from hlawful hprepare hran (.original lanes) (.inr ⟨lanes, rfl⟩)
    rcases hroute : interpreter.interpretCreations state ⟨some creations, none⟩ with
      ⟨state', routed, polled⟩
    rw [CreatesProgress.offered, hroute] at hinterpret
    cases polled with
    | abandoned =>
      rw [andThen_halted (by exact nofun)] at hinterpret
      exact hinterpret
    | ready =>
      simp only [BirthsProgress.swept, gate_append] at hinterpret
      exact hinterpret

end ActionsProgress

end Bombay.Effects
