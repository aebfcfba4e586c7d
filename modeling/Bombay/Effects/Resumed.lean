/-
# An interrupted interpretation resumes

A call of `Actions::interpret` that is abandoned leaves a slot that a later call goes on
from.  A call repeats nothing and skips nothing unless the creation batch was taken and
its routing not finished (`interpret_resumes`): `interpret_creations` offers the routing loan
whatever it holds, where `settle_item` and `settle_child` first look whether there is an
input to take.  Calls that never start there end as one uninterrupted run over the same
replies does.
-/

import Bombay.Effects.Ordered

namespace Bombay.Effects

open Sweep

variable {T : ActionTypes} {σ : Type}

/-- **An interpreter that runs to its end has replied.** -/
structure Interpreter.Replies (interpreter : Interpreter T σ) : Prop where
  item : ∀ state item, (interpreter.interpretItem state ⟨some item, none⟩).2.2 = .ready →
    ∃ reply, (interpreter.interpretItem state ⟨some item, none⟩).2.1 = ⟨none, some reply⟩
  batch : ∀ state creations,
    (interpreter.interpretCreations state ⟨some creations, none⟩).2.2 = .ready →
      ∃ reply, (interpreter.interpretCreations state ⟨some creations, none⟩).2.1 =
        ⟨none, some reply⟩

/-- **The interpreter that gives recorded replies**: one for the batch, and then one for each routed
creation and each item in turn. -/
def recorded : Interpreter T (RoutingReply T × List (Answer T)) where
  interpretItem := fun (routing, answers) loan =>
    match answers with
    | .item reply :: rest => ((routing, rest), ⟨none, some reply⟩, .ready)
    | _ => ((routing, answers), loan, .ready)
  interpretCreations := fun (routing, answers) _ => ((routing, answers), ⟨none, some routing⟩, .ready)
  dispatchBirth := fun (routing, answers) _ =>
    match answers with
    | .birth reply :: rest => ((routing, rest), some reply)
    | _ => ((routing, answers), none)

/-- An answer is of the kind of the offer. -/
def Offer.Fits : Offer T → Answer T → Prop
  | .birth _, .birth _ => True
  | .item _, .item _ => True
  | _, _ => False

theorem recorded_attempt (routing : RoutingReply T) (offer : Offer T) (answer : Answer T)
    (rest : List (Answer T)) (h : offer.Fits answer) :
    recorded.attempt (routing, answer :: rest) offer = ((routing, rest), .replied answer, .ready) := by
  cases offer <;> cases answer <;> first | rfl | cases h

theorem recorded_lawful : (recorded (T := T)).Lawful := by
  constructor
  · intro state item
    obtain ⟨routing, answers⟩ := state
    cases answers with
    | nil => exact .inl rfl
    | cons answer rest => cases answer <;> [exact .inl rfl; exact .inr rfl]
  · exact fun _ _ => .inr rfl

/-- What a lawful interpreter leaves of an offer. -/
theorem Interpreter.Lawful.holds {interpreter : Interpreter T σ} (h : interpreter.Lawful)
    (state : σ) (offer : Offer T) : Holds Offer.Fits offer (interpreter.attempt state offer).2.1 := by
  cases offer with
  | birth creation =>
    rcases hbirth : interpreter.dispatchBirth state creation with ⟨state', _ | reply⟩
    · simp only [Interpreter.attempt, hbirth]
      exact .inr (.inl rfl)
    · simp only [Interpreter.attempt, hbirth]
      exact .inr (.inr ⟨.birth reply, trivial, rfl⟩)
  | item item =>
    have hlaw := h.item state item
    rcases hitem : interpreter.interpretItem state ⟨some item, none⟩ with ⟨state', loan, polled⟩
    rw [hitem] at hlaw
    simp only [Interpreter.attempt, hitem]
    rcases hlaw with rfl | hinput
    · exact .inl rfl
    · obtain ⟨input, received⟩ := loan
      obtain rfl : input = none := hinput
      cases received with
      | none => exact .inr (.inl rfl)
      | some reply => exact .inr (.inr ⟨.item reply, trivial, rfl⟩)

namespace ActionsProgress

/-! ### Calls one after the other -/

/-- What calls leave, one from each of the states of the interpreter. -/
def resumed (interpreter : Interpreter T σ) (progress : ActionsProgress T) :
    List σ → ActionsProgress T
  | [] => progress
  | state :: states => resumed interpreter (interpret interpreter progress state).progress states

/-- The batch was taken, and its routing is not finished. -/
def batchTaken (progress : ActionsProgress T) : Bool :=
  match progress.offering with
  | some loan => loan.input.isNone
  | none => false

/-- No call starts from a batch that was taken and whose routing is not finished. -/
def Spared (interpreter : Interpreter T σ) (progress : ActionsProgress T) : List σ → Prop
  | [] => True
  | state :: states => progress.batchTaken = false ∧
    Spared interpreter (interpret interpreter progress state).progress states

/-- The first reply to the batch that calls receive. -/
def routingReply (interpreter : Interpreter T σ) (progress : ActionsProgress T) :
    List σ → Option (RoutingReply T)
  | [] => none
  | state :: states =>
    let received :=
      progress.offering.bind fun loan => (interpreter.interpretCreations state loan).2.1.received
    received.or (routingReply interpreter (interpret interpreter progress state).progress states)

/-- **What a further call may do**: it offers the batch only if that is untouched, attempts only what
is untouched and only once everything before it has its reply, and keeps every reply and every
untouched item at its position. -/
structure Faithful (before : ActionsProgress T) (ran : Ran T σ (ActionsProgress T)) : Prop where
  invokes : ∃ (batch : Option (List T.Create)) (routed : List T.Routed)
    (attempts : List (Offer T)),
    ran.calls = (batch.toList.map fun creations => .batch ⟨some creations, none⟩) ++
      attempts.map Offer.call ∧
    (∀ creations, batch = some creations → before.offering = some ⟨some creations, none⟩) ∧
    (batch = none → routed = []) ∧
    (ran.progress.base.batch ≠ .through → attempts = []) ∧
    Advances Answer.isCorrupt
      ((routed.map fun creation => .untouched (.birth creation)) ++ before.slots) attempts
      ran.progress.slots
  reply : ∀ reply, before.base.From ⟨none, some reply⟩ → ran.progress.base.From ⟨none, some reply⟩
  view : ran.progress.view = before.view

/-- **Calls that repeat nothing and skip nothing.** -/
def Resumes (interpreter : Interpreter T σ) (progress : ActionsProgress T) : List σ → Prop
  | [] => True
  | state :: states => Faithful progress (interpret interpreter progress state) ∧
    Resumes interpreter (interpret interpreter progress state).progress states

/-! ### One call -/

variable {loan : Loan (List T.Create) (RoutingReply T)} {progress : ActionsProgress T}
    {reply : RoutingReply T} {interpreter : Interpreter T σ} {actions : Actions T}

/-- A batch that is on offer is offered. -/
theorem creates_offering (interpreter : Interpreter T σ) {creates : CreatesProgress T}
    (hoffering : creates.offering = some loan)
    (state : σ) : ∃ rest, (creates.interpret interpreter state).calls = .batch loan :: rest := by
  have hbase : ∃ rest, (creates.base.interpret interpreter state).calls = .batch loan :: rest := by
    have hprepare : creates.base.prepare = .interpreting (.routing loan) := by
      unfold CreatesProgress.offering at hoffering
      split at hoffering
      · cases hoffering
        assumption
      · cases hoffering
    rcases hroute : interpreter.interpretCreations state loan with ⟨state', routed, polled⟩
    cases polled with
    | abandoned => exact ⟨[], by simp only [BirthsProgress.interpret, hprepare, hroute]⟩
    | ready => exact ⟨_, by simp only [BirthsProgress.interpret, hprepare, hroute]; rfl⟩
  have hinterpretBase : ∀ base : BirthsProgress T,
      (CreatesProgress.interpret.interpretBase interpreter state base).calls =
        (base.interpret interpreter state).calls := by
    intro base
    simp only [CreatesProgress.interpret.interpretBase]
    split <;> rfl
  obtain ⟨rest, hcalls⟩ := hbase
  cases creates with
  | noBirths progress => cases hoffering
  | births progress => exact ⟨rest, hcalls⟩
  | retirement progress =>
    cases progress with
    | original creations | interpreting base => exact ⟨rest, (hinterpretBase _).trans hcalls⟩
    | completed received => cases hoffering

/-- A call that starts from a routing loan offers it, whatever it holds. -/
theorem calls_offering (interpreter : Interpreter T σ) (hoffering : progress.offering = some loan)
    (state : σ) : ∃ rest, (interpret interpreter progress state).calls = .batch loan :: rest := by
  unfold offering at hoffering
  cases hprepare : progress.prepare with
  | original actions | completed received =>
    rw [hprepare] at hoffering
    cases hoffering
  | interpreting custody =>
    obtain ⟨⟨creates, sends⟩, become⟩ := custody
    rw [hprepare] at hoffering
    obtain ⟨rest, hcalls⟩ := creates_offering interpreter hoffering state
    have hmore : ∃ more, (interpret interpreter progress state).calls =
        (creates.interpret interpreter state).calls ++ more := by
      simp only [interpret, hprepare]
      split
      · exact ⟨[], (List.append_nil _).symm⟩
      · split
        · split
          · exact ⟨_, rfl⟩
          · exact ⟨_, rfl⟩
        · exact ⟨[], (List.append_nil _).symm⟩
        · exact ⟨[], (List.append_nil _).symm⟩
    obtain ⟨more, hmore⟩ := hmore
    exact ⟨rest ++ more, by rw [hmore, hcalls]; rfl⟩

/-- **A call that starts from a batch that was taken is not faithful.** -/
theorem not_faithful_of_taken (interpreter : Interpreter T σ)
    (htaken : progress.batchTaken = true) (state : σ) :
    ¬Faithful progress (interpret interpreter progress state) := by
  rintro ⟨⟨batch, routed, attempts, hcalls, hbatch, -⟩, -, -⟩
  unfold batchTaken at htaken
  cases hoffering : progress.offering with
  | none =>
    rw [hoffering] at htaken
    cases htaken
  | some loan =>
    rw [hoffering] at htaken
    obtain ⟨rest, hrest⟩ := calls_offering interpreter hoffering state
    rw [hrest] at hcalls
    cases batch with
    | some creations =>
      have := (hbatch creations rfl).symm.trans hoffering
      cases this
      cases htaken
    | none =>
      cases attempts with
      | nil => cases hcalls
      | cons offer attempts => cases offer <;> cases hcalls

/-- The children that a routing loan shows. -/
theorem children_routing (h : loan.input = none ∨ loan.received = none) :
    BirthsProgress.children (.interpreting (.routing loan)) =
        (routedBy loan.received).map (fun creation => .untouched (.birth creation)) := by
  obtain ⟨input, received⟩ := loan
  cases received with
  | none => cases input <;> rfl
  | some reply =>
    obtain rfl : input = none := h.resolve_right nofun
    cases reply <;> rfl

/-- A loan that was not taken is untouched. -/
theorem untouched_of_not_taken (h : progress.Sound) (htaken : progress.batchTaken = false) :
    progress.offering = none ∨ ∃ creations, progress.offering = some ⟨some creations, none⟩ := by
  rcases h.halves with ⟨received, rfl⟩ |
    ⟨creates, sends, become, hprepare, hcreates, -⟩
  · exact .inl rfl
  · have heq : progress.offering = creates.offering := by
      simp only [offering, hprepare]
    cases hoffering : creates.offering with
    | none => exact .inl (heq.trans hoffering)
    | some loan =>
      obtain ⟨input, received⟩ := loan
      rw [batchTaken, heq, hoffering] at htaken
      cases input with
      | none => cases htaken
      | some creations =>
        refine .inr ⟨creations, heq.trans (hoffering.trans ?_)⟩
        have hsound := hcreates.1
        unfold CreatesProgress.offering at hoffering
        cases hbase : creates.base with
        | original creations' =>
          rw [hbase] at hoffering
          cases hoffering
          rfl
        | completed settlement =>
          rw [hbase] at hoffering
          cases hoffering
        | interpreting custody =>
          rw [hbase] at hoffering hsound
          cases custody with
          | children rows => cases hoffering
          | routing loan =>
            cases hoffering
            cases hsound with
            | routing loan hloan =>
              rw [show received = none from hloan.resolve_left (Option.some_ne_none _)]

/-- A batch with a reply is not on offer untouched. -/
theorem offering_of_from (h : progress.Sound)
    (hfrom : progress.base.From ⟨none, some reply⟩) (creations : List T.Create) :
    progress.offering ≠ some ⟨some creations, none⟩ := by
  rcases h.halves with ⟨received, rfl⟩ |
    ⟨creates, sends, become, hprepare, -, -, -, -, hbase, -⟩
  · intro h
    cases h
  · have heq : progress.offering = creates.offering := by
      simp only [offering, hprepare]
    rw [hbase] at hfrom
    rw [heq, CreatesProgress.offering]
    generalize creates.base = base at hfrom
    cases hfrom with
    | original creations hloan => cases hloan
    | routing | children | completed =>
      intro h
      cases h

/-- What a lawful interpreter leaves of a batch that it is offered. -/
theorem lawful_loan (hlawful : interpreter.Lawful) (state : σ) (creations : List T.Create) :
    (interpreter.interpretCreations state ⟨some creations, none⟩).2.1.input = none ∨
      (interpreter.interpretCreations state ⟨some creations, none⟩).2.1.received = none := by
  rcases hlawful.batch state creations with heq | hinput
  · exact .inr (congrArg Loan.received heq)
  · exact .inl hinput

/-- **A call that starts anywhere else is faithful.** -/
theorem faithful_of_not_taken (hlawful : interpreter.Lawful)
    (h : progress.Sound) (htaken : progress.batchTaken = false)
    (state : σ) : Faithful progress (interpret interpreter progress state) := by
  rcases untouched_of_not_taken h htaken with hoffering | ⟨creations, hoffering⟩
  · have hran := interpret_follows hlawful h hoffering state
    refine ⟨⟨none, [], _, hran.calls, nofun, fun _ => rfl, fun hbatch => ?_, ?_⟩,
      fun _ => hran.origin _, hran.view⟩
    · rw [hran.batch] at hbatch
      rw [gate_halted _ _ hbatch]
    · rw [hran.slots]
      exact gate_advances _ _ _ _ _
  · have hran := interpret_offers hlawful h hoffering state
    have hchildren := children_routing (lawful_loan hlawful state creations)
    dsimp only at hran
    rw [hchildren] at hran
    have horigin : ∀ reply, progress.base.From ⟨none, some reply⟩ →
        (interpret interpreter progress state).progress.base.From ⟨none, some reply⟩ :=
      fun reply hfrom => absurd hoffering (offering_of_from h hfrom creations)
    rcases hroute : interpreter.interpretCreations state ⟨some creations, none⟩ with
      ⟨state', loan, polled⟩
    rw [hroute] at hran
    refine ⟨⟨some creations, routedBy loan.received, _, hran.calls, ?_, nofun, fun hbatch => ?_, ?_⟩,
      horigin, hran.view⟩
    · rintro _ ⟨⟩
      exact hoffering
    · rw [hran.batch] at hbatch
      cases polled with
      | abandoned => rfl
      | ready => exact congrArg Swept.attempts (gate_halted _ _ hbatch _ _)
    · rw [hran.slots]
      cases polled with
      | abandoned => exact .rest _
      | ready => exact gate_advances _ _ _ _ _

/-! ### A run of calls -/

/-- What calls have received to the batch so far, and what they have left of the rest. -/
inductive Stage (actions : Actions T) (routing : Option (RoutingReply T))
    (progress : ActionsProgress T) : Prop
  | taken (htaken : progress.batchTaken = true)
  | unrouted (creations : List T.Create) (hrouting : routing = none)
      (hbatch : actions.creates.batch = some creations)
      (hoffering : progress.offering = some ⟨some creations, none⟩)
      (hslots : progress.slots = actions.sends.rows.map freshSlot)
  | routed (hrouting : routing.isSome = actions.creates.batch.isSome)
      (hoffering : progress.offering = none)
      (hreply : progress.base.From ⟨none, some (routing.getD (.accepted []))⟩)
      (hbatch : progress.base.batch = if corruptRouting routing then .corrupt else .through)
      (hslots : Fills Answer.isCorrupt Offer.Fits (offers routing actions.sends) progress.slots)
      (hshut : corruptRouting routing = true →
        progress.slots = (offers routing actions.sends).map .untouched)

/-- A run so far: it is sound, and looks like the actions from outside. -/
structure Underway (actions : Actions T) (routing : Option (RoutingReply T))
    (progress : ActionsProgress T) : Prop where
  sound : progress.Sound
  view : progress.view = actions.view
  stage : Stage actions routing progress

/-- The loan that a call offers, told from the batch. -/
theorem offering_eq (h : progress.Sound) :
    progress.offering =
      match progress.base.prepare with
      | .interpreting (.routing loan) => some loan
      | _ => none := by
  rcases h.halves with ⟨received, rfl⟩ |
    ⟨creates, sends, become, hprepare, -, -, -, -, hbase, -⟩
  · rfl
  · rw [hbase]
    simp only [offering, hprepare]
    rfl

/-- Once the reply to the batch is in, its routing is finished, or it is left taken. -/
theorem replied_stage (h : progress.Sound) (hfrom : progress.base.From ⟨none, some reply⟩) :
    progress.batchTaken = true ∨ progress.offering = none := by
  rw [batchTaken, offering_eq h]
  generalize progress.base = base at hfrom
  cases hfrom with
  | original creations hloan => cases hloan
  | routing => exact .inl rfl
  | children routed hreply rows => exact .inr rfl
  | completed reply hreply received hreceived => exact .inr rfl

/-- A gated sweep fills slots further. -/
theorem gate_fills (hlawful : interpreter.Lawful)
    {inputs : List (Offer T)} {slots : List (Slot (Offer T) (Answer T))}
    (h : Fills Answer.isCorrupt Offer.Fits inputs slots) (halt : Halt) (state : σ) :
    Fills Answer.isCorrupt Offer.Fits inputs
      (gate interpreter.attempt Answer.isCorrupt halt state slots).slots := by
  by_cases hhalt : halt = .through
  · obtain rfl := hhalt
    rw [gate_through]
    exact sweep_fills hlawful.holds h state
  · rw [gate_halted _ _ hhalt]
    exact h

theorem underway_original (actions : Actions T) : Underway actions none (.original actions) := by
  refine ⟨.original actions, rfl, ?_⟩
  obtain ⟨sends, creates, become⟩ := actions
  cases creates with
  | noBirths =>
    have hslots : slots (.original ⟨sends, .noBirths, become⟩) =
        (offers (none : Option (RoutingReply T)) sends).map .untouched := by
      simp only [slots, offers, routedBy, List.map_append, List.map_map]
      rfl
    refine .routed rfl rfl (.completed _ rfl _ (.settled [] rfl [])) rfl ?_ ?_
    · rw [hslots]
      exact .untouched _
    · intro h
      cases h
  | births creations | retirement creations => exact .unrouted creations rfl rfl rfl rfl

/-- **One call keeps a run underway**, with the reply to the batch that it receives. -/
theorem Underway.step (hlawful : interpreter.Lawful) {routing}
    (h : Underway actions routing progress) (htaken : progress.batchTaken = false) (state : σ) :
    Underway actions (routing.or (routingReply interpreter progress [state]))
      (interpret interpreter progress state).progress := by
  cases h.stage with
  | taken htaken' =>
    rw [htaken] at htaken'
    cases htaken'
  | routed hrouting hoffering hreply hbatch hslots hshut =>
    have hran := interpret_follows hlawful h.sound hoffering state
    have hnone : routingReply interpreter progress [state] = none := by
      simp only [routingReply, hoffering]
      rfl
    rw [hnone, Option.or_none]
    refine ⟨hran.sound, hran.view.trans h.view, ?_⟩
    have hreply' := hran.origin _ hreply
    rcases replied_stage hran.sound hreply' with htaken' | hoffering'
    · exact .taken htaken'
    · refine .routed hrouting hoffering' hreply' (hran.batch.trans hbatch) ?_ fun hcorrupt => ?_
      · rw [hran.slots]
        exact gate_fills hlawful hslots _ _
      · rw [hran.slots, hbatch, if_pos hcorrupt, ← hshut hcorrupt]
        exact congrArg Swept.slots (gate_halted _ _ (by nofun) _ _)
  | unrouted creations hrouting hcreations hoffering hslots =>
    obtain rfl := hrouting
    have hran := interpret_offers hlawful h.sound hoffering state
    have hreceived : routingReply interpreter progress [state] =
        (interpreter.interpretCreations state ⟨some creations, none⟩).2.1.received := by
      simp only [routingReply, hoffering, Option.bind_some, Option.or_none]
    rw [hreceived, Option.none_or]
    refine ⟨hran.sound, hran.view.trans h.view, ?_⟩
    have hlaw := hlawful.batch state creations
    rcases hroute : interpreter.interpretCreations state ⟨some creations, none⟩ with
      ⟨state', loan, polled⟩
    rw [hroute] at hran hlaw
    have hfrom := hran.origin _ .routing
    rcases hlaw with rfl | hinput
    · refine .unrouted creations rfl hcreations ?_ ?_
      · rw [offering_eq hran.sound]
        generalize (interpret interpreter progress state).progress.base = base at hfrom
        cases hfrom with
        | original creations' hloan =>
          cases hloan
          rfl
        | routing => rfl
        | children routed hreply rows => cases hreply
        | completed reply hreply received hreceived => cases hreply
      · rw [hran.slots, ← hslots]
        cases polled <;> rfl
    · obtain ⟨input, received⟩ := loan
      obtain rfl : input = none := hinput
      cases received with
      | none =>
        refine .taken ?_
        rw [batchTaken, offering_eq hran.sound]
        generalize (interpret interpreter progress state).progress.base = base at hfrom
        cases hfrom with
        | original creations' hloan => cases hloan
        | routing => rfl
        | children routed hreply rows => cases hreply
        | completed reply hreply received hreceived => cases hreply
      | some reply =>
        rcases replied_stage hran.sound hfrom with htaken' | hoffering'
        · exact .taken htaken'
        · have hstart : BirthsProgress.children (.interpreting (.routing ⟨none, some reply⟩)) ++
              progress.slots = (offers (some reply) actions.sends).map .untouched := by
            rw [children_routing (.inl rfl), hslots]
            have hoffers : (routedBy (some reply)).map
                (fun creation => (.untouched (.birth creation) : Slot (Offer T) (Answer T))) ++
                actions.sends.rows.map freshSlot =
                (offers (some reply) actions.sends).map .untouched := by
              simp only [offers, List.map_append, List.map_map]
              rfl
            exact hoffers
          refine .routed (by rw [hcreations]; rfl) hoffering' hfrom hran.batch ?_ fun hcorrupt => ?_
          · rw [hran.slots, hstart]
            cases polled with
            | abandoned => exact .untouched _
            | ready => exact gate_fills hlawful (.untouched _) _ _
          · have hshut : BirthsProgress.batch (.interpreting (.routing ⟨none, some reply⟩)) =
                .corrupt := if_pos hcorrupt
            rw [hran.slots, hstart, hshut]
            cases polled with
            | abandoned => rfl
            | ready => exact congrArg Swept.slots (gate_halted _ _ (by nofun) _ _)

/-- **Calls that start from no batch that was taken keep a run underway.** -/
theorem Underway.run (hlawful : interpreter.Lawful) {routing}
    (h : Underway actions routing progress) {states} (hspared : Spared interpreter progress states) :
    Underway actions (routing.or (routingReply interpreter progress states))
      (resumed interpreter progress states) := by
  induction states generalizing routing progress with
  | nil =>
    rw [routingReply, Option.or_none]
    exact h
  | cons state states ih =>
    obtain ⟨htaken, hrest⟩ := hspared
    have hnext := ih (h.step hlawful htaken state) hrest
    rw [Option.or_assoc] at hnext
    simp only [routingReply, Option.or_none] at hnext ⊢
    exact hnext

theorem spared_append (interpreter : Interpreter T σ) (progress : ActionsProgress T)
    (states : List σ) (state : σ) :
    Spared interpreter progress (states ++ [state]) ↔
      Spared interpreter progress states ∧
        (resumed interpreter progress states).batchTaken = false := by
  induction states generalizing progress with
  | nil => simp [Spared, resumed]
  | cons first states ih =>
    simp only [List.cons_append, Spared, resumed, ih, and_assoc]

theorem resumed_append (interpreter : Interpreter T σ) (progress : ActionsProgress T)
    (states : List σ) (state : σ) :
    resumed interpreter progress (states ++ [state]) =
      (interpret interpreter (resumed interpreter progress states) state).progress := by
  induction states generalizing progress with
  | nil => rfl
  | cons first states ih => exact ih _

/-- **A run of calls is faithful exactly if it is spared.** -/
theorem resumes_iff (hlawful : interpreter.Lawful) {routing} (h : Underway actions routing progress)
    (states : List σ) :
    Resumes interpreter progress states ↔ Spared interpreter progress states := by
  induction states generalizing routing progress with
  | nil => exact Iff.rfl
  | cons state states ih =>
    cases htaken : progress.batchTaken with
    | true =>
      refine ⟨fun hresumes => ?_, fun hspared => ?_⟩
      · exact absurd hresumes.1 (not_faithful_of_taken interpreter htaken state)
      · exact absurd (htaken.symm.trans hspared.1) (by nofun)
    | false =>
      have hfaithful := faithful_of_not_taken hlawful h.sound htaken state
      have hnext := ih (h.step hlawful htaken state)
      exact ⟨fun hresumes => ⟨htaken, hnext.mp hresumes.2⟩,
        fun hspared => ⟨hfaithful, hnext.mpr hspared.2⟩⟩

/-! ### The end of a run -/

theorem resultSlot_injective : Function.Injective (resultSlot (T := T)) := by
  intro a b h
  cases a <;> cases b <;> cases h <;> rfl

theorem birthSlot_injective : Function.Injective (birthSlot (T := T)) := by
  intro a b h
  cases a <;> cases b <;> cases h <;> rfl

/-- A settled batch is known by the reply to it and its slots. -/
theorem creation_unique {a b : CreationSettlement T} (ha : a.From reply)
    (hb : b.From reply) (hslots : a.slots = b.slots) : a = b := by
  cases ha with
  | settled routed hreply settlements =>
    cases hb with
    | settled routed' hreply' settlements' =>
      rw [List.map_injective_iff.mpr birthSlot_injective hslots]
    | rejected creations hreply' | corrupt creations fault hreply' =>
      cases hreply.symm.trans hreply'
  | rejected creations hreply =>
    cases hb with
    | settled routed' hreply' settlements' | corrupt creations' fault hreply' =>
      cases hreply.symm.trans hreply'
    | rejected creations' hreply' =>
      cases hreply.symm.trans hreply'
      rfl
  | corrupt creations fault hreply =>
    cases hb with
    | settled routed' hreply' settlements' | rejected creations' hreply' =>
      cases hreply.symm.trans hreply'
    | corrupt creations' fault' hreply' =>
      cases hreply.symm.trans hreply'
      rfl

theorem creates_unique {a b : CreatesSettlement T} (hmode : a.mode = b.mode)
    (hbase : a.base = b.base) : a = b := by
  cases a with
  | noBirths => cases b <;> first | rfl | cases hmode
  | births settlement =>
    cases b with
    | noBirths => cases hmode
    | births settlement' => exact congrArg CreatesSettlement.births hbase
    | retirement settlement' => cases hmode
  | retirement settlement =>
    cases b with
    | noBirths => cases hmode
    | births settlement' => cases hmode
    | retirement settlement' =>
      exact congrArg (fun settlement => CreatesSettlement.retirement ⟨settlement⟩) hbase

/-- **Settled actions are known by what they look like, the reply to the batch and their slots.** -/
theorem settlement_unique {a b : ActionSettlement T}
    (hview : a.view = b.view) (ha : a.creations.base.From reply) (hb : b.creations.base.From reply)
    (hslots : a.slots = b.slots) : a = b := by
  have hmode : a.creations.mode = b.creations.mode := congrArg View.mode hview
  have hshape : a.sends.shape = b.sends.shape := congrArg View.shape hview
  have hbecome : a.become = b.become := congrArg View.become hview
  have hlength : (a.sends.rows.map resultSlot).length = (b.sends.rows.map resultSlot).length := by
    rw [List.length_map, List.length_map, Lanes.rows_length_of_shape hshape]
  obtain ⟨hcreations, hsends⟩ := List.append_inj' hslots hlength
  have hrows := List.map_injective_iff.mpr resultSlot_injective hsends
  have hcreates := creates_unique hmode (creation_unique ha hb hcreations)
  have hsends' := Lanes.eq_of_shape hshape hrows
  obtain ⟨creations, sends, become⟩ := a
  obtain ⟨creations', sends', become'⟩ := b
  cases hcreates
  cases hsends'
  cases hbecome
  rfl

/-- Two ends of the same standing are the same. -/
theorem completed_unique {a b : ActionsProgress T}
    (ha : a.Closed) (hb : b.Closed) (hsettled : a.standing ≠ .stuck ∧ a.standing ≠ .abandoned)
    (hstanding : a.standing = b.standing) (hview : a.view = b.view)
    (hfrom : a.base.From loan) (hfrom' : b.base.From loan) (hslots : a.slots = b.slots) :
    (∃ received, a = .completed received) ∧ a = b := by
  have hunique : ∀ received received' : Interpretation (ActionSettlement T),
      a = .completed received → b = .completed received' →
        received.settlement = received'.settlement := by
    rintro received received' rfl rfl
    cases hfrom with
    | completed reply hreply _ hreceived =>
      cases hfrom' with
      | completed reply' hreply' _ hreceived' =>
        obtain rfl : reply = reply' := Option.some.inj (hreply.symm.trans hreply')
        exact settlement_unique hview hreceived hreceived' hslots
  unfold Closed at ha hb
  rw [← hstanding] at hb
  cases h : a.standing with
  | stuck => exact absurd h hsettled.1
  | abandoned => exact absurd h hsettled.2
  | through | corrupt =>
    rw [h] at ha hb
    obtain ⟨settlement, ha⟩ := ha
    obtain ⟨settlement', hb⟩ := hb
    have heq : settlement = settlement' := hunique _ _ ha hb
    exact ⟨⟨_, ha⟩, by rw [ha, hb, heq]⟩

/-- **A settled run is one uninterrupted run over the same replies.** -/
theorem recorded_run {routing : Option (RoutingReply T)} (h : Underway actions routing progress)
    (hclosed : progress.Closed) (hoffering : progress.offering = none)
    (hsettled : progress.standing ≠ .stuck ∧ progress.standing ≠ .abandoned) :
    (∃ received, progress = .completed received) ∧
      progress = (interpret recorded (.original actions)
        (routing.getD (.accepted []), progress.slots.filterMap Slot.reply?)).progress := by
  have htaken : progress.batchTaken = false := by
    rw [batchTaken, hoffering]
  cases h.stage with
  | taken htaken' => cases htaken.symm.trans htaken'
  | unrouted creations hrouting hbatch hoffering' hslots => cases hoffering.symm.trans hoffering'
  | routed hrouting hoffering' hreply hbatch hslots hshut =>
    obtain ⟨base, hran, hbase, hfrom⟩ := interpret_original recorded_lawful actions
      (routing.getD (.accepted []), progress.slots.filterMap Slot.reply?)
      fun creations _ => ⟨_, _, rfl⟩
    have hroute : recorded.route
        (routing.getD (.accepted []), progress.slots.filterMap Slot.reply?) actions.creates =
        ((routing.getD (.accepted []), progress.slots.filterMap Slot.reply?), routing) := by
      unfold Interpreter.route
      cases hcreates : actions.creates.batch with
      | none =>
        rw [hcreates] at hrouting
        cases routing with
        | none => rfl
        | some reply => cases hrouting
      | some creations =>
        rw [hcreates] at hrouting
        cases routing with
        | none => cases hrouting
        | some reply => rfl
    rw [hroute] at hran hbase hfrom
    have hbatch' : base.batch = progress.base.batch := hbase.trans hbatch.symm
    have hsame : (gate recorded.attempt Answer.isCorrupt base.batch
          (routing.getD (.accepted []), progress.slots.filterMap Slot.reply?)
          ((offers routing actions.sends).map .untouched)).slots = progress.slots ∧
        (gate recorded.attempt Answer.isCorrupt base.batch
          (routing.getD (.accepted []), progress.slots.filterMap Slot.reply?)
          ((offers routing actions.sends).map .untouched)).halt = progress.standing := by
      have hstanding : progress.standing =
          Sweep.standing Answer.isCorrupt base.batch progress.slots := by
        rw [hbatch']
        rfl
      cases hcorrupt : corruptRouting routing with
      | true =>
        have hgate : base.batch = .corrupt := hbase.trans (if_pos hcorrupt)
        rw [hstanding, hgate, hshut hcorrupt, gate_halted _ _ (by nofun)]
        exact ⟨rfl, rfl⟩
      | false =>
        have hgate : base.batch = .through := hbase.trans (if_neg (by rw [hcorrupt]; nofun))
        have hunstuck := hsettled.1
        rw [hstanding, hgate] at hunstuck
        rw [hstanding, hgate, gate_through]
        exact sweep_script (fun replies => (routing.getD (.accepted []), replies))
          (fun offer answer rest hfits => recorded_attempt _ offer answer rest hfits) hslots hunstuck
    have hready : (interpret recorded (.original actions)
        (routing.getD (.accepted []), progress.slots.filterMap Slot.reply?)).poll = .ready := by
      rw [hran.poll, hsame.2]
      exact (poll_settled hsettled.2).symm
    have hslots' := hran.slots.trans hsame.1
    have hstanding : progress.standing = (interpret recorded (.original actions)
        (routing.getD (.accepted []), progress.slots.filterMap Slot.reply?)).progress.standing := by
      simp only [standing, hslots', hran.batch, hbatch']
    exact completed_unique hclosed (hran.closed hready) hsettled hstanding
      (h.view.trans hran.view.symm) hreply (hran.origin _ hfrom) hslots'.symm

/-- A call that runs to its end settles what it holds, unless an item was taken before. -/
theorem settled_of_ready (hreplies : interpreter.Replies) {before ran view base slots state}
    (hran : Follows before ran view base
      (gate interpreter.attempt Answer.isCorrupt base.batch state slots))
    (hbatch : base.batch ≠ .stuck) (hready : ran.poll = .ready)
    (htaken : .taken ∉ ran.progress.slots) :
    ran.progress.standing ≠ .stuck ∧ ran.progress.standing ≠ .abandoned := by
  have hattempt : ∀ state offer, (interpreter.attempt state offer).2.2 = .ready →
      ∃ answer, (interpreter.attempt state offer).2.1 = .replied answer := by
    intro state offer hready
    cases offer with
    | birth creation =>
      rcases hbirth : interpreter.dispatchBirth state creation with ⟨state', _ | reply⟩
      · simp only [Interpreter.attempt, hbirth] at hready
        cases hready
      · exact ⟨.birth reply, by simp only [Interpreter.attempt, hbirth]⟩
    | item item =>
      obtain ⟨reply, heq⟩ := hreplies.item state item hready
      exact ⟨.item reply, by simp only [Interpreter.attempt, heq, loanSlot]⟩
  have hpoll := hready.symm.trans hran.poll
  rw [hran.slots] at htaken
  rw [standing, hran.batch, hran.slots]
  by_cases hgate : base.batch = .through
  · rw [hgate, gate_through] at hpoll htaken ⊢
    refine ⟨sweep_unstuck hattempt htaken fun h => ?_, verdict_ne_abandoned _⟩
    rw [h] at hpoll
    cases hpoll
  · rw [standing_halted _ hgate]
    exact ⟨hbatch, BirthsProgress.batch_ne_abandoned base⟩

/-- **Interrupted interpretation resumes.**  A run of calls repeats nothing and skips nothing if and
only if no call starts from a batch that was taken and whose routing is not finished.  In such a run,
when a call runs to its end and every item that was taken has its reply, what the calls leave is the
settlement of one uninterrupted run over the same replies. -/
theorem interpret_resumes {interpreter : Interpreter T σ} (hlawful : interpreter.Lawful)
    (actions : Actions T) (states : List σ) :
    (Resumes interpreter (.original actions) states ↔
      Spared interpreter (.original actions) states) ∧
    ∀ state, Spared interpreter (.original actions) (states ++ [state]) → interpreter.Replies →
      (interpret interpreter (resumed interpreter (.original actions) states) state).poll = .ready →
      .taken ∉ (resumed interpreter (.original actions) (states ++ [state])).slots →
      (∃ received, resumed interpreter (.original actions) (states ++ [state]) =
        .completed received) ∧
      resumed interpreter (.original actions) (states ++ [state]) =
        (interpret recorded (.original actions)
          ((routingReply interpreter (.original actions) (states ++ [state])).getD (.accepted []),
            (resumed interpreter (.original actions) (states ++ [state])).slots.filterMap
              Slot.reply?)).progress := by
  have hstart := underway_original actions
  refine ⟨resumes_iff hlawful hstart states, fun state hspared hreplies hready htaken => ?_⟩
  have hend := hstart.run hlawful hspared
  rw [Option.none_or] at hend
  obtain ⟨hspared', hnot⟩ := (spared_append interpreter _ states state).mp hspared
  have hnow := hstart.run hlawful hspared'
  rw [resumed_append] at hend htaken ⊢
  have hsettled : (interpret interpreter (resumed interpreter (.original actions) states)
        state).progress.Closed ∧
      (interpret interpreter (resumed interpreter (.original actions) states)
          state).progress.standing ≠ .stuck ∧
        (interpret interpreter (resumed interpreter (.original actions) states)
          state).progress.standing ≠ .abandoned := by
    cases hnow.stage with
    | taken htaken' => cases hnot.symm.trans htaken'
    | routed hrouting hoffering hreply hbatch hslots hshut =>
      have hran := interpret_follows hlawful hnow.sound hoffering state
      refine ⟨hran.closed hready, settled_of_ready hreplies hran ?_ hready htaken⟩
      rw [hbatch]
      split <;> nofun
    | unrouted creations hrouting hcreations hoffering hslots =>
      have hran := interpret_offers hlawful hnow.sound hoffering state
      have hbatch := hreplies.batch state creations
      rcases hroute : interpreter.interpretCreations state ⟨some creations, none⟩ with
        ⟨state', loan, _ | _⟩
      · rw [hroute] at hran hbatch
        obtain ⟨reply, heq⟩ := hbatch rfl
        obtain rfl : loan = ⟨none, some reply⟩ := heq
        refine ⟨hran.closed hready, settled_of_ready hreplies hran ?_ hready htaken⟩
        simp only [BirthsProgress.batch]
        split <;> nofun
      · rw [hroute] at hran
        cases hready.symm.trans hran.poll
  obtain ⟨hclosed, hunstuck⟩ := hsettled
  have hcompleted : ∃ received, (interpret interpreter
      (resumed interpreter (.original actions) states) state).progress = .completed received := by
    have hclosed' := hclosed
    unfold Closed at hclosed'
    cases h : (interpret interpreter (resumed interpreter (.original actions) states)
        state).progress.standing with
    | stuck => exact absurd h hunstuck.1
    | abandoned => exact absurd h hunstuck.2
    | through | corrupt =>
      rw [h] at hclosed'
      exact hclosed'.imp' _ fun _ h => h
  have hoffering : (interpret interpreter (resumed interpreter (.original actions) states)
      state).progress.offering = none := by
    obtain ⟨received, heq⟩ := hcompleted
    rw [heq]
    rfl
  exact recorded_run hend hclosed hoffering hunstuck

/-- An interpreter that is pending when its state says so, with what it was offered left alone, and
accepts it otherwise. -/
def pending : Interpreter Numbers Bool where
  interpretItem waits loan :=
    if waits then (false, loan, .abandoned) else (false, ⟨none, some (.accepted ())⟩, .ready)
  interpretCreations waits loan :=
    if waits then (false, loan, .abandoned)
    else (false, ⟨none, loan.input.map .accepted⟩, .ready)
  dispatchBirth _ _ := (false, some (.accepted ()))

theorem pending_lawful : pending.Lawful where
  item := by
    intro waits item
    cases waits
    · exact .inr rfl
    · exact .inl rfl
  batch := by
    intro waits creations
    cases waits
    · exact .inr rfl
    · exact .inl rfl

theorem pending_replies : pending.Replies where
  item := by
    intro waits item hready
    cases waits
    · exact ⟨.accepted (), rfl⟩
    · cases hready
  batch := by
    intro waits creations hready
    cases waits
    · exact ⟨.accepted creations, rfl⟩
    · cases hready

/-- A creation and an item. -/
def errand : Actions Numbers := ⟨.lane .vec [0], .births [7], ()⟩

/-- A creation and an item, interrupted at the batch. -/
theorem interpret_resumes_pending :
    resumed pending (.original errand) [true, false] =
      (interpret recorded (.original errand)
        (.accepted [7], [.birth (.accepted ()), .item (.accepted ())])).progress := by
  have htaken : .taken ∉ (resumed pending (.original errand) [true, false]).slots := by
    have hslots : (resumed pending (.original errand) [true, false]).slots =
        [.replied (.birth (.accepted ())), .replied (.item (.accepted ()))] := rfl
    rw [hslots]
    simp
  exact ((interpret_resumes pending_lawful errand [true]).2 false ⟨rfl, rfl, trivial⟩
    pending_replies rfl htaken).2

/-- An interpreter that takes a batch and is pending while it routes it. -/
def routing : Interpreter Numbers Bool where
  interpretItem _ _ := (false, ⟨none, some (.accepted ())⟩, .ready)
  interpretCreations waits loan :=
    if waits then (false, ⟨none, none⟩, .abandoned)
    else (false, ⟨none, loan.input.map .accepted⟩, .ready)
  dispatchBirth _ _ := (false, some (.accepted ()))

/-- **A call that is abandoned while a batch is routed is followed by a second invocation** for the
batch, whose creations are gone. -/
theorem not_resumes_routing :
    routing.Lawful ∧
      (interpret routing (resumed routing (.original ⟨.noSends, .births [7], ()⟩) [true])
        false).calls = [.batch ⟨none, none⟩] ∧
      ¬Resumes routing (.original ⟨.noSends, .births [7], ()⟩) [true, false] := by
  refine ⟨⟨fun _ _ => .inr rfl, fun waits _ => ?_⟩, rfl, fun h => ?_⟩
  · cases waits <;> exact .inr rfl
  · exact not_faithful_of_taken routing rfl false h.2.1

end ActionsProgress

end Bombay.Effects
