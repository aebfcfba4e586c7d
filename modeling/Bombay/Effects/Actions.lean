/-
# Interpreting actions

`crates/behavior/src/effects/actions.rs`: the routing of a creation batch, the creation of
the routed children, and `Actions::interpret`, which interprets the creations before the
sends.
-/

import Bombay.Effects.Sending

namespace Bombay.Effects

variable {T : ActionTypes} {σ : Type}

/-! ### Creations -/

/-- `CreationInterpretationCustody`. -/
inductive CreationInterpretationCustody (T : ActionTypes) where
  | routing (loan : Loan (List T.Create) (RoutingReply T))
  | children (rows : List (Loan T.Routed (BirthReply T)))

/-- The progress of `Births`. -/
abbrev BirthsProgress (T : ActionTypes) :=
  InterpretationProgress (List T.Create) (CreationInterpretationCustody T) (CreationSettlement T)

namespace BirthsProgress

/-- `prepare_creations`. -/
def prepare : BirthsProgress T → BirthsProgress T
  | .original input => .interpreting (.routing ⟨some input, none⟩)
  | retained => retained

/-- `finish_routing`. -/
def finishRouting : BirthsProgress T → BirthsProgress T
  | .interpreting (.routing ⟨none, some (.accepted routed)⟩) =>
    .interpreting (.children (routed.map fun input => ⟨some input, none⟩))
  | .interpreting (.routing ⟨none, some (.rejected item _)⟩) =>
    .completed (.complete (.rejected item))
  | .interpreting (.routing ⟨none, some (.corrupt item fault)⟩) =>
    .completed (.corrupt (.corrupt item fault))
  | retained => retained

/-- The loop of `interpret_creations` over the routed creations, with `settle_child`. -/
def interpretChildren (interpreter : Interpreter T σ) (state : σ) :
    List (Loan T.Routed (BirthReply T)) → Ran T σ (List (Loan T.Routed (BirthReply T)))
  | [] => ⟨[], state, [], .ready⟩
  | ⟨none, some received⟩ :: rest =>
    if received.isCorrupt then ⟨⟨none, some received⟩ :: rest, state, [], .ready⟩
    else
      let next := interpretChildren interpreter state rest
      { next with progress := ⟨none, some received⟩ :: next.progress }
  | ⟨some creation, none⟩ :: rest =>
    match interpreter.dispatchBirth state creation with
    | (state, none) => ⟨⟨none, none⟩ :: rest, state, [.birth creation], .abandoned⟩
    | (state, some received) =>
      if received.isCorrupt then
        ⟨⟨none, some received⟩ :: rest, state, [.birth creation], .ready⟩
      else
        let next := interpretChildren interpreter state rest
        ⟨⟨none, some received⟩ :: next.progress, next.state, .birth creation :: next.calls,
          next.poll⟩
  | row :: rest => ⟨row :: rest, state, [], .ready⟩

/-- `matches!(received, Some(ItemSettlement::Corrupt { .. }))`. -/
def isCorruptChild (row : Loan T.Routed (BirthReply T)) : Bool :=
  match row.received with
  | some received => received.isCorrupt
  | none => false

/-- The `complete` of `finish_creations`: everything up to the first corrupt row is attempted, and
everything after it is untouched. -/
def isComplete (rows : List (Loan T.Routed (BirthReply T))) : Bool :=
  rows.zipIdx.all fun (row, index) =>
    match rows.findIdx? isCorruptChild with
    | some corrupt =>
      if corrupt < index then row.input.isSome && row.received.isNone
      else row.input.isNone && row.received.isSome
    | none => row.input.isNone && row.received.isSome

/-- What `finish_creations` makes of a row. -/
def settledChild : Loan T.Routed (BirthReply T) → Option (BirthResult T)
  | ⟨none, some received⟩ => some (.attempted received)
  | ⟨some input, none⟩ => some (.unattempted input)
  | _ => none

/-- `finish_creations`. -/
def finish (progress : BirthsProgress T) : BirthsProgress T :=
  match progress.finishRouting with
  | .interpreting (.children rows) =>
    if isComplete rows then
      let settlement := CreationSettlement.settled (rows.filterMap settledChild)
      .completed (if rows.any isCorruptChild then .corrupt settlement else .complete settlement)
    else .interpreting (.children rows)
  | retained => retained

/-- `interpret_creations`, once the batch is routed. -/
def interpretRouted (interpreter : Interpreter T σ) (progress : BirthsProgress T) (state : σ) :
    Ran T σ (BirthsProgress T) :=
  match progress.finishRouting with
  | .interpreting (.children rows) =>
    let ran := interpretChildren interpreter state rows
    match ran.poll with
    | .abandoned => { ran with progress := .interpreting (.children ran.progress) }
    | .ready => { ran with progress := finish (.interpreting (.children ran.progress)) }
  | retained => ⟨retained, state, [], .ready⟩

/-- `interpret_creations`. -/
def interpret (interpreter : Interpreter T σ) (progress : BirthsProgress T) (state : σ) :
    Ran T σ (BirthsProgress T) :=
  match progress.prepare with
  | .interpreting (.routing loan) =>
    -- The loan is offered whatever it holds: nothing here asks whether the batch was taken.
    let (state, routed, poll) := interpreter.interpretCreations state loan
    match poll with
    | .abandoned => ⟨.interpreting (.routing routed), state, [.batch loan], .abandoned⟩
    | .ready =>
      let ran := interpretRouted interpreter (.interpreting (.routing routed)) state
      { ran with calls := .batch loan :: ran.calls }
  | retained => interpretRouted interpreter retained state

end BirthsProgress

/-- The progress of a creation batch, in each `BirthMode`. -/
inductive CreatesProgress (T : ActionTypes) where
  | noBirths (progress : InterpretationProgress Unit Empty Unit)
  | births (progress : BirthsProgress T)
  | retirement
      (progress : InterpretationProgress (List T.Create) (BirthsProgress T)
        (RetirementCreationSettlement T))

namespace CreatesProgress

/-- `InterpretationProgress::Original`. -/
def original : Creates T → CreatesProgress T
  | .noBirths => noBirths (.original ())
  | .births creations => births (.original creations)
  | .retirement creations => retirement (.original creations)

/-- `CreationSettlements::finish_interpretation`. -/
def finish : CreatesProgress T → CreatesProgress T
  | noBirths (.original ()) => noBirths (.completed (.complete ()))
  | births progress => births progress.finish
  | retirement (.interpreting (.completed received)) =>
    retirement (.completed (received.map .mk))
  | retained => retained

/-- `InterpretCreations::interpret_creations`. -/
def interpret (interpreter : Interpreter T σ) (progress : CreatesProgress T) (state : σ) :
    Ran T σ (CreatesProgress T) :=
  match progress with
  | noBirths (.original ()) => ⟨noBirths (.completed (.complete ())), state, [], .ready⟩
  | noBirths retained => ⟨noBirths retained, state, [], .ready⟩
  | births progress =>
    let ran := progress.interpret interpreter state
    { ran with progress := births ran.progress }
  | retirement (.completed received) => ⟨retirement (.completed received), state, [], .ready⟩
  | retirement (.original creations) => interpretBase (.original creations)
  | retirement (.interpreting base) => interpretBase base
where
  /-- `InterpretCreations` for `RetirementBirths`, once it is prepared. -/
  interpretBase (base : BirthsProgress T) : Ran T σ (CreatesProgress T) :=
    let ran := base.interpret interpreter state
    match ran.poll with
    | .abandoned => { ran with progress := retirement (.interpreting ran.progress) }
    | .ready => { ran with progress := finish (retirement (.interpreting ran.progress.finish)) }

/-- The settlement of a completed batch. -/
def completed : CreatesProgress T → Option (Interpretation (CreatesSettlement T))
  | noBirths (.completed received) => some (received.map fun _ => .noBirths)
  | births (.completed received) => some (received.map .births)
  | retirement (.completed received) => some (received.map .retirement)
  | _ => none

end CreatesProgress

/-! ### Actions -/

/-- The progress of `Actions`. -/
abbrev ActionsProgress (T : ActionTypes) :=
  InterpretationProgress (Actions T) ((CreatesProgress T × SendsProgress T) × T.Become)
    (ActionSettlement T)

namespace ActionsProgress

/-- `Actions::prepare_interpretation`. -/
def prepare : ActionsProgress T → ActionsProgress T
  | .original actions =>
    .interpreting ((.original actions.creates, .original actions.sends), actions.become)
  | retained => retained

/-- What `Actions::finish_interpretation` makes of two completed halves. -/
def combine (become : T.Become) (creations : Interpretation (CreatesSettlement T))
    (sends : Interpretation (Lanes (ItemResult T))) : Interpretation (ActionSettlement T) :=
  match creations, sends with
  | .complete creations, .complete sends => .complete ⟨creations, sends, become⟩
  | .complete creations, .corrupt sends => .corrupt ⟨creations, sends, become⟩
  | .corrupt creations, .corrupt sends => .corrupt ⟨creations, sends, become⟩
  | .corrupt creations, .complete sends => .corrupt ⟨creations, sends, become⟩

/-- `Actions::finish_interpretation`. -/
def finish : ActionsProgress T → ActionsProgress T
  | .interpreting ((creates, .completed sends), become) =>
    match creates.completed with
    | some creations => .completed (combine become creations sends)
    | none => .interpreting ((creates, .completed sends), become)
  | retained => retained

/-- `Actions::interpret`. -/
def interpret (interpreter : Interpreter T σ) (progress : ActionsProgress T) (state : σ) :
    Ran T σ (ActionsProgress T) :=
  match progress.prepare with
  | .interpreting ((creates, sends), become) =>
    let ran := creates.interpret interpreter state
    match ran.poll with
    | .abandoned => { ran with progress := .interpreting ((ran.progress, sends), become) }
    | .ready =>
      let creates := ran.progress.finish
      match creates.completed with
      | some (.complete _) =>
        let next := sends.interpret interpreter ran.state
        match next.poll with
        | .abandoned =>
          ⟨.interpreting ((creates, next.progress), become), next.state,
            ran.calls ++ next.calls, .abandoned⟩
        | .ready =>
          ⟨finish (.interpreting ((creates, next.progress.finish), become)), next.state,
            ran.calls ++ next.calls, .ready⟩
      | some (.corrupt _) =>
        { ran with progress := finish (.interpreting ((creates, sends.unattempted), become)) }
      | none => { ran with progress := .interpreting ((creates, sends), become) }
  | retained => ⟨retained, state, [], .ready⟩

end ActionsProgress
end Bombay.Effects
