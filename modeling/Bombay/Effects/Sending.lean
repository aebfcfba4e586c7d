/-
# Interpreting sends

`crates/behavior/src/effects/sending.rs`: the custody of one item, of a lane and of a
`SendLayer`, and the traversal that goes through them inner to outer.

A function of the source that is called on a slot is a function from what the slot held
to what it holds.  The lanes differ in their types only: `interpret_items` and the two
loops written out for `InterpreterRequests` and `SourceActions` are one function here.
-/

import Bombay.Effects.Settlement

namespace Bombay.Effects

variable {T : ActionTypes} {σ : Type}

/-! ### One item -/

/-- The progress of one item. -/
abbrev ItemProgress (T : ActionTypes) :=
  InterpretationProgress T.Item (Loan T.Item (Reply T)) (Reply T)

/-- `prepare_item`. -/
def prepareItem : ItemProgress T → ItemProgress T
  | .original item => .interpreting ⟨some item, none⟩
  | retained => retained

/-- `ActionItem::interpretation_input`. -/
def interpretationInput (custody : Loan T.Item (Reply T)) : Option (Loan T.Item (Reply T)) :=
  match custody with
  | ⟨some item, none⟩ => some ⟨some item, none⟩
  | _ => none

/-- `finish_item`. -/
def finishItem : ItemProgress T → ItemProgress T
  | .interpreting ⟨none, some received⟩ =>
    .completed (if received.isCorrupt then .corrupt received else .complete received)
  | retained => retained

/-- `settle_item`. -/
def settleItem (interpreter : Interpreter T σ) (state : σ) (progress : ItemProgress T) :
    Ran T σ (ItemProgress T) :=
  match prepareItem progress with
  | .interpreting custody =>
    match interpretationInput custody with
    | some loan =>
      let (state, custody, poll) := interpreter.interpretItem state loan
      ⟨.interpreting custody, state, [.item loan], poll⟩
    | none => ⟨.interpreting custody, state, [], .ready⟩
  | retained => ⟨retained, state, [], .ready⟩

/-! ### The rows of a lane -/

/-- The loop of `interpret_items`, of `InterpreterRequests::interpret` and of
`SourceActions::interpret`. -/
def interpretRows (interpreter : Interpreter T σ) (state : σ) :
    List (ItemProgress T) → Ran T σ (List (ItemProgress T))
  | [] => ⟨[], state, [], .ready⟩
  | .completed (.corrupt received) :: rest =>
    ⟨.completed (.corrupt received) :: rest, state, [], .ready⟩
  | .completed (.complete received) :: rest =>
    let next := interpretRows interpreter state rest
    { next with progress := .completed (.complete received) :: next.progress }
  | row :: rest =>
    let settled := settleItem interpreter state row
    match settled.poll with
    | .abandoned => { settled with progress := settled.progress :: rest }
    | .ready =>
      match finishItem settled.progress with
      | .completed (.complete received) =>
        let next := interpretRows interpreter settled.state rest
        ⟨.completed (.complete received) :: next.progress, next.state,
          settled.calls ++ next.calls, next.poll⟩
      | row => { settled with progress := row :: rest }

/-- `matches!(row, Some(InterpretationProgress::Completed(Interpretation::Corrupt(_))))`. -/
def isCorruptRow : ItemProgress T → Bool
  | .completed (.corrupt _) => true
  | _ => false

/-- What `finish_item_rows` makes of a row; nothing of one that is still on loan. -/
def settledRow : ItemProgress T → Option (ItemResult T)
  | .original item => some (.unattempted item)
  | .completed received => some (.attempted received.settlement)
  | .interpreting _ => none

/-- `matches!(row, Some(InterpretationProgress::Original(_)))`. -/
def isOriginalRow : ItemProgress T → Bool
  | .original _ => true
  | _ => false

/-- `matches!(row, Some(InterpretationProgress::Completed(_)))`. -/
def isCompletedRow : ItemProgress T → Bool
  | .completed _ => true
  | _ => false

/-- The `complete` of `finish_item_rows`: everything up to the first corrupt row is completed, and
everything after it is original. -/
def isComplete (rows : List (ItemProgress T)) : Bool :=
  rows.zipIdx.all fun (row, index) =>
    match rows.findIdx? isCorruptRow with
    | some corrupt => if corrupt < index then isOriginalRow row else isCompletedRow row
    | none => isCompletedRow row

/-- `finish_item_rows`: the rows that stay, or what they are settled as. -/
def finishItemRows (rows : List (ItemProgress T)) :
    List (ItemProgress T) ⊕ Interpretation (List (ItemResult T)) :=
  let rows := rows.map finishItem
  if isComplete rows then
    let settled := rows.filterMap settledRow
    if rows.any isCorruptRow then .inr (.corrupt settled) else .inr (.complete settled)
  else .inl rows

/-! ### Lanes and layers -/

/-- The progress of a send product: `InterpretationProgress` of a lane, whose custody is a vector of
rows, or of a `SendLayer`, whose custody is a slot for each of its halves. -/
inductive SendsProgress (T : ActionTypes) where
  | original (sends : Lanes T.Item)
  | rows (kind : LaneKind) (rows : List (ItemProgress T))
  | layer (owned inner : SendsProgress T)
  | completed (received : Interpretation (Lanes (ItemResult T)))

namespace SendsProgress

/-- What `SendLayer::finish_interpretation` makes of two completed halves. -/
def combine (inner owned : Interpretation (Lanes (ItemResult T))) :
    Interpretation (Lanes (ItemResult T)) :=
  match inner, owned with
  | .complete inner, .complete owned => .complete (.layer owned inner)
  | .complete inner, .corrupt owned => .corrupt (.layer owned inner)
  | .corrupt inner, .corrupt owned => .corrupt (.layer owned inner)
  | .corrupt inner, .complete owned => .corrupt (.layer owned inner)

/-- `finish_interpretation`. -/
def finish : SendsProgress T → SendsProgress T
  | original .noSends => completed (.complete .noSends)
  | rows kind items =>
    match finishItemRows items with
    | .inl items => rows kind items
    | .inr received => completed (received.map (.lane kind))
  | layer (completed owned) (completed inner) => completed (combine inner owned)
  | retained => retained

/-- `unattempted` of a product that is untouched. -/
def unattemptedSends : Lanes T.Item → SendsProgress T
  | .noSends => completed (.complete .noSends)
  | .lane kind items => completed (.complete (.lane kind (items.map .unattempted)))
  | .layer owned inner => finish (layer (unattemptedSends owned) (unattemptedSends inner))

/-- `unattempted`. -/
def unattempted : SendsProgress T → SendsProgress T
  | original sends => unattemptedSends sends
  | layer owned inner => finish (layer owned.unattempted inner.unattempted)
  | retained => retained

/-- `InterpretSends::interpret` of a lane, once it is prepared. -/
def interpretLane (interpreter : Interpreter T σ) (kind : LaneKind)
    (items : List (ItemProgress T)) (state : σ) : Ran T σ (SendsProgress T) :=
  let ran := interpretRows interpreter state items
  match ran.poll with
  | .abandoned => { ran with progress := rows kind ran.progress }
  | .ready => { ran with progress := finish (rows kind ran.progress) }

/-- `InterpretSends::interpret` of a `SendLayer`, once it is prepared, given what becomes of its
halves; `untouched` is the slot of the owned half. -/
def interpretLayer (inner owned : σ → Ran T σ (SendsProgress T)) (untouched : SendsProgress T)
    (state : σ) : Ran T σ (SendsProgress T) :=
  let ran := inner state
  match ran.poll with
  | .abandoned => { ran with progress := layer untouched ran.progress }
  | .ready =>
    match finish ran.progress with
    | completed (.complete settlement) =>
      let next := owned ran.state
      match next.poll with
      | .abandoned =>
        ⟨layer next.progress (completed (.complete settlement)), next.state,
          ran.calls ++ next.calls, .abandoned⟩
      | .ready =>
        ⟨finish (layer (finish next.progress) (completed (.complete settlement))), next.state,
          ran.calls ++ next.calls, .ready⟩
    | completed (.corrupt settlement) =>
      { ran with
        progress := finish (layer (unattempted untouched) (completed (.corrupt settlement))) }
    | retained => { ran with progress := layer untouched retained }

/-- `InterpretSends::interpret` of a product that is untouched: `prepare_interpretation` leaves each
half of a layer original, and each row of a lane. -/
def interpretSends (interpreter : Interpreter T σ) : Lanes T.Item → σ → Ran T σ (SendsProgress T)
  | .noSends => fun state => ⟨completed (.complete .noSends), state, [], .ready⟩
  | .lane kind items => interpretLane interpreter kind (items.map .original)
  | .layer owned inner =>
    interpretLayer (interpretSends interpreter inner) (interpretSends interpreter owned)
      (original owned)

/-- `InterpretSends::interpret`. -/
def interpret (interpreter : Interpreter T σ) : SendsProgress T → σ → Ran T σ (SendsProgress T)
  | original sends => interpretSends interpreter sends
  | rows kind items => interpretLane interpreter kind items
  | layer owned inner =>
    interpretLayer (interpret interpreter inner) (interpret interpreter owned) owned
  | completed received => fun state => ⟨completed received, state, [], .ready⟩

end SendsProgress
end Bombay.Effects
