/-
# Offering settlements to their source

`SourceSettlementCustody` of `crates/behavior/src/effects/sending.rs` and
`crates/behavior/src/effects/actions.rs`: how a host admits the settlements of actions one
at a time, and what stays in custody.

A call of `prepare_source`, `offer_next_to_source` or `finish_source` is a function of the
slot.  The residual of one round is the settlement that the next one starts from.
-/

import Bombay.Effects.Actions

namespace Bombay.Effects

variable {T : ActionTypes} {σ : Type}

/-- `SourceCustody`. -/
inductive SourceCustody (Residual : Type) where
  | exhausted (residual : Residual)
  | retained (residual : Residual)
  | admitted (residual : Residual)
  | closed (residual : Residual)

namespace SourceCustody

variable {Residual Mapped : Type}

/-- `SourceCustody::map`. -/
def map (f : Residual → Mapped) : SourceCustody Residual → SourceCustody Mapped
  | exhausted residual => exhausted (f residual)
  | retained residual => retained (f residual)
  | admitted residual => admitted (f residual)
  | closed residual => closed (f residual)

end SourceCustody

/-- `SourceProgress`. -/
inductive SourceProgress (Settlement Custody : Type) where
  | original (settlement : Settlement)
  | offering (custody : Custody)
  | completed (answer : SourceCustody Settlement)

/-- `(Option<Input>, Option<Result<(), Input>>)`: an input on loan to a host, and its answer. -/
abbrev SourceLoan (Input : Type) := Loan Input (Except Input Unit)

/-- An input that was offered to a host: a creation batch, or one item of a `SourceSettlements`. -/
inductive SourceInput (T : ActionTypes) where
  | creations (settlement : CreationSettlement T)
  | item (result : ItemResult T)

/-- **A host**: `SourceAdmission::admit_source` for each kind of input, and `retain_accepted` of the
items. -/
structure Host (T : ActionTypes) (σ : Type) where
  admitCreations : σ → SourceLoan (CreationSettlement T) → σ × SourceLoan (CreationSettlement T)
  admitItem : σ → SourceLoan (ItemResult T) → σ × SourceLoan (ItemResult T)
  retainAccepted : T.Accepted → Option T.Accepted

/-- What a call of `offer_next_to_source` leaves: its slot, the host, and the inputs it offered. -/
structure Offered (T : ActionTypes) (σ Slot : Type) where
  slot : Slot
  state : σ
  inputs : List (SourceInput T)

/-! ### Two parts in order -/

section Pair

variable {Earlier Later EarlierCustody LaterCustody : Type}

/-- `offer_source_in_order`, given what becomes of each part when it is its turn: prepared if it is
original, then offered and finished. -/
def offerSourceInOrder (earlier : σ → Offered T σ (SourceProgress Earlier EarlierCustody))
    (later : σ → Offered T σ (SourceProgress Later LaterCustody))
    (untouched : SourceProgress Later LaterCustody) (state : σ) :
    Offered T σ (SourceProgress Earlier EarlierCustody × SourceProgress Later LaterCustody) :=
  let first := earlier state
  match first.slot with
  | .completed (.exhausted _) | .completed (.retained _) =>
    let second := later first.state
    ⟨(first.slot, second.slot), second.state, first.inputs ++ second.inputs⟩
  | _ => ⟨(first.slot, untouched), first.state, first.inputs⟩

/-- What `finish_source` makes of two parts; nothing if they are not finished. -/
def finishPair :
    SourceProgress Earlier EarlierCustody × SourceProgress Later LaterCustody →
      Option (SourceCustody (Earlier × Later))
  | (.completed (.admitted earlier), .original later) => some (.admitted (earlier, later))
  | (.completed (.closed earlier), .original later) => some (.closed (earlier, later))
  | (.completed (.exhausted earlier), .completed later) =>
    some (later.map fun later => (earlier, later))
  | (.completed (.retained earlier), .completed later) =>
    some (match later with
      | .exhausted later => .retained (earlier, later)
      | .retained later => .retained (earlier, later)
      | .admitted later => .admitted (earlier, later)
      | .closed later => .closed (earlier, later))
  | _ => none

end Pair

/-! ### Sends -/

/-- `SourceProgress` of settled sends: `NoSends` is its own custody, `SourceSettlements` has one input
on loan, other lanes go through their results, and a layer has a slot for each half. -/
inductive SendsSource (T : ActionTypes) where
  | original (sends : Lanes (ItemResult T))
  | noSends
  | source (loan : SourceLoan (ItemResult T)) (remaining : List (ItemResult T))
  | lane (kind : LaneKind) (retained remaining : List (ItemResult T))
  | layer (inner owned : SendsSource T)
  | completed (answer : SourceCustody (Lanes (ItemResult T)))

/-- What a plain lane keeps of a result: accepted receipts only as `retain_accepted` says. -/
def keep (retainAccepted : T.Accepted → Option T.Accepted) (result : ItemResult T) :
    Option (ItemResult T) :=
  match result with
  | .attempted (.accepted accepted) =>
    (retainAccepted accepted).map fun accepted => .attempted (.accepted accepted)
  | result => some result

namespace SendsSource

/-- The slot of a half, as `offer_source_in_order` and the pair's `finish_source` look at it. -/
def progress : SendsSource T → SourceProgress (Lanes (ItemResult T)) (SendsSource T)
  | original sends => .original sends
  | completed answer => .completed answer
  | custody => .offering custody

/-- The slot that is looked at. -/
def ofProgress : SourceProgress (Lanes (ItemResult T)) (SendsSource T) → SendsSource T
  | .original sends => original sends
  | .offering custody => custody
  | .completed answer => completed answer

/-- `prepare_source`. -/
def prepare : SendsSource T → SendsSource T
  | original .noSends => completed (.exhausted .noSends)
  | original (.lane kind []) => completed (.exhausted (.lane kind []))
  | original (.lane .sourceActions (input :: remaining)) => source ⟨some input, none⟩ remaining
  | original (.lane kind results) => lane kind [] results
  | original (.layer owned inner) => layer (original inner) (original owned)
  | retained => retained

/-- `finish_source`. -/
def finish : SendsSource T → SendsSource T
  | original .noSends => completed (.exhausted .noSends)
  | noSends => completed (.exhausted .noSends)
  | source ⟨none, some (.ok ())⟩ remaining =>
    completed (.admitted (.lane .sourceActions remaining))
  | source ⟨none, some (.error input)⟩ remaining =>
    completed (.closed (.lane .sourceActions (input :: remaining)))
  | lane kind retained [] =>
    if retained.isEmpty then completed (.exhausted (.lane kind retained))
    else completed (.retained (.lane kind retained))
  | layer inner owned =>
    match finishPair (inner.progress, owned.progress) with
    | some answer => completed (answer.map fun (inner, owned) => .layer owned inner)
    | none => layer inner owned
  | retained => retained

/-- `offer_next_to_source` of a `SourceSettlements`. -/
def offerSource (host : Host T σ) (loan : SourceLoan (ItemResult T))
    (remaining : List (ItemResult T)) (state : σ) : Offered T σ (SendsSource T) :=
  match loan.received with
  | none =>
    let (state, loan') := host.admitItem state loan
    ⟨source loan' remaining, state, loan.input.toList.map .item⟩
  | some _ => ⟨source loan remaining, state, []⟩

/-- `offer_next_to_source` of a plain lane. -/
def offerLane (host : Host T σ) (kind : LaneKind) (retained remaining : List (ItemResult T))
    (state : σ) : Offered T σ (SendsSource T) :=
  ⟨lane kind (retained ++ remaining.filterMap (keep host.retainAccepted)) [], state, []⟩

/-- `finish_source` after `offer_next_to_source`. -/
def finished (offered : Offered T σ (SendsSource T)) :
    Offered T σ (SourceProgress (Lanes (ItemResult T)) (SendsSource T)) :=
  { offered with slot := offered.slot.finish.progress }

/-- `offer_next_to_source` of a `SendLayer`, given what becomes of its halves. -/
def offerLayer (inner owned : σ → Offered T σ (SendsSource T)) (untouched : SendsSource T)
    (state : σ) : Offered T σ (SendsSource T) :=
  let offered := offerSourceInOrder (fun state => finished (inner state))
    (fun state => finished (owned state)) untouched.progress state
  { offered with slot := layer (ofProgress offered.slot.1) (ofProgress offered.slot.2) }

/-- `prepare_source` and then `offer_next_to_source` of settled sends that are untouched. -/
def offerOriginal (host : Host T σ) : Lanes (ItemResult T) → σ → Offered T σ (SendsSource T)
  | .noSends => fun state => ⟨completed (.exhausted .noSends), state, []⟩
  | .lane kind results =>
    match prepare (original (.lane kind results)) with
    | source loan remaining => offerSource host loan remaining
    | lane kind retained remaining => offerLane host kind retained remaining
    | other => fun state => ⟨other, state, []⟩
  | .layer owned inner =>
    offerLayer (offerOriginal host inner) (offerOriginal host owned) (original owned)

/-- `prepare_source` if a slot is original, and then `offer_next_to_source`. -/
def offer (host : Host T σ) : SendsSource T → σ → Offered T σ (SendsSource T)
  | original sends => offerOriginal host sends
  | source loan remaining => offerSource host loan remaining
  | lane kind retained remaining => offerLane host kind retained remaining
  | layer inner owned => offerLayer (offer host inner) (offer host owned) owned
  | other => fun state => ⟨other, state, []⟩

end SendsSource

/-! ### Creations -/

/-- The custody of a settled batch: on loan to the host, or the settlement itself. -/
inductive CreatesCustody (T : ActionTypes) where
  | loan (loan : SourceLoan (CreationSettlement T))
  | held (creations : CreatesSettlement T)

/-- `SourceProgress` of a settled batch. -/
abbrev CreatesSource (T : ActionTypes) := SourceProgress (CreatesSettlement T) (CreatesCustody T)

/-- `matches!(&original, CreationSettlement::Settled(settlements) if settlements.is_empty())`. -/
def CreationSettlement.isEmpty : CreationSettlement T → Bool
  | .settled settlements => settlements.isEmpty
  | _ => false

namespace CreatesSource

/-- `prepare_source`. -/
def prepare : CreatesSource T → CreatesSource T
  | .original .noBirths => .completed (.exhausted .noBirths)
  | .original (.births settlement) =>
    if settlement.isEmpty then .completed (.exhausted (.births settlement))
    else .offering (.loan ⟨some settlement, none⟩)
  | .original (.retirement settlement) =>
    if settlement.settlement.isEmpty then .completed (.exhausted (.retirement settlement))
    else .completed (.retained (.retirement settlement))
  | retained => retained

/-- `finish_source`. -/
def finish : CreatesSource T → CreatesSource T
  | .offering (.loan ⟨none, some (.ok ())⟩) => .completed (.admitted (.births (.settled [])))
  | .offering (.loan ⟨none, some (.error returned)⟩) => .completed (.closed (.births returned))
  | .original .noBirths => .completed (.exhausted .noBirths)
  | .offering (.held .noBirths) => .completed (.exhausted .noBirths)
  | .original (.retirement settlement) => finishRetirement settlement
  | .offering (.held (.retirement settlement)) => finishRetirement settlement
  | retained => retained
where
  /-- `finish_source` of a `RetirementCreationSettlement`. -/
  finishRetirement (settlement : RetirementCreationSettlement T) : CreatesSource T :=
    if settlement.settlement.isEmpty then .completed (.exhausted (.retirement settlement))
    else .completed (.retained (.retirement settlement))

/-- `offer_next_to_source`. -/
def offerNext (host : Host T σ) (custody : CreatesCustody T) (state : σ) :
    Offered T σ (CreatesCustody T) :=
  match custody with
  | .loan loan =>
    match loan.received with
    | none =>
      let (state, loan') := host.admitCreations state loan
      ⟨.loan loan', state, loan.input.toList.map .creations⟩
    | some _ => ⟨.loan loan, state, []⟩
  | .held creations => ⟨.held creations, state, []⟩

/-- The turn of a batch in `offer_source_in_order`. -/
def turn (host : Host T σ) (progress : CreatesSource T) (state : σ) :
    Offered T σ (CreatesSource T) :=
  match prepare progress with
  | .offering custody =>
    let offered := offerNext host custody state
    { offered with slot := finish (.offering offered.slot) }
  | other => ⟨other, state, []⟩

end CreatesSource

/-! ### Actions -/

/-- `SourceProgress` of settled actions. -/
abbrev ActionsSource (T : ActionTypes) :=
  SourceProgress (ActionSettlement T) ((CreatesSource T × SendsSource T) × T.Become)

namespace ActionsSource

/-- `prepare_source`. -/
def prepare : ActionsSource T → ActionsSource T
  | .original settlement =>
    .offering ((.original settlement.creations, .original settlement.sends), settlement.become)
  | retained => retained

/-- `offer_next_to_source`. -/
def offerNext (host : Host T σ) (custody : (CreatesSource T × SendsSource T) × T.Become)
    (state : σ) : Offered T σ ((CreatesSource T × SendsSource T) × T.Become) :=
  let ((creations, sends), become) := custody
  let offered := offerSourceInOrder (CreatesSource.turn host creations)
    (fun state => SendsSource.finished (sends.offer host state)) sends.progress state
  { offered with slot := ((offered.slot.1, SendsSource.ofProgress offered.slot.2), become) }

/-- `finish_source`. -/
def finish : ActionsSource T → ActionsSource T
  | .offering ((creations, sends), become) =>
    match finishPair (creations, sends.progress) with
    | some answer => .completed (answer.map fun (creations, sends) => ⟨creations, sends, become⟩)
    | none => .offering ((creations, sends), become)
  | retained => retained

/-- **One round**: `prepare_source`, `offer_next_to_source` and `finish_source`. -/
def round (host : Host T σ) (settlement : ActionSettlement T) (state : σ) :
    Offered T σ (ActionsSource T) :=
  match prepare (.original settlement) with
  | .offering custody =>
    let offered := offerNext host custody state
    { offered with slot := finish (.offering offered.slot) }
  | other => ⟨other, state, []⟩

/-- **Rounds while the answer is `Admitted`**, at most as many as there is fuel. -/
def rounds (host : Host T σ) : ℕ → ActionSettlement T → σ →
    Option (Offered T σ (SourceCustody (ActionSettlement T)))
  | 0, _, _ => none
  | fuel + 1, settlement, state =>
    let offered := round host settlement state
    match offered.slot with
    | .completed (.admitted residual) =>
      (rounds host fuel residual offered.state).map fun later =>
        { later with inputs := offered.inputs ++ later.inputs }
    | .completed answer => some ⟨answer, offered.state, offered.inputs⟩
    | _ => none

end ActionsSource
end Bombay.Effects
