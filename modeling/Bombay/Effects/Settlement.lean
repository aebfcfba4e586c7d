/-
# Action items and their settlements

The values that `crates/behavior/src/effects/actions.rs` and
`crates/behavior/src/effects/sending.rs` move between a transition and the interpreter
of its effects.

The lanes of a send product nest to any depth and have items of their own types.  `Item`
is the sum of these types here, and likewise for receipts, rejections and prerequisites,
so one interpreter sees them all; a product is a tree of `Lanes`.  `Vec<Never>` is a lane
without items and settles like `NoSends`.  Capability items use the standard custody, a
loan of the input and of the place for its reply (`prepare_item`, `finish_item`).

A progress slot is an `Option` in the source, which is empty only between a `take` and
the store that follows it without an `await`; so a slot always holds something here.
-/

import Bombay.Runtime
import Bombay.Lib.Sweep

namespace Bombay.Effects

/-- The type parameters of an action product. -/
structure ActionTypes where
  /-- The items of all lanes, with `ActionItem::Accepted`, `Rejection` and `Prerequisite`. -/
  Item : Type
  Accepted : Type
  Rejection : Type
  Prerequisite : Type
  /-- `CreateChild<A, C>` and `RoutedCreation<A, C>`. -/
  Create : Type
  Routed : Type
  /-- `<C as ChildCreationProduct<A, ChildHead>>::Result`. -/
  Created : Type
  /-- `Become<Ph>`. -/
  Become : Type

/-- `ItemSettlement`. -/
inductive ItemSettlement (Item Accepted Rejection Prerequisite : Type) where
  | accepted (receipt : Accepted)
  | rejected (item : Item) (reason : Rejection)
  | blocked (item : Item) (prerequisite : Prerequisite)
  | corrupt (item : Item) (fault : InterpreterFault)
  deriving DecidableEq

/-- `matches!(received, ItemSettlement::Corrupt { .. })`. -/
def ItemSettlement.isCorrupt {Item Accepted Rejection Prerequisite : Type} :
    ItemSettlement Item Accepted Rejection Prerequisite → Bool
  | .corrupt .. => true
  | _ => false

/-- `Interpretation`. -/
inductive Interpretation (Settlement : Type) where
  | complete (settlement : Settlement)
  | corrupt (settlement : Settlement)
  deriving DecidableEq

namespace Interpretation

variable {Settlement Mapped : Type}

/-- `Interpretation::map`. -/
def map (f : Settlement → Mapped) : Interpretation Settlement → Interpretation Mapped
  | complete settlement => complete (f settlement)
  | corrupt settlement => corrupt (f settlement)

/-- `Interpretation::into_settlement`. -/
def settlement : Interpretation Settlement → Settlement
  | complete settlement => settlement
  | corrupt settlement => settlement

/-- `matches!(_, Interpretation::Corrupt(_))`. -/
def isCorrupt : Interpretation Settlement → Bool
  | complete _ => false
  | corrupt _ => true

end Interpretation

/-- `InterpretationProgress`. -/
inductive InterpretationProgress (Input Custody Settlement : Type) where
  | original (input : Input)
  | interpreting (custody : Custody)
  | completed (received : Interpretation Settlement)

/-- `(Option<Item>, Option<Reply>)`: an input on loan, and the place for its reply. -/
structure Loan (Input Reply : Type) where
  input : Option Input
  received : Option Reply
  deriving DecidableEq

/-- The lane types: `Vec`, `InterpreterRequests` and `SourceActions`. -/
inductive LaneKind where
  | vec
  | interpreterRequests
  | sourceActions
  deriving DecidableEq, Repr

/-- A send product, or what became of one: `SendLayer` over lanes and `NoSends`. -/
inductive Lanes (Row : Type) where
  | noSends
  | lane (kind : LaneKind) (rows : List Row)
  | layer (owned inner : Lanes Row)
  deriving DecidableEq

namespace Lanes

variable {Row Row' : Type}

/-- **The rows of a product, inner to outer**, and in authored order within a lane. -/
def rows : Lanes Row → List Row
  | noSends => []
  | lane _ rows => rows
  | layer owned inner => inner.rows ++ owned.rows

/-- The shape of a product: its layers, the kinds of its lanes and their lengths. -/
def shape : Lanes Row → Lanes Unit
  | noSends => noSends
  | lane kind rows => lane kind (rows.map fun _ => ())
  | layer owned inner => layer owned.shape inner.shape

end Lanes

section Replies

variable (T : ActionTypes)

/-- `ActionItem::Reply` of a lane's items. -/
abbrev Reply := ItemSettlement T.Item T.Accepted T.Rejection T.Prerequisite

/-- The reply to one routed creation. -/
abbrev BirthReply := ItemSettlement T.Routed T.Created CreationRejection Empty

/-- The reply to a creation batch; a `ChildNamespaceExhausted` carries nothing. -/
abbrev RoutingReply := ItemSettlement (List T.Create) (List T.Routed) Unit Empty

/-- `ActionItemResult`. -/
abbrev ItemResult := SettledItem T.Item (Reply T)

/-- The result of one routed creation. -/
abbrev BirthResult := SettledItem T.Routed (BirthReply T)

/-- `CreationSettlement`. -/
inductive CreationSettlement where
  | settled (settlements : List (BirthResult T))
  | rejected (creations : List T.Create)
  | corrupt (creations : List T.Create) (fault : InterpreterFault)

/-- `RetirementCreationSettlement`. -/
structure RetirementCreationSettlement where
  settlement : CreationSettlement T

/-- `Creations<CreateChild<A, Birth::Child>>` with the `BirthMode` it is for: `NoBirths`, whose
creations are uninhabited, `Births` and `RetirementBirths`. -/
inductive Creates where
  | noBirths
  | births (creations : List T.Create)
  | retirement (creations : List T.Create)

/-- `CreationSettlements::Settlements`. -/
inductive CreatesSettlement where
  | noBirths
  | births (settlement : CreationSettlement T)
  | retirement (settlement : RetirementCreationSettlement T)

/-- `Actions`. -/
structure Actions where
  sends : Lanes T.Item
  creates : Creates T
  become : T.Become

/-- `ActionSettlement`. -/
structure ActionSettlement where
  creations : CreatesSettlement T
  sends : Lanes (ItemResult T)
  become : T.Become

/-- One invocation of an interpreter: for a creation batch, a routed creation or an item. -/
inductive Call where
  | batch (loan : Loan (List T.Create) (RoutingReply T))
  | birth (creation : T.Routed)
  | item (loan : Loan T.Item (Reply T))

/-- **An interpreter**: what its state, the loan and the future become.  `dispatchBirth` owns its
creation, so a future that is dropped takes the creation with it. -/
structure Interpreter (σ : Type) where
  interpretItem : σ → Loan T.Item (Reply T) → σ × Loan T.Item (Reply T) × Poll
  interpretCreations : σ → Loan (List T.Create) (RoutingReply T) →
    σ × Loan (List T.Create) (RoutingReply T) × Poll
  dispatchBirth : σ → T.Routed → σ × Option (BirthReply T)

end Replies

/-- What a call of an async function leaves: its slot, the interpreter, the invocations it made, and
whether it ran to its end. -/
structure Ran (T : ActionTypes) (σ Progress : Type) where
  progress : Progress
  state : σ
  calls : List (Call T)
  poll : Poll

end Bombay.Effects
