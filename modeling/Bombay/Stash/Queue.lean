/-
# The stash

`crates/actors/src/stash/queue.rs` and `limit.rs`: a queue of user inputs in front of an
infallible behavior.  A pure route over the inner state decides of each input whether it
is held, delivered, or delivered and followed by a replay of everything held.

The error of the inner behavior is `Never`, and so is its phase.  While a replay runs,
`HeldInputs` owns the unread inputs and puts them behind the held ones when it is
dropped; `drainInto` carries them beside the stash.
-/

import Bombay.Behavior
import Bombay.Lib.Machine

namespace Bombay.Stashing

variable {σ Event Sends Create Address Message Refusals : Type}

/-- `StashRoute`. -/
inductive StashRoute where
  | stash
  | deliver
  | release
  deriving DecidableEq, Repr

/-- `UnlimitedStash`. -/
structure UnlimitedStash (σ Address Message : Type) where
  inner : σ
  route : σ → Message → StashRoute
  held : List (User Address Message)

namespace UnlimitedStash

/-- `UnlimitedStash::new`. -/
def new (inner : σ) (route : σ → Message → StashRoute) : UnlimitedStash σ Address Message :=
  ⟨inner, route, []⟩

/-- `UnlimitedStash::take`. -/
def take (self : UnlimitedStash σ Address Message) :
    UnlimitedStash σ Address Message × List (User Address Message) :=
  ({ self with held := [] }, self.held)

section Transition

variable [UserEvent Event Address Message] [SendEffects Sends]
  (behavior : Behavior σ Event Sends Create Empty Empty)

/-- The loop of `UnlimitedStash::drain_into`. -/
def drainInto (self : UnlimitedStash σ Address Message) (acc : Actions Sends Create Empty) :
    List (User Address Message) →
      UnlimitedStash σ Address Message × Except Empty (Actions Sends Create Empty)
  | [] => (self, .ok acc)
  | user :: unread =>
    match self.route self.inner user.message with
    | .stash => drainInto { self with held := self.held ++ [user] } acc unread
    | .deliver | .release =>
      match behavior.transition self.inner (UserEvent.user user.sender user.message) with
      | (inner, .error error) => ({ self with inner, held := self.held ++ unread }, .error error)
      | (inner, .ok actions) =>
        let acc := { acc with
          sends := SendEffects.append acc.sends actions.sends
          creates := acc.creates ++ actions.creates }
        if actions.stops then
          ({ self with inner, held := self.held ++ unread }, .ok { acc with become := .stop })
        else drainInto { self with inner } acc unread

/-- `UnlimitedStash::receive`. -/
def receive (self : UnlimitedStash σ Address Message) (user : User Address Message) :
    StashRoute → UnlimitedStash σ Address Message × Except Empty (Actions Sends Create Empty)
  | .stash => ({ self with held := self.held ++ [user] }, .ok .cont)
  | .deliver =>
    let (inner, acted) :=
      behavior.transition self.inner (UserEvent.user user.sender user.message)
    ({ self with inner }, acted)
  | .release =>
    match behavior.transition self.inner (UserEvent.user user.sender user.message) with
    | (inner, .error error) => ({ self with inner }, .error error)
    | (inner, .ok actions) =>
      if actions.stops then ({ self with inner }, .ok actions)
      else drainInto behavior { self with inner, held := [] } actions self.held

/-- `UnlimitedStash::transition`. -/
def transition (self : UnlimitedStash σ Address Message) (event : Event) :
    UnlimitedStash σ Address Message × Except Empty (Actions Sends Create Empty) :=
  match UserEvent.intoUser event with
  | .ok user => self.receive behavior user (self.route self.inner user.message)
  | .error other =>
    let (inner, acted) := behavior.transition self.inner other
    ({ self with inner }, acted)

end Transition

end UnlimitedStash

/-- `StashSends`. -/
structure StashSends (ActorSends RefusalSends : Type) where
  actor : ActorSends
  refusals : RefusalSends
  deriving DecidableEq

instance {ActorSends RefusalSends : Type} [SendEffects ActorSends] [SendEffects RefusalSends] :
    SendEffects (StashSends ActorSends RefusalSends) where
  empty := ⟨SendEffects.empty, SendEffects.empty⟩
  append first second :=
    ⟨SendEffects.append first.actor second.actor,
      SendEffects.append first.refusals second.refusals⟩

/-- What a bounded stash sends: the inner sends, and refused inputs to the refusal recipient. -/
abbrev BoundedSends (Sends Refusals Address Message : Type) :=
  StashSends Sends (List (Refusals × User Address Message))

/-- `Stash`. -/
structure Stash (σ Address Message Refusals : Type) where
  queue : UnlimitedStash σ Address Message
  limit : ℕ
  refusals : Refusals

namespace Stash

/-- `Stash::new`. -/
def new (inner : σ) (limit : ℕ) (refusals : Refusals) (route : σ → Message → StashRoute) :
    Stash σ Address Message Refusals :=
  ⟨.new inner route, limit, refusals⟩

/-- `Stash::take`. -/
def take (self : Stash σ Address Message Refusals) :
    Stash σ Address Message Refusals × List (User Address Message) :=
  ({ self with queue := self.queue.take.1 }, self.queue.take.2)

/-- `Stash::transition`. -/
def transition [UserEvent Event Address Message] [SendEffects Sends]
    (behavior : Behavior σ Event Sends Create Empty Empty)
    (self : Stash σ Address Message Refusals) (event : Event) :
    Stash σ Address Message Refusals ×
      Except Empty (Actions (BoundedSends Sends Refusals Address Message) Create Empty) :=
  match UserEvent.intoUser event with
  | .ok user =>
    let route := self.queue.route self.queue.inner user.message
    if route = .stash ∧ self.limit ≤ self.queue.held.length then
      (self, .ok ⟨⟨SendEffects.empty, [(self.refusals, user)]⟩, [], .continue'⟩)
    else
      let (queue, acted) := self.queue.receive behavior user route
      ({ self with queue }, acted.map fun actions => actions.mapSends fun actor => ⟨actor, []⟩)
  | .error other =>
    let (queue, acted) := self.queue.transition behavior other
    ({ self with queue }, acted.map fun actions => actions.mapSends fun actor => ⟨actor, []⟩)

end Stash

/-- An event for the stash, or a call to `take`. -/
inductive StashCall (Event : Type) where
  | transition (event : Event)
  | take

/-- What a stash answers to a call. -/
inductive StashAnswer (Sends Create Address Message : Type) where
  | acted (acted : Except Empty (Actions Sends Create Empty))
  | taken (held : List (User Address Message))

section Calls

variable [UserEvent Event Address Message] [SendEffects Sends]
  (behavior : Behavior σ Event Sends Create Empty Empty)

/-- One call to an unlimited stash. -/
def UnlimitedStash.call (self : UnlimitedStash σ Address Message) :
    StashCall Event → UnlimitedStash σ Address Message × StashAnswer Sends Create Address Message
  | .transition event =>
    let (next, acted) := self.transition behavior event
    (next, .acted acted)
  | .take => (self.take.1, .taken self.take.2)

/-- One call to a bounded stash. -/
def Stash.call (self : Stash σ Address Message Refusals) :
    StashCall Event → Stash σ Address Message Refusals ×
      StashAnswer (BoundedSends Sends Refusals Address Message) Create Address Message
  | .transition event =>
    let (next, acted) := self.transition behavior event
    (next, .acted acted)
  | .take => (self.take.1, .taken self.take.2)

end Calls

end Bombay.Stashing
