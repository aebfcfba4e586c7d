/-
# Behaviors and their actions

The part of `crates/behavior` that a template sees of the behavior it wraps: the fold
over events (`src/transition.rs`), the actions of a transition and the concatenation of
sends (`src/effects/actions.rs`, `src/effects/sending.rs`), the verdict (`src/next.rs`)
and the events of a wrapper that owns a lane of its own (`src/user_event.rs`).

A behavior is its state `σ` with `init` and `transition`, which take `&mut self` and so
answer with the next state, also when they fail.  `Never` is `Empty`.
-/

import Mathlib.Data.List.Basic

namespace Bombay

/-- `Become<Ph>`. -/
inductive Become (Ph : Type) where
  | continue'
  | goto (phase : Ph)
  | stop
  deriving DecidableEq, Repr

/-- `matches!(become_, Step::Stop(_))`. -/
def Become.isStop {Ph : Type} : Become Ph → Bool
  | stop => true
  | _ => false

/-- `SendEffects`. -/
class SendEffects (Sends : Type) where
  empty : Sends
  append : Sends → Sends → Sends

/-- `Vec` as sends. -/
instance {Item : Type} : SendEffects (List Item) := ⟨[], (· ++ ·)⟩

/-- The sends of several actions, in order. -/
def SendEffects.concat {Sends : Type} [SendEffects Sends] : List Sends → Sends
  | [] => empty
  | first :: rest => rest.foldl append first

/-- `Actions`. -/
structure Actions (Sends Create Ph : Type) where
  sends : Sends
  creates : List Create
  become : Become Ph
  deriving DecidableEq

namespace Actions

variable {Sends Mapped Create Ph : Type}

/-- `Actions::map_sends`. -/
def mapSends (actions : Actions Sends Create Ph) (map : Sends → Mapped) :
    Actions Mapped Create Ph :=
  ⟨map actions.sends, actions.creates, actions.become⟩

/-- `matches!(actions.become_, Step::Stop(_))`. -/
def stops (actions : Actions Sends Create Ph) : Bool := actions.become.isStop

variable [SendEffects Sends]

/-- `Actions::just`. -/
def just (become : Become Ph) : Actions Sends Create Ph := ⟨SendEffects.empty, [], become⟩

/-- `Actions::cont`. -/
def cont : Actions Sends Create Ph := just .continue'

/-- `Actions::stop`. -/
def stop : Actions Sends Create Ph := just .stop

end Actions

/-- `trait Behavior`, for the state `σ`. -/
structure Behavior (σ Event Sends Create Ph Error : Type) where
  init : σ → σ × Except Error (Actions Sends Create Ph)
  transition : σ → Event → σ × Except Error (Actions Sends Create Ph)

/-- `User`; `from` is the sender. -/
structure User (Address Message : Type) where
  sender : Address
  message : Message
  deriving DecidableEq, Repr

/-- `UserEvent`: the events of a behavior include the messages of its users.  `into_user` returns
the unchanged event when it is not one. -/
class UserEvent (Event : Type) (Address Message : outParam Type) where
  user : Address → Message → Event
  intoUser : Event → Except Event (User Address Message)
  unchanged : ∀ event other, intoUser event = .error other → other = event

instance {Address Message : Type} : UserEvent (User Address Message) Address Message :=
  ⟨User.mk, .ok, fun _ _ h => nomatch h⟩

/-- `EventLayer`. -/
inductive EventLayer (Owned Inner : Type) where
  | owned (event : Owned)
  | inner (event : Inner)
  deriving DecidableEq, Repr

/-- `EventLayer::into_user`. -/
def EventLayer.intoUser {Owned Inner Address Message : Type} [UserEvent Inner Address Message] :
    EventLayer Owned Inner → Except (EventLayer Owned Inner) (User Address Message)
  | .owned event => .error (.owned event)
  | .inner event =>
    match UserEvent.intoUser event with
    | .ok user => .ok user
    | .error other => .error (.inner other)

instance {Owned Inner Address Message : Type} [UserEvent Inner Address Message] :
    UserEvent (EventLayer Owned Inner) Address Message where
  user address message := .inner (UserEvent.user address message)
  intoUser := EventLayer.intoUser
  unchanged event other h := by
    cases event with
    | owned event => exact (Except.error.inj h).symm
    | inner event =>
      simp only [EventLayer.intoUser] at h
      split at h
      · cases h
      · rename_i other' hother
        rw [← Except.error.inj h, UserEvent.unchanged event other' hother]

/-- `SendLayer`. -/
structure SendLayer (Owned Inner : Type) where
  owned : Owned
  inner : Inner
  deriving DecidableEq, Repr

instance {Owned Inner : Type} [SendEffects Owned] [SendEffects Inner] :
    SendEffects (SendLayer Owned Inner) where
  empty := ⟨SendEffects.empty, SendEffects.empty⟩
  append first second :=
    ⟨SendEffects.append first.owned second.owned, SendEffects.append first.inner second.inner⟩

end Bombay
