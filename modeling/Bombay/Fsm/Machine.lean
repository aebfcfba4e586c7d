/-
# The phase machine

`crates/actors/src/machine.rs`: a behavior that is only a phase function.  For each message the
phase function may change the state and answers with a move: stay, go to a phase, defer the message
or stop.  A deferred message is held until the phase changes; then the held messages are drained
through the phase function again, in order.

A phase is compared with the `PartialEq` of its type, here `BEq`.  The phase function takes
`&mut S` and so answers with the next state, also when it fails.
-/

import Bombay.Behavior

namespace Bombay.Fsm

variable {Address S M P E : Type}

/-- `Move`. -/
inductive Move (P : Type) where
  | stay
  | goto (next : P)
  | defer
  | stop
  deriving DecidableEq, Repr

/-- `MachineError`. -/
structure MachineError (Address M E : Type) where
  event : User Address M
  cause : E

/-- `Advance`. -/
inductive Advance where
  | continue'
  | phaseChanged
  | stop
  deriving DecidableEq, Repr

/-- `Machine`. -/
structure Machine (S M P E : Type) where
  state : S
  phase : P
  on : P → S → M → S × Except E (Move P)
  held : List M

namespace Machine

/-- `Machine::new`. -/
def new (state : S) (phase : P) (on : P → S → M → S × Except E (Move P)) : Machine S M P E :=
  ⟨state, phase, on, []⟩

variable [BEq P]

/-- `Machine::advance`. -/
def advance (self : Machine S M P E) (message : M) : Machine S M P E × Except E Advance :=
  match self.on self.phase self.state message with
  | (state, .error cause) => ({ self with state }, .error cause)
  | (state, .ok .stay) => ({ self with state }, .ok .continue')
  | (state, .ok .defer) => ({ self with state, held := self.held ++ [message] }, .ok .continue')
  | (state, .ok .stop) => ({ self with state }, .ok .stop)
  | (state, .ok (.goto next)) =>
    ({ self with state, phase := next },
      .ok (if next != self.phase then .phaseChanged else .continue'))

/-- A machine that advances holds at most the message more, and nothing more if it changes its
phase. -/
theorem advance_held {self after : Machine S M P E} {message answer}
    (h : self.advance message = (after, answer)) :
    after.held.length ≤ self.held.length + 1 ∧
      (answer = .ok .phaseChanged → after.held = self.held) := by
  unfold advance at h
  split at h <;> obtain ⟨rfl, rfl⟩ := Prod.mk.inj h <;> simp

/-- The loop of `Machine::drain`, over its batch.  A phase change puts what was deferred again at
the end of the batch, so the messages held or in the batch become fewer; otherwise they do not
become more, and the batch becomes shorter. -/
def drainBatch (self : Machine S M P E) :
    List M → Machine S M P E × Except E (Become Empty)
  | [] => (self, .ok .continue')
  | message :: batch =>
    match _hadvance : self.advance message with
    | (after, .error cause) => ({ after with held := after.held ++ batch }, .error cause)
    | (after, .ok .continue') => drainBatch after batch
    | (after, .ok .phaseChanged) => drainBatch { after with held := [] } (batch ++ after.held)
    | (after, .ok .stop) => ({ after with held := after.held ++ batch }, .ok .stop)
termination_by batch => (batch.length + self.held.length, batch.length)
decreasing_by
  · have hheld := (advance_held _hadvance).1
    rw [Prod.lex_def]
    simp only [List.length_cons]
    omega
  · have hheld := (advance_held _hadvance).2 rfl
    rw [Prod.lex_def]
    simp only [hheld, List.length_cons, List.length_append, List.length_nil]
    omega

/-- `Machine::drain`. -/
def drain (self : Machine S M P E) : Machine S M P E × Except E (Become Empty) :=
  drainBatch { self with held := [] } self.held

/-- `Machine::transition`: the message is advanced on a clone, which replaces the machine unless
the phase function fails. -/
def transition (self : Machine S M P E) (event : User Address M) :
    Machine S M P E × Except (MachineError Address M E) (Actions (List Empty) Empty Empty) :=
  match self.advance event.message with
  | (_, .error cause) => (self, .error ⟨event, cause⟩)
  | (staged, .ok .stop) => (staged, .ok .stop)
  | (staged, .ok .phaseChanged) =>
    match staged.drain with
    | (staged, .ok step) => (staged, .ok (.just step))
    | (_, .error cause) => (self, .error ⟨event, cause⟩)
  | (staged, .ok .continue') => (staged, .ok .cont)

end Machine
end Bombay.Fsm
