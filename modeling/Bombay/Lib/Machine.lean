/-
# Runs of a machine

A machine answers every event with its next state and what it emits.  A run from a
state is the list of its turns; it is a trail, so what holds at the start and every
turn keeps holds before and after every turn.  What every turn conserves the run conserves.
-/

import Bombay.Lib.Duty
import Mathlib.Data.List.Induction

namespace Bombay

variable {σ ε ω : Type*}

/-- One event of a run: the states around it, and what was emitted. -/
structure Turn (σ ε ω : Type*) where
  before : σ
  event : ε
  after : σ
  emitted : ω

/-- A turn, seen through maps of states, of events and of what is emitted. -/
def Turn.map {σ' ε' ω' : Type*} (state : σ → σ') (event : ε → ε') (emitted : ω → ω')
    (now : Turn σ ε ω) : Turn σ' ε' ω' :=
  ⟨state now.before, event now.event, state now.after, emitted now.emitted⟩

namespace Machine

variable (step : σ → ε → σ × ω)

/-- What an event does to a state. -/
def turn (state : σ) (event : ε) : Turn σ ε ω :=
  ⟨state, event, (step state event).1, (step state event).2⟩

/-- The turns of a run. -/
def turns (first : σ) : List ε → List (Turn σ ε ω)
  | [] => []
  | event :: events => turn step first event :: turns (step first event).1 events

/-- The state a run ends in. -/
def reached (first : σ) : List ε → σ
  | [] => first
  | event :: events => reached (step first event).1 events

variable {step} {first : σ}

theorem reached_snoc (events : List ε) (event : ε) :
    reached step first (events ++ [event]) = (step (reached step first events) event).1 := by
  induction events generalizing first with
  | nil => rfl
  | cons head events ih => exact ih

theorem turns_snoc (events : List ε) (event : ε) :
    turns step first (events ++ [event]) =
      turns step first events ++ [turn step (reached step first events) event] := by
  induction events generalizing first with
  | nil => rfl
  | cons head events ih =>
    simp only [List.cons_append, turns, ih]
    rfl

/-- The turns of a run are those of its events. -/
theorem turns_event (events : List ε) : (turns step first events).map Turn.event = events := by
  induction events generalizing first with
  | nil => rfl
  | cons event events ih => exact congrArg (event :: ·) ih

/-- **A run is a trail.** -/
theorem turns_trail (events : List ε) :
    Trail Turn.before Turn.after first (turns step first events) (reached step first events) := by
  induction events using List.reverseRecOn with
  | nil => exact .nil
  | append_singleton events event ih =>
    rw [turns_snoc, reached_snoc]
    exact ih.snoc (show (turn step (reached step first events) event).before = _ from rfl)

/-- **A turn is what the machine makes of a state that an earlier part of the run reached.** -/
theorem turns_split {events : List ε} {earlier later : List (Turn σ ε ω)} {now : Turn σ ε ω}
    (h : turns step first events = earlier ++ now :: later) :
    ∃ before, earlier = turns step first before ∧
      now = turn step (reached step first before) now.event := by
  induction earlier generalizing first events with
  | nil =>
    cases events with
    | nil => cases h
    | cons event events =>
      obtain ⟨hnow, -⟩ := List.cons.inj h
      exact ⟨[], rfl, hnow ▸ rfl⟩
  | cons head earlier ih =>
    cases events with
    | nil => cases h
    | cons event events =>
      obtain ⟨hhead, hrest⟩ := List.cons.inj h
      obtain ⟨before, hearlier, hnow⟩ := ih hrest
      refine ⟨event :: before, ?_, hnow⟩
      rw [hearlier, ← hhead]
      rfl

/-- A turn of a run is what the machine makes of its state and event. -/
theorem mem_turns {events : List ε} {now : Turn σ ε ω} (h : now ∈ turns step first events) :
    now = turn step now.before now.event := by
  obtain ⟨earlier, later, hsplit⟩ := List.append_of_mem h
  obtain ⟨before, -, hnow⟩ := turns_split hsplit
  have hbefore : now.before = reached step first before := by
    rw [hnow]
    rfl
  rw [hbefore]
  exact hnow

/-- **What holds at the start and is kept by every event holds of every state reached.** -/
theorem reached_invariant {P : σ → Prop} (hfirst : P first)
    (hstep : ∀ state event, P state → P (step state event).1) (events : List ε) :
    P (reached step first events) := by
  induction events generalizing first with
  | nil => exact hfirst
  | cons event events ih => exact ih (hstep first event hfirst)

/-! ### Conservation -/

section Conservation

variable {α : Type*} (stock : σ → List α) (gained lost : Turn σ ε ω → List α)

/-- **A run conserves what every turn conserves**: what was lost, and what is in stock, is what was
gained. -/
theorem turns_conserve (hfirst : stock first = [])
    (hstep : ∀ events event,
      (lost (turn step (reached step first events) event) ++
        stock (step (reached step first events) event).1).Perm
        (gained (turn step (reached step first events) event) ++ stock (reached step first events)))
    (events : List ε) :
    ((turns step first events).flatMap lost ++ stock (reached step first events)).Perm
      ((turns step first events).flatMap gained) := by
  induction events using List.reverseRecOn with
  | nil => exact .of_eq hfirst
  | append_singleton events event ih =>
    rw [turns_snoc, reached_snoc, List.flatMap_append, List.flatMap_append, List.flatMap_singleton,
      List.flatMap_singleton, List.append_assoc]
    refine ((hstep events event).append_left _).trans (List.perm_append_comm_assoc _ _ _ |>.trans ?_)
    exact List.perm_append_comm.trans (ih.append_right _)

/-- **A run keeps the order that every turn keeps**: what was gained is what was lost, first things
first, and then what is in stock. -/
theorem turns_ordered (hfirst : stock first = [])
    (hstep : ∀ events event,
      lost (turn step (reached step first events) event) ++
        stock (step (reached step first events) event).1 =
        stock (reached step first events) ++ gained (turn step (reached step first events) event))
    (events : List ε) :
    (turns step first events).flatMap lost ++ stock (reached step first events) =
      (turns step first events).flatMap gained := by
  induction events using List.reverseRecOn with
  | nil => exact hfirst
  | append_singleton events event ih =>
    rw [turns_snoc, reached_snoc, List.flatMap_append, List.flatMap_append, List.flatMap_singleton,
      List.flatMap_singleton, List.append_assoc, hstep, ← List.append_assoc, ih]

/-- **A run keeps the order of what it loses and has in stock** among what it gained. -/
theorem turns_sublist (hfirst : stock first = [])
    (hstep : ∀ events event,
      (lost (turn step (reached step first events) event) ++
        stock (step (reached step first events) event).1).Sublist
        (stock (reached step first events) ++ gained (turn step (reached step first events) event)))
    (events : List ε) :
    ((turns step first events).flatMap lost ++ stock (reached step first events)).Sublist
      ((turns step first events).flatMap gained) := by
  induction events using List.reverseRecOn with
  | nil => exact hfirst ▸ List.Sublist.refl _
  | append_singleton events event ih =>
    rw [turns_snoc, reached_snoc, List.flatMap_append, List.flatMap_append, List.flatMap_singleton,
      List.flatMap_singleton, List.append_assoc]
    refine ((hstep events event).append_left _).trans ?_
    rw [← List.append_assoc]
    exact ih.append_right _

end Conservation

/-! ### Simulation -/

section Simulation

variable {σ' ε' ω' : Type*} {step' : σ' → ε' → σ' × ω'} {state : σ → σ'} {event : ε → ε'}
  {emitted : ω → ω'}

/-- **A machine that answers the image of every event with the image of the answer goes through the
images of all turns.** -/
theorem turns_map
    (h : ∀ before input, step' (state before) (event input) =
      (state (step before input).1, emitted (step before input).2)) (events : List ε) :
    turns step' (state first) (events.map event) =
      (turns step first events).map (Turn.map state event emitted) := by
  induction events generalizing first with
  | nil => rfl
  | cons input events ih =>
    simp only [List.map_cons, turns, turn, h, Turn.map, List.cons.injEq, true_and]
    exact ih

end Simulation

end Machine
end Bombay
