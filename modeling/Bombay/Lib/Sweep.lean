/-
# Sweeping over inputs until one fails

A sweep goes over a list of inputs in order and asks for a reply to each.  It stops at
the first reply that is corrupt, and an attempt may also be abandoned half way, with the
input untouched, taken without a reply, or answered.  What a sweep leaves is the list of
slots it found, so that a later sweep can go on where the last one stopped.

`sweep_append` takes a sweep over two parts to sweeps over each, `sweep_advances` says
what one sweep does to the slots, and `sweep_script` that slots that earlier sweeps have
left are those of a single sweep over the same replies.
-/

import Mathlib.Data.List.Basic

namespace Bombay

variable {σ I R : Type*}

/-- What is held for one input. -/
inductive Slot (I R : Type*) where
  | untouched (input : I)
  | taken
  | replied (reply : R)
  deriving DecidableEq, Repr

/-- Whether a future ran to its end, or was dropped while it was pending. -/
inductive Poll where
  | ready
  | abandoned
  deriving DecidableEq, Repr

/-- How a sweep ends: through all inputs, at a corrupt reply, at an input that has no reply, or
abandoned. -/
inductive Halt where
  | through
  | corrupt
  | stuck
  | abandoned
  deriving DecidableEq, Repr

/-- What a sweep leaves, and the inputs it made attempts at. -/
structure Swept (σ I R : Type*) where
  slots : List (Slot I R)
  state : σ
  attempts : List I
  halt : Halt

namespace Sweep

variable (attempt : σ → I → σ × Slot I R × Poll) (corrupt : R → Bool)

/-- One slot more in front. -/
def after (slot : Slot I R) (attempts : List I) (swept : Swept σ I R) : Swept σ I R :=
  { swept with slots := slot :: swept.slots, attempts := attempts ++ swept.attempts }

/-- **A sweep**: replies are passed over, and the first input without one is attempted. -/
def sweep (state : σ) : List (Slot I R) → Swept σ I R
  | [] => ⟨[], state, [], .through⟩
  | .replied reply :: rest =>
    if corrupt reply then ⟨.replied reply :: rest, state, [], .corrupt⟩
    else after (.replied reply) [] (sweep state rest)
  | .taken :: rest => ⟨.taken :: rest, state, [], .stuck⟩
  | .untouched input :: rest =>
    match attempt state input with
    | (state', slot, .abandoned) => ⟨slot :: rest, state', [input], .abandoned⟩
    | (state', .replied reply, .ready) =>
      if corrupt reply then ⟨.replied reply :: rest, state', [input], .corrupt⟩
      else after (.replied reply) [input] (sweep state' rest)
    | (state', slot, .ready) => ⟨slot :: rest, state', [input], .stuck⟩

/-- A second part is swept if the first was swept through. -/
def andThen (first : Swept σ I R) (rest : List (Slot I R)) (second : σ → Swept σ I R) :
    Swept σ I R :=
  match first.halt with
  | .through =>
    let next := second first.state
    ⟨first.slots ++ next.slots, next.state, first.attempts ++ next.attempts, next.halt⟩
  | halt => ⟨first.slots ++ rest, first.state, first.attempts, halt⟩

theorem andThen_through {first : Swept σ I R} (h : first.halt = .through) (rest : List (Slot I R))
    (second : σ → Swept σ I R) :
    andThen first rest second =
      ⟨first.slots ++ (second first.state).slots, (second first.state).state,
        first.attempts ++ (second first.state).attempts, (second first.state).halt⟩ := by
  obtain ⟨slots, state, attempts, halt⟩ := first
  cases h
  rfl

theorem andThen_halted {first : Swept σ I R} (h : first.halt ≠ .through) (rest : List (Slot I R))
    (second : σ → Swept σ I R) :
    andThen first rest second =
      ⟨first.slots ++ rest, first.state, first.attempts, first.halt⟩ := by
  obtain ⟨slots, state, attempts, halt⟩ := first
  cases halt with
  | through => exact absurd rfl h
  | corrupt => rfl
  | stuck => rfl
  | abandoned => rfl

theorem andThen_after (slot : Slot I R) (attempts : List I) (first : Swept σ I R)
    (rest : List (Slot I R)) (second : σ → Swept σ I R) :
    andThen (after slot attempts first) rest second =
      after slot attempts (andThen first rest second) := by
  obtain ⟨slots, state, attempts', halt⟩ := first
  cases halt <;> simp [andThen, after]

/-- **A sweep over two parts is a sweep over the first and then, if it went through, over the
second.** -/
theorem sweep_append (state : σ) (first second : List (Slot I R)) :
    sweep attempt corrupt state (first ++ second) =
      andThen (sweep attempt corrupt state first) second
        fun state => sweep attempt corrupt state second := by
  induction first generalizing state with
  | nil => rfl
  | cons slot first ih =>
    cases slot with
    | replied reply =>
      simp only [List.cons_append, sweep]
      split
      · rfl
      · rw [ih, andThen_after]
    | taken => rfl
    | untouched input =>
      simp only [List.cons_append, sweep]
      split
      · rfl
      · split
        · rfl
        · rw [ih, andThen_after]
      · rfl

/-! ### What one sweep does to the slots -/

variable {corrupt}

/-- **What a sweep may do**: it passes over replies, makes attempts at the inputs that follow, and
leaves the rest alone.  Whatever an attempt before the last one left is a reply that is not
corrupt. -/
inductive Advances (corrupt : R → Bool) :
    List (Slot I R) → List I → List (Slot I R) → Prop
  | rest (slots : List (Slot I R)) : Advances corrupt slots [] slots
  | pass (reply : R) (hsound : corrupt reply = false) {slots slots' : List (Slot I R)} {attempts}
      (hrest : Advances corrupt slots attempts slots') :
      Advances corrupt (.replied reply :: slots) attempts (.replied reply :: slots')
  | answer (input : I) (reply : R) (hsound : corrupt reply = false) {slots slots' : List (Slot I R)}
      {attempts} (hrest : Advances corrupt slots attempts slots') :
      Advances corrupt (.untouched input :: slots) (input :: attempts) (.replied reply :: slots')
  | last (input : I) (slot : Slot I R) (slots : List (Slot I R)) :
      Advances corrupt (.untouched input :: slots) [input] (slot :: slots)

/-- **A sweep advances.** -/
theorem sweep_advances (corrupt : R → Bool) (state : σ) (slots : List (Slot I R)) :
    Advances corrupt slots (sweep attempt corrupt state slots).attempts
      (sweep attempt corrupt state slots).slots := by
  induction slots generalizing state with
  | nil => exact .rest []
  | cons slot slots ih =>
    cases slot with
    | replied reply =>
      simp only [sweep]
      split
      · exact .rest _
      · rename_i hsound
        exact .pass reply (by simpa using hsound) (ih state)
    | taken => exact .rest _
    | untouched input =>
      simp only [sweep]
      split
      · exact .last input _ slots
      · rename_i state' reply heq
        split
        · exact .last input _ slots
        · rename_i hsound
          exact .answer input reply (by simpa using hsound) (ih state')
      · exact .last input _ slots

/-! ### What a list of slots amounts to -/

/-- **Where the slots stand**: all are replied to, one reply is corrupt, or an input has none. -/
def verdict (corrupt : R → Bool) : List (Slot I R) → Halt
  | [] => .through
  | .replied reply :: rest => if corrupt reply then .corrupt else verdict corrupt rest
  | _ => .stuck

attribute [local simp] sweep verdict

variable {slots : List (Slot I R)} {fits : I → R → Prop}

/-- Slots that are settled are left alone. -/
theorem sweep_settled (h : verdict corrupt slots ≠ .stuck) (state : σ) :
    sweep attempt corrupt state slots = ⟨slots, state, [], verdict corrupt slots⟩ := by
  induction slots with
  | nil => rfl
  | cons slot slots ih =>
    cases slot with
    | replied reply =>
      simp only [verdict] at h
      simp only [sweep, verdict]
      split
      · rfl
      · rename_i hsound
        rw [if_neg hsound] at h
        rw [ih h]
        rfl
    | taken | untouched input => exact absurd rfl h

/-- A verdict is no abandonment. -/
theorem verdict_ne_abandoned (slots : List (Slot I R)) : verdict corrupt slots ≠ .abandoned := by
  induction slots with
  | nil => nofun
  | cons slot slots ih =>
    cases slot with
    | replied reply =>
      simp only [verdict]
      split
      · nofun
      · exact ih
    | taken => nofun
    | untouched input => nofun

/-- **A sweep that was not abandoned says where its slots stand.** -/
theorem sweep_verdict (corrupt : R → Bool) (state : σ) (slots : List (Slot I R)) :
    (sweep attempt corrupt state slots).halt = .abandoned ∨
      verdict corrupt (sweep attempt corrupt state slots).slots =
        (sweep attempt corrupt state slots).halt := by
  induction slots generalizing state with
  | nil => exact .inr rfl
  | cons slot slots ih =>
    cases slot with
    | replied reply =>
      simp only [sweep]
      split
      · rename_i hcorrupt
        right
        simp only [verdict, hcorrupt, if_true]
      · rename_i hsound
        simpa only [after, verdict, hsound, Bool.false_eq_true, if_false] using ih state
    | taken => exact .inr rfl
    | untouched input =>
      simp only [sweep]
      split
      · exact .inl rfl
      · rename_i state' reply heq
        split
        · rename_i hcorrupt
          right
          simp only [verdict, hcorrupt, if_true]
        · rename_i hsound
          simpa only [after, verdict, hsound, Bool.false_eq_true, if_false] using ih state'
      · rename_i state' slot hnot heq
        right
        cases slot with
        | replied reply => exact absurd rfl (hnot reply)
        | taken => rfl
        | untouched input => rfl

theorem verdict_append (corrupt : R → Bool) (first second : List (Slot I R)) :
    verdict corrupt (first ++ second) =
      match verdict corrupt first with
      | .through => verdict corrupt second
      | halt => halt := by
  induction first with
  | nil => rfl
  | cons slot first ih =>
    cases slot with
    | replied reply =>
      simp only [List.cons_append, verdict]
      split
      · rfl
      · exact ih
    | taken => rfl
    | untouched input => rfl

/-! ### A sweep that nothing interrupts -/

/-- **The replies that attempts give in turn**, up to one that is corrupt. -/
def replies (corrupt : R → Bool) : σ → List I → List R
  | _, [] => []
  | state, input :: inputs =>
    match attempt state input with
    | (state, .replied reply, .ready) =>
      if corrupt reply then [reply] else reply :: replies corrupt state inputs
    | _ => []

/-- **A sweep over untouched inputs, each of which is replied to**, makes an attempt at each input up
to a corrupt reply, and leaves the others as they were. -/
theorem sweep_answered (corrupt : R → Bool)
    (htotal : ∀ state input, ∃ state' reply, attempt state input = (state', .replied reply, .ready))
    (state : σ) (inputs : List I) :
    let answers := replies attempt corrupt state inputs
    let swept := sweep attempt corrupt state (inputs.map .untouched)
    swept.slots = answers.map .replied ++ (inputs.drop answers.length).map .untouched ∧
      swept.attempts = inputs.take answers.length ∧
      swept.halt = if answers.any corrupt then .corrupt else .through := by
  induction inputs generalizing state with
  | nil => exact ⟨rfl, rfl, rfl⟩
  | cons input inputs ih =>
    obtain ⟨state', reply, hattempt⟩ := htotal state input
    simp only [List.map_cons, sweep, replies, hattempt]
    cases hcorrupt : corrupt reply with
    | true => simp [hcorrupt]
    | false =>
      obtain ⟨hslots, hattempts, hhalt⟩ := ih state'
      simp only [Bool.false_eq_true, if_false, after, List.map_cons, List.cons_append,
        List.length_cons, List.drop_succ_cons, List.take_succ_cons, List.any_cons, hcorrupt,
        Bool.false_or, List.nil_append]
      exact ⟨by rw [hslots], by rw [hattempts], hhalt⟩

/-- **Only the last reply may be corrupt**, and every input is replied to if none is. -/
theorem replies_stop (corrupt : R → Bool)
    (htotal : ∀ state input, ∃ state' reply, attempt state input = (state', .replied reply, .ready))
    (state : σ) (inputs : List I) :
    let answers := replies attempt corrupt state inputs
    answers.length ≤ inputs.length ∧ (∀ reply ∈ answers.dropLast, corrupt reply = false) ∧
      (answers.any corrupt = false → answers.length = inputs.length) := by
  induction inputs generalizing state with
  | nil => exact ⟨Nat.le_refl 0, fun _ h => absurd h List.not_mem_nil, fun _ => rfl⟩
  | cons input inputs ih =>
    obtain ⟨state', reply, hattempt⟩ := htotal state input
    simp only [replies, hattempt]
    cases hcorrupt : corrupt reply with
    | true => simp [hcorrupt]
    | false =>
      obtain ⟨hle, hsound, hall⟩ := ih state'
      simp only [Bool.false_eq_true, if_false, List.length_cons, List.any_cons, hcorrupt,
        Bool.false_or]
      refine ⟨by omega, ?_, fun h => by rw [hall h]⟩
      intro other hother
      cases hreplies : replies attempt corrupt state' inputs with
      | nil =>
        rw [hreplies] at hother
        exact absurd hother List.not_mem_nil
      | cons first rest =>
        rw [hreplies, List.dropLast_cons_cons] at hother
        rcases List.mem_cons.mp hother with rfl | hother
        · exact hcorrupt
        · exact hsound other (by rw [hreplies]; exact hother)

/-! ### What any number of sweeps leave -/

/-- The reply in a slot. -/
def Slot.reply? : Slot I R → Option R
  | .replied reply => some reply
  | _ => none

/-- What a slot for an input may hold: the input, nothing, or a reply that fits it. -/
def Holds (fits : I → R → Prop) (input : I) (slot : Slot I R) : Prop :=
  slot = .untouched input ∨ slot = .taken ∨ ∃ reply, fits input reply ∧ slot = .replied reply

/-- **Slots that sweeps over the inputs have left**: replies, then one slot that may hold anything,
then inputs that are untouched. -/
inductive Fills (corrupt : R → Bool) (fits : I → R → Prop) : List I → List (Slot I R) → Prop
  | untouched (inputs : List I) : Fills corrupt fits inputs (inputs.map .untouched)
  | pass (input : I) (reply : R) (hfits : fits input reply) (hsound : corrupt reply = false)
      {inputs} {slots : List (Slot I R)} (hrest : Fills corrupt fits inputs slots) :
      Fills corrupt fits (input :: inputs) (.replied reply :: slots)
  | last (input : I) (slot : Slot I R) (hslot : Holds fits input slot) (inputs : List I) :
      Fills corrupt fits (input :: inputs) (slot :: inputs.map .untouched)

variable {attempt}

/-- A sweep over inputs that are untouched fills their slots. -/
theorem sweep_fills_untouched
    (hlaw : ∀ state input, Holds fits input (attempt state input).2.1) (state : σ)
    (inputs : List I) :
    Fills corrupt fits inputs (sweep attempt corrupt state (inputs.map .untouched)).slots := by
  induction inputs generalizing state with
  | nil => exact .untouched []
  | cons input inputs ih =>
    have hslot := hlaw state input
    simp only [List.map_cons, sweep]
    split
    · rename_i heq
      rw [heq] at hslot
      exact .last input _ hslot inputs
    · rename_i state' reply heq
      rw [heq] at hslot
      split
      · exact .last input _ hslot inputs
      · rename_i hsound
        obtain ⟨other, hfits, hother⟩ := (hslot.resolve_left nofun).resolve_left nofun
        cases hother
        exact .pass input reply hfits (by simpa using hsound) (ih state')
    · rename_i heq
      rw [heq] at hslot
      exact .last input _ hslot inputs

/-- **A sweep fills slots further.** -/
theorem sweep_fills
    (hlaw : ∀ state input, Holds fits input (attempt state input).2.1) {inputs : List I}
    (h : Fills corrupt fits inputs slots) (state : σ) :
    Fills corrupt fits inputs (sweep attempt corrupt state slots).slots := by
  induction h generalizing state with
  | untouched inputs => exact sweep_fills_untouched hlaw state inputs
  | pass input reply hfits hsound hrest ih =>
    simp only [sweep, hsound, Bool.false_eq_true, if_false, after]
    exact .pass input reply hfits hsound (ih state)
  | last input slot hslot inputs =>
    obtain rfl | rfl | ⟨reply, hfits, rfl⟩ := id hslot
    · exact sweep_fills_untouched hlaw state (input :: inputs)
    · exact .last input _ hslot inputs
    · simp only [sweep]
      split
      · exact .last input _ hslot inputs
      · rename_i hsound
        exact .pass input reply hfits (by simpa using hsound)
          (sweep_fills_untouched hlaw state inputs)

theorem untouched_settled {inputs : List I}
    (h : verdict corrupt (inputs.map Slot.untouched) ≠ .stuck) : inputs = [] := by
  cases inputs with
  | nil => rfl
  | cons input inputs => exact absurd rfl h

/-- **Slots that are settled are those of one sweep over the same replies.** -/
theorem sweep_script (script : List R → σ) (hscript : ∀ input reply replies, fits input reply →
      attempt (script (reply :: replies)) input = (script replies, .replied reply, .ready))
    {inputs : List I} (h : Fills corrupt fits inputs slots)
    (hsettled : verdict corrupt slots ≠ .stuck) :
    (sweep attempt corrupt (script (slots.filterMap Slot.reply?)) (inputs.map .untouched)).slots =
        slots ∧
      (sweep attempt corrupt (script (slots.filterMap Slot.reply?)) (inputs.map .untouched)).halt =
        verdict corrupt slots := by
  induction h with
  | untouched inputs =>
    obtain rfl := untouched_settled hsettled
    exact ⟨rfl, rfl⟩
  | pass input reply hfits hsound hrest ih =>
    simp only [verdict, hsound, Bool.false_eq_true, if_false] at hsettled
    obtain ⟨hslots, hhalt⟩ := ih hsettled
    simp only [List.map_cons, List.filterMap_cons, Slot.reply?, sweep, hscript _ _ _ hfits, hsound,
      Bool.false_eq_true, if_false, after, verdict]
    exact ⟨by rw [hslots], hhalt⟩
  | last input slot hslot inputs =>
    obtain rfl | rfl | ⟨reply, hfits, rfl⟩ := id hslot
    · exact absurd rfl hsettled
    · exact absurd rfl hsettled
    · simp only [List.map_cons, List.filterMap_cons, Slot.reply?, sweep, hscript _ _ _ hfits,
        verdict] at hsettled ⊢
      split at hsettled
      · rename_i hcorrupt
        simp only [hcorrupt, if_true]
        exact ⟨trivial, trivial⟩
      · rename_i hsound
        obtain rfl := untouched_settled hsettled
        simp only [hsound, Bool.false_eq_true, if_false]
        exact ⟨rfl, rfl⟩

/-- **A sweep that runs to its end settles the slots**, unless an input was taken before and has no
reply. -/
theorem sweep_unstuck (hreplies : ∀ state input, (attempt state input).2.2 = .ready →
      ∃ reply, (attempt state input).2.1 = .replied reply) {state : σ}
    (htaken : .taken ∉ (sweep attempt corrupt state slots).slots)
    (hhalt : (sweep attempt corrupt state slots).halt ≠ .abandoned) :
    verdict corrupt (sweep attempt corrupt state slots).slots ≠ .stuck := by
  induction slots generalizing state with
  | nil => nofun
  | cons slot slots ih =>
    cases slot with
    | taken => exact absurd List.mem_cons_self htaken
    | replied reply =>
      simp only [sweep] at htaken hhalt ⊢
      split at htaken
      · rename_i hcorrupt
        simp only [hcorrupt, if_true, verdict]
        nofun
      · rename_i hsound
        simp only [hsound, Bool.false_eq_true, if_false, after, verdict] at hhalt ⊢
        exact ih (fun h => htaken (List.mem_cons_of_mem _ h)) hhalt
    | untouched input =>
      have hreplied := hreplies state input
      rcases hattempt : attempt state input with ⟨state', slot, _ | _⟩
      · rw [hattempt] at hreplied
        obtain ⟨reply, heq⟩ := hreplied rfl
        obtain rfl : slot = .replied reply := heq
        simp only [sweep, hattempt] at htaken hhalt ⊢
        split at htaken
        · rename_i hcorrupt
          simp only [hcorrupt, if_true, verdict]
          nofun
        · rename_i hsound
          simp only [hsound, Bool.false_eq_true, if_false, after, verdict] at hhalt ⊢
          exact ih (fun h => htaken (List.mem_cons_of_mem _ h)) hhalt
      · simp only [sweep, hattempt] at hhalt
        exact absurd rfl hhalt

variable (attempt)

/-! ### Slots behind a gate -/

/-- **A sweep behind a gate**: slots that are swept if what comes before them is through. -/
def gate (corrupt : R → Bool) (halt : Halt) (state : σ) (slots : List (Slot I R)) : Swept σ I R :=
  andThen ⟨[], state, [], halt⟩ slots fun state => sweep attempt corrupt state slots

/-- Where slots behind a gate stand. -/
def standing (corrupt : R → Bool) (halt : Halt) (slots : List (Slot I R)) : Halt :=
  match halt with
  | .through => verdict corrupt slots
  | halt => halt

theorem gate_through (corrupt : R → Bool) (state : σ) (slots : List (Slot I R)) :
    gate attempt corrupt .through state slots = sweep attempt corrupt state slots := by
  simp [gate, andThen]

theorem gate_halted (corrupt : R → Bool) {halt : Halt} (h : halt ≠ .through) (state : σ)
    (slots : List (Slot I R)) : gate attempt corrupt halt state slots = ⟨slots, state, [], halt⟩ :=
  andThen_halted h _ _

theorem standing_halted (corrupt : R → Bool) {halt : Halt} (h : halt ≠ .through)
    (slots : List (Slot I R)) : standing corrupt halt slots = halt := by
  cases halt with
  | through => exact absurd rfl h
  | corrupt => rfl
  | stuck => rfl
  | abandoned => rfl

/-- Slots that are settled, or whose gate is shut, are left alone. -/
theorem gate_stays {halt : Halt}
    (h : standing corrupt halt slots ≠ .stuck ∨ halt ≠ .through) (state : σ) :
    gate attempt corrupt halt state slots = ⟨slots, state, [], standing corrupt halt slots⟩ := by
  by_cases hhalt : halt = .through
  · obtain rfl := hhalt
    rw [gate_through]
    exact sweep_settled attempt (h.resolve_right fun hnot => hnot rfl) state
  · rw [gate_halted attempt corrupt hhalt, standing_halted corrupt hhalt]

/-- **A second part behind a sweep that is gated** is behind the same gate. -/
theorem gate_append (corrupt : R → Bool) (halt : Halt) (state : σ) (first second : List (Slot I R)) :
    andThen (gate attempt corrupt halt state first) second
        (fun state => sweep attempt corrupt state second) =
      gate attempt corrupt halt state (first ++ second) := by
  by_cases hhalt : halt = .through
  · obtain rfl := hhalt
    rw [gate_through, gate_through, sweep_append]
  · rw [gate_halted attempt corrupt hhalt, gate_halted attempt corrupt hhalt]
    exact andThen_halted hhalt _ _

theorem standing_append (corrupt : R → Bool) (halt : Halt) (first second : List (Slot I R)) :
    standing corrupt halt (first ++ second) =
      standing corrupt (standing corrupt halt first) second := by
  by_cases hhalt : halt = .through
  · obtain rfl := hhalt
    simp only [standing, verdict_append]
  · rw [standing_halted corrupt hhalt, standing_halted corrupt hhalt, standing_halted corrupt hhalt]

/-- A gated sweep advances. -/
theorem gate_advances (corrupt : R → Bool) (halt : Halt) (state : σ) (slots : List (Slot I R)) :
    Advances corrupt slots (gate attempt corrupt halt state slots).attempts
      (gate attempt corrupt halt state slots).slots := by
  by_cases hhalt : halt = .through
  · obtain rfl := hhalt
    rw [gate_through]
    exact sweep_advances attempt corrupt state slots
  · rw [gate_halted attempt corrupt hhalt]
    exact .rest slots

/-- **A sweep that nothing interrupts, behind a gate** that is open or corrupt. -/
theorem gate_answered (corrupt : R → Bool)
    (htotal : ∀ state input, ∃ state' reply, attempt state input = (state', .replied reply, .ready))
    (shut : Bool) (state : σ) (inputs : List I) :
    let answers := if shut then [] else replies attempt corrupt state inputs
    let halt := if shut then .corrupt else .through
    let swept := gate attempt corrupt halt state (inputs.map .untouched)
    swept.slots = answers.map .replied ++ (inputs.drop answers.length).map .untouched ∧
      swept.attempts = inputs.take answers.length ∧
      swept.halt = (if shut || answers.any corrupt then .corrupt else .through) ∧
      standing corrupt halt swept.slots = swept.halt ∧ answers.length ≤ inputs.length ∧
      (∀ reply ∈ answers.dropLast, corrupt reply = false) ∧
      ((shut || answers.any corrupt) = false → answers.length = inputs.length) := by
  cases shut with
  | true =>
    simp only [if_true, Bool.true_or]
    have hshut : Halt.corrupt ≠ .through := nofun
    rw [gate_halted attempt corrupt hshut]
    exact ⟨by simp, by simp, rfl, rfl, Nat.zero_le _, fun _ h => absurd h List.not_mem_nil, nofun⟩
  | false =>
    obtain ⟨hslots, hattempts, hhalt⟩ := sweep_answered attempt corrupt htotal state inputs
    obtain ⟨hle, hlast, hall⟩ := replies_stop attempt corrupt htotal state inputs
    simp only [Bool.false_eq_true, if_false, Bool.false_or, gate_through]
    refine ⟨hslots, hattempts, hhalt, ?_, hle, hlast, hall⟩
    refine (sweep_verdict attempt corrupt state _).resolve_left ?_
    rw [hhalt]
    split <;> nofun

/-! ### Settled rows -/

theorem all_zipIdx_fst {α : Type*} (p : α → Bool) (l : List α) :
    (l.zipIdx.all fun (x, _) => p x) = l.all p := by
  conv_rhs => rw [← List.zipIdx_map_fst 0 l, List.all_map]
  rfl

/-- A test that changes after one position of a list. -/
theorem all_zipIdx_split {α : Type*} (p q : α → Bool) (before : List α) (a : α) (after : List α) :
    ((before ++ a :: after).zipIdx.all fun (x, index) =>
      if before.length < index then q x else p x) = (before.all p && p a && after.all q) := by
  rw [List.zipIdx_append, List.all_append, List.zipIdx_cons, List.all_cons]
  have hbefore : (before.zipIdx.all fun (x, index) =>
      if before.length < index then q x else p x) = before.all p := by
    rw [Bool.eq_iff_iff, List.all_eq_true, List.all_eq_true]
    constructor
    · intro h x hx
      obtain ⟨index, hindex, rfl⟩ := List.mem_iff_getElem.mp hx
      have := h (before[index], index) (List.mk_mem_zipIdx_iff_getElem?.mpr
        (List.getElem?_eq_getElem hindex))
      simpa [Nat.not_lt.mpr (Nat.le_of_lt hindex)] using this
    · rintro h ⟨x, index⟩ hmem
      have hget := List.mk_mem_zipIdx_iff_getElem?.mp hmem
      obtain ⟨hindex, hx⟩ := List.getElem?_eq_some_iff.mp hget
      simp only [Nat.not_lt.mpr (Nat.le_of_lt hindex), if_false]
      exact h x (hx ▸ List.getElem_mem hindex)
  have hafter : ((after.zipIdx (0 + before.length + 1)).all fun (x, index) =>
      if before.length < index then q x else p x) = after.all q := by
    rw [Bool.eq_iff_iff, List.all_eq_true, List.all_eq_true]
    constructor
    · intro h x hx
      obtain ⟨index, hindex, rfl⟩ := List.mem_iff_getElem.mp hx
      have hmem : (after[index], 0 + before.length + 1 + index) ∈
          after.zipIdx (0 + before.length + 1) := by
        rw [List.mk_mem_zipIdx_iff_le_and_getElem?_sub]
        refine ⟨by omega, ?_⟩
        rw [Nat.add_sub_cancel_left]
        exact List.getElem?_eq_getElem hindex
      have hq := h _ hmem
      dsimp only at hq
      rw [if_pos (by omega)] at hq
      exact hq
    · rintro h ⟨x, index⟩ hmem
      obtain ⟨hle, hget⟩ := List.mk_mem_zipIdx_iff_le_and_getElem?_sub.mp hmem
      obtain ⟨hindex, hx⟩ := List.getElem?_eq_some_iff.mp hget
      simp only [show before.length < index by omega, if_true]
      exact h x (hx ▸ List.getElem_mem hindex)
  rw [hbefore, hafter]
  simp [Bool.and_assoc]

/-- **Rows that a sweep has settled**: all are answered, or they are answered up to a corrupt one
and untouched after it. -/
def settledRows {α : Type*} (isCorrupt untouched answered : α → Bool) (rows : List α) : Bool :=
  rows.zipIdx.all fun (row, index) =>
    match rows.findIdx? isCorrupt with
    | some corrupt => if corrupt < index then untouched row else answered row
    | none => answered row

/-- Rows of which none is corrupt are settled if all are answered. -/
theorem settledRows_through {α : Type*} {isCorrupt : α → Bool} (untouched answered : α → Bool)
    {rows : List α} (h : ∀ row ∈ rows, isCorrupt row = false) :
    settledRows isCorrupt untouched answered rows = rows.all answered := by
  have hnone : rows.findIdx? isCorrupt = none := List.findIdx?_eq_none_iff.mpr h
  unfold settledRows
  rw [hnone]
  exact all_zipIdx_fst answered rows

/-- Rows with a first one that is corrupt are settled if they are answered up to it and untouched
after it. -/
theorem settledRows_corrupt {α : Type*} {isCorrupt : α → Bool} (untouched answered : α → Bool)
    {before : List α} (h : ∀ row ∈ before, isCorrupt row = false) {row : α}
    (hrow : isCorrupt row = true) (after : List α) :
    settledRows isCorrupt untouched answered (before ++ row :: after) =
      (before.all answered && answered row && after.all untouched) := by
  have hsome : (before ++ row :: after).findIdx? isCorrupt = some before.length := by
    rw [List.findIdx?_append, List.findIdx?_eq_none_iff.mpr h, List.findIdx?_cons, if_pos hrow]
    simp
  unfold settledRows
  rw [hsome]
  exact all_zipIdx_split answered untouched before row after

end Sweep
end Bombay
