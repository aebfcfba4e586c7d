/-
# The rate limiter

`crates/actors/src/routing/rate_limiter.rs`: a bucket of tokens.  An admission takes its cost, a refill
adds tokens, and what does not fit into the capacity is lost.

The limiter keeps one number and no history.  `rate_limiter_law` says what that number decides: a
request is admitted exactly if it keeps the bound of every window that ends with it.
-/

import Bombay.Lib.Machine

namespace Bombay.Routing

variable {T Target Reply : Type}

/-- `TokenCount`: a `NonZeroU64`. -/
abbrev TokenCount := {tokens : ℕ // 0 < tokens ∧ tokens < 2 ^ 64}

/-- `RateLimitRejection`. -/
inductive RateLimitRejection where
  | exceedsCapacity
  | insufficientTokens
  deriving DecidableEq

/-- `RateLimiterOutcome`. -/
inductive RateLimiterOutcome (T : Type) where
  | admitted (remaining : ℕ)
  | rejected (cost : TokenCount) (value : T) (reason : RateLimitRejection)
  deriving DecidableEq

/-- `RateLimiterMessage`; the route `to` is `target`. -/
inductive RateLimiterMessage (T Target Reply : Type) where
  | acquire (cost : TokenCount) (value : T) (target : Target) (replyTo : Reply)
  | refill (tokens : TokenCount)

/-- `RateLimiterConfigError`. -/
inductive RateLimiterConfigError where
  | initialExceedsCapacity (capacity : TokenCount) (initial : ℕ)

/-- `DeliveryOutcomes` of a rate limiter. -/
structure RateSends (T Target Reply : Type) where
  deliveries : List (Target × T) := []
  outcomes : List (Reply × RateLimiterOutcome T) := []

/-- `RateLimiter`; it never holds more than its capacity. -/
structure RateLimiter where
  capacity : TokenCount
  available : ℕ
  bounded : available ≤ capacity

namespace RateLimiter

/-- `RateLimiter::new`. -/
def new (capacity : TokenCount) (initial : ℕ) : Except RateLimiterConfigError RateLimiter :=
  if h : capacity < initial then .error (.initialExceedsCapacity capacity initial)
  else .ok ⟨capacity, initial, Nat.le_of_not_lt h⟩

/-- `RateLimiter::acquire`. -/
def acquire (self : RateLimiter) (cost : TokenCount) (value : T) (target : Target)
    (replyTo : Reply) : RateLimiter × RateSends T Target Reply :=
  if (self.capacity : ℕ) < cost then
    (self, { outcomes := [(replyTo, .rejected cost value .exceedsCapacity)] })
  else if self.available < cost then
    (self, { outcomes := [(replyTo, .rejected cost value .insufficientTokens)] })
  else
    let available := self.available - cost
    ({ self with available, bounded := Nat.le_trans (Nat.sub_le _ _) self.bounded },
      ⟨[(target, value)], [(replyTo, .admitted available)]⟩)

/-- `RateLimiter::transition`; `saturating_add` stops at the last `u64`. -/
def transition (self : RateLimiter) :
    RateLimiterMessage T Target Reply → RateLimiter × RateSends T Target Reply
  | .acquire cost value target replyTo => self.acquire cost value target replyTo
  | .refill tokens =>
    let available := min (min (self.available + tokens) (2 ^ 64 - 1)) self.capacity
    ({ self with available, bounded := Nat.min_le_right _ _ }, {})

end RateLimiter

/-- A turn of a rate limiter. -/
abbrev RateTurn (T Target Reply : Type) :=
  Turn RateLimiter (RateLimiterMessage T Target Reply) (RateSends T Target Reply)

namespace RateTurn

variable (now : RateTurn T Target Reply)

/-- What a turn asks for. -/
def cost : ℕ :=
  match now.event with
  | .acquire cost .. => cost
  | .refill _ => 0

/-- The tokens that a turn takes. -/
def spent : ℕ :=
  match now.emitted.deliveries with
  | [] => 0
  | _ => now.cost

/-- The tokens that a turn is given. -/
def refilled : ℕ :=
  match now.event with
  | .acquire .. => 0
  | .refill tokens => tokens

/-- **What becomes of a request**: its value is delivered, or returned with the reason, and costs
nothing. -/
def Answers (now : RateTurn T Target Reply) (admitted : Prop) : Prop :=
  ∀ cost value target replyTo, now.event = .acquire cost value target replyTo →
    (admitted ∧ now.emitted = ⟨[(target, value)], [(replyTo, .admitted now.after.available)]⟩) ∨
    (¬ admitted ∧ now.after = now.before ∧ ∃ reason,
      (reason = .exceedsCapacity ↔ (now.before.capacity : ℕ) < cost) ∧
      now.emitted = ⟨[], [(replyTo, .rejected cost value reason)]⟩)

end RateTurn

/-- The tokens that turns take. -/
def spent (turns : List (RateTurn T Target Reply)) : ℕ := (turns.map RateTurn.spent).sum

/-- The tokens that turns are given. -/
def refilled (turns : List (RateTurn T Target Reply)) : ℕ := (turns.map RateTurn.refilled).sum

theorem spent_snoc (turns : List (RateTurn T Target Reply)) (now) :
    spent (turns ++ [now]) = spent turns + now.spent := by
  simp [spent]

theorem refilled_snoc (turns : List (RateTurn T Target Reply)) (now) :
    refilled (turns ++ [now]) = refilled turns + now.refilled := by
  simp [refilled]

namespace RateLimiter

/-- What a window may take beside its refills: what is there at the start, or a full bucket. -/
def budget (self : RateLimiter) (past : List (RateTurn T Target Reply)) : ℕ :=
  if past.isEmpty then self.available else self.capacity

/-- **What a turn does to the tokens**: none appear, and only a refill that fills the bucket loses
any. -/
theorem transition_tokens (self : RateLimiter) (message : RateLimiterMessage T Target Reply) :
    let now : RateTurn T Target Reply := Machine.turn transition self message
    now.after.capacity = self.capacity ∧
      now.after.available + now.spent ≤ self.available + now.refilled ∧
      (now.after.available + now.spent = self.available + now.refilled ∨
        now.spent = 0 ∧ now.after.available = self.capacity) ∧
      now.Answers (now.cost ≤ self.available) := by
  cases message with
  | acquire cost value target replyTo =>
    have hbounded := self.bounded
    by_cases hlarge : (self.capacity : ℕ) < cost
    · have hacquire : self.acquire cost value target replyTo = _ := if_pos hlarge
      simp only [Machine.turn, transition, hacquire]
      refine ⟨trivial, Nat.le_refl _, .inl rfl, ?_⟩
      rintro _ _ _ _ ⟨⟩
      refine .inr ⟨?_, rfl, .exceedsCapacity, iff_of_true rfl hlarge, rfl⟩
      exact Nat.not_le_of_lt (Nat.lt_of_le_of_lt hbounded hlarge)
    by_cases hfew : self.available < cost
    · have hacquire : self.acquire cost value target replyTo = _ :=
        (if_neg hlarge).trans (if_pos hfew)
      simp only [Machine.turn, transition, hacquire]
      refine ⟨trivial, Nat.le_refl _, .inl rfl, ?_⟩
      rintro _ _ _ _ ⟨⟩
      refine .inr ⟨Nat.not_le_of_lt hfew, rfl, .insufficientTokens, ?_, rfl⟩
      exact iff_of_false (by decide) hlarge
    · have hacquire : self.acquire cost value target replyTo = _ :=
        (if_neg hlarge).trans (if_neg hfew)
      have hexact : self.available - cost + cost = self.available :=
        Nat.sub_add_cancel (Nat.le_of_not_lt hfew)
      simp only [Machine.turn, transition, hacquire]
      refine ⟨trivial, Nat.le_of_eq hexact, .inl hexact, ?_⟩
      rintro _ _ _ _ ⟨⟩
      exact .inl ⟨Nat.le_of_not_lt hfew, rfl⟩
  | refill tokens =>
    have hmax : (self.capacity : ℕ) < 2 ^ 64 := self.capacity.2.2
    have hafter : (min (min (self.available + tokens) (2 ^ 64 - 1)) self.capacity : ℕ) =
        min (self.available + tokens) self.capacity := by omega
    simp only [Machine.turn, transition, hafter]
    refine ⟨trivial, Nat.min_le_left _ _, ?_, by rintro _ _ _ _ ⟨⟩⟩
    rcases Nat.le_total (self.available + tokens) self.capacity with hfits | hfull
    · exact .inl (Nat.min_eq_left hfits)
    · exact .inr ⟨rfl, Nat.min_eq_right hfull⟩

variable (self : RateLimiter)

/-- The limiter after a run. -/
def run (messages : List (RateLimiterMessage T Target Reply)) : RateLimiter :=
  Machine.reached transition self messages

/-- The turns of a run. -/
def turns (messages : List (RateLimiterMessage T Target Reply)) : List (RateTurn T Target Reply) :=
  Machine.turns transition self messages

theorem run_capacity (messages : List (RateLimiterMessage T Target Reply)) :
    (self.run messages).capacity = self.capacity := by
  refine Machine.reached_invariant (P := fun other : RateLimiter => other.capacity = self.capacity) rfl
    (fun other message h => ?_) messages
  exact (transition_tokens other message).1.trans h

/-- **The tokens are what the tightest window leaves.**  No window that ends here leaves less, and one
leaves no more: it begins where the bucket was full for the last time, or with the run. -/
theorem run_tokens (messages : List (RateLimiterMessage T Target Reply)) :
    (∀ past window, self.turns messages = past ++ window →
      (self.run messages).available + spent window ≤ self.budget past + refilled window) ∧
    ∃ past window, self.turns messages = past ++ window ∧
      (self.run messages).available + spent window = self.budget past + refilled window := by
  induction messages using List.reverseRecOn with
  | nil =>
    refine ⟨fun past window h => ?_, [], [], rfl, rfl⟩
    obtain ⟨rfl, rfl⟩ := List.append_eq_nil_iff.mp h.symm
    exact le_rfl
  | append_singleton messages message ih =>
    obtain ⟨hwindows, past, window, hsplit, htight⟩ := ih
    obtain ⟨hcapacity, htokens, hkept, -⟩ := transition_tokens (self.run messages) message
    have hrun : self.run (messages ++ [message]) =
        (Machine.turn transition (self.run messages) message).after :=
      Machine.reached_snoc messages message
    have hturns : self.turns (messages ++ [message]) =
        self.turns messages ++ [Machine.turn transition (self.run messages) message] :=
      Machine.turns_snoc messages message
    generalize Machine.turn transition (self.run messages) message = now at *
    have hfull : self.budget (self.turns messages ++ [now]) = (self.run messages).capacity := by
      rw [run_capacity]
      cases self.turns messages <;> rfl
    rw [hrun, hturns]
    constructor
    · intro past' window' h
      rcases List.eq_nil_or_concat' window' with rfl | ⟨window', last, rfl⟩
      · rw [List.append_nil] at h
        rw [← h, hfull, ← hcapacity]
        exact now.after.bounded
      · rw [← List.append_assoc] at h
        obtain ⟨hpast, ⟨⟩⟩ := List.append_inj' h rfl
        have hbefore := hwindows past' window' hpast
        rw [spent_snoc, refilled_snoc]
        omega
    · rcases hkept with hexact | ⟨-, hlost⟩
      · refine ⟨past, window ++ [now], by rw [hsplit, List.append_assoc], ?_⟩
        rw [spent_snoc, refilled_snoc]
        omega
      · refine ⟨self.turns messages ++ [now], [], (List.append_nil _).symm, ?_⟩
        rw [hfull]
        exact hlost

/-- **The law of the rate limiter.**  A request is admitted exactly if, with it, no window that ends
with it takes more than its budget and its refills; then its value is delivered, and else returned.
So no window of a run takes more than that. -/
theorem rate_limiter_law (messages : List (RateLimiterMessage T Target Reply)) :
    (∀ earlier now later, self.turns messages = earlier ++ now :: later →
      now.Answers (∀ past window, earlier = past ++ window →
        spent window + now.cost ≤ self.budget past + refilled window)) ∧
    ∀ past window later, self.turns messages = past ++ window ++ later →
      spent window ≤ self.budget past + refilled window := by
  constructor
  · intro earlier now later hsplit
    obtain ⟨before, rfl, hnow⟩ := Machine.turns_split hsplit
    obtain ⟨hwindows, past, window, hlast, htight⟩ := self.run_tokens before
    obtain ⟨-, -, -, hanswers⟩ := transition_tokens (self.run before) now.event
    have hadmitted : now.cost ≤ (self.run before).available ↔ ∀ past window,
        Machine.turns transition self before = past ++ window →
          spent window + now.cost ≤ self.budget past + refilled window := by
      constructor
      · intro hcost past' window' h
        have hwindow := hwindows past' window' h
        omega
      · intro h
        have hwindow := h past window hlast
        omega
    rw [hnow] at hadmitted ⊢
    exact propext hadmitted ▸ hanswers
  · intro past window later hsplit
    obtain ⟨before, hbefore⟩ : ∃ before, self.turns before = past ++ window := by
      cases later with
      | nil => exact ⟨messages, hsplit.trans (List.append_nil _)⟩
      | cons now later =>
        obtain ⟨before, hbefore, -⟩ := Machine.turns_split hsplit
        exact ⟨before, hbefore.symm⟩
    have hwindow := (self.run_tokens before).1 past window hbefore
    omega

end RateLimiter
end Bombay.Routing
