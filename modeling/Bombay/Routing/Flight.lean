/-
# One operation in flight

What a circuit breaker can do at a turn is one of eleven cases (`CircuitBreaker.Does`).
From them: the attempts that are admitted are those answered so far and at most one
more, which the phase holds with the route it was admitted for; no attempt is admitted
twice; and the circuit opens exactly at a failed probe, or at the failure that completes
the threshold since the last success (`flight_law`).

The generation of a failed probe has a successor in every state that a run reaches:
every reopening needs an attempt of its own, and attempts run out first.
-/

import Bombay.Routing.CircuitBreaker

namespace Bombay.Routing

variable {Route : Type}

namespace CircuitBreaker

/-- **What a breaker does with an event**: its next state, and what it answers. -/
inductive Does (self : CircuitBreaker Route) :
    BreakerEvent Route → CircuitBreaker Route → Except BreakerError (BreakerSends Route) → Prop
  | admits (failures next : ℕ) (replyTo : Route) (hphase : self.phase = .closed (.idle failures))
      (hnext : Sequence.successor self.nextAttempt = some next) :
      Does self (.inner (.admitOperation replyTo))
        { self with
          nextAttempt := next
          phase := .closed (.awaiting failures self.nextAttempt replyTo) }
        (.ok (reply replyTo (.admitted self.nextAttempt)))
  | probes (generation next : ℕ) (replyTo : Route)
      (hphase : self.phase = .probing generation .available)
      (hnext : Sequence.successor self.nextAttempt = some next) :
      Does self (.inner (.admitOperation replyTo))
        { self with
          nextAttempt := next
          phase := .probing generation (.awaiting self.nextAttempt replyTo) }
        (.ok (reply replyTo (.probeAdmitted self.nextAttempt)))
  | runsOut (replyTo : Route)
      (hphase : (∃ failures, self.phase = .closed (.idle failures)) ∨
        ∃ generation, self.phase = .probing generation .available)
      (hnext : Sequence.successor self.nextAttempt = none) :
      Does self (.inner (.admitOperation replyTo)) { self with phase := .exhausted }
        (.ok (reply replyTo (.rejected .exhausted)))
  | declines (rejection : BreakerRejection) (replyTo : Route) :
      Does self (.inner (.admitOperation replyTo)) self
        (.ok (reply replyTo (.rejected rejection)))
  | foreign (message : BreakerMessage Route) (completion : BreakerCompletion)
      (hmessage : message = .succeeded completion.attempt ∧ completion = .succeeded completion.attempt
        ∨ message = .failed completion.attempt ∧ completion = .failed completion.attempt)
      (howner : self.ownership completion.attempt = none) :
      Does self (.inner message) self (.error (.unexpectedCompletion completion))
  | succeeds (attempt failures : ℕ) (probe : Option ℕ) (replyTo : Route)
      (howner : self.ownership attempt = some (replyTo, failures, probe)) :
      Does self (.inner (.succeeded attempt)) { self with phase := .closed (.idle 0) }
        (.ok (reply replyTo (.succeeded attempt)))
  | records (attempt failures : ℕ) (replyTo : Route)
      (hphase : self.phase = .closed (.awaiting failures attempt replyTo))
      (hfew : saturatingAdd32 failures 1 < self.threshold.1) :
      Does self (.inner (.failed attempt))
        { self with phase := .closed (.idle (saturatingAdd32 failures 1)) }
        (.ok (reply replyTo (.failureRecorded attempt (saturatingAdd32 failures 1))))
  | opens (attempt failures : ℕ) (replyTo : Route)
      (hphase : self.phase = .closed (.awaiting failures attempt replyTo))
      (hmany : self.threshold.1 ≤ saturatingAdd32 failures 1) :
      Does self (.inner (.failed attempt)) { self with phase := .open' 0 }
        (.ok ⟨[(replyTo, .opened attempt 0)], [⟨self.timerId, 0, self.resetAfter⟩]⟩)
  | reopens (attempt generation next : ℕ) (replyTo : Route)
      (hphase : self.phase = .probing generation (.awaiting attempt replyTo))
      (hnext : Sequence.successor generation = some next) :
      Does self (.inner (.failed attempt)) { self with phase := .open' next }
        (.ok ⟨[(replyTo, .opened attempt next)], [⟨self.timerId, next, self.resetAfter⟩]⟩)
  | givesUp (attempt generation : ℕ) (replyTo : Route)
      (hphase : self.phase = .probing generation (.awaiting attempt replyTo))
      (hnext : Sequence.successor generation = none) :
      Does self (.inner (.failed attempt)) { self with phase := .exhausted }
        (.ok (reply replyTo (.rejected .exhausted)))
  | rearms (generation : ℕ) (hphase : self.phase = .open' generation) :
      Does self (.owned ⟨self.timerId, generation⟩)
        { self with phase := .probing generation .available } (.ok {})
  | ignores (elapsed : TimerElapsed) : Does self (.owned elapsed) self (.ok {})

theorem admitOperation_does (self : CircuitBreaker Route) (replyTo : Route) :
    Does self (.inner (.admitOperation replyTo)) (self.admitOperation replyTo).1
      (.ok (self.admitOperation replyTo).2) := by
  unfold CircuitBreaker.admitOperation
  dsimp only
  split
  · rename_i failures hphase
    split
    · exact .runsOut replyTo (.inl ⟨failures, hphase⟩) ‹_›
    · exact .admits failures _ replyTo hphase ‹_›
  · rename_i generation hphase
    split
    · exact .runsOut replyTo (.inr ⟨generation, hphase⟩) ‹_›
    · exact .probes generation _ replyTo hphase ‹_›
  · exact .declines _ replyTo
  · exact .declines _ replyTo
  · exact .declines _ replyTo
  · exact .declines _ replyTo

variable {self : CircuitBreaker Route} {attempt failures : ℕ} {replyTo : Route} {probe : Option ℕ}
    {threshold : NonZeroU32}

/-- **An attempt is owned by the phase that awaits it.** -/
theorem ownership_some (h : self.ownership attempt = some (replyTo, failures, probe)) :
    self.phase = .closed (.awaiting failures attempt replyTo) ∧ probe = none ∨
      ∃ generation, self.phase = .probing generation (.awaiting attempt replyTo) ∧
        probe = some generation := by
  unfold ownership at h
  split at h
  · rename_i failures' current replyTo' hphase
    split at h
    · rename_i hcurrent
      simp only [Option.some.injEq, Prod.mk.injEq] at h
      obtain ⟨rfl, rfl, rfl⟩ := h
      subst hcurrent
      exact .inl ⟨hphase, rfl⟩
    · cases h
  · rename_i generation current replyTo' hphase
    split at h
    · rename_i hcurrent
      simp only [Option.some.injEq, Prod.mk.injEq] at h
      obtain ⟨rfl, rfl, rfl⟩ := h
      subst hcurrent
      exact .inr ⟨generation, hphase, rfl⟩
    · cases h
  · cases h

theorem failed_does (h : self.ownership attempt = some (replyTo, failures, probe)) :
    Does self (.inner (.failed attempt)) (self.failed attempt replyTo failures probe).1
      (.ok (self.failed attempt replyTo failures probe).2) := by
  rcases ownership_some h with ⟨hphase, rfl⟩ | ⟨generation, hphase, rfl⟩
  · unfold CircuitBreaker.failed
    dsimp only
    split
    · rename_i hfew
      exact .records attempt failures replyTo hphase hfew.2
    · rename_i hmany
      exact .opens attempt failures replyTo hphase (not_lt.mp fun hfew => hmany ⟨rfl, hfew⟩)
  · unfold CircuitBreaker.failed
    dsimp only
    rw [if_neg (fun hfew => Bool.false_ne_true hfew.1)]
    split
    · exact .givesUp attempt generation replyTo hphase ‹_›
    · exact .reopens attempt generation _ replyTo hphase ‹_›

/-- **Every transition is one of the cases.** -/
theorem transition_does (self : CircuitBreaker Route) (event : BreakerEvent Route) :
    Does self event (self.transition event).1 (self.transition event).2 := by
  rcases event with (replyTo | attempt | attempt) | elapsed
  · exact admitOperation_does self replyTo
  · unfold CircuitBreaker.transition complete
    dsimp only [BreakerCompletion.attempt]
    split
    · exact .foreign _ (.succeeded attempt) (.inl ⟨rfl, rfl⟩) ‹_›
    · exact .succeeds attempt _ _ _ ‹_›
  · unfold CircuitBreaker.transition complete
    dsimp only [BreakerCompletion.attempt]
    split
    · exact .foreign _ (.failed attempt) (.inr ⟨rfl, rfl⟩) ‹_›
    · exact failed_does ‹_›
  · obtain ⟨id, generation⟩ := elapsed
    unfold CircuitBreaker.transition CircuitBreaker.elapsed
    dsimp only
    split
    · rename_i current hphase
      split
      · rename_i hmatch
        obtain ⟨rfl, rfl⟩ := hmatch
        exact .rearms _ hphase
      · exact .ignores ⟨id, generation⟩
    · exact .ignores ⟨id, generation⟩

/-! ### What every run keeps -/

/-- **Counters within their range**: failures stay below the threshold, the attempt in flight was
issued, and there are more attempts than generations. -/
def Sound (self : CircuitBreaker Route) : Prop :=
  self.nextAttempt < 2 ^ 64 ∧
    match self.phase with
    | .closed (.idle failures) => failures < self.threshold.1
    | .closed (.awaiting failures attempt _) =>
      failures < self.threshold.1 ∧ attempt + 1 = self.nextAttempt
    | .open' generation => generation < self.nextAttempt
    | .probing generation .available => generation < self.nextAttempt
    | .probing generation (.awaiting attempt _) =>
      generation + 1 < self.nextAttempt ∧ attempt + 1 = self.nextAttempt
    | .exhausted => True

theorem successor_some {value next} (h : Sequence.successor value = some next) :
    next = value + 1 ∧ next < 2 ^ 64 := by
  unfold Sequence.successor at h
  split at h
  · rename_i hlt
    obtain rfl := Option.some.inj h
    exact ⟨rfl, hlt⟩
  · cases h

/-- Below the threshold nothing saturates. -/
theorem saturatingAdd32_one (h : failures < threshold.1) :
    saturatingAdd32 failures 1 = failures + 1 := by
  have hwidth := threshold.2.2
  unfold saturatingAdd32
  omega

theorem new_sound {resetAfter timerId : ℕ}
    {breaker : CircuitBreaker Route} (h : new threshold resetAfter timerId = .ok breaker) :
    breaker = ⟨threshold, resetAfter, timerId, 0, .closed (.idle 0)⟩ ∧ breaker.Sound := by
  unfold new at h
  split at h
  · cases h
  · obtain rfl := Except.ok.inj h
    exact ⟨rfl, Nat.two_pow_pos 64, threshold.2.1⟩

/-- **In a sound breaker the generation of a probe has a successor.** -/
theorem Sound.never_gives_up (h : self.Sound) {generation}
    (hphase : self.phase = .probing generation (.awaiting attempt replyTo)) :
    Sequence.successor generation = some (generation + 1) := by
  obtain ⟨hwidth, hrest⟩ := h
  rw [hphase] at hrest
  unfold Sequence.successor
  rw [if_pos (by omega)]

/-- A transition keeps the counters within their range. -/
theorem Does.sound {next event emitted} (h : Does self event next emitted) (hsound : self.Sound) :
    next.Sound := by
  have hwidth := hsound.1
  have hrest := hsound.2
  cases h with
  | admits failures next replyTo hphase hnext =>
    obtain ⟨rfl, hlt⟩ := successor_some hnext
    rw [hphase] at hrest
    exact ⟨hlt, hrest, rfl⟩
  | probes generation next replyTo hphase hnext =>
    obtain ⟨rfl, hlt⟩ := successor_some hnext
    rw [hphase] at hrest
    exact ⟨hlt, Nat.succ_lt_succ hrest, rfl⟩
  | runsOut replyTo hphase hnext | givesUp attempt generation replyTo hphase hnext =>
    exact ⟨hwidth, trivial⟩
  | declines rejection replyTo => exact hsound
  | foreign message completion hmessage howner => exact hsound
  | succeeds attempt failures probe replyTo howner => exact ⟨hwidth, self.threshold.2.1⟩
  | records attempt failures replyTo hphase hfew => exact ⟨hwidth, hfew⟩
  | opens attempt failures replyTo hphase hmany =>
    rw [hphase] at hrest
    have hissued := hrest.2
    exact ⟨hwidth, show 0 < self.nextAttempt by omega⟩
  | reopens attempt generation next replyTo hphase hnext =>
    rw [hphase] at hrest
    obtain ⟨rfl, -⟩ := successor_some hnext
    exact ⟨hwidth, hrest.1⟩
  | rearms generation hphase =>
    rw [hphase] at hrest
    exact ⟨hwidth, hrest⟩
  | ignores elapsed => exact hsound

/-- **Every state of a run is sound.** -/
theorem run_sound {resetAfter timerId : ℕ}
    {breaker : CircuitBreaker Route} (h : new threshold resetAfter timerId = .ok breaker)
    (events : List (BreakerEvent Route)) : (breaker.run events).Sound :=
  Machine.reached_invariant (new_sound h).2
    (fun state event hsound => (transition_does state event).sound hsound) events

/-! ### Attempts and their answers -/

/-- The attempt in flight, with the route it was admitted for. -/
def inFlight (self : CircuitBreaker Route) : Option (ℕ × Route) :=
  match self.phase with
  | .closed (.awaiting _ attempt replyTo) => some (attempt, replyTo)
  | .probing _ (.awaiting attempt replyTo) => some (attempt, replyTo)
  | _ => none

theorem inFlight_of_ownership (h : self.ownership attempt = some (replyTo, failures, probe)) :
    self.inFlight = some (attempt, replyTo) := by
  rcases ownership_some h with ⟨hphase, -⟩ | ⟨generation, hphase, -⟩
  · unfold inFlight
    rw [hphase]
  · unfold inFlight
    rw [hphase]

/-- **A completion is owned exactly if it names the attempt in flight.** -/
theorem ownership_none :
    self.ownership attempt = none ↔ ∀ replyTo, self.inFlight ≠ some (attempt, replyTo) := by
  constructor
  · intro hnone replyTo hflight
    unfold inFlight at hflight
    unfold ownership at hnone
    split at hflight
    · rename_i hphase
      obtain ⟨rfl, rfl⟩ := Prod.mk.inj (Option.some.inj hflight)
      rw [hphase] at hnone
      simp at hnone
    · rename_i hphase
      obtain ⟨rfl, rfl⟩ := Prod.mk.inj (Option.some.inj hflight)
      rw [hphase] at hnone
      simp at hnone
    · cases hflight
  · intro hforeign
    rcases howner : self.ownership attempt with _ | ⟨replyTo, failures, probe⟩
    · rfl
    · exact absurd (inFlight_of_ownership howner) (hforeign replyTo)

end CircuitBreaker

/-- The attempt that an outcome admits. -/
def BreakerOutcome.admission : BreakerOutcome → Option ℕ
  | .admitted attempt => some attempt
  | .probeAdmitted attempt => some attempt
  | _ => none

/-- The attempt that an outcome ends. -/
def BreakerOutcome.terminal : BreakerOutcome → Option ℕ
  | .succeeded attempt => some attempt
  | .failureRecorded attempt _ => some attempt
  | .opened attempt _ => some attempt
  | _ => none

/-- The attempts that replies admit, with the routes that are told. -/
def admissions (replies : List (Route × BreakerOutcome)) : List (ℕ × Route) :=
  replies.filterMap fun reply => reply.2.admission.map (·, reply.1)

/-- The attempts that replies end, with the routes that are told. -/
def conclusions (replies : List (Route × BreakerOutcome)) : List (ℕ × Route) :=
  replies.filterMap fun reply => reply.2.terminal.map (·, reply.1)

/-- Everything a run replies, in order. -/
def replies (turns : List (BreakerTurn Route)) : List (Route × BreakerOutcome) :=
  turns.flatMap fun turn => turn.sends.replies

theorem replies_snoc (turns : List (BreakerTurn Route)) (turn : BreakerTurn Route) :
    replies (turns ++ [turn]) = replies turns ++ turn.sends.replies := by
  simp only [replies, List.flatMap_append, List.flatMap_singleton]

theorem admissions_append (first second : List (Route × BreakerOutcome)) :
    admissions (first ++ second) = admissions first ++ admissions second :=
  List.filterMap_append

theorem conclusions_append (first second : List (Route × BreakerOutcome)) :
    conclusions (first ++ second) = conclusions first ++ conclusions second :=
  List.filterMap_append

namespace CircuitBreaker

/-- **One turn keeps the books**: what was in flight and is admitted is answered or in flight
afterwards, and attempts are numbered in the order of their admission. -/
theorem Does.books {self next : CircuitBreaker Route} {event : BreakerEvent Route}
    {emitted : Except BreakerError (BreakerSends Route)} (h : Does self event next emitted)
    (hsound : self.Sound) :
    self.inFlight.toList ++ admissions (sent emitted).replies =
        conclusions (sent emitted).replies ++ next.inFlight.toList ∧
      List.range next.nextAttempt =
        List.range self.nextAttempt ++ (admissions (sent emitted).replies).map Prod.fst ∧
      ∀ attempt replyTo, (attempt, replyTo) ∈ admissions (sent emitted).replies →
        event = .inner (.admitOperation replyTo) := by
  have hidle : admissions ([] : List (Route × BreakerOutcome)) = [] := rfl
  cases h with
  | admits failures next replyTo hphase hnext | probes generation next replyTo hphase hnext =>
    obtain ⟨rfl, -⟩ := successor_some hnext
    refine ⟨?_, List.range_succ, ?_⟩
    · simp [inFlight, hphase, sent, reply, admissions, conclusions, BreakerOutcome.admission,
        BreakerOutcome.terminal]
    · intro attempt route hmem
      simp only [sent, reply, admissions, BreakerOutcome.admission, List.filterMap_cons,
        Option.map_some, List.filterMap_nil, List.mem_singleton, Prod.mk.injEq] at hmem
      rw [hmem.2]
  | runsOut replyTo hphase hnext =>
    have hnone : self.inFlight = none := by
      rcases hphase with ⟨failures, hphase⟩ | ⟨generation, hphase⟩ <;> simp [inFlight, hphase]
    refine ⟨?_, (List.append_nil _).symm, fun _ _ hmem => absurd hmem List.not_mem_nil⟩
    rw [hnone]
    rfl
  | declines rejection replyTo | foreign message completion hmessage howner | ignores elapsed =>
    exact ⟨List.append_nil _, (List.append_nil _).symm, fun _ _ hmem =>
      absurd hmem List.not_mem_nil⟩
  | succeeds attempt failures probe replyTo howner =>
    refine ⟨?_, (List.append_nil _).symm, fun _ _ hmem => absurd hmem List.not_mem_nil⟩
    rw [inFlight_of_ownership howner]
    rfl
  | records attempt failures replyTo hphase hfew =>
    refine ⟨?_, (List.append_nil _).symm, fun _ _ hmem => absurd hmem List.not_mem_nil⟩
    simp [inFlight, hphase, sent, reply, admissions, conclusions, BreakerOutcome.admission,
      BreakerOutcome.terminal]
  | opens attempt failures replyTo hphase hmany
  | reopens attempt generation next replyTo hphase hnext =>
    refine ⟨?_, (List.append_nil _).symm, fun _ _ hmem => absurd hmem List.not_mem_nil⟩
    simp [inFlight, hphase, sent, admissions, conclusions, BreakerOutcome.admission,
      BreakerOutcome.terminal]
  | givesUp attempt generation replyTo hphase hnext =>
    rw [hsound.never_gives_up hphase] at hnext
    cases hnext
  | rearms generation hphase =>
    refine ⟨?_, (List.append_nil _).symm, fun _ _ hmem => absurd hmem List.not_mem_nil⟩
    simp [inFlight, hphase, sent, admissions, conclusions]

/-! ### The count of failures -/

end CircuitBreaker

/-- What the replies so far say about the failures: whether the attempt admitted last is a probe,
and how many attempts have failed since the last success without being one. -/
structure History where
  probe : Bool := false
  failures : ℕ := 0
  deriving DecidableEq, Repr

/-- One reply more. -/
def History.after (history : History) : BreakerOutcome → History
  | .admitted _ => { history with probe := false }
  | .probeAdmitted _ => { history with probe := true }
  | .rejected _ => history
  | .succeeded _ => { history with failures := 0 }
  | .failureRecorded _ _ | .opened _ _ =>
    if history.probe then history else { history with failures := history.failures + 1 }

/-- The history that replies tell. -/
def history (replies : List (Route × BreakerOutcome)) : History :=
  replies.foldl (fun history reply => history.after reply.2) {}

namespace CircuitBreaker

/-- **The phase counts what the history counts.** -/
def Agrees (self : CircuitBreaker Route) (history : History) : Prop :=
  match self.phase with
  | .closed (.idle failures) => history.failures = failures
  | .closed (.awaiting failures _ _) => history.failures = failures ∧ history.probe = false
  | .probing _ (.awaiting ..) => history.probe = true
  | _ => True

/-- One turn keeps the count. -/
theorem Does.agrees {self next : CircuitBreaker Route} {event : BreakerEvent Route}
    {emitted : Except BreakerError (BreakerSends Route)} (h : Does self event next emitted)
    (hsound : self.Sound) {past : History} (hagrees : self.Agrees past) :
    next.Agrees ((sent emitted).replies.foldl (fun history reply => history.after reply.2) past) := by
  cases h with
  | admits failures next replyTo hphase hnext =>
    unfold Agrees at hagrees
    rw [hphase] at hagrees
    exact ⟨hagrees, rfl⟩
  | probes generation next replyTo hphase hnext => exact rfl
  | runsOut replyTo hphase hnext => trivial
  | declines rejection replyTo => exact hagrees
  | foreign message completion hmessage howner => exact hagrees
  | succeeds attempt failures probe replyTo howner => exact rfl
  | records attempt failures replyTo hphase hfew =>
    have hrest := hsound.2
    rw [hphase] at hrest
    unfold Agrees at hagrees
    rw [hphase] at hagrees
    have hcount : (past.after (.failureRecorded attempt (saturatingAdd32 failures 1))).failures =
        saturatingAdd32 failures 1 := by
      rw [saturatingAdd32_one hrest.1]
      simp [History.after, hagrees.2, hagrees.1]
    exact hcount
  | opens attempt failures replyTo hphase hmany => trivial
  | reopens attempt generation next replyTo hphase hnext => trivial
  | givesUp attempt generation replyTo hphase hnext => trivial
  | rearms generation hphase => trivial
  | ignores elapsed => exact hagrees

/-- The circuit is open. -/
def isOpen (self : CircuitBreaker Route) : Bool :=
  match self.phase with
  | .open' _ => true
  | _ => false

/-- **An event opens the circuit.** -/
def Opens (self : CircuitBreaker Route) (event : BreakerEvent Route) : Prop :=
  self.isOpen = false ∧ (self.transition event).1.isOpen = true

/-- **A turn opens the circuit exactly if it fails a probe, or completes the threshold.** -/
theorem opens_iff {self : CircuitBreaker Route} {event} (hsound : self.Sound) {past : History}
    (hagrees : self.Agrees past) :
    self.Opens event ↔ ∃ attempt replyTo, event = .inner (.failed attempt) ∧
      self.inFlight = some (attempt, replyTo) ∧
      (past.probe = true ∨ past.failures + 1 = self.threshold.1) := by
  have hdoes := transition_does self event
  have hrest := hsound.2
  unfold Opens
  unfold Agrees at hagrees
  generalize self.transition event = result at hdoes ⊢
  obtain ⟨next, emitted⟩ := result
  dsimp only at hdoes ⊢
  constructor
  · rintro ⟨hclosed, hopen⟩
    cases hdoes with
    | admits failures next replyTo hphase hnext => cases hopen
    | probes generation next replyTo hphase hnext => cases hopen
    | runsOut replyTo hphase hnext => cases hopen
    | declines rejection replyTo | ignores elapsed =>
      exact absurd (hclosed.symm.trans hopen) Bool.false_ne_true
    | foreign message completion hmessage howner =>
      exact absurd (hclosed.symm.trans hopen) Bool.false_ne_true
    | succeeds attempt failures probe replyTo howner => cases hopen
    | records attempt failures replyTo hphase hfew => cases hopen
    | opens attempt failures replyTo hphase hmany =>
      rw [hphase] at hagrees hrest
      rw [saturatingAdd32_one hrest.1] at hmany
      have hfew := hrest.1
      have hcount := hagrees.1
      refine ⟨attempt, replyTo, rfl, ?_, .inr (by omega)⟩
      rw [inFlight, hphase]
    | reopens attempt generation next replyTo hphase hnext =>
      rw [hphase] at hagrees
      refine ⟨attempt, replyTo, rfl, ?_, .inl hagrees⟩
      rw [inFlight, hphase]
    | givesUp attempt generation replyTo hphase hnext => cases hopen
    | rearms generation hphase => cases hopen
  · rintro ⟨attempt, replyTo, rfl, hflight, hwhy⟩
    cases hdoes with
    | foreign message completion hmessage howner =>
      rcases hmessage with ⟨hmessage, -⟩ | ⟨hmessage, -⟩
      · cases hmessage
      · obtain rfl := BreakerMessage.failed.inj hmessage
        exact absurd hflight (ownership_none.mp howner replyTo)
    | records attempt failures replyTo hphase hfew =>
      rw [hphase] at hagrees hrest
      rw [saturatingAdd32_one hrest.1] at hfew
      rcases hwhy with hprobe | hcount
      · rw [hagrees.2] at hprobe
        cases hprobe
      · have hsame := hagrees.1
        omega
    | opens attempt failures replyTo hphase hmany
    | reopens attempt generation next replyTo hphase hnext =>
      refine ⟨?_, rfl⟩
      rw [isOpen, hphase]
    | givesUp attempt generation replyTo hphase hnext =>
      rw [hsound.never_gives_up hphase] at hnext
      cases hnext

/-- The threshold of a breaker is fixed. -/
theorem run_threshold (first : CircuitBreaker Route) (events : List (BreakerEvent Route)) :
    (first.run events).threshold = first.threshold := by
  refine Machine.reached_invariant
    (P := fun state : CircuitBreaker Route => state.threshold = first.threshold) rfl
    (fun state event hsame => ?_) events
  have hdoes := transition_does state event
  generalize state.transition event = result at hdoes ⊢
  obtain ⟨next, emitted⟩ := result
  dsimp only at hdoes ⊢
  cases hdoes <;> exact hsame

/-- **The history tells the phase, and the books are kept**, after every run. -/
theorem run_books {threshold : NonZeroU32} {resetAfter timerId : ℕ}
    {breaker : CircuitBreaker Route} (h : new threshold resetAfter timerId = .ok breaker)
    (events : List (BreakerEvent Route)) :
    (breaker.run events).Agrees (history (replies (breaker.turns events))) ∧
      admissions (replies (breaker.turns events)) =
        conclusions (replies (breaker.turns events)) ++ (breaker.run events).inFlight.toList ∧
      (admissions (replies (breaker.turns events))).map Prod.fst =
        List.range (breaker.run events).nextAttempt := by
  induction events using List.reverseRecOn with
  | nil =>
    obtain ⟨rfl, -⟩ := new_sound h
    exact ⟨rfl, rfl, rfl⟩
  | append_singleton events event ih =>
    obtain ⟨hagrees, hbooks, hnumbers⟩ := ih
    have hsound := run_sound h events
    have hdoes := transition_does (breaker.run events) event
    obtain ⟨hturn, hrange, -⟩ := hdoes.books hsound
    have hturns : breaker.turns (events ++ [event]) =
        breaker.turns events ++ [Machine.turn transition (breaker.run events) event] :=
      Machine.turns_snoc events event
    have hrun : breaker.run (events ++ [event]) = ((breaker.run events).transition event).1 :=
      Machine.reached_snoc events event
    rw [hturns, hrun, replies_snoc]
    refine ⟨?_, ?_, ?_⟩
    · rw [history, List.foldl_append]
      exact hdoes.agrees hsound hagrees
    · calc admissions (replies (breaker.turns events) ++ _)
          = (conclusions (replies (breaker.turns events)) ++ (breaker.run events).inFlight.toList) ++
              admissions (sent ((breaker.run events).transition event).2).replies := by
            rw [admissions_append, hbooks]
            rfl
        _ = conclusions (replies (breaker.turns events)) ++
              (conclusions (sent ((breaker.run events).transition event).2).replies ++
                ((breaker.run events).transition event).1.inFlight.toList) := by
            rw [List.append_assoc, hturn]
        _ = _ := by
            rw [conclusions_append, List.append_assoc]
            rfl
    · rw [admissions_append, List.map_append, hnumbers, hrange]
      rfl

end CircuitBreaker

/-- The event that submits a completion. -/
def BreakerCompletion.event : BreakerCompletion → BreakerEvent Route
  | .succeeded attempt => .inner (.succeeded attempt)
  | .failed attempt => .inner (.failed attempt)

namespace CircuitBreaker

/-- **A completion of anything but the attempt in flight comes back, and changes nothing.** -/
theorem completion_foreign {self : CircuitBreaker Route} {completion : BreakerCompletion}
    (h : ∀ replyTo, self.inFlight ≠ some (completion.attempt, replyTo)) :
    self.transition completion.event = (self, .error (.unexpectedCompletion completion)) := by
  have howner := ownership_none.mpr h
  have hcomplete : self.complete completion = (self, .error (.unexpectedCompletion completion)) := by
    unfold complete
    dsimp only
    rw [howner]
  cases completion with
  | succeeded attempt | failed attempt => exact hcomplete

/-- **The completion of the attempt in flight is answered, to the route it was admitted for.** -/
theorem completion_answered {self : CircuitBreaker Route} (hsound : self.Sound)
    {completion : BreakerCompletion} {replyTo}
    (h : self.inFlight = some (completion.attempt, replyTo)) :
    conclusions (sent (self.transition completion.event).2).replies =
      [(completion.attempt, replyTo)] := by
  have hdoes := transition_does self completion.event
  have hbooks := (hdoes.books hsound).1
  rw [h] at hbooks
  generalize self.transition completion.event = result at hdoes hbooks ⊢
  obtain ⟨next, emitted⟩ := result
  have howner : self.ownership completion.attempt ≠ none := fun hnone =>
    ownership_none.mp hnone replyTo h
  rcases completion with attempt | attempt
  all_goals
    dsimp only [BreakerCompletion.event, BreakerCompletion.attempt] at hdoes hbooks howner ⊢
    cases hdoes with
    | foreign message other hmessage hnone =>
      rcases hmessage with ⟨hmessage, -⟩ | ⟨hmessage, -⟩ <;> cases hmessage
      exact absurd hnone howner
    | _ => exact hbooks.symm

end CircuitBreaker

/-- **Single flight.**  In every run of a new breaker: the attempts admitted are those that were
answered, to the routes they were admitted for, and the one in flight, if any; no attempt is
admitted twice; an admission is told to the route that asked.  Whatever comes next, a completion of
anything but the attempt in flight comes back as an error and changes nothing, that of the attempt
in flight ends it with one reply to its route, and the circuit opens exactly at the failure of a
probe or at the one that completes the threshold since the last success. -/
theorem flight_law {threshold : NonZeroU32} {resetAfter timerId : ℕ}
    {breaker : CircuitBreaker Route}
    (h : CircuitBreaker.new threshold resetAfter timerId = .ok breaker)
    (events : List (BreakerEvent Route)) :
    let turns := breaker.turns events
    let state := breaker.run events
    admissions (replies turns) = conclusions (replies turns) ++ state.inFlight.toList ∧
      ((admissions (replies turns)).map Prod.fst).Nodup ∧
      (∀ turn ∈ turns, ∀ attempt replyTo, (attempt, replyTo) ∈ admissions turn.sends.replies →
        turn.event = .inner (.admitOperation replyTo)) ∧
      (∀ completion : BreakerCompletion,
        (∀ replyTo, state.inFlight ≠ some (completion.attempt, replyTo)) →
          state.transition completion.event =
            (state, .error (.unexpectedCompletion completion))) ∧
      (∀ (completion : BreakerCompletion) replyTo,
        state.inFlight = some (completion.attempt, replyTo) →
          conclusions (sent (state.transition completion.event).2).replies =
            [(completion.attempt, replyTo)]) ∧
      ∀ event, state.Opens event ↔ ∃ attempt replyTo, event = .inner (.failed attempt) ∧
        state.inFlight = some (attempt, replyTo) ∧
        ((history (replies turns)).probe = true ∨
          (history (replies turns)).failures + 1 = threshold.1) := by
  have hsound := CircuitBreaker.run_sound h events
  obtain ⟨hagrees, hbooks, hnumbers⟩ := CircuitBreaker.run_books h events
  refine ⟨hbooks, ?_, ?_, ?_, ?_, ?_⟩
  · rw [hnumbers]
    exact List.nodup_range
  · intro turn hturn attempt replyTo hadmitted
    obtain ⟨earlier, later, hsplit⟩ := List.append_of_mem hturn
    obtain ⟨before, -, hnow⟩ := Machine.turns_split hsplit
    have hdoes := CircuitBreaker.transition_does (breaker.run before) turn.event
    rw [hnow] at hadmitted
    exact (hdoes.books (CircuitBreaker.run_sound h before)).2.2 attempt replyTo hadmitted
  · intro completion hforeign
    exact CircuitBreaker.completion_foreign hforeign
  · intro completion replyTo hflight
    exact CircuitBreaker.completion_answered hsound hflight
  · intro event
    have hthreshold : (breaker.run events).threshold = threshold := by
      obtain ⟨rfl, -⟩ := CircuitBreaker.new_sound h
      exact CircuitBreaker.run_threshold _ events
    rw [← hthreshold]
    exact CircuitBreaker.opens_iff hsound hagrees

/-- A breaker of threshold one, after a failure that opened it. -/
theorem flight_law_opened :
    let events : List (BreakerEvent ℕ) := [.inner (.admitOperation 7), .inner (.failed 0)]
    (conclusions (replies (CircuitBreaker.turns ⟨⟨1, by decide⟩, 5, 8, 0, .closed (.idle 0)⟩
      events))) = [(0, 7)] ∧
      admissions (replies (CircuitBreaker.turns ⟨⟨1, by decide⟩, 5, 8, 0, .closed (.idle 0)⟩
        events)) = [(0, 7)] := by
  refine ⟨rfl, ?_⟩
  exact (@flight_law ℕ ⟨1, by decide⟩ 5 8 _ rfl
    [.inner (.admitOperation 7), .inner (.failed 0)]).1

end Bombay.Routing
