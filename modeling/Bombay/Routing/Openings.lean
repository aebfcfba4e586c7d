/-
# Timers of a circuit breaker that opens again

The generation of a reset timer lives in the phases `Open` and `Probing`, and a circuit
that opens from `Closed` starts at zero again.  So the timers of a run are distinct, and
an elapsed event of an earlier opening never ends a later one, exactly as long as the
circuit opens from `Closed` at most once (`freshTimers_iff`).  Failed probes may reopen it
as often as they like.  `reopened_stale` is a circuit that closes, opens again, and is
sent to its probe by the timer of its first opening.
-/

import Bombay.Routing.Flight

namespace Bombay.Routing

variable {Route : Type}

/-- The reset timers that a run schedules, in order. -/
def schedules (turns : List (BreakerTurn Route)) : List ScheduleAfter :=
  turns.flatMap fun turn => turn.sends.schedules

/-- **Timer freshness**: no two schedules carry one generation, an open circuit is sent to its
probe by the timer of the opening in force only, and by no timer of an earlier one. -/
structure FreshTimers (turns : List (BreakerTurn Route)) : Prop where
  distinct : ((schedules turns).map ScheduleAfter.generation).Nodup
  current : ∀ earlier now later elapsed, turns = earlier ++ now :: later →
    now.event = .owned elapsed → now.before.isOpen = true → now.after.isOpen = false →
      ∃ schedule, (schedules earlier).getLast? = some schedule ∧
        elapsed = ⟨schedule.id, schedule.generation⟩
  delayed : ∀ earlier now later, turns = earlier ++ now :: later →
    ∀ stale ∈ (schedules earlier).dropLast,
      now.event = .owned ⟨stale.id, stale.generation⟩ → now.after = now.before

/-- The generation of the opening in force. -/
def BreakerPhase.generation : BreakerPhase Route → Option ℕ
  | .open' generation => some generation
  | .probing generation _ => some generation
  | _ => none

namespace CircuitBreaker

/-- The event is the failure that opens a closed circuit. -/
def trips (self : CircuitBreaker Route) (event : BreakerEvent Route) : Bool :=
  match self.phase, event with
  | .closed (.awaiting failures current _), .inner (.failed attempt) =>
    current == attempt && decide (self.threshold.1 ≤ saturatingAdd32 failures 1)
  | _, _ => false

/-- How often a run opens a closed circuit. -/
def trippings (turns : List (BreakerTurn Route)) : ℕ :=
  turns.countP fun turn => turn.before.trips turn.event

/-- **The phase is that of the last schedule.** -/
def InForce (self : CircuitBreaker Route) (schedules : List ScheduleAfter) : Prop :=
  ∀ generation, self.phase.generation = some generation →
    ∃ schedule, schedules.getLast? = some schedule ∧ schedule.id = self.timerId ∧
      schedule.generation = generation

variable {self next : CircuitBreaker Route} {event : BreakerEvent Route}
    {emitted : Except BreakerError (BreakerSends Route)}

/-- A turn that schedules nothing and goes to no other generation keeps the last schedule. -/
theorem InForce.quiet {past} (h : self.InForce past) (htimer : next.timerId = self.timerId)
    (hphase : ∀ generation, next.phase.generation = some generation →
      self.phase.generation = some generation) : next.InForce (past ++ []) := by
  intro generation hgeneration
  rw [List.append_nil, htimer]
  exact h generation (hphase generation hgeneration)

/-- One turn keeps the last schedule in force. -/
theorem Does.inForce (h : Does self event next emitted) {past} (hforce : self.InForce past) :
    next.InForce (past ++ (sent emitted).schedules) := by
  cases h with
  | admits failures next replyTo hphase hnext | runsOut replyTo hphase hnext
  | succeeds attempt failures probe replyTo howner
  | records attempt failures replyTo hphase hfew
  | givesUp attempt generation replyTo hphase hnext =>
    exact hforce.quiet rfl fun generation hgeneration => nomatch hgeneration
  | probes generation next replyTo hphase hnext | rearms generation hphase =>
    refine hforce.quiet rfl fun generation' hgeneration => ?_
    rw [hphase]
    exact hgeneration
  | declines rejection replyTo | ignores elapsed =>
    exact hforce.quiet rfl fun generation hgeneration => hgeneration
  | foreign message completion hmessage howner =>
    exact hforce.quiet rfl fun generation hgeneration => hgeneration
  | opens attempt failures replyTo hphase hmany =>
    intro generation hgeneration
    exact ⟨_, List.getLast?_concat, rfl, Option.some.inj hgeneration⟩
  | reopens attempt generation next replyTo hphase hnext =>
    intro generation' hgeneration
    exact ⟨_, List.getLast?_concat, rfl, Option.some.inj hgeneration⟩

/-- **How many timers were scheduled**, for a circuit that was opened from `Closed` that often. -/
structure Counted (breaker : CircuitBreaker Route) (generations : List ℕ) (trippings : ℕ) :
    Prop where
  untripped : trippings = 0 → generations = []
  counts : trippings ≤ 1 → generations = List.range generations.length
  latest : ∀ generation, breaker.phase.generation = some generation → trippings ≤ 1 →
    generations.length = generation + 1

/-- A turn that schedules nothing and goes to no other generation keeps the count. -/
theorem Counted.quiet {generations trippings more} (h : self.Counted generations trippings)
    (hphase : ∀ generation, next.phase.generation = some generation →
      self.phase.generation = some generation) :
    next.Counted (generations ++ []) (trippings + more) := by
  rw [List.append_nil]
  constructor
  · intro hnone
    exact h.untripped (by omega)
  · intro hone
    exact h.counts (by omega)
  · intro generation hgeneration hone
    exact h.latest generation (hphase generation hgeneration) (by omega)

/-- One turn keeps the count. -/
theorem Does.counted (h : Does self event next emitted) {generations trippings}
    (hcounted : self.Counted generations trippings) :
    next.Counted (generations ++ (sent emitted).schedules.map ScheduleAfter.generation)
      (trippings + if self.trips event then 1 else 0) := by
  cases h with
  | admits failures next replyTo hphase hnext | runsOut replyTo hphase hnext
  | succeeds attempt failures probe replyTo howner
  | records attempt failures replyTo hphase hfew
  | givesUp attempt generation replyTo hphase hnext =>
    exact hcounted.quiet fun generation hgeneration => nomatch hgeneration
  | probes generation next replyTo hphase hnext | rearms generation hphase =>
    refine hcounted.quiet fun generation' hgeneration => ?_
    rw [hphase]
    exact hgeneration
  | declines rejection replyTo | ignores elapsed =>
    exact hcounted.quiet fun generation hgeneration => hgeneration
  | foreign message completion hmessage howner =>
    exact hcounted.quiet fun generation hgeneration => hgeneration
  | opens attempt failures replyTo hphase hmany =>
    have htrips : self.trips (.inner (.failed attempt)) = true := by
      simp [trips, hphase, hmany]
    rw [if_pos htrips]
    have hfirst : trippings + 1 ≤ 1 → generations = [] := fun hone =>
      hcounted.untripped (by omega)
    constructor
    · intro hnone
      omega
    · intro hone
      rw [hfirst hone]
      rfl
    · intro generation hgeneration hone
      obtain rfl := Option.some.inj hgeneration
      rw [hfirst hone]
      rfl
  | reopens attempt generation next replyTo hphase hnext =>
    obtain ⟨rfl, -⟩ := successor_some hnext
    have hlength : trippings ≤ 1 → generations.length = generation + 1 :=
      hcounted.latest generation (by rw [hphase]; rfl)
    constructor
    · intro hnone
      have hgenerations := hcounted.untripped (by omega)
      have hpositive := hlength (by omega)
      rw [hgenerations] at hpositive
      cases hpositive
    · intro hone
      have hcounts := hcounted.counts (by omega)
      rw [hlength (by omega)] at hcounts
      rw [List.length_append, hlength (by omega), hcounts]
      exact List.range_succ.symm
    · intro generation' hgeneration hone
      obtain rfl := Option.some.inj hgeneration
      rw [List.length_append, hlength (by omega)]
      rfl

/-- **An opening of a closed circuit schedules generation zero.** -/
theorem Does.trips (h : Does self event next emitted) (htrips : self.trips event = true) :
    0 ∈ (sent emitted).schedules.map ScheduleAfter.generation := by
  unfold CircuitBreaker.trips at htrips
  split at htrips
  · rename_i failures current replyTo attempt hphase
    simp only [Bool.and_eq_true, beq_iff_eq, decide_eq_true_eq] at htrips
    obtain ⟨rfl, hmany⟩ := htrips
    cases h with
    | foreign message completion hmessage howner =>
      rcases hmessage with ⟨hmessage, -⟩ | ⟨hmessage, -⟩
      · cases hmessage
      · obtain rfl := BreakerMessage.failed.inj hmessage
        refine absurd ?_ (ownership_none.mp howner replyTo)
        rw [inFlight, hphase]
    | records attempt failures' replyTo' hphase' hfew =>
      rw [hphase] at hphase'
      cases hphase'
      exact absurd hfew (not_lt.mpr hmany)
    | opens attempt failures' replyTo' hphase' hmany' => exact List.mem_singleton.mpr rfl
    | reopens attempt generation next replyTo' hphase' hnext
    | givesUp attempt generation replyTo' hphase' hnext =>
      rw [hphase] at hphase'
      cases hphase'
  · cases htrips

/-! ### Whole runs -/

theorem schedules_snoc (turns : List (BreakerTurn Route)) (turn : BreakerTurn Route) :
    schedules (turns ++ [turn]) = schedules turns ++ turn.sends.schedules := by
  simp only [schedules, List.flatMap_append, List.flatMap_singleton]

theorem turns_snoc (first : CircuitBreaker Route) (events : List (BreakerEvent Route))
    (event : BreakerEvent Route) :
    first.turns (events ++ [event]) =
      first.turns events ++ [Machine.turn transition (first.run events) event] :=
  Machine.turns_snoc events event

theorem run_snoc (first : CircuitBreaker Route) (events : List (BreakerEvent Route))
    (event : BreakerEvent Route) :
    first.run (events ++ [event]) = ((first.run events).transition event).1 :=
  Machine.reached_snoc events event

theorem trippings_snoc (turns : List (BreakerTurn Route)) (turn : BreakerTurn Route) :
    trippings (turns ++ [turn]) =
      trippings turns + if turn.before.trips turn.event then 1 else 0 := by
  simp only [trippings, List.countP_append, List.countP_singleton]

/-- **After every run the phase is that of the last schedule, and the schedules are counted.** -/
theorem run_counted {threshold resetAfter timerId breaker}
    (h : new threshold resetAfter timerId = .ok breaker) (events : List (BreakerEvent Route)) :
    (breaker.run events).InForce (schedules (breaker.turns events)) ∧
      (breaker.run events).Counted ((schedules (breaker.turns events)).map ScheduleAfter.generation)
        (trippings (breaker.turns events)) ∧
      trippings (breaker.turns events) ≤
        ((schedules (breaker.turns events)).map ScheduleAfter.generation).count 0 := by
  induction events using List.reverseRecOn with
  | nil =>
    obtain ⟨rfl, -⟩ := new_sound h
    refine ⟨?_, ⟨fun _ => rfl, fun _ => rfl, ?_⟩, Nat.le_refl 0⟩
    · intro generation hgeneration
      cases hgeneration
    · intro generation hgeneration
      cases hgeneration
  | append_singleton events event ih =>
    obtain ⟨hforce, hcounted, hzero⟩ := ih
    have hdoes := transition_does (breaker.run events) event
    rw [turns_snoc, run_snoc, schedules_snoc, trippings_snoc, List.map_append]
    refine ⟨hdoes.inForce hforce, hdoes.counted hcounted, ?_⟩
    rw [List.count_append]
    split
    · rename_i htrips
      have hmem := List.one_le_count_iff.mpr (hdoes.trips htrips)
      exact Nat.add_le_add hzero hmem
    · omega

/-- **An elapsed event changes an open circuit only, and only by its own timer.** -/
theorem elapsed_cases (self : CircuitBreaker Route) (elapsed : TimerElapsed) :
    (self.transition (.owned elapsed)).1 = self ∨
      self.isOpen = true ∧ elapsed.id = self.timerId ∧
        self.phase.generation = some elapsed.generation := by
  have hdoes := transition_does self (.owned elapsed)
  generalize self.transition (.owned elapsed) = result at hdoes ⊢
  obtain ⟨next, emitted⟩ := result
  dsimp only at hdoes ⊢
  cases hdoes with
  | rearms generation hphase =>
    refine .inr ⟨?_, rfl, ?_⟩
    · rw [isOpen, hphase]
    · rw [hphase]
      rfl
  | ignores elapsed => exact .inl rfl

end CircuitBreaker

/-- **The timers of a run are fresh exactly if the circuit opens from `Closed` at most once.** -/
theorem freshTimers_iff {threshold : NonZeroU32} {resetAfter timerId : ℕ}
    {breaker : CircuitBreaker Route}
    (h : CircuitBreaker.new threshold resetAfter timerId = .ok breaker)
    (events : List (BreakerEvent Route)) :
    FreshTimers (breaker.turns events) ↔ CircuitBreaker.trippings (breaker.turns events) ≤ 1 := by
  constructor
  · intro hfresh
    obtain ⟨-, -, hzero⟩ := CircuitBreaker.run_counted h events
    exact hzero.trans (List.nodup_iff_count_le_one.mp hfresh.distinct 0)
  · intro hone
    have hdistinct : ((schedules (breaker.turns events)).map ScheduleAfter.generation).Nodup := by
      obtain ⟨-, hcounted, -⟩ := CircuitBreaker.run_counted h events
      rw [hcounted.counts hone]
      exact List.nodup_range
    -- What the elapsed event of a turn carries is the schedule in force just before it.
    have hcurrent : ∀ earlier now later elapsed, breaker.turns events = earlier ++ now :: later →
        now.event = .owned elapsed → now.after ≠ now.before →
          ∃ schedule, (schedules earlier).getLast? = some schedule ∧
            elapsed = ⟨schedule.id, schedule.generation⟩ := by
      intro earlier now later elapsed hsplit hevent hchanged
      obtain ⟨before, rfl, hnow⟩ := Machine.turns_split hsplit
      obtain ⟨hforce, -⟩ := CircuitBreaker.run_counted h before
      rw [hevent] at hnow
      rcases CircuitBreaker.elapsed_cases (breaker.run before) elapsed with
        hsame | ⟨-, hid, hgeneration⟩
      · refine absurd ?_ hchanged
        rw [hnow]
        exact hsame
      · obtain ⟨schedule, hlast, hscheduled, hsame⟩ := hforce _ hgeneration
        refine ⟨schedule, hlast, ?_⟩
        rw [hscheduled, hsame, ← hid]
    refine ⟨hdistinct, ?_, ?_⟩
    · intro earlier now later elapsed hsplit hevent hopen hprobing
      refine hcurrent earlier now later elapsed hsplit hevent fun hsame => ?_
      rw [hsame, hopen] at hprobing
      cases hprobing
    · intro earlier now later hsplit stale hstale hevent
      by_contra hchanged
      obtain ⟨schedule, hlast, hsame⟩ := hcurrent earlier now later _ hsplit hevent hchanged
      have hearlier : ((schedules earlier).map ScheduleAfter.generation).Nodup := by
        have hpart : schedules (breaker.turns events) =
            schedules earlier ++ schedules (now :: later) := by
          rw [hsplit]
          exact List.flatMap_append
        rw [hpart, List.map_append] at hdistinct
        exact hdistinct.of_append_left
      -- The last schedule would carry the generation of an earlier one.
      have hsplit' : (schedules earlier).dropLast ++ [schedule] = schedules earlier :=
        List.dropLast_append_getLast? schedule hlast
      rw [← hsplit', List.map_append] at hearlier
      have hdisjoint := List.disjoint_of_nodup_append hearlier
      refine hdisjoint (List.mem_map_of_mem hstale) ?_
      rw [(TimerElapsed.mk.inj hsame).2]
      exact List.mem_singleton.mpr rfl

/-- A breaker that opens at the first failure. -/
def fragile : CircuitBreaker ℕ := ⟨⟨1, by decide⟩, 5, 8, 0, .closed (.idle 0)⟩

/-- A breaker that is opened once. -/
theorem freshTimers_opened :
    FreshTimers (fragile.turns [.inner (.admitOperation 7), .inner (.failed 0)]) :=
  (freshTimers_iff (show CircuitBreaker.new ⟨1, by decide⟩ 5 8 = .ok fragile from rfl) _).mpr
    (by decide)

/-- **A circuit that closed and opened again is sent to its probe by the timer of its first
opening**: the breaker opens, is probed and closes, opens again, and gets the elapsed event of the
first opening once more. -/
theorem reopened_stale :
    ¬ FreshTimers (fragile.turns [.inner (.admitOperation 7), .inner (.failed 0), .owned ⟨8, 0⟩,
      .inner (.admitOperation 7), .inner (.succeeded 1), .inner (.admitOperation 7),
      .inner (.failed 2), .owned ⟨8, 0⟩]) := by
  intro hfresh
  have hsame := hfresh.delayed
    (fragile.turns [.inner (.admitOperation 7), .inner (.failed 0), .owned ⟨8, 0⟩,
      .inner (.admitOperation 7), .inner (.succeeded 1), .inner (.admitOperation 7),
      .inner (.failed 2)])
    ⟨⟨⟨1, by decide⟩, 5, 8, 3, .open' 0⟩, .owned ⟨8, 0⟩,
      ⟨⟨1, by decide⟩, 5, 8, 3, .probing 0 .available⟩, .ok {}⟩
    [] rfl ⟨8, 0, 5⟩ (by decide) rfl
  exact absurd hsame (by decide)

end Bombay.Routing
