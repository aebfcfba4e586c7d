/-
# A timer fires once, and only while it is live

Every step of a timer wrapper has a note (`Steps`): an elapsed generation that is ignored leaves
the wrapper as it was, one that is accepted is answered with the reaction, and every other event
goes to the inner behavior.  The timer of a wrapper is an alarm, and every step rings it as the
library asks, so the laws of its log follow.

Three of the wrappers are silent once a stop was returned.  A one-shot timer stays armed when the
inner behavior stops, so its reaction can still come (`reaction_after_stop`).
-/

import Bombay.Time.Timers
import Bombay.Lib.Alarm
import Bombay.Lib.Machine
import Mathlib.Order.Nat

namespace Bombay.Time

variable {σ Event Sends Create Ph Error Address Message Schedule W : Type}

/-- The verdict of a result is a stop. -/
def Stops (emitted : Except Error (TimedActions Schedule Sends Create Ph)) : Bool :=
  match emitted with
  | .ok actions => actions.stops
  | .error _ => false

/-- **A step of a wrapper, by the inner behavior that it wraps**: the inner state before and after
it, the event, what is emitted and the note.  The schedules that are emitted are those of the note,
and `delegated` is the event that the inner behavior gets. -/
inductive Steps [SendEffects Sends] (behavior : Behavior σ Event Sends Create Ph Error)
    (reaction : TimedReaction σ Sends Create Ph) (schedule : ℕ → Schedule)
    (delegated : Event → Event) :
    σ → EventLayer OwnedTimerElapsed Event → σ →
      Except Error (TimedActions Schedule Sends Create Ph) → Note ℕ → Prop
  | ignored {inner generation} :
      Steps behavior reaction schedule delegated inner (.owned ⟨generation⟩) inner (.ok .cont)
        ⟨some generation, false, none, false⟩
  | reacted {inner after actions} (generation : ℕ) (armed : Option ℕ)
      (hreaction : reaction inner = (after, actions)) :
      Steps behavior reaction schedule delegated inner (.owned ⟨generation⟩) after
        (.ok (wrap actions (armed.toList.map schedule)))
        ⟨some generation, true, armed, actions.stops⟩
  | failed {inner event after error}
      (hinner : behavior.transition inner (delegated event) = (after, .error error)) :
      Steps behavior reaction schedule delegated inner (.inner event) after (.error error)
        ⟨none, false, none, false⟩
  | acted {inner event after actions} (armed : Option ℕ)
      (hinner : behavior.transition inner (delegated event) = (after, .ok actions)) :
      Steps behavior reaction schedule delegated inner (.inner event) after
        (.ok (wrap actions (armed.toList.map schedule))) ⟨none, false, armed, actions.stops⟩

/-- The initialization of a wrapper: it emits the first schedule unless the inner behavior
stops. -/
inductive Starts (behavior : Behavior σ Event Sends Create Ph Error) (schedule : ℕ → Schedule)
    (first : Option ℕ) : σ → σ → TimedActions Schedule Sends Create Ph → Note ℕ → Prop
  | stopped {inner after actions} (hinner : behavior.init inner = (after, .ok actions))
      (hstops : actions.stops = true) :
      Starts behavior schedule first inner after (wrap actions []) ⟨none, false, none, true⟩
  | started {inner after actions} (hinner : behavior.init inner = (after, .ok actions))
      (hstops : actions.stops = false) :
      Starts behavior schedule first inner after (wrap actions (first.toList.map schedule))
        ⟨none, false, first, false⟩

theorem wrap_stops (actions : Actions Sends Create Ph) (own : List Schedule) :
    (wrap actions own).stops = actions.stops := rfl

theorem Starts.stops_eq {first inner after emitted note}
    (h : Starts behavior schedule first inner after emitted note) :
    note.stopped = emitted.stops := by
  cases h with
  | stopped _ hstops | started _ hstops => exact hstops.symm

section Steps

variable [SendEffects Sends] {behavior : Behavior σ Event Sends Create Ph Error}
  {reaction : TimedReaction σ Sends Create Ph} {schedule : ℕ → Schedule} {delegated : Event → Event}

/-- A note says whether the step stopped. -/
theorem Steps.stops_eq {inner after event emitted note}
    (h : Steps behavior reaction schedule delegated inner event after emitted note) :
    note.stopped = Stops emitted := by
  cases h with
  | ignored | failed | reacted | acted => rfl

/-- An elapsed generation that changes the inner state was answered. -/
theorem Steps.fired_of_changed {inner after elapsed emitted note}
    (h : Steps behavior reaction schedule delegated inner (.owned elapsed) after emitted note)
    (hchanged : inner ≠ after) : note.elapsed = some elapsed.generation ∧ note.fired = true := by
  cases h with
  | ignored => exact absurd rfl hchanged
  | reacted => exact ⟨rfl, rfl⟩

end Steps

/-! ### Timers as alarms -/

/-- The alarm that a lease shows. -/
def TimerLease.Shows (alarm : Alarm ℕ) : TimerLease → Prop
  | .neverIssued => alarm = ⟨none, false⟩
  | .armed generation => alarm = ⟨some generation, true⟩
  | .idle generation => alarm = ⟨some generation, false⟩
  | .exhausted => alarm.live = false

/-- The lease has another generation to issue. -/
def TimerLease.Renews : TimerLease → Prop
  | .neverIssued => True
  | .armed generation | .idle generation => generation + 1 < 2 ^ 64
  | .exhausted => False

/-- The alarm that a schedule shows. -/
def OneShotSchedule.Shows (alarm : Alarm ℕ) : OneShotSchedule → Prop
  | .scheduled generation _ => alarm = ⟨some generation, true⟩
  | .unscheduled => alarm.live = false

/-- An elapsed generation is accepted by the lease that is armed with it, or it is ignored. -/
theorem TimerLease.accept_cases (lease : TimerLease) (generation : ℕ) :
    (lease = .armed generation ∧ lease.accept generation = (.idle generation, .accepted)) ∨
      lease.accept generation = (lease, .ignored) := by
  cases lease with
  | armed live =>
    by_cases hlive : live = generation
    · exact .inl ⟨by rw [hlive], by rw [accept, if_pos hlive, hlive]⟩
    · exact .inr (by rw [accept, if_neg hlive])
  | neverIssued | idle | exhausted => exact .inr rfl

theorem OneShotSchedule.accept_cases (schedule : OneShotSchedule) (generation : ℕ) :
    ((∃ at', schedule = .scheduled generation at') ∧
        schedule.accept generation = (.unscheduled, .accepted)) ∨
      schedule.accept generation = (schedule, .ignored) := by
  cases schedule with
  | scheduled expected at' =>
    by_cases hexpected : expected = generation
    · exact .inl ⟨⟨at', by rw [hexpected]⟩, by rw [accept, if_pos hexpected]⟩
    · exact .inr (by rw [accept, if_neg hexpected])
  | unscheduled => exact .inr rfl

/-- A lease that is not armed shows a dead alarm. -/
theorem TimerLease.Shows.live_eq_false {lease : TimerLease} {alarm : Alarm ℕ} (h : lease.Shows alarm)
    (hunarmed : ∀ generation, lease ≠ .armed generation) : alarm.live = false := by
  cases lease with
  | neverIssued | idle => rw [TimerLease.Shows] at h; rw [h]
  | armed generation => exact absurd rfl (hunarmed generation)
  | exhausted => exact h

/-- A lease that is disarmed shows a dead alarm. -/
theorem TimerLease.disarm_shows {lease : TimerLease} {alarm} (h : lease.Shows alarm) :
    lease.disarm.Shows ⟨alarm.last, false⟩ := by
  cases lease with
  | neverIssued | armed | idle => rw [Shows] at h; rw [h]; rfl
  | exhausted => rfl

/-- **What it is to arm a lease**: it issues a greater generation, or there is none. -/
theorem TimerLease.arm_cases {lease : TimerLease} {alarm : Alarm ℕ} (h : lease.Shows alarm) :
    (∃ generation, lease.arm = (.armed generation, some generation) ∧ lease.Renews ∧
        ∀ last, alarm.last = some last → last < generation) ∨
      (lease.arm = (.exhausted, none) ∧ ¬ lease.Renews) := by
  have hsuccessor : ∀ previous, alarm.last = some previous →
      ∀ lease : TimerLease,
      (Sequence.successor previous = none → lease.arm = (.exhausted, none)) →
      (∀ next, Sequence.successor previous = some next → lease.arm = (.armed next, some next)) →
      (lease.Renews ↔ previous + 1 < 2 ^ 64) →
      (∃ generation, lease.arm = (.armed generation, some generation) ∧ lease.Renews ∧
        ∀ last, alarm.last = some last → last < generation) ∨
      (lease.arm = (.exhausted, none) ∧ ¬ lease.Renews) := by
    intro previous hlast lease hexhausts harms hrenews
    by_cases hroom : previous + 1 < 2 ^ 64
    · refine .inl ⟨previous + 1, harms _ (if_pos hroom), hrenews.mpr hroom, fun last hlast' => ?_⟩
      obtain rfl := Option.some.inj (hlast.symm.trans hlast')
      exact Nat.lt_succ_self _
    · exact .inr ⟨hexhausts (if_neg hroom), fun h => hroom (hrenews.mp h)⟩
  cases lease with
  | neverIssued =>
    rw [Shows] at h
    exact .inl ⟨0, rfl, trivial, fun last hlast => by rw [h] at hlast; cases hlast⟩
  | armed previous | idle previous =>
    rw [Shows] at h
    refine hsuccessor previous (by rw [h]) _ (fun hnone => ?_) (fun next hnext => ?_) Iff.rfl
    · rw [arm, hnone]
    · rw [arm, hnext]
  | exhausted => exact .inr ⟨rfl, id⟩

/-! ### Runs of a wrapper -/

/-- The turn of a wrapper for one event. -/
abbrev TimerTurn (W Event Schedule Sends Create Ph Error : Type) :=
  Turn W (EventLayer OwnedTimerElapsed Event) (Except Error (TimedActions Schedule Sends Create Ph))

/-- **What a turn must do to the alarm of its wrapper** for the law of the timers: the alarm rings
as the note says, a safe turn that stops leaves it dead, and only some turns issue a generation
without an elapsed one. -/
structure Heard (Logs : TimerTurn W Event Schedule Sends Create Ph Error → Note ℕ → Prop)
    (Safe Revives : TimerTurn W Event Schedule Sends Create Ph Error → Prop)
    (turn : TimerTurn W Event Schedule Sends Create Ph Error)
    (alarm : Alarm ℕ) (note : Note ℕ) (after : Alarm ℕ) : Prop where
  logs : Logs turn note
  stopped : note.stopped = Stops turn.emitted
  rings : alarm.Rings note after
  dies : Safe turn → note.stopped = true → after.live = false
  revives : note.elapsed = none → note.armed.isSome = true → Revives turn

section Heard

variable {step : W → EventLayer OwnedTimerElapsed Event →
    W × Except Error (TimedActions Schedule Sends Create Ph)}
  {Logs : TimerTurn W Event Schedule Sends Create Ph Error → Note ℕ → Prop}
  {Safe Revives : TimerTurn W Event Schedule Sends Create Ph Error → Prop}
  {Shown : W → Alarm ℕ → Prop} {turn : TimerTurn W Event Schedule Sends Create Ph Error}
  {alarm after : Alarm ℕ} {stopped : Bool}

/-- **A wrapper is heard**: its turn does what it must to the alarm that it shows. -/
def Hears (step : W → EventLayer OwnedTimerElapsed Event →
      W × Except Error (TimedActions Schedule Sends Create Ph))
    (Shown : W → Alarm ℕ → Prop)
    (Logs : TimerTurn W Event Schedule Sends Create Ph Error → Note ℕ → Prop)
    (Safe Revives : TimerTurn W Event Schedule Sends Create Ph Error → Prop)
    (wrapper : W) (alarm : Alarm ℕ) (event : EventLayer OwnedTimerElapsed Event) : Prop :=
  ∃ note after, Shown (step wrapper event).1 after ∧
    Heard Logs Safe Revives (Machine.turn step wrapper event) alarm note after

theorem Hears.of {wrapper next event emitted note} (hstep : step wrapper event = (next, emitted))
    (h : Heard Logs Safe Revives ⟨wrapper, event, next, emitted⟩ alarm note after)
    (hshown : Shown next after) :
    Hears step Shown Logs Safe Revives wrapper alarm event := by
  refine ⟨note, after, ?_, ?_⟩
  · rw [hstep]
    exact hshown
  · rw [Machine.turn, hstep]
    exact h

/-- A turn that answers nothing, issues nothing and does not stop. -/
theorem Heard.quiet {elapsed} (hlogs : Logs turn ⟨elapsed, false, none, false⟩)
    (hstops : Stops turn.emitted = false) :
    Heard Logs Safe Revives turn alarm ⟨elapsed, false, none, false⟩ alarm where
  logs := hlogs
  stopped := hstops.symm
  rings := .rest rfl rfl rfl id
  dies _ h := nomatch h
  revives _ h := nomatch h

/-- A turn that answers the live generation and issues none. -/
theorem Heard.fire {generation} (hlogs : Logs turn ⟨some generation, true, none, stopped⟩)
    (hstops : stopped = Stops turn.emitted) :
    Heard Logs Safe Revives turn ⟨some generation, true⟩ ⟨some generation, true, none, stopped⟩
      ⟨some generation, false⟩ where
  logs := hlogs
  stopped := hstops
  rings := .fire rfl rfl rfl rfl rfl rfl
  dies _ _ := rfl
  revives h := nomatch h

/-- A turn that delegates its event and issues nothing. -/
theorem Heard.delegate (hlogs : Logs turn ⟨none, false, none, stopped⟩)
    (hstops : stopped = Stops turn.emitted) (hlast : after.last = alarm.last)
    (hlive : after.live = true → alarm.live = true)
    (hdies : Safe turn → stopped = true → after.live = false) :
    Heard Logs Safe Revives turn alarm ⟨none, false, none, stopped⟩ after where
  logs := hlogs
  stopped := hstops
  rings := .rest rfl rfl hlast hlive
  dies := hdies
  revives _ h := nomatch h

/-- A turn that delegates its event and goes on. -/
theorem Heard.goesOn (hlogs : Logs turn ⟨none, false, none, stopped⟩)
    (hstops : stopped = Stops turn.emitted) (hgoes : stopped = false) :
    Heard Logs Safe Revives turn alarm ⟨none, false, none, stopped⟩ alarm :=
  .delegate hlogs hstops rfl id fun _ h => absurd h (by rw [hgoes]; exact Bool.false_ne_true)

/-- A turn that delegates its event and leaves the alarm dead. -/
theorem Heard.disarm (hlogs : Logs turn ⟨none, false, none, stopped⟩)
    (hstops : stopped = Stops turn.emitted) :
    Heard Logs Safe Revives turn alarm ⟨none, false, none, stopped⟩ ⟨alarm.last, false⟩ :=
  .delegate hlogs hstops rfl nofun fun _ _ => rfl

end Heard

section Runs

open Note Alarm

variable {step : W → EventLayer OwnedTimerElapsed Event →
    W × Except Error (TimedActions Schedule Sends Create Ph)}
  {Logs : TimerTurn W Event Schedule Sends Create Ph Error → Note ℕ → Prop}
  {Safe Revives : TimerTurn W Event Schedule Sends Create Ph Error → Prop}
  {Shown : W → Alarm ℕ → Prop}

/-- No turn after the end issues a generation without an elapsed one. -/
def Buried (Revives : TimerTurn W Event Schedule Sends Create Ph Error → Prop) (ended : Prop)
    (turns : List (TimerTurn W Event Schedule Sends Create Ph Error)) : Prop :=
  ∀ earlier turn later, turns = earlier ++ turn :: later →
    (ended ∨ ∃ other ∈ earlier, Stops other.emitted = true) → ¬ Revives turn

/-- **The law of a run.**  If every turn of a wrapper is heard, then the log of every run is
lawful, and it is silent if every turn is safe and none revives the timer after the end. -/
theorem run_law
    (hstep : ∀ wrapper alarm event, Shown wrapper alarm →
      Hears step Shown Logs Safe Revives wrapper alarm event) {log alarm} (hkept : Kept log alarm)
    {wrapper} (hshown : Shown wrapper alarm) (events : List (EventLayer OwnedTimerElapsed Event)) :
    ∃ notes, List.Forall₂ Logs (Machine.turns step wrapper events) notes ∧
      Lawful (log ++ notes) ∧
      (Quiet log alarm → (∀ turn ∈ Machine.turns step wrapper events, Safe turn) →
        Buried Revives (Ended log) (Machine.turns step wrapper events) →
          Silent (log ++ notes)) := by
  induction events generalizing log alarm wrapper with
  | nil =>
    refine ⟨[], .nil, ?_, fun hquiet _ _ => ?_⟩
    · rw [List.append_nil]
      exact hkept.lawful
    · rw [List.append_nil]
      exact hquiet.silent
  | cons event events ih =>
    obtain ⟨note, after, hafter, hheard⟩ := hstep wrapper alarm event hshown
    obtain ⟨notes, hnotes, hlawful, hsilent⟩ := ih (hkept.step hheard.rings) hafter
    rw [List.append_assoc] at hlawful hsilent
    refine ⟨note :: notes, .cons hheard.logs hnotes, hlawful, fun hquiet hsafe hburied => ?_⟩
    refine hsilent ?_ (fun turn hturn => hsafe turn (.tail _ hturn)) ?_
    · refine hquiet.step hheard.rings (hheard.dies (hsafe _ (.head _))) fun hended helapsed => ?_
      rw [← Option.not_isSome_iff_eq_none]
      intro harmed
      exact hburied [] _ _ rfl (.inl hended) (hheard.revives helapsed harmed)
    · intro earlier turn later hsplit hended
      refine hburied (_ :: earlier) turn later (congrArg (_ :: ·) hsplit) ?_
      rcases hended with ⟨other, hother, hstopped⟩ | ⟨other, hother, hstopped⟩
      · rcases List.mem_append.mp hother with hother | hother
        · exact .inl ⟨other, hother, hstopped⟩
        · rw [List.mem_singleton.mp hother, hheard.stopped] at hstopped
          exact .inr ⟨_, .head _, hstopped⟩
      · exact .inr ⟨other, .tail _ hother, hstopped⟩

end Runs

/-! ### The wrappers -/

/-- **What a periodic timer does with the actions of its inner behavior** after it accepted a
generation or was started: it is disarmed by a stop, and otherwise armed again. -/
theorem Periodic.wrapAndRearm_cases (wrapper : Periodic σ Sends Create Ph)
    (actions : Actions Sends Create Ph) {alarm : Alarm ℕ} (hshows : wrapper.lease.Shows alarm) :
    (actions.stops = true ∧ wrapper.wrapAndRearm actions =
        ({ wrapper with lease := wrapper.lease.disarm }, wrap actions [])) ∨
      (actions.stops = false ∧ ¬ wrapper.lease.Renews ∧ wrapper.wrapAndRearm actions =
        ({ wrapper with lease := .exhausted }, wrap actions [])) ∨
      ∃ generation, actions.stops = false ∧ wrapper.lease.Renews ∧
        (∀ last, alarm.last = some last → last < generation) ∧ wrapper.wrapAndRearm actions =
          ({ wrapper with lease := .armed generation },
            wrap actions [⟨generation, wrapper.every⟩]) := by
  unfold wrapAndRearm
  cases hstops : actions.stops with
  | true => exact .inl ⟨rfl, by rw [if_pos rfl]⟩
  | false =>
    rw [if_neg Bool.false_ne_true]
    rcases TimerLease.arm_cases hshows with ⟨generation, harm, hrenews, hgreater⟩ | ⟨harm, hspent⟩
    · exact .inr (.inr ⟨generation, rfl, hrenews, hgreater, by rw [schedule, harm]; rfl⟩)
    · exact .inr (.inl ⟨rfl, hspent, by rw [schedule, harm]; rfl⟩)

section Wrappers

open Note Alarm

variable [SendEffects Sends] (behavior : Behavior σ Event Sends Create Ph Error)

/-- The turn of a wrapper that has an inner behavior, and its note. -/
def Reacts (inner : W → σ) (reaction : TimedReaction σ Sends Create Ph)
    (schedule : ℕ → Schedule) (delegated : Event → Event)
    (turn : TimerTurn W Event Schedule Sends Create Ph Error) (note : Note ℕ) : Prop :=
  Steps behavior reaction schedule delegated (inner turn.before) turn.event (inner turn.after)
    turn.emitted note

/-- A one-shot timer is armed, and the inner behavior stops on an event of its own. -/
def OneShot.Misses
    (turn : TimerTurn (OneShot σ Sends Create Ph) Event OwnedScheduleAfter Sends Create Ph Error) :
    Prop :=
  ∃ event inner actions generation, turn.event = .inner event ∧
    behavior.transition turn.before.inner event = (inner, .ok actions) ∧ actions.stops = true ∧
      turn.before.lease = .armed generation

/-- Every turn of a one-shot timer is heard; it is safe unless the inner behavior stops while the
timer is armed. -/
theorem OneShot.turn_heard (after : ℕ) (onElapsed : TimedReaction σ Sends Create Ph)
    (wrapper : OneShot σ Sends Create Ph) (alarm : Alarm ℕ)
    (event : EventLayer OwnedTimerElapsed Event)
    (h : wrapper.after = after ∧ wrapper.onElapsed = onElapsed ∧ wrapper.lease.Shows alarm) :
    Hears (OneShot.transition behavior)
      (fun wrapper alarm => wrapper.after = after ∧ wrapper.onElapsed = onElapsed ∧
        wrapper.lease.Shows alarm)
      (fun turn note => Reacts behavior OneShot.inner onElapsed
          (fun generation => (⟨generation, after⟩ : OwnedScheduleAfter)) id turn note ∧
        note.armed = none)
      (fun turn => ¬ OneShot.Misses behavior turn) (fun _ => False) wrapper alarm event := by
  obtain ⟨rfl, rfl, hshows⟩ := h
  cases event with
  | owned elapsed =>
    rcases wrapper.lease.accept_cases elapsed.generation with ⟨hlease, haccept⟩ | hignore
    · have htransition : wrapper.transition behavior (.owned elapsed) =
          (⟨(wrapper.onElapsed wrapper.inner).1, wrapper.after, .idle elapsed.generation,
            wrapper.onElapsed⟩, .ok (wrap (wrapper.onElapsed wrapper.inner).2 [])) := by
        simp only [transition, haccept]
      rw [hlease, TimerLease.Shows] at hshows
      rw [hshows]
      exact .of htransition (.fire ⟨.reacted _ none rfl, rfl⟩ rfl) ⟨rfl, rfl, rfl⟩
    · have htransition : wrapper.transition behavior (.owned elapsed) = (wrapper, .ok .cont) := by
        simp only [transition, hignore]
      exact .of htransition (.quiet ⟨.ignored, rfl⟩ rfl) ⟨rfl, rfl, hshows⟩
  | inner event =>
    rcases hinner : behavior.transition wrapper.inner event with ⟨inner, error | actions⟩
    · have htransition : wrapper.transition behavior (.inner event) =
          ({ wrapper with inner }, .error error) := by
        simp only [transition, hinner]
      exact .of htransition (.quiet ⟨.failed hinner, rfl⟩ rfl) ⟨rfl, rfl, hshows⟩
    · have htransition : wrapper.transition behavior (.inner event) =
          ({ wrapper with inner }, .ok (wrap actions [])) := by
        simp only [transition, hinner]
      refine .of htransition (.delegate ⟨.acted none hinner, rfl⟩ rfl rfl id fun hsafe hstops => ?_)
        ⟨rfl, rfl, hshows⟩
      refine hshows.live_eq_false fun generation hlease => ?_
      exact hsafe ⟨event, inner, actions, generation, rfl, hinner, hstops, hlease⟩

/-- The reaction of a deadline, as one that acts. -/
def Deadline.reaction (onReached : σ → σ × Become Empty) : TimedReaction σ Sends Create Ph :=
  fun inner => ((onReached inner).1, .just (verdict (onReached inner).2))

/-- Every turn of a deadline is heard, and it is safe. -/
theorem Deadline.turn_heard (at' : ℕ) (onReached : σ → σ × Become Empty) (wrapper : Deadline σ)
    (alarm : Alarm ℕ) (event : EventLayer OwnedTimerElapsed Event)
    (h : wrapper.onReached = onReached ∧ wrapper.schedule.Shows alarm) :
    Hears (Deadline.transition behavior)
      (fun wrapper alarm => wrapper.onReached = onReached ∧ wrapper.schedule.Shows alarm)
      (fun turn note => Reacts behavior Deadline.inner (Deadline.reaction onReached)
          (fun generation => (⟨generation, at'⟩ : OwnedScheduleAt)) id turn note ∧
        note.armed = none)
      (fun _ => True) (fun _ => False) wrapper alarm event := by
  obtain ⟨rfl, hshows⟩ := h
  cases event with
  | owned elapsed =>
    rcases wrapper.schedule.accept_cases elapsed.generation with ⟨⟨due, hschedule⟩, haccept⟩ | hignore
    · have htransition : wrapper.transition behavior (.owned elapsed) =
          (⟨(wrapper.onReached wrapper.inner).1, .unscheduled, wrapper.onReached⟩,
            .ok (.just (verdict (wrapper.onReached wrapper.inner).2))) := by
        simp only [transition, haccept]
      rw [hschedule, OneShotSchedule.Shows] at hshows
      have hreaction : (Deadline.reaction wrapper.onReached : TimedReaction σ Sends Create Ph)
          wrapper.inner = ((wrapper.onReached wrapper.inner).1,
            .just (verdict (wrapper.onReached wrapper.inner).2)) := rfl
      rw [hshows]
      exact .of htransition (.fire ⟨.reacted _ none hreaction, rfl⟩ rfl) ⟨rfl, rfl⟩
    · have htransition : wrapper.transition behavior (.owned elapsed) = (wrapper, .ok .cont) := by
        simp only [transition, hignore]
      exact .of htransition (.quiet ⟨.ignored, rfl⟩ rfl) ⟨rfl, hshows⟩
  | inner event =>
    rcases hinner : behavior.transition wrapper.inner event with ⟨inner, error | actions⟩
    · have htransition : wrapper.transition behavior (.inner event) =
          ({ wrapper with inner }, .error error) := by
        simp only [transition, hinner]
      exact .of htransition (.quiet ⟨.failed hinner, rfl⟩ rfl) ⟨rfl, hshows⟩
    · cases hstops : actions.stops with
      | true =>
        have htransition : wrapper.transition behavior (.inner event) =
            ({ wrapper with inner, schedule := .unscheduled }, .ok (wrap actions [])) := by
          simp only [transition, hinner, hstops, if_pos, OneShotSchedule.cancel]
        exact .of htransition (.disarm ⟨.acted none hinner, rfl⟩ rfl) ⟨rfl, rfl⟩
      | false =>
        have htransition : wrapper.transition behavior (.inner event) =
            ({ wrapper with inner }, .ok (wrap actions [])) := by
          simp only [transition, hinner, hstops, Bool.false_eq_true, if_false]
        exact .of htransition (.goesOn ⟨.acted none hinner, rfl⟩ rfl hstops) ⟨rfl, hshows⟩

/-- A periodic timer issues a generation exactly in a reaction that continues, as long as there is
one to issue. -/
def Periodic.Issues
    (turn : TimerTurn (Periodic σ Sends Create Ph) Event OwnedScheduleAfter Sends Create Ph Error)
    (note : Note ℕ) : Prop :=
  note.armed.isSome = true ↔
    note.fired = true ∧ note.stopped = false ∧ turn.before.lease.Renews

omit [SendEffects Sends] in
theorem Periodic.issues_none {elapsed stopped}
    (turn : TimerTurn (Periodic σ Sends Create Ph) Event OwnedScheduleAfter Sends Create Ph Error) :
    Periodic.Issues turn ⟨elapsed, false, none, stopped⟩ :=
  ⟨nofun, (fun h => nomatch h.1)⟩

/-- Every turn of a periodic timer is heard, and it is safe. -/
theorem Periodic.turn_heard (every : ℕ) (onElapsed : TimedReaction σ Sends Create Ph)
    (wrapper : Periodic σ Sends Create Ph) (alarm : Alarm ℕ)
    (event : EventLayer OwnedTimerElapsed Event)
    (h : wrapper.every = every ∧ wrapper.onElapsed = onElapsed ∧ wrapper.lease.Shows alarm) :
    Hears (Periodic.transition behavior)
      (fun wrapper alarm => wrapper.every = every ∧ wrapper.onElapsed = onElapsed ∧
        wrapper.lease.Shows alarm)
      (fun turn note => Reacts behavior Periodic.inner onElapsed
          (fun generation => (⟨generation, every⟩ : OwnedScheduleAfter)) id turn note ∧
        Periodic.Issues turn note)
      (fun _ => True) (fun _ => False) wrapper alarm event := by
  obtain ⟨rfl, rfl, hshows⟩ := h
  cases event with
  | owned elapsed =>
    rcases wrapper.lease.accept_cases elapsed.generation with ⟨hlease, haccept⟩ | hignore
    · rcases hreaction : wrapper.onElapsed wrapper.inner with ⟨inner, actions⟩
      have htransition : wrapper.transition behavior (.owned elapsed) =
          (({ wrapper with inner, lease := .idle elapsed.generation } :
              Periodic σ Sends Create Ph).wrapAndRearm actions |>.map id .ok) := by
        simp only [transition, haccept, hreaction]
        rfl
      rw [hlease, TimerLease.Shows] at hshows
      have hidle : (TimerLease.idle elapsed.generation).Shows ⟨some elapsed.generation, false⟩ :=
        rfl
      rcases wrapAndRearm_cases { wrapper with inner, lease := .idle elapsed.generation } actions
          hidle with
        ⟨hstops, hrearm⟩ | ⟨hstops, hspent, hrearm⟩ | ⟨fresh, hstops, hrenews, hgreater, hrearm⟩
      all_goals rw [hrearm] at htransition; rw [hshows]
      · refine .of htransition
          (.fire ⟨.reacted _ none hreaction, (fun h => by cases h), fun h => ?_⟩ rfl) ⟨rfl, rfl, rfl⟩
        exact absurd h.2.1 (by rw [hstops]; exact fun h => by cases h)
      · refine .of htransition
          (.fire ⟨.reacted _ none hreaction, (fun h => by cases h), fun h => ?_⟩ rfl) ⟨rfl, rfl, rfl⟩
        have hrenews : wrapper.lease.Renews := h.2.2
        rw [hlease] at hrenews
        exact absurd hrenews hspent
      · have hbefore : wrapper.lease.Renews := by
          rw [hlease]
          exact hrenews
        refine .of htransition ⟨⟨.reacted _ (some fresh) hreaction, ?_⟩, rfl,
          .arm (fun _ => ⟨rfl, rfl⟩) (fun _ => rfl) rfl hgreater, fun _ h => ?_,
          (fun h => by cases h)⟩ ⟨rfl, rfl, rfl⟩
        · exact ⟨fun _ => ⟨rfl, hstops, hbefore⟩, fun _ => rfl⟩
        · exact absurd h (by rw [hstops]; exact Bool.false_ne_true)
    · have htransition : wrapper.transition behavior (.owned elapsed) = (wrapper, .ok .cont) := by
        simp only [transition, hignore]
      exact .of htransition (.quiet ⟨.ignored, issues_none _⟩ rfl) ⟨rfl, rfl, hshows⟩
  | inner event =>
    rcases hinner : behavior.transition wrapper.inner event with ⟨inner, error | actions⟩
    · have htransition : wrapper.transition behavior (.inner event) =
          ({ wrapper with inner }, .error error) := by
        simp only [transition, hinner]
      exact .of htransition (.quiet ⟨.failed hinner, issues_none _⟩ rfl) ⟨rfl, rfl, hshows⟩
    · cases hstops : actions.stops with
      | true =>
        have htransition : wrapper.transition behavior (.inner event) =
            ({ wrapper with inner, lease := wrapper.lease.disarm }, .ok (wrap actions [])) := by
          simp only [transition, hinner, hstops, if_pos]
        exact .of htransition (.disarm ⟨.acted none hinner, issues_none _⟩ rfl)
          ⟨rfl, rfl, TimerLease.disarm_shows hshows⟩
      | false =>
        have htransition : wrapper.transition behavior (.inner event) =
            ({ wrapper with inner }, .ok (wrap actions [])) := by
          simp only [transition, hinner, hstops, Bool.false_eq_true, if_false]
        exact .of htransition (.goesOn ⟨.acted none hinner, issues_none _⟩ rfl hstops)
          ⟨rfl, rfl, hshows⟩

section ReceiveTimeout

variable [UserEvent Event Address Message]

/-- The event is a user message for the inner behavior. -/
def IsUser (event : EventLayer OwnedTimerElapsed Event) : Prop :=
  ∃ (message : Event) (user : User Address Message),
    event = .inner message ∧ UserEvent.intoUser message = .ok user

/-- The step succeeds and does not stop. -/
def Continues (emitted : Except Error (TimedActions Schedule Sends Create Ph)) : Prop :=
  ∃ actions, emitted = .ok actions ∧ actions.stops = false

/-- The event that the inner behavior of a receive timeout gets: a user message is taken out of its
event and put back. -/
def ReceiveTimeout.delegated (event : Event) : Event :=
  match UserEvent.intoUser event with
  | .ok user => UserEvent.user user.sender user.message
  | .error service => service

/-- A receive timeout issues a generation exactly for a user message that succeeds and continues,
as long as there is one to issue. -/
def ReceiveTimeout.Rearms
    (turn : TimerTurn (ReceiveTimeout σ Sends Create Ph) Event OwnedScheduleAfter Sends Create Ph
      Error) (note : Note ℕ) : Prop :=
  note.armed.isSome = true ↔
    IsUser turn.event ∧ Continues turn.emitted ∧ turn.before.timer.Renews

/-- The inner behavior takes a user message and continues, and there is a generation to issue. -/
def ReceiveTimeout.Revives
    (turn : TimerTurn (ReceiveTimeout σ Sends Create Ph) Event OwnedScheduleAfter Sends Create Ph
      Error) : Prop :=
  ∃ event inner actions, turn.event = .inner event ∧ IsUser turn.event ∧
    behavior.transition turn.before.inner (delegated event) = (inner, .ok actions) ∧
    actions.stops = false ∧ turn.before.timer.Renews

omit [SendEffects Sends] in
theorem ReceiveTimeout.rearms_none {elapsed : Option ℕ} {fired stopped : Bool}
    {turn : TimerTurn (ReceiveTimeout σ Sends Create Ph) Event OwnedScheduleAfter Sends Create Ph
      Error} (h : ¬ (IsUser turn.event ∧ Continues turn.emitted ∧ turn.before.timer.Renews)) :
    ReceiveTimeout.Rearms turn ⟨elapsed, fired, none, stopped⟩ :=
  ⟨nofun, fun h' => absurd h' h⟩

omit [SendEffects Sends] in
theorem not_continues {actions own} (h : actions.stops = true) :
    ¬ Continues (.ok (wrap actions own) :
      Except Error (TimedActions Schedule Sends Create Ph)) := by
  rintro ⟨other, hother, hstops⟩
  obtain rfl := Except.ok.inj hother
  rw [wrap_stops, h] at hstops
  exact nomatch hstops

/-- **A receive timeout and its inner behavior**: a stop disarms the timer, and of the events that
continue a user message arms it again. -/
theorem ReceiveTimeout.transition_inner (wrapper : ReceiveTimeout σ Sends Create Ph)
    (event : Event) :
    wrapper.transition behavior (.inner event) =
      match behavior.transition wrapper.inner (delegated event) with
      | (inner, .error error) => ({ wrapper with inner }, .error error)
      | (inner, .ok actions) =>
        if actions.stops then
          ({ wrapper with inner, timer := wrapper.timer.disarm }, .ok (wrap actions []))
        else
          match UserEvent.intoUser event with
          | .ok _ =>
            ({ wrapper with inner, timer := wrapper.timer.arm.1 },
              .ok (wrap actions (wrapper.timer.arm.2.toList.map fun generation =>
                ⟨generation, wrapper.after⟩)))
          | .error _ => ({ wrapper with inner }, .ok (wrap actions [])) := by
  simp only [transition, delegated]
  cases UserEvent.intoUser event with
  | ok user =>
    rcases hinner : behavior.transition wrapper.inner
      (UserEvent.user user.sender user.message) with ⟨inner, error | actions⟩
    · simp only [hinner]
    · simp only [hinner, schedule]
  | error service =>
    rcases hinner : behavior.transition wrapper.inner service with ⟨inner, error | actions⟩
    · simp only [hinner]
    · simp only [hinner]
      split <;> rfl

/-- Every turn of a receive timeout is heard, and it is safe; only a user message that the inner
behavior takes can issue a generation. -/
theorem ReceiveTimeout.turn_heard (after : ℕ) (onElapsed : TimedReaction σ Sends Create Ph)
    (wrapper : ReceiveTimeout σ Sends Create Ph) (alarm : Alarm ℕ)
    (event : EventLayer OwnedTimerElapsed Event)
    (h : wrapper.after = after ∧ wrapper.onElapsed = onElapsed ∧ wrapper.timer.Shows alarm) :
    Hears (ReceiveTimeout.transition behavior)
      (fun wrapper alarm => wrapper.after = after ∧ wrapper.onElapsed = onElapsed ∧
        wrapper.timer.Shows alarm)
      (fun turn note => Reacts behavior ReceiveTimeout.inner onElapsed
          (fun generation => (⟨generation, after⟩ : OwnedScheduleAfter)) delegated turn note ∧
        Rearms turn note)
      (fun _ => True) (Revives behavior) wrapper alarm event := by
  obtain ⟨rfl, rfl, hshows⟩ := h
  cases event with
  | owned elapsed =>
    have hservice : ¬ IsUser (.owned elapsed : EventLayer OwnedTimerElapsed Event) := by
      rintro ⟨message, user, hmessage, -⟩
      cases hmessage
    rcases wrapper.timer.accept_cases elapsed.generation with ⟨htimer, haccept⟩ | hignore
    · have htransition : wrapper.transition behavior (.owned elapsed) =
          (⟨(wrapper.onElapsed wrapper.inner).1, wrapper.after, .idle elapsed.generation,
            wrapper.onElapsed⟩, .ok (wrap (wrapper.onElapsed wrapper.inner).2 [])) := by
        simp only [transition, haccept]
      rw [htimer, TimerLease.Shows] at hshows
      rw [hshows]
      exact .of htransition (.fire ⟨.reacted _ none rfl, rearms_none fun h => hservice h.1⟩ rfl)
        ⟨rfl, rfl, rfl⟩
    · have htransition : wrapper.transition behavior (.owned elapsed) = (wrapper, .ok .cont) := by
        simp only [transition, hignore]
      exact .of htransition (.quiet ⟨.ignored, rearms_none fun h => hservice h.1⟩ rfl)
        ⟨rfl, rfl, hshows⟩
  | inner event =>
    rcases hinner : behavior.transition wrapper.inner (delegated event) with ⟨inner, error | actions⟩
    · have htransition : wrapper.transition behavior (.inner event) =
          ({ wrapper with inner }, .error error) := by
        rw [transition_inner, hinner]
      refine .of htransition (.quiet ⟨.failed hinner, rearms_none ?_⟩ rfl) ⟨rfl, rfl, hshows⟩
      rintro ⟨-, ⟨actions, hactions, -⟩, -⟩
      cases hactions
    · cases hstops : actions.stops with
      | true =>
        have htransition : wrapper.transition behavior (.inner event) =
            ({ wrapper with inner, timer := wrapper.timer.disarm }, .ok (wrap actions [])) := by
          rw [transition_inner, hinner]
          exact if_pos hstops
        exact .of htransition
          (.disarm ⟨.acted none hinner, rearms_none fun h => not_continues hstops h.2.1⟩ rfl)
          ⟨rfl, rfl, TimerLease.disarm_shows hshows⟩
      | false =>
        have hgoes : ¬ actions.stops = true := by
          rw [hstops]
          exact Bool.false_ne_true
        have hcontinues : ∀ own : List OwnedScheduleAfter, Continues (.ok (wrap actions own) :
            Except Error (TimedActions OwnedScheduleAfter Sends Create Ph)) :=
          fun own => ⟨_, rfl, hstops⟩
        cases huser : UserEvent.intoUser event with
        | error service =>
          have hservice : ¬ IsUser (.inner event : EventLayer OwnedTimerElapsed Event) := by
            rintro ⟨message, user, hmessage, hmessage'⟩
            obtain rfl := EventLayer.inner.inj hmessage
            cases (huser.symm.trans hmessage')
          have htransition : wrapper.transition behavior (.inner event) =
              ({ wrapper with inner }, .ok (wrap actions [])) := by
            rw [transition_inner, hinner, huser]
            exact if_neg hgoes
          exact .of htransition
            (.goesOn ⟨.acted none hinner, rearms_none fun h => hservice h.1⟩ rfl hstops)
            ⟨rfl, rfl, hshows⟩
        | ok user =>
          have hmessage : IsUser (.inner event : EventLayer OwnedTimerElapsed Event) :=
            ⟨event, user, rfl, huser⟩
          rcases TimerLease.arm_cases hshows with
            ⟨generation, harm, hrenews, hgreater⟩ | ⟨harm, hspent⟩
          · have htransition : wrapper.transition behavior (.inner event) =
                ({ wrapper with inner, timer := .armed generation },
                  .ok (wrap actions [⟨generation, wrapper.after⟩])) := by
              rw [transition_inner, hinner, huser, harm]
              exact if_neg hgoes
            refine .of htransition ⟨⟨.acted (some generation) hinner, ?_⟩, rfl,
              .arm (fun h => by cases h) (fun h => by cases h) rfl hgreater,
              fun _ h => absurd h hgoes,
              fun _ _ => ⟨event, inner, actions, rfl, hmessage, hinner, hstops, hrenews⟩⟩ ⟨rfl, rfl, rfl⟩
            exact ⟨fun _ => ⟨hmessage, hcontinues _, hrenews⟩, fun _ => rfl⟩
          · have htransition : wrapper.transition behavior (.inner event) =
                ({ wrapper with inner, timer := .exhausted }, .ok (wrap actions [])) := by
              rw [transition_inner, hinner, huser, harm]
              exact if_neg hgoes
            exact .of htransition (.disarm ⟨.acted none hinner, rearms_none fun h => hspent h.2.2⟩ rfl)
              ⟨rfl, rfl, rfl⟩

end ReceiveTimeout

end Wrappers

section Law

open Note Alarm

variable (behavior : Behavior σ Event Sends Create Ph Error)

/-! ### The law -/

/-- What the initialization of a wrapper does to its alarm. -/
theorem Starts.rings {schedule : ℕ → Schedule} {first : Option ℕ} {inner after : σ}
    {emitted : TimedActions Schedule Sends Create Ph} {note : Note ℕ}
    (h : Starts behavior schedule first inner after emitted note) :
    ∃ alarm, Kept [note] alarm ∧ Quiet [note] alarm ∧
      alarm = if emitted.stops then ⟨none, false⟩ else ⟨first, first.isSome⟩ := by
  have hlaw : ∀ (note : Note ℕ) (alarm : Alarm ℕ), Alarm.Rings ⟨none, false⟩ note alarm →
      (note.stopped = true → alarm.live = false) → Kept [note] alarm ∧ Quiet [note] alarm :=
    fun note alarm hrings hstopped =>
      ⟨Kept.nil.step hrings,
        (Quiet.nil _).step hrings hstopped fun hended => absurd hended fun ⟨_, h, _⟩ => nomatch h⟩
  cases h with
  | @stopped actions _ hstops =>
    obtain ⟨hkept, hquiet⟩ := hlaw ⟨none, false, none, true⟩ ⟨none, false⟩
      (.rest rfl rfl rfl id) fun _ => rfl
    exact ⟨_, hkept, hquiet, by rw [wrap_stops, hstops, if_pos rfl]⟩
  | @started actions _ hstops =>
    rw [wrap_stops, hstops, if_neg Bool.false_ne_true]
    cases first with
    | none =>
      obtain ⟨hkept, hquiet⟩ := hlaw ⟨none, false, none, false⟩ ⟨none, false⟩
        (.rest rfl rfl rfl id) fun _ => rfl
      exact ⟨_, hkept, hquiet, rfl⟩
    | some generation =>
      obtain ⟨hkept, hquiet⟩ := hlaw ⟨none, false, some generation, false⟩ ⟨some generation, true⟩
        (.arm nofun nofun rfl nofun)
        nofun
      exact ⟨_, hkept, hquiet, rfl⟩

/-- What the laws ask of an initialization and a run. -/
def Ruled (first : Note ℕ → Prop) (rest : List (Note ℕ) → Prop) (quiet : Prop) : Prop :=
  ∃ note notes, first note ∧ rest notes ∧ Lawful (note :: notes) ∧
    (quiet → Silent (note :: notes))

theorem Ruled.of_turns {step : W → EventLayer OwnedTimerElapsed Event →
      W × Except Error (TimedActions Schedule Sends Create Ph)}
    {Logs : TimerTurn W Event Schedule Sends Create Ph Error → Note ℕ → Prop}
    {Safe Revives : TimerTurn W Event Schedule Sends Create Ph Error → Prop}
    {Shown : W → Alarm ℕ → Prop}
    (hstep : ∀ wrapper alarm event, Shown wrapper alarm →
      Hears step Shown Logs Safe Revives wrapper alarm event)
    {schedule : ℕ → Schedule} {first : Option ℕ} {inner after : σ} (wrapper : W)
    {emitted : TimedActions Schedule Sends Create Ph} {note : Note ℕ}
    (hstarts : Starts behavior schedule first inner after emitted note)
    (hshown : Shown wrapper (if emitted.stops then ⟨none, false⟩ else ⟨first, first.isSome⟩))
    (events : List (EventLayer OwnedTimerElapsed Event)) :
    Ruled (Starts behavior schedule first inner after emitted)
      (List.Forall₂ Logs (Machine.turns step wrapper events))
      ((∀ turn ∈ Machine.turns step wrapper events, Safe turn) ∧
        Buried Revives (emitted.stops = true) (Machine.turns step wrapper events)) := by
  obtain ⟨alarm, hkept, hquiet, rfl⟩ := hstarts.rings
  obtain ⟨notes, hnotes, hlawful, hsilent⟩ := run_law hstep hkept hshown events
  refine ⟨note, notes, hstarts, hnotes, hlawful, fun ⟨hsafe, hburied⟩ => hsilent hquiet hsafe ?_⟩
  intro earlier turn later hsplit hended
  refine hburied earlier turn later hsplit (hended.imp_left ?_)
  rintro ⟨other, hother, hstopped⟩
  rw [List.mem_singleton.mp hother, hstarts.stops_eq] at hstopped
  exact hstopped

/-- The initialization of a deadline. -/
theorem Deadline.init_starts {inner at' onReached start emitted}
    (h : (Deadline.new inner at' onReached).init behavior = (start, .ok emitted)) :
    (∃ note, Starts behavior (fun generation => (⟨generation, at'.getD 0⟩ : OwnedScheduleAt))
        (at'.map fun _ => 0) inner start.inner emitted note) ∧
      start.onReached = onReached ∧
      start.schedule.Shows (if emitted.stops then ⟨none, false⟩
        else ⟨at'.map fun _ => 0, (at'.map fun _ => 0).isSome⟩) := by
  unfold init new at h
  rcases hinner : behavior.init inner with ⟨after, error | actions⟩
  · simp only [hinner] at h
    exact nomatch (Prod.mk.inj h).2
  · simp only [hinner] at h
    cases hstops : actions.stops with
    | true =>
      rw [if_pos hstops] at h
      obtain ⟨rfl, hemitted⟩ := Prod.mk.inj h
      obtain rfl := Except.ok.inj hemitted
      rw [wrap_stops, hstops, if_pos rfl]
      exact ⟨⟨_, .stopped hinner hstops⟩, rfl, rfl⟩
    | false =>
      rw [if_neg (by rw [hstops]; exact Bool.false_ne_true)] at h
      obtain ⟨rfl, hemitted⟩ := Prod.mk.inj h
      obtain rfl := Except.ok.inj hemitted
      rw [wrap_stops, hstops, if_neg Bool.false_ne_true]
      cases at' with
      | none | some due => exact ⟨⟨_, .started hinner hstops⟩, rfl, rfl⟩

/-- The initialization of a wrapper that has a lease. -/
def leased (after : ℕ) (inner : σ) :
    (σ × TimerLease) × Except Error (TimedActions OwnedScheduleAfter Sends Create Ph) :=
  match behavior.init inner with
  | (inner, .error error) => ((inner, .neverIssued), .error error)
  | (inner, .ok actions) =>
    if actions.stops then ((inner, .neverIssued), .ok (wrap actions []))
    else ((inner, .armed 0), .ok (wrap actions [⟨0, after⟩]))

theorem leased_starts {after inner start emitted} (new : σ → TimerLease → W)
    (h : (new (leased behavior after inner).1.1 (leased behavior after inner).1.2,
      (leased behavior after inner).2) = (start, .ok emitted)) :
    ∃ later lease, start = new later lease ∧
      (∃ note, Starts behavior (fun generation => (⟨generation, after⟩ : OwnedScheduleAfter))
        (some 0) inner later emitted note) ∧
      lease.Shows (if emitted.stops then ⟨none, false⟩ else ⟨some 0, (some 0).isSome⟩) := by
  unfold leased at h
  rcases hinner : behavior.init inner with ⟨later, error | actions⟩
  · simp only [hinner] at h
    exact nomatch (Prod.mk.inj h).2
  · simp only [hinner] at h
    cases hstops : actions.stops with
    | true =>
      rw [if_pos hstops] at h
      obtain ⟨rfl, hemitted⟩ := Prod.mk.inj h
      obtain rfl := Except.ok.inj hemitted
      rw [wrap_stops, hstops, if_pos rfl]
      exact ⟨_, _, rfl, ⟨_, .stopped hinner hstops⟩, rfl⟩
    | false =>
      rw [if_neg (ne_true_of_eq_false hstops)] at h
      obtain ⟨rfl, hemitted⟩ := Prod.mk.inj h
      obtain rfl := Except.ok.inj hemitted
      rw [wrap_stops, hstops, if_neg Bool.false_ne_true]
      exact ⟨_, _, rfl, ⟨_, .started hinner hstops⟩, rfl⟩

/-- The initialization of a one-shot timer. -/
theorem OneShot.init_eq (inner : σ) (after : ℕ) (onElapsed : TimedReaction σ Sends Create Ph) :
    (OneShot.new inner after onElapsed).init behavior =
      (⟨(leased behavior after inner).1.1, after, (leased behavior after inner).1.2, onElapsed⟩,
        (leased behavior after inner).2) := by
  unfold init new leased
  rcases behavior.init inner with ⟨later, error | actions⟩
  · rfl
  · cases hstops : actions.stops with
    | true | false => simp only [hstops]; rfl

/-- The initialization of a periodic timer. -/
theorem Periodic.init_eq (inner : σ) (every : ℕ) (onElapsed : TimedReaction σ Sends Create Ph) :
    (Periodic.new inner every onElapsed).init behavior =
      (⟨(leased behavior every inner).1.1, every, (leased behavior every inner).1.2, onElapsed⟩,
        (leased behavior every inner).2) := by
  unfold init new leased
  rcases behavior.init inner with ⟨later, error | actions⟩
  · rfl
  · cases hstops : actions.stops with
    | true | false => simp only [hstops, wrapAndRearm]; rfl

/-- The initialization of a receive timeout. -/
theorem ReceiveTimeout.init_eq (inner : σ) (after : ℕ)
    (onElapsed : TimedReaction σ Sends Create Ph) :
    (ReceiveTimeout.new inner after onElapsed).init behavior =
      (⟨(leased behavior after inner).1.1, after, (leased behavior after inner).1.2, onElapsed⟩,
        (leased behavior after inner).2) := by
  unfold init new leased
  rcases behavior.init inner with ⟨later, error | actions⟩
  · rfl
  · cases hstops : actions.stops with
    | true | false => simp only [hstops]; rfl

/-- No turn revives a timer if none can. -/
theorem buried_of_never {Revives} (h : ∀ turn, ¬ Revives turn) (ended : Prop)
    (turns : List (TimerTurn W Event Schedule Sends Create Ph Error)) :
    Buried Revives ended turns :=
  fun _ turn _ _ _ => h turn

variable [SendEffects Sends] [UserEvent Event Address Message]

/-- **Timers fire once and only while they are live**: in every run of each wrapper the generations
that it issues grow, and its reaction is invoked only for the generation that was issued last, once.
After a stop no elapsed generation invokes it and none issues another: always for a deadline and a
periodic timer; for a one-shot timer if the inner behavior never stops while the timer is armed; for
a receive timeout if the inner behavior takes no user message and continues after a stop.  A
deadline and a one-shot timer issue nothing after the initialization, a periodic timer exactly in a
reaction that continues, and a receive timeout exactly for a user message that succeeds and
continues. -/
theorem timers_law (inner : σ) (duration : ℕ)
    (onElapsed : TimedReaction σ Sends Create Ph)
    (events : List (EventLayer OwnedTimerElapsed Event)) :
    (∀ (at' : Option ℕ) (onReached : σ → σ × Become Empty) (start : Deadline σ)
        (emitted : TimedActions OwnedScheduleAt Sends Create Ph),
      (Deadline.new inner at' onReached).init behavior = (start, .ok emitted) →
        Ruled (Starts behavior (fun generation => (⟨generation, at'.getD 0⟩ : OwnedScheduleAt))
            (at'.map fun _ => 0) inner start.inner emitted)
          (List.Forall₂ (fun turn note => Reacts behavior Deadline.inner
                (Deadline.reaction onReached)
                (fun generation => (⟨generation, at'.getD 0⟩ : OwnedScheduleAt)) id turn note ∧
              note.armed = none)
            (Machine.turns (Deadline.transition behavior) start events)) True) ∧
    (∀ (start : OneShot σ Sends Create Ph)
        (emitted : TimedActions OwnedScheduleAfter Sends Create Ph),
      (OneShot.new inner duration onElapsed).init behavior = (start, .ok emitted) →
        Ruled (Starts behavior (fun generation => (⟨generation, duration⟩ : OwnedScheduleAfter))
            (some 0) inner start.inner emitted)
          (List.Forall₂ (fun turn note => Reacts behavior OneShot.inner onElapsed
                (fun generation => (⟨generation, duration⟩ : OwnedScheduleAfter)) id turn note ∧
              note.armed = none)
            (Machine.turns (OneShot.transition behavior) start events))
          (∀ turn ∈ Machine.turns (OneShot.transition behavior) start events,
            ¬ OneShot.Misses behavior turn)) ∧
    (∀ (start : Periodic σ Sends Create Ph)
        (emitted : TimedActions OwnedScheduleAfter Sends Create Ph),
      (Periodic.new inner duration onElapsed).init behavior = (start, .ok emitted) →
        Ruled (Starts behavior (fun generation => (⟨generation, duration⟩ : OwnedScheduleAfter))
            (some 0) inner start.inner emitted)
          (List.Forall₂ (fun turn note => Reacts behavior Periodic.inner onElapsed
                (fun generation => (⟨generation, duration⟩ : OwnedScheduleAfter)) id turn note ∧
              Periodic.Issues turn note)
            (Machine.turns (Periodic.transition behavior) start events)) True) ∧
    (∀ (start : ReceiveTimeout σ Sends Create Ph)
        (emitted : TimedActions OwnedScheduleAfter Sends Create Ph),
      (ReceiveTimeout.new inner duration onElapsed).init behavior = (start, .ok emitted) →
        Ruled (Starts behavior (fun generation => (⟨generation, duration⟩ : OwnedScheduleAfter))
            (some 0) inner start.inner emitted)
          (List.Forall₂ (fun turn note => Reacts behavior ReceiveTimeout.inner onElapsed
                (fun generation => (⟨generation, duration⟩ : OwnedScheduleAfter))
                ReceiveTimeout.delegated turn note ∧
              ReceiveTimeout.Rearms turn note)
            (Machine.turns (ReceiveTimeout.transition behavior) start events))
          (Buried (ReceiveTimeout.Revives behavior) (emitted.stops = true)
            (Machine.turns (ReceiveTimeout.transition behavior) start events))) := by
  refine ⟨?_, ?_, ?_, ?_⟩
  · intro at' onReached start emitted h
    obtain ⟨⟨note, hstarts⟩, hreached, hshows⟩ := Deadline.init_starts behavior h
    obtain ⟨note, notes, hnote, hnotes, hlawful, hsilent⟩ := Ruled.of_turns behavior
      (Deadline.turn_heard behavior (at'.getD 0) onReached) start hstarts ⟨hreached, hshows⟩ events
    exact ⟨note, notes, hnote, hnotes, hlawful, fun _ =>
      hsilent ⟨fun _ _ => trivial, buried_of_never (fun _ => id) _ _⟩⟩
  · intro start emitted h
    rw [OneShot.init_eq] at h
    obtain ⟨later, lease, rfl, ⟨note, hstarts⟩, hshows⟩ :=
      leased_starts behavior (OneShot.mk · duration · onElapsed) h
    obtain ⟨note, notes, hnote, hnotes, hlawful, hsilent⟩ := Ruled.of_turns behavior
      (OneShot.turn_heard behavior duration onElapsed) ⟨later, duration, lease, onElapsed⟩ hstarts
      ⟨rfl, rfl, hshows⟩ events
    exact ⟨note, notes, hnote, hnotes, hlawful, fun hsafe =>
      hsilent ⟨hsafe, buried_of_never (fun _ => id) _ _⟩⟩
  · intro start emitted h
    rw [Periodic.init_eq] at h
    obtain ⟨later, lease, rfl, ⟨note, hstarts⟩, hshows⟩ :=
      leased_starts behavior (Periodic.mk · duration · onElapsed) h
    obtain ⟨note, notes, hnote, hnotes, hlawful, hsilent⟩ := Ruled.of_turns behavior
      (Periodic.turn_heard behavior duration onElapsed) ⟨later, duration, lease, onElapsed⟩ hstarts
      ⟨rfl, rfl, hshows⟩ events
    exact ⟨note, notes, hnote, hnotes, hlawful, fun _ =>
      hsilent ⟨fun _ _ => trivial, buried_of_never (fun _ => id) _ _⟩⟩
  · intro start emitted h
    rw [ReceiveTimeout.init_eq] at h
    obtain ⟨later, lease, rfl, ⟨note, hstarts⟩, hshows⟩ :=
      leased_starts behavior (ReceiveTimeout.mk · duration · onElapsed) h
    obtain ⟨note, notes, hnote, hnotes, hlawful, hsilent⟩ := Ruled.of_turns behavior
      (ReceiveTimeout.turn_heard behavior duration onElapsed) ⟨later, duration, lease, onElapsed⟩ hstarts
      ⟨rfl, rfl, hshows⟩ events
    exact ⟨note, notes, hnote, hnotes, hlawful, fun hburied =>
      hsilent ⟨fun _ _ => trivial, hburied⟩⟩

end Law

/-- A behavior that stops on every event and counts the reactions it gets. -/
def stopping : Behavior ℕ Unit (List Empty) Empty Empty Empty where
  init count := (count, .ok .cont)
  transition count _ := (count, .ok .stop)

/-- The reaction that is counted. -/
def counted : TimedReaction ℕ (List Empty) Empty Empty := fun count => (count + 1, .cont)

/-- **The reaction of a one-shot timer is invoked after a stop**, if the inner behavior stopped
before the generation elapsed. -/
theorem reaction_after_stop :
    ¬ ∀ (events : List (EventLayer OwnedTimerElapsed Unit)) (start : OneShot ℕ (List Empty) Empty Empty)
        (emitted : TimedActions OwnedScheduleAfter (List Empty) Empty Empty),
      (OneShot.new 0 1 counted).init stopping = (start, .ok emitted) →
        Ruled (Starts stopping (fun generation => (⟨generation, 1⟩ : OwnedScheduleAfter)) (some 0) 0
            start.inner emitted)
          (List.Forall₂ (fun turn note => Reacts stopping OneShot.inner counted
                (fun generation => (⟨generation, 1⟩ : OwnedScheduleAfter)) id turn note)
            (Machine.turns (OneShot.transition stopping) start events)) True := by
  intro h
  obtain ⟨first, notes, -, hnotes, -, hsilent⟩ := h [.inner (), .owned ⟨0⟩] _ _ rfl
  obtain _ | ⟨hstop, hrest⟩ := hnotes
  obtain _ | ⟨hreaction, hend⟩ := hrest
  obtain _ | _ := hend
  rename_i stop reaction
  have hstopped : stop.stopped = true := hstop.stops_eq
  have hfired : reaction.elapsed = some 0 ∧ reaction.fired = true :=
    hreaction.fired_of_changed Nat.zero_ne_one
  have hsilenced := hsilent trivial [first, stop] reaction [] rfl ⟨stop, .tail _ (.head _), hstopped⟩
    (by rw [hfired.1]; rfl)
  exact absurd hfired.2 (by rw [hsilenced.1]; exact Bool.false_ne_true)

end Bombay.Time
