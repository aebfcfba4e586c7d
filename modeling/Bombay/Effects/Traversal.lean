/-
# A send product is swept

Interpreting a send product, however its layers nest and however far it came before, is one
sweep over its rows, inner to outer (`interpret_follows`).
-/

import Bombay.Effects.Lane

namespace Bombay.Effects

open Sweep

variable {T : ActionTypes} {σ : Type}

/-! ### Finishing a product -/

namespace SendsProgress

theorem slots_completed (received : Interpretation (Lanes (ItemResult T))) :
    (completed received).slots = received.settlement.rows.map resultSlot := rfl

variable {progress inner : SendsProgress T} {interpreter : Interpreter T σ}

/-- A product that is sound and stands at a row is not completed. -/
theorem Sound.stuck (h : progress.Sound) (hstuck : verdict Answer.isCorrupt progress.slots = .stuck)
    (received : Interpretation (Lanes (ItemResult T))) : progress ≠ .completed received := by
  rintro rfl
  cases h with
  | completed received hverdict =>
    rw [slots_completed, hverdict] at hstuck
    split at hstuck <;> cases hstuck

/-- A product is closed if it is completed wherever its slots are settled. -/
theorem Sound.closed (h : progress.Sound)
    (hthrough : verdict Answer.isCorrupt progress.slots = .through →
      ∃ settlement, progress = .completed (.complete settlement))
    (hcorrupt : verdict Answer.isCorrupt progress.slots = .corrupt →
      ∃ settlement, progress = .completed (.corrupt settlement)) : progress.Closed := by
  unfold Closed
  split
  · exact hthrough ‹_›
  · exact hcorrupt ‹_›
  · rename_i hnot hnot'
    apply h.stuck
    cases hverdict : verdict Answer.isCorrupt progress.slots with
    | through => exact absurd hverdict hnot
    | corrupt => exact absurd hverdict hnot'
    | stuck => rfl
    | abandoned => exact absurd hverdict (verdict_ne_abandoned _)

/-- **Finishing a product loses no row**, and leaves a product that is sound. -/
theorem finish_sound (h : progress.Sound) :
    progress.finish.slots = progress.slots ∧ progress.finish.shape = progress.shape ∧
      progress.finish.Sound := by
  cases h with
  | original sends =>
    cases sends with
    | noSends => exact ⟨rfl, rfl, .completed (.complete .noSends) rfl⟩
    | lane kind items | layer owned inner => exact ⟨rfl, rfl, .original _⟩
  | @rows kind items hitems =>
    have hspec := finishItemRows_spec hitems
    split at hspec
    · rename_i hverdict
      obtain ⟨settled, heq, hslots, hlength⟩ := hspec
      simp only [finish, heq]
      refine ⟨hslots, ?_, .completed _ ?_⟩
      · simp [shape, Interpretation.map, Interpretation.settlement, Lanes.shape,
          List.map_const', hlength]
      · exact (congrArg (verdict Answer.isCorrupt) hslots).trans hverdict
    · rename_i hverdict
      obtain ⟨settled, heq, hslots, hlength⟩ := hspec
      simp only [finish, heq]
      refine ⟨hslots, ?_, .completed _ ?_⟩
      · simp [shape, Interpretation.map, Interpretation.settlement, Lanes.shape,
          List.map_const', hlength]
      · exact (congrArg (verdict Answer.isCorrupt) hslots).trans hverdict
    · obtain ⟨items', heq, hslots, hsound, hlength⟩ := hspec
      simp only [finish, heq]
      refine ⟨hslots, ?_, .rows kind hsound⟩
      simp [shape, List.map_const', hlength]
  | inner sends hinner => exact ⟨rfl, rfl, .inner sends hinner⟩
  | owned settlement hthrough howned =>
    cases howned with
    | original sends => exact ⟨rfl, rfl, .owned settlement hthrough (.original sends)⟩
    | rows kind hitems => exact ⟨rfl, rfl, .owned settlement hthrough (.rows kind hitems)⟩
    | inner sends hinner => exact ⟨rfl, rfl, .owned settlement hthrough (.inner sends hinner)⟩
    | owned settlement' hthrough' howned =>
      exact ⟨rfl, rfl, .owned settlement hthrough (.owned settlement' hthrough' howned)⟩
    | completed received hverdict =>
      have hslots : (combine (.complete settlement) received).settlement.rows.map resultSlot =
          settlement.rows.map resultSlot ++ received.settlement.rows.map resultSlot := by
        rw [← List.map_append]
        cases received <;> rfl
      refine ⟨hslots, ?_, .completed _ ?_⟩
      · cases received <;> rfl
      · rw [hslots, verdict_append, hthrough]
        refine hverdict.trans ?_
        cases received <;> rfl
  | completed received hverdict => exact ⟨rfl, rfl, .completed received hverdict⟩

/-- **Finishing what is closed** leaves it closed. -/
theorem Closed.finish (h : progress.Sound) (hclosed : progress.Closed) :
    progress.finish.Closed := by
  obtain ⟨hslots, -, hsound⟩ := finish_sound h
  unfold Closed at hclosed
  refine hsound.closed ?_ ?_
  · intro hthrough
    rw [hslots] at hthrough
    rw [hthrough] at hclosed
    obtain ⟨settlement, rfl⟩ := hclosed
    exact ⟨settlement, rfl⟩
  · intro hcorrupt
    rw [hslots] at hcorrupt
    rw [hcorrupt] at hclosed
    obtain ⟨settlement, rfl⟩ := hclosed
    exact ⟨settlement, rfl⟩

/-- **A product that is not attempted** is completed, with its rows as they were. -/
theorem unattemptedSends_spec (sends : Lanes T.Item) :
    ∃ settlement, unattemptedSends sends = completed (.complete settlement) ∧
      settlement.rows.map resultSlot = sends.rows.map freshSlot ∧
      settlement.shape = sends.shape := by
  induction sends with
  | noSends => exact ⟨.noSends, rfl, rfl, rfl⟩
  | lane kind items =>
    refine ⟨.lane kind (items.map .unattempted), rfl, ?_, ?_⟩
    · rw [Lanes.rows, List.map_map]
      rfl
    · rw [Lanes.shape, List.map_map]
      rfl
  | layer owned inner ihowned ihinner =>
    obtain ⟨owned', heqOwned, hrowsOwned, hshapeOwned⟩ := ihowned
    obtain ⟨inner', heqInner, hrowsInner, hshapeInner⟩ := ihinner
    refine ⟨.layer owned' inner', ?_, ?_, ?_⟩
    · rw [unattemptedSends, heqOwned, heqInner]
      rfl
    · rw [Lanes.rows, Lanes.rows, List.map_append, List.map_append, hrowsInner, hrowsOwned]
    · rw [Lanes.shape, Lanes.shape, hshapeOwned, hshapeInner]

/-! ### Going through a product -/

/-- **A run over a product is a sweep over its slots**: what it holds, the state of the interpreter
and the invocations are those of the sweep, and a run to the end closes the product. -/
structure Follows (ran : Ran T σ (SendsProgress T)) (progress : SendsProgress T)
    (swept : Swept σ (Offer T) (Answer T)) : Prop where
  slots : ran.progress.slots = swept.slots
  state : ran.state = swept.state
  calls : ran.calls = swept.attempts.map Offer.call
  poll : ran.poll = poll swept.halt
  sound : ran.progress.Sound
  shape : ran.progress.shape = progress.shape
  closed : ran.poll = .ready → ran.progress.Closed

/-- `run` follows the sweep over a product from every state. -/
def Sweeps (interpreter : Interpreter T σ) (run : σ → Ran T σ (SendsProgress T))
    (progress : SendsProgress T) : Prop :=
  ∀ state, Follows (run state) progress
    (sweep interpreter.attempt Answer.isCorrupt state progress.slots)

theorem poll_abandoned {halt} (h : poll halt = .abandoned) : halt = .abandoned := by
  cases halt with
  | abandoned => rfl
  | through => cases h
  | corrupt => cases h
  | stuck => cases h

/-- A sweep that was not abandoned ends as its slots say. -/
theorem halt_eq {state slots}
    (h : poll (sweep interpreter.attempt Answer.isCorrupt state slots).halt = .ready) :
    (sweep interpreter.attempt Answer.isCorrupt state slots).halt =
      verdict Answer.isCorrupt (sweep interpreter.attempt Answer.isCorrupt state slots).slots := by
  rcases sweep_verdict interpreter.attempt Answer.isCorrupt state slots with habandoned | hverdict
  · rw [habandoned] at h
    cases h
  · exact hverdict.symm

/-- **A lane is swept.** -/
theorem interpretLane_sweeps (hlawful : interpreter.Lawful) (kind : LaneKind) {items}
    (hitems : RowsSound items) :
    Sweeps interpreter (interpretLane interpreter kind items) (rows kind items) := by
  intro state
  obtain ⟨hslots, hstate, hcalls, hpoll, hrows, hlength⟩ :=
    interpretRows_follows hlawful hitems state
  have hshape : (rows kind (interpretRows interpreter state items).progress).shape =
      (rows kind items).shape := by
    simp only [shape, List.map_const', hlength]
  cases hready : (interpretRows interpreter state items).poll with
  | abandoned =>
    have hrun : interpretLane interpreter kind items state =
        { interpretRows interpreter state items with
          progress := rows kind (interpretRows interpreter state items).progress } := by
      simp only [interpretLane, hready]
    refine ⟨?_, ?_, ?_, ?_, ?_, ?_, ?_⟩ <;> rw [hrun]
    · exact hslots
    · exact hstate
    · exact hcalls
    · exact hpoll
    · exact .rows kind hrows
    · exact hshape
    · intro h
      rw [hready] at h
      cases h
  | ready =>
    have hrun : interpretLane interpreter kind items state =
        { interpretRows interpreter state items with
          progress := finish (rows kind (interpretRows interpreter state items).progress) } := by
      simp only [interpretLane, hready]
    have hsound : (rows kind (interpretRows interpreter state items).progress).Sound :=
      .rows kind hrows
    obtain ⟨hfinished, hshape', hsound'⟩ := finish_sound hsound
    have hspec := finishItemRows_spec hrows
    refine ⟨?_, ?_, ?_, ?_, ?_, ?_, ?_⟩ <;> rw [hrun]
    · exact hfinished.trans hslots
    · exact hstate
    · exact hcalls
    · exact hpoll
    · exact hsound'
    · exact hshape'.trans hshape
    · intro _
      refine hsound'.closed ?_ ?_ <;> intro hverdict <;> rw [hfinished] at hverdict
      · rw [show verdict Answer.isCorrupt
          ((interpretRows interpreter state items).progress.map itemSlot) = .through from hverdict]
          at hspec
        obtain ⟨settled, heq, -⟩ := hspec
        exact ⟨.lane kind settled, by simp only [finish, heq, Interpretation.map]⟩
      · rw [show verdict Answer.isCorrupt
          ((interpretRows interpreter state items).progress.map itemSlot) = .corrupt from hverdict]
          at hspec
        obtain ⟨settled, heq, -⟩ := hspec
        exact ⟨.lane kind settled, by simp only [finish, heq, Interpretation.map]⟩

/-- A layer whose inner half does not come to an end. -/
theorem layer_halted {state ran} (sends : Lanes T.Item)
    (hran : Follows ran inner (sweep interpreter.attempt Answer.isCorrupt state inner.slots))
    (hhalt : (sweep interpreter.attempt Answer.isCorrupt state inner.slots).halt ≠ .through)
    (hslots : progress.slots = ran.progress.slots ++ (original sends).slots)
    (hshape : progress.shape = (layer (original sends) ran.progress).shape)
    (hsound : progress.Sound) (hclosed : ran.poll = .ready → progress.Closed) :
    Follows { ran with progress := progress } (layer (original sends) inner)
      (andThen (sweep interpreter.attempt Answer.isCorrupt state inner.slots)
        (original sends).slots
        fun state => sweep interpreter.attempt Answer.isCorrupt state (original sends).slots) := by
  rw [andThen_halted hhalt]
  refine ⟨?_, hran.state, hran.calls, hran.poll, hsound, ?_, hclosed⟩
  · rw [hslots, hran.slots]
  · rw [hshape]
    simp only [shape, hran.shape]

/-- A layer whose inner half is complete. -/
theorem layer_through {owned runInner runOwned state}
    (hran : Follows (runInner state) inner
      (sweep interpreter.attempt Answer.isCorrupt state inner.slots))
    (howned : Sweeps interpreter runOwned owned)
    (hhalt : (sweep interpreter.attempt Answer.isCorrupt state inner.slots).halt = .through)
    (hready : (runInner state).poll = .ready) {settlement}
    (hprogress : (runInner state).progress = completed (.complete settlement)) :
    Follows (interpretLayer runInner runOwned owned state) (layer owned inner)
      (andThen (sweep interpreter.attempt Answer.isCorrupt state inner.slots) owned.slots
        fun state => sweep interpreter.attempt Answer.isCorrupt state owned.slots) := by
  have hnext := howned (runInner state).state
  have hsettled : verdict Answer.isCorrupt (settlement.rows.map resultSlot) = .through := by
    have hsound := hran.sound
    rw [hprogress] at hsound
    cases hsound with
    | completed received hverdict => exact hverdict
  have hslots : (sweep interpreter.attempt Answer.isCorrupt state inner.slots).slots =
      settlement.rows.map resultSlot := by
    rw [← hran.slots, hprogress]
    rfl
  have hshape : settlement.shape = inner.shape := by
    have := hran.shape
    rw [hprogress] at this
    exact this
  rw [andThen_through hhalt, ← hran.state]
  cases hready' : (runOwned (runInner state).state).poll with
  | abandoned =>
    have hrun : interpretLayer runInner runOwned owned state =
        ⟨layer (runOwned (runInner state).state).progress (completed (.complete settlement)),
          (runOwned (runInner state).state).state,
          (runInner state).calls ++ (runOwned (runInner state).state).calls, .abandoned⟩ := by
      simp only [interpretLayer, hready, hprogress, finish, hready']
    rw [hrun]
    refine ⟨?_, hnext.state, ?_, ?_, .owned settlement hsettled hnext.sound, ?_, nofun⟩
    · rw [hslots, ← hnext.slots]
      rfl
    · simp only [hran.calls, hnext.calls, List.map_append]
    · exact hready'.symm.trans hnext.poll
    · simp only [shape, hnext.shape, Interpretation.settlement, hshape]
  | ready =>
    have hrun : interpretLayer runInner runOwned owned state =
        ⟨finish (layer (runOwned (runInner state).state).progress.finish
            (completed (.complete settlement))),
          (runOwned (runInner state).state).state,
          (runInner state).calls ++ (runOwned (runInner state).state).calls, .ready⟩ := by
      simp only [interpretLayer, hready, hprogress, finish, hready']
    obtain ⟨hslots', hshape', hsound'⟩ := finish_sound hnext.sound
    obtain ⟨hslots'', hshape'', hsound''⟩ := finish_sound (.owned settlement hsettled hsound')
    have hverdict : verdict Answer.isCorrupt
        (finish (layer (runOwned (runInner state).state).progress.finish
          (completed (.complete settlement)))).slots =
        verdict Answer.isCorrupt (runOwned (runInner state).state).progress.slots := by
      rw [hslots'', slots, verdict_append, slots_completed]
      simp only [Interpretation.settlement, hsettled, hslots']
    have hclosed := hnext.closed hready'
    unfold Closed at hclosed
    rw [hrun]
    refine ⟨?_, hnext.state, ?_, ?_, hsound'', ?_, fun _ => hsound''.closed ?_ ?_⟩
    · rw [hslots'', hslots, ← hnext.slots, ← hslots']
      rfl
    · simp only [hran.calls, hnext.calls, List.map_append]
    · exact hready'.symm.trans hnext.poll
    · rw [hshape'']
      simp only [shape, hshape', hnext.shape, Interpretation.settlement, hshape]
    · intro h
      rw [hverdict] at h
      rw [h] at hclosed
      obtain ⟨settlement', heq⟩ := hclosed
      exact ⟨.layer settlement' settlement, by rw [heq]; rfl⟩
    · intro h
      rw [hverdict] at h
      rw [h] at hclosed
      obtain ⟨settlement', heq⟩ := hclosed
      exact ⟨.layer settlement' settlement, by rw [heq]; rfl⟩

/-- **A layer is swept**, its inner half before its owned one. -/
theorem interpretLayer_sweeps {owned runInner runOwned} (hinner : Sweeps interpreter runInner inner)
    (howned : Sweeps interpreter runOwned owned)
    (huntouched : (∃ sends, owned = original sends) ∨
      verdict Answer.isCorrupt inner.slots = .through) :
    Sweeps interpreter (interpretLayer runInner runOwned owned) (layer owned inner) := by
  intro state
  have hran := hinner state
  rw [show (layer owned inner).slots = inner.slots ++ owned.slots from rfl, sweep_append]
  have huntouched' : (sweep interpreter.attempt Answer.isCorrupt state inner.slots).halt ≠ .through →
      ∃ sends, owned = original sends := by
    intro hhalt
    refine huntouched.resolve_right fun hthrough => ?_
    rw [sweep_settled _ fun h => by cases hthrough.symm.trans h] at hhalt
    exact hhalt hthrough
  cases hready : (runInner state).poll with
  | abandoned =>
    have hhalt : (sweep interpreter.attempt Answer.isCorrupt state inner.slots).halt ≠ .through := by
      rw [poll_abandoned (hran.poll.symm.trans hready)]
      intro h
      cases h
    obtain ⟨sends, rfl⟩ := huntouched' hhalt
    have hrun : interpretLayer runInner runOwned (original sends) state =
        { runInner state with progress := layer (original sends) (runInner state).progress } := by
      simp only [interpretLayer, hready]
    rw [hrun]
    refine layer_halted sends hran hhalt rfl rfl (.inner sends hran.sound) fun h => ?_
    rw [hready] at h
    cases h
  | ready =>
    have hhalt := halt_eq (hran.poll.symm.trans hready)
    rw [← hran.slots] at hhalt
    have hclosed := hran.closed hready
    unfold Closed at hclosed
    cases hverdict : verdict Answer.isCorrupt (runInner state).progress.slots with
    | through =>
      rw [hverdict] at hhalt hclosed
      obtain ⟨settlement, hprogress⟩ := hclosed
      exact layer_through hran howned hhalt hready hprogress
    | corrupt =>
      rw [hverdict] at hhalt hclosed
      obtain ⟨settlement, hprogress⟩ := hclosed
      have hnot : (sweep interpreter.attempt Answer.isCorrupt state inner.slots).halt ≠ .through :=
        fun h => by cases hhalt.symm.trans h
      obtain ⟨sends, rfl⟩ := huntouched' hnot
      obtain ⟨rest, heq, hrows, hshape⟩ := unattemptedSends_spec sends
      have hrun : interpretLayer runInner runOwned (original sends) state =
          { runInner state with
            progress := completed (.corrupt (.layer rest settlement)) } := by
        simp only [interpretLayer, hready, hprogress, finish, unattempted, heq, combine]
      have hslots : (completed (.corrupt (.layer rest settlement))).slots =
          (runInner state).progress.slots ++ (original sends).slots := by
        rw [hprogress, slots_completed, slots_completed]
        simp only [Interpretation.settlement, Lanes.rows, List.map_append, hrows, slots]
      have hverdict' : verdict Answer.isCorrupt (completed (.corrupt (.layer rest settlement))).slots =
          .corrupt := by
        rw [hslots, verdict_append, hverdict]
      rw [hrun]
      refine layer_halted sends hran hnot hslots ?_
        (.completed _ hverdict') fun _ => ?_
      · rw [hprogress]
        simp only [shape, Interpretation.settlement, Lanes.shape, hshape]
      · unfold Closed
        rw [hverdict']
        exact ⟨_, rfl⟩
    | stuck =>
      rw [hverdict] at hhalt
      have hnot : (sweep interpreter.attempt Answer.isCorrupt state inner.slots).halt ≠ .through :=
        fun h => by cases hhalt.symm.trans h
      obtain ⟨sends, rfl⟩ := huntouched' hnot
      obtain ⟨hslots, hshape, hsound⟩ := finish_sound hran.sound
      have hstuck := hsound.stuck (by rw [hslots]; exact hverdict)
      have hrun : interpretLayer runInner runOwned (original sends) state =
          { runInner state with
            progress := layer (original sends) (runInner state).progress.finish } := by
        simp only [interpretLayer, hready]
        split
        · exact absurd ‹_› (hstuck _)
        · exact absurd ‹_› (hstuck _)
        · rfl
      rw [hrun]
      refine layer_halted sends hran hnot ?_ ?_ (.inner sends hsound) fun _ => ?_
      · rw [← hslots]
        rfl
      · simp only [shape, hshape]
      · refine (Sound.inner sends hsound).closed ?_ ?_ <;> intro h
        · rw [slots, verdict_append, hslots, hverdict] at h
          cases h
        · rw [slots, verdict_append, hslots, hverdict] at h
          cases h
    | abandoned => exact absurd hverdict (verdict_ne_abandoned _)

/-- A product that is settled is left alone. -/
theorem settled_sweeps (interpreter : Interpreter T σ)
    (hsound : progress.Sound) (hsettled : verdict Answer.isCorrupt progress.slots ≠ .stuck)
    (hclosed : progress.Closed) :
    Sweeps interpreter (fun state => ⟨progress, state, [], .ready⟩) progress := by
  intro state
  rw [sweep_settled _ hsettled]
  exact ⟨rfl, rfl, rfl, poll_settled (verdict_ne_abandoned _), hsound, rfl, fun _ => hclosed⟩

theorem interpretSends_sweeps (hlawful : interpreter.Lawful) (sends : Lanes T.Item) :
    Sweeps interpreter (interpretSends interpreter sends) (original sends) := by
  induction sends with
  | noSends =>
    intro state
    exact ⟨rfl, rfl, rfl, rfl, .completed (.complete .noSends) rfl, rfl, fun _ => ⟨.noSends, rfl⟩⟩
  | lane kind items =>
    intro state
    have hslots : (original (.lane kind items)).slots =
        (rows kind (items.map .original) : SendsProgress T).slots := by
      rw [slots, slots, slots_original, Lanes.rows]
    obtain ⟨h1, h2, h3, h4, h5, h6, h7⟩ :=
      interpretLane_sweeps hlawful kind (.untouched items) state
    rw [hslots]
    refine ⟨h1, h2, h3, h4, h5, ?_, h7⟩
    rw [interpretSends, h6]
    simp only [shape, Lanes.shape, List.map_const', List.length_map]
  | layer owned inner ihowned ihinner =>
    intro state
    have hslots : (original (.layer owned inner)).slots =
        (layer (original owned) (original inner) : SendsProgress T).slots := by
      simp only [slots, Lanes.rows, List.map_append]
    obtain ⟨h1, h2, h3, h4, h5, h6, h7⟩ :=
      interpretLayer_sweeps ihinner ihowned (.inl ⟨owned, rfl⟩) state
    rw [hslots]
    exact ⟨h1, h2, h3, h4, h5, h6, h7⟩

/-- **Interpreting a send product is a sweep over its rows, inner to outer**, wherever earlier calls
have left it. -/
theorem interpret_sweeps (hlawful : interpreter.Lawful) (hsound : progress.Sound) :
    Sweeps interpreter (interpret interpreter progress) progress := by
  induction hsound with
  | original sends => exact interpretSends_sweeps hlawful sends
  | rows kind hitems => exact interpretLane_sweeps hlawful kind hitems
  | inner sends hinner ih =>
    exact interpretLayer_sweeps ih (interpretSends_sweeps hlawful sends) (.inl ⟨sends, rfl⟩)
  | owned settlement hthrough howned ih =>
    refine interpretLayer_sweeps ?_ ih (.inr hthrough)
    have hcompleted : (completed (.complete settlement)).Sound := .completed _ hthrough
    refine settled_sweeps interpreter hcompleted (by rw [slots_completed]; exact hthrough ▸ nofun) ?_
    exact hcompleted.closed (fun _ => ⟨settlement, rfl⟩) fun h =>
      absurd (hthrough.symm.trans h) nofun
  | completed received hverdict =>
    have hcompleted : (completed received).Sound := .completed _ hverdict
    refine settled_sweeps interpreter hcompleted ?_ ?_
    · rw [slots_completed, hverdict]
      split <;> nofun
    · refine hcompleted.closed (fun h => ?_) fun h => ?_
      · cases received with
        | complete settlement => exact ⟨settlement, rfl⟩
        | corrupt settlement => exact absurd (hverdict.symm.trans h) nofun
      · cases received with
        | complete settlement => exact absurd (hverdict.symm.trans h) nofun
        | corrupt settlement => exact ⟨settlement, rfl⟩

end SendsProgress

end Bombay.Effects
