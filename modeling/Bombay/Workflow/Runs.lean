/-
# What holds of every run of a workflow

A run starts with a workflow that was built, so with a well-formed definition.  Its steps become
active once each, when the last of their prerequisites completes, and never after the end
(`Scheduling`).
-/

import Bombay.Workflow.Scheduling

namespace Bombay.Workflows

open Precedence

variable {K Route : Type}

/-- A turn of a workflow. -/
abbrev WorkflowTurn (K Route : Type) :=
  Turn (Workflow K Route) (WorkflowMessage K Route) (Emitted K Route)

/-- The steps that an outcome reports as activated. -/
def WorkflowOutcome.activated : WorkflowOutcome K → List K
  | .started activated | .advanced _ activated => activated
  | .succeeded _ | .failed _ | .cancelled | .rejected _ => []

/-- The outcomes that a transition reports. -/
def outcomes : Emitted K Route → List (WorkflowOutcome K)
  | .ok replies => replies.map Prod.snd
  | .error _ => []

/-- The steps that a transition activates. -/
def activated (emitted : Emitted K Route) : List K :=
  (outcomes emitted).flatMap WorkflowOutcome.activated

@[simp] theorem activated_reply (replyTo : Route) (outcome : WorkflowOutcome K) :
    activated (.ok [(replyTo, outcome)]) = outcome.activated := by
  simp [activated, outcomes]

/-- The entries of a running workflow. -/
def entries : WorkflowState K Route → List (K × WorkflowStepState)
  | .running steps _ => steps
  | .ready | .succeeded _ | .failed _ _ | .cancelled _ => []

/-- The workflow is running, and all prerequisites of a step are complete. -/
def Prepared (definition : WorkflowDefinition K) (step : K) (state : WorkflowState K Route) : Prop :=
  ∃ steps replyTo, state = .running steps replyTo ∧
    ∀ required, definition.Before required step → (required, .completed) ∈ steps

/-- A message reports the only incomplete step, which is active. -/
def CompletesLast (state : WorkflowState K Route) (message : WorkflowMessage K Route) (step : K) :
    Prop :=
  ∃ steps replyTo, state = .running steps replyTo ∧ message = .complete step ∧
    (step, .active) ∈ steps ∧ ∀ other entry, (other, entry) ∈ steps → other ≠ step →
      entry = .completed

/-- The input is rejected. -/
def Rejected (emitted : Emitted K Route) : Prop :=
  (∃ error, emitted = .error error) ∨ ∃ rejection, .rejected rejection ∈ outcomes emitted

/-- **Where an accepted message leads**, and what is replied: a start activates some steps; a
completion makes its step complete and activates some more, or ends the run with it; a failure
and a cancellation end the run. -/
inductive Leads [DecidableEq K] (definition : WorkflowDefinition K) :
    WorkflowState K Route → WorkflowMessage K Route → WorkflowState K Route → Replies K Route → Prop
  | started {replyTo} (activated : List K) :
      Leads definition .ready (.start replyTo)
        (.running (definition.steps.map fun step =>
          (step, if step ∈ activated then .active else .blocked)) replyTo)
        [(replyTo, .started activated)]
  | advanced {steps replyTo step} (activated : List K) (hactive : (step, .active) ∈ steps) :
      Leads definition (.running steps replyTo) (.complete step)
        (.running (steps.map fun entry => (entry.1,
          if entry.1 = step then .completed else if entry.1 ∈ activated then .active
          else entry.2)) replyTo)
        [(replyTo, .advanced step activated)]
  | succeeded {steps replyTo step} (hactive : (step, .active) ∈ steps) :
      Leads definition (.running steps replyTo) (.complete step) (.succeeded replyTo)
        [(replyTo, .succeeded step)]
  | failed {steps replyTo step} (hactive : (step, .active) ∈ steps) :
      Leads definition (.running steps replyTo) (.fail step) (.failed step replyTo)
        [(replyTo, .failed step)]
  | cancelled {state replyTo} (hlive : ¬ Terminal state) :
      Leads definition state (.cancel replyTo) (.cancelled replyTo) [(replyTo, .cancelled)]

section Moves

variable [DecidableEq K] {definition : WorkflowDefinition K} {before after : WorkflowState K Route}
  {message : WorkflowMessage K Route} {emitted : Emitted K Route}

omit [DecidableEq K] in
theorem Refuses.activated (h : Refuses emitted) : activated emitted = [] := by
  cases h with
  | error | rejected => rfl

omit [DecidableEq K] in
/-- A step of a running workflow is prepared exactly if its prerequisites have completed. -/
theorem prepared_table (hwell : definition.WellFormed) {states : K → WorkflowStepState}
    {replyTo : Route} {step : K} :
    Prepared definition step (.running (table definition states) replyTo) ↔
      ∀ required, definition.Before required step → states required = .completed := by
  constructor
  · rintro ⟨steps, other, hstate, h⟩ required hbefore
    obtain ⟨rfl, -⟩ := WorkflowState.running.inj hstate
    exact (mem_table.mp (h required hbefore)).2
  · intro h
    exact ⟨_, _, rfl, fun required hbefore =>
      mem_table.mpr ⟨(hwell.defined required step hbefore).1, h required hbefore⟩⟩

/-- The reported step is the last incomplete one exactly if no other is incomplete. -/
theorem completesLast_table {states : K → WorkflowStepState} {step other : K} {replyTo : Route}
    (hstep : step ∈ definition.steps) (hactive : states step = .active) :
    CompletesLast (.running (table definition states) replyTo) (.complete step) other ↔
      other = step ∧ ¬ Unfinished definition (finish states step) := by
  constructor
  · rintro ⟨steps, reply, hstate, hmessage, -, hlast⟩
    obtain ⟨rfl, -⟩ := WorkflowState.running.inj hstate
    obtain rfl := WorkflowMessage.complete.inj hmessage
    refine ⟨rfl, fun ⟨incomplete, hmem, hincomplete⟩ => hincomplete ?_⟩
    by_cases hsame : incomplete = step
    · rw [hsame, finish, Function.update_self]
    · rw [finish, Function.update_of_ne hsame]
      exact hlast incomplete _ (mem_table.mpr ⟨hmem, rfl⟩) hsame
  · rintro ⟨rfl, hfinished⟩
    refine ⟨_, _, rfl, rfl, mem_table.mpr ⟨hstep, hactive⟩, fun another entry hentry hne => ?_⟩
    obtain ⟨hmem, rfl⟩ := mem_table.mp hentry
    by_contra hincomplete
    refine hfinished ⟨another, hmem, ?_⟩
    rwa [finish, Function.update_of_ne hne]

variable (h : Moves definition before message after emitted)

include h

/-- **A move keeps the workflow sound.** -/
theorem Moves.sound
    (hwell : definition.WellFormed) (hsound : Sound definition before) : Sound definition after := by
  cases h with
  | started =>
    intro steps other hstate
    obtain ⟨rfl, -⟩ := WorkflowState.running.inj hstate
    refine ⟨_, rfl, begun_settled definition, ?_⟩
    obtain ⟨step, hstep⟩ := List.exists_mem_of_ne_nil _ hwell.nonempty
    refine ⟨step, hstep, ?_⟩
    unfold begun
    split <;> exact fun h => by cases h
  | advanced hsettled hstep hactive hrest =>
    intro steps other hstate
    obtain ⟨rfl, -⟩ := WorkflowState.running.inj hstate
    refine ⟨_, rfl, hsettled.step hwell hactive, ?_⟩
    obtain ⟨incomplete, hmem, hincomplete⟩ := hrest
    exact ⟨incomplete, hmem, fun h => hincomplete (activateReady_completed.mp h)⟩
  | succeeded | failed | cancelled => exact fun _ _ h => by cases h
  | refused => exact hsound

/-- **What a move activates**: the steps of the definition that it prepares. -/
theorem Moves.activates (hwell : definition.WellFormed) (step : K) :
    step ∈ activated emitted ↔ step ∈ definition.steps ∧
      Prepared definition step after ∧ ¬ Prepared definition step before := by
  cases h with
  | started =>
    rw [activated_reply, WorkflowOutcome.activated, List.mem_filter, isRoot_iff, prepared_table hwell]
    refine and_congr_right fun _ => ⟨fun hroot => ⟨fun required hbefore => ?_, ?_⟩, ?_⟩
    · exact absurd hbefore (hroot required)
    · rintro ⟨steps, replyTo, hstate, -⟩
      cases hstate
    · rintro ⟨hprepared, -⟩ required hbefore
      have hcompleted := hprepared required hbefore
      unfold begun at hcompleted
      split at hcompleted <;> cases hcompleted
  | @advanced states completed replyTo hsettled hstep hactive hrest =>
    rw [activated_reply, WorkflowOutcome.activated, List.mem_filter, ready_iff hwell,
      prepared_table hwell, prepared_table hwell]
    refine and_congr_right fun hmem => ?_
    rw [finish_blocked hactive, hsettled step hmem, and_comm]
    simp only [activateReady_completed, not_forall, ne_eq, exists_prop]
  | succeeded | failed | cancelled =>
    refine ⟨(fun h => by cases h), ?_⟩
    rintro ⟨_, ⟨steps, replyTo, hstate, _⟩, _⟩
    cases hstate
  | refused hrefuses _ =>
    rw [hrefuses.activated]
    exact ⟨(fun h => by cases h), fun h => absurd h.2.1 h.2.2⟩

/-- The activated steps are those that become active. -/
theorem Moves.becomes_active (step : K) :
    step ∈ activated emitted ↔
      (step, .active) ∈ entries after ∧ (step, .active) ∉ entries before := by
  cases h with
  | started =>
    rw [activated_reply, WorkflowOutcome.activated, List.mem_filter]
    simp only [entries, mem_table, List.not_mem_nil, not_false_eq_true, and_true]
    refine and_congr_right fun _ => ?_
    unfold begun
    split
    · next hroot => exact ⟨fun _ => rfl, fun _ => hroot⟩
    · next hroot => exact ⟨fun h => absurd h hroot, (fun h => by cases h)⟩
  | @advanced states completed replyTo hsettled hstep hactive hrest =>
    rw [activated_reply, WorkflowOutcome.activated, List.mem_filter]
    simp only [entries, mem_table, not_and]
    constructor
    · rintro ⟨hmem, hready⟩
      refine ⟨⟨hmem, by rw [activateReady, if_pos hready]⟩, fun _ hactive' => ?_⟩
      have hblocked : finish states completed step = .blocked := (decide_eq_true_iff.mp hready).1
      cases hactive'.symm.trans ((finish_blocked hactive).mp hblocked)
    · rintro ⟨⟨hmem, hactivated⟩, hbefore⟩
      refine ⟨hmem, ?_⟩
      unfold activateReady at hactivated
      split at hactivated
      · next hready => exact hready
      · by_cases hsame : step = completed
        · rw [hsame, finish, Function.update_self] at hactivated
          cases hactivated
        · rw [finish, Function.update_of_ne hsame] at hactivated
          exact absurd hactivated (hbefore hmem)
  | succeeded | failed | cancelled =>
    exact ⟨(fun h => by cases h), (fun h => by cases h.1)⟩
  | refused hrefuses _ =>
    rw [hrefuses.activated]
    exact ⟨(fun h => by cases h), fun h => absurd h.1 h.2⟩

/-- **Success is reported exactly when the last step completes.** -/
theorem Moves.succeeds (step : K) :
    .succeeded step ∈ outcomes emitted ↔ CompletesLast before message step := by
  cases h with
  | started =>
    refine ⟨fun h => absurd h (by simp [outcomes]), ?_⟩
    rintro ⟨_, _, hstate, _⟩
    cases hstate
  | advanced hsettled hstep hactive hrest =>
    rw [completesLast_table hstep hactive]
    exact ⟨fun h => absurd h (by simp [outcomes]), fun h => absurd hrest h.2⟩
  | succeeded hstep hactive hlast =>
    rw [completesLast_table hstep hactive]
    simp [outcomes, hlast]
  | failed | cancelled =>
    refine ⟨fun h => absurd h (by simp [outcomes]), ?_⟩
    rintro ⟨_, _, _, hmessage, _⟩
    cases hmessage
  | refused hrefuses hnot =>
    refine ⟨fun h => ?_, ?_⟩
    · cases hrefuses with
      | error | rejected => simp [outcomes] at h
    · rintro ⟨steps, replyTo, hstate, rfl, hactive, _⟩
      exact absurd ⟨steps, replyTo, hstate, hactive⟩ hnot

/-- **A message leads where it says, or it is not accepted and refused.** -/
theorem Moves.leads :
    (Accepts before message ∧ ∃ replies, emitted = .ok replies ∧
      Leads definition before message after replies) ∨
    (¬ Accepts before message ∧ Refuses emitted ∧ after = before) := by
  cases h with
  | @started replyTo =>
    refine .inl ⟨rfl, _, rfl, ?_⟩
    have htable : table definition (begun definition) = definition.steps.map fun step => (step,
        if step ∈ definition.steps.filter (Workflow.isRoot definition) then .active
        else .blocked) := by
      refine List.map_congr_left fun step hstep => ?_
      simp only [begun, List.mem_filter, hstep, true_and]
    rw [htable]
    exact .started _
  | @advanced states step replyTo hsettled hstep hactive hrest =>
    have hmem := mem_table.mpr ⟨hstep, hactive⟩
    refine .inl ⟨⟨_, _, rfl, hmem⟩, _, rfl, ?_⟩
    have htable : table definition (activateReady definition (finish states step)) =
        (table definition states).map fun entry => (entry.1, if entry.1 = step then .completed
          else if entry.1 ∈ definition.steps.filter (ready definition (finish states step)) then
            .active
          else entry.2) := by
      rw [table, table, List.map_map]
      refine List.map_congr_left fun other hother => congrArg (Prod.mk other) ?_
      by_cases hsame : other = step
      · rw [if_pos hsame, hsame, activateReady_completed, finish, Function.update_self]
      · simp only [if_neg hsame, List.mem_filter, hother, true_and, activateReady, finish,
          Function.update_of_ne hsame]
    rw [htable]
    exact .advanced _ hmem
  | succeeded hstep hactive hlast =>
    have hmem := mem_table.mpr ⟨hstep, hactive⟩
    exact .inl ⟨⟨_, _, rfl, hmem⟩, _, rfl, .succeeded hmem⟩
  | failed hstep hactive =>
    have hmem := mem_table.mpr ⟨hstep, hactive⟩
    exact .inl ⟨⟨_, _, rfl, hmem⟩, _, rfl, .failed hmem⟩
  | cancelled hlive => exact .inl ⟨hlive, _, rfl, .cancelled hlive⟩
  | refused hrefuses hnot => exact .inr ⟨hnot, hrefuses, rfl⟩

/-- **After the end nothing changes, and no step is activated.** -/
theorem Moves.ended (hterminal : Terminal before) :
    after = before ∧ activated emitted = [] := by
  cases h with
  | started | advanced | succeeded | failed => exact hterminal.elim
  | cancelled hlive => exact absurd hterminal hlive
  | refused hrefuses _ => exact ⟨rfl, hrefuses.activated⟩

/-- **A rejected input changes nothing.** -/
theorem Moves.rejected (hrejected : Rejected emitted) : after = before := by
  cases h with
  | started | advanced | succeeded | failed | cancelled =>
    rcases hrejected with ⟨error, herror⟩ | ⟨rejection, hrejection⟩
    · cases herror
    · simp [outcomes] at hrejection
  | refused => rfl

/-- A move activates no step twice. -/
theorem Moves.nodup (hwell : definition.WellFormed) : (activated emitted).Nodup := by
  cases h with
  | started | advanced =>
    rw [activated_reply]
    exact hwell.nodup.filter _
  | succeeded | failed | cancelled => exact List.nodup_nil
  | refused hrefuses _ =>
    rw [hrefuses.activated]
    exact List.nodup_nil

/-- A step that is prepared stays so until the end. -/
theorem Moves.prepared
    (hwell : definition.WellFormed) {step : K} (hprepared : Prepared definition step before) :
    Prepared definition step after ∨ Terminal after := by
  cases h with
  | started =>
    obtain ⟨steps, replyTo, hstate, -⟩ := hprepared
    exact nomatch hstate
  | @advanced states completed replyTo hsettled hstep hactive hrest =>
    rw [prepared_table hwell] at hprepared ⊢
    refine .inl fun required hbefore => activateReady_completed.mpr ?_
    by_cases hsame : required = completed
    · rw [hsame, finish, Function.update_self]
    · rw [finish, Function.update_of_ne hsame]
      exact hprepared required hbefore
  | succeeded | failed | cancelled => exact .inr trivial
  | refused => exact .inl hprepared

end Moves

/-! ### Runs -/

/-- **What holds of the turns of a run.** -/
structure Scheduling [DecidableEq K] (definition : WorkflowDefinition K)
    (turns : List (WorkflowTurn K Route)) : Prop where
  /-- No step is activated twice. -/
  once : (turns.flatMap fun turn => activated turn.emitted).Nodup
  /-- The activated steps are those that become active. -/
  becomes : ∀ turn ∈ turns, ∀ step, step ∈ activated turn.emitted ↔
    (step, .active) ∈ entries turn.after.state ∧ (step, .active) ∉ entries turn.before.state
  /-- A step is activated in the first transition after which its prerequisites are complete. -/
  first : ∀ earlier turn later, turns = earlier ++ turn :: later → ∀ step,
    step ∈ activated turn.emitted ↔ step ∈ definition.steps ∧
      Prepared definition step turn.after.state ∧
      ∀ other ∈ earlier, ¬ Prepared definition step other.after.state
  /-- A running workflow has an active step. -/
  live : ∀ turn ∈ turns, ∀ steps replyTo, turn.after.state = .running steps replyTo →
    ∃ step, (step, .active) ∈ steps
  /-- A message is accepted, and leads where its reply says, or it is refused and changes nothing. -/
  leads : ∀ turn ∈ turns, (Accepts turn.before.state turn.event ∧ ∃ replies,
      turn.emitted = .ok replies ∧
        Leads definition turn.before.state turn.event turn.after.state replies) ∨
    (¬ Accepts turn.before.state turn.event ∧ Refuses turn.emitted ∧
      turn.after.state = turn.before.state)
  /-- Success is reported exactly when the last step completes. -/
  succeeds : ∀ turn ∈ turns, ∀ step, .succeeded step ∈ outcomes turn.emitted ↔
    CompletesLast turn.before.state turn.event step
  /-- After the end nothing is activated, and nothing changes. -/
  ended : ∀ turn ∈ turns, Terminal turn.before.state →
    turn.after = turn.before ∧ activated turn.emitted = []
  /-- A rejected input changes nothing. -/
  rejected : ∀ turn ∈ turns, Rejected turn.emitted → turn.after = turn.before

section Runs

variable [DecidableEq K] {definition : WorkflowDefinition K}

/-- Every turn of a sound workflow is a move, and the next workflow is sound. -/
theorem turn_moves (hwell : definition.WellFormed) {workflow : Workflow K Route}
    (h : workflow.definition = definition ∧ Sound definition workflow.state)
    (message : WorkflowMessage K Route) :
    ((workflow.transition message).1.definition = definition ∧
        Sound definition (workflow.transition message).1.state) ∧
      Moves definition workflow.state message (workflow.transition message).1.state
        (workflow.transition message).2 := by
  obtain ⟨rfl, hsound⟩ := h
  obtain ⟨after, emitted, htransition, hmoves⟩ := transition_moves hwell hsound message
  have hworkflow : workflow.transition message = (⟨workflow.definition, after⟩, emitted) :=
    htransition
  rw [hworkflow]
  exact ⟨⟨rfl, hmoves.sound hwell hsound⟩, hmoves⟩

omit [DecidableEq K] in
theorem sound_ready (definition : WorkflowDefinition K) :
    Sound definition (.ready : WorkflowState K Route) :=
  fun _ _ h => nomatch h

/-- A run starts and stays sound. -/
theorem run_sound (hwell : definition.WellFormed) (messages : List (WorkflowMessage K Route)) :
    (Machine.reached Workflow.transition ⟨definition, .ready⟩ messages).definition = definition ∧
      Sound definition
        (Machine.reached Workflow.transition ⟨definition, .ready⟩ messages).state :=
  Machine.reached_invariant
    (P := fun workflow : Workflow K Route =>
      workflow.definition = definition ∧ Sound definition workflow.state)
    ⟨rfl, sound_ready definition⟩ (fun _ message h => (turn_moves hwell h message).1) messages

/-- Every turn of a run is a move. -/
theorem mem_turns_moves (hwell : definition.WellFormed) {messages : List (WorkflowMessage K Route)}
    {turn : WorkflowTurn K Route}
    (hturn : turn ∈ Machine.turns Workflow.transition ⟨definition, .ready⟩ messages) :
    turn.after.definition = turn.before.definition ∧ Sound definition turn.after.state ∧
      Moves definition turn.before.state turn.event turn.after.state turn.emitted := by
  obtain ⟨earlier, later, hsplit⟩ := List.append_of_mem hturn
  obtain ⟨before, -, hnow⟩ := Machine.turns_split hsplit
  have hsound := run_sound hwell before
  obtain ⟨⟨hdefinition, hafter⟩, hmoves⟩ := turn_moves hwell hsound turn.event
  rw [hnow]
  exact ⟨hdefinition.trans hsound.1.symm, hafter, hmoves⟩

/-- **A step that some turn prepared is prepared**, or the run is over. -/
theorem run_prepared (hwell : definition.WellFormed) (step : K)
    (messages : List (WorkflowMessage K Route)) :
    (∃ turn ∈ Machine.turns Workflow.transition ⟨definition, .ready⟩ messages,
        Prepared definition step turn.after.state) →
      Prepared definition step
          (Machine.reached Workflow.transition ⟨definition, .ready⟩ messages).state ∨
        Terminal (Machine.reached Workflow.transition ⟨definition, .ready⟩ messages).state := by
  induction messages using List.reverseRecOn with
  | nil => exact fun ⟨_, h, _⟩ => nomatch h
  | append_singleton messages message ih =>
    rintro ⟨turn, hturn, hprepared⟩
    rw [Machine.turns_snoc] at hturn
    rw [Machine.reached_snoc]
    have hmoves := (turn_moves hwell (run_sound hwell messages) message).2
    rcases List.mem_append.mp hturn with hturn | hturn
    · rcases ih ⟨turn, hturn, hprepared⟩ with hbefore | hover
      · exact hmoves.prepared hwell hbefore
      · rw [(hmoves.ended hover).1]
        exact .inr hover
    · rw [List.mem_singleton.mp hturn] at hprepared
      exact .inl hprepared

/-- And a step is prepared only if some turn prepared it. -/
theorem prepared_run (step : K) (messages : List (WorkflowMessage K Route))
    (h : Prepared definition step
      (Machine.reached Workflow.transition ⟨definition, .ready⟩ messages).state) :
    ∃ turn ∈ Machine.turns Workflow.transition ⟨definition, .ready⟩ messages,
      Prepared definition step turn.after.state := by
  rcases List.eq_nil_or_concat messages with rfl | ⟨before, message, rfl⟩
  · obtain ⟨steps, replyTo, hstate, -⟩ := h
    exact nomatch hstate
  · rw [List.concat_eq_append] at h ⊢
    rw [Machine.reached_snoc] at h
    rw [Machine.turns_snoc]
    exact ⟨_, List.mem_append_right _ (.head _), h⟩

/-- **When a step is activated**: in the first transition after which its prerequisites are
complete. -/
theorem activated_first (hwell : definition.WellFormed) {messages : List (WorkflowMessage K Route)}
    {earlier later : List (WorkflowTurn K Route)} {turn : WorkflowTurn K Route}
    (hsplit : Machine.turns Workflow.transition ⟨definition, .ready⟩ messages =
      earlier ++ turn :: later) (step : K) :
    step ∈ activated turn.emitted ↔ step ∈ definition.steps ∧
      Prepared definition step turn.after.state ∧
      ∀ other ∈ earlier, ¬ Prepared definition step other.after.state := by
  obtain ⟨before, rfl, hnow⟩ := Machine.turns_split hsplit
  have hmoves := (turn_moves hwell (run_sound hwell before) turn.event).2
  have hactivates := hmoves.activates hwell step
  rw [hnow]
  refine hactivates.trans ?_
  refine and_congr_right fun hstep => and_congr_right fun hprepared => ?_
  constructor
  · intro hfresh other hother hdone
    rcases run_prepared hwell step before ⟨other, hother, hdone⟩ with hbefore | hover
    · exact hfresh hbefore
    · rw [(hmoves.ended hover).1] at hprepared
      exact hfresh hprepared
  · intro hfresh hbefore
    obtain ⟨other, hother, hdone⟩ := prepared_run step before hbefore
    exact hfresh other hother hdone

/-- **No step is activated twice** in a run. -/
theorem activated_nodup (hwell : definition.WellFormed)
    (messages : List (WorkflowMessage K Route)) :
    ((Machine.turns Workflow.transition ⟨definition, .ready⟩ messages).flatMap fun turn =>
      activated turn.emitted).Nodup := by
  induction messages using List.reverseRecOn with
  | nil => exact List.nodup_nil
  | append_singleton messages message ih =>
    have hsplit : Machine.turns Workflow.transition ⟨definition, .ready⟩ (messages ++ [message]) =
        Machine.turns Workflow.transition ⟨definition, .ready⟩ messages ++
          [Machine.turn Workflow.transition
            (Machine.reached Workflow.transition ⟨definition, .ready⟩ messages) message] :=
      Machine.turns_snoc messages message
    have hfirst := activated_first hwell hsplit
    rw [hsplit, List.flatMap_append, List.flatMap_singleton, List.nodup_append]
    refine ⟨ih, ?_, ?_⟩
    · have hmoves := (turn_moves hwell (run_sound hwell messages) message).2
      exact hmoves.nodup hwell
    · rintro step hstep other hother rfl
      obtain ⟨turn, hturn, hactivated⟩ := List.mem_flatMap.mp hstep
      obtain ⟨earlier, later, hearlier⟩ := List.append_of_mem hturn
      have hprepared := ((activated_first hwell hearlier step).mp hactivated).2.1
      exact ((hfirst step).mp hother).2.2 turn hturn hprepared

/-- **A workflow is built exactly from a well-formed definition, and every run of it schedules the
steps in dependency order**: each becomes active once, in the first transition after which its
prerequisites are complete; a running workflow has an active step; an accepted message leads where
its reply says; success is reported exactly when the last step completes; nothing is activated after
the end; and a rejected input changes nothing. -/
theorem workflow_law (definition : WorkflowDefinition K)
    (messages : List (WorkflowMessage K Route)) :
    (validate definition = .ok () ↔ definition.WellFormed) ∧
      ∀ workflow : Workflow K Route, Workflow.new definition = .ok workflow →
        Scheduling definition (Machine.turns Workflow.transition workflow messages) := by
  refine ⟨validate_ok_iff, fun workflow hnew => ?_⟩
  unfold Workflow.new at hnew
  split at hnew
  · exact nomatch hnew
  · next hvalid =>
    obtain rfl := Except.ok.inj hnew
    have hwell := validate_ok_iff.mp hvalid
    have hafter : ∀ turn ∈ Machine.turns Workflow.transition ⟨definition, .ready⟩ messages,
        turn.after.state = turn.before.state → turn.after = turn.before := by
      intro turn hturn hstate
      obtain ⟨hdefinition, -, -⟩ := mem_turns_moves hwell hturn
      rcases turn with ⟨⟨_, before⟩, event, ⟨_, after⟩, emitted⟩
      obtain rfl : after = before := hstate
      exact congrArg (fun definition => (⟨definition, after⟩ : Workflow K Route)) hdefinition
    refine ⟨activated_nodup hwell messages, fun turn hturn => ?_, fun _ _ _ hsplit =>
      activated_first hwell hsplit, fun turn hturn steps replyTo hrunning => ?_,
      fun turn hturn => (mem_turns_moves hwell hturn).2.2.leads, fun turn hturn => ?_,
      fun turn hturn hterminal => ?_, fun turn hturn hrejected => ?_⟩
    · exact (mem_turns_moves hwell hturn).2.2.becomes_active
    · obtain ⟨states, rfl, hsettled, hunfinished⟩ :=
        (mem_turns_moves hwell hturn).2.1 steps replyTo hrunning
      exact hsettled.exists_active hwell hunfinished
    · exact (mem_turns_moves hwell hturn).2.2.succeeds
    · obtain ⟨hstate, hactivated⟩ := (mem_turns_moves hwell hturn).2.2.ended hterminal
      exact ⟨hafter turn hturn hstate, hactivated⟩
    · exact hafter turn hturn ((mem_turns_moves hwell hturn).2.2.rejected hrejected)

end Runs

end Bombay.Workflows
