/-
# The shutdown of a dynamic supervisor

`begin_shutdown` of `directory/mod.rs` takes
every entry to a phase that only drains, and `command_while_shutting_down` answers
without touching the table.  One arm of `accept_stopping_input` does not know about
the shutdown: when the shutdown of an entry that was available is refused, the entry
is available again.
-/

import Bombay.Directory.Runs

namespace Bombay.Directory

open Proxy (ProxyOutcome InitialWorkerOutcome ReplacementOutcome)
open DynamicSupervisor

variable {Key : Type} [LinearOrder Key] {S : Signature} {Message : Type}

/-! ### Phases -/

/-- The phases of an entry of a supervisor that is shutting down. -/
def DynamicEntryPhase.drains : DynamicEntryPhase S Message → Bool
  | .shuttingDownProxyCreation => true
  | .drainingProxyCreationStop => true
  | .cancellingProxyCreation => true
  | .stopping _ _ _ _ => true
  | .retiring _ => true
  | _ => false

/-- The proxy of the entry was not asked to shut down. -/
def DynamicEntryPhase.unasked : DynamicEntryPhase S Message → Bool
  | .stopping _ _ _ _ => false
  | .retiring _ => false
  | _ => true

/-- The operation asks a proxy to shut down. -/
def ProxyOperation.closes (operation : ProxyOperation S) : Bool :=
  match operation.control with
  | .shutdown => true
  | _ => false

/-- The shutdown of an entry that was available is refused before its proxy has stopped. -/
def DynamicEntry.Restored (entry : DynamicEntry S Message)
    (event : DynamicSupervisorEvent Key S Message) : Prop :=
  ∃ proxy service witness input,
    entry.phase = .stopping proxy (some service) (.awaitingSettlement witness) none ∧
    event = .proxyInputSettled input ∧ proxyInputCreation input = entry.creation ∧
    proxyInputOperation input = witness ∧ refused input = true

/-- **The entry that an event makes available again**, by its creation: its shutdown is refused
before its proxy has stopped. -/
def DynamicSupervisor.restored (self : DynamicSupervisor Key S Message)
    (event : DynamicSupervisorEvent Key S Message) : List ℕ :=
  match event with
  | .proxyInputSettled input =>
    match self.takeProxyEntry (proxyInputCreation input) with
    | some (_, ⟨_, _, creation, .stopping _ (some _) (.awaitingSettlement witness) none⟩) =>
      if proxyInputOperation input = witness ∧ refused input = true then [creation] else []
    | _ => []
  | _ => []

variable {self : DynamicSupervisor Key S Message} {event : DynamicSupervisorEvent Key S Message}
    {key : Key} {heap : ℕ} {outcome : Outcome Key S Message} {after : DynamicEntry S Message}
    {acted : Acted Key S Message} {actions : DynamicActions Key S Message}

theorem Sound.restored (hsound : Sound self) {entry} (hentry : self.services.get? key = some entry)
    (h : entry.Restored event) :
    self.restored event = [entry.creation] := by
  obtain ⟨proxy, service, witness, input, hphase, rfl, hcreation, hwitness, hrefused⟩ := h
  have hfound := hsound.takeProxyEntry hentry
  obtain ⟨generation, operation, creation, phase⟩ := entry
  dsimp only at hphase hcreation hfound
  subst hphase hcreation
  simp only [DynamicSupervisor.restored, hfound]
  rw [if_pos ⟨hwitness, hrefused⟩]

/-! ### One entry -/

omit [LinearOrder Key] in
/-- **A proxy is asked to shut down by the step that leaves its entry stopping or retiring.** -/
theorem Steps.operations {entry} (h : Steps key heap event entry outcome) :
    outcome.operations = [] ∨ outcome.operations = [.shutdown entry.creation heap] ∧
      entry.phase.unasked = true ∧
        ∃ after, outcome.after = some after ∧ after.phase.unasked = false := by
  cases h with
  | retired h | stopping h =>
    refine .inr ⟨rfl, ?_, _, rfl, rfl⟩
    cases h <;> rfl
  | uncreated hcreation hresolve h => exact .inl rfl
  | shifted h => exact .inl rfl
  | ended h => exact .inl rfl
  | continued h =>
    left
    unfold settled
    split <;> rfl

omit [LinearOrder Key] in
/-- **An entry that was asked stays so, and one that drains goes on**, unless it is restored. -/
theorem Steps.goesOn {entry} (h : Steps key heap event entry outcome)
    (hafter : outcome.after = some after) (hnot : ¬ entry.Restored event) :
    (after.phase.unasked = true → entry.phase.unasked = true) ∧
      (entry.phase.drains = true → after.phase.drains = true) := by
  cases h with
  | retired h | stopping h =>
    cases hafter
    exact ⟨nofun, fun _ => rfl⟩
  | uncreated hcreation hresolve h => cases hafter
  | shifted h =>
    cases hafter
    cases h with
    | stopAccepted hcreation hwitness | stopRefused hcreation hwitness hrefused hfailure
    | stopObserved hchild => exact ⟨nofun, fun _ => rfl⟩
    | restored hcreation hwitness hrefused hfailure =>
      exact absurd ⟨_, _, _, _, rfl, rfl, hcreation, hwitness, hrefused⟩ hnot
    | _ => exact ⟨fun _ => rfl, nofun⟩
  | ended h => cases hafter
  | continued h =>
    unfold settled at hafter
    split at hafter
    · cases hafter
    · cases hafter
      exact ⟨nofun, fun _ => rfl⟩

theorem DynamicEntry.swept_drains (entry : DynamicEntry S Message) (heap : ℕ) :
    (entry.swept heap).phase.drains = true := by
  obtain ⟨generation, operation, creation, phase⟩ := entry
  cases phase <;> rfl

omit [LinearOrder Key] in
theorem Evolves.unasked {entry} (h : Evolves key event entry after) (hnot : ¬ entry.Restored event)
    (hunasked : after.phase.unasked = true) :
    entry.phase.unasked = true := by
  induction h with
  | kept => exact hunasked
  | stepped hstep hafter => exact (hstep.goesOn hafter hnot).1 hunasked
  | authorized hbefore hauthorized ih =>
    refine ih hnot ?_
    cases hauthorized <;> rfl
  | @swept entry heap hevent =>
    obtain ⟨generation, operation, creation, phase⟩ := entry
    cases phase <;> first | rfl | exact hunasked

omit [LinearOrder Key] in
theorem Evolves.drains {entry} (h : Evolves key event entry after) (hnot : ¬ entry.Restored event)
    (hdrains : entry.phase.drains = true) : after.phase.drains = true := by
  induction h with
  | kept => exact hdrains
  | stepped hstep hafter => exact (hstep.goesOn hafter hnot).2 hdrains
  | authorized hbefore hauthorized ih =>
    have hmiddle := ih hnot hdrains
    cases hauthorized <;> cases hmiddle
  | swept hevent => exact DynamicEntry.swept_drains _ _

/-! ### The table -/

/-- Every entry of a supervisor that is shutting down drains. -/
def DynamicSupervisor.Drains (self : DynamicSupervisor Key S Message) : Prop :=
  ∀ deadline, self.availability = .shuttingDown deadline →
    ∀ key entry, self.services.get? key = some entry → entry.phase.drains = true

/-- No event during the shutdown makes an entry available again. -/
def DynamicSupervisor.Unrestored (self : DynamicSupervisor Key S Message)
    (event : DynamicSupervisorEvent Key S Message) : Prop :=
  ∀ deadline, self.availability = .shuttingDown deadline → self.restored event = []

theorem DynamicSupervisor.Unrestored.entry (h : self.Unrestored event) (hsound : Sound self)
    {deadline} (hdown : self.availability = .shuttingDown deadline) {entry}
    (hentry : self.services.get? key = some entry) :
    ¬ entry.Restored event := by
  intro hrestored
  have hnone := h deadline hdown
  rw [hsound.restored hentry hrestored] at hnone
  cases hnone

/-- A table whose entries all drain has nobody who waits. -/
theorem authorizeWaiting_drains
    (h : ∀ key entry, self.services.get? key = some entry → entry.phase.drains = true) :
    authorizeWaiting self = (self, []) := by
  rcases authorizeWaiting_cases self with hnone | ⟨key, entry, after, operation, hentry, hgiven, -⟩
  · exact hnone
  · have hdrains := h key entry hentry
    cases hgiven <;> cases hdrains

/-- The availability a turn leaves. -/
theorem Turn.availability (h : Turn self event acted) :
    acted.1.availability = self.availability ∨
      (∃ deadline deadline', self.availability = .shuttingDown deadline ∧
        acted.1 = { self with availability := .shuttingDown deadline' } ∧
        ((∃ input, event = .shutdownScheduleSettled input ∧
            deadline.acceptSchedule input = some deadline') ∨
          ∃ elapsed, event = .shutdownElapsed elapsed ∧
            deadline.acceptElapsed elapsed = some deadline')) ∨
      event = .shutdown ∧ ∃ drain, self.availability = .accepting drain ∧
        acted = beginShutdown self := by
  cases h with
  | @moved _ key old outcome operations _ _ actions _ _ _ _ _ hauthorizes _ =>
    left
    have hmoved : (self.moved key outcome operations).availability = self.availability := by
      unfold DynamicSupervisor.moved
      cases outcome.after <;> rfl
    rcases hauthorizes with h | h
    · cases h
      exact hmoved
    · rcases authorizeWaiting_cases (self.moved key outcome operations) with
        hnone | ⟨other, old, new, operation, -, -, heq⟩
      · rw [hnone] at h
        cases h
        exact hmoved
      · rw [heq] at h
        cases h
        exact hmoved
  | timed havailability hdeadline => exact .inr (.inl ⟨_, _, havailability, rfl, hdeadline⟩)
  | swept haccepting => exact .inr (.inr ⟨rfl, _, haccepting, rfl⟩)
  | _ => exact .inl rfl

/-- **A supervisor that is shutting down goes on draining**, as long as nothing is restored. -/
theorem Turn.drains (h : Turn self event acted) (hsound : Sound self) (hnot : self.Unrestored event)
    (hdrains : self.Drains) :
    acted.1.Drains := by
  intro deadline hdeadline key entry hentry
  rcases h.entry_before hentry with ⟨old, hold, hmoves⟩ | ⟨-, ⟨drain, haccepting⟩, -⟩
  · -- Either the supervisor was shutting down before, or this is the sweep.
    have hkept : ∀ before, self.availability = .shuttingDown before →
        entry.phase.drains = true := fun before hbefore =>
      hmoves.drains (hnot.entry hsound hbefore hold) (hdrains before hbefore key old hold)
    rcases h.availability with hsame | ⟨before, -, hbefore, -⟩ | ⟨-, drain, haccepting, rfl⟩
    · exact hkept deadline (hsame ▸ hdeadline)
    · exact hkept before hbefore
    · obtain ⟨old, heap, hold, rfl⟩ := (beginShutdown_entries haccepting).2 key entry hentry
      exact DynamicEntry.swept_drains _ _
  · rw [haccepting] at hdeadline
    cases hdeadline

/-! ### Operations -/

/-- The shutdown of the supervisor asks the proxy of the entry to shut down. -/
def DynamicEntryPhase.askable : DynamicEntryPhase S Message → Bool
  | .waitingForStartup _ _ => true
  | .waitingForProxyInput _ _ => true
  | .waitingForProxyOutcome _ _ => true
  | .available _ _ _ => true
  | .replacementQueued _ _ _ => true
  | .replacementAwaitingReceipt _ _ _ => true
  | .replacementAwaitingOutcome _ _ _ => true
  | _ => false

theorem shutdown_operation (phase : DynamicEntryPhase S Message) (creation operation heap : ℕ) :
    (phase.shutdown creation operation heap).2.1
      = if phase.askable then some (.shutdown creation heap) else none := by
  cases phase <;> rfl

omit [LinearOrder Key] in
/-- **The shutdown of the supervisor asks every proxy once**, in key order. -/
theorem accumulate_operations (entries : List (Key × DynamicEntry S Message))
    (sweep : Sweep Key S Message) :
    (OrderedMap.accumulate sweepEntry entries sweep).2.operations.map (·.creation)
        = sweep.operations.map (·.creation) ++
          (entries.filter fun service => service.2.phase.askable).map (·.2.creation) ∧
      ∀ operation ∈ (OrderedMap.accumulate sweepEntry entries sweep).2.operations,
        operation ∈ sweep.operations ∨ operation.closes = true := by
  induction entries generalizing sweep with
  | nil => exact ⟨by simp [OrderedMap.accumulate], fun operation h => .inl h⟩
  | cons head rest ih =>
    obtain ⟨key, entry⟩ := head
    have hsweep : (sweepEntry key entry sweep).2.operations
        = sweep.operations ++ (if entry.phase.askable
            then some (.shutdown entry.creation sweep.heap) else none).toList := by
      rw [← shutdown_operation entry.phase entry.creation entry.operation sweep.heap]
      rfl
    obtain ⟨hcreations, hcloses⟩ := ih (sweepEntry key entry sweep).2
    simp only [OrderedMap.accumulate]
    rw [hcreations, hsweep]
    constructor
    · by_cases haskable : entry.phase.askable = true
      · simp [haskable, ProxyOperation.shutdown]
      · simp [haskable]
    · intro operation hoperation
      rcases hcloses operation hoperation with hearlier | hcloses
      · rw [hsweep] at hearlier
        rcases List.mem_append.mp hearlier with hearlier | hhere
        · exact .inl hearlier
        · right
          split at hhere
          · obtain rfl := List.mem_singleton.mp hhere
            rfl
          · cases hhere
      · exact .inr hcloses

/-- The creations of a table are distinct. -/
theorem Sound.creations_nodup (h : Sound self) :
    (self.services.entries.map (·.2.creation)).Nodup := by
  refine List.Pairwise.map _ ?_ (List.Pairwise.imp_of_mem ?_ self.services.ordered)
    (R := fun a b : Key × DynamicEntry S Message => a.2.creation ≠ b.2.creation)
  · exact fun a b h => h
  · intro a b ha hb hlt hsame
    have hkey := h.distinct a.1 b.1 a.2 b.2 (OrderedMap.mem_entries.mp ha)
      (OrderedMap.mem_entries.mp hb) hsame
    exact absurd hkey (ne_of_lt hlt)

/-- The proxies that the actions ask to shut down. -/
def DynamicActions.asked (actions : DynamicActions Key S Message) : List ℕ :=
  (actions.proxyOperations.filter (·.closes)).map (·.creation)

omit [LinearOrder Key] in
theorem Authorized.opens {entry operation} (h : Authorized heap entry after operation) :
    operation.closes = false := by
  cases h <;> rfl

theorem Authorizes.opens {self' waiting} (h : Authorizes self (self', waiting)) :
    waiting.filter (·.closes) = [] := by
  rcases h with h | h
  · cases h
    rfl
  · rcases authorizeWaiting_cases self with hnone | ⟨key, old, new, operation, -, hgiven, heq⟩
    · rw [hnone] at h
      cases h
      rfl
    · rw [heq] at h
      cases h
      simp [hgiven.opens]

/-- **A turn asks a proxy to shut down when it leaves its entry stopping or retiring.** -/
theorem Turn.asked (h : Turn self event acted) (hsound : Sound self)
    (hactions : acted.2 = .ok actions) :
    actions.asked.Nodup ∧ ∀ creation ∈ actions.asked, ∃ key entry after,
      self.services.get? key = some entry ∧ entry.creation = creation ∧
        entry.phase.unasked = true ∧ acted.1.services.get? key = some after ∧
          after.phase.unasked = false := by
  cases h with
  | refused => cases hactions
  | kept hkeeps =>
    obtain ⟨hquiet, hstep, hretired⟩ := hkeeps.quiet
    cases hactions
    simp [DynamicActions.asked, hquiet.operations]
  | timed havailability hdeadline
  | begun haccepting habsent hcapacity hgeneration hoperation hcreation =>
    cases hactions
    simp [DynamicActions.asked]
  | @moved _ key entry outcome operations self' waiting _ hentry _ hstep _ _ hauthorizes hdone =>
    cases hactions
    have hoperations : actions.asked = (outcome.operations.filter (·.closes)).map (·.creation) := by
      rw [DynamicActions.asked, hdone.2.2.2.2.1, List.filter_append, hauthorizes.opens,
        List.append_nil]
    rw [hoperations]
    rcases hstep.operations with hnone | ⟨hone, hunasked, after, hafter, hasked⟩
    · simp [hnone]
    · have hthere : (self.moved key outcome operations).services.get? key = some after := by
        simp [hafter]
      obtain ⟨final, hfinal, hgiven⟩ := hauthorizes.after hthere
      -- What was just asked is not waiting, so it is not given a slot.
      have hfinal' : final = after := by
        rcases hgiven with rfl | ⟨heap, operation, hgiven⟩
        · rfl
        · cases hgiven <;> cases hasked
      subst hfinal'
      rw [hone]
      constructor
      · exact List.nodup_singleton _
      · intro creation hcreation
        obtain rfl : creation = entry.creation := by
          simpa [ProxyOperation.shutdown, ProxyOperation.closes] using hcreation
        exact ⟨key, entry, final, hentry, rfl, hunasked, hfinal, hasked⟩
  | @swept drain haccepting =>
    obtain ⟨hcreations, hcloses⟩ :=
      accumulate_operations self.services.entries ⟨[], [], self.heap⟩
    have hswept : actions.asked
        = (self.services.entries.filter fun service => service.2.phase.askable).map
          (·.2.creation) := by
      rw [beginShutdown, haccepting] at hactions
      cases hactions
      have hfilter : (OrderedMap.accumulate sweepEntry self.services.entries
          ⟨[], [], self.heap⟩).2.operations.filter (·.closes)
            = (OrderedMap.accumulate sweepEntry self.services.entries
                ⟨[], [], self.heap⟩).2.operations :=
        List.filter_eq_self.mpr fun operation hoperation =>
          (hcloses operation hoperation).resolve_left (by simp)
      show ((OrderedMap.accumulate sweepEntry self.services.entries
        ⟨[], [], self.heap⟩).2.operations.filter (·.closes)).map (·.creation) = _
      rw [hfilter, hcreations]
      rfl
    rw [hswept]
    constructor
    · exact hsound.creations_nodup.sublist (List.Sublist.map _ List.filter_sublist)
    · intro creation hcreation
      obtain ⟨⟨key, entry⟩, hmem, rfl⟩ := List.mem_map.mp hcreation
      obtain ⟨hentry, haskable⟩ := List.mem_filter.mp hmem
      have hthere := OrderedMap.mem_entries.mp hentry
      obtain ⟨heap, hafter⟩ := (beginShutdown_entries haccepting).1 key entry hthere
      refine ⟨key, entry, entry.swept heap, hthere, rfl, ?_, hafter, ?_⟩
      · obtain ⟨generation, operation, creation, phase⟩ := entry
        cases phase <;> first | rfl | cases haskable
      · obtain ⟨generation, operation, creation, phase⟩ := entry
        cases phase <;> first | rfl | cases haskable

/-- **While a supervisor shuts down it asks for nothing else**: no creation and no worker input. -/
theorem Turn.closes (h : Turn self event acted) (hsound : Sound self) (hnot : self.Unrestored event)
    (hdrains : self.Drains) (hactions : acted.2 = .ok actions) {deadline}
    (hdown : acted.1.availability = .shuttingDown deadline) :
    actions.creations = [] ∧ ∀ operation ∈ actions.proxyOperations, operation.closes = true := by
  have hsame := h.availability
  cases h with
  | refused => cases hactions
  | kept hkeeps =>
    obtain ⟨hquiet, hstep, hretired⟩ := hkeeps.quiet
    cases hactions
    exact ⟨hquiet.creations, by simp [hquiet.operations]⟩
  | timed havailability hdeadline =>
    cases hactions
    exact ⟨rfl, by simp⟩
  | begun haccepting habsent hcapacity hgeneration hoperation hcreation =>
    have haccepts := haccepting.symm.trans hdown
    cases haccepts
  | @moved _ key entry outcome operations self' waiting _ hentry _ hstep _ _ hauthorizes hdone =>
    cases hactions
    have hbefore : ∃ before, self.availability = .shuttingDown before := by
      rcases hsame with hsame | ⟨before, after, hbefore, -⟩ | ⟨hevent, drain, -⟩
      · exact ⟨deadline, hsame.symm.trans hdown⟩
      · exact ⟨before, hbefore⟩
      · subst hevent
        cases hstep with
        | retired h => cases h
        | stopping h => cases h
        | shifted h => cases h
        | ended h => cases h
        | continued h => cases h
    obtain ⟨before, hbefore⟩ := hbefore
    have hmoved : ∀ other service, (self.moved key outcome operations).services.get? other
        = some service → service.phase.drains = true := by
      intro other service hservice
      rw [moved_get?] at hservice
      split at hservice
      · exact (hstep.goesOn hservice (hnot.entry hsound hbefore hentry)).2
          (hdrains before hbefore key entry hentry)
      · exact hdrains before hbefore other service hservice
    have hnobody : waiting = [] := by
      rcases hauthorizes with h | h
      · cases h
        rfl
      · rw [authorizeWaiting_drains hmoved] at h
        cases h
        rfl
    refine ⟨hdone.2.2.1, ?_⟩
    rw [hdone.2.2.2.2.1, hnobody, List.append_nil]
    rcases hstep.operations with hnone | ⟨hone, -⟩
    · simp [hnone]
    · simp [hone, ProxyOperation.shutdown, ProxyOperation.closes]
  | @swept drain haccepting =>
    rw [beginShutdown, haccepting] at hactions
    cases hactions
    refine ⟨rfl, fun operation hoperation => ?_⟩
    exact ((accumulate_operations self.services.entries ⟨[], [], self.heap⟩).2 operation
      hoperation).resolve_left (by simp)

/-! ### Answers and the last step -/

/-- The number of replies. -/
def DynamicActions.replies (actions : DynamicActions Key S Message) : ℕ :=
  actions.startReplies.length + actions.replaceReplies.length + actions.stopReplies.length +
    actions.queryReplies.length + actions.cancelReplies.length

/-- **A command is refused with one reply**: that the supervisor is shutting down, that it drains,
or what is known of the key. -/
inductive Refuses (supervisor : DynamicSupervisor Key S Message)
    (actions : DynamicActions Key S Message) : DynamicCommand Key S → Prop
  | start {key : Key} {submission replyTo}
      (h : actions.startReplies = [(replyTo, .error ⟨key, submission, .shuttingDown⟩)]) :
      Refuses supervisor actions (.start key submission replyTo)
  | replace {key : Key} {submission replyTo}
      (h : actions.replaceReplies = [(replyTo, .error ⟨key, submission, .shuttingDown⟩)]) :
      Refuses supervisor actions (.replace key submission replyTo)
  | stop {key : Key} {replyTo} (h : actions.stopReplies = [(replyTo, .error (.shuttingDown key))]) :
      Refuses supervisor actions (.stop key replyTo)
  | query {key : Key} {replyTo}
      (h : actions.queryReplies = [(replyTo,
        if (supervisor.services.get? key).isSome then .known key .draining else .unknown key)]) :
      Refuses supervisor actions (.query key replyTo)
  | cancel {authority replyTo} (h : actions.cancelReplies = [(replyTo, .draining authority)]) :
      Refuses supervisor actions (.cancel authority replyTo)

/-- The deadline has elapsed, or could not be scheduled. -/
def ShutdownOver (deadline : ShutdownDeadline) : Bool :=
  match deadline with
  | .notScheduled _ => true
  | .elapsed _ => true
  | _ => false

/-- The event ends a deadline: the exact timer that was scheduled elapses, or the exact schedule is
settled and not accepted. -/
def EndsDeadline (deadline : ShutdownDeadline) (event : DynamicSupervisorEvent Key S Message) :
    Prop :=
  match deadline with
  | .waiting key => ∃ elapsed, event = .shutdownElapsed elapsed ∧ key.admitElapsed elapsed = true
  | .scheduling key => ∃ input, event = .shutdownScheduleSettled input ∧
      key.acceptsResult input = true ∧ ∀ receipt, input ≠ .attempted (.accepted receipt)
  | _ => False

/-- **The last step of a transition during the shutdown.** -/
theorem finished_iff {deadline} (h : self.availability = .shuttingDown deadline) :
    self.finished = true ↔ self.services.entries = [] ∨ ShutdownOver deadline = true := by
  rw [DynamicSupervisor.finished, h]
  cases deadline <;> simp [ShutdownOver]

/-- **A command is refused in its own transition**, and the supervisor stays as it is. -/
theorem transition_refuses {deadline} (h : self.availability = .shuttingDown deadline)
    (message : DynamicCommand Key S) :
    (self.transition (.command message)).1 = self ∧ ∃ actions,
      (self.transition (.command message)).2 = .ok actions ∧ Refuses self actions message ∧
        actions.replies = 1 := by
  have hcommand : command self message = commandWhileShuttingDown self message := by
    unfold command
    rw [h]
  have hkeeps : ∀ actions : DynamicActions Key S Message,
      commandWhileShuttingDown self message = (self, .ok actions) →
        Refuses self actions message ∧ actions.replies = 1 := by
    intro actions hactions
    cases message with
    | start key submission replyTo =>
      cases hactions
      exact ⟨.start rfl, rfl⟩
    | replace key submission replyTo =>
      cases hactions
      exact ⟨.replace rfl, rfl⟩
    | stop key replyTo =>
      cases hactions
      exact ⟨.stop rfl, rfl⟩
    | query key replyTo =>
      cases hactions
      refine ⟨.query ?_, rfl⟩
      cases self.services.get? key <;> rfl
    | cancel authority replyTo =>
      cases hactions
      exact ⟨.cancel rfl, rfl⟩
  have hthere : ∃ actions, commandWhileShuttingDown self message = (self, .ok actions) := by
    cases message <;> exact ⟨_, rfl⟩
  obtain ⟨actions, hactions⟩ := hthere
  obtain ⟨hrefuses, hreplies⟩ := hkeeps actions hactions
  have htransition : self.transition (.command message)
      = (self, .ok (if self.finished then { actions with step := .stop } else actions)) := by
    rw [DynamicSupervisor.transition]
    simp only [hcommand, hactions, applyShutdownStep]
  rw [htransition]
  refine ⟨rfl, _, rfl, ?_⟩
  split
  · refine ⟨?_, hreplies⟩
    cases hrefuses with
    | start h => exact .start h
    | replace h => exact .replace h
    | stop h => exact .stop h
    | query h => exact .query h
    | cancel h => exact .cancel h
  · exact ⟨hrefuses, hreplies⟩

theorem acceptSchedule_over {deadline deadline' : ShutdownDeadline} {input}
    (h : deadline.acceptSchedule input = some deadline') :
    ∃ key, deadline = .scheduling key ∧ key.acceptsResult input = true ∧
      (ShutdownOver deadline' = true ↔ ∀ receipt, input ≠ .attempted (.accepted receipt)) := by
  unfold ShutdownDeadline.acceptSchedule at h
  split at h
  · rename_i expected
    split at h
    · rename_i haccepts
      refine ⟨expected, rfl, haccepts, ?_⟩
      split at h
      · cases h
        simp [ShutdownOver]
      · rename_i hnot
        cases h
        exact ⟨fun _ receipt heq => hnot receipt heq, fun _ => rfl⟩
    · cases h
  · cases h

theorem acceptElapsed_over {deadline deadline' : ShutdownDeadline} {elapsed}
    (h : deadline.acceptElapsed elapsed = some deadline') :
    ∃ key, deadline = .waiting key ∧ key.admitElapsed elapsed = true ∧
      ShutdownOver deadline' = true := by
  unfold ShutdownDeadline.acceptElapsed at h
  split at h
  · rename_i expected
    split at h
    · rename_i hadmits
      cases h
      exact ⟨expected, rfl, hadmits, rfl⟩
    · cases h
  · cases h

theorem begin_deadline (drain : ActorDrainPolicy) :
    ShutdownOver (ShutdownDeadline.begin drain).1 = false := by
  cases drain <;> rfl

theorem beginShutdown_availability {drain} (h : self.availability = .accepting drain) :
    (beginShutdown self).1.availability = .shuttingDown (ShutdownDeadline.begin drain).1 := by
  rw [beginShutdown, h]

/-- The event that ends a deadline is taken. -/
theorem transition_endsDeadline {deadline} (h : self.availability = .shuttingDown deadline)
    (hends : EndsDeadline deadline event) :
    ∃ after, (self.transition event).1.availability = .shuttingDown after ∧
      ShutdownOver after = true := by
  cases deadline with
  | waiting key =>
    obtain ⟨elapsed, rfl, hadmits⟩ := hends
    refine ⟨.elapsed elapsed, ?_, rfl⟩
    simp [DynamicSupervisor.transition, h, ShutdownDeadline.acceptElapsed, hadmits]
  | scheduling key =>
    obtain ⟨input, rfl, haccepts, hnot⟩ := hends
    refine ⟨.notScheduled input, ?_, rfl⟩
    simp only [DynamicSupervisor.transition, h, ShutdownDeadline.acceptSchedule, haccepts, if_true,
      applyShutdownStep_fst]
  | _ => exact absurd hends id

/-- **The deadline is over since the transition of its own timer or settlement.** -/
theorem Entry.Valid.deadline {entry : Entry Key S Message} (h : entry.Valid) {deadline}
    (hafter : entry.after.availability = .shuttingDown deadline) :
    ShutdownOver deadline = true ↔ ∃ before, entry.before.availability = .shuttingDown before ∧
      (ShutdownOver before = true ∨ EndsDeadline before entry.event) := by
  obtain ⟨acted, hturn, hsame, -⟩ := h.turn
  have hacted := hafter
  rw [← hsame] at hacted
  constructor
  · intro hover
    rcases hturn.availability with
      hkept | ⟨before, after, hbefore, heq, hdeadline⟩ | ⟨-, drain, haccepting, rfl⟩
    · exact ⟨deadline, hkept.symm.trans hacted, .inl hover⟩
    · rw [heq] at hacted
      obtain rfl := SupervisorAvailability.shuttingDown.inj hacted
      refine ⟨before, hbefore, .inr ?_⟩
      rcases hdeadline with ⟨input, hevent, haccepts⟩ | ⟨elapsed, hevent, haccepts⟩
      · obtain ⟨key, rfl, hexact, hend⟩ := acceptSchedule_over haccepts
        exact ⟨input, hevent, hexact, hend.mp hover⟩
      · obtain ⟨key, rfl, hexact, -⟩ := acceptElapsed_over haccepts
        exact ⟨elapsed, hevent, hexact⟩
    · rw [beginShutdown_availability haccepting] at hacted
      obtain rfl := SupervisorAvailability.shuttingDown.inj hacted
      rw [begin_deadline] at hover
      cases hover
  · rintro ⟨before, hbefore, hover | hends⟩
    · rcases hturn.availability with
        hkept | ⟨other, after, hother, heq, hdeadline⟩ | ⟨-, drain, haccepting, rfl⟩
      · rw [hkept, hbefore] at hacted
        obtain rfl := SupervisorAvailability.shuttingDown.inj hacted
        exact hover
      · -- A deadline that is over takes neither a settlement nor a timer.
        obtain rfl := SupervisorAvailability.shuttingDown.inj (hbefore.symm.trans hother)
        rcases hdeadline with ⟨input, -, haccepts⟩ | ⟨elapsed, -, haccepts⟩
        · obtain ⟨key, rfl, -⟩ := acceptSchedule_over haccepts
          cases hover
        · obtain ⟨key, rfl, -⟩ := acceptElapsed_over haccepts
          cases hover
      · exact absurd (hbefore.symm.trans haccepting) (by simp)
    · obtain ⟨after, hthere, hover⟩ := transition_endsDeadline hbefore hends
      have hentry : entry.after = (entry.before.transition entry.event).1 := by
        rw [h.moves]
        rfl
      rw [hentry, hthere] at hafter
      obtain rfl := SupervisorAvailability.shuttingDown.inj hafter
      exact hover

/-! ### Runs -/

/-- **What a transition that ends in a supervisor shutting down does**: it asks for no creation and
for nothing but shutdowns, leaves no entry available, refuses a command without a change, and stops
exactly when the table is empty or the deadline is over. -/
structure Entry.Drained (entry : Entry Key S Message) (deadline : ShutdownDeadline) : Prop where
  creations : entry.actions.creations = []
  operations : ∀ operation ∈ entry.actions.proxyOperations, operation.control = .shutdown
  unavailable : ∀ key service, entry.after.services.get? key = some service →
    ∀ proxy available latest, service.phase ≠ .available proxy available latest
  refuses : ∀ command, entry.event = .command command →
    entry.after = entry.before ∧ ∃ actions, entry.result = .ok actions ∧
      Refuses entry.before actions command ∧ actions.replies = 1
  back : ∀ input, entry.result = .error input → input = entry.event ∧ entry.after = entry.before
  stops : ∀ actions, entry.result = .ok actions →
    (actions.step = .stop ↔ entry.after.services.entries = [] ∨ ShutdownOver deadline = true)
  ended : ShutdownOver deadline = true ↔ ∃ before, entry.before.availability = .shuttingDown before ∧
    (ShutdownOver before = true ∨ EndsDeadline before entry.event)

/-- Turns go on, until the last step is applied. -/
theorem Turn.continues (h : Turn self event acted)
    (hactions : acted.2 = .ok actions) : actions.step = .continue' := by
  cases h with
  | refused => cases hactions
  | kept hkeeps =>
    obtain ⟨hquiet, hstep, hretired⟩ := hkeeps.quiet
    cases hactions
    exact hstep
  | moved hentry haccepting hstep hexit hoperation hauthorizes hdone =>
    cases hactions
    exact hdone.2.2.2.1
  | swept haccepting =>
    rw [beginShutdown, haccepting] at hactions
    cases hactions
    rfl
  | _ =>
    cases hactions
    rfl

/-- What is handed back is the event, and nothing has changed. -/
theorem Turn.back {input} (h : Turn self event acted) (hback : acted.2 = .error input) :
    input = event ∧ acted.1 = self := by
  cases h with
  | refused =>
    cases hback
    exact ⟨rfl, rfl⟩
  | swept haccepting =>
    rw [beginShutdown, haccepting] at hback
    cases hback
  | _ => cases hback

theorem ProxyOperation.closes_iff {operation : ProxyOperation S} :
    operation.closes = true ↔ operation.control = .shutdown := by
  obtain ⟨creation, control, token⟩ := operation
  cases control <;> simp [ProxyOperation.closes]

theorem Entry.Valid.drained {entry : Entry Key S Message} (h : entry.Valid)
    (hnot : entry.before.Unrestored entry.event) (hdrains : entry.before.Drains) {deadline}
    (hdown : entry.after.availability = .shuttingDown deadline) :
    entry.Drained deadline := by
  have hover := h.deadline hdown
  have hfinished := finished_iff hdown
  obtain ⟨acted, hturn, hsame, hresult⟩ := h.turn
  have hacted := hdown
  rw [← hsame] at hacted
  have hlanes : entry.actions.creations = [] ∧
      ∀ operation ∈ entry.actions.proxyOperations, operation.closes = true := by
    rcases hresult with ⟨input, -, hresult⟩ | ⟨actions, hok, hresult⟩
    · rw [Entry.actions, hresult]
      exact ⟨rfl, by simp⟩
    · have hcloses := hturn.closes h.sound hnot hdrains hok hacted
      rw [Entry.actions, hresult]
      dsimp only
      split <;> exact hcloses
  constructor
  · exact hlanes.1
  · exact fun operation hoperation => ProxyOperation.closes_iff.mp (hlanes.2 operation hoperation)
  · intro key service hservice proxy available latest hphase
    have hstays := hturn.drains h.sound hnot hdrains
    rw [hsame] at hstays
    have := hstays deadline hdown key service hservice
    rw [hphase] at this
    cases this
  · intro command hcommand
    have hbefore : entry.before.availability = .shuttingDown deadline := by
      rcases hturn.availability with hkept | ⟨_, _, _, _, hdeadline⟩ | ⟨hevent, -⟩
      · exact hkept.symm.trans hacted
      · rw [hcommand] at hdeadline
        obtain ⟨input, hevent, -⟩ | ⟨elapsed, hevent, -⟩ := hdeadline <;> cases hevent
      · rw [hcommand] at hevent
        cases hevent
    obtain ⟨hafter, actions, hactions, hrefuses, hreplies⟩ := transition_refuses hbefore command
    rw [← hcommand] at hafter hactions
    rw [h.moves]
    exact ⟨hafter, actions, hactions, hrefuses, hreplies⟩
  · intro input hinput
    rcases hresult with ⟨other, herror, hresult⟩ | ⟨actions, hok, hresult⟩
    · obtain rfl := Except.error.inj (hinput.symm.trans hresult)
      obtain ⟨hevent, hkept⟩ := hturn.back herror
      exact ⟨hevent, hsame.symm.trans hkept⟩
    · rw [hinput] at hresult
      cases hresult
  · intro actions hactions
    rcases hresult with ⟨input, -, hresult⟩ | ⟨before, hok, hresult⟩
    · rw [hactions] at hresult
      cases hresult
    · obtain rfl := Except.ok.inj (hactions.symm.trans hresult)
      rw [← hfinished]
      cases hfin : entry.after.finished with
      | true => simp
      | false => simp [hturn.continues hok]
  · exact hover

/-- **No shutdown of an entry that was available is refused while the supervisor shuts down.** -/
def Journal.Unrestored (journal : Journal Key S Message) : Prop :=
  ∀ entry ∈ journal.entries, entry.before.Unrestored entry.event

theorem Journal.Coherent.drains {config} {journal : Journal Key S Message}
    (h : journal.Coherent (.new config)) (hunrestored : journal.Unrestored) :
    journal.supervisor.Drains := by
  refine h.trail.invariant (P := DynamicSupervisor.Drains) ?_ ?_
  · intro deadline hdeadline
    cases hdeadline
  · intro entry hentry hdrains
    have hvalid := h.valid entry hentry
    obtain ⟨acted, hturn, hsame, -⟩ := hvalid.turn
    rw [← hsame]
    exact hturn.drains hvalid.sound (hunrestored entry hentry) hdrains

/-- The proxy of this creation may still be asked to shut down. -/
def DynamicSupervisor.MayAsk (self : DynamicSupervisor Key S Message) (creation : ℕ) : Prop :=
  ¬ self.creations.Past creation ∨ ∃ key entry, self.services.get? key = some entry ∧
    entry.creation = creation ∧ entry.phase.unasked = true

/-- **Once asked, a proxy is not asked again** before its entry is available again. -/
theorem Entry.Valid.mayAsk {entry : Entry Key S Message} (h : entry.Valid) {creation}
    (hmay : entry.after.MayAsk creation) :
    entry.before.MayAsk creation ∨ entry.before.restored entry.event = [creation] := by
  rcases hmay with hfresh | ⟨key, service, hservice, rfl, hunasked⟩
  · exact .inl (.inl fun hpast => hfresh (h.past hpast))
  · rcases h.entry_before hservice with ⟨old, hold, hmoves⟩ | ⟨-, -, hissue⟩
    · by_cases hrestored : old.Restored entry.event
      · right
        rw [h.sound.restored hold hrestored, hmoves.kept_identity.1]
      · exact .inl (.inr ⟨key, old, hold, hmoves.kept_identity.1.symm,
          hmoves.unasked hrestored hunasked⟩)
    · exact .inl (.inl fun hpast => absurd (hpast.ne_issue hissue) (lt_irrefl _))

theorem Entry.Valid.asks {entry : Entry Key S Message} (h : entry.Valid) :
    entry.actions.asked.Nodup ∧ ∀ creation ∈ entry.actions.asked,
      entry.before.MayAsk creation ∧ ¬ entry.after.MayAsk creation := by
  obtain ⟨acted, hturn, hsame, hresult⟩ := h.turn
  rcases hresult with ⟨input, -, hresult⟩ | ⟨actions, hok, hresult⟩
  · rw [Entry.actions, hresult]
    exact ⟨List.nodup_nil, by simp [DynamicActions.asked]⟩
  · have hlane : entry.actions.asked = actions.asked := by
      rw [Entry.actions, hresult]
      dsimp only
      split <;> rfl
    obtain ⟨hnodup, hasked⟩ := hturn.asked h.sound hok
    rw [hlane]
    refine ⟨hnodup, fun creation hcreation => ?_⟩
    obtain ⟨key, old, after, hold, rfl, hunasked, hafter, hdone⟩ := hasked creation hcreation
    refine ⟨.inr ⟨key, old, hold, rfl, hunasked⟩, ?_⟩
    rw [hsame] at hafter
    rintro (hfresh | ⟨other, service, hservice, hcreation', hunasked'⟩)
    · exact hfresh (h.past (h.sound.past key old hold))
    · have hkept : after.creation = old.creation := by
        rcases h.entry_after hold with ⟨after', hafter', hmoves⟩ | ⟨hgone, -⟩
        · obtain rfl := Option.some.inj (hafter.symm.trans hafter')
          exact hmoves.kept_identity.1
        · exact absurd (hgone.symm.trans hafter) (by simp)
      obtain rfl := h.sound_after.distinct other key service after hservice hafter
        (hcreation'.trans hkept.symm)
      obtain rfl := Option.some.inj (hservice.symm.trans hafter)
      rw [hdone] at hunasked'
      cases hunasked'

open Classical in
/-- **A proxy is asked once more at most than its entry became available again.** -/
theorem Journal.Coherent.asked_count {config} {journal : Journal Key S Message}
    (h : journal.Coherent (.new config)) (creation : ℕ) :
    (journal.entries.map fun entry => entry.actions.asked.count creation).sum
      ≤ 1 + (journal.entries.map fun entry =>
          (entry.before.restored entry.event).count creation).sum := by
  have hbudget := h.trail.budget (fun self => if self.MayAsk creation then 1 else 0)
    (fun entry => entry.actions.asked.count creation)
    (fun entry => (entry.before.restored entry.event).count creation) ?_
  · have hfirst : (if (DynamicSupervisor.new config : DynamicSupervisor Key S Message).MayAsk
        creation then 1 else 0) ≤ 1 := by
      split <;> omega
    omega
  · intro entry hentry
    have hvalid := h.valid entry hentry
    obtain ⟨hnodup, hasks⟩ := hvalid.asks
    have hrenews : entry.after.MayAsk creation → entry.before.MayAsk creation ∨
        entry.before.restored entry.event = [creation] := hvalid.mayAsk
    by_cases hasked : creation ∈ entry.actions.asked
    · obtain ⟨hbefore, hafter⟩ := hasks creation hasked
      simp only [hbefore, hafter, if_true, if_false, List.count_eq_one_of_mem hnodup hasked]
      omega
    · simp only [List.count_eq_zero_of_not_mem hasked]
      by_cases hafter : entry.after.MayAsk creation
      · rcases hrenews hafter with hbefore | hrestored
        · simp only [hbefore, hafter, if_true]
          omega
        · simp only [hafter, if_true, hrestored, List.count_singleton_self]
          omega
      · simp only [hafter, if_false]
        omega

/-- **The shutdown of a supervisor is monotone and exact** in every run in which no shutdown of an
entry that was available is refused while it shuts down.  A proxy is asked to shut down at most
once, and once more each time its shutdown is refused and its entry becomes available again. -/
theorem shutdown_drains (config : Config) (events : List (DynamicSupervisorEvent Key S Message)) :
    (∀ creation, ((run config events).entries.map fun entry =>
        entry.actions.asked.count creation).sum
      ≤ 1 + ((run config events).entries.map fun entry =>
          (entry.before.restored entry.event).count creation).sum) ∧
    ((run config events).Unrestored → ∀ entry ∈ (run config events).entries, ∀ deadline,
      entry.after.availability = .shuttingDown deadline → entry.Drained deadline) := by
  have h := run_coherent config events
  refine ⟨h.asked_count, fun hunrestored entry hentry deadline hdown => ?_⟩
  obtain ⟨before, after, heq⟩ := List.append_of_mem hentry
  have hprior := (h.prior heq).drains fun earlier hearlier =>
    hunrestored earlier (by rw [heq]; simp [hearlier])
  exact (h.valid entry hentry).drained (hunrestored entry hentry) hprior hdown

/-- A service that is ready is stopped, and the supervisor shuts down meanwhile. -/
def stoppedThenShut : List (DynamicSupervisorEvent ℕ numbers Unit) :=
  started ++ [.command (.stop 3 (9 : ℕ)), .shutdown]

/-- The shutdown of the supervisor meets an entry that is stopping. -/
theorem shutdown_drains_stopping :
    ∃ entry ∈ (run single stoppedThenShut).entries, entry.event = .shutdown ∧
      entry.Drained .unlimited := by
  refine ⟨(run single (started ++ [.command (.stop 3 (9 : ℕ))])).supervisor.entry .shutdown,
    ?_, rfl, (shutdown_drains single stoppedThenShut).2 ?_ _ ?_ _ rfl⟩
  · exact List.mem_append_right _ (List.mem_singleton_self _)
  · intro entry hentry deadline hdown
    simp only [stoppedThenShut, started, run, List.cons_append, List.nil_append, List.foldl_cons,
      List.foldl_nil, Journal.step, List.mem_cons, List.not_mem_nil, or_false] at hentry
    rcases hentry with rfl | rfl | rfl | rfl | rfl | rfl <;> cases hdown
  · exact List.mem_append_right _ (List.mem_singleton_self _)

/-- The shutdown of the stopping entry is refused: the supervisor is shutting down, and the entry
is available. -/
theorem refused_stop_restores :
    (run single (stoppedThenShut ++
      [.proxyInputSettled (.unattempted ⟨1, .shutdown, 1⟩)])).supervisor.availability
        = .shuttingDown .unlimited ∧
    (run single (stoppedThenShut ++
      [.proxyInputSettled (.unattempted ⟨1, .shutdown, 1⟩)])).supervisor.services.get? 3
        = some ⟨1, 2, 1, .available (7 : ℕ) (.ready ⟨1, 0⟩ ()) .committed⟩ :=
  ⟨rfl, rfl⟩

end Bombay.Directory
