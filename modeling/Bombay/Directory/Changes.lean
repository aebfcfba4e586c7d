/-
# What becomes of an accepted change

A `Start` or a `Replace` that is accepted is a change with an operation number of its
own.  It is realized once at most: the service is started or replaced, the change fails,
is interrupted or is cancelled (the lifecycle messages of `directory/mod.rs`, and the
receipt that takes a queued replacement back).  An entry that leaves the table says so in
that transition, and its generation never comes back.
-/

import Bombay.Directory.Custody

namespace Bombay.Directory

open DynamicSupervisor

variable {Key : Type} [LinearOrder Key] {S : Signature} {Message : Type}

/-! ### Changes -/

/-- The change whose realization waits for the end of the retirement. -/
def RetiringWork.pending (work : RetiringWork S Message) (operation : ℕ) : Option ℕ :=
  match work with
  | .cancelledWorkerReturned _ => some operation
  | .transferred (.cancellation _) _ => some operation
  | .transferred (.interruptedStart start) _ => some start
  | .transferred (.supervisorStart start) _ => some start
  | .transferred (.supervisorReplacement replacement _) _ => some replacement
  | _ => none

/-- **The change of an entry that was accepted and is not realized.** -/
def DynamicEntry.pending (entry : DynamicEntry S Message) : Option ℕ :=
  match entry.phase with
  | .creatingProxy _ => some entry.operation
  | .cancellingProxyCreation => some entry.operation
  | .stoppingProxyCreation start _ => some start
  | .waitingForStartup _ _ => some entry.operation
  | .waitingForProxyInput _ _ => some entry.operation
  | .waitingForProxyOutcome _ _ => some entry.operation
  | .replacementQueued _ _ _ => some entry.operation
  | .replacementAwaitingReceipt _ _ _ => some entry.operation
  | .replacementAwaitingOutcome _ _ _ => some entry.operation
  | .retiring retirement => retirement.work.pending entry.operation
  | _ => none

/-- **The change of an entry that can still succeed.** -/
def DynamicEntry.startable (entry : DynamicEntry S Message) : Option ℕ :=
  match entry.phase with
  | .creatingProxy _ => some entry.operation
  | .waitingForStartup _ _ => some entry.operation
  | .waitingForProxyInput _ _ => some entry.operation
  | .waitingForProxyOutcome _ _ => some entry.operation
  | .replacementQueued _ _ _ => some entry.operation
  | .replacementAwaitingReceipt _ _ _ => some entry.operation
  | .replacementAwaitingOutcome _ _ _ => some entry.operation
  | _ => none

/-- The entry holds a replacement that waits for a slot. -/
def DynamicEntryPhase.queued : DynamicEntryPhase S Message → Bool
  | .replacementQueued _ _ _ => true
  | _ => false

namespace DynamicLifecycle

/-- The change that a message realizes; a message without an operation is about the change of
the entry that the key had. -/
def realizes (table : Key → Option (DynamicEntry S Message)) :
    DynamicLifecycle Key S Message → Option ℕ
  | .started _ _ operation _ => some operation
  | .startCreationRejected key _ _ _ => (table key).map (·.operation)
  | .workerChangeInterrupted _ _ operation _ _ => some operation
  | .startInputRejected key _ => (table key).map (·.operation)
  | .replacementInputRejected _ _ operation => some operation
  | .startOutcomeRejected _ _ operation _ => some operation
  | .replaced _ _ operation _ => some operation
  | .replacementFailed _ _ operation _ => some operation
  | .operationCancelled _ _ operation _ _ => some operation
  | _ => none

/-- The change that a message says has succeeded. -/
def succeeds : DynamicLifecycle Key S Message → Option ℕ
  | .started _ _ operation _ => some operation
  | .replaced _ _ operation _ => some operation
  | _ => none

/-- The entry that a message says has left, with its generation. -/
def leaves : DynamicLifecycle Key S Message → Option (Key × ℕ)
  | .startCreationRejected key generation _ _ => some (key, generation)
  | .entryRetired key generation _ => some (key, generation)
  | _ => none

end DynamicLifecycle

/-- The queued replacements that receipts take back. -/
def Replies.withdraws (table : Key → Option (DynamicEntry S Message)) (replies : Replies Key S) :
    List ℕ :=
  replies.cancel.filterMap fun reply =>
    match reply.2 with
    | .returned authority _ =>
      if (table authority.key).any (·.phase.queued) then some authority.operation else none
    | _ => none

/-- The changes that answers give up: those whose cancellation or stop is accepted. -/
def Replies.abandons (table : Key → Option (DynamicEntry S Message)) (replies : Replies Key S) :
    List ℕ :=
  replies.cancel.filterMap (fun reply =>
      match reply.2 with
      | .returned authority _ => some authority.operation
      | .pending authority _ => some authority.operation
      | _ => none) ++
    replies.stop.filterMap fun reply =>
      match reply.2 with
      | .ok key => (table key).bind (·.startable)
      | .error _ => none

namespace Entry

variable (entry : Entry Key S Message)

/-- The changes that a transition realizes. -/
def realizes : List ℕ :=
  entry.actions.lifecycle.filterMap (·.realizes entry.before.services.get?) ++
    entry.actions.answers.withdraws entry.before.services.get?

/-- The changes that a transition completes with success. -/
def succeeds : List ℕ := entry.actions.lifecycle.filterMap (·.succeeds)

/-- The changes whose cancellation or stop a transition accepts. -/
def abandons : List ℕ := entry.actions.answers.abandons entry.before.services.get?

/-- The entries of the table that a transition says have left. -/
def leaves : List (Key × ℕ) := entry.actions.lifecycle.filterMap (·.leaves)

end Entry

/-! ### One entry -/

variable {key : Key} {event : DynamicSupervisorEvent Key S Message} {heap change : ℕ}
    {entry after : DynamicEntry S Message} {outcome : Outcome Key S Message}
    {self : DynamicSupervisor Key S Message} {acted : Acted Key S Message}
    {actions : DynamicActions Key S Message}

omit [LinearOrder Key] in
/-- **The end of a retirement** realizes the change that waited for it, and says that the entry
leaves. -/
theorem closeRetirement_realizes {generation operation retirement lifecycle}
    (h : closeRetirement key generation operation retirement = some lifecycle)
    (table : Key → Option (DynamicEntry S Message)) :
    lifecycle.filterMap (·.realizes table) = (retirement.work.pending operation).toList ∧
      lifecycle.filterMap (·.succeeds) = [] ∧
      lifecycle.filterMap (·.leaves) = [(key, generation)] := by
  obtain ⟨proxy, shutdown, work, stopped⟩ := retirement
  cases shutdown with
  | awaitingSettlement witness => cases h
  | _ =>
    cases stopped with
    | none => cases h
    | some stopped =>
      rcases work with _ | _ | _ | _ | _ | ⟨purpose, custody⟩
      case transferred => cases purpose <;> cases custody <;> cases h <;> exact ⟨rfl, rfl, rfl⟩
      all_goals cases h; exact ⟨rfl, rfl, rfl⟩

/-- The change of a retirement does not depend on what became of the input. -/
theorem pending_transferred (purpose : ProxyInputPurpose S) (now later : ProxyInputCustody S Message)
    (operation : ℕ) : (RetiringWork.transferred purpose now).pending operation
      = (RetiringWork.transferred purpose later).pending operation := by
  cases purpose <;> rfl

omit [LinearOrder Key] in
/-- A retirement that goes on realizes nothing, and keeps its change. -/
theorem Continues.silent {generation operation creation before after lifecycle diagnostics}
    (h : Continues key generation operation creation event before after lifecycle diagnostics)
    (table : Key → Option (DynamicEntry S Message)) :
    lifecycle.filterMap (·.realizes table) = [] ∧ lifecycle.filterMap (·.succeeds) = [] ∧
      lifecycle.filterMap (·.leaves) = [] ∧
      after.work.pending operation = before.work.pending operation := by
  cases h with
  | refused hcreation hwitness hrefused hlifecycle =>
    rcases hlifecycle with rfl | ⟨failure, rfl⟩ <;> exact ⟨rfl, rfl, rfl, rfl⟩
  | inputAccepted hcreation hwitness | inputRefused hcreation hwitness hrefused
  | reported hexpects => exact ⟨rfl, rfl, rfl, pending_transferred _ _ _ _⟩
  | _ => exact ⟨rfl, rfl, rfl, rfl⟩

/-- What a step says about the change of its entry: it is realized, or it stays with the entry. -/
structure Realizing (entry : DynamicEntry S Message) (outcome : Outcome Key S Message)
    (changes : List ℕ) : Prop where
  one : changes = [] ∨ ∃ change, changes = [change] ∧ entry.pending = some change ∧
    ∀ after, outcome.after = some after → after.pending = none

omit [LinearOrder Key] in
/-- **A step realizes the change of its entry, or keeps it.** -/
theorem Steps.realizes (h : Steps key heap event entry outcome) {table}
    (htable : table key = some entry) :
    Realizing entry outcome (outcome.lifecycle.filterMap (·.realizes table)) := by
  have hsame : (table key).map (·.operation) = some entry.operation := by
    rw [htable]
    rfl
  cases h with
  | retired h =>
    cases h with
    | startRefused hcreation hwitness hrefused =>
      refine ⟨.inr ⟨_, List.filterMap_cons_some hsame, rfl, fun after hafter => ?_⟩⟩
      cases hafter
      rfl
    | startFailed hready =>
      exact ⟨.inr ⟨_, rfl, rfl, fun after hafter => by cases hafter; rfl⟩⟩
    | _ => exact ⟨.inl rfl⟩
  | stopping h =>
    cases h with
    | waiting => exact ⟨.inr ⟨_, rfl, rfl, fun after hafter => by cases hafter; rfl⟩⟩
    | createdStopping hcreation hresolve =>
      exact ⟨.inr ⟨_, rfl, rfl, fun after hafter => by cases hafter; rfl⟩⟩
    | _ => exact ⟨.inl rfl⟩
  | uncreated hcreation hresolve h =>
    cases h with
    | creating =>
      exact ⟨.inr ⟨_, List.filterMap_cons_some hsame, rfl, fun after hafter => by cases hafter⟩⟩
    | cancelling | stopping => exact ⟨.inr ⟨_, rfl, rfl, fun after hafter => by cases hafter⟩⟩
    | _ => exact ⟨.inl rfl⟩
  | shifted h =>
    cases h with
    | replacementRefused hcreation hwitness hrefused | replaced hreplaces hresult
    | unreplaced hreplaces hresult =>
      exact ⟨.inr ⟨_, rfl, rfl, fun after hafter => by cases hafter; rfl⟩⟩
    | ready => exact ⟨.inr ⟨_, rfl, rfl, fun after hafter => by cases hafter; rfl⟩⟩
    | _ => exact ⟨.inl rfl⟩
  | ended h => cases h <;> exact ⟨.inl rfl⟩
  | @continued _ generation operation creation before retirement lifecycle diagnostics h =>
    obtain ⟨hrealizes, -, -, hpending⟩ := h.silent table
    unfold settled
    split
    · rename_i closing hclose
      obtain ⟨hcloses, -, -⟩ := closeRetirement_realizes hclose table
      rw [List.filterMap_append, hrealizes, List.nil_append, hcloses, hpending]
      cases hchange : before.work.pending operation with
      | none => exact ⟨.inl rfl⟩
      | some change => exact ⟨.inr ⟨change, rfl, hchange, fun after hafter => by cases hafter⟩⟩
    · rw [hrealizes]
      exact ⟨.inl rfl⟩

omit [LinearOrder Key] in
/-- **The change of an entry after a step** is the one it had, or the replacement that the step
accepts. -/
theorem Steps.pending (h : Steps key heap event entry outcome) (hafter : outcome.after = some after)
    (hchange : after.pending = some change) :
    entry.pending = some change ∨ change = after.operation ∧ entry.pending = none ∧
      ∃ submission replyTo, event = .command (.replace key submission replyTo) := by
  cases h with
  | retired h =>
    cases hafter
    left
    cases h <;> first | exact hchange | cases hchange
  | stopping h => cases hafter; cases hchange
  | uncreated hcreation hresolve h => cases hafter
  | shifted h =>
    cases hafter
    cases h with
    | queued => exact .inr ⟨(Option.some.inj hchange).symm, rfl, _, _, rfl⟩
    | _ => left; first | exact hchange | cases hchange
  | ended h => cases hafter
  | continued h =>
    obtain ⟨-, -, -, hpending⟩ := h.silent fun _ => none
    unfold settled at hafter
    split at hafter
    · cases hafter
    · cases hafter
      exact .inl (hpending.symm.trans hchange)

omit [LinearOrder Key] in
/-- **The change that can still succeed after a step** is the one that could before, or the
replacement that the step accepts. -/
theorem Steps.startable
    (h : Steps key heap event entry outcome) (hafter : outcome.after = some after)
    (hchange : after.startable = some change) :
    entry.startable = some change ∨ change = after.operation ∧
      ∃ submission replyTo, event = .command (.replace key submission replyTo) := by
  cases h with
  | retired h | stopping h => cases hafter; cases hchange
  | uncreated hcreation hresolve h => cases hafter
  | shifted h =>
    cases hafter
    cases h with
    | queued => exact .inr ⟨(Option.some.inj hchange).symm, _, _, rfl⟩
    | _ => left; first | exact hchange | cases hchange
  | ended h => cases hafter
  | continued h =>
    unfold settled at hafter
    split at hafter
    · cases hafter
    · cases hafter
      cases hchange

omit [LinearOrder Key] in
/-- **A step completes only a change that could still succeed**, and the entry has it no more. -/
theorem Steps.succeeds (h : Steps key heap event entry outcome)
    (hchange : change ∈ outcome.lifecycle.filterMap (·.succeeds)) :
    entry.startable = some change := by
  cases h with
  | retired h | stopping h | uncreated hcreation hresolve h | ended h => cases h <;> cases hchange
  | shifted h =>
    cases h with
    | ready | replaced hreplaces hresult => rw [List.mem_singleton.mp hchange]; rfl
    | _ => cases hchange
  | continued h =>
    obtain ⟨-, hsucceeds, -, -⟩ := h.silent fun _ => none
    unfold settled at hchange
    split at hchange
    · rename_i closing hclose
      obtain ⟨-, hcloses, -⟩ := closeRetirement_realizes hclose fun _ => none
      rw [List.filterMap_append, hsucceeds, hcloses] at hchange
      cases hchange
    · rw [hsucceeds] at hchange
      cases hchange

omit [LinearOrder Key] in
/-- **A step that removes its entry says so**, and no other does. -/
theorem Steps.leaves (h : Steps key heap event entry outcome) :
    outcome.lifecycle.filterMap (·.leaves)
      = if outcome.after.isNone then [(key, entry.generation)] else [] := by
  cases h with
  | retired h | stopping h | uncreated hcreation hresolve h | shifted h | ended h => cases h <;> rfl
  | continued h =>
    obtain ⟨-, -, hleaves, -⟩ := h.silent fun _ => none
    unfold settled
    split
    · rename_i closing hclose
      obtain ⟨-, -, hcloses⟩ := closeRetirement_realizes hclose fun _ => none
      rw [List.filterMap_append, hleaves, hcloses]
      rfl
    · rw [hleaves]
      rfl

omit [LinearOrder Key] in
/-- **A receipt takes back a queued replacement, or none.** -/
theorem Steps.withdraws {now later replies} (h : Steps key heap event entry outcome)
    (hanswers : Answers key now later event entry outcome.after replies) {table}
    (htable : table key = some entry) :
    replies.withdraws table = [] ∨ outcome.lifecycle = [] ∧
      Realizing entry outcome (replies.withdraws table) := by
  obtain ⟨after, operations, lifecycle, diagnostics⟩ := outcome
  dsimp only at hanswers
  cases hanswers with
  | @returned replyTo generation operation creation phase after submission hheld =>
    by_cases hqueued : phase.queued = true
    · right
      cases phase with
      | replacementQueued proxy service queued =>
        have hchange : (Replies.withdraws table
            { cancel := [(replyTo, .returned ⟨key, operation⟩ submission)] }) = [operation] := by
          simp [Replies.withdraws, htable, DynamicEntryPhase.queued]
        rw [hchange]
        cases h with
        | retired h => cases h
        | stopping h => cases h
        | shifted h =>
          cases h
          exact ⟨rfl, ⟨.inr ⟨operation, rfl, rfl, fun after hafter => by cases hafter; rfl⟩⟩⟩
      | _ => cases hqueued
    · left
      simp [Replies.withdraws, htable, hqueued]
  | _ => exact .inl rfl

omit [LinearOrder Key] in
theorem Authorized.changes {operation} (h : Authorized heap entry after operation) :
    after.pending = entry.pending ∧ after.startable = entry.startable := by
  cases h <;> exact ⟨rfl, rfl⟩

theorem DynamicEntry.pending_of_startable
    (h : entry.startable = some change) : entry.pending = some change := by
  obtain ⟨generation, operation, creation, phase⟩ := entry
  cases phase <;> first | exact h | cases h

/-! ### The table -/

/-- The key whose entry an event can give a new change. -/
def DynamicSupervisorEvent.changes : DynamicSupervisorEvent Key S Message → Option Key
  | .command (.start key _ _) => some key
  | .command (.replace key _ _) => some key
  | _ => none

/-- **What follows the change of an entry**: steps keep it or accept a new one, and nothing else
makes one. -/
structure Tracks (track : DynamicEntry S Message → Option ℕ) : Prop where
  steps : ∀ {Key : Type} {key : Key} {heap : ℕ} {event : DynamicSupervisorEvent Key S Message}
    {entry after : DynamicEntry S Message} {outcome : Outcome Key S Message} {change : ℕ},
    Steps key heap event entry outcome → outcome.after = some after → track after = some change →
      track entry = some change ∨ change = after.operation ∧
        ∃ submission replyTo, event = .command (.replace key submission replyTo)
  authorized : ∀ {heap : ℕ} {entry after : DynamicEntry S Message} {operation : ProxyOperation S},
    Authorized heap entry after operation → track after = track entry
  swept : ∀ {entry : DynamicEntry S Message} {heap change : ℕ},
    track (entry.swept heap) = some change → track entry = some change
  begun : ∀ {generation operation creation : ℕ} {submission : WorkerSubmission S},
    track ⟨generation, operation, creation, .creatingProxy submission⟩ = some operation

theorem tracks_pending : Tracks (DynamicEntry.pending : DynamicEntry S Message → Option ℕ) where
  steps h hafter hchange :=
    (h.pending hafter hchange).imp_right fun ⟨hnew, _, hevent⟩ => ⟨hnew, hevent⟩
  authorized h := h.changes.1
  swept {entry heap change} h := by
    obtain ⟨generation, operation, creation, phase⟩ := entry
    cases phase <;> first | exact h | cases h
  begun := rfl

theorem tracks_startable : Tracks (DynamicEntry.startable : DynamicEntry S Message → Option ℕ) where
  steps h hafter hchange := h.startable hafter hchange
  authorized h := h.changes.2
  swept {entry heap change} h := by
    obtain ⟨generation, operation, creation, phase⟩ := entry
    cases phase <;> cases h
  begun := rfl

/-- **A change after a turn was there before, or is the one that the turn accepts.** -/
theorem Turn.tracks {track} (htracks : Tracks track) (h : Turn self event acted)
    (hafter : acted.1.services.get? key = some after) (hchange : track after = some change) :
    (∃ entry, self.services.get? key = some entry ∧ track entry = some change) ∨
      self.operations.issue = some (change, acted.1.operations) ∧ event.changes = some key := by
  cases h with
  | refused | kept hkeeps | timed havailability hdeadline => exact .inl ⟨after, hafter, hchange⟩
  | @begun fresh submission _ generation operation creation _ _ _ _ _ _ _ _ hoperation _ =>
    by_cases hkey : key = fresh
    · subst hkey
      simp only [put_get?, if_true, Option.some.injEq] at hafter
      rw [← hafter, htracks.begun] at hchange
      cases hchange
      exact .inr ⟨hoperation, rfl⟩
    · exact .inl ⟨after, by simpa [hkey] using hafter, hchange⟩
  | @moved _ moved entry outcome operations self' waiting actions hentry _ hstep _ _ hauthorizes _
      _ hanswers =>
    obtain ⟨middle, hmiddle, hgiven⟩ := hauthorizes.before hafter
    generalize actions.answers = replies at hanswers
    have hsame : track middle = some change ∧ after.operation = middle.operation := by
      rcases hgiven with rfl | ⟨heap, operation, hgiven⟩
      · exact ⟨hchange, rfl⟩
      · exact ⟨(htracks.authorized hgiven).symm.trans hchange, hgiven.slots.2.2.2.2⟩
    by_cases hkey : key = moved
    · subst hkey
      rw [moved_get?, if_pos rfl] at hmiddle
      rcases htracks.steps hstep hmiddle hsame.1 with
        hthere | ⟨rfl, submission, replyTo, rfl⟩
      · exact .inl ⟨entry, hentry, hthere⟩
      · rw [hmiddle] at hanswers
        have hoperations : self'.operations = operations := by
          rw [hauthorizes.frame, moved_frame]
        cases hanswers with
        | replaced hissue => exact .inr ⟨by rw [hoperations]; exact hissue, rfl⟩
        | fact hfact => exact absurd rfl (hfact _)
    · rw [moved_get?, if_neg hkey] at hmiddle
      exact .inl ⟨middle, hmiddle, hsame.1⟩
  | swept haccepting =>
    obtain ⟨entry, heap, hentry, rfl⟩ := (beginShutdown_entries haccepting).2 key after hafter
    exact .inl ⟨entry, hentry, htracks.swept hchange⟩

/-- **Every change that waits has one entry**, and its number was issued. -/
structure Changes (supervisor : DynamicSupervisor Key S Message) : Prop where
  unique : ∀ key other entry entry' change, supervisor.services.get? key = some entry →
    supervisor.services.get? other = some entry' → entry.pending = some change →
      entry'.pending = some change → key = other
  past : ∀ key entry change, supervisor.services.get? key = some entry →
    entry.pending = some change → supervisor.operations.Past change

theorem changes_new (config : Config) :
    Changes (.new config : DynamicSupervisor Key S Message) where
  unique key other entry entry' change hentry := by
    rw [new_get?] at hentry
    cases hentry
  past key entry change hentry := by
    rw [new_get?] at hentry
    cases hentry

/-- **A turn keeps the changes apart.** -/
theorem Turn.changes (h : Turn self event acted) (hchanges : Changes self) : Changes acted.1 := by
  constructor
  · intro key other entry entry' change hentry hentry' hpending hpending'
    rcases h.tracks tracks_pending hentry hpending with ⟨old, hold, hthere⟩ | ⟨hissue, hkey⟩
    · rcases h.tracks tracks_pending hentry' hpending' with
        ⟨old', hold', hthere'⟩ | ⟨hissue', -⟩
      · exact hchanges.unique key other old old' change hold hold' hthere hthere'
      · exact absurd ((hchanges.past key old change hold hthere).ne_issue hissue') (lt_irrefl _)
    · rcases h.tracks tracks_pending hentry' hpending' with
        ⟨old', hold', hthere'⟩ | ⟨-, hother⟩
      · exact absurd ((hchanges.past other old' change hold' hthere').ne_issue hissue) (lt_irrefl _)
      · exact Option.some.inj (hkey.symm.trans hother)
  · intro key entry change hentry hpending
    rcases h.tracks tracks_pending hentry hpending with ⟨old, hold, hthere⟩ | ⟨hissue, -⟩
    · exact h.numbers.past (hchanges.past key old change hold hthere)
    · exact Sequence.issue_past hissue

/-! ### What a turn realizes -/

/-- The change that the shutdown of the supervisor interrupts at once. -/
def DynamicEntry.interrupts (entry : DynamicEntry S Message) : Option ℕ :=
  match entry.phase with
  | .creatingProxy _ => some entry.operation
  | .stoppingProxyCreation start _ => some start
  | .waitingForStartup _ _ => some entry.operation
  | .replacementQueued _ _ _ => some entry.operation
  | _ => none

theorem DynamicEntry.interrupts_pending (h : entry.interrupts = some change) :
    entry.pending = some change ∧ ∀ heap, (entry.swept heap).pending = none := by
  obtain ⟨generation, operation, creation, phase⟩ := entry
  cases phase <;> first | exact ⟨h, fun _ => rfl⟩ | cases h

omit [LinearOrder Key] in
/-- **The shutdown of the supervisor interrupts the changes that were not given away**, and says
nothing else. -/
theorem accumulate_realizes (table : Key → Option (DynamicEntry S Message))
    (entries : List (Key × DynamicEntry S Message)) (sweep : Sweep Key S Message) :
    (OrderedMap.accumulate sweepEntry entries sweep).2.lifecycle.filterMap (·.realizes table)
        = sweep.lifecycle.filterMap (·.realizes table) ++ entries.filterMap (·.2.interrupts) ∧
      (OrderedMap.accumulate sweepEntry entries sweep).2.lifecycle.filterMap (·.succeeds)
        = sweep.lifecycle.filterMap (·.succeeds) ∧
      (OrderedMap.accumulate sweepEntry entries sweep).2.lifecycle.filterMap (·.leaves)
        = sweep.lifecycle.filterMap (·.leaves) := by
  induction entries generalizing sweep with
  | nil => simp [OrderedMap.accumulate]
  | cons head rest ih =>
    obtain ⟨key, entry⟩ := head
    have hone : (sweepEntry key entry sweep).2.lifecycle.filterMap (·.realizes table)
          = sweep.lifecycle.filterMap (·.realizes table) ++ entry.interrupts.toList ∧
        (sweepEntry key entry sweep).2.lifecycle.filterMap (·.succeeds)
          = sweep.lifecycle.filterMap (·.succeeds) ∧
        (sweepEntry key entry sweep).2.lifecycle.filterMap (·.leaves)
          = sweep.lifecycle.filterMap (·.leaves) := by
      obtain ⟨generation, operation, creation, phase⟩ := entry
      cases phase <;>
        simp [sweepEntry, DynamicEntryPhase.shutdown, DynamicEntry.interrupts,
          DynamicLifecycle.realizes, DynamicLifecycle.succeeds, DynamicLifecycle.leaves,
          ProxyRetirement.begin]
    obtain ⟨hrealizes, hsucceeds, hleaves⟩ := ih (sweepEntry key entry sweep).2
    rw [OrderedMap.accumulate]
    refine ⟨?_, hsucceeds.trans hone.2.1, hleaves.trans hone.2.2⟩
    rw [hrealizes, hone.1, List.append_assoc]
    cases hinterrupts : entry.interrupts <;> simp [hinterrupts]

/-- What holds of the changes that a turn realizes. -/
structure Realized (before after : DynamicSupervisor Key S Message) (changes : List ℕ) : Prop where
  nodup : changes.Nodup
  settled : ∀ change ∈ changes, ∃ key entry, before.services.get? key = some entry ∧
    entry.pending = some change ∧
      ∀ service, after.services.get? key = some service → service.pending = none

theorem Realized.nothing (before after : DynamicSupervisor Key S Message) :
    Realized before after [] where
  nodup := List.nodup_nil
  settled change hchange := by cases hchange

/-- The entry that moved, after the waiting entries were looked at. -/
theorem Authorizes.moved {self' operations waiting}
    (h : Authorizes (self.moved key outcome operations) (self', waiting))
    (hafter : self'.services.get? key = some after) :
    ∃ middle, outcome.after = some middle ∧ after.pending = middle.pending ∧
      after.startable = middle.startable := by
  obtain ⟨middle, hmiddle, hgiven⟩ := h.before hafter
  rw [moved_get?, if_pos rfl] at hmiddle
  refine ⟨middle, hmiddle, ?_⟩
  rcases hgiven with rfl | ⟨heap, operation, hgiven⟩
  · exact ⟨rfl, rfl⟩
  · exact hgiven.changes

/-- **A turn realizes changes that waited**, each once, and they wait no more. -/
theorem Turn.realizes (h : Turn self event acted) (hchanges : Changes self)
    (hok : acted.2 = .ok actions) :
    Realized self acted.1 (actions.lifecycle.filterMap (·.realizes self.services.get?) ++
      actions.answers.withdraws self.services.get?) := by
  cases h with
  | refused hfact => cases hok
  | kept hkeeps =>
    cases hok
    cases hkeeps with
    | cancelAnswered hnot =>
      rename_i authority replyTo receipt
      cases receipt <;> first | exact .nothing _ _ | cases hnot
    | _ => exact .nothing _ _
  | timed havailability hdeadline
  | begun haccepting habsent hcapacity hgeneration hoperation hcreation =>
    cases hok
    exact .nothing _ _
  | @moved _ key entry outcome operations self' waiting _ hentry _ hstep _ _ hauthorizes hactions _
      hanswers =>
    cases hok
    obtain ⟨-, -, -, -, -, hlifecycle, -⟩ := hactions
    have hrealized : ∀ changes, Realizing entry outcome changes → Realized self self' changes := by
      rintro changes ⟨rfl | ⟨change, rfl, hpending, hafter⟩⟩
      · exact .nothing _ _
      · refine ⟨List.nodup_singleton _, fun other hother => ?_⟩
        rw [List.mem_singleton.mp hother]
        refine ⟨key, entry, hentry, hpending, fun service hservice => ?_⟩
        obtain ⟨middle, hmiddle, hsame, -⟩ := hauthorizes.moved hservice
        rw [hsame]
        exact hafter middle hmiddle
    rw [hlifecycle]
    rcases hstep.withdraws hanswers hentry with hnone | ⟨hsilent, hrealizing⟩
    · rw [hnone, List.append_nil]
      exact hrealized _ (hstep.realizes hentry)
    · rw [hsilent, List.filterMap_nil, List.nil_append]
      exact hrealized _ hrealizing
  | swept haccepting =>
    have hservices : (beginShutdown self).1.services
        = (self.services.mapAccum sweepEntry ⟨[], [], self.heap⟩).1 := by
      rw [beginShutdown, haccepting]
    have hspoken : actions.lifecycle.filterMap (·.realizes self.services.get?) ++
        actions.answers.withdraws self.services.get?
          = self.services.entries.filterMap (·.2.interrupts) := by
      rw [beginShutdown, haccepting] at hok
      cases hok
      rw [← List.append_nil (List.filterMap _ self.services.entries)]
      refine congrArg (· ++ []) ?_
      exact (accumulate_realizes _ self.services.entries ⟨[], [], self.heap⟩).1
    rw [hspoken]
    constructor
    · rw [List.Nodup, List.pairwise_filterMap]
      refine List.Pairwise.imp_of_mem ?_ self.services.ordered
      rintro ⟨key, entry⟩ ⟨other, entry'⟩ hentry hentry' hlt change hchange change' hchange' rfl
      have hsame := hchanges.unique key other entry entry' change
        (OrderedMap.mem_entries.mp hentry) (OrderedMap.mem_entries.mp hentry')
        (DynamicEntry.interrupts_pending hchange).1 (DynamicEntry.interrupts_pending hchange').1
      exact absurd hsame (ne_of_lt hlt)
    · intro change hchange
      obtain ⟨⟨key, entry⟩, hmem, hinterrupts⟩ := List.mem_filterMap.mp hchange
      have hentry := OrderedMap.mem_entries.mp hmem
      obtain ⟨hpending, hafter⟩ := DynamicEntry.interrupts_pending hinterrupts
      refine ⟨key, entry, hentry, hpending, fun service hservice => ?_⟩
      obtain ⟨old, heap, hold, rfl⟩ := (beginShutdown_entries haccepting).2 key service hservice
      obtain rfl : entry = old := Option.some.inj (hentry.symm.trans hold)
      exact hafter heap

/-- **A turn completes only changes that could still succeed.** -/
theorem Turn.succeeds (h : Turn self event acted) (hok : acted.2 = .ok actions)
    (hchange : change ∈ actions.lifecycle.filterMap (·.succeeds)) :
    ∃ key entry, self.services.get? key = some entry ∧ entry.startable = some change := by
  cases h with
  | refused hfact => cases hok
  | kept hkeeps => cases hok; cases hkeeps <;> cases hchange
  | timed havailability hdeadline
  | begun haccepting habsent hcapacity hgeneration hoperation hcreation => cases hok; cases hchange
  | @moved _ key entry outcome operations self' waiting _ hentry _ hstep _ _ _ hactions _ _ =>
    cases hok
    rw [hactions.2.2.2.2.2.1] at hchange
    exact ⟨key, entry, hentry, hstep.succeeds hchange⟩
  | swept haccepting =>
    rw [beginShutdown, haccepting] at hok
    cases hok
    have hspoken := (accumulate_realizes self.services.get? self.services.entries
      ⟨[], [], self.heap⟩).2.1
    have hnone : change ∈ ([] : List ℕ) := (congrArg (change ∈ ·) hspoken).mp hchange
    cases hnone

/-- **A turn says of one entry at most that it leaves**, and that entry is gone. -/
theorem Turn.leaves (h : Turn self event acted) (hok : acted.2 = .ok actions) :
    actions.lifecycle.filterMap (·.leaves) = [] ∨
      ∃ key entry, self.services.get? key = some entry ∧ acted.1.services.get? key = none ∧
        actions.lifecycle.filterMap (·.leaves) = [(key, entry.generation)] := by
  cases h with
  | refused hfact => cases hok
  | kept hkeeps => cases hok; cases hkeeps <;> exact .inl rfl
  | timed havailability hdeadline
  | begun haccepting habsent hcapacity hgeneration hoperation hcreation => cases hok; exact .inl rfl
  | @moved _ key entry outcome operations self' waiting _ hentry _ hstep _ _ hauthorizes hactions _
      _ =>
    cases hok
    rw [hactions.2.2.2.2.2.1, hstep.leaves]
    cases hafter : outcome.after with
    | some after => exact .inl rfl
    | none =>
      refine .inr ⟨key, entry, hentry, ?_, rfl⟩
      by_contra hthere
      obtain ⟨service, hservice⟩ := Option.ne_none_iff_exists'.mp hthere
      obtain ⟨middle, hmiddle, -⟩ := hauthorizes.moved hservice
      rw [hafter] at hmiddle
      cases hmiddle
  | swept haccepting =>
    rw [beginShutdown, haccepting] at hok
    cases hok
    exact .inl (accumulate_realizes self.services.get? self.services.entries ⟨[], [], self.heap⟩).2.2

/-- **A turn that removes an entry says that it leaves.** -/
theorem Turn.leaves_removed (h : Turn self event acted)
    (hentry : self.services.get? key = some entry) (hgone : acted.1.services.get? key = none) :
    ∃ actions, acted.2 = .ok actions ∧
      actions.lifecycle.filterMap (·.leaves) = [(key, entry.generation)] := by
  rcases h.entry_after hentry with
    ⟨after, hafter, -⟩ | ⟨-, outcome, actions, hstep, hnone, hok, hspoken⟩
  · rw [hgone] at hafter
    cases hafter
  · refine ⟨actions, hok, ?_⟩
    rw [hspoken, hstep.leaves, hnone]
    rfl

omit [LinearOrder Key] in
/-- **A cancellation is of the change that the entry waits with.** -/
theorem Steps.cancelled {authority replyTo}
    (h : Steps key heap (.command (.cancel authority replyTo)) entry outcome) :
    entry.pending = some authority.operation := by
  cases h with
  | retired h | shifted h => cases h <;> rfl
  | stopping h => cases h
  | ended h => cases h
  | continued h => cases h

/-- The event cancels or stops. -/
def DynamicSupervisorEvent.gives : DynamicSupervisorEvent Key S Message → Bool
  | .command (.stop _ _) => true
  | .command (.cancel _ _) => true
  | _ => false

omit [LinearOrder Key] in
/-- **After a cancellation or a stop nothing of the entry can succeed.** -/
theorem Steps.gives (h : Steps key heap event entry outcome) (hevent : event.gives = true)
    (hafter : outcome.after = some after) : after.startable = none := by
  cases h with
  | retired h | stopping h => cases hafter; rfl
  | uncreated hcreation hresolve h => cases hafter
  | shifted h => cases hafter; cases h <;> first | rfl | cases hevent
  | ended h => cases hafter
  | continued h => cases h <;> cases hevent

/-- **A turn that accepts a cancellation or a stop leaves its change without success.** -/
theorem Turn.abandons (h : Turn self event acted) (hok : acted.2 = .ok actions)
    (hchange : change ∈ actions.answers.abandons self.services.get?) :
    ∃ key entry, self.services.get? key = some entry ∧ entry.pending = some change ∧
      ∀ service, acted.1.services.get? key = some service → service.startable = none := by
  cases h with
  | refused hfact => cases hok
  | kept hkeeps =>
    cases hok
    cases hkeeps with
    | cancelAnswered hnot =>
      rename_i authority replyTo receipt
      cases receipt with
      | returned authority submission => cases hnot
      | pending authority phase => cases hnot
      | _ => cases hchange
    | _ => cases hchange
  | timed havailability hdeadline
  | begun haccepting habsent hcapacity hgeneration hoperation hcreation => cases hok; cases hchange
  | @moved _ key entry outcome operations self' waiting _ hentry _ hstep _ _ hauthorizes _ _
      hanswers =>
    cases hok
    have hgives : event.gives = true → ∀ service, self'.services.get? key = some service →
        service.startable = none := by
      intro hevent service hservice
      obtain ⟨middle, hmiddle, -, hsame⟩ := hauthorizes.moved hservice
      rw [hsame]
      exact hstep.gives hevent hmiddle
    generalize actions.answers = replies at hanswers hchange
    generalize outcome.after = after at hanswers
    cases hanswers with
    | stopped hstopping =>
      have hstartable : entry.startable = some change := by
        simpa [Replies.abandons, hentry] using hchange
      exact ⟨key, entry, hentry, DynamicEntry.pending_of_startable hstartable, hgives rfl⟩
    | returned hheld | pending hheld =>
      rw [List.mem_singleton.mp hchange]
      exact ⟨key, _, hentry, hstep.cancelled, hgives rfl⟩
    | _ => cases hchange
  | swept haccepting =>
    rw [beginShutdown, haccepting] at hok
    cases hok
    cases hchange

end Bombay.Directory
