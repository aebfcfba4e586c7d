/-
# Every transition of a dynamic supervisor is a turn

Function by function, `directory/mod.rs` does one of the things a `Turn` lists.
-/

import Bombay.Directory.Turn

namespace Bombay.Directory

open Proxy (ProxyOutcome InitialWorkerOutcome ReplacementOutcome)
open DynamicSupervisor

variable {Key : Type} [LinearOrder Key] {S : Signature} {Message : Type}

variable {self : DynamicSupervisor Key S Message} {creation witness generation operation : ℕ}
    {key : Key} {entry : DynamicEntry S Message} {event : DynamicSupervisorEvent Key S Message}
    {replyTo : S.Customer} {drain : ActorDrainPolicy}
    {lifecycle : List (DynamicLifecycle Key S Message)}
    {diagnostics : List (DynamicDiagnostic Key S Message)} {input : ProxyInputResult S}
    {proxy : S.Actor} {retirement before after : ProxyRetirement S Message}

/-- The entry that is found has the creation that was looked for. -/
theorem takeProxyEntry_some (h : self.takeProxyEntry creation = some (key, entry)) :
    self.services.get? key = some entry ∧ entry.creation = creation := by
  refine ⟨OrderedMap.mem_entries.mp (List.mem_of_find?_eq_some h), ?_⟩
  simpa using List.find?_some h

/-- Messages that name no exit of a worker say nothing about the disposition. -/
def Exitless (lifecycle : List (DynamicLifecycle Key S Message)) : Prop :=
  ∀ key generation worker readiness stopped disposition,
    .unexpectedWorkerStopped key generation worker readiness stopped disposition ∉ lifecycle

section

omit [LinearOrder Key]

/-- The end of a retirement names no exit of a worker. -/
theorem closeRetirement_exitless
    (h : closeRetirement key generation operation retirement = some lifecycle) :
    Exitless lifecycle := by
  obtain ⟨proxy, shutdown, work, stopped⟩ := retirement
  have hinterrupted : ∀ (input : ProxyInputCustody S Message) (f : InterruptedWorker S Message →
      List (DynamicLifecycle Key S Message)), (∀ worker, Exitless (f worker)) →
        input.intoInterruptedWorker.map f = some lifecycle → Exitless lifecycle := by
    intro input f hf hmap
    obtain ⟨worker, -, rfl⟩ := Option.map_eq_some_iff.mp hmap
    exact hf worker
  unfold closeRetirement at h
  split at h
  · cases h
  · cases h
  · split at h
    · cases h; simp [Exitless, entryRetired]
    · cases h; simp [Exitless, entryRetired]
    · cases h; simp [Exitless, entryRetired]
    · cases h; simp [Exitless, entryRetired]
    · cases h; simp [Exitless, operationCancelled]
    · cases h; simp [Exitless, operationCancelled]
    · cases h; simp [Exitless, operationCancelled]
    · cases h
    · split at h
      · cases h
      · split at h <;> cases h <;> simp [Exitless, entryRetired]
    · exact hinterrupted _ _ (fun worker => by simp [Exitless, entryRetired]) h
    · exact hinterrupted _ _ (fun worker => by simp [Exitless, entryRetired]) h

theorem Continues.exitless
    (h : Continues key generation operation creation event before after lifecycle diagnostics) :
    Exitless (settled key ⟨generation, operation, creation, .retiring before⟩ after lifecycle
      diagnostics).lifecycle := by
  have hbefore : Exitless lifecycle := by
    cases h with
    | refused hcreation hwitness hrefused hlifecycle =>
      rcases hlifecycle with rfl | ⟨failure, rfl⟩ <;> simp [Exitless]
    | _ => simp [Exitless]
  unfold settled
  cases hclose : closeRetirement key generation operation after with
  | none => exact hbefore
  | some closing =>
    intro key' generation' worker readiness stopped disposition hmem
    rcases List.mem_append.mp hmem with hmem | hmem
    · exact hbefore _ _ _ _ _ _ hmem
    · exact closeRetirement_exitless hclose _ _ _ _ _ _ hmem

/-- **Only the stop of a ready worker is told as an exit.** -/
theorem Steps.exitless {heap outcome} (h : Steps key heap event entry outcome)
    (hevent : ∀ creation worker stopped,
      event ≠ .proxyReported ⟨creation, .workerStopped worker stopped⟩) :
    Exitless outcome.lifecycle := by
  cases h with
  | retired h =>
    cases h with
    | workerStopped => exact absurd rfl (hevent _ _ _)
    | _ => simp [Exitless]
  | shifted h =>
    cases h with
    | emptied => exact absurd rfl (hevent _ _ _)
    | _ => simp [Exitless]
  | stopping h | ended h | uncreated hcreation hresolve h =>
    cases h <;> simp [Exitless, entryRetired, operationCancelled]
  | continued h => exact h.exitless

end

/-- What a transition emits when one entry moves. -/
def Outcome.acted (outcome : Outcome Key S Message) (replies : Replies Key S) :
    DynamicActions Key S Message where
  proxyOperations := outcome.operations
  lifecycle := outcome.lifecycle
  diagnostics := outcome.diagnostics
  startReplies := replies.start
  replaceReplies := replies.replace
  stopReplies := replies.stop
  queryReplies := replies.query
  cancelReplies := replies.cancel

section Moved

variable {outcome : Outcome Key S Message} {self' : DynamicSupervisor Key S Message}
    {waiting : List (ProxyOperation S)} {actions : DynamicActions Key S Message}
    (hentry : self.services.get? key = some entry) (hstep : Steps key self.heap event entry outcome)

include hentry hstep

/-- **A command moves one entry** and frees no slot. -/
theorem turn_steady {message operations replies} (hevent : event = .command message)
    (haccepting : self.availability = .accepting drain) (hsteady : outcome.Steady entry)
    (hoperation : (operations = self.operations ∧
        ∀ after, outcome.after = some after → after.operation = entry.operation) ∨
      ∃ after, outcome.after = some after ∧
        self.operations.issue = some (after.operation, operations))
    (hanswers : Answers key self.operations operations event entry outcome.after replies)
    (hself : self' = self.moved key outcome operations)
    (hactions : actions = outcome.acted replies) : Turn self event (self', .ok actions) := by
  subst hevent hself hactions
  have hexit := hstep.exitless nofun
  have hopen (deadline) : self.availability ≠ .shuttingDown deadline := by simp [haccepting]
  exact .moved hentry (fun _ deadline _ => hopen deadline) hstep
    (fun _ _ _ _ h => absurd h (hexit _ _ _ _ _ _)) hoperation (.inl rfl)
    ⟨rfl, rfl, rfl, rfl, (List.append_nil _).symm, rfl, rfl⟩ (.inr hsteady) hanswers

variable (hfact : ∀ command, event ≠ .command command)
    (hoperation : ∀ after, outcome.after = some after → after.operation = entry.operation)

include hfact hoperation

/-- **A fact moves one entry**, and the waiting entries are looked at or not. -/
theorem turn_moved (hexit : Exitless outcome.lifecycle)
    (hauthorizes : Authorizes (self.moved key outcome self.operations) (self', waiting))
    (hslots : (self', waiting) = authorizeWaiting (self.moved key outcome self.operations) ∨
      outcome.Steady entry)
    (hactions : actions
      = { outcome.acted {} with proxyOperations := outcome.operations ++ waiting }) :
    Turn self event (self', .ok actions) := by
  subst hactions
  exact .moved hentry (fun command _ h => absurd h (hfact command)) hstep
    (fun _ _ _ _ h => absurd h (hexit _ _ _ _ _ _)) (.inl ⟨rfl, hoperation⟩) hauthorizes
    ⟨rfl, rfl, rfl, rfl, rfl, rfl, rfl⟩ hslots (.fact hfact)

variable (hreport : ∀ creation worker stopped,
  event ≠ .proxyReported ⟨creation, .workerStopped worker stopped⟩)

include hreport

/-- A fact moves one entry and frees no slot. -/
theorem turn_fact (hsteady : outcome.Steady entry)
    (hself : self' = self.moved key outcome self.operations)
    (hactions : actions = outcome.acted {}) : Turn self event (self', .ok actions) := by
  subst hself hactions
  exact turn_moved hentry hstep hfact hoperation (hstep.exitless hreport) (.inl rfl) (.inr hsteady)
    (by simp [Outcome.acted])

/-- A fact moves one entry, and the entry that waits longest may be given a slot. -/
theorem turn_freed
    (hself : (self', waiting) = authorizeWaiting (self.moved key outcome self.operations))
    (hactions : actions
      = { outcome.acted {} with proxyOperations := outcome.operations ++ waiting }) :
    Turn self event (self', .ok actions) :=
  turn_moved hentry hstep hfact hoperation (hstep.exitless hreport) (.inr hself) (.inl hself)
    hactions

end Moved

/-! ### Commands -/

theorem start_turn {submission} (haccepting : self.availability = .accepting drain) :
    Turn self (.command (.start key submission replyTo)) (start self key submission replyTo) := by
  have hrejected : ∀ reason, Turn self (.command (.start key submission replyTo))
      (self, .ok { startReplies := [(replyTo, .error ⟨key, submission, reason⟩)] }) :=
    fun reason => .kept .startRejected
  simp only [start]
  split
  · exact hrejected .alreadyExists
  · rename_i habsent
    split
    · exact hrejected .atCapacity
    · rename_i hcapacity
      split
      · exact hrejected .entryGenerationExhausted
      · exact hrejected .operationExhausted
      · rename_i generation generations operation operations hgeneration hoperation
        split
        · exact hrejected .proxyCreationExhausted
        · rename_i creation creations hcreation
          refine .begun haccepting ?_ (by omega) hgeneration hoperation hcreation
          simpa using habsent

theorem replace_turn {submission} (haccepting : self.availability = .accepting drain) :
    Turn self (.command (.replace key submission replyTo))
      (replace self key submission replyTo) := by
  have hrejected : ∀ reason, Turn self (.command (.replace key submission replyTo))
      (self, .ok { replaceReplies := [(replyTo, .error ⟨key, submission, reason⟩)] }) :=
    fun reason => .kept .replaceRejected
  simp only [replace]
  split
  · exact hrejected .unknown
  · rename_i entry hentry
    obtain ⟨generation, last, creation, phase⟩ := entry
    by_cases havailable : ∃ proxy service latest, phase = .available proxy service latest
    · obtain ⟨proxy, service, latest, rfl⟩ := havailable
      dsimp only
      split
      · exact hrejected .operationExhausted
      · rename_i operation operations hissue
        exact .moved hentry (fun _ _ _ h => by rw [haccepting] at h; cases h) (.shifted .queued)
          (by simp) (.inr ⟨_, rfl, hissue⟩) (.inr rfl) ⟨rfl, rfl, rfl, rfl, rfl, rfl, rfl⟩
          (.inl rfl) (.replaced hissue)
    · have hnot : ∀ proxy service latest, phase ≠ .available proxy service latest :=
        fun proxy service latest h => havailable ⟨proxy, service, latest, h⟩
      cases phase <;> first | exact absurd rfl (hnot _ _ _) | exact hrejected .unavailable

theorem stop_turn (haccepting : self.availability = .accepting drain) :
    Turn self (.command (.stop key replyTo)) (stop self key replyTo) := by
  have hanswered : ∀ reason, Turn self (.command (.stop key replyTo))
      (self, .ok { stopReplies := [(replyTo, .error reason)] }) :=
    fun reason => .kept .stopRejected
  have hexhausted : Turn self (.command (.stop key replyTo))
      (stopOperationExhausted self key replyTo) := hanswered (.operationExhausted key)
  simp only [stop]
  split
  · exact hanswered _
  · rename_i entry hentry
    obtain ⟨generation, last, creation, phase⟩ := entry
    cases phase with
    | available proxy service latest =>
      dsimp only
      split
      · exact turn_steady hentry (.shifted .exhausted)
          rfl haccepting ⟨rfl, rfl⟩ (.inl ⟨rfl, by simp⟩) (.exhausted rfl rfl) rfl rfl
      · rename_i operation operations hissue
        exact turn_steady hentry (.stopping .available)
          rfl haccepting ⟨rfl, rfl⟩ (.inr ⟨_, rfl, hissue⟩) (.stopped (.inl rfl)) rfl rfl
    | creatingProxy submission =>
      dsimp only
      split
      · exact hexhausted
      · rename_i operation operations hissue
        exact turn_steady hentry (.shifted .stopsCreation)
          rfl haccepting ⟨rfl, rfl⟩ (.inr ⟨_, rfl, hissue⟩) (.stopped (.inl rfl)) rfl rfl
    | waitingForStartup proxy submission =>
      dsimp only
      split
      · exact hexhausted
      · rename_i operation operations hissue
        exact turn_steady hentry (.stopping .waiting)
          rfl haccepting ⟨rfl, rfl⟩ (.inr ⟨_, rfl, hissue⟩) (.stopped (.inl rfl)) rfl rfl
    | waitingForProxyInput proxy witness =>
      dsimp only
      split
      · exact hexhausted
      · rename_i operation operations hissue
        exact turn_steady hentry (.retired .stoppedInput)
          rfl haccepting ⟨rfl, rfl⟩ (.inr ⟨_, rfl, hissue⟩) (.stopped (.inr rfl)) rfl rfl
    | waitingForProxyOutcome proxy token =>
      dsimp only
      split
      · exact hexhausted
      · rename_i operation operations hissue
        exact turn_steady hentry (.retired .stoppedOutcome)
          rfl haccepting ⟨rfl, rfl⟩ (.inr ⟨_, rfl, hissue⟩) (.stopped (.inr rfl)) rfl rfl
    | _ => exact hanswered _

theorem cancel_turn {authority} (haccepting : self.availability = .accepting drain) :
    Turn self (.command (.cancel authority replyTo)) (cancel self authority replyTo) := by
  obtain ⟨key, operation⟩ := authority
  have hanswered : ∀ receipt : CancellationReceipt Key S, receipt.accepts = false →
      Turn self (.command (.cancel ⟨key, operation⟩ replyTo))
        (self, .ok { cancelReplies := [(replyTo, receipt)] }) :=
    fun receipt hnot => .kept (.cancelAnswered hnot)
  simp only [cancel]
  split
  · exact hanswered _ rfl
  · rename_i entry hentry
    obtain ⟨generation, last, creation, phase⟩ := entry
    dsimp only
    split
    · exact hanswered _ rfl
    · rename_i hsame
      obtain rfl : operation = last := not_not.mp hsame
      cases phase with
      | creatingProxy submission =>
        exact turn_steady hentry (.shifted .cancelsCreation) rfl haccepting ⟨rfl, rfl⟩
          (.inl ⟨rfl, by simp⟩) (.returned rfl) rfl rfl
      | waitingForStartup proxy submission =>
        exact turn_steady hentry (.retired .cancelledWaiting) rfl haccepting ⟨rfl, rfl⟩
          (.inl ⟨rfl, by simp⟩) (.returned rfl) rfl rfl
      | waitingForProxyInput proxy witness =>
        exact turn_steady hentry (.retired .cancelledInput) rfl haccepting ⟨rfl, rfl⟩
          (.inl ⟨rfl, by simp⟩) (.pending rfl) rfl rfl
      | waitingForProxyOutcome proxy token =>
        exact turn_steady hentry (.retired .cancelledOutcome) rfl haccepting ⟨rfl, rfl⟩
          (.inl ⟨rfl, by simp⟩) (.pending rfl) rfl rfl
      | replacementQueued proxy service submission =>
        exact turn_steady hentry (.shifted .cancelsReplacement) rfl haccepting ⟨rfl, rfl⟩
          (.inl ⟨rfl, by simp⟩) (.returned rfl) rfl rfl
      | replacementAwaitingReceipt proxy service witness =>
        exact turn_steady hentry (.retired .cancelledReceipt) rfl haccepting ⟨rfl, rfl⟩
          (.inl ⟨rfl, by simp⟩) (.pending rfl) rfl rfl
      | replacementAwaitingOutcome proxy service token =>
        exact turn_steady hentry (.retired .cancelledReplacement) rfl haccepting ⟨rfl, rfl⟩
          (.inl ⟨rfl, by simp⟩) (.pending rfl) rfl rfl
      | available proxy service latest => cases latest <;> exact hanswered _ rfl
      | retiring retirement =>
        obtain ⟨proxy, shutdown, work, stopped⟩ := retirement
        rcases work with _ | _ | _ | _ | _ | ⟨purpose, input⟩
        case transferred => cases purpose <;> exact hanswered _ rfl
        all_goals exact hanswered _ rfl
      | _ => exact hanswered _ rfl

theorem command_turn (self : DynamicSupervisor Key S Message) (message : DynamicCommand Key S) :
    Turn self (.command message) (command self message) := by
  simp only [command]
  split
  · cases message with
    | start key submission replyTo => exact .kept .startRejected
    | replace key submission replyTo => exact .kept .replaceRejected
    | stop key replyTo => exact .kept .stopRejected
    | query key replyTo => exact .kept .queried
    | cancel authority replyTo => exact .kept (.cancelAnswered rfl)
  · rename_i drain haccepting
    cases message with
    | start key submission replyTo => exact start_turn haccepting
    | replace key submission replyTo => exact replace_turn haccepting
    | stop key replyTo => exact stop_turn haccepting
    | query key replyTo => exact .kept .queried
    | cancel authority replyTo => exact cancel_turn haccepting

/-! ### Creations -/

omit [LinearOrder Key] in
/-- An entry whose proxy was not created holds no startup slot. -/
theorem Uncreated.steady {settlement} (h : Uncreated key settlement entry lifecycle diagnostics) :
    (⟨none, [], lifecycle, diagnostics⟩ : Outcome Key S Message).Steady entry := by
  cases h <;> exact ⟨rfl, rfl⟩

theorem acceptCreations_turn (self : DynamicSupervisor Key S Message)
    (proxies : CreationsSettled (proxied S)) :
    Turn self (.proxyCreationsSettled proxies) (acceptCreations self proxies) := by
  have hback : Turn self (.proxyCreationsSettled proxies)
      (rejectInput self (.proxyCreationsSettled proxies)) := .refused (by simp)
  by_cases hsingle : ∃ settlement, proxies = .settled [settlement]
  · obtain ⟨settlement, rfl⟩ := hsingle
    simp only [acceptCreations]
    split
    · exact hback
    · rename_i key entry hfound
      obtain ⟨hentry, hcreation⟩ := takeProxyEntry_some hfound
      obtain ⟨generation, operation, creation, phase⟩ := entry
      dsimp only at hcreation
      cases hresolve : resolve settlement with
      | committed proxy =>
        cases phase with
        | creatingProxy submission =>
          exact turn_freed hentry (.shifted (.created hcreation.symm hresolve))
            nofun (by simp) nofun rfl rfl
        | shuttingDownProxyCreation =>
          exact turn_fact hentry (.retired (.createdShut hcreation.symm hresolve))
            nofun (by simp) nofun ⟨rfl, rfl⟩ rfl rfl
        | drainingProxyCreationStop =>
          exact turn_fact hentry (.stopping (.createdDraining hcreation.symm hresolve))
            nofun (by simp) nofun ⟨rfl, rfl⟩ rfl rfl
        | cancellingProxyCreation =>
          exact turn_fact hentry (.retired (.createdCancelled hcreation.symm hresolve))
            nofun (by simp) nofun ⟨rfl, rfl⟩ rfl rfl
        | stoppingProxyCreation startOperation submission =>
          exact turn_fact hentry (.stopping (.createdStopping hcreation.symm hresolve))
            nofun (by simp) nofun ⟨rfl, rfl⟩ rfl rfl
        | _ => exact hback
      | rejected rejected =>
        have hends : ∀ lifecycle diagnostics,
            Uncreated key rejected ⟨generation, operation, creation, phase⟩ lifecycle
              diagnostics →
            Turn self (.proxyCreationsSettled (.settled [settlement]))
              (self.drop key, .ok { lifecycle := lifecycle, diagnostics := diagnostics }) :=
          fun lifecycle diagnostics h =>
            turn_fact hentry (.uncreated hcreation.symm hresolve h) nofun (by simp) nofun h.steady
              rfl rfl
        cases phase with
        | creatingProxy submission => exact hends _ _ .creating
        | shuttingDownProxyCreation => exact hends _ _ .shuttingDown
        | drainingProxyCreationStop => exact hends _ _ .draining
        | cancellingProxyCreation => exact hends _ _ .cancelling
        | stoppingProxyCreation startOperation submission => exact hends _ _ .stopping
        | _ => exact hback
  · unfold acceptCreations
    split
    · exact absurd ⟨_, rfl⟩ hsingle
    · exact hback

/-! ### Settlements of proxy inputs -/

theorem admits_iff :
    admits witness input = true ↔ proxyInputOperation input = witness := by
  rw [admits, beq_iff_eq, eq_comm]

/-- **A settled input is accepted, with its receipt, or refused.** -/
theorem accepted_or_refused (input : ProxyInputResult S) :
    (∃ receipt, input = .attempted (.accepted receipt)) ∨ refused input = true := by
  match input with
  | .attempted (.accepted receipt) => exact .inl ⟨receipt, rfl⟩
  | .attempted (.rejected _ _) => exact .inr rfl
  | .attempted (.corrupt _ _) => exact .inr rfl
  | .unattempted _ => exact .inr rfl

/-- A refused input gives a failure that keeps what was known of the stop. -/
theorem entryStopResult_refused (stopped : Option (ChildStopped S)) (h : refused input = true) :
    ∃ failure, entryStopResult stopped input = .error failure ∧ failure.stopped = stopped := by
  match input with
  | .attempted (.accepted receipt) => cases h
  | .attempted (.rejected _ _) | .attempted (.corrupt _ _) | .unattempted _ => exact ⟨_, rfl, rfl⟩

theorem acceptStartInput_turn
    (hentry : self.services.get? key
      = some ⟨generation, operation, creation, .waitingForProxyInput proxy witness⟩)
    (hcreation : proxyInputCreation input = creation) :
    Turn self (.proxyInputSettled input)
      (acceptStartInput self key
        ⟨generation, operation, creation, .waitingForProxyInput proxy witness⟩ proxy witness
        input) := by
  by_cases hadmits : admits witness input = true
  · have hwitness := admits_iff.mp hadmits
    rcases accepted_or_refused input with ⟨receipt, rfl⟩ | hrefused
    · simp only [acceptStartInput, hadmits, if_true]
      exact turn_fact hentry (.shifted (.startAccepted hcreation hwitness))
        nofun (by simp) nofun ⟨rfl, rfl⟩ rfl rfl
    · have hreads : acceptStartInput self key
          ⟨generation, operation, creation, .waitingForProxyInput proxy witness⟩ proxy witness input
          = let retired := authorizeWaiting { self.put key ⟨generation, operation, creation,
              .retiring ⟨proxy, .awaitingSettlement self.heap, .startFailed, none⟩⟩ with
                heap := self.heap + 1 }
            (retired.1, .ok {
              proxyOperations := .shutdown creation self.heap :: retired.2
              lifecycle := [.startInputRejected key generation]
              diagnostics := [.proxyInputRejected key generation input] }) := by
        match input, hrefused with
        | .attempted (.rejected _ _), _ | .attempted (.corrupt _ _), _ | .unattempted _, _ =>
          simp only [acceptStartInput, hadmits, if_true]; rfl
      rw [hreads]
      exact turn_freed hentry (.retired (.startRefused hcreation hwitness hrefused))
        nofun (by simp) nofun rfl rfl
  · simp only [acceptStartInput, if_neg hadmits]
    exact .refused (by simp)

theorem acceptReplacementInput_turn {service}
    (hentry : self.services.get? key
      = some ⟨generation, operation, creation, .replacementAwaitingReceipt proxy service witness⟩)
    (hcreation : proxyInputCreation input = creation) :
    Turn self (.proxyInputSettled input) (acceptReplacementInput self key
        ⟨generation, operation, creation, .replacementAwaitingReceipt proxy service witness⟩ proxy
        service witness input) := by
  by_cases hadmits : admits witness input = true
  · have hwitness := admits_iff.mp hadmits
    rcases accepted_or_refused input with ⟨receipt, rfl⟩ | hrefused
    · simp only [acceptReplacementInput, hadmits, if_true]
      exact turn_fact hentry (.shifted (.replacementAccepted hcreation hwitness))
        nofun (by simp) nofun ⟨rfl, rfl⟩ rfl rfl
    · have hreads : acceptReplacementInput self key
          ⟨generation, operation, creation, .replacementAwaitingReceipt proxy service witness⟩
          proxy service witness input
          = let restored := authorizeWaiting (self.put key ⟨generation, operation, creation,
              .available proxy service .committed⟩)
            (restored.1, .ok {
              proxyOperations := restored.2
              lifecycle := [.replacementInputRejected key generation operation]
              diagnostics := [.proxyInputRejected key generation input] }) := by
        match input, hrefused with
        | .attempted (.rejected _ _), _ | .attempted (.corrupt _ _), _ | .unattempted _, _ =>
          simp only [acceptReplacementInput, hadmits, if_true]
      rw [hreads]
      exact turn_freed hentry (.shifted (.replacementRefused hcreation hwitness hrefused))
        nofun (by simp) nofun rfl rfl
  · simp only [acceptReplacementInput, if_neg hadmits]
    exact .refused (by simp)

theorem acceptStoppingInput_turn {restorable stopped}
    (hentry : self.services.get? key = some ⟨generation, operation, creation,
      .stopping proxy restorable (.awaitingSettlement witness) stopped⟩)
    (hcreation : proxyInputCreation input = creation) :
    Turn self (.proxyInputSettled input)
      (acceptStoppingInput self key ⟨generation, operation, creation,
        .stopping proxy restorable (.awaitingSettlement witness) stopped⟩ proxy restorable witness
        stopped input) := by
  by_cases hadmits : admits witness input = true
  · have hwitness := admits_iff.mp hadmits
    rcases accepted_or_refused input with ⟨receipt, rfl⟩ | hrefused
    · simp only [acceptStoppingInput, hadmits, if_true, entryStopResult]
      cases stopped with
      | none =>
        exact turn_fact hentry (.shifted (.stopAccepted hcreation hwitness))
          nofun (by simp) nofun ⟨rfl, rfl⟩ rfl rfl
      | some stopped =>
        exact turn_fact hentry (.ended (.settled hcreation hwitness))
          nofun (by simp) nofun ⟨rfl, rfl⟩ rfl rfl
    · obtain ⟨failure, hfailure, hstopped⟩ := entryStopResult_refused stopped hrefused
      simp only [acceptStoppingInput, hadmits, if_true, hfailure, hstopped]
      cases stopped with
      | none =>
        cases restorable with
        | none =>
          exact turn_fact hentry (.shifted (.stopRefused hcreation hwitness hrefused hfailure))
            nofun (by simp) nofun ⟨rfl, rfl⟩ rfl rfl
        | some service =>
          exact turn_fact hentry (.shifted (.restored hcreation hwitness hrefused hfailure))
            nofun (by simp) nofun ⟨rfl, rfl⟩ rfl rfl
      | some stopped =>
        exact turn_fact hentry (.ended (.failed hcreation hwitness hrefused hfailure))
          nofun (by simp) nofun ⟨rfl, rfl⟩ rfl rfl
  · simp only [acceptStoppingInput, if_neg hadmits]
    exact .refused (by simp)

omit [LinearOrder Key] in
/-- **The stop of its proxy frees no slot**: work that still holds one keeps the entry. -/
theorem settled_stop_steady (key : Key) (generation operation creation : ℕ)
    {shutdown : ProxyShutdown} {work : RetiringWork S Message} {stop : ChildStopped S} :
    (settled key ⟨generation, operation, creation, .retiring ⟨proxy, shutdown, work, none⟩⟩
        ⟨proxy, shutdown, work, some stop⟩ [] []).Steady
      ⟨generation, operation, creation, .retiring ⟨proxy, shutdown, work, none⟩⟩ := by
  unfold settled
  cases hclose : closeRetirement key generation operation ⟨proxy, shutdown, work, some stop⟩ with
  | none =>
    refine ⟨?_, rfl⟩
    rcases work with _ | _ | _ | _ | _ | ⟨purpose, _ | _ | _ | _⟩ <;> rfl
  | some closing =>
    refine ⟨?_, rfl⟩
    rcases work with _ | _ | _ | _ | _ | ⟨purpose, custody⟩
    case transferred =>
      cases custody with
      | awaitingSettlement witness | awaitingOutcome token =>
        cases purpose <;> cases shutdown <;> cases hclose
      | _ => rfl
    all_goals rfl

/-- **A retirement that goes on is settled**, and the waiting entries are looked at or not. -/
theorem settleRetirement_turn {self' waiting}
    (hentry : self.services.get? key = some ⟨generation, operation, creation, .retiring before⟩)
    (h : Continues key generation operation creation event before after lifecycle diagnostics)
    (hauthorizes : Authorizes (settleRetirement self key
      ⟨generation, operation, creation, .retiring before⟩ after).1 (self', waiting))
    (hslots : (self', waiting) = authorizeWaiting (settleRetirement self key
        ⟨generation, operation, creation, .retiring before⟩ after).1 ∨
      (settled key ⟨generation, operation, creation, .retiring before⟩ after lifecycle
        diagnostics).Steady ⟨generation, operation, creation, .retiring before⟩) :
    Turn self event (self', .ok {
      proxyOperations := waiting
      lifecycle := lifecycle ++ (settleRetirement self key
        ⟨generation, operation, creation, .retiring before⟩ after).2
      diagnostics := diagnostics }) := by
  have hexit := h.exitless
  have hevent : ∀ command, event ≠ .command command := by cases h <;> simp
  have hstep : Steps key self.heap event _ _ := .continued h
  unfold settled at hstep hslots hexit
  unfold settleRetirement at hauthorizes hslots ⊢
  dsimp only at hstep hauthorizes hslots ⊢
  cases hclose : closeRetirement key generation operation after with
  | none =>
    rw [hclose] at hstep
    simp only [hclose, List.append_nil] at hauthorizes hslots ⊢
    rw [hclose] at hexit
    exact turn_moved hentry hstep hevent (by simp) hexit hauthorizes hslots rfl
  | some closing =>
    rw [hclose] at hstep
    simp only [hclose] at hauthorizes hslots ⊢
    rw [hclose] at hexit
    exact turn_moved hentry hstep hevent (by simp) hexit hauthorizes hslots rfl

theorem continueRetirement_turn
    (hentry : self.services.get? key = some ⟨generation, operation, creation, .retiring before⟩)
    (h : Continues key generation operation creation event before after lifecycle diagnostics) :
    Turn self event (continueRetirement self key
      ⟨generation, operation, creation, .retiring before⟩ after lifecycle diagnostics) :=
  settleRetirement_turn hentry h (.inr rfl) (.inl rfl)

theorem acceptRetiringWork_turn
    (hentry : self.services.get? key
      = some ⟨generation, operation, creation, .retiring retirement⟩)
    (hcreation : proxyInputCreation input = creation) :
    Turn self (.proxyInputSettled input) (acceptRetiringWork self key
      ⟨generation, operation, creation, .retiring retirement⟩ retirement input) := by
  obtain ⟨proxy, shutdown, work, stopped⟩ := retirement
  by_cases hgiven : ∃ purpose witness, work = .transferred purpose (.awaitingSettlement witness)
  · obtain ⟨purpose, witness, rfl⟩ := hgiven
    by_cases hadmits : admits witness input = true
    · have hwitness := admits_iff.mp hadmits
      rcases accepted_or_refused input with ⟨receipt, rfl⟩ | hrefused
      · simp only [acceptRetiringWork, RetiringWork.settleInput, hadmits, if_true]
        exact continueRetirement_turn hentry (.inputAccepted hcreation hwitness)
      · have hsettles : (RetiringWork.transferred purpose (.awaitingSettlement witness) :
            RetiringWork S Message).settleInput input
              = some (.transferred purpose .inputRejected, some input) := by
          match input, hrefused with
          | .attempted (.rejected _ _), _ | .attempted (.corrupt _ _), _ | .unattempted _, _ =>
            simp only [RetiringWork.settleInput, hadmits, if_true]
        simp only [acceptRetiringWork, hsettles]
        exact continueRetirement_turn hentry (.inputRefused hcreation hwitness hrefused)
    · simp only [acceptRetiringWork, RetiringWork.settleInput, if_neg hadmits]
      exact .refused (by simp)
  · have hsettles : work.settleInput input = none := by
      rcases work with _ | _ | _ | _ | _ | ⟨purpose, custody⟩
      case transferred =>
        cases custody with
        | awaitingSettlement witness => exact absurd ⟨purpose, witness, rfl⟩ hgiven
        | _ => rfl
      all_goals rfl
    simp only [acceptRetiringWork, hsettles]
    exact .refused (by simp)

theorem acceptRetiringInput_turn
    (hentry : self.services.get? key
      = some ⟨generation, operation, creation, .retiring retirement⟩)
    (hcreation : proxyInputCreation input = creation) :
    Turn self (.proxyInputSettled input) (acceptRetiringInput self key
      ⟨generation, operation, creation, .retiring retirement⟩ retirement input) := by
  have hwork := acceptRetiringWork_turn hentry hcreation
  obtain ⟨proxy, shutdown, work, stopped⟩ := retirement
  cases shutdown with
  | accepted token => exact hwork
  | rejected => exact hwork
  | awaitingSettlement witness =>
    by_cases hadmits : admits witness input = true
    · have hwitness := admits_iff.mp hadmits
      rcases accepted_or_refused input with ⟨receipt, rfl⟩ | hrefused
      · simp only [acceptRetiringInput, hadmits, if_true, entryStopResult]
        exact continueRetirement_turn hentry (.accepted hcreation hwitness)
      · obtain ⟨failure, hfailure, -⟩ := entryStopResult_refused stopped hrefused
        have hquiet : Turn self (.proxyInputSettled input) (continueRetirement self key
            ⟨generation, operation, creation,
              .retiring ⟨proxy, .awaitingSettlement witness, work, stopped⟩⟩
            ⟨proxy, .rejected, work, stopped⟩ [] [.proxyShutdownRejected key generation input]) :=
          continueRetirement_turn hentry (.refused hcreation hwitness hrefused (.inl rfl))
        simp only [acceptRetiringInput, hadmits, if_true, hfailure]
        rcases work with _ | _ | _ | _ | _ | ⟨purpose, custody⟩
        case transferred =>
          cases purpose with
          | interruptedStart start =>
            exact continueRetirement_turn hentry
              (.refused hcreation hwitness hrefused (.inr ⟨failure, rfl⟩))
          | _ => exact hquiet
        all_goals exact hquiet
    · simp only [acceptRetiringInput, if_neg hadmits]
      exact hwork

theorem acceptProxyInput_turn (self : DynamicSupervisor Key S Message)
    (input : ProxyInputResult S) :
    Turn self (.proxyInputSettled input) (acceptProxyInput self input) := by
  simp only [acceptProxyInput]
  split
  · exact .refused (by simp)
  · rename_i key entry hfound
    obtain ⟨hentry, hcreation⟩ := takeProxyEntry_some hfound
    obtain ⟨generation, operation, creation, phase⟩ := entry
    cases phase with
    | waitingForProxyInput proxy witness => exact acceptStartInput_turn hentry hcreation.symm
    | replacementAwaitingReceipt proxy service witness =>
      exact acceptReplacementInput_turn hentry hcreation.symm
    | stopping proxy restorable shutdown stopped =>
      cases shutdown with
      | awaitingSettlement witness => exact acceptStoppingInput_turn hentry hcreation.symm
      | _ => exact .refused (by simp)
    | retiring retirement => exact acceptRetiringInput_turn hentry hcreation.symm
    | _ => exact .refused (by simp)

/-! ### Stops and reports of proxies -/

theorem acceptProxyStop_turn (self : DynamicSupervisor Key S Message) (stop : ChildStopped S) :
    Turn self (.proxyStopped stop) (acceptProxyStop self stop) := by
  have hback : Turn self (.proxyStopped stop) (rejectProxyStop self stop) :=
    .kept .stopDiagnosed
  simp only [acceptProxyStop]
  split
  · exact hback
  · rename_i key entry hfound
    obtain ⟨hentry, hchild⟩ := takeProxyEntry_some hfound
    obtain ⟨generation, operation, creation, phase⟩ := entry
    match phase with
    | .stopping proxy restorable (.awaitingSettlement witness) none =>
      exact turn_fact hentry (.shifted (.stopObserved hchild.symm))
        nofun (by simp) nofun ⟨rfl, rfl⟩ rfl rfl
    | .stopping proxy restorable (.accepted token) none =>
      exact turn_fact hentry (.ended (.stopped hchild.symm))
        nofun (by simp) nofun ⟨rfl, rfl⟩ rfl rfl
    | .retiring ⟨proxy, shutdown, work, none⟩ =>
      exact settleRetirement_turn hentry (.stopped hchild.symm) (.inl rfl)
        (.inr (settled_stop_steady key generation operation creation))
    | .stopping proxy restorable .rejected none => exact hback
    | .stopping proxy restorable shutdown (some _) => cases shutdown <;> exact hback
    | .retiring ⟨proxy, shutdown, work, some _⟩ => exact hback
    | .creatingProxy _ => exact hback
    | .shuttingDownProxyCreation => exact hback
    | .drainingProxyCreationStop => exact hback
    | .waitingForStartup _ _ => exact hback
    | .waitingForProxyInput _ _ => exact hback
    | .waitingForProxyOutcome _ _ => exact hback
    | .cancellingProxyCreation => exact hback
    | .stoppingProxyCreation _ _ => exact hback
    | .available _ _ _ => exact hback
    | .replacementQueued _ _ _ => exact hback
    | .replacementAwaitingReceipt _ _ _ => exact hback
    | .replacementAwaitingOutcome _ _ _ => exact hback

theorem acceptReplacementOutcome_turn {service token outcome}
    (hentry : self.services.get? key
      = some ⟨generation, operation, creation, .replacementAwaitingOutcome proxy service token⟩) :
    Turn self (.proxyReported ⟨creation, .replacement outcome⟩) (acceptReplacementOutcome self key
        ⟨generation, operation, creation, .replacementAwaitingOutcome proxy service token⟩ proxy
        service outcome) := by
  have hback : Turn self (.proxyReported ⟨creation, .replacement outcome⟩)
      (rejectProxyOutcome self ⟨creation, .replacement outcome⟩) :=
    .kept .outcomeRejected
  simp only [acceptReplacementOutcome]
  split
  · exact hback
  · rename_i hreplaces
    have hsame := Bool.eq_false_iff.mpr hreplaces
    split
    · exact hback
    · rename_i service' failure hresult
      cases failure with
      | none =>
        exact turn_freed hentry (.shifted (.replaced hsame hresult)) nofun (by simp) nofun rfl rfl
      | some failure =>
        exact turn_freed hentry (.shifted (.unreplaced hsame hresult)) nofun (by simp) nofun rfl rfl

/-- An initial outcome reaches an entry that waits for it. -/
theorem initialOutcome_turn {token outcome}
    (hfound : self.takeProxyEntry creation
      = some (key, ⟨generation, operation, creation, .waitingForProxyOutcome proxy token⟩))
    (hentry : self.services.get? key
      = some ⟨generation, operation, creation, .waitingForProxyOutcome proxy token⟩) :
    Turn self (.proxyReported ⟨creation, .initial outcome⟩)
      (acceptProxyReport self ⟨creation, .initial outcome⟩) := by
  by_cases hready : ∃ attempt readiness, outcome = .resolved (.ready attempt readiness)
  · obtain ⟨attempt, readiness, rfl⟩ := hready
    simp only [acceptProxyReport, hfound]
    exact turn_freed hentry (.shifted .ready) nofun (by simp) nofun rfl rfl
  · have hfails : ∀ attempt readiness, outcome ≠ .resolved (.ready attempt readiness) :=
      fun attempt readiness h => hready ⟨attempt, readiness, h⟩
    simp only [acceptProxyReport, hfound]
    exact turn_freed hentry (.retired (.startFailed hfails)) nofun (by simp) nofun rfl rfl

/-- The stop of its ready worker reaches an available entry. -/
theorem workerStopped_turn {worker stoppedWorker readiness latest stopped}
    (hfound : self.takeProxyEntry creation = some (key,
      ⟨generation, operation, creation, .available proxy (.ready worker readiness) latest⟩))
    (hentry : self.services.get? key = some
      ⟨generation, operation, creation, .available proxy (.ready worker readiness) latest⟩) :
    Turn self (.proxyReported ⟨creation, .workerStopped stoppedWorker stopped⟩)
      (acceptProxyReport self ⟨creation, .workerStopped stoppedWorker stopped⟩) := by
  simp only [acceptProxyReport, hfound]
  split
  · rename_i hsame
    obtain rfl := hsame
    cases hexit : self.unexpectedExit with
    | keepEmpty =>
      refine .moved hentry (by simp) (.shifted .emptied) ?_
        (.inl ⟨rfl, fun after h => by cases h; rfl⟩) (.inl rfl)
        ⟨rfl, rfl, rfl, rfl, rfl, rfl, rfl⟩ (.inr ⟨rfl, rfl⟩) (.fact (by simp))
      intro worker' readiness' stopped' disposition hmem
      obtain ⟨-, -, -, -, -, rfl⟩ := DynamicLifecycle.unexpectedWorkerStopped.inj
        (List.mem_singleton.mp hmem)
      exact hexit.symm
    | retire =>
      refine .moved hentry (by simp) (.retired .workerStopped) ?_
        (.inl ⟨rfl, fun after h => by cases h; rfl⟩) (.inl rfl)
        ⟨rfl, rfl, rfl, rfl, rfl, rfl, rfl⟩ (.inr ⟨rfl, rfl⟩) (.fact (by simp))
      intro worker' readiness' stopped' disposition hmem
      obtain ⟨-, -, -, -, -, rfl⟩ := DynamicLifecycle.unexpectedWorkerStopped.inj
        (List.mem_singleton.mp hmem)
      exact hexit.symm
  · exact .kept .outcomeRejected

/-- An outcome reaches a retirement that waits for one. -/
theorem retiringOutcome_turn {shutdown purpose token stopped outcome}
    (hfound : self.takeProxyEntry creation = some (key, ⟨generation, operation, creation,
      .retiring ⟨proxy, shutdown, .transferred purpose (.awaitingOutcome token), stopped⟩⟩))
    (hentry : self.services.get? key = some ⟨generation, operation, creation,
      .retiring ⟨proxy, shutdown, .transferred purpose (.awaitingOutcome token), stopped⟩⟩) :
    Turn self (.proxyReported ⟨creation, outcome⟩) (acceptProxyReport self ⟨creation, outcome⟩) := by
  cases outcome with
  | initial initial | replacement replacement =>
    simp only [acceptProxyReport, hfound]
    split
    · rename_i hexpects
      exact continueRetirement_turn hentry (.reported hexpects)
    · exact .kept .outcomeRejected
  | workerStopped worker stop =>
    simp only [acceptProxyReport, hfound]
    exact .kept .outcomeRejected
  | unavailable sender phase command =>
    simp only [acceptProxyReport, hfound]
    exact .kept (.commandUnavailable hentry)

theorem acceptProxyReport_turn (self : DynamicSupervisor Key S Message)
    (report : ChildReport (ProxyOutcome S Message)) :
    Turn self (.proxyReported report) (acceptProxyReport self report) := by
  obtain ⟨child, outcome⟩ := report
  cases hfound : self.takeProxyEntry child with
  | none =>
    simp only [acceptProxyReport, hfound]
    exact .kept .outcomeRejected
  | some found =>
    obtain ⟨key, entry⟩ := found
    obtain ⟨hentry, hcreation⟩ := takeProxyEntry_some hfound
    obtain ⟨generation, operation, creation, phase⟩ := entry
    dsimp only at hcreation
    subst hcreation
    cases phase with
    | waitingForProxyOutcome proxy token =>
      cases outcome with
      | initial outcome => exact initialOutcome_turn hfound hentry
      | _ =>
        simp only [acceptProxyReport, hfound]
        first | exact .kept .outcomeRejected | exact .kept (.commandUnavailable hentry)
    | replacementAwaitingOutcome proxy service token =>
      cases outcome with
      | replacement outcome =>
        simp only [acceptProxyReport, hfound]
        exact acceptReplacementOutcome_turn hentry
      | _ =>
        simp only [acceptProxyReport, hfound]
        first | exact .kept .outcomeRejected | exact .kept (.commandUnavailable hentry)
    | available proxy service latest =>
      cases service with
      | ready worker readiness =>
        cases outcome with
        | workerStopped stoppedWorker stopped => exact workerStopped_turn hfound hentry
        | _ =>
          simp only [acceptProxyReport, hfound]
          first | exact .kept .outcomeRejected | exact .kept (.commandUnavailable hentry)
      | empty previous =>
        cases outcome <;> simp only [acceptProxyReport, hfound] <;>
          first | exact .kept .outcomeRejected | exact .kept (.commandUnavailable hentry)
    | retiring retirement =>
      obtain ⟨proxy, shutdown, work, stopped⟩ := retirement
      rcases work with _ | _ | _ | _ | _ | ⟨purpose, custody⟩
      case transferred =>
        cases custody with
        | awaitingOutcome token => exact retiringOutcome_turn hfound hentry
        | _ =>
          cases outcome <;> simp only [acceptProxyReport, hfound] <;>
            first | exact .kept .outcomeRejected | exact .kept (.commandUnavailable hentry)
      all_goals
        cases outcome <;> simp only [acceptProxyReport, hfound] <;>
          first | exact .kept .outcomeRejected | exact .kept (.commandUnavailable hentry)
    | _ =>
      cases outcome <;> simp only [acceptProxyReport, hfound] <;>
        first | exact .kept .outcomeRejected | exact .kept (.commandUnavailable hentry)

/-! ### The transition -/

/-- **Every transition is a turn**, with the last step applied to it. -/
theorem transition_turn (self : DynamicSupervisor Key S Message)
    (event : DynamicSupervisorEvent Key S Message) :
    ∃ acted, Turn self event acted ∧ self.transition event = applyShutdownStep acted := by
  refine ⟨_, ?_, rfl⟩
  cases event with
  | command message => exact command_turn self message
  | proxyCreationsSettled proxies => exact acceptCreations_turn self proxies
  | proxyInputSettled input => exact acceptProxyInput_turn self input
  | proxyReported report => exact acceptProxyReport_turn self report
  | proxyDiagnosed report => exact .kept .diagnosed
  | proxyStopped stopped => exact acceptProxyStop_turn self stopped
  | shutdown =>
    cases havailability : self.availability with
    | accepting drain => exact .swept havailability
    | shuttingDown deadline =>
      simp only [beginShutdown, havailability]
      exact .kept (.shuttingDown havailability)
  | shutdownScheduleSettled input =>
    cases havailability : self.availability with
    | accepting drain => exact .refused (by simp)
    | shuttingDown deadline =>
      dsimp only
      cases hdeadline : deadline.acceptSchedule input with
      | none => exact .refused (by simp)
      | some deadline' => exact .timed havailability (.inl ⟨input, rfl, hdeadline⟩)
  | shutdownElapsed elapsed =>
    cases havailability : self.availability with
    | accepting drain => exact .refused (by simp)
    | shuttingDown deadline =>
      dsimp only
      cases hdeadline : deadline.acceptElapsed elapsed with
      | none => exact .refused (by simp)
      | some deadline' => exact .timed havailability (.inr ⟨elapsed, rfl, hdeadline⟩)

end Bombay.Directory
