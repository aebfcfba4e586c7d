/-
# Identities of a dynamic supervisor

Entries, operations and proxies are numbered by sequences that never repeat
(`directory/mod.rs`), so what was said of an entry that is gone is about no later one: a
settlement, a report or a stop names a creation that no entry has, and a cancellation
names an operation that no entry has.  A fact that nobody waits for comes back or is
diagnosed, and changes nothing.
-/

import Bombay.Directory.Realization
import Bombay.Directory.Exit

namespace Bombay.Directory

open Proxy (ProxyOutcome InitialWorkerOutcome ReplacementOutcome)
open DynamicSupervisor

variable {Key : Type} [LinearOrder Key] {S : Signature} {Message : Type}

/-! ### The size of the table -/

theorem alter_length (self : DynamicSupervisor Key S Message) (key : Key)
    (after : Option (DynamicEntry S Message)) :
    (self.services.get? key).toList.length + (self.alter key after).services.length
      = after.toList.length + self.services.length := by
  have hvalues : ∀ map : OrderedMap Key (DynamicEntry S Message), map.values.length = map.length :=
    fun map => List.length_map ..
  cases after with
  | none =>
    have h := (OrderedMap.values_erase_perm self.services key).length_eq
    rw [List.length_append, hvalues, hvalues] at h
    rw [Option.toList_none, List.length_nil, Nat.zero_add]
    exact h
  | some after =>
    have h := (OrderedMap.values_put_perm self.services key after).length_eq
    rw [List.length_append, List.length_cons, hvalues, hvalues] at h
    rw [Option.toList_some, List.length_singleton, Nat.add_comm 1]
    exact h

variable {self self' : DynamicSupervisor Key S Message}
    {event : DynamicSupervisorEvent Key S Message} {acted : Acted Key S Message} {key : Key}
    {entry : DynamicEntry S Message} {replyTo : S.Customer}
    {actions : DynamicActions Key S Message}

theorem Authorizes.length {waiting} (h : Authorizes self (self', waiting)) :
    self'.services.length = self.services.length := by
  rcases h with h | h
  · cases h
    rfl
  · rcases authorizeWaiting_cases self with hnone | ⟨key, old, new, operation, hold, -, heq⟩
    · rw [hnone] at h
      cases h
      rfl
    · rw [heq] at h
      cases h
      have halter := alter_length self key (some new)
      rw [hold, Option.toList_some, Option.toList_some, List.length_singleton,
        List.length_singleton] at halter
      exact Nat.add_left_cancel halter

/-- **A turn keeps the table within its capacity.** -/
theorem Turn.capacity
    (h : Turn self event acted) (hcapacity : self.services.length ≤ self.entries.maximum) :
    acted.1.entries = self.entries ∧ acted.1.services.length ≤ self.entries.maximum := by
  cases h with
  | refused hfact | kept hkeeps | timed havailability hdeadline => exact ⟨rfl, hcapacity⟩
  | begun haccepting habsent hfree hgeneration hoperation hcreation =>
    refine ⟨rfl, ?_⟩
    have hlength := OrderedMap.length_insert_le self.services
    refine (hlength _ _).trans ?_
    omega
  | @moved _ moved entry outcome operations self' _ _ hentry _ _ _ _ hauthorizes =>
    refine ⟨by rw [hauthorizes.frame, moved_frame], ?_⟩
    have halter := alter_length self moved outcome.after
    have hmoved : (self.moved moved outcome operations).services
        = (self.alter moved outcome.after).services := rfl
    rw [hentry, Option.toList_some, List.length_singleton, ← hmoved] at halter
    have hone : outcome.after.toList.length ≤ 1 := by cases outcome.after <;> simp
    rw [hauthorizes.length]
    omega
  | swept haccepting =>
    refine ⟨by rw [beginShutdown, haccepting], ?_⟩
    have hsame : (beginShutdown self).1.services.length = self.services.length := by
      rw [beginShutdown, haccepting]
      have hkeys := congrArg List.length
        (OrderedMap.accumulate_keys sweepEntry self.services.entries ⟨[], [], self.heap⟩)
      rw [List.length_map, List.length_map] at hkeys
      exact hkeys
    omega

/-! ### Facts -/

/-- The event is a fact that is reported, not a command and not the shutdown. -/
def DynamicSupervisorEvent.fact : DynamicSupervisorEvent Key S Message → Bool
  | .command _ => false
  | .shutdown => false
  | _ => true

/-- The creation of the proxy that a fact is about. -/
def DynamicSupervisorEvent.about : DynamicSupervisorEvent Key S Message → Option ℕ
  | .proxyCreationsSettled (.settled [settlement]) => some (creationIdentity settlement).1
  | .proxyInputSettled input => some (proxyInputCreation input)
  | .proxyReported report => some report.child
  | .proxyDiagnosed report => some report.child
  | .proxyStopped stopped => some stopped.child
  | _ => none

/-- The proxy of the entry can stop, and was not seen to. -/
def DynamicEntryPhase.stops : DynamicEntryPhase S Message → Bool
  | .stopping _ _ (.awaitingSettlement _) none => true
  | .stopping _ _ (.accepted _) none => true
  | .retiring ⟨_, _, _, none⟩ => true
  | _ => false

/-- The entry waits for the outcome. -/
def DynamicEntryPhase.Awaits : DynamicEntryPhase S Message → ProxyOutcome S Message → Prop
  | _, .unavailable _ _ _ => True
  | .waitingForProxyOutcome _ _, .initial _ => True
  | .replacementAwaitingOutcome _ service _, .replacement outcome =>
    (replacedAttempt outcome).any (· ≠ service.worker) = false ∧
      replacementResult service outcome ≠ none
  | .available _ (.ready worker _) _, .workerStopped stopped _ => worker = stopped
  | .retiring ⟨_, _, .transferred purpose (.awaitingOutcome _), _⟩, outcome =>
    purpose.expects outcome = true
  | _, _ => False

/-- The entry waits for the fact. -/
def DynamicEntry.Expects (entry : DynamicEntry S Message) :
    DynamicSupervisorEvent Key S Message → Prop
  | .proxyCreationsSettled proxies => ∃ settlement, proxies = .settled [settlement] ∧
      (creationIdentity settlement).1 = entry.creation ∧ entry.phase.proxy = none
  | .proxyInputSettled input => proxyInputCreation input = entry.creation ∧
      proxyInputOperation input ∈ entry.phase.outstanding
  | .proxyReported report => report.child = entry.creation ∧ entry.phase.Awaits report.report
  | .proxyStopped stopped => stopped.child = entry.creation ∧ entry.phase.stops = true
  | _ => False

/-- **Somebody waits for the fact**: an entry, or the deadline of the shutdown.  Every other fact is
foreign or repeated. -/
def DynamicSupervisor.Expects (self : DynamicSupervisor Key S Message)
    (event : DynamicSupervisorEvent Key S Message) : Prop :=
  (∃ key entry, self.services.get? key = some entry ∧ entry.Expects event) ∨
    ∃ deadline deadline', self.availability = .shuttingDown deadline ∧
      ((∃ input, event = .shutdownScheduleSettled input ∧
          deadline.acceptSchedule input = some deadline') ∨
        ∃ elapsed, event = .shutdownElapsed elapsed ∧
          deadline.acceptElapsed elapsed = some deadline')

/-- The fact that a diagnostic hands on whole. -/
def DynamicDiagnostic.reports :
    DynamicDiagnostic Key S Message → Option (DynamicSupervisorEvent Key S Message)
  | .rejectedProxyOutcome report => some (.proxyReported report)
  | .proxyDiagnosticReported report => some (.proxyDiagnosed report)
  | .rejectedProxyStop stopped => some (.proxyStopped stopped)
  | _ => none

omit [LinearOrder Key] in
/-- **A fact that moves an entry is one that the entry waits for.** -/
theorem Steps.expects {heap outcome} (h : Steps key heap event entry outcome)
    (hfact : event.fact = true) : entry.Expects event := by
  cases h with
  | retired h =>
    cases h with
    | createdShut hcreation hresolve | createdCancelled hcreation hresolve =>
      exact ⟨_, rfl, hcreation, rfl⟩
    | startRefused hcreation hwitness hrefused =>
      exact ⟨hcreation, List.mem_singleton.mpr hwitness⟩
    | startFailed hready => exact ⟨rfl, trivial⟩
    | workerStopped => exact ⟨rfl, rfl⟩
    | _ => cases hfact
  | stopping h =>
    cases h with
    | createdDraining hcreation hresolve | createdStopping hcreation hresolve =>
      exact ⟨_, rfl, hcreation, rfl⟩
    | _ => cases hfact
  | uncreated hcreation hresolve h =>
    refine ⟨_, rfl, hcreation, ?_⟩
    cases h <;> rfl
  | shifted h =>
    cases h with
    | created hcreation hresolve => exact ⟨_, rfl, hcreation, rfl⟩
    | startAccepted hcreation hwitness | replacementAccepted hcreation hwitness
    | stopAccepted hcreation hwitness => exact ⟨hcreation, List.mem_singleton.mpr hwitness⟩
    | replacementRefused hcreation hwitness hrefused
    | restored hcreation hwitness hrefused hfailure
    | stopRefused hcreation hwitness hrefused hfailure =>
      exact ⟨hcreation, List.mem_singleton.mpr hwitness⟩
    | stopObserved hchild => exact ⟨hchild, rfl⟩
    | ready => exact ⟨rfl, trivial⟩
    | replaced hreplaces hresult | unreplaced hreplaces hresult =>
      exact ⟨rfl, hreplaces, by rw [hresult]; simp⟩
    | emptied => exact ⟨rfl, rfl⟩
    | _ => cases hfact
  | ended h =>
    cases h with
    | settled hcreation hwitness => exact ⟨hcreation, List.mem_singleton.mpr hwitness⟩
    | failed hcreation hwitness hrefused hfailure =>
      exact ⟨hcreation, List.mem_singleton.mpr hwitness⟩
    | stopped hchild => exact ⟨hchild, rfl⟩
  | continued h =>
    cases h with
    | accepted hcreation hwitness | refused hcreation hwitness hrefused hlifecycle =>
      exact ⟨hcreation, List.mem_append_left _ (List.mem_singleton.mpr hwitness)⟩
    | inputAccepted hcreation hwitness | inputRefused hcreation hwitness hrefused =>
      exact ⟨hcreation, List.mem_append_right _ (List.mem_singleton.mpr hwitness)⟩
    | stopped hchild => exact ⟨hchild, rfl⟩
    | @reported proxy shutdown purpose token stopped outcome hexpects =>
      refine ⟨rfl, ?_⟩
      cases outcome <;> trivial

/-- **A fact nobody waits for changes nothing**: it is handed back, or handed on in one diagnostic. -/
theorem Turn.unexpected
    (h : Turn self event acted) (hfact : event.fact = true) (hnot : ¬ self.Expects event) :
    acted.1 = self ∧ (acted.2 = .error event ∨
      ∃ diagnostic, acted.2 = .ok { diagnostics := [diagnostic] } ∧
        diagnostic.reports = some event) := by
  cases h with
  | refused hcommand => exact ⟨rfl, .inl rfl⟩
  | kept hkeeps =>
    refine ⟨rfl, .inr ?_⟩
    cases hkeeps with
    | outcomeRejected | diagnosed | stopDiagnosed => exact ⟨_, rfl, rfl⟩
    | @commandUnavailable key generation operation creation service sender phase command hentry =>
      refine absurd (.inl ⟨key, _, hentry, rfl, ?_⟩) hnot
      cases service <;> trivial
    | _ => cases hfact
  | timed havailability hdeadline => exact absurd (.inr ⟨_, _, havailability, hdeadline⟩) hnot
  | begun haccepting habsent hcapacity hgeneration hoperation hcreation => cases hfact
  | moved hentry hcommand hstep => exact absurd (.inl ⟨_, _, hentry, hstep.expects hfact⟩) hnot
  | swept haccepting => cases hfact

omit [LinearOrder Key] in
/-- An entry waits for facts about its own creation. -/
theorem DynamicEntry.Expects.about (h : entry.Expects event) :
    event.about = some entry.creation := by
  cases event with
  | proxyCreationsSettled proxies =>
    obtain ⟨settlement, rfl, hcreation, -⟩ := h
    exact congrArg some hcreation
  | proxyInputSettled input | proxyReported report | proxyStopped stopped => exact congrArg some h.1
  | _ => cases h

/-- **What is said of a creation that no entry has changes nothing.** -/
theorem Turn.foreign (h : Turn self event acted) {creation} (habout : event.about = some creation)
    (hnobody : ∀ key entry, self.services.get? key = some entry → entry.creation ≠ creation) :
    acted.1 = self := by
  have hfact : event.fact = true := by
    cases event <;> first | rfl | cases habout
  refine (h.unexpected hfact ?_).1
  rintro (⟨key, entry, hentry, hexpects⟩ | ⟨_, _, _, ⟨_, rfl, _⟩ | ⟨_, rfl, _⟩⟩)
  · exact hnobody key entry hentry (Option.some.inj (hexpects.about.symm.trans habout))
  · cases habout
  · cases habout

/-- **A cancellation of an operation that its entry does not have changes nothing.** -/
theorem Turn.stale {operation} (h : Turn self (.command (.cancel ⟨key, operation⟩ replyTo)) acted)
    (hstale : ∀ entry, self.services.get? key = some entry → entry.operation ≠ operation) :
    acted.1 = self := by
  generalize hevent : (.command (.cancel ⟨key, operation⟩ replyTo) :
    DynamicSupervisorEvent Key S Message) = event at h
  cases h with
  | refused hfact => rfl
  | kept hkeeps => rfl
  | timed havailability hdeadline =>
    rcases hdeadline with ⟨input, rfl, -⟩ | ⟨elapsed, rfl, -⟩ <;> cases hevent
  | begun haccepting habsent hcapacity hgeneration hoperation hcreation => cases hevent
  | @moved _ moved entry outcome operations self' waiting actions hentry _ hstep _ _ _ _ _
      hanswers =>
    subst hevent
    exfalso
    generalize actions.answers = replies at hanswers
    generalize outcome.after = after at hanswers
    cases hanswers with
    | returned hheld | pending hheld => exact hstale _ hentry rfl
    | fact hfact => exact hfact _ rfl
  | swept haccepting => cases hevent

/-! ### Commands -/

/-- The answer is a rejection, `Unknown`, stale or the reply to a query, or the cancellation is not
accepted. -/
def Replies.declines (replies : Replies Key S) : Prop :=
  (∀ reply ∈ replies.start, ∃ rejection, reply.2 = .error rejection) ∧
    (∀ reply ∈ replies.replace, ∃ rejection, reply.2 = .error rejection) ∧
    (∀ reply ∈ replies.stop, ∃ rejection, reply.2 = .error rejection) ∧
    ∀ reply ∈ replies.cancel, reply.2.accepts = false

/-- What is left as it was, or changed by an answer that accepts. -/
def Declined (self : DynamicSupervisor Key S Message) (acted : Acted Key S Message) : Prop :=
  ∀ actions, acted.2 = .ok actions → actions.answers.declines → acted.1 = self

theorem Declined.same {result} :
    Declined self (self, result) := fun _ _ _ => rfl

theorem Declined.started {receipt} (h : (replyTo, .ok receipt) ∈ actions.startReplies) :
    Declined self (self', .ok actions) := by
  intro other hok hdeclines
  cases hok
  obtain ⟨rejection, hrejected⟩ := hdeclines.1 _ h
  cases hrejected

theorem Declined.replaced {receipt} (h : (replyTo, .ok receipt) ∈ actions.replaceReplies) :
    Declined self (self', .ok actions) := by
  intro other hok hdeclines
  cases hok
  obtain ⟨rejection, hrejected⟩ := hdeclines.2.1 _ h
  cases hrejected

theorem Declined.stopped
    (h : (replyTo, .ok key) ∈ actions.stopReplies) : Declined self (self', .ok actions) := by
  intro other hok hdeclines
  cases hok
  obtain ⟨rejection, hrejected⟩ := hdeclines.2.2.1 _ h
  cases hrejected

theorem Declined.cancelled {receipt} (h : (replyTo, receipt) ∈ actions.cancelReplies)
    (haccepts : receipt.accepts = true) : Declined self (self', .ok actions) := by
  intro other hok hdeclines
  cases hok
  have hnot := hdeclines.2.2.2 _ h
  rw [haccepts] at hnot
  cases hnot

theorem start_declined (self : DynamicSupervisor Key S Message) (key : Key)
    (submission : WorkerSubmission S) (replyTo : S.Customer) :
    Declined self (start self key submission replyTo) := by
  simp only [start]
  split
  · exact .same
  · split
    · exact .same
    · split
      · exact .same
      · exact .same
      · split
        · exact .same
        · exact .started (List.mem_singleton_self _)

theorem replace_declined (self : DynamicSupervisor Key S Message) (key : Key)
    (submission : WorkerSubmission S) (replyTo : S.Customer) :
    Declined self (replace self key submission replyTo) := by
  simp only [replace]
  split
  · exact .same
  · split
    · split
      · exact .same
      · exact .replaced (List.mem_singleton_self _)
    · exact .same

theorem cancel_declined (self : DynamicSupervisor Key S Message) (authority : CancelAuthority Key)
    (replyTo : S.Customer) : Declined self (cancel self authority replyTo) := by
  simp only [cancel]
  split
  · exact .same
  · split
    · exact .same
    · split <;> first
        | exact .same
        | exact .cancelled (List.mem_singleton_self _) rfl

/-- **A stop makes the supervisor forget** that the last change of the entry was cancelled: the stop
is rejected, since the operation numbers are exhausted. -/
def StopForgets (self : DynamicSupervisor Key S Message) (key : Key) : Prop :=
  self.operations.issue = none ∧ ∃ entry proxy service,
    self.services.get? key = some entry ∧ entry.phase = .available proxy service .cancelled

theorem stop_declined (self : DynamicSupervisor Key S Message) (key : Key)
    (replyTo : S.Customer) :
    Declined self (stop self key replyTo) ↔ ¬ StopForgets self key := by
  have hkeeps : Declined self (stop self key replyTo) → ¬ StopForgets self key →
      (Declined self (stop self key replyTo) ↔ ¬ StopForgets self key) :=
    fun hdeclined hnot => ⟨fun _ => hnot, fun _ => hdeclined⟩
  cases hentry : self.services.get? key with
  | none =>
    refine hkeeps ?_ ?_
    · simp only [stop, hentry]
      exact .same
    · rintro ⟨-, entry, proxy, service, hthere, -⟩
      rw [hentry] at hthere
      cases hthere
  | some entry =>
    obtain ⟨generation, operation, creation, phase⟩ := entry
    by_cases hforgets : self.operations.issue = none ∧
        ∃ proxy service, phase = .available proxy service .cancelled
    · obtain ⟨hnone, proxy, service, rfl⟩ := hforgets
      refine ⟨fun hdeclined => ?_, fun hnot => absurd ⟨hnone, _, proxy, service, hentry, rfl⟩ hnot⟩
      exfalso
      simp only [stop, hentry, hnone, stopOperationExhausted] at hdeclined
      have hsame := hdeclined _ rfl ⟨by simp [DynamicActions.answers],
        by simp [DynamicActions.answers], by simp [DynamicActions.answers],
        by simp [DynamicActions.answers]⟩
      have hget := congrArg (fun supervisor => supervisor.services.get? key) hsame
      simp [hentry] at hget
    · refine hkeeps ?_ ?_
      · simp only [stop, hentry]
        cases phase with
        | available proxy service latest =>
          cases hissue : self.operations.issue with
          | none =>
            cases latest with
            | committed =>
              have hsame : self.put key ⟨generation, operation, creation,
                  .available proxy service .committed⟩ = self := by
                rw [DynamicSupervisor.put, OrderedMap.insert_get? hentry]
              simp only [stopOperationExhausted, hsame]
              exact .same
            | cancelled => exact absurd ⟨hissue, proxy, service, rfl⟩ hforgets
          | some issued => exact .stopped (List.mem_singleton_self _)
        | _ =>
          first
          | exact .same
          | cases self.operations.issue with
            | none => exact .same
            | some issued => exact .stopped (List.mem_singleton_self _)
      · rintro ⟨hnone, entry, proxy, service, hthere, hphase⟩
        rw [hentry] at hthere
        cases hthere
        exact hforgets ⟨hnone, proxy, service, hphase⟩

/-- The supervisor that accepts commands is made to forget. -/
def Entry.Forgets (entry : Entry Key S Message) : Prop :=
  (∃ drain, entry.before.availability = .accepting drain) ∧
    ∃ key replyTo, entry.event = .command (.stop key replyTo) ∧ StopForgets entry.before key

/-- **A command that is declined leaves the supervisor as it was.** -/
def Entry.Atomic (entry : Entry Key S Message) : Prop :=
  ∀ message, entry.event = .command message → entry.actions.answers.declines →
    entry.after = entry.before

/-- What a command does. -/
theorem Entry.Valid.command {entry : Entry Key S Message} (h : entry.Valid) {message}
    (hevent : entry.event = .command message) :
    ∃ actions, (command entry.before message).2 = .ok actions ∧
      entry.after = (command entry.before message).1 ∧
      entry.actions.answers = actions.answers := by
  have hturn := command_turn entry.before message
  cases hresult : (Directory.command entry.before message).2 with
  | error input => exact absurd rfl ((hturn.handed_back hresult).2.2 message)
  | ok actions =>
    have hentry : entry.after = (applyShutdownStep (Directory.command entry.before message)).1 ∧
        entry.result = (applyShutdownStep (Directory.command entry.before message)).2 := by
      rw [h.moves, hevent]
      exact ⟨rfl, rfl⟩
    refine ⟨actions, rfl, hentry.1.trans (applyShutdownStep_fst _), ?_⟩
    rw [Entry.actions, hentry.2]
    generalize Directory.command entry.before message = acted at hresult
    obtain ⟨supervisor, result⟩ := acted
    cases hresult
    simp only [applyShutdownStep]
    split <;> rfl

theorem command_declined {message} : Declined self (command self message) ↔
      ¬ ((∃ drain, self.availability = .accepting drain) ∧
        ∃ key replyTo, message = .stop key replyTo ∧ StopForgets self key) := by
  have hkeeps : ∀ {P Q : Prop}, P → ¬ Q → (P ↔ ¬ Q) := fun hp hq => ⟨fun _ => hq, fun _ => hp⟩
  simp only [command]
  cases havailability : self.availability with
  | shuttingDown deadline =>
    refine hkeeps ?_ ?_
    · cases message <;> exact .same
    · rintro ⟨⟨drain, h⟩, _⟩
      cases h
  | accepting drain =>
    dsimp only
    cases message with
    | start key submission replyTo =>
      exact hkeeps (start_declined self key submission replyTo) fun hstop => by
        obtain ⟨_, _, _, h, _⟩ := hstop
        cases h
    | replace key submission replyTo =>
      exact hkeeps (replace_declined self key submission replyTo) fun hstop => by
        obtain ⟨_, _, _, h, _⟩ := hstop
        cases h
    | query key replyTo =>
      exact hkeeps .same fun hstop => by
        obtain ⟨_, _, _, h, _⟩ := hstop
        cases h
    | cancel authority replyTo =>
      exact hkeeps (cancel_declined self authority replyTo) fun hstop => by
        obtain ⟨_, _, _, h, _⟩ := hstop
        cases h
    | stop key replyTo =>
      refine (stop_declined self key replyTo).trans (not_congr ?_)
      constructor
      · exact fun hforgets => ⟨⟨drain, rfl⟩, key, replyTo, rfl, hforgets⟩
      · rintro ⟨-, other, _, heq, hforgets⟩
        cases heq
        exact hforgets

/-- **Commands are atomic exactly as long as nothing is forgotten.** -/
theorem Entry.Valid.atomic {entry : Entry Key S Message} (h : entry.Valid) :
    entry.Atomic ↔ ¬ entry.Forgets := by
  constructor
  · rintro hatomic ⟨haccepting, key, replyTo, hevent, hforgets⟩
    obtain ⟨actions, hok, hafter, hanswers⟩ := h.command hevent
    refine command_declined.mp ?_ ⟨haccepting, key, replyTo, rfl, hforgets⟩
    intro other hother hdeclines
    obtain rfl := Except.ok.inj (hok.symm.trans hother)
    rw [← hafter]
    exact hatomic _ hevent (hanswers ▸ hdeclines)
  · intro hnot message hevent hdeclines
    obtain ⟨actions, hok, hafter, hanswers⟩ := h.command hevent
    rw [hafter]
    refine command_declined.mpr ?_ actions hok (hanswers ▸ hdeclines)
    rintro ⟨haccepting, key, replyTo, rfl, hforgets⟩
    exact hnot ⟨haccepting, key, replyTo, hevent, hforgets⟩

/-! ### Exhaustion -/

/-- Why the next start is rejected, if a number has run out. -/
def DynamicSupervisor.exhausted (self : DynamicSupervisor Key S Message) : Option StartRejection :=
  if self.generations.next = none then some .entryGenerationExhausted
  else if self.operations.next = none then some .operationExhausted
  else if self.creations.next = none then some .proxyCreationExhausted
  else none

/-- The stop of the entry takes an operation number. -/
def DynamicEntryPhase.stoppable : DynamicEntryPhase S Message → Bool
  | .available _ _ _ => true
  | .creatingProxy _ => true
  | .waitingForStartup _ _ => true
  | .waitingForProxyInput _ _ => true
  | .waitingForProxyOutcome _ _ => true
  | _ => false

/-- **Exhaustion is reported**: a command that would be accepted, but for a number that has run out,
is rejected for that reason. -/
structure Entry.ReportsExhaustion (entry : Entry Key S Message) : Prop where
  start : ∀ drain key submission replyTo reason,
    entry.before.availability = .accepting drain →
    entry.event = .command (.start key submission replyTo) →
    entry.before.services.get? key = none →
    entry.before.services.length < entry.before.entries.maximum →
    entry.before.exhausted = some reason →
      entry.actions.startReplies = [(replyTo, .error ⟨key, submission, reason⟩)]
  replace : ∀ drain key submission replyTo service proxy available latest,
    entry.before.availability = .accepting drain →
    entry.event = .command (.replace key submission replyTo) →
    entry.before.services.get? key = some service →
    service.phase = .available proxy available latest → entry.before.operations.next = none →
      entry.actions.replaceReplies = [(replyTo, .error ⟨key, submission, .operationExhausted⟩)]
  stop : ∀ drain key replyTo service,
    entry.before.availability = .accepting drain →
    entry.event = .command (.stop key replyTo) →
    entry.before.services.get? key = some service → service.phase.stoppable = true →
    entry.before.operations.next = none →
      entry.actions.stopReplies = [(replyTo, .error (.operationExhausted key))]

theorem issue_none {sequence : Sequence} (h : sequence.next = none) : sequence.issue = none := by
  rw [Sequence.issue, h]

theorem issue_some {sequence : Sequence} (h : sequence.next ≠ none) :
    ∃ value rest, sequence.issue = some (value, rest) := by
  obtain ⟨value, hvalue⟩ := Option.ne_none_iff_exists'.mp h
  exact ⟨value, _, by rw [Sequence.issue, hvalue]⟩

theorem start_exhausted {submission : WorkerSubmission S} {reason : StartRejection}
    (habsent : self.services.get? key = none)
    (hfree : self.services.length < self.entries.maximum) (h : self.exhausted = some reason) :
    start self key submission replyTo
      = (self, .ok { startReplies := [(replyTo, .error ⟨key, submission, reason⟩)] }) := by
  have hroom : ¬ self.entries.maximum ≤ self.services.length := by omega
  simp only [start, habsent, Option.isSome_none, Bool.false_eq_true, if_false, hroom]
  rw [DynamicSupervisor.exhausted] at h
  split at h
  · rename_i hgenerations
    cases h
    rw [issue_none hgenerations]
  · rename_i hgenerations
    obtain ⟨generation, generations, hgeneration⟩ := issue_some hgenerations
    rw [hgeneration]
    split at h
    · rename_i hoperations
      cases h
      rw [issue_none hoperations]
    · rename_i hoperations
      obtain ⟨operation, operations, hoperation⟩ := issue_some hoperations
      rw [hoperation]
      split at h
      · rename_i hcreations
        cases h
        simp only [issue_none hcreations]
      · cases h

theorem stop_exhausted (hentry : self.services.get? key = some entry)
    (hstoppable : entry.phase.stoppable = true) (h : self.operations.issue = none) :
    ∃ actions, (stop self key replyTo).2 = .ok actions ∧
      actions.stopReplies = [(replyTo, .error (.operationExhausted key))] := by
  obtain ⟨generation, operation, creation, phase⟩ := entry
  simp only [stop, hentry, h, stopOperationExhausted]
  cases phase <;> first
    | exact ⟨_, rfl, rfl⟩
    | cases hstoppable

theorem Entry.Valid.exhaustion {entry : Entry Key S Message} (h : entry.Valid) :
    entry.ReportsExhaustion := by
  constructor
  · intro drain key submission replyTo reason haccepting hevent habsent hfree hreason
    obtain ⟨actions, hok, -, hanswers⟩ := h.command hevent
    simp only [Directory.command, haccepting, start_exhausted habsent hfree hreason] at hok
    cases hok
    exact congrArg Replies.start hanswers
  · intro drain key submission replyTo service proxy available latest haccepting hevent hservice
      hphase hexhausted
    obtain ⟨actions, hok, -, hanswers⟩ := h.command hevent
    simp only [Directory.command, haccepting, replace, hservice, hphase, issue_none hexhausted] at hok
    cases hok
    exact congrArg Replies.replace hanswers
  · intro drain key replyTo service haccepting hevent hservice hstoppable hexhausted
    obtain ⟨actions, hok, -, hanswers⟩ := h.command hevent
    obtain ⟨actions', hok', hreplies⟩ := stop_exhausted hservice hstoppable
      (issue_none hexhausted)
    simp only [Directory.command, haccepting] at hok
    obtain rfl := Except.ok.inj (hok.symm.trans hok')
    exact (congrArg Replies.stop hanswers).trans hreplies

end Bombay.Directory
