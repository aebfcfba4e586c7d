/-
# The worker that is published as ready

A ready worker is retained with its service through a queued or transferred replacement and
through a pending stop, and put back when these fail.  `accept_proxy_report` of
`directory/mod.rs` takes the stop of a worker only from an entry that is available; anywhere
else it is diagnosed, and the service that is put back still names the worker.  So what is
published as ready is true exactly if no stop of that worker was overlooked since its ready
outcome was accepted; the stops of its predecessors, which every replacement reports, do no
harm.
-/

import Bombay.Directory.Runs

namespace Bombay.Directory

open Proxy (ProxyOutcome InitialWorkerOutcome ReplacementOutcome)
open DynamicSupervisor

variable {Key : Type} [LinearOrder Key] {S : Signature} {Message : Type}

/-! ### What is retained -/

/-- The worker of a service that is ready, with its readiness. -/
def ServiceAvailability.readyWorker : ServiceAvailability S → Option (WorkerAttempt × S.Ready)
  | .ready worker readiness => some (worker, readiness)
  | .empty _ => none

/-- The ready worker an entry retains while it is not available. -/
def DynamicEntryPhase.reserved : DynamicEntryPhase S Message → Option (WorkerAttempt × S.Ready)
  | .replacementQueued _ service _ => service.readyWorker
  | .replacementAwaitingReceipt _ service _ => service.readyWorker
  | .replacementAwaitingOutcome _ service _ => service.readyWorker
  | .stopping _ restorable _ _ => restorable.bind (·.readyWorker)
  | _ => none

/-- The ready worker an entry retains. -/
def DynamicEntryPhase.retained : DynamicEntryPhase S Message → Option (WorkerAttempt × S.Ready)
  | .available _ service _ => service.readyWorker
  | phase => phase.reserved

/-- The entry waits for the outcome of a worker input. -/
def DynamicEntryPhase.awaitsOutcome : DynamicEntryPhase S Message → Bool
  | .waitingForProxyOutcome _ _ => true
  | .replacementAwaitingOutcome _ _ _ => true
  | _ => false

/-- The event is a ready outcome: of which proxy, with which worker. -/
inductive ReadyOutcome : DynamicSupervisorEvent Key S Message → ℕ → WorkerAttempt → S.Ready → Prop
  | initial {creation} {worker : WorkerAttempt} {readiness : S.Ready} :
      ReadyOutcome (.proxyReported ⟨creation, .initial (.resolved (.ready worker readiness))⟩)
        creation worker readiness
  | replacement {creation} {replaces worker : WorkerAttempt} {readiness : S.Ready} :
      ReadyOutcome
        (.proxyReported ⟨creation, .replacement (.resolved replaces (.ready worker readiness))⟩)
        creation worker readiness

/-- **A ready outcome is accepted** for the entry of a proxy: the entry waited for it, and is
available with that worker. -/
def Entry.Accepts (entry : Entry Key S Message) (creation : ℕ) (worker : WorkerAttempt)
    (readiness : S.Ready) : Prop :=
  ReadyOutcome entry.event creation worker readiness ∧
    ∃ key before after proxy latest, entry.before.services.get? key = some before ∧
      before.creation = creation ∧ before.phase.awaitsOutcome = true ∧
      entry.after.services.get? key = some after ∧
      after.phase = .available proxy (.ready worker readiness) latest

/-- The stop of a worker is reported. -/
def Entry.ReportsStop (entry : Entry Key S Message) (creation : ℕ) (worker : WorkerAttempt) :
    Prop :=
  ∃ stopped, entry.event = .proxyReported ⟨creation, .workerStopped worker stopped⟩

/-- **The stop of a ready worker is overlooked**: it is reported while the entry that retains the
worker is not available. -/
def Entry.Overlooks (entry : Entry Key S Message) (due : ℕ × WorkerAttempt × S.Ready) : Prop :=
  entry.ReportsStop due.1 due.2.1 ∧ ∃ key service, entry.before.services.get? key = some service ∧
    service.creation = due.1 ∧ service.phase.reserved = some due.2

/-- **A reply says that a service is ready**: a query, or the receipt of a cancellation that came
too late. -/
inductive Entry.Publishes (entry : Entry Key S Message) (key : Key) (recipient : S.Recipient) :
    Prop
  | query {replyTo} (hevent : entry.event = .command (.query key replyTo))
      (h : (replyTo, .known key (.ready recipient)) ∈ entry.actions.queryReplies)
  | cancel {operation : ℕ} {replyTo : S.Customer}
      (hevent : entry.event = .command (.cancel ⟨key, operation⟩ replyTo))
      (h : (replyTo, .committed ⟨key, operation⟩ (.ready recipient))
        ∈ entry.actions.cancelReplies)

/-! ### One entry -/

variable {worker : WorkerAttempt} {readiness : S.Ready} {key : Key}
    {entry after : DynamicEntry S Message} {recipient : S.Recipient}

omit [LinearOrder Key] in
theorem replacementResult_ready {service service' outcome failure}
    (h : replacementResult service outcome = some (service', failure))
    (hready : service'.readyWorker = some (worker, readiness)) :
    service.readyWorker = some (worker, readiness) ∨
      ∃ replaces, outcome = .resolved replaces (.ready worker readiness) ∧
        service' = .ready worker readiness := by
  cases outcome with
  | notReplaceable _ _ _ | workerAttemptsExhausted _ _ _ =>
    cases h
    exact .inl hready
  | cancelledBeforeBirth _ _ _ => cases h
  | resolved replaces result =>
    cases result with
    | creationRejected _ _ _ | unavailable _ _ =>
      cases h
      cases hready
    | ready attempt ready =>
      cases h
      cases hready
      exact .inr ⟨replaces, rfl, rfl⟩

omit [LinearOrder Key] in
/-- **What a step leaves retained was retained before, or is the outcome that was waited for.** -/
theorem Steps.retains {heap event outcome} (h : Steps key heap event entry outcome)
    (hafter : outcome.after = some after)
    (hretained : after.phase.retained = some (worker, readiness)) :
    entry.phase.retained = some (worker, readiness) ∨
      ReadyOutcome event entry.creation worker readiness ∧ entry.phase.awaitsOutcome = true ∧
        ∃ proxy latest, after.phase = .available proxy (.ready worker readiness) latest := by
  cases h with
  | retired h =>
    cases hafter
    cases hretained
  | stopping h =>
    cases hafter
    cases h with
    | available => exact .inl hretained
    | _ => cases hretained
  | uncreated hcreation hresolve h => cases hafter
  | shifted h =>
    cases hafter
    cases h with
    | ready =>
      cases hretained
      exact .inr ⟨.initial, rfl, _, _, rfl⟩
    | replaced hreplaces hresult | unreplaced hreplaces hresult =>
      rcases replacementResult_ready hresult hretained with hkept | ⟨replaces, rfl, rfl⟩
      · exact .inl hkept
      · exact .inr ⟨.replacement, rfl, _, _, rfl⟩
    | emptied => cases hretained
    | _ => exact .inl hretained
  | ended h => cases hafter
  | continued h =>
    unfold settled at hafter
    split at hafter
    · cases hafter
    · cases hafter
      cases hretained

omit [LinearOrder Key] in
theorem Evolves.retains {event} (h : Evolves key event entry after)
    (hretained : after.phase.retained = some (worker, readiness)) :
    entry.phase.retained = some (worker, readiness) ∨
      ReadyOutcome event entry.creation worker readiness ∧ entry.phase.awaitsOutcome = true ∧
        ∃ proxy latest, after.phase = .available proxy (.ready worker readiness) latest := by
  induction h with
  | kept => exact .inl hretained
  | stepped hstep hafter => exact hstep.retains hafter hretained
  | authorized hbefore hauthorized ih =>
    cases hauthorized with
    | start => cases hretained
    | replacement =>
      rcases ih hretained with hkept | ⟨-, -, proxy, latest, hphase⟩
      · exact .inl hkept
      · cases hphase
  | @swept entry heap hevent =>
    obtain ⟨generation, operation, creation, phase⟩ := entry
    cases phase <;> first | exact .inl hretained | cases hretained

/-! ### The table -/

/-- The table retains a ready worker for a proxy. -/
def DynamicSupervisor.Retains (self : DynamicSupervisor Key S Message)
    (due : ℕ × WorkerAttempt × S.Ready) : Prop :=
  ∃ key entry, self.services.get? key = some entry ∧ entry.creation = due.1 ∧
    entry.phase.retained = some due.2

/-- **The stop of its ready worker leaves an available entry without it.** -/
theorem workerStopped_leaves {self} (hsound : Sound self) {proxy latest stopped}
    (hentry : self.services.get? key = some entry)
    (hphase : entry.phase = .available proxy (.ready worker readiness) latest)
    (hafter : (self.transition
      (.proxyReported ⟨entry.creation, .workerStopped worker stopped⟩)).1.services.get? key
        = some after) : after.phase.retained = none := by
  have hfound := hsound.takeProxyEntry hentry
  obtain ⟨generation, operation, creation, phase⟩ := entry
  dsimp only at hphase hfound hafter
  subst hphase
  have htransition : (self.transition
      (.proxyReported ⟨creation, .workerStopped worker stopped⟩)).1
        = (acceptProxyReport self ⟨creation, .workerStopped worker stopped⟩).1 :=
    applyShutdownStep_fst _
  rw [htransition] at hafter
  simp only [acceptProxyReport, hfound, if_true] at hafter
  split at hafter
  · simp only [put_get?, if_true, Option.some.injEq] at hafter
    rw [← hafter]
    rfl
  · simp only [put_get?, if_true, Option.some.injEq] at hafter
    rw [← hafter]
    rfl

/-- An entry that retains a ready worker is available, or keeps it in reserve. -/
theorem DynamicEntryPhase.retained_cases {phase : DynamicEntryPhase S Message}
    (h : phase.retained = some (worker, readiness)) :
    phase.reserved = some (worker, readiness) ∨
      ∃ proxy latest, phase = .available proxy (.ready worker readiness) latest := by
  cases phase with
  | available proxy service latest =>
    cases service with
    | ready _ _ =>
      cases h
      exact .inr ⟨proxy, latest, rfl⟩
    | empty _ => cases h
  | _ => exact .inl h

/-- What ends the retention of a ready worker: its stop is reported and not overlooked, or another
ready outcome is accepted. -/
def Entry.Releases (entry : Entry Key S Message) (due : ℕ × WorkerAttempt × S.Ready) : Prop :=
  entry.ReportsStop due.1 due.2.1 ∧ ¬ entry.Overlooks due ∨
    ∃ worker readiness, entry.Accepts due.1 worker readiness

/-- **A worker that is retained was accepted in this transition, or was retained before and not
released.** -/
theorem Entry.Valid.retains {entry : Entry Key S Message} (h : entry.Valid) {due}
    (hretains : entry.after.Retains due) :
    entry.Accepts due.1 due.2.1 due.2.2 ∨ entry.before.Retains due ∧ ¬ entry.Releases due := by
  obtain ⟨creation, worker, readiness⟩ := due
  obtain ⟨key, after, hafter, hcreation, hretained⟩ := hretains
  dsimp only at hcreation hretained ⊢
  subst hcreation
  by_cases haccepts : entry.Accepts after.creation worker readiness
  · exact .inl haccepts
  right
  rcases h.entry_before hafter with ⟨old, hold, hmoves⟩ | ⟨⟨submission, _, -, hphase⟩, -, -⟩
  · have hsame := hmoves.kept_identity.1
    rcases hmoves.retains hretained with hkept | ⟨hready, hawaits, proxy, latest, hphase⟩
    · refine ⟨⟨key, old, hold, hsame.symm, hkept⟩, ?_⟩
      rintro (⟨⟨stopped, hevent⟩, hnot⟩ | ⟨other, ready, haccepted⟩)
      · -- The stop was not overlooked, so the entry was available and let the worker go.
        rcases DynamicEntryPhase.retained_cases hkept with hreserved | ⟨proxy, latest, hphase⟩
        · exact hnot ⟨⟨stopped, hevent⟩, key, old, hold, hsame.symm, hreserved⟩
        · have htransition : entry.after = (entry.before.transition
              (.proxyReported ⟨old.creation, .workerStopped worker stopped⟩)).1 := by
            rw [h.moves, hevent, hsame]
            rfl
          rw [htransition] at hafter
          have hgone := workerStopped_leaves h.sound hold hphase hafter
          rw [hretained] at hgone
          cases hgone
      · -- Whatever was accepted for this proxy is what is retained now.
        obtain ⟨hready, other', before, after', proxy, latest, hbefore, hcreation', hawaits, hthere,
          hphase⟩ := haccepted
        dsimp only at hcreation'
        obtain rfl := h.sound.distinct other' key before old hbefore hold
          (hcreation'.trans hsame)
        obtain rfl := Option.some.inj (hafter.symm.trans hthere)
        have hboth := hretained
        rw [hphase] at hboth
        cases hboth
        exact haccepts ⟨hready, other', before, after, proxy, latest, hbefore, hcreation', hawaits,
          hafter, hphase⟩
    · exact absurd ⟨hsame ▸ hready, key, old, after, proxy, latest, hold, hsame.symm, hawaits,
        hafter, hphase⟩ haccepts
  · rw [hphase] at hretained
    cases hretained

/-! ### Replies -/

theorem status_ready {phase : DynamicEntryPhase S Message} (h : phase.status = .ready recipient) :
    ∃ proxy worker readiness latest, phase = .available proxy (.ready worker readiness) latest ∧
      recipient = S.recipient proxy := by
  cases phase with
  | available proxy service latest =>
    cases service with
    | ready worker readiness =>
      cases h
      exact ⟨proxy, worker, readiness, latest, rfl, rfl⟩
    | empty _ => cases h
  | _ => cases h

/-- The replies of a transition are those of its handler. -/
theorem Entry.Valid.replies {entry : Entry Key S Message} (h : entry.Valid) {message}
    (hevent : entry.event = .command message) :
    (entry.actions.queryReplies = [] ∧ entry.actions.cancelReplies = []) ∨
      ∃ actions, (command entry.before message).2 = .ok actions ∧
        entry.actions.queryReplies = actions.queryReplies ∧
        entry.actions.cancelReplies = actions.cancelReplies := by
  have hresult : entry.result = (applyShutdownStep (command entry.before message)).2 := by
    rw [h.moves, hevent]
    rfl
  generalize command entry.before message = acted at hresult ⊢
  obtain ⟨self, result⟩ := acted
  rw [Entry.actions, hresult]
  cases result with
  | error input => exact .inl ⟨rfl, rfl⟩
  | ok actions =>
    refine .inr ⟨actions, rfl, ?_⟩
    rw [applyShutdownStep]
    dsimp only
    split <;> exact ⟨rfl, rfl⟩

/-- A cancellation that came too late for a service that is ready. -/
theorem cancel_ready {self : DynamicSupervisor Key S Message} {operation : ℕ}
    {replyTo : S.Customer} {actions : DynamicActions Key S Message}
    (hactions : (cancel self ⟨key, operation⟩ replyTo).2 = .ok actions)
    (hreply : (replyTo, .committed ⟨key, operation⟩ (.ready recipient)) ∈ actions.cancelReplies) :
    ∃ service proxy worker readiness latest, self.services.get? key = some service ∧
      service.phase = .available proxy (.ready worker readiness) latest ∧
      recipient = S.recipient proxy := by
  cases hservice : self.services.get? key with
  | none =>
    simp only [cancel, hservice] at hactions
    cases hactions
    simp at hreply
  | some entry =>
    obtain ⟨generation, last, creation, phase⟩ := entry
    simp only [cancel, hservice] at hactions
    split at hactions
    · cases hactions
      simp at hreply
    · cases phase with
      | available proxy service latest =>
        cases latest with
        | cancelled =>
          cases hactions
          simp at hreply
        | committed =>
          cases hactions
          simp only [List.mem_singleton, Prod.mk.injEq, CancellationReceipt.committed.injEq,
            true_and] at hreply
          obtain ⟨proxy', worker, readiness, latest, hphase, hrecipient⟩ :=
            status_ready hreply.symm
          exact ⟨_, proxy', worker, readiness, latest, rfl, hphase, hrecipient⟩
      | retiring retirement =>
        obtain ⟨proxy, shutdown, work, stopped⟩ := retirement
        rcases work with _ | _ | _ | _ | _ | ⟨purpose, custody⟩
        case transferred =>
          cases purpose <;>
          · cases hactions
            simp at hreply
        all_goals
          cases hactions
          simp at hreply
      | _ =>
        cases hactions
        simp at hreply

/-- **What is published as ready is retained as ready**: the entry is available with its worker. -/
theorem Entry.Valid.publishes {entry : Entry Key S Message} (h : entry.Valid)
    (hpublishes : entry.Publishes key recipient) :
    ∃ service proxy worker readiness latest, entry.before.services.get? key = some service ∧
      service.phase = .available proxy (.ready worker readiness) latest ∧
      recipient = S.recipient proxy := by
  cases hpublishes with
  | @query replyTo hevent hreply =>
    rcases h.replies hevent with ⟨hnone, -⟩ | ⟨actions, hactions, hsame, -⟩
    · rw [hnone] at hreply
      cases hreply
    · rw [hsame] at hreply
      cases havailability : entry.before.availability with
      | shuttingDown deadline =>
        simp only [command, havailability, commandWhileShuttingDown, Except.ok.injEq] at hactions
        rw [← hactions] at hreply
        simp only [List.mem_singleton, Prod.mk.injEq, true_and] at hreply
        split at hreply <;> cases hreply
      | accepting drain =>
        simp only [command, havailability, query, Except.ok.injEq] at hactions
        rw [← hactions] at hreply
        simp only [List.mem_singleton, Prod.mk.injEq, true_and] at hreply
        split at hreply
        · rename_i service hservice
          simp only [QueryReply.known.injEq, true_and] at hreply
          obtain ⟨proxy, worker, readiness, latest, hphase, hrecipient⟩ := status_ready hreply.symm
          exact ⟨service, proxy, worker, readiness, latest, hservice, hphase, hrecipient⟩
        · cases hreply
  | @cancel operation replyTo hevent hreply =>
    rcases h.replies hevent with ⟨-, hnone⟩ | ⟨actions, hactions, -, hsame⟩
    · rw [hnone] at hreply
      cases hreply
    · rw [hsame] at hreply
      cases havailability : entry.before.availability with
      | shuttingDown deadline =>
        simp only [command, havailability, commandWhileShuttingDown, Except.ok.injEq] at hactions
        rw [← hactions] at hreply
        simp at hreply
      | accepting drain =>
        simp only [command, havailability] at hactions
        exact cancel_ready hactions hreply

/-! ### Runs -/

/-- **What is published as ready, and when it is true.**  The entry is available with the worker
of the latest ready outcome that was accepted for it; every stop of that worker reported since was
overlooked, and none was reported exactly if none was overlooked. -/
theorem ready_published_truthfully (config : Config)
    (events : List (DynamicSupervisorEvent Key S Message))
    {before after : List (Entry Key S Message)}
    {entry : Entry Key S Message} (heq : (run config events).entries = before ++ entry :: after)
    {key : Key} {recipient : S.Recipient} (hpublishes : entry.Publishes key recipient) :
    ∃ service proxy worker readiness latest, entry.before.services.get? key = some service ∧
      service.phase = .available proxy (.ready worker readiness) latest ∧
      recipient = S.recipient proxy ∧
      ∃ earlier accepted later, before = earlier ++ accepted :: later ∧
        accepted.Accepts service.creation worker readiness ∧
        (∀ between ∈ later, ∀ other ready, ¬ between.Accepts service.creation other ready) ∧
        (∀ between ∈ later, between.ReportsStop service.creation worker →
          between.Overlooks (service.creation, worker, readiness)) ∧
        ((∀ between ∈ later, ¬ between.ReportsStop service.creation worker) ↔
          ∀ between ∈ later, ¬ between.Overlooks (service.creation, worker, readiness)) := by
  have h := run_coherent config events
  have hvalid := h.valid entry (by rw [heq]; simp)
  obtain ⟨service, proxy, worker, readiness, latest, hservice, hphase, hrecipient⟩ :=
    hvalid.publishes hpublishes
  refine ⟨service, proxy, worker, readiness, latest, hservice, hphase, hrecipient, ?_⟩
  have hprior := h.prior heq
  have hnothing : ∀ due, ¬ (DynamicSupervisor.new config : DynamicSupervisor Key S Message).Retains
      due := by
    rintro due ⟨key, entry, hentry, -⟩
    rw [new_get?] at hentry
    cases hentry
  have hretains : entry.before.Retains (service.creation, worker, readiness) :=
    ⟨key, service, hservice, rfl, by rw [hphase]; rfl⟩
  obtain ⟨earlier, accepted, later, hsplit, hopen, hnot⟩ :=
    hprior.trail.outstanding DynamicSupervisor.Retains
      (fun entry due => entry.Accepts due.1 due.2.1 due.2.2) Entry.Releases (hnothing _)
      (fun earlier hearlier => (hprior.valid earlier hearlier).retains) hretains
  have hoverlooked : ∀ between ∈ later, between.ReportsStop service.creation worker →
      between.Overlooks (service.creation, worker, readiness) := by
    intro between hbetween hstop
    by_contra hnoticed
    exact hnot between hbetween (.inl ⟨hstop, hnoticed⟩)
  exact ⟨earlier, accepted, later, hsplit, hopen, fun between hbetween other ready haccepts =>
    hnot between hbetween (.inr ⟨other, ready, haccepts⟩), hoverlooked,
    forall₂_congr fun between hbetween => not_congr ⟨hoverlooked between hbetween, And.left⟩⟩

/-- A ready worker is replaced; its stop is reported before its successor is ready. -/
def replaced : List (DynamicSupervisorEvent ℕ numbers Unit) :=
  started ++ [.command (.replace 3 ⟨(), ()⟩ (9 : ℕ)),
    .proxyInputSettled (.attempted (.accepted ⟨1, (7 : ℕ), 1⟩)),
    .proxyReported ⟨1, .workerStopped ⟨1, 0⟩ ⟨1, .ok .normal, 0⟩⟩,
    .proxyReported ⟨1, .replacement (.resolved ⟨1, 0⟩ (.ready ⟨1, 1⟩ ()))⟩]

/-- The service is asked for after the replacement: the stop of the predecessor was overlooked, and
what is published is true. -/
theorem ready_published_truthfully_replaced :
    ∃ before entry, (run single (replaced ++ [.command (.query 3 (9 : ℕ))])).entries
        = before ++ [entry] ∧
      (∃ between ∈ before, between.Overlooks (1, ⟨1, 0⟩, ())) ∧
      ∃ earlier accepted later, before = earlier ++ accepted :: later ∧
        accepted.Accepts 1 ⟨1, 1⟩ () ∧ ∀ between ∈ later, ¬ between.ReportsStop 1 ⟨1, 1⟩ := by
  have hthere : (run single replaced).supervisor.services.get? 3
      = some ⟨1, 2, 1, .available (7 : ℕ) (.ready ⟨1, 1⟩ ()) .committed⟩ := rfl
  have hsplit : (run single (replaced ++ [.command (.query 3 (9 : ℕ))])).entries
      = (run single replaced).entries ++
        (run single replaced).supervisor.entry (.command (.query 3 (9 : ℕ))) :: [] := by
    rw [run_snoc]
    rfl
  obtain ⟨service, proxy, worker, readiness, latest, hservice, hphase, -, earlier, accepted, later,
    hearlier, haccepts, -, -, htrue⟩ := ready_published_truthfully single _ hsplit
      (.query rfl (List.mem_singleton_self _) : Entry.Publishes _ 3 (7 : ℕ))
  obtain rfl := Option.some.inj (hservice.symm.trans hthere)
  cases hphase
  refine ⟨_, _, hsplit, ⟨(run single (replaced.take 6)).supervisor.entry
    (.proxyReported ⟨1, .workerStopped ⟨1, 0⟩ ⟨1, .ok .normal, 0⟩⟩), ?_, ⟨_, rfl⟩, 3, _, rfl, rfl,
    rfl⟩, earlier, accepted, later, hearlier, haccepts, htrue.mpr ?_⟩
  · exact List.mem_append_left _ (List.mem_append_right _ (List.mem_singleton_self _))
  · rintro between hbetween ⟨⟨stopped, hevent⟩, -⟩
    have hmem : between.event ∈ (run single replaced).entries.map (·.event) :=
      List.mem_map_of_mem (hearlier ▸ List.mem_append_right _ (List.mem_cons_of_mem _ hbetween))
    have hevents : (run single replaced).entries.map (·.event) = replaced := rfl
    rw [hevents, hevent] at hmem
    simp [replaced, started] at hmem

/-- The worker stops while its service is being stopped, and then the shutdown is refused. -/
def unnoticed : List (DynamicSupervisorEvent ℕ numbers Unit) :=
  started ++ [.command (.stop 3 (9 : ℕ)),
    .proxyReported ⟨1, .workerStopped ⟨1, 0⟩ ⟨1, .ok .normal, 0⟩⟩,
    .proxyInputSettled (.unattempted ⟨1, .shutdown, 1⟩)]

/-- The stop of the worker was reported after its ready outcome, the latest, and the service is
published as ready with that worker. -/
theorem unnoticed_stop_published :
    ∃ earlier accepted later entry, (run single (unnoticed ++ [.command (.query 3 (9 : ℕ))])).entries
        = earlier ++ accepted :: (later ++ [entry]) ∧
      entry.Publishes 3 (7 : ℕ) ∧ entry.before.services.get? 3
        = some ⟨1, 2, 1, .available (7 : ℕ) (.ready ⟨1, 0⟩ ()) .committed⟩ ∧
      accepted.Accepts 1 ⟨1, 0⟩ () ∧
      (∀ between ∈ later, ∀ worker readiness, ¬ between.Accepts 1 worker readiness) ∧
      ∃ between ∈ later, between.ReportsStop 1 ⟨1, 0⟩ := by
  refine ⟨(run single (started.take 3)).entries, (run single (started.take 3)).supervisor.entry
      (.proxyReported ⟨1, .initial (.resolved (.ready ⟨1, 0⟩ ()))⟩),
    ((run single started).supervisor.resume (unnoticed.drop 4)).entries,
    (run single unnoticed).supervisor.entry (.command (.query 3 (9 : ℕ))), rfl,
    .query rfl (List.mem_singleton_self _), rfl,
    ⟨.initial, 3, _, _, _, _, rfl, rfl, rfl, rfl, rfl⟩, ?_,
    (run single (unnoticed.take 5)).supervisor.entry
      (.proxyReported ⟨1, .workerStopped ⟨1, 0⟩ ⟨1, .ok .normal, 0⟩⟩), .tail _ (.head _), ⟨_, rfl⟩⟩
  rintro between hbetween worker readiness ⟨hready, -⟩
  have hmem := List.mem_map_of_mem (f := fun entry => entry.event) hbetween
  have hevents : ((run single started).supervisor.resume (unnoticed.drop 4)).entries.map
      (·.event) = unnoticed.drop 4 := rfl
  rw [hevents] at hmem
  generalize between.event = event at hready hmem
  simp only [unnoticed, started, List.cons_append, List.nil_append, List.drop_succ_cons,
    List.drop_zero, List.mem_cons, List.not_mem_nil, or_false] at hmem
  rcases hmem with rfl | rfl | rfl <;> cases hready

end Bombay.Directory
