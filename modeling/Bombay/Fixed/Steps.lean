/-
# What the operations on a roster can do

One lemma for each operation of `supervisor/roster/mod.rs` and
`recovery.rs` that finds an owner, a member or a batch and hands on what it holds: whom it finds, and
what it makes of it.
-/

import Bombay.Fixed.Transition

namespace Bombay.Fixed

open Proxy (ProxyOutcome ProxyPhase)
open Directory (proxied ProxyOperation ProxyInputResult ChildReport)

variable {S : Signature} {Message : Type} {owners owners' : List (RosterOwner S Message)}

/-! ### What a participant and a replacement hold -/

/-- The proxy of a participant. -/
def RecoveryParticipant.creation : RecoveryParticipant S → ℕ
  | .stopped member => member.creation
  | .initialInputDispatched _ creation .. => creation
  | .awaitingInitialOutcome _ creation .. => creation
  | .online member => member.creation

/-- The initial input of a participant that has not been resolved. -/
def RecoveryParticipant.token : RecoveryParticipant S → Option ℕ
  | .stopped _ => none
  | .initialInputDispatched _ _ _ witness => some witness
  | .awaitingInitialOutcome _ _ _ operation => some operation
  | .online _ => none

/-- The workers a participant answers for. -/
def RecoveryParticipant.attempts : RecoveryParticipant S → List WorkerAttempt
  | .online member => [member.worker]
  | _ => []

/-- The predecessor until it stopped, and the successor once it is known. -/
def WorkerReplacement.attempts (replacement : WorkerReplacement S) : List WorkerAttempt :=
  (match replacement.stopped with
    | none => [replacement.previous]
    | some _ => []) ++
  match replacement.response with
  | .outcomeReturned (.resolved _ (.ready worker _)) => [worker]
  | _ => []

/-- The shutdown of a proxy that has not been settled. -/
def ProxyStoppingMember.token (member : ProxyStoppingMember S) : Option ℕ :=
  match member.shutdown with
  | .dispatched witness => some witness
  | _ => none

namespace ReplacementCompletion

/-- The role whose replacement is complete. -/
def role : ReplacementCompletion S → MemberRole S
  | restarted role .. => role
  | inputRejected role .. => role
  | proxyFailed role .. => role

/-- Its proxy. -/
def creation : ReplacementCompletion S → ℕ
  | restarted _ creation .. => creation
  | inputRejected _ creation .. => creation
  | proxyFailed _ creation .. => creation

/-- The worker that the replacement brought online. -/
def worker : ReplacementCompletion S → Option WorkerAttempt
  | restarted _ _ _ _ _ worker _ _ => some worker
  | inputRejected .. => none
  | proxyFailed .. => none

end ReplacementCompletion

/-! ### Authorization -/

/-- A participant with a worker to replace. -/
def RecoveryParticipant.Ready : RecoveryParticipant S → Prop
  | .stopped _ => True
  | .online _ => True
  | _ => False

/-- What a member of a batch that is authorized becomes. -/
theorem RecoveryMember.authorize_some {heap} {member member' : RecoveryMember S} {operation}
    (h : member.authorize heap = some (member', operation)) :
    ∃ participant submission proxy replacement, member = .waiting participant submission ∧
      member' = .replacing participant.role participant.creation proxy replacement ∧
      replacement.response = .inputPending heap ∧ replacement.attempts = participant.attempts ∧
      operation = .replacement participant.creation submission heap ∧
      participant.token = none ∧ participant.Ready := by
  cases member with
  | replacing => cases h
  | waiting participant submission =>
    cases participant with
    | stopped member | online member =>
      cases h
      exact ⟨_, _, _, _, rfl, rfl, rfl, rfl, rfl, rfl, trivial⟩
    | initialInputDispatched => cases h
    | awaitingInitialOutcome => cases h

theorem RecoveryBatch.authorize_some {heap} {batch batch' : RecoveryBatch S} {operation}
    (h : batch.authorize heap = some (batch', operation)) :
    batch.release = .ready ∧ ∃ before member after member',
      batch.members = before ++ member :: after ∧
      batch' = { batch with members := before ++ member' :: after } ∧
      member.authorize heap = some (member', operation) := by
  unfold RecoveryBatch.authorize at h
  split at h
  · rename_i hready
    split at h
    · rename_i before member' operation' after hfirst
      simp only [Option.some.injEq, Prod.mk.injEq] at h
      obtain ⟨rfl, rfl⟩ := h
      obtain ⟨member, hmembers, hauthorize, -⟩ := Search.first_some hfirst
      exact ⟨hready, before, member, after, member', hmembers, rfl, hauthorize⟩
    · cases h
  · cases h

/-- An owner that takes no slot stays as it is. -/
theorem RosterOwner.authorize_same {heap} {owner owner' : RosterOwner S Message}
    (h : owner.authorize heap = .continue' owner' ∨ owner.authorize heap = .wait owner') :
    owner = owner' := by
  unfold RosterOwner.authorize at h
  split at h
  · simp at h
  · simpa using h
  · simpa using h
  · simpa using h
  · split at h
    · simp at h
    · simpa using h
  · simpa using h

theorem FixedRoster.declared_perm (owners : List (RosterOwner S Message)) :
    (declared owners).Perm owners :=
  Search.sortBy_perm _ owners

/-! ### Replacements -/

/-- An outcome that brings a worker online. -/
def Succeeded (outcome : Proxy.ReplacementOutcome S) : Prop :=
  ∃ replaces worker readiness, outcome = .resolved replaces (.ready worker readiness)

/-- A replacement that will bring no worker online. -/
def WorkerReplacement.Failed (replacement : WorkerReplacement S) : Prop :=
  (∃ operation reason, replacement.response = .inputRejected operation reason) ∨
    ∃ outcome, replacement.response = .outcomeReturned outcome ∧ ¬ Succeeded outcome

/-- **The progress of a replacement**: it is still under way, or it is complete. -/
theorem RecoveryMember.replacementProgress_cases (role : MemberRole S) (creation : ℕ)
    (proxy : S.Actor) (replacement : WorkerReplacement S) (recovery : ℕ) :
    ((∀ outcome, replacement.response = .outcomeReturned outcome → replacement.stopped = none) ∧
        (∀ operation reason, replacement.response ≠ .inputRejected operation reason) ∧
        replacementProgress role creation proxy replacement recovery
          = .resume (.replacing role creation proxy replacement)) ∨
      ∃ completed : ReplacementCompletion S,
        replacementProgress role creation proxy replacement recovery = .stop completed ∧
          completed.role = role ∧ completed.creation = creation ∧
          (∀ worker, completed.worker = some worker → worker ∈ replacement.attempts) ∧
          (completed.worker = none → replacement.Failed) := by
  obtain ⟨previous, readiness, stopped, response⟩ := replacement
  cases response with
  | inputPending | outcomePending => exact .inl ⟨by simp, by simp, by cases stopped <;> rfl⟩
  | inputRejected =>
    cases stopped with
    | none => exact .inr ⟨_, rfl, rfl, rfl, nofun, fun _ => .inl ⟨_, _, rfl⟩⟩
    | some stopped =>
      exact .inr ⟨_, rfl, rfl, rfl, nofun, fun _ => .inl ⟨_, _, rfl⟩⟩
  | outcomeReturned outcome =>
    cases stopped with
    | none => exact .inl ⟨by simp, by simp, rfl⟩
    | some stopped =>
      right
      cases outcome with
      | resolved replaces result =>
        cases result with
        | ready worker readiness =>
          refine ⟨_, rfl, rfl, rfl, fun worker hworker => ?_, nofun⟩
          obtain rfl := Option.some.inj hworker
          simp [WorkerReplacement.attempts]
        | _ =>
          exact ⟨_, rfl, rfl, rfl, nofun,
            fun _ => .inr ⟨_, rfl, fun ⟨_, _, _, h⟩ => nomatch h⟩⟩
      | _ =>
        exact ⟨_, rfl, rfl, rfl, nofun,
          fun _ => .inr ⟨_, rfl, fun ⟨_, _, _, h⟩ => nomatch h⟩⟩

/-- **A batch whose member takes a value**: the member goes on, or it leaves. -/
theorem RecoveryBatch.acceptMember_cases {accept} {batch : RecoveryBatch S} {answer}
    (h : batch.acceptMember accept = some answer) :
    ∃ before member after, batch.members = before ++ member :: after ∧
      (∀ other ∈ before, accept other = none) ∧
      ((∃ next, accept member = some (.resume next) ∧
          answer = .resume { batch with members := before ++ next :: after }) ∨
        ∃ completed, accept member = some (.stop completed) ∧
          answer = .stop ({ batch with members := before ++ after }, completed)) := by
  unfold acceptMember at h
  split at h
  · rename_i before next after hfirst
    obtain ⟨member, hmembers, haccept, hbefore⟩ := Search.first_some hfirst
    exact ⟨before, member, after, hmembers, hbefore,
      .inl ⟨next, haccept, (Option.some.inj h).symm⟩⟩
  · rename_i before completed after hfirst
    obtain ⟨member, hmembers, haccept, hbefore⟩ := Search.first_some hfirst
    exact ⟨before, member, after, hmembers, hbefore,
      .inr ⟨completed, haccept, (Option.some.inj h).symm⟩⟩
  · cases h

/-- Where an admitted recovery stands that takes a value. -/
theorem FixedRoster.acceptBatch_some {Answer : Type} {accept : RecoveryBatch S → Option Answer}
    {owner : RosterOwner S Message} {answer : Answer} (h : acceptBatch accept owner = some answer) :
    ∃ batch, owner = .recovery (.admitted batch) ∧ accept batch = some answer := by
  cases owner with
  | recovery recovery =>
    cases recovery with
    | admitted batch => exact ⟨batch, rfl, h⟩
    | preparing => cases h
  | _ => cases h

/-- **Where a recovery takes a value**: the batch, its member, and what becomes of the roster. -/
theorem FixedRoster.acceptRecovery_cases {accept : ℕ → RecoveryMember S →
      Option (ControlFlow (ReplacementCompletion S) (RecoveryMember S))}
    {owners : List (RosterOwner S Message)}
    {answer : ControlFlow (List (RosterOwner S Message) × ReplacementCompletion S)
      (List (RosterOwner S Message))}
    (h : acceptRecovery (fun batch => batch.acceptMember (accept batch.ticket)) owners
      = some answer) :
    ∃ first batch last before member after,
      owners = first ++ .recovery (.admitted batch) :: last ∧
      batch.members = before ++ member :: after ∧
      ((∃ next, accept batch.ticket member = some (.resume next) ∧
          answer = .resume (first ++
            .recovery (.admitted { batch with members := before ++ next :: after }) :: last)) ∨
        ∃ completed, accept batch.ticket member = some (.stop completed) ∧
          answer = .stop (first ++ ((if before ++ after = [] then []
            else [.recovery (.admitted { batch with members := before ++ after })]) ++ last),
            completed)) := by
  unfold acceptRecovery at h
  split at h
  · rename_i first batch' last hfirst
    obtain ⟨owner, rfl, howner, -⟩ := Search.first_some hfirst
    obtain ⟨batch, rfl, hbatch⟩ := acceptBatch_some howner
    obtain ⟨before, member, after, hmembers, -, ⟨next, hnext, heq⟩ | ⟨_, _, heq⟩⟩ :=
      RecoveryBatch.acceptMember_cases hbatch
    · cases heq
      exact ⟨first, batch, last, before, member, after, rfl, hmembers,
        .inl ⟨next, hnext, (Option.some.inj h).symm⟩⟩
    · cases heq
  · rename_i first batch' completed last hfirst
    obtain ⟨owner, rfl, howner, -⟩ := Search.first_some hfirst
    obtain ⟨batch, rfl, hbatch⟩ := acceptBatch_some howner
    obtain ⟨before, member, after, hmembers, -, ⟨_, _, heq⟩ | ⟨completed, hcompleted, heq⟩⟩ :=
      RecoveryBatch.acceptMember_cases hbatch
    · cases heq
    · cases heq
      refine ⟨first, batch, last, before, member, after, rfl, hmembers,
        .inr ⟨completed, hcompleted, ?_⟩⟩
      split at h
      · rename_i hnone
        have hnone' : before ++ after = [] := hnone
        rw [if_pos hnone', ← Option.some.inj h]
        rfl
      · rename_i other others hsome
        have hsome' : before ++ after ≠ [] := by
          change before ++ after = other :: others at hsome
          rw [hsome]
          exact List.cons_ne_nil _ _
        rw [if_neg hsome', ← Option.some.inj h]
        rfl
  · cases h

/-! ### Proxies that shut down -/

/-- A proxy that shuts down and takes a value. -/
theorem ProxyStoppingMember.finish_cases (member : ProxyStoppingMember S) :
    member.finish = .resume member ∨ ∃ retired, member.finish = .stop retired ∧
      retired.role = member.role := by
  obtain ⟨role, creation, proxy, shutdown, stopped⟩ := member
  cases shutdown with
  | dispatched witness => exact .inl rfl
  | accepted operation | rejected input =>
    cases stopped with
    | none => exact .inl rfl
    | some stopped => exact .inr ⟨_, rfl, rfl⟩

/-- The settlement of its shutdown. -/
theorem ProxyStoppingMember.acceptOperation_cases {member : ProxyStoppingMember S}
    {settlement answer} (h : member.acceptOperation settlement = some answer) :
    (∃ next, answer = .resume next ∧ next.role = member.role ∧ next.creation = member.creation ∧
        next.token = none) ∨ ∃ retired, answer = .stop retired ∧ retired.role = member.role := by
  have hfinish : ∀ next : ProxyStoppingMember S, next.finish = answer → next.role = member.role →
      next.creation = member.creation → next.token = none →
      (∃ next, answer = .resume next ∧ next.role = member.role ∧ next.creation = member.creation ∧
        next.token = none) ∨ ∃ retired, answer = .stop retired ∧ retired.role = member.role := by
    intro next heq hrole hcreation htoken
    rcases next.finish_cases with hresume | ⟨retired, hstop, hretired⟩
    · exact .inl ⟨next, heq.symm.trans hresume, hrole, hcreation, htoken⟩
    · exact .inr ⟨retired, heq.symm.trans hstop, hretired.trans hrole⟩
  unfold ProxyStoppingMember.acceptOperation at h
  split at h
  · split at h
    · split at h
      · split at h
        · exact hfinish _ (Option.some.inj h) rfl rfl rfl
        · exact hfinish _ (Option.some.inj h) rfl rfl rfl
      · exact hfinish _ (Option.some.inj h) rfl rfl rfl
    · cases h
  · cases h

/-- The stop of its proxy. -/
theorem ProxyStoppingMember.acceptStop_cases {member : ProxyStoppingMember S} {stopped answer}
    (h : member.acceptStop stopped = some answer) :
    (∃ next, answer = .resume next ∧ next.role = member.role ∧ next.creation = member.creation ∧
        next.token = member.token) ∨
      ∃ retired, answer = .stop retired ∧ retired.role = member.role := by
  unfold ProxyStoppingMember.acceptStop at h
  split at h
  · rcases ProxyStoppingMember.finish_cases { member with stopped := some stopped } with
      hresume | ⟨retired, hstop, hretired⟩
    · exact .inl ⟨_, (Option.some.inj h).symm.trans hresume, rfl, rfl, rfl⟩
    · exact .inr ⟨retired, (Option.some.inj h).symm.trans hstop, hretired⟩
  · cases h

/-! ### Selection -/

/-- **The owners that a strategy takes.** -/
theorem FixedRoster.selectPeers_some {strategy trigger stay before after}
    (h : selectPeers strategy trigger owners = some (stay, before, after)) :
    ∃ chosen selected, owners.Perm (chosen ++ stay) ∧
      List.Forall₂ (fun owner participant =>
        RecoveryParticipant.select owner = some participant) chosen selected ∧
      (before ++ after).Perm selected := by
  have hsorted := Search.sortBy_perm RosterOwner.lastRosterPosition owners
  cases strategy with
  | oneForOne =>
    simp only [selectPeers, Option.some.injEq, Prod.mk.injEq] at h
    obtain ⟨rfl, rfl, rfl⟩ := h
    exact ⟨[], [], hsorted.symm, .nil, List.Perm.refl _⟩
  | oneForAll =>
    simp only [selectPeers] at h
    obtain ⟨selected, hselected, heq⟩ := Option.map_eq_some_iff.mp h
    simp only [Prod.mk.injEq] at heq
    obtain ⟨rfl, rfl, rfl⟩ := heq
    refine ⟨_, selected, ?_, Search.forall₂_of_mapM hselected, ?_⟩
    · rw [List.append_nil]
      exact hsorted.symm
    · have hfilter := List.filter_append_perm
        (fun participant : RecoveryParticipant S => decide (participant.role.position < trigger))
        selected
      simpa only [decide_not] using hfilter
  | restForOne =>
    simp only [selectPeers] at h
    obtain ⟨selected, hselected, heq⟩ := Option.map_eq_some_iff.mp h
    simp only [Prod.mk.injEq] at heq
    obtain ⟨rfl, rfl, rfl⟩ := heq
    refine ⟨_, selected, ?_, Search.forall₂_of_mapM hselected, List.Perm.refl _⟩
    refine hsorted.symm.trans ((List.filter_append_perm
      (fun owner => owner.lastRosterPosition.any fun position =>
        decide (position < trigger)) _).symm.trans
        List.perm_append_comm)

/-- The owners that `deselected` hands back. -/
theorem FixedRoster.deselected_perm (strategy : Strategy) (trigger : ℕ)
    (owners : List (RosterOwner S Message)) :
    (deselected strategy trigger owners).Perm owners := by
  have hsorted := Search.sortBy_perm RosterOwner.lastRosterPosition owners
  cases strategy with
  | oneForOne => exact hsorted
  | oneForAll => exact hsorted
  | restForOne => exact (List.filter_append_perm _ _).trans hsorted

/-- The online member whose worker stopped. -/
theorem FixedRoster.acceptWorkerStop_some {child worker stopped rest member}
    (h : acceptWorkerStop child worker stopped owners = some (rest, member)) :
    ∃ before after online, owners = before ++ .online online :: after ∧ rest = before ++ after ∧
      member = online.stop stopped ∧ online.creation = child ∧ online.worker = worker := by
  unfold acceptWorkerStop at h
  split at h
  · rename_i before online after hfirst
    obtain ⟨owner, howners, howner, -⟩ := Search.first_some hfirst
    split at h
    · rename_i hworker
      simp only [Option.some.injEq, Prod.mk.injEq] at h
      obtain ⟨rfl, rfl⟩ := h
      cases owner with
      | online found =>
        simp only [RosterOwner.ownsOnlineProxy] at howner
        split at howner
        · rename_i hchild
          obtain rfl := Option.some.inj howner
          exact ⟨before, after, found, howners, rfl, rfl, hchild, hworker.symm⟩
        · cases howner
      | _ => cases howner
    · cases h
  · cases h

/-- A recovery that chooses to prepare workers has its source. -/
theorem SupervisorRecovery.choose_prepare {recovery : SupervisorRecovery S} {stop}
    {automatic : AutomaticRecovery S} {source}
    (h : recovery.choose stop = .prepare automatic source) :
    recovery = .automatic automatic ∧ automatic.source = .available source := by
  unfold choose at h
  split at h
  · cases h
  · split at h
    · cases h
    · split at h
      · rename_i hsource
        obtain ⟨rfl, rfl⟩ := RecoveryChoice.prepare.inj h
        exact ⟨rfl, hsource⟩
      · cases h
      · cases h

/-- The owner that awaits an initial outcome. -/
theorem RosterOwner.initialOutcome_some {child} {owner : RosterOwner S Message}
    {role creation operation proxy}
    (h : owner.initialOutcome child = some (role, creation, proxy, operation)) :
    owner = .starting (.awaitingProxyOutcome role creation proxy operation) ∧ creation = child := by
  unfold RosterOwner.initialOutcome at h
  split at h
  · split at h
    · rename_i hchild
      cases h
      exact ⟨rfl, hchild⟩
    · cases h
  · cases h

/-! ### Preparation -/

/-- The preparing recovery that an answer is for. -/
theorem FixedRoster.expecting_some {accepts before after recovery}
    (h : expecting accepts owners = some (before, recovery, after)) :
    owners = before ++ .recovery (.preparing recovery) :: after ∧
      accepts recovery.expected = true := by
  obtain ⟨owner, howners, howner, -⟩ := Search.first_some h
  unfold preparing at howner
  split at howner
  · split at howner
    · rename_i haccepts
      obtain rfl := Option.some.inj howner
      exact ⟨howners, haccepts⟩
    · cases howner
  · cases howner

/-- The recovery of a supervisor whose worker source is out. -/
theorem SupervisorRecovery.expectSource_some {recovery : SupervisorRecovery S}
    {awaiting : AutomaticRecovery S} (h : recovery.expectSource = some awaiting) :
    recovery = .automatic awaiting ∧ awaiting.source = .preparingWorkers := by
  unfold expectSource at h
  split at h
  · obtain rfl := Option.some.inj h
    exact ⟨rfl, rfl⟩
  · cases h

/-- **One worker was prepared for each selected role.** -/
theorem PreparingRecovery.acceptPrepared_some {recovery : PreparingRecovery S} {members prepared}
    (h : recovery.acceptPrepared members = some prepared) :
    prepared.beforeTrigger.map PreparedParticipant.member = recovery.beforeTrigger ∧
      prepared.trigger = recovery.trigger ∧
      prepared.afterTrigger.map PreparedParticipant.member = recovery.afterTrigger := by
  have hzip : ∀ (participants : List (RecoveryParticipant S)) (workers : List (PreparedWorker S)),
      participants.length ≤ workers.length →
      (participants.zipWith (fun participant prepared =>
        (⟨participant, prepared.submission⟩ : PreparedParticipant S)) workers).map
          PreparedParticipant.member = participants := by
    intro participants
    induction participants with
    | nil => intro workers _; rfl
    | cons participant participants ih =>
      intro workers hlength
      cases workers with
      | nil => simp at hlength
      | cons worker workers =>
        rw [List.zipWith_cons_cons, List.map_cons, ih workers (by simpa using hlength)]
  unfold acceptPrepared at h
  split at h
  · rename_i hlength
    split at h
    · cases h
    · rename_i triggerPrepared rest hdrop
      obtain rfl := Option.some.inj h
      have hrest : rest.length + 1 = members.length - recovery.beforeTrigger.length := by
        rw [← List.length_drop, hdrop, List.length_cons]
      refine ⟨hzip _ _ ?_, rfl, hzip _ _ ?_⟩
      · rw [List.length_take]
        omega
      · omega
  · cases h

/-- **What becomes of a prepared recovery.** -/
theorem AutomaticRecovery.decidePrepared_cases (awaiting : AutomaticRecovery S)
    (prepared : PreparedRecovery S) (source : S.Source) :
    (∃ reason, (awaiting.decidePrepared prepared source : PreparedRecoveryDecision S Message)
        = .denied ⟨prepared.beforeTrigger ++ prepared.afterTrigger, prepared.trigger.intoEmpty.1,
            prepared.triggerSubmission⟩ { awaiting with source := .available source }
            (.recoveryDenied prepared.trigger.role.name prepared.trigger.stopped reason)) ∨
      ∃ ticket timers release result schedule recoveries budget numbers,
        selectRelease awaiting.correlations.timers result = some (timers, release, schedule) ∧
        (awaiting.decidePrepared prepared source : PreparedRecoveryDecision S Message)
          = .admitted ({ prepared with trigger := { prepared.trigger with
              role := { prepared.trigger.role with recoveries := recoveries } } }.admitted ticket release)
            ⟨awaiting.settings, .available source, budget, ⟨numbers, timers⟩⟩ schedule := by
  unfold decidePrepared
  dsimp only
  split
  · exact .inl ⟨_, rfl⟩
  · split
    · exact .inl ⟨_, rfl⟩
    · split
      · exact .inl ⟨_, rfl⟩
      · rename_i hrelease
        exact .inr ⟨_, _, _, _, _, _, _, _, hrelease, rfl⟩

/-! ### Restart schedules -/

/-- **The schedule of a batch.** -/
theorem RecoveryBatch.acceptSchedule_some {input} {batch : RecoveryBatch S} {admission}
    (h : batch.acceptSchedule input = some admission) :
    ∃ timer, batch.release = .scheduling timer ∧
      (admission = .waiting { batch with release := .waiting timer } ∨
        ∃ prepared members item reason, admission = .rejected prepared item reason ∧
          intoPreparedMembers batch.members = some members ∧
          PreparedRecovery.fromAdmitted batch.trigger members = some prepared) := by
  unfold acceptSchedule at h
  split at h
  · rename_i timer scheduled hrelease
    split at h
    · exact ⟨timer, hrelease, .inl (Option.some.inj h).symm⟩
    · cases h
  · rename_i timer item reason hrelease
    split at h
    · split at h
      · rename_i members hmembers
        split at h
        · rename_i prepared hprepared
          exact ⟨timer, hrelease, .inr ⟨prepared, members, item, reason,
            (Option.some.inj h).symm, hmembers, hprepared⟩⟩
        · cases h
      · cases h
    · cases h
  · cases h

/-- The members of a batch none of which has been replaced. -/
theorem intoPreparedMembers_some {members : List (RecoveryMember S)}
    {prepared : List (PreparedParticipant S)} (h : intoPreparedMembers members = some prepared) :
    members = prepared.map PreparedParticipant.admit := by
  have hall := Search.forall₂_of_mapM h
  clear h
  induction hall with
  | nil => rfl
  | @cons member participant _ _ hhead _ ih =>
    rw [List.map_cons, ← ih]
    cases member with
    | waiting =>
      obtain rfl := Option.some.inj hhead
      rfl
    | replacing => cases hhead

/-- The trigger of a batch stands between its peers. -/
theorem PreparedRecovery.fromAdmitted_some {trigger : ℕ} {members : List (PreparedParticipant S)}
    {prepared : PreparedRecovery S} (h : fromAdmitted trigger members = some prepared) :
    members = prepared.beforeTrigger ++ ⟨.stopped prepared.trigger, prepared.triggerSubmission⟩ ::
      prepared.afterTrigger := by
  simp only [fromAdmitted] at h
  split at h
  · rename_i before stopped submission after hfirst
    obtain ⟨member, hmembers, hmember, -⟩ := Search.first_some hfirst
    split at hmember
    · obtain rfl := Option.some.inj hmember
      obtain rfl := Option.some.inj h
      exact hmembers
    · cases hmember
  · cases h

/-! ### The roster and its run -/

/-- A roster that is not in operation. -/
def FixedRoster.Left (roster : FixedRoster S Message) : Prop := ∀ owners, roster ≠ .operating owners

/-- Reporting an input that was handed back changes nothing. -/
@[simp] theorem unexpectedInput_fst (acted : Acted S Message) :
    (unexpectedInput acted).1 = acted.1 := by
  unfold unexpectedInput
  split <;> rfl

/-- The roles of the workers a supervisor is built with, where they are declared. -/
def declarationsFrom (position : ℕ) (members : List (PreparedWorker S)) : List (ℕ × S.Role) :=
  match members with
  | [] => []
  | member :: members => (position, member.role) :: declarationsFrom (position + 1) members

variable [DecidableEq S.Role]

theorem run_nil (config : Config S) (prepared : List (PreparedWorker S)) :
    run config prepared ([] : List (FixedSupervisorEvent S Message))
      = ⟨(FixedSupervisor.build config prepared).init.1, []⟩ := rfl

end Bombay.Fixed
