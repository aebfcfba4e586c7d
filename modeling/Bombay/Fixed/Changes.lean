/-
# The worker source and every event

A handler keeps the records of a roster in operation, but for the three that move the
worker source (`Changes`): the stop of a worker that begins a preparation, and the two
answers that end it (`Ended`).  Once the roster shuts down a handler keeps its members' roles and the
source.  So no transition loses a role or the source (`FixedSupervisor.transition_assets`),
whatever its event says.
-/

import Bombay.Fixed.Retains

namespace Bombay.Fixed

open Proxy (ProxyOutcome ProxyPhase)
open Directory (proxied ProxyOperation ProxyInputResult ChildReport StableProxyCreationSettlement
  resolve)

variable {S : Signature} {Message : Type}

/-! ### The answers that end a preparation -/

/-- The workers that an event says were prepared. -/
def FixedSupervisorEvent.prepared : FixedSupervisorEvent S Message → Option (List (PreparedWorker S))
  | .workerPreparationReturned ⟨_, .prepared _ members⟩ => some members
  | _ => none

/-- **How the answer to a preparation is taken**: it failed, or the recovery is denied, or it is
admitted. -/
inductive Ended (self : FixedSupervisor S Message) (event : FixedSupervisorEvent S Message)
    (awaiting : AutomaticRecovery S) (before after : List (RosterOwner S Message))
    (recovery : PreparingRecovery S) : Acted S Message → Prop
  | failed (source : S.Source) (state : PreparationFailureState S) (workers : event.prepared = none) :
    Ended self event awaiting before after recovery
      (applyFailedPreparation self awaiting (recovery.fail (before ++ after) source state))
  | denied {source members prepared replacements} {next : AutomaticRecovery S} {diagnostic}
      (workers : event.prepared = some members)
      (accepted : recovery.acceptPrepared members = some prepared)
      (decided : awaiting.decidePrepared prepared source = .denied replacements next diagnostic) :
    Ended self event awaiting before after recovery
      (applyRecoveryFailure { self with recovery := .automatic next } ⟨before ++ after, replacements⟩
        diagnostic)
  | admitted {source members prepared batch} {next : AutomaticRecovery S} {schedule}
      (workers : event.prepared = some members)
      (accepted : recovery.acceptPrepared members = some prepared)
      (decided : (awaiting.decidePrepared prepared source : PreparedRecoveryDecision S Message)
        = .admitted batch next schedule) :
    Ended self event awaiting before after recovery
      (authorizeRoster { self with recovery := .automatic next }
        (before ++ .recovery (.admitted batch) :: after) { restartSchedules := schedule.toList })

/-- **What a handler does with the records of a roster in operation**: it keeps them, or the worker
source goes out to a recovery, or it comes back from one. -/
inductive Changes (self : FixedSupervisor S Message) (owners : List (RosterOwner S Message))
    (event : FixedSupervisorEvent S Message) : Acted S Message → Prop
  | keeps {acted} (h : Retains self.recovery (records owners) acted) :
    Changes self owners event acted
  | begins {before after stay : List (RosterOwner S Message)} {online stopped}
      {recovery next : AutomaticRecovery S} {source beforeTrigger afterTrigger selection request}
      (event_eq : event = .proxyReported ⟨online.creation, .workerStopped online.worker stopped⟩)
      (owners_eq : owners = before ++ .online online :: after)
      (recovery_eq : self.recovery = .automatic recovery)
      (available : recovery.source = .available source)
      (selected : FixedRoster.selectPeers recovery.settings.strategy online.role.position
        (before ++ after) = some (stay, beforeTrigger, afterTrigger))
      (begun : PreparingRecovery.begin recovery source beforeTrigger (online.stop stopped)
        afterTrigger self.heap = (next, selection, request)) :
    Changes self owners event
      ({ self.operate (stay ++ [.recovery (.preparing selection)]) with
          recovery := .automatic next
          heap := self.heap + 1 },
        .ok { workerPreparations := [request] })
  | ends {before after : List (RosterOwner S Message)} {recovery} {awaiting : AutomaticRecovery S}
      {acted} (owners_eq : owners = before ++ .recovery (.preparing recovery) :: after)
      (recovery_eq : self.recovery = .automatic awaiting)
      (out : awaiting.source = .preparingWorkers)
      (h : Ended self event awaiting before after recovery acted) : Changes self owners event acted

/-! ### What becomes of the records -/

section

variable {self : FixedSupervisor S Message} {owners : List (RosterOwner S Message)}
  {event : FixedSupervisorEvent S Message}

variable {before after : List (RosterOwner S Message)} {awaiting : AutomaticRecovery S}

/-- **A recovery that begins** keeps the roles it selects. -/
theorem begun_records {stay online stopped strategy expected beforeTrigger afterTrigger}
    (hselect : FixedRoster.selectPeers strategy online.role.position (before ++ after)
      = some (stay, beforeTrigger, afterTrigger)) :
    (records (stay ++ [.recovery (.preparing
        ⟨expected, beforeTrigger, online.stop stopped, afterTrigger⟩)])).Perm
      (.preparing beforeTrigger (online.stop stopped) afterTrigger ::
        records (before ++ .online online :: after)) := by
  obtain ⟨chosen, selected, hperm, hselected, hpeers⟩ := FixedRoster.selectPeers_some hselect
  have hroles : ((RosterOwner.recovery (.preparing
      ⟨expected, beforeTrigger, online.stop stopped, afterTrigger⟩) :
        RosterOwner S Message).records).Perm
      (.preparing beforeTrigger (online.stop stopped) afterTrigger ::
        (records chosen ++ [online.role.record])) := by
    refine List.Perm.cons _ ?_
    rw [(RecoveryParticipant.selected_records hselected).1]
    refine ((PreparingRecovery.roles_perm _).map _).trans ?_
    rw [List.map_append]
    exact ((hpeers.map _).map _).append_right _
  have hrest : (records (before ++ after)).Perm (records chosen ++ records stay) := by
    rw [← records_append]
    exact records_perm hperm
  have hall : (records (before ++ .online online :: after)).Perm
      (records (before ++ after) ++ [online.role.record]) := by
    rw [records_append, records_append, records_cons]
    exact List.perm_middle.trans (List.perm_append_singleton _ _).symm
  rw [records_append, records_cons, records_nil, List.append_nil]
  refine (hroles.append_left _).trans (List.perm_middle.trans (List.Perm.cons _ ?_))
  refine List.Perm.trans ?_ (hall.trans (hrest.append_right _)).symm
  rw [← List.append_assoc]
  exact List.perm_append_comm.append_right _

/-- A preparing recovery gives its peers and its trigger back. -/
theorem records_dissolved (before after : List (RosterOwner S Message))
    (recovery : PreparingRecovery S) :
    (records (before ++ .recovery (.preparing recovery) :: after)).Perm
      (.preparing recovery.beforeTrigger recovery.trigger recovery.afterTrigger ::
        (records (before ++ after) ++
          ((recovery.beforeTrigger ++ recovery.afterTrigger).map RecoveryParticipant.role).map
            MemberRole.record ++ [recovery.trigger.role.record])) := by
  rw [records_append, records_cons]
  refine List.perm_middle.trans (List.Perm.cons _ ?_)
  rw [List.append_assoc, records_append, List.append_assoc]
  refine List.Perm.append_left _ ?_
  refine List.perm_append_comm.trans (List.Perm.append_left _ ?_)
  refine (recovery.roles_perm.map MemberRole.record).trans (.of_eq ?_)
  rw [List.map_append]
  rfl

/-- An admitted recovery keeps the roles that were selected for it. -/
theorem PreparedRecovery.admitted_records {recovery : PreparingRecovery S}
    {prepared : PreparedRecovery S} {role : MemberRole S} (ticket : ℕ)
    (release : RestartReleaseState)
    (hbefore : prepared.beforeTrigger.map PreparedParticipant.member = recovery.beforeTrigger)
    (hafter : prepared.afterTrigger.map PreparedParticipant.member = recovery.afterTrigger)
    (hrole : role.record = recovery.trigger.role.record) :
    (RosterOwner.recovery (.admitted (PreparedRecovery.admitted
        { prepared with trigger := { prepared.trigger with role := role } } ticket release)) :
          RosterOwner S Message).records
      = recovery.roles.map MemberRole.record := by
  have hroles : ∀ participants : List (PreparedParticipant S),
      (participants.map PreparedParticipant.admit).map RecoveryMember.role
        = (participants.map PreparedParticipant.member).map RecoveryParticipant.role := by
    intro participants
    rw [List.map_map, List.map_map]
    rfl
  change ((prepared.beforeTrigger.map PreparedParticipant.admit ++ .waiting (.stopped
    { prepared.trigger with role := role }) prepared.triggerSubmission ::
      prepared.afterTrigger.map PreparedParticipant.admit).map RecoveryMember.role).map
        MemberRole.record = _
  rw [List.map_append, List.map_cons, hroles, hroles, hbefore, hafter, PreparingRecovery.roles,
    List.map_append, List.map_append, List.map_cons, List.map_cons, ← hrole]
  rfl

/-- **The answer to a preparation** gives the source back, and the roles are kept. -/
theorem Ended.retains {recovery : PreparingRecovery S} {acted : Acted S Message}
    (h : Ended self event awaiting before after recovery acted) :
    ∃ next source kept, next.source = .available source ∧ Retains (.automatic next) kept acted ∧
      (records (before ++ .recovery (.preparing recovery) :: after)).Perm
        (.preparing recovery.beforeTrigger recovery.trigger recovery.afterTrigger :: kept) := by
  cases h with
  | failed source state workers =>
    refine ⟨_, source, _, rfl, applyFailedPreparation_retains self awaiting _, ?_⟩
    refine (records_dissolved before after recovery).trans (.of_eq (congrArg _ ?_))
    change _ = records (before ++ after ++ recovery.restorePeersAfterPreparationFailure) ++ _
    rw [records_append (before ++ after), PreparingRecovery.restorePeersAfterPreparationFailure,
      RecoveryParticipant.release_records]
    rfl
  | @denied source members prepared replacements next diagnostic workers accepted decided =>
    obtain ⟨hbefore, htrigger, hafter⟩ := PreparingRecovery.acceptPrepared_some accepted
    obtain ⟨reason, heq⟩ | ⟨ticket, timers, release, result, schedule, recoveries, budget, numbers,
      -, heq⟩ := (awaiting.decidePrepared_cases prepared source :
        (∃ reason, (awaiting.decidePrepared prepared source : PreparedRecoveryDecision S Message)
          = _) ∨ _)
    · cases decided.symm.trans heq
      refine ⟨_, source, _, rfl, applyRecoveryFailure_retains { self with
        recovery := .automatic { awaiting with source := .available source } } _ _, ?_⟩
      refine (records_dissolved before after recovery).trans (.of_eq (congrArg _ ?_))
      change _ = records (before ++ after) ++
        ((prepared.beforeTrigger ++ prepared.afterTrigger).map fun peer =>
          peer.member.role.record) ++ [prepared.trigger.role.record]
      rw [← hbefore, ← hafter, ← List.map_append, List.map_map, List.map_map, htrigger]
      rfl
    · cases decided.symm.trans heq
  | @admitted source members prepared batch next schedule workers accepted decided =>
    obtain ⟨hbefore, htrigger, hafter⟩ := PreparingRecovery.acceptPrepared_some accepted
    obtain ⟨reason, heq⟩ | ⟨ticket, timers, release, result, schedule', recoveries, budget, numbers,
      -, heq⟩ := (awaiting.decidePrepared_cases prepared source :
        (∃ reason, (awaiting.decidePrepared prepared source : PreparedRecoveryDecision S Message)
          = _) ∨ _)
    · cases decided.symm.trans heq
    · cases decided.symm.trans heq
      refine ⟨_, source, _, rfl, authorizeRoster_retains { self with
        recovery := .automatic ⟨awaiting.settings, .available source, budget, ⟨numbers, timers⟩⟩ }
          _ _, ?_⟩
      rw [records_append, records_append, records_cons, records_cons,
        PreparedRecovery.admitted_records ticket release hbefore hafter (by rw [← htrigger]; rfl)]
      exact List.perm_middle

/-- **Nothing is lost.** -/
theorem Changes.assets {acted} (hroster : self.roster = .operating owners)
    (h : Changes self owners event acted) : acted.1.assets.Perm self.assets := by
  have hself : self.roster.assets = (records owners).map Record.asset := by
    rw [hroster]
    rfl
  rw [FixedSupervisor.assets, FixedSupervisor.assets, hself]
  cases h with
  | keeps h =>
    rw [h.recovery]
    exact h.assets.append_right _
  | begins event_eq owners_eq recovery_eq available selected begun =>
    cases begun
    have hsource : self.recovery.assets = [.source] := by
      rw [recovery_eq, SupervisorRecovery.assets, available]
    rw [owners_eq, hsource]
    change ((records _).map Record.asset ++ []).Perm _
    rw [List.append_nil]
    exact ((begun_records selected).map Record.asset).trans
      (List.perm_append_singleton _ _).symm
  | @ends before after recovery awaiting _ owners_eq recovery_eq out h =>
    obtain ⟨next, source, kept, havailable, hretains, hkept⟩ := h.retains
    rw [owners_eq, recovery_eq, hretains.recovery, SupervisorRecovery.assets,
      SupervisorRecovery.assets, havailable, out, List.append_nil]
    refine (hretains.assets.append_right _).trans ?_
    exact (List.perm_append_singleton _ _).trans (hkept.map Record.asset).symm

/-! ### What a handler does -/

theorem Changes.same (hroster : self.roster = .operating owners) {result} :
    Changes self owners event (self, result) :=
  .keeps (.operates hroster rfl (.refl _))

theorem Changes.reject (hroster : self.roster = .operating owners)
    (input : FixedSupervisorEvent S Message) : Changes self owners event (rejectInput self input) :=
  .same hroster

/-! ### The stop of a worker -/

/-- **A worker that stopped** leaves its role empty, or begins a recovery, or is put back. -/
theorem acceptWorkerStop_changes {online} (howners : owners = before ++ .online online :: after)
    {stopped}
    (hevent : event = .proxyReported ⟨online.creation, .workerStopped online.worker stopped⟩) :
    Changes self owners event (acceptWorkerStop self (before ++ after) (online.stop stopped)) := by
  have hback : (records (before ++ after ++ [.online online])).Perm (records owners) := by
    rw [howners]
    exact records_toEnd before after (.refl _)
  unfold acceptWorkerStop
  split
  · refine .keeps (.operates rfl rfl ?_)
    rw [howners]
    exact records_toEnd before after (.refl _)
  · exact .keeps (.operates rfl rfl hback)
  · rename_i recovery source hchoice
    obtain ⟨hrecovery, hsource⟩ := SupervisorRecovery.choose_prepare hchoice
    dsimp only
    split
    · rename_i stay beforeTrigger afterTrigger hselect
      exact .begins hevent howners hrecovery hsource hselect rfl
    · refine .keeps (.operates rfl rfl (List.Perm.trans ?_ hback))
      exact records_perm ((FixedRoster.deselected_perm _ _ _).append_right _)

/-! ### Reports and settlements of proxies -/

theorem acceptInitialFailure_retains (self : FixedSupervisor S Message)
    (before after : List (RosterOwner S Message)) (role : MemberRole S) (creation : ℕ)
    (proxy : S.Actor) (operation : ℕ) (outcome : ProxyOutcome S Message) :
    Retains self.recovery
      (records (before ++ .starting (.awaitingProxyOutcome role creation proxy operation) :: after))
      (acceptInitialFailure self before after role creation proxy operation outcome) := by
  unfold acceptInitialFailure
  dsimp only
  split
  · exact .terminates rfl rfl (.refl _)
  · exact .operates rfl rfl (records_inPlace before after (.refl _))
  · exact .shuts rfl rfl (FixedShutdown.begin_assets _ _ _)

variable (hroster : self.roster = .operating owners)

include hroster

theorem acceptInitialOutcome_changes (report : ChildReport (ProxyOutcome S Message)) :
    Changes self owners event (acceptInitialOutcome self owners report) := by
  unfold acceptInitialOutcome
  split
  · exact .reject hroster _
  · rename_i before role creation proxy operation after hfirst
    obtain ⟨owner, howners, howner, -⟩ := Search.first_some hfirst
    obtain ⟨rfl, rfl⟩ := RosterOwner.initialOutcome_some howner
    split
    · refine .keeps ((authorizeRoster_retains self _ _).perm ?_)
      rw [howners]
      exact records_toEnd before after (.refl _)
    · rw [howners]
      exact .keeps (acceptInitialFailure_retains self before after _ _ _ _ _)
    · exact .reject hroster _

theorem acceptUnavailable_changes (child : ℕ)
    (sender : S.Address) (phase : ProxyPhase) (command : Message) :
    Changes self owners event (acceptUnavailable self child sender phase command) := by
  unfold acceptUnavailable
  split
  · exact .reject hroster _
  · split
    · exact .same hroster
    · exact .same hroster

theorem acceptProxyReport_changes (report : ChildReport (ProxyOutcome S Message)) :
    Changes self owners (.proxyReported report) (acceptProxyReport self report) := by
  unfold acceptProxyReport
  split
  · exact acceptUnavailable_changes hroster _ _ _ _
  · simp only [hroster]
    split
    · rename_i progress hprogress
      exact .keeps (continueRecovery_retains self
        (fun ticket => RecoveryMember.acceptRecoveryReport_keeps ticket report) hprogress)
    · split
      · split
        · rename_i worker stopped hreport _ rest member hstop
          obtain ⟨before, after, online, howners, rfl, rfl, hchild, hworker⟩ :=
            FixedRoster.acceptWorkerStop_some hstop
          refine acceptWorkerStop_changes howners ?_
          rw [hchild, hworker, ← hreport]
        · exact .reject hroster _
      · exact acceptInitialOutcome_changes hroster report

theorem acceptProxyOperation_changes (settlement : ProxyInputResult S) :
    Changes self owners event (acceptProxyOperation self settlement) := by
  simp only [acceptProxyOperation, hroster]
  split
  · rename_i progress hprogress
    exact .keeps (continueRecovery_retains self
      (fun ticket => RecoveryMember.acceptReplacementOperation_keeps ticket settlement) hprogress)
  · split
    · rename_i owners' retired hoperation
      exact .keeps ((memberRetired_retains self owners' retired).perm
        (FixedRoster.acceptOperation_records hoperation))
    · exact .reject hroster _

theorem acceptProxyExit_changes (stopped : ChildStopped S) :
    Changes self owners event (acceptProxyExit self stopped) := by
  simp only [acceptProxyExit, hroster]
  split
  · rename_i owners' retired hstop
    exact .keeps ((memberRetired_retains self owners' retired).perm
      (FixedRoster.acceptProxyStop_records hstop))
  · exact .reject hroster _

theorem acceptProxyBirth_changes (proxies : CreationsSettled (proxied S)) :
    Changes self owners event (acceptProxyBirth self proxies) := by
  simp only [acceptProxyBirth, hroster]
  split
  · split
    · rename_i settlements owners' hcreated
      exact .keeps ((authorizeRoster_retains self owners' _).perm
        (.of_eq (FixedRoster.proxiesCreated_records hcreated)))
    · exact .reject hroster _
  · exact .same hroster

/-! ### Preparation -/

theorem acceptPreparationStart_changes (hrecovery : self.recovery = .automatic awaiting)
    (hout : awaiting.source = .preparingWorkers) (input : PreparationStarted S) :
    Changes self owners (.workerPreparationStarted input)
      (acceptPreparationStart self awaiting owners input) := by
  unfold acceptPreparationStart
  split
  · exact .reject hroster _
  · rename_i before recovery after hexpecting
    obtain ⟨howners, -⟩ := FixedRoster.expecting_some hexpecting
    split
    · split
      · refine .keeps (.operates rfl rfl ?_)
        rw [howners]
        exact records_inPlace before after (.refl _)
      · exact .reject hroster _
    · exact .ends howners hrecovery hout (.failed _ _ rfl)
    · exact .ends howners hrecovery hout (.failed _ _ rfl)

theorem acceptWorkerPreparationStart_changes (input : PreparationStarted S) :
    Changes self owners (.workerPreparationStarted input)
      (acceptWorkerPreparationStart self input) := by
  unfold acceptWorkerPreparationStart
  split
  · exact .reject hroster _
  · rename_i awaiting hsource
    simp only [hroster]
    obtain ⟨hrecovery, hout⟩ := SupervisorRecovery.expectSource_some hsource
    exact acceptPreparationStart_changes hroster hrecovery hout input

theorem acceptPreparationReturn_changes (hrecovery : self.recovery = .automatic awaiting)
    (hout : awaiting.source = .preparingWorkers) (returned : WorkerPreparation S) :
    Changes self owners (.workerPreparationReturned returned)
      (acceptPreparationReturn self awaiting owners returned) := by
  obtain ⟨ticket, outcome⟩ := returned
  unfold acceptPreparationReturn
  split
  · exact .reject hroster _
  · rename_i before recovery after hexpecting
    obtain ⟨howners, -⟩ := FixedRoster.expecting_some hexpecting
    dsimp only
    split
    · rename_i source members
      split
      · exact .reject hroster _
      · rename_i prepared hprepared
        split
        · rename_i batch next schedule hdecided
          exact .ends howners hrecovery hout (.admitted rfl hprepared hdecided)
        · rename_i replacements next diagnostic hdecided
          exact .ends howners hrecovery hout (.denied rfl hprepared hdecided)
    · exact .ends howners hrecovery hout (.failed _ _ rfl)
    · exact .ends howners hrecovery hout (.failed _ _ rfl)

/-! ### Restart schedules and timers -/

theorem acceptRestartSchedule_changes (input : ScheduleSettled) :
    Changes self owners event (acceptRestartSchedule self input) := by
  simp only [acceptRestartSchedule, hroster]
  split
  · rename_i owners' hschedule
    exact .keeps ((authorizeRoster_retains self owners' _).perm
      (FixedRoster.acceptRestartSchedule_records.1 owners' hschedule))
  · rename_i rest prepared request reason hschedule
    have hrecords := FixedRoster.acceptRestartSchedule_records.2 rest prepared request reason
      hschedule
    exact .keeps ((applyRecoveryFailure_retains self
      ⟨rest, retainRejectedSchedule prepared⟩ _).perm hrecords)
  · exact .reject hroster _

theorem acceptRestartElapsed_changes (elapsed : TimerElapsed) :
    Changes self owners event (acceptRestartElapsed self elapsed) := by
  simp only [acceptRestartElapsed, hroster]
  split
  · rename_i owners' helapsed
    exact .keeps ((authorizeRoster_retains self owners' _).perm
      (FixedRoster.acceptRestartElapsed_records helapsed))
  · exact .reject hroster _

/-! ### All events -/

variable [DecidableEq S.Role]

theorem acceptCommand_changes (command : FixedCommand S) :
    Changes self owners event (acceptCommand self command) := by
  cases command with
  | shutdown =>
    simp only [acceptCommand, acceptShutdown, hroster]
    exact .keeps (.shuts rfl rfl (FixedShutdown.begin_assets _ _ _))
  | status replyTo =>
    simp only [acceptCommand, hroster, FixedRoster.status]
    exact .same hroster
  | capability role replyTo =>
    simp only [acceptCommand, hroster, FixedRoster.capability]
    exact .same hroster

/-- **What an event does with the records of a roster in operation.** -/
theorem accept_changes (event : FixedSupervisorEvent S Message) :
    Changes self owners event (self.accept event) := by
  cases event with
  | command command => exact acceptCommand_changes hroster command
  | proxyCreationsSettled proxies => exact acceptProxyBirth_changes hroster proxies
  | proxyInputSettled settlement => exact acceptProxyOperation_changes hroster settlement
  | proxyReported report => exact acceptProxyReport_changes hroster report
  | proxyDiagnosed report => exact .reject hroster _
  | proxyStopped stopped => exact acceptProxyExit_changes hroster stopped
  | workerPreparationStarted started => exact acceptWorkerPreparationStart_changes hroster started
  | workerPreparationReturned returned =>
    unfold FixedSupervisor.accept acceptWorkerPreparationReturn
    dsimp only
    split
    · exact .reject hroster _
    · rename_i awaiting hsource
      simp only [hroster]
      obtain ⟨hrecovery, hout⟩ := SupervisorRecovery.expectSource_some hsource
      exact acceptPreparationReturn_changes hroster hrecovery hout returned
  | restartScheduleSettled input => exact acceptRestartSchedule_changes hroster input
  | restartElapsed elapsed => exact acceptRestartElapsed_changes hroster elapsed

end

/-! ### A roster that shuts down -/

namespace FixedShutdown

variable {shutdown next : FixedShutdown S Message}

/-- A member that goes on in its place. -/
theorem members_inPlace {before after : List (FixedShutdownMember S Message)}
    {member member' : FixedShutdownMember S Message} (h : member'.assets = member.assets) :
    (before ++ member' :: after).flatMap FixedShutdownMember.assets
      = (before ++ member :: after).flatMap FixedShutdownMember.assets := by
  rw [List.flatMap_append, List.flatMap_append, List.flatMap_cons, List.flatMap_cons, h]

theorem acceptMember_assets {accept : FixedShutdownMember S Message →
      Option (FixedShutdownMember S Message)}
    (haccept : ∀ member member', accept member = some member' → member'.assets = member.assets)
    (h : shutdown.acceptMember accept = some next) :
    next.members.flatMap FixedShutdownMember.assets
      = shutdown.members.flatMap FixedShutdownMember.assets := by
  unfold acceptMember at h
  split at h
  · rename_i before member' after hfirst
    obtain ⟨member, hmembers, hmember, -⟩ := Search.first_some hfirst
    obtain rfl := Option.some.inj h
    rw [hmembers]
    exact members_inPlace (haccept member member' hmember)
  · cases h

theorem acceptOwned_assets {owns : FixedShutdownMember S Message → Bool}
    {accept : FixedShutdownMember S Message → Option (FixedShutdownMember S Message)}
    (haccept : ∀ member member', accept member = some member' → member'.assets = member.assets)
    (h : shutdown.acceptOwned owns accept = some next) :
    next.members.flatMap FixedShutdownMember.assets
      = shutdown.members.flatMap FixedShutdownMember.assets := by
  unfold acceptOwned at h
  split at h
  · rename_i before member after hfirst
    obtain ⟨found, hmembers, hfound, -⟩ := Search.first_some hfirst
    obtain ⟨member', hmember, rfl⟩ := Option.map_eq_some_iff.mp h
    split at hfound
    · obtain rfl := Option.some.inj hfound
      rw [hmembers]
      exact members_inPlace (haccept found member' hmember)
    · cases hfound
  · cases h

end FixedShutdown

namespace FixedShutdownMember

/-- The custody of a proxy that took a value is about the same role. -/
theorem assets_of_custody {stopping custody}
    (h : (∃ next, custody = .resume next ∧ next.role = stopping.role) ∨
      ∃ retired, custody = .stop retired ∧ retired.role = stopping.role)
    (ownership ownership' : FixedProxyOwnership S Message)
    (preparation : Option WorkerPreparationExpectation) :
    (FixedShutdownMember.proxy custody ownership' preparation).assets
      = (FixedShutdownMember.proxy (.resume stopping) ownership preparation).assets := by
  obtain ⟨next, rfl, hrole⟩ | ⟨retired, rfl, hrole⟩ := h
  · change _ ++ [next.role.asset] = _ ++ [stopping.role.asset]
    rw [hrole]
    rfl
  · change _ ++ [retired.role.asset] = _ ++ [stopping.role.asset]
    rw [hrole]
    rfl

theorem acceptOperation_assets {settlement} (member member' : FixedShutdownMember S Message)
    (h : member.acceptOperation settlement = some member') : member'.assets = member.assets := by
  unfold acceptOperation at h
  split at h
  · split at h
    · rename_i custody hcustody
      obtain rfl := Option.some.inj h
      refine assets_of_custody ?_ _ _ _
      rcases ProxyStoppingMember.acceptOperation_cases hcustody with
        ⟨next, heq, hrole, -⟩ | ⟨retired, heq, hrole⟩
      · exact .inl ⟨next, heq, hrole⟩
      · exact .inr ⟨retired, heq, hrole⟩
    · obtain ⟨ownership, -, rfl⟩ := Option.map_eq_some_iff.mp h
      rfl
  · obtain ⟨ownership, -, rfl⟩ := Option.map_eq_some_iff.mp h
    rfl
  · cases h

theorem acceptOutcome_assets {outcome} (member member' : FixedShutdownMember S Message)
    (h : member.acceptOutcome outcome = some member') : member'.assets = member.assets := by
  unfold acceptOutcome at h
  split at h
  · rename_i custody ownership preparation
    obtain ⟨ownership', -, rfl⟩ := Option.map_eq_some_iff.mp h
    cases custody <;> rfl
  · cases h

theorem acceptStop_assets {stopped} (member member' : FixedShutdownMember S Message)
    (h : member.acceptStop stopped = some member') : member'.assets = member.assets := by
  unfold acceptStop at h
  split at h
  · obtain ⟨custody, hcustody, rfl⟩ := Option.map_eq_some_iff.mp h
    refine assets_of_custody ?_ _ _ _
    rcases ProxyStoppingMember.acceptStop_cases hcustody with
      ⟨next, heq, hrole, -⟩ | ⟨retired, heq, hrole⟩
    · exact .inl ⟨next, heq, hrole⟩
    · exact .inr ⟨retired, heq, hrole⟩
  · cases h

end FixedShutdownMember

/-- An outcome that shuts down on. -/
theorem continueShutdown_assets {self shutdown} (hroster : self.roster = .shuttingDown shutdown)
    {next}
    (h : ∀ shutdown' ∈ next, shutdown'.members.flatMap FixedShutdownMember.assets
      = shutdown.members.flatMap FixedShutdownMember.assets)
    (input : FixedSupervisorEvent S Message) :
    (continueShutdown self input next).1.assets = self.assets := by
  cases next with
  | none => rfl
  | some shutdown' =>
    change shutdown'.members.flatMap _ ++ self.recovery.assets = _
    rw [h shutdown' rfl, FixedSupervisor.assets, hroster]
    rfl

end Bombay.Fixed
