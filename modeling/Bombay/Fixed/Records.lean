/-
# What an owner of a fixed roster keeps

An owner keeps roles, and a recovery whose workers are being prepared also keeps the
worker source.  `RosterOwner.records` lists both, and every operation on a roster that
neither begins nor ends a preparation keeps all records, in some order.  Once the roster
shuts down, its members keep the same: `FixedShutdown.begin_assets`.

Nothing here depends on what an event says, so it holds of foreign, stale and duplicate
ones as well.
-/

import Bombay.Fixed.Steps

namespace Bombay.Fixed

open Proxy (ProxyOutcome)
open Directory (proxied ProxyOperation ProxyInputResult ChildReport StableProxyCreationSettlement)

variable {S : Signature} {Message : Type}

/-! ### Records -/

/-- A role that an owner keeps, or the workers it has prepared and for whom. -/
inductive Record (S : Signature) where
  | role (position : ℕ) (name : S.Role)
  | preparing (beforeTrigger : List (RecoveryParticipant S)) (trigger : StoppedMember S)
      (afterTrigger : List (RecoveryParticipant S))

/-- What must not be lost: a role, or the worker source. -/
inductive Asset (S : Signature) where
  | role (position : ℕ) (name : S.Role)
  | source

/-- What a record is about. -/
def Record.asset : Record S → Asset S
  | role position name => .role position name
  | preparing .. => .source

/-- The record of a role. -/
def MemberRole.record (role : MemberRole S) : Record S := .role role.position role.name

/-- A role that is kept. -/
def MemberRole.asset (role : MemberRole S) : Asset S := .role role.position role.name

/-- The preparation an owner has under way. -/
def RosterOwner.preparation : RosterOwner S Message → List (Record S)
  | .recovery (.preparing selected) =>
    [.preparing selected.beforeTrigger selected.trigger selected.afterTrigger]
  | _ => []

/-- The records of an owner. -/
def RosterOwner.records (owner : RosterOwner S Message) : List (Record S) :=
  owner.preparation ++ owner.roles.map MemberRole.record

/-- The records of a roster in operation. -/
def records (owners : List (RosterOwner S Message)) : List (Record S) :=
  owners.flatMap RosterOwner.records

@[simp] theorem records_nil : records ([] : List (RosterOwner S Message)) = [] := rfl

@[simp] theorem records_cons (owner : RosterOwner S Message)
    (owners : List (RosterOwner S Message)) :
    records (owner :: owners) = owner.records ++ records owners := rfl

@[simp] theorem records_append (first second : List (RosterOwner S Message)) :
    records (first ++ second) = records first ++ records second :=
  List.flatMap_append

theorem records_perm {owners owners' : List (RosterOwner S Message)} (h : owners.Perm owners') :
    (records owners).Perm (records owners') :=
  h.flatMap_right _

variable {owner owner' : RosterOwner S Message}

/-- One owner changes in its place. -/
theorem records_inPlace (before after : List (RosterOwner S Message))
    (h : owner'.records.Perm owner.records) :
    (records (before ++ owner' :: after)).Perm (records (before ++ owner :: after)) := by
  rw [records_append, records_append, records_cons, records_cons]
  exact (h.append_right _).append_left _

/-- One owner is taken out of its place and another one is put at the end. -/
theorem records_toEnd (before after : List (RosterOwner S Message))
    (h : owner'.records.Perm owner.records) :
    (records (before ++ after ++ [owner'])).Perm (records (before ++ owner :: after)) := by
  have hmove : (before ++ after ++ [owner']).Perm (before ++ owner' :: after) := by
    rw [List.append_assoc]
    exact (List.perm_append_singleton owner' after).append_left before
  exact (records_perm hmove).trans (records_inPlace before after h)

/-! ### Slots -/

/-- A batch whose member is replaced keeps its roles. -/
theorem RecoveryBatch.records_of_roles {batch batch'}
    (h : batch'.members.map RecoveryMember.role = batch.members.map RecoveryMember.role) :
    (RosterOwner.recovery (.admitted batch') : RosterOwner S Message).records
      = (RosterOwner.recovery (.admitted batch) : RosterOwner S Message).records := by
  change ([] ++ (batch'.members.map RecoveryMember.role).map MemberRole.record)
    = [] ++ (batch.members.map RecoveryMember.role).map MemberRole.record
  rw [h]

/-- An owner that takes a slot keeps its records. -/
theorem RosterOwner.authorize_records {heap heap' operation}
    (h : owner.authorize heap = .issued owner' operation heap') :
    owner'.records = owner.records := by
  unfold RosterOwner.authorize at h
  split at h
  · simp only [ProxyInputAuthorization.issued.injEq] at h
    obtain ⟨rfl, rfl, rfl⟩ := h
    rfl
  · cases h
  · cases h
  · cases h
  · split at h
    · rename_i batch batch' operation' hbatch
      simp only [ProxyInputAuthorization.issued.injEq] at h
      obtain ⟨rfl, rfl, rfl⟩ := h
      obtain ⟨-, before, member, after, member', hmembers, rfl, hmember⟩ :=
        RecoveryBatch.authorize_some hbatch
      obtain ⟨participant, submission, proxy, replacement, rfl, rfl, -⟩ :=
        RecoveryMember.authorize_some hmember
      refine RecoveryBatch.records_of_roles ?_
      rw [hmembers, List.map_append, List.map_cons, List.map_append, List.map_cons]
      rfl
    · cases h
  · cases h

theorem FixedRoster.authorizeOwner_records (available heap : ℕ) (owner : RosterOwner S Message) :
    (authorizeOwner available heap owner).1.records = owner.records := by
  induction available generalizing heap owner with
  | zero => rfl
  | succ available ih =>
    simp only [authorizeOwner]
    split
    · rename_i next operation heap' hissued
      exact (ih heap' next).trans (RosterOwner.authorize_records hissued)
    · rename_i next hsame
      rw [RosterOwner.authorize_same (.inl hsame)]
    · rename_i next hsame
      rw [RosterOwner.authorize_same (.inr hsame)]

theorem FixedRoster.authorizeOwners_records (available heap : ℕ)
    (owners : List (RosterOwner S Message)) :
    records (authorizeOwners available heap owners).1 = records owners := by
  induction owners generalizing available heap with
  | nil => rfl
  | cons owner owners ih =>
    have howner := authorizeOwner_records available heap owner
    simp only [authorizeOwners]
    split
    · rename_i owner' operations heap' hgiven
      rw [hgiven] at howner
      rw [records_cons, records_cons, show owner'.records = owner.records from howner]
    · rename_i owner' operations heap' left hgiven
      rw [hgiven] at howner
      rw [records_cons, records_cons, show owner'.records = owner.records from howner, ih]

/-- **Giving out slots keeps every record.** -/
theorem FixedRoster.authorize_records (maximum heap : ℕ) (owners : List (RosterOwner S Message)) :
    (records (authorize maximum heap owners).1).Perm (records owners) := by
  have hdeclared : (records (declared owners)).Perm (records owners) :=
    records_perm (declared_perm owners)
  unfold authorize
  split
  · rw [authorizeOwners_records]
    exact hdeclared
  · exact hdeclared

/-! ### Settlements, stops and births of proxies -/

/-- A proxy that shuts down and takes a value keeps its role. -/
theorem RosterOwner.acceptOperation_records {settlement retired}
    (h : owner.acceptOperation settlement = some (owner', retired)) :
    owner'.records = owner.records := by
  cases owner with
  | starting member =>
    obtain ⟨next, hnext, heq⟩ := Option.map_eq_some_iff.mp h
    obtain ⟨rfl, -⟩ := Prod.mk.inj heq
    unfold ProxyStartingMember.acceptOperation at hnext
    split at hnext
    · split at hnext
      · split at hnext
        · obtain rfl := Option.some.inj hnext
          rfl
        · obtain rfl := Option.some.inj hnext
          rfl
      · cases hnext
    · cases hnext
  | stopping member | unrecovered member =>
    obtain ⟨answer, hanswer, heq⟩ := Option.map_eq_some_iff.mp h
    rcases ProxyStoppingMember.acceptOperation_cases hanswer with
      ⟨next, rfl, hrole, -⟩ | ⟨departed, rfl, hrole⟩
    all_goals
      obtain ⟨rfl, -⟩ := Prod.mk.inj heq
      change [MemberRole.record _] = [MemberRole.record _]
      rw [hrole]
  | online => cases h
  | empty => cases h
  | recovery => cases h
  | retired => cases h

/-- So does one that takes its stop. -/
theorem RosterOwner.acceptStop_records {stopped retired}
    (h : owner.acceptStop stopped = some (owner', retired)) : owner'.records = owner.records := by
  cases owner with
  | stopping member | unrecovered member =>
    obtain ⟨answer, hanswer, heq⟩ := Option.map_eq_some_iff.mp h
    rcases ProxyStoppingMember.acceptStop_cases hanswer with
      ⟨next, rfl, hrole, -⟩ | ⟨departed, rfl, hrole⟩
    all_goals
      obtain ⟨rfl, -⟩ := Prod.mk.inj heq
      change [MemberRole.record _] = [MemberRole.record _]
      rw [hrole]
  | starting => cases h
  | online => cases h
  | empty => cases h
  | recovery => cases h
  | retired => cases h

namespace FixedRoster

variable {owners owners' : List (RosterOwner S Message)}

theorem acceptOperation_records {settlement retired}
    (h : acceptOperation settlement owners = some (owners', retired)) :
    (records owners').Perm (records owners) := by
  unfold acceptOperation at h
  split at h
  · rename_i before owner' retired' after hfirst
    obtain ⟨owner, rfl, howner, -⟩ := Search.first_some hfirst
    simp only [Option.some.injEq, Prod.mk.injEq] at h
    obtain ⟨rfl, rfl⟩ := h
    exact records_inPlace before after (.of_eq (RosterOwner.acceptOperation_records howner))
  · cases h

theorem acceptProxyStop_records {stopped retired}
    (h : acceptProxyStop stopped owners = some (owners', retired)) :
    (records owners').Perm (records owners) := by
  simp only [acceptProxyStop] at h
  split at h
  · rename_i before owner after hfirst
    obtain ⟨found, rfl, hfound, -⟩ := Search.first_some hfirst
    obtain ⟨⟨owner', retired'⟩, haccept, heq⟩ := Option.map_eq_some_iff.mp h
    simp only [Prod.mk.injEq] at heq
    obtain ⟨rfl, rfl⟩ := heq
    split at hfound
    · obtain rfl := Option.some.inj hfound
      exact records_inPlace before after (.of_eq (RosterOwner.acceptStop_records haccept))
    · cases hfound
  · cases h

theorem proxiesCreated_records {settlements}
    (h : proxiesCreated owners settlements = some owners') : records owners' = records owners := by
  induction owners generalizing settlements owners' with
  | nil =>
    cases settlements with
    | nil =>
      obtain rfl := Option.some.inj h
      rfl
    | cons => cases h
  | cons owner owners ih =>
    unfold proxiesCreated at h
    split at h
    · exact absurd ‹owner :: owners = []› (List.cons_ne_nil _ _)
    · rename_i role witness operation others settlement settlements' heq
      cases heq
      split at h
      · obtain ⟨rest, hrest, rfl⟩ := Option.map_eq_some_iff.mp h
        rw [records_cons, records_cons, ih hrest]
        unfold ProxyStartingMember.proxyCreated
        split <;> rfl
      · cases h
    · cases h

end FixedRoster

/-! ### Recoveries -/

/-- A member that takes a value keeps its role, also when its replacement is complete. -/
def RecoveryMember.KeepsRole
    (accept : RecoveryMember S → Option (ControlFlow (ReplacementCompletion S) (RecoveryMember S))) :
    Prop :=
  ∀ member, (∀ next, accept member = some (.resume next) → next.role = member.role) ∧
    ∀ completed, accept member = some (.stop completed) → completed.role = member.role

namespace RecoveryMember

/-- The progress of a replacement is about its role. -/
theorem replacementProgress_role (role : MemberRole S) (creation : ℕ) (proxy : S.Actor)
    (replacement : WorkerReplacement S) (recovery : ℕ) :
    (∀ next, replacementProgress role creation proxy replacement recovery = .resume next →
        next.role = role) ∧
      ∀ completed, replacementProgress role creation proxy replacement recovery = .stop completed →
        completed.role = role := by
  rcases replacementProgress_cases role creation proxy replacement recovery with
    ⟨-, -, heq⟩ | ⟨completed, heq, hrole, -⟩
  · rw [heq]
    refine ⟨fun next h => ?_, fun completed h => nomatch h⟩
    cases h
    rfl
  · rw [heq]
    refine ⟨fun next h => (nomatch h), fun completed h => ?_⟩
    cases h
    exact hrole

theorem acceptReplacementOperation_keeps (recovery : ℕ) (settlement : ProxyInputResult S) :
    KeepsRole (acceptReplacementOperation recovery settlement) := by
  rintro (_ | ⟨role, creation, proxy, replacement⟩)
  · exact ⟨fun _ h => (nomatch h), fun _ h => (nomatch h)⟩
  · refine ⟨fun next h => ?_, fun completed h => ?_⟩
    · obtain ⟨replacement', -, heq⟩ := Option.map_eq_some_iff.mp h
      exact (replacementProgress_role role creation proxy replacement' recovery).1 next heq
    · obtain ⟨replacement', -, heq⟩ := Option.map_eq_some_iff.mp h
      exact (replacementProgress_role role creation proxy replacement' recovery).2 completed heq

theorem acceptRecoveryReport_keeps (recovery : ℕ) (report : ChildReport (ProxyOutcome S Message)) :
    KeepsRole (acceptRecoveryReport recovery report) := by
  have hprogress : ∀ (role : MemberRole S) (creation : ℕ) (proxy : S.Actor)
      (taken : Option (WorkerReplacement S)),
      (∀ next, (taken.map fun replacement =>
          replacementProgress role creation proxy replacement recovery) = some (.resume next) →
        next.role = role) ∧
      ∀ completed, (taken.map fun replacement =>
          replacementProgress role creation proxy replacement recovery) = some (.stop completed) →
        completed.role = role := by
    intro role creation proxy taken
    refine ⟨fun next h => ?_, fun completed h => ?_⟩
    · obtain ⟨replacement, -, heq⟩ := Option.map_eq_some_iff.mp h
      exact (replacementProgress_role role creation proxy replacement recovery).1 next heq
    · obtain ⟨replacement, -, heq⟩ := Option.map_eq_some_iff.mp h
      exact (replacementProgress_role role creation proxy replacement recovery).2 completed heq
  rintro (⟨participant, submission⟩ | ⟨role, creation, proxy, replacement⟩)
  · have hwaiting : ∀ answer, acceptRecoveryReport recovery report (.waiting participant submission)
        = some answer → ∃ online stopped, participant = .online online ∧
          answer = .resume (.waiting (.stopped (online.stop stopped)) submission) := by
      intro answer h
      cases participant with
      | online online =>
        simp only [acceptRecoveryReport] at h
        split at h
        · split at h
          · exact ⟨online, _, rfl, (Option.some.inj h).symm⟩
          · cases h
        · cases h
      | stopped => cases h
      | initialInputDispatched => cases h
      | awaitingInitialOutcome => cases h
    refine ⟨fun next h => ?_, fun completed h => ?_⟩
    · obtain ⟨online, stopped, rfl, heq⟩ := hwaiting _ h
      cases heq
      rfl
    · obtain ⟨online, stopped, rfl, heq⟩ := hwaiting _ h
      cases heq
  · refine ⟨fun next h => ?_, fun completed h => ?_⟩
    · simp only [acceptRecoveryReport] at h
      split at h
      · split at h
        · exact (hprogress role creation proxy _).1 next h
        · exact (hprogress role creation proxy _).1 next h
        · cases h
      · cases h
    · simp only [acceptRecoveryReport] at h
      split at h
      · split at h
        · exact (hprogress role creation proxy _).2 completed h
        · exact (hprogress role creation proxy _).2 completed h
        · cases h
      · cases h

end RecoveryMember

/-- **A recovery that takes a value** keeps its roles, but for the one whose replacement is
complete. -/
theorem FixedRoster.acceptRecovery_records {accept : ℕ → RecoveryMember S →
      Option (ControlFlow (ReplacementCompletion S) (RecoveryMember S))}
    (hkeeps : ∀ ticket, RecoveryMember.KeepsRole (accept ticket))
    {owners : List (RosterOwner S Message)}
    {answer : ControlFlow (List (RosterOwner S Message) × ReplacementCompletion S)
      (List (RosterOwner S Message))}
    (h : acceptRecovery (fun batch => batch.acceptMember (accept batch.ticket)) owners
      = some answer) :
    match answer with
    | .resume owners' => (records owners').Perm (records owners)
    | .stop (owners', completed) =>
      (records owners' ++ [completed.role.record]).Perm (records owners) := by
  obtain ⟨first, batch, last, before, member, after, rfl, hmembers,
    ⟨next, hnext, rfl⟩ | ⟨completed, hcompleted, rfl⟩⟩ := acceptRecovery_cases h
  · refine records_inPlace first last (.of_eq (RecoveryBatch.records_of_roles ?_))
    rw [hmembers, List.map_append, List.map_cons, List.map_append, List.map_cons,
      (hkeeps batch.ticket member).1 next hnext]
  · have hbatch : (RosterOwner.recovery (.admitted batch) : RosterOwner S Message).records
        = ((before ++ member :: after).map RecoveryMember.role).map MemberRole.record := by
      rw [← hmembers]
      rfl
    have hrest : records (if before ++ after = [] then []
          else [(.recovery (.admitted { batch with members := before ++ after }) :
            RosterOwner S Message)])
        = ((before ++ after).map RecoveryMember.role).map MemberRole.record := by
      split
      · rename_i hnone
        rw [hnone]
        rfl
      · exact List.append_nil _
    change (records (first ++ (_ ++ last)) ++ [completed.role.record]).Perm _
    rw [records_append, records_append, records_append, records_cons, hrest, hbatch,
      (hkeeps batch.ticket member).2 completed hcompleted, List.append_assoc, List.append_assoc]
    refine List.Perm.append_left _ ?_
    refine ((List.perm_append_comm :
      (records last ++ _).Perm (_ ++ records last)).append_left _).trans ?_
    rw [← List.append_assoc]
    refine List.Perm.append_right _ ?_
    simp only [List.map_append, List.map_cons, List.append_assoc]
    exact (List.perm_append_singleton _ _).append_left _

/-- An owner that is selected keeps its role alone. -/
theorem RecoveryParticipant.select_records {participant}
    (h : RecoveryParticipant.select owner = some participant) :
    owner.records = [participant.role.record] ∧ participant.release = owner := by
  unfold RecoveryParticipant.select at h
  split at h
  · obtain rfl := Option.some.inj h
    exact ⟨rfl, rfl⟩
  · obtain rfl := Option.some.inj h
    exact ⟨rfl, rfl⟩
  · obtain rfl := Option.some.inj h
    exact ⟨rfl, rfl⟩
  · cases h

/-- **What is selected is released as it was.** -/
theorem RecoveryParticipant.selected_records {chosen : List (RosterOwner S Message)}
    {selected : List (RecoveryParticipant S)}
    (h : List.Forall₂ (fun owner participant =>
      RecoveryParticipant.select owner = some participant) chosen selected) :
    records chosen = (selected.map RecoveryParticipant.role).map MemberRole.record ∧
      selected.map RecoveryParticipant.release = chosen := by
  induction h with
  | nil => exact ⟨rfl, rfl⟩
  | @cons owner participant chosen selected hselect _ ih =>
    obtain ⟨hrecords, hrelease⟩ := RecoveryParticipant.select_records hselect
    rw [records_cons, hrecords, ih.1, List.map_cons, List.map_cons, List.map_cons, hrelease, ih.2]
    exact ⟨rfl, rfl⟩

/-- A released participant keeps its role. -/
theorem RecoveryParticipant.release_records (participants : List (RecoveryParticipant S)) :
    records (participants.map (RecoveryParticipant.release : _ → RosterOwner S Message))
      = (participants.map RecoveryParticipant.role).map MemberRole.record := by
  induction participants with
  | nil => rfl
  | cons participant participants ih =>
    rw [List.map_cons, records_cons, ih]
    cases participant <;> rfl

/-- The roles of a preparing recovery, its trigger last. -/
theorem PreparingRecovery.roles_perm (recovery : PreparingRecovery S) :
    recovery.roles.Perm ((recovery.beforeTrigger ++ recovery.afterTrigger).map
      RecoveryParticipant.role ++ [recovery.trigger.role]) := by
  rw [roles, List.map_append, List.append_assoc]
  exact ((List.perm_append_singleton _ _).append_left _).symm

/-! ### Schedules and timers -/

namespace FixedRoster

theorem acceptRestartSchedule_records {input : ScheduleSettled}
    {owners : List (RosterOwner S Message)} :
    (∀ owners', acceptRestartSchedule input owners = some (.inl owners') →
      (records owners').Perm (records owners)) ∧
    ∀ rest prepared request reason,
      acceptRestartSchedule input owners = some (.inr (rest, prepared, request, reason)) →
      (records rest ++ ((prepared.beforeTrigger ++ prepared.afterTrigger).map fun participant =>
          participant.member.role.record) ++ [prepared.trigger.role.record]).Perm
        (records owners) := by
  refine ⟨fun owners' h => ?_, fun rest prepared request reason h => ?_⟩
  · unfold acceptRestartSchedule at h
    split at h
    · rename_i before batch' after hfirst
      obtain ⟨owner, rfl, howner, -⟩ := Search.first_some hfirst
      obtain ⟨batch, rfl, hbatch⟩ := acceptBatch_some howner
      obtain ⟨timer, -, heq | ⟨_, _, _, _, heq, -⟩⟩ := RecoveryBatch.acceptSchedule_some hbatch
      · cases heq
        cases h
        exact records_inPlace before after (.of_eq (RecoveryBatch.records_of_roles rfl))
      · cases heq
    · cases h
    · cases h
  · unfold acceptRestartSchedule at h
    split at h
    · cases h
    · rename_i before prepared' request' reason' after hfirst
      obtain ⟨owner, rfl, howner, -⟩ := Search.first_some hfirst
      obtain ⟨batch, rfl, hbatch⟩ := acceptBatch_some howner
      obtain ⟨timer, -, heq | ⟨_, members, _, _, heq, hmembers, hprepared⟩⟩ :=
        RecoveryBatch.acceptSchedule_some hbatch
      · cases heq
      · cases heq
        cases h
        have hbatch : (RosterOwner.recovery (.admitted batch) : RosterOwner S Message).records
            = (batch.members.map RecoveryMember.role).map MemberRole.record := rfl
        rw [intoPreparedMembers_some hmembers, PreparedRecovery.fromAdmitted_some hprepared]
          at hbatch
        rw [records_append, records_append, records_cons, hbatch, List.append_assoc,
          List.append_assoc]
        refine List.Perm.append_left _ ?_
        refine List.perm_append_comm.trans (List.Perm.append_right _ ?_)
        simp only [List.map_append, List.map_cons, List.map_map, List.append_assoc]
        exact (List.perm_append_singleton _ _).append_left _
    · cases h

theorem acceptRestartElapsed_records {elapsed : TimerElapsed}
    {owners owners' : List (RosterOwner S Message)}
    (h : acceptRestartElapsed elapsed owners = some owners') :
    (records owners').Perm (records owners) := by
  unfold acceptRestartElapsed at h
  split at h
  · rename_i before batch' after hfirst
    obtain ⟨owner, rfl, howner, -⟩ := Search.first_some hfirst
    obtain ⟨batch, rfl, hbatch⟩ := acceptBatch_some howner
    cases h
    unfold RecoveryBatch.acceptElapsed at hbatch
    split at hbatch
    · split at hbatch
      · obtain rfl := Option.some.inj hbatch
        exact records_inPlace before after (.of_eq (RecoveryBatch.records_of_roles rfl))
      · cases hbatch
    · cases hbatch
  · cases h

end FixedRoster

end Bombay.Fixed
