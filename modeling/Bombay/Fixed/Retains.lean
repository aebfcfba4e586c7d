/-
# What a transition of a fixed supervisor retains

`Retains` says of the outcome of a handler what its roster keeps, whether it stays in
operation, terminates or shuts down.  A handler keeps the records of the roster it was
given, but for the three that move the worker source: the stop of a worker that begins a
preparation, and the two answers that end it (`accept_retains`).  A roster that shuts down
keeps its roles and the source as well (`accept_shutdown_assets`), so that no transition
whatever loses one (`FixedSupervisor.transition_assets`).
-/

import Bombay.Fixed.Records

namespace Bombay.Fixed

open Proxy (ProxyOutcome ProxyPhase)
open Directory (proxied ProxyOperation ProxyInputResult ChildReport StableProxyCreationSettlement
  resolve)

variable {S : Signature} {Message : Type}

/-! ### What a shutdown keeps -/

namespace FixedShutdownMember

/-- The preparation that a member waits for. -/
def preparation : FixedShutdownMember S Message → Option WorkerPreparationExpectation
  | .proxy _ _ preparation => preparation
  | _ => none

/-- What a member keeps. -/
def assets (member : FixedShutdownMember S Message) : List (Asset S) :=
  member.preparation.toList.map (fun _ => .source) ++ [member.role.asset]

end FixedShutdownMember

/-- What a roster keeps in any phase after its beginning. -/
def FixedRoster.assets : FixedRoster S Message → List (Asset S)
  | .new' _ => []
  | .operating owners => (records owners).map Record.asset
  | .shuttingDown shutdown => shutdown.members.flatMap FixedShutdownMember.assets
  | .terminating owners _ => (records owners).map Record.asset
  | .stopped => []

/-- The worker source, while the supervisor itself has it. -/
def SupervisorRecovery.assets : SupervisorRecovery S → List (Asset S)
  | .automatic recovery =>
    match recovery.source with
    | .available _ => [.source]
    | .preparingWorkers => []
    | .retirement _ => [.source]
  | .temporary => []

/-- What a supervisor keeps. -/
def FixedSupervisor.assets (self : FixedSupervisor S Message) : List (Asset S) :=
  self.roster.assets ++ self.recovery.assets

/-- What an owner keeps, with the preparation that it is shut down with. -/
def openedAssets (owner : RosterOwner S Message × Option WorkerPreparationExpectation) :
    List (Asset S) :=
  owner.2.toList.map (fun _ => .source) ++ owner.1.roles.map MemberRole.asset

/-- The assets of a role's record. -/
theorem assets_of_roles (roles : List (MemberRole S)) :
    (roles.map MemberRole.record).map Record.asset = roles.map MemberRole.asset := by
  rw [List.map_map]
  rfl

/-! ### The beginning of a shutdown -/

/-- **Each part of a shutdown keeps what its owner had.** -/
theorem Begun.all_assets {α : Type} {begin : α → ℕ → Begun S Message} {kept : α → List (Asset S)}
    {parts : List α} (h : ∀ part ∈ parts, ∀ heap,
      ((begin part heap).members.flatMap FixedShutdownMember.assets).Perm (kept part)) (heap : ℕ) :
    ((Begun.all begin parts heap).members.flatMap FixedShutdownMember.assets).Perm
      (parts.flatMap kept) := by
  induction parts generalizing heap with
  | nil => exact .refl _
  | cons part parts ih =>
    have hpart := h part List.mem_cons_self heap
    have hrest := ih (fun other hother => h other (List.mem_cons_of_mem _ hother))
      (begin part heap).heap
    change (((begin part heap).members ++ (Begun.all begin parts _).members).flatMap _).Perm _
    rw [List.flatMap_append, List.flatMap_cons]
    exact hpart.append hrest

theorem RecoveryParticipant.beginShutdown_assets (prepared : Option (WorkerSubmission S))
    (participant : RecoveryParticipant S) (heap : ℕ) :
    ((participant.beginShutdown prepared heap : Begun S Message).members.flatMap
      FixedShutdownMember.assets).Perm [participant.role.asset] := by
  cases participant <;> exact .refl _

theorem RecoveryMember.beginShutdown_assets (member : RecoveryMember S) (heap : ℕ) :
    ((member.beginShutdown heap : Begun S Message).members.flatMap
      FixedShutdownMember.assets).Perm [member.role.asset] := by
  cases member with
  | waiting participant submission =>
    exact participant.beginShutdown_assets (some submission) heap
  | replacing => exact .refl _

/-- An owner as a shutdown opens it: only an empty member comes with a preparation. -/
theorem RosterOwner.opened_cases {owner : RosterOwner S Message} {part} (h : part ∈ owner.opened) :
    (∃ member expected, part = (.empty member, some expected)) ∨
      part.2 = none ∧ ∀ selected, part.1 ≠ .recovery (.preparing selected) := by
  have hrelease : ∀ participant : RecoveryParticipant S,
      ∀ selected, (participant.release : RosterOwner S Message) ≠ .recovery (.preparing selected) := by
    intro participant selected
    cases participant <;> exact nofun
  unfold RosterOwner.opened at h
  split at h
  · rcases List.mem_append.mp h with h | h
    · obtain ⟨participant, -, rfl⟩ := List.mem_map.mp h
      exact .inr ⟨rfl, hrelease participant⟩
    · rcases List.mem_cons.mp h with rfl | h
      · exact .inl ⟨_, _, rfl⟩
      · obtain ⟨participant, -, rfl⟩ := List.mem_map.mp h
        exact .inr ⟨rfl, hrelease participant⟩
  · rename_i hother
    rw [List.mem_singleton.mp h]
    exact .inr ⟨rfl, fun selected heq => hother selected heq⟩

/-- What is opened is what the owner keeps. -/
theorem RosterOwner.opened_assets (owner : RosterOwner S Message) :
    (owner.opened.flatMap openedAssets).Perm (owner.records.map Record.asset) := by
  have hreleased : ∀ participants : List (RecoveryParticipant S),
      (participants.map fun participant =>
        ((participant.release : RosterOwner S Message),
          (none : Option WorkerPreparationExpectation))).flatMap openedAssets
        = (participants.map RecoveryParticipant.role).map MemberRole.asset := by
    intro participants
    induction participants with
    | nil => rfl
    | cons participant participants ih =>
      rw [List.map_cons, List.flatMap_cons, ih]
      cases participant <;> rfl
  unfold RosterOwner.opened
  split
  · rename_i selected
    rw [List.flatMap_append, List.flatMap_cons, hreleased, hreleased, RosterOwner.records,
      List.map_append, assets_of_roles]
    change (_ ++ ([Asset.source] ++ [selected.trigger.role.asset] ++ _)).Perm
      ([Asset.source] ++ selected.roles.map MemberRole.asset)
    rw [PreparingRecovery.roles, List.map_append, List.map_cons]
    simp only [List.cons_append, List.nil_append]
    exact List.perm_middle
  · rename_i hother
    rw [List.flatMap_cons, List.flatMap_nil, List.append_nil, RosterOwner.records]
    have hpreparation : owner.preparation = [] := by
      unfold RosterOwner.preparation
      split
      · rename_i selected
        exact absurd rfl (hother selected)
      · rfl
    rw [hpreparation, List.nil_append, assets_of_roles]
    exact .refl _

/-- An opened owner is shut down with what it keeps. -/
theorem RosterOwner.beginShutdown_assets {owner : RosterOwner S Message} {part}
    (h : part ∈ owner.opened) (heap : ℕ) : ((RosterOwner.beginShutdown part heap).members.flatMap
      FixedShutdownMember.assets).Perm (openedAssets part) := by
  rcases RosterOwner.opened_cases h with ⟨member, expected, rfl⟩ | ⟨hnone, hother⟩
  · exact .refl _
  · obtain ⟨opened, preparation⟩ := part
    obtain rfl : preparation = none := hnone
    cases opened with
    | starting member => cases member <;> exact .refl _
    | stopping => exact .refl _
    | online => exact .refl _
    | empty => exact .refl _
    | unrecovered => exact .refl _
    | retired => exact .refl _
    | recovery recovery =>
      cases recovery with
      | preparing selected => exact absurd rfl (hother selected)
      | admitted batch =>
        have hall : ((Begun.all RecoveryMember.beginShutdown batch.members heap).members.flatMap
            (FixedShutdownMember.assets : FixedShutdownMember S Message → List (Asset S))).Perm
            (batch.members.flatMap fun member => [member.role.asset]) :=
          Begun.all_assets
            (fun member _ heap => member.beginShutdown_assets heap) heap
        have hroles : batch.members.flatMap (fun member => [member.role.asset])
            = (batch.members.map RecoveryMember.role).map MemberRole.asset := by
          rw [List.map_map]
          exact List.map_eq_flatMap.symm
        rw [hroles] at hall
        exact hall

/-- **A shutdown that begins keeps every role and the source.** -/
theorem FixedShutdown.begin_assets (owners : List (RosterOwner S Message))
    (actorDrain : ActorDrainPolicy) (heap : ℕ) :
    ((begin owners actorDrain heap).1.members.flatMap FixedShutdownMember.assets).Perm
      ((records owners).map Record.asset) := by
  have hopened : ((owners.flatMap RosterOwner.opened).flatMap openedAssets).Perm
      ((records owners).map Record.asset) := by
    induction owners with
    | nil => exact .refl _
    | cons owner owners ih =>
      rw [List.flatMap_cons, List.flatMap_append, records_cons, List.map_append]
      exact owner.opened_assets.append ih
  have hbegun : ((Begun.all RosterOwner.beginShutdown (owners.flatMap RosterOwner.opened)
      heap).members.flatMap FixedShutdownMember.assets).Perm
      ((owners.flatMap RosterOwner.opened).flatMap openedAssets) := by
    refine Begun.all_assets (fun part hpart heap => ?_) heap
    obtain ⟨owner, -, hopened⟩ := List.mem_flatMap.mp hpart
    exact RosterOwner.beginShutdown_assets hopened heap
  exact ((Search.sortBy_perm _ _).flatMap_right _).trans (hbegun.trans hopened)

/-- **So does one that begins when a recovery failed.** -/
theorem FixedShutdown.beginWithUnissuedReplacements_assets (owners : List (RosterOwner S Message))
    (replacements : UnissuedReplacements S) (actorDrain : ActorDrainPolicy) (heap : ℕ) :
    ((beginWithUnissuedReplacements owners replacements actorDrain heap).1.members.flatMap
        FixedShutdownMember.assets).Perm
      ((records owners ++ (replacements.peers.map fun peer => peer.member.role.record) ++
        [replacements.trigger.role.record]).map Record.asset) := by
  have hbegun := begin_assets owners actorDrain heap
  have hpeers : ((Begun.all PreparedParticipant.beginShutdown replacements.peers
      (begin owners actorDrain heap).2.2.2).members.flatMap
        (FixedShutdownMember.assets : FixedShutdownMember S Message → List (Asset S))).Perm
      (replacements.peers.flatMap fun peer => [peer.member.role.asset]) :=
    Begun.all_assets
      (fun peer _ heap => peer.member.beginShutdown_assets (some peer.submission) heap) _
  have hroles : replacements.peers.flatMap (fun peer => [peer.member.role.asset])
      = (replacements.peers.map fun peer => peer.member.role.record).map Record.asset := by
    rw [List.map_map]
    exact List.map_eq_flatMap.symm
  rw [hroles] at hpeers
  refine ((Search.sortBy_perm _ _).flatMap_right _).trans ?_
  rw [List.flatMap_append, List.flatMap_append, List.map_append, List.map_append]
  exact (hbegun.append hpeers).append_right _

/-! ### What a handler retains -/

/-- **What the outcome of a handler retains**: the recovery, and of the records all that it keeps,
as long as its roster is in operation. -/
structure Retains (recovery : SupervisorRecovery S) (kept : List (Record S))
    (acted : Acted S Message) : Prop where
  recovery : acted.1.recovery = recovery
  records : ∀ owners, acted.1.roster = .operating owners → (records owners).Perm kept
  assets : acted.1.roster.assets.Perm (kept.map Record.asset)

section

variable {recovery : SupervisorRecovery S} {kept kept' : List (Record S)}
  {self self' : FixedSupervisor S Message} {owners owners' : List (RosterOwner S Message)}
  {acted : Acted S Message}
  {result : Except (FixedSupervisorError S Message) (FixedActions S Message)}

theorem Retains.perm (h : Retains recovery kept acted) (hkept : kept.Perm kept') :
    Retains recovery kept' acted :=
  ⟨h.recovery, fun owners hroster => (h.records owners hroster).trans hkept,
    h.assets.trans (hkept.map _)⟩

/-- An outcome in operation. -/
theorem Retains.operates (hroster : self.roster = .operating owners)
    (hrecovery : self.recovery = recovery) (h : (Fixed.records owners).Perm kept) :
    Retains recovery kept (self, result) := by
  refine ⟨hrecovery, fun owners' hroster' => ?_, ?_⟩
  · cases hroster.symm.trans hroster'
    exact h
  · change self.roster.assets.Perm _
    rw [hroster]
    exact h.map _

/-- An outcome that terminates. -/
theorem Retains.terminates {prepared} (hroster : self.roster = .terminating owners prepared)
    (hrecovery : self.recovery = recovery) (h : (Fixed.records owners).Perm kept) :
    Retains recovery kept (self, result) := by
  refine ⟨hrecovery, fun owners' hroster' => ?_, ?_⟩
  · cases hroster.symm.trans hroster'
  · change self.roster.assets.Perm _
    rw [hroster]
    exact h.map _

/-- An outcome that shuts down. -/
theorem Retains.shuts {shutdown} (hroster : self.roster = .shuttingDown shutdown)
    (hrecovery : self.recovery = recovery)
    (h : (shutdown.members.flatMap FixedShutdownMember.assets).Perm (kept.map Record.asset)) :
    Retains recovery kept (self, result) := by
  refine ⟨hrecovery, fun owners' hroster' => ?_, ?_⟩
  · cases hroster.symm.trans hroster'
  · change self.roster.assets.Perm _
    rw [hroster]
    exact h

variable (self owners)

/-- An outcome that gives out free slots. -/
theorem authorizeRoster_retains (actions : FixedActions S Message) :
    Retains self.recovery (records owners) (authorizeRoster self owners actions) := by
  have hrecords := FixedRoster.authorize_records self.startup.maximum self.heap owners
  unfold authorizeRoster
  split
  · rename_i owners' operations heap hauthorize
    rw [hauthorize] at hrecords
    exact .operates rfl rfl hrecords
  · rename_i owners' occupied hauthorize
    rw [hauthorize] at hrecords
    exact .operates rfl rfl hrecords

theorem memberRetired_retains (retired : Option S.Role) :
    Retains self.recovery (records owners) (memberRetired self owners retired) := by
  cases retired with
  | none | some role => exact authorizeRoster_retains self owners _

/-! ### Failures -/

theorem stopSupervisor_retains {begun}
    (h : (begun.1.members.flatMap FixedShutdownMember.assets).Perm (kept.map Record.asset))
    (lifecycle : List (FixedLifecycle S Message)) (diagnostic : FixedDiagnostic S Message) :
    Retains self.recovery kept (stopSupervisor self begun lifecycle diagnostic) :=
  .shuts rfl rfl h

theorem applyReplacementFailure_retains (previous : OnlineMember S)
    (stopped : Option (ChildStopped S)) (ticket : ℕ) (diagnostic : FixedDiagnostic S Message) :
    Retains self.recovery (records owners ++ [previous.role.record])
      (applyReplacementFailure self owners previous stopped ticket diagnostic) := by
  unfold applyReplacementFailure
  split
  rename_i member operation lifecycle heq
  have hrole : member.proxy.role = previous.role := by
    split at heq
    · cases heq
      rfl
    · cases heq
      rfl
  have hrecords : records (owners ++ [.unrecovered member])
      = records owners ++ [previous.role.record] := by
    rw [records_append, ← hrole]
    rfl
  dsimp only
  split
  · exact .terminates rfl rfl (.of_eq hrecords)
  · exact .operates rfl rfl (.of_eq hrecords)
  · refine stopSupervisor_retains self ?_ lifecycle diagnostic
    exact (FixedShutdown.begin_assets _ _ _).trans (.of_eq (by rw [hrecords]))

theorem acceptReplacementCompletion_retains (completed : ReplacementCompletion S) :
    Retains self.recovery (records owners ++ [completed.role.record])
      (acceptReplacementCompletion self owners completed) := by
  cases completed with
  | restarted =>
    refine (authorizeRoster_retains self _ _).perm ?_
    rw [records_append]
    exact .refl _
  | inputRejected role creation proxy previous readiness
  | proxyFailed role creation proxy previous readiness =>
    exact applyReplacementFailure_retains self owners ⟨role, creation, proxy, previous, readiness⟩
      _ _ _

variable {owners}

/-- A recovery that takes a value. -/
theorem continueRecovery_retains {accept : ℕ →
      RecoveryMember S → Option (ControlFlow (ReplacementCompletion S) (RecoveryMember S))}
    (hkeeps : ∀ ticket, RecoveryMember.KeepsRole (accept ticket))
    {progress : ControlFlow (List (RosterOwner S Message) × ReplacementCompletion S)
      (List (RosterOwner S Message))}
    (h : FixedRoster.acceptRecovery (fun batch => batch.acceptMember (accept batch.ticket)) owners
      = some progress) : Retains self.recovery (records owners) (continueRecovery self progress) := by
  have hrecords := FixedRoster.acceptRecovery_records hkeeps h
  cases progress with
  | resume owners' => exact (authorizeRoster_retains self owners' _).perm hrecords
  | stop completion =>
    exact (acceptReplacementCompletion_retains self completion.1 completion.2).perm hrecords

/-- A recovery that fails keeps its peers and its trigger. -/
theorem applyRecoveryFailure_retains (failed : RecoveryFailure S Message) (diagnostic : FixedDiagnostic S Message) :
    Retains self.recovery (records failed.owners ++
        (failed.replacements.peers.map fun peer => peer.member.role.record) ++
          [failed.replacements.trigger.role.record])
      (applyRecoveryFailure self failed diagnostic) := by
  have hpeers : records (failed.replacements.peers.map
      (PreparedParticipant.cancel : _ → RosterOwner S Message))
      = failed.replacements.peers.map fun peer => peer.member.role.record := by
    have hreleased : records ((failed.replacements.peers.map PreparedParticipant.member).map
        (RecoveryParticipant.release : _ → RosterOwner S Message)) = _ :=
      RecoveryParticipant.release_records _
    rw [List.map_map, List.map_map, List.map_map] at hreleased
    exact hreleased
  unfold applyRecoveryFailure
  split
  · refine .terminates rfl rfl (.of_eq ?_)
    rw [records_append, records_append, hpeers]
    rfl
  · refine .operates rfl rfl (.of_eq ?_)
    rw [records_append, records_append, hpeers]
    rfl
  · exact stopSupervisor_retains self
      (FixedShutdown.beginWithUnissuedReplacements_assets _ _ _ _) _ _

/-- A preparation that fails gives the source back, and its peers and its trigger. -/
theorem applyFailedPreparation_retains (awaiting : AutomaticRecovery S) (failed : FailedPreparation S Message) :
    Retains (.automatic { awaiting with source := .available failed.source })
      (records failed.owners ++ [failed.member.role.record])
      (applyFailedPreparation self awaiting failed) := by
  have hempty : ∀ owner : RosterOwner S Message, owner.records = [failed.member.role.record] →
      records (failed.owners ++ [owner]) = records failed.owners ++ [failed.member.role.record] := by
    intro owner howner
    rw [records_append, records_cons, howner, records_nil, List.append_nil]
  unfold applyFailedPreparation
  dsimp only
  split
  · exact .terminates rfl rfl (.of_eq (hempty _ rfl))
  · exact .operates rfl rfl (.of_eq (hempty _ rfl))
  · refine stopSupervisor_retains { self with
      recovery := .automatic { awaiting with source := .available failed.source } } ?_ _ _
    exact (FixedShutdown.begin_assets _ _ _).trans (.of_eq (congrArg _ (hempty _ rfl)))

end

end Bombay.Fixed
