/-
# No declared role is lost

Every transition of a fixed supervisor keeps the roles its roster owns and the worker
source (`FixedSupervisor.transition_assets`), so in every state of every run in which the
roster is in operation or shuts down, the owners own the declared roles, each once, and a
snapshot lists them in declaration order (`run_preserves`).  The events of the run are
arbitrary: stale, duplicate and foreign ones are reported or taken like any other.
-/

import Bombay.Fixed.Changes

namespace Bombay.Fixed

open Proxy (ProxyOutcome ProxyPhase)
open Directory (proxied ProxyOperation ProxyInputResult ChildReport StableProxyCreationSettlement
  resolve)

variable {S : Signature} {Message : Type}

/-! ### Births and preparations while a roster shuts down -/

namespace FixedShutdown

/-- **The members of a settled batch keep the roles that awaited it.** -/
theorem proxiesCreated_assets (awaiting : List (MemberRole S × ℕ × ProxyOperation S))
    (settlements : List (StableProxyCreationSettlement S))
    (hlength : settlements.length = awaiting.length) (heap : ℕ) :
    ((proxiesCreated awaiting settlements heap : Begun S Message).members.flatMap
        FixedShutdownMember.assets) = awaiting.map fun waiting => waiting.1.asset := by
  induction awaiting generalizing settlements heap with
  | nil =>
    cases settlements with
    | nil => rfl
    | cons => cases hlength
  | cons waiting awaiting ih =>
    cases settlements with
    | nil => cases hlength
    | cons settlement settlements =>
      obtain ⟨role, witness, operation⟩ := waiting
      have hrest := ih settlements (Nat.succ.inj hlength)
      rw [proxiesCreated]
      change (_ ++ _ : List (FixedShutdownMember S Message)).flatMap _ = _
      rw [List.flatMap_append, hrest]
      split <;> rfl

/-- What the members that await their proxies keep. -/
theorem awaiting_assets {members : List (FixedShutdownMember S Message)}
    {awaiting : List (MemberRole S × ℕ × ProxyOperation S)}
    (h : members.mapM FixedShutdownMember.intoAwaitingProxy = some awaiting) :
    members.flatMap FixedShutdownMember.assets = awaiting.map fun waiting => waiting.1.asset := by
  have hall := Search.forall₂_of_mapM h
  clear h
  induction hall with
  | nil => rfl
  | @cons member waiting _ _ hhead _ ih =>
    rw [List.flatMap_cons, ih, List.map_cons]
    cases member with
    | awaitingProxyBirth role witness operation =>
      obtain rfl := Option.some.inj hhead
      rfl
    | proxy => cases hhead
    | absentProxy => cases hhead

theorem acceptBirths_assets {proxies} {shutdown next : FixedShutdown S Message}
    {operations heap heap'}
    (h : shutdown.acceptBirths proxies heap = some (next, operations, heap')) :
    next.members.flatMap FixedShutdownMember.assets
      = shutdown.members.flatMap FixedShutdownMember.assets := by
  unfold acceptBirths at h
  split at h
  · cases h
  · split at h
    · cases h
    · rename_i awaiting hawaiting
      rw [awaiting_assets hawaiting]
      split at h
      · rename_i hidentities
        split at h
        · rename_i settlements
          cases h
          refine proxiesCreated_assets awaiting settlements ?_ heap
          have hlength := congrArg List.length hidentities
          rw [List.length_map] at hlength
          rw [← hlength]
          exact (List.length_map ..).symm
        · cases h
          change (awaiting.map _).flatMap _ = _
          rw [List.flatMap_map]
          exact List.map_eq_flatMap.symm
      · cases h

/-- **A preparation that did not start** leaves its member, or goes on. -/
theorem acceptPreparationStart_assets {result} {shutdown : FixedShutdown S Message} :
    (∀ next, shutdown.acceptPreparationStart result = some (.resume next) →
      next.members.flatMap FixedShutdownMember.assets
        = shutdown.members.flatMap FixedShutdownMember.assets) ∧
    ∀ next returned, shutdown.acceptPreparationStart result = some (.stop (next, returned)) →
      (shutdown.members.flatMap FixedShutdownMember.assets).Perm
        (.source :: next.members.flatMap FixedShutdownMember.assets) := by
  refine ⟨fun next h => ?_, fun next returned h => ?_⟩
  · unfold acceptPreparationStart at h
    split at h
    · rename_i before member' after hfirst
      obtain ⟨member, hmembers, hmember, -⟩ := Search.first_some hfirst
      cases h
      rw [hmembers]
      refine members_inPlace ?_
      unfold FixedShutdownMember.acceptPreparationStart at hmember
      split at hmember
      · rename_i custody ownership expected
        split at hmember
        · split at hmember
          · obtain ⟨expected', -, heq⟩ := Option.map_eq_some_iff.mp hmember
            cases heq
            cases custody <;> rfl
          · cases hmember
        · cases hmember
      · cases hmember
    · cases h
    · cases h
  · unfold acceptPreparationStart at h
    split at h
    · cases h
    · rename_i before member' returned' after hfirst
      obtain ⟨member, hmembers, hmember, -⟩ := Search.first_some hfirst
      cases h
      rw [hmembers]
      unfold FixedShutdownMember.acceptPreparationStart at hmember
      split at hmember
      · rename_i custody ownership expected
        split at hmember
        · split at hmember
          · obtain ⟨expected', -, heq⟩ := Option.map_eq_some_iff.mp hmember
            cases heq
          · cases hmember
            rw [List.flatMap_append, List.flatMap_append, List.flatMap_cons, List.flatMap_cons]
            cases custody <;> exact List.perm_middle
        · cases hmember
      · cases hmember
    · cases h

/-- **A preparation that returned** leaves its member. -/
theorem acceptPreparationReturn_assets {returned} {shutdown next : FixedShutdown S Message}
    (h : shutdown.acceptPreparationReturn returned = some next) :
    (shutdown.members.flatMap FixedShutdownMember.assets).Perm
      (.source :: next.members.flatMap FixedShutdownMember.assets) := by
  unfold acceptPreparationReturn acceptMember at h
  split at h
  · rename_i before member' after hfirst
    obtain ⟨member, hmembers, hmember, -⟩ := Search.first_some hfirst
    obtain rfl := Option.some.inj h
    rw [hmembers]
    unfold FixedShutdownMember.acceptPreparationReturn at hmember
    split at hmember
    · rename_i custody ownership expected
      split at hmember
      · obtain rfl := Option.some.inj hmember
        rw [List.flatMap_append, List.flatMap_append, List.flatMap_cons, List.flatMap_cons]
        cases custody <;> exact List.perm_middle
      · cases hmember
    · cases hmember
  · cases h

end FixedShutdown

/-! ### Every transition -/

section

variable [DecidableEq S.Role] {self : FixedSupervisor S Message}

/-- **A roster that shuts down keeps its roles and the source.** -/
theorem accept_shutdown_assets {shutdown : FixedShutdown S Message}
    (hroster : self.roster = .shuttingDown shutdown) (event : FixedSupervisorEvent S Message) :
    (self.accept event).1.assets.Perm self.assets := by
  have hsame : ∀ (next : FixedShutdown S Message) (operations : List (ProxyOperation S)) (heap : ℕ),
      next.members.flatMap FixedShutdownMember.assets
        = shutdown.members.flatMap FixedShutdownMember.assets →
      (retainShutdown { self with heap := heap } next operations).1.assets.Perm self.assets := by
    intro next operations heap h
    change (next.members.flatMap _ ++ self.recovery.assets).Perm _
    rw [h, FixedSupervisor.assets, hroster]
    exact .refl _
  have hback : ∀ (next : FixedShutdown S Message) (recovery : SupervisorRecovery S),
      self.recovery.assets = [] → recovery.assets = [.source] →
      (shutdown.members.flatMap FixedShutdownMember.assets).Perm
        (.source :: next.members.flatMap FixedShutdownMember.assets) →
      (retainShutdown { self with recovery := recovery } next []).1.assets.Perm self.assets := by
    intro next recovery hout hin h
    change (next.members.flatMap _ ++ recovery.assets).Perm _
    rw [hin, FixedSupervisor.assets, hroster, hout, List.append_nil]
    exact (List.perm_append_singleton _ _).trans h.symm
  have hout : ∀ awaiting, self.recovery.expectSource = some awaiting →
      self.recovery.assets = [] := by
    intro awaiting h
    obtain ⟨hrecovery, hsource⟩ := SupervisorRecovery.expectSource_some h
    rw [hrecovery, SupervisorRecovery.assets, hsource]
  cases event with
  | command command =>
    cases command with
    | shutdown =>
      simp only [FixedSupervisor.accept, acceptCommand, acceptShutdown, hroster]
      exact hsame shutdown [] self.heap rfl
    | status =>
      simp only [FixedSupervisor.accept, acceptCommand, FixedRoster.status, hroster]
      exact .refl _
    | capability =>
      simp only [FixedSupervisor.accept, acceptCommand, FixedRoster.capability, hroster]
      exact .refl _
  | proxyCreationsSettled proxies =>
    simp only [FixedSupervisor.accept, acceptProxyBirth, hroster]
    split
    · rename_i next operations heap hbirths
      exact hsame next operations heap (FixedShutdown.acceptBirths_assets hbirths)
    · exact .refl _
  | proxyInputSettled settlement =>
    simp only [FixedSupervisor.accept, acceptProxyOperation, hroster]
    exact .of_eq (continueShutdown_assets hroster (fun _ h => FixedShutdown.acceptMember_assets
      FixedShutdownMember.acceptOperation_assets h) _)
  | proxyReported report =>
    simp only [FixedSupervisor.accept, acceptProxyReport]
    split
    · unfold acceptUnavailable
      split
      · exact .refl _
      · split
        · exact .refl _
        · exact .refl _
    · simp only [hroster]
      exact .of_eq (continueShutdown_assets hroster (fun _ h => FixedShutdown.acceptOwned_assets
        FixedShutdownMember.acceptOutcome_assets h) _)
  | proxyDiagnosed report => exact .refl _
  | proxyStopped stopped =>
    simp only [FixedSupervisor.accept, acceptProxyExit, hroster]
    exact .of_eq (continueShutdown_assets hroster (fun _ h => FixedShutdown.acceptOwned_assets
      FixedShutdownMember.acceptStop_assets h) _)
  | workerPreparationStarted started =>
    simp only [FixedSupervisor.accept, acceptWorkerPreparationStart]
    split
    · exact .refl _
    · rename_i awaiting hsource
      simp only [hroster]
      split
      · rename_i next hstart
        exact hsame next [] self.heap (FixedShutdown.acceptPreparationStart_assets.1 next hstart)
      · rename_i next returned hstart
        exact hback next _ (hout awaiting hsource) rfl
          (FixedShutdown.acceptPreparationStart_assets.2 next returned hstart)
      · exact .refl _
  | workerPreparationReturned returned =>
    simp only [FixedSupervisor.accept, acceptWorkerPreparationReturn]
    split
    · exact .refl _
    · rename_i awaiting hsource
      simp only [hroster]
      split
      · rename_i next hreturn
        exact hback next _ (hout awaiting hsource) rfl
          (FixedShutdown.acceptPreparationReturn_assets hreturn)
      · exact .refl _
  | restartScheduleSettled input =>
    simp only [FixedSupervisor.accept, acceptRestartSchedule, hroster]
    refine .of_eq (continueShutdown_assets hroster (fun next h => ?_) _)
    rw [Option.mem_def, FixedShutdown.acceptSchedule] at h
    split at h
    · obtain rfl := Option.some.inj h
      rfl
    · obtain ⟨deadline, -, rfl⟩ := Option.map_eq_some_iff.mp h
      rfl
  | restartElapsed elapsed =>
    simp only [FixedSupervisor.accept, acceptRestartElapsed, hroster]
    refine .of_eq (continueShutdown_assets hroster (fun next h => ?_) _)
    obtain ⟨deadline, -, rfl⟩ := Option.map_eq_some_iff.mp h
    rfl

/-- **A roster that is neither in operation nor shutting down takes nothing.** -/
theorem accept_idle (hleft : self.roster.Left)
    (hrunning : ∀ shutdown, self.roster ≠ .shuttingDown shutdown)
    (event : FixedSupervisorEvent S Message) : (self.accept event).1 = self := by
  cases hroster : self.roster with
  | operating owners => exact absurd hroster (hleft owners)
  | shuttingDown shutdown => exact absurd hroster (hrunning shutdown)
  | _ =>
    cases event with
    | command command =>
      cases command with
      | shutdown =>
        simp only [FixedSupervisor.accept, acceptCommand, acceptShutdown, hroster, rejectInput]
      | status =>
        simp only [FixedSupervisor.accept, acceptCommand, FixedRoster.status, hroster, rejectInput]
      | capability =>
        simp only [FixedSupervisor.accept, acceptCommand, FixedRoster.capability, hroster,
          rejectInput]
    | proxyCreationsSettled proxies =>
      simp only [FixedSupervisor.accept, acceptProxyBirth, hroster, rejectInput]
    | proxyInputSettled settlement =>
      simp only [FixedSupervisor.accept, acceptProxyOperation, hroster, rejectInput]
    | proxyReported report =>
      simp only [FixedSupervisor.accept, acceptProxyReport]
      split
      · simp only [acceptUnavailable, FixedRoster.liveProxyRole, hroster, rejectInput]
      · simp only [hroster, rejectInput]
    | proxyDiagnosed report => rfl
    | proxyStopped stopped =>
      simp only [FixedSupervisor.accept, acceptProxyExit, hroster, rejectInput]
    | workerPreparationStarted started =>
      simp only [FixedSupervisor.accept, acceptWorkerPreparationStart, hroster, rejectInput]
      split <;> rfl
    | workerPreparationReturned returned =>
      simp only [FixedSupervisor.accept, acceptWorkerPreparationReturn, hroster, rejectInput]
      split <;> rfl
    | restartScheduleSettled input =>
      simp only [FixedSupervisor.accept, acceptRestartSchedule, hroster, rejectInput]
    | restartElapsed elapsed =>
      simp only [FixedSupervisor.accept, acceptRestartElapsed, hroster, rejectInput]

/-- A roster in operation, or one that shuts down. -/
def FixedRoster.Running : FixedRoster S Message → Prop
  | .operating _ => True
  | .shuttingDown _ => True
  | _ => False

/-- **No transition loses a role or the source.** -/
theorem FixedSupervisor.transition_assets (self : FixedSupervisor S Message)
    (event : FixedSupervisorEvent S Message) :
    (self.transition event).1.assets.Perm self.assets := by
  rw [FixedSupervisor.transition, unexpectedInput_fst]
  cases hroster : self.roster with
  | operating owners => exact (accept_changes hroster event).assets hroster
  | shuttingDown shutdown => exact accept_shutdown_assets hroster event
  | _ =>
    rw [accept_idle (by rw [hroster]; exact nofun) (by rw [hroster]; exact nofun) event]

/-- A roster that runs ran before. -/
theorem FixedSupervisor.transition_running {self : FixedSupervisor S Message} {event}
    (h : (self.transition event).1.roster.Running) :
    self.roster.Running := by
  rw [FixedSupervisor.transition, unexpectedInput_fst] at h
  cases hroster : self.roster with
  | operating owners => trivial
  | shuttingDown shutdown => trivial
  | _ =>
    rw [accept_idle (by rw [hroster]; exact nofun) (by rw [hroster]; exact nofun) event,
      hroster] at h
    exact h

end

/-! ### What is owned -/

/-- Where a role was declared, if something is a role. -/
def Asset.declaration : Asset S → Option (ℕ × S.Role)
  | .role position name => some (position, name)
  | .source => none

/-- Whether something is the worker source. -/
def Asset.isSource : Asset S → Bool
  | .role .. => false
  | .source => true

/-- Where a role was declared, and its name. -/
def MemberRole.declaration (role : MemberRole S) : ℕ × S.Role := (role.position, role.name)

/-- Whether an owner is a recovery that has the worker source. -/
def RosterOwner.holdsSource : RosterOwner S Message → Bool
  | .recovery (.preparing _) => true
  | _ => false

/-- Whether a member that shuts down waits for the worker source. -/
def FixedShutdownMember.holdsSource (member : FixedShutdownMember S Message) : Bool :=
  member.preparation.isSome

namespace FixedRoster

/-- The roles of each owner, or of each member that shuts down. -/
def owned : FixedRoster S Message → List (List (MemberRole S))
  | .operating owners => owners.map RosterOwner.roles
  | .shuttingDown shutdown => shutdown.members.map fun member => [member.role]
  | _ => []

/-- The statuses that owners or members append to a snapshot. -/
def statuses : FixedRoster S Message → List (ℕ × MemberStatus S)
  | .operating owners => owners.flatMap RosterOwner.statuses
  | .shuttingDown shutdown =>
    shutdown.members.map fun member => (member.role.position, member.phase.status)
  | _ => []

/-- How many owners or members have the worker source. -/
def holders : FixedRoster S Message → ℕ
  | .operating owners => owners.countP RosterOwner.holdsSource
  | .shuttingDown shutdown => shutdown.members.countP FixedShutdownMember.holdsSource
  | _ => 0

/-- The roles of a roster that runs. -/
theorem assets_declarations {roster : FixedRoster S Message} (h : roster.Running) :
    roster.assets.filterMap Asset.declaration
      = roster.owned.flatten.map MemberRole.declaration := by
  have hroles : ∀ roles : List (MemberRole S),
      (roles.map MemberRole.asset).filterMap Asset.declaration
        = roles.map MemberRole.declaration := by
    intro roles
    rw [List.filterMap_map, ← List.filterMap_eq_map]
    rfl
  cases roster with
  | operating owners =>
    simp only [assets, owned]
    induction owners with
    | nil => rfl
    | cons owner owners ih =>
      rw [records_cons, List.map_append, List.filterMap_append, ih trivial, List.map_cons,
        List.flatten_cons, List.map_append, RosterOwner.records, List.map_append,
        List.filterMap_append, assets_of_roles, hroles]
      have hpreparation : (owner.preparation.map Record.asset).filterMap Asset.declaration = [] := by
        unfold RosterOwner.preparation
        split <;> rfl
      rw [hpreparation, List.nil_append]
  | shuttingDown shutdown =>
    simp only [assets, owned]
    induction shutdown.members with
    | nil => rfl
    | cons member members ih =>
      rw [List.flatMap_cons, List.filterMap_append, ih, List.map_cons, List.flatten_cons,
        List.map_append, FixedShutdownMember.assets]
      cases member.preparation <;> rfl
  | _ => exact h.elim

/-- The holders of the worker source in a roster. -/
theorem assets_sources (roster : FixedRoster S Message) (h : roster.Running) :
    roster.assets.countP Asset.isSource = roster.holders := by
  have hroles : ∀ roles : List (MemberRole S),
      (roles.map MemberRole.asset).countP Asset.isSource = 0 := by
    intro roles
    rw [List.countP_map, List.countP_eq_zero]
    exact fun role _ => Bool.false_ne_true
  cases roster with
  | operating owners =>
    simp only [assets, holders]
    induction owners with
    | nil => rfl
    | cons owner owners ih =>
      rw [records_cons, List.map_append, List.countP_append, ih trivial, List.countP_cons,
        RosterOwner.records, List.map_append, List.countP_append, assets_of_roles, hroles]
      unfold RosterOwner.preparation RosterOwner.holdsSource
      split
      · simp [Record.asset, Asset.isSource]
        omega
      · simp
  | shuttingDown shutdown =>
    simp only [assets, holders]
    induction shutdown.members with
    | nil => rfl
    | cons member members ih =>
      rw [List.flatMap_cons, List.countP_append, ih, List.countP_cons, FixedShutdownMember.assets,
        FixedShutdownMember.holdsSource]
      cases member.preparation with
      | none => simp [MemberRole.asset, Asset.isSource]
      | some expected =>
        simp only [Option.toList_some, List.map_cons, List.map_nil, List.cons_append,
          List.nil_append, List.countP_cons, List.countP_nil, MemberRole.asset, Asset.isSource,
          Option.isSome_some, if_true, Bool.false_eq_true, if_false]
        omega
  | _ => exact h.elim

/-- The statuses are those of the roles. -/
theorem statuses_positions (roster : FixedRoster S Message) :
    roster.statuses.map Prod.fst = roster.owned.flatten.map MemberRole.position := by
  cases roster with
  | operating owners =>
    simp only [statuses, owned]
    induction owners with
    | nil => rfl
    | cons owner owners ih =>
      rw [List.flatMap_cons, List.map_append, ih, List.map_cons, List.flatten_cons,
        List.map_append]
      congr 1
      cases owner with
      | recovery recovery =>
        cases recovery with
        | preparing selected => exact List.map_map
        | admitted batch =>
          change (batch.members.map _).map _ = (batch.members.map _).map _
          rw [List.map_map, List.map_map]
          rfl
      | _ => rfl
  | shuttingDown shutdown =>
    simp only [statuses, owned]
    rw [List.map_map, ← List.flatMap_def, List.map_flatMap]
    exact List.map_eq_flatMap
  | _ => rfl

end FixedRoster

/-! ### The first roster -/

theorem FixedSupervisor.declared_assets (position heap : ℕ) (members : List (PreparedWorker S))
    {ids} (hlength : ids.length = members.length) :
    (records (declared position heap (members.zip ids) : List (RosterOwner S Message))).map
        Record.asset
      = (declarationsFrom position members).map fun role => .role role.1 role.2 := by
  induction members generalizing position heap ids with
  | nil =>
    obtain rfl := List.length_eq_zero_iff.mp hlength
    rfl
  | cons member members ih =>
    cases ids with
    | nil => cases hlength
    | cons id ids =>
      have hrest := ih (position + 1) (heap + 1) (Nat.succ.inj hlength)
      rw [List.zip_cons_cons, declared, records_cons, List.map_append, hrest]
      rfl

/-- What a supervisor is built with. -/
def builtAssets (config : Config S) (prepared : List (PreparedWorker S)) : List (Asset S) :=
  ((declarationsFrom 0 prepared).map fun role => .role role.1 role.2) ++
    (SupervisorRecovery.ofRecovery config.recovery).assets

theorem init_assets (config : Config S) (prepared : List (PreparedWorker S))
    (h : (FixedSupervisor.build config prepared : FixedSupervisor S Message).init.1.roster.Running) :
    (FixedSupervisor.build config prepared : FixedSupervisor S Message).init.1.assets
      = builtAssets config prepared := by
  cases hids : issueAll prepared.length ⟨some 1⟩ with
  | mk ids creations =>
    cases ids with
    | none =>
      simp only [FixedSupervisor.init, FixedSupervisor.build, hids] at h
      exact h.elim
    | some ids =>
      have hassets : (records (FixedSupervisor.declared 0 0 (prepared.zip ids) :
          List (RosterOwner S Message))).map Record.asset = _ :=
        FixedSupervisor.declared_assets 0 0 prepared (issueAll_length hids)
      simp only [FixedSupervisor.init, FixedSupervisor.build, hids]
      change _ ++ _ = _ ++ _
      rw [← hassets]
      rfl

/-! ### Runs -/

/-- **The roles are the declared ones**, each once. -/
structure Owns (prepared : List (PreparedWorker S)) (roles : List (MemberRole S)) : Prop where
  once : (roles.map MemberRole.position).Perm (List.range prepared.length)
  named : ∀ role ∈ roles, (prepared[role.position]?).map PreparedWorker.role = some role.name

/-- **A snapshot lists the statuses of all declared roles in declaration order.** -/
def Lists (prepared : List (PreparedWorker S)) (statuses : List (ℕ × MemberStatus S))
    (snapshot : FixedSnapshot S) : Prop :=
  ∃ listed : List (ℕ × MemberStatus S), listed.Perm statuses ∧
    listed.map Prod.fst = List.range prepared.length ∧ snapshot.members = listed.map Prod.snd

theorem declarationsFrom_eq (position : ℕ) (members : List (PreparedWorker S)) :
    (declarationsFrom position members).map Prod.fst = List.range' position members.length ∧
      ∀ role ∈ declarationsFrom position members, position ≤ role.1 ∧
        (members[role.1 - position]?).map PreparedWorker.role = some role.2 := by
  induction members generalizing position with
  | nil => exact ⟨rfl, nofun⟩
  | cons member members ih =>
    obtain ⟨hpositions, hnames⟩ := ih (position + 1)
    refine ⟨?_, fun role hrole => ?_⟩
    · rw [declarationsFrom, List.map_cons, hpositions, List.length_cons, List.range'_succ]
    · rcases List.mem_cons.mp hrole with rfl | hrole
      · exact ⟨Nat.le_refl _, by simp⟩
      · obtain ⟨hle, hname⟩ := hnames role hrole
        refine ⟨by omega, ?_⟩
        rw [show role.1 - position = role.1 - (position + 1) + 1 by omega, List.getElem?_cons_succ]
        exact hname

/-- The snapshot of a roster lists what its owners append. -/
theorem FixedRoster.status_lists {prepared} {roster : FixedRoster S Message} (h : roster.Running)
    (hroles : Owns prepared roster.owned.flatten) :
    ∃ snapshot, roster.status = some snapshot ∧ Lists prepared roster.statuses snapshot := by
  have hpositions : (roster.statuses.map Prod.fst).Perm (List.range prepared.length) := by
    rw [statuses_positions]
    exact hroles.once
  cases roster with
  | operating owners =>
    exact ⟨_, rfl, _, Search.sortBy_perm _ _, Search.sortBy_range hpositions, rfl⟩
  | shuttingDown shutdown =>
    refine ⟨_, rfl, (FixedShutdown.declared shutdown.members).map fun member =>
      (member.role.position, member.phase.status), (Search.sortBy_perm _ _).map _, ?_, ?_⟩
    · have hrange : (shutdown.members.map fun member => member.role.position).Perm
          (List.range prepared.length) := by
        rw [statuses, List.map_map] at hpositions
        exact hpositions
      rw [List.map_map]
      exact Search.sortBy_range hrange
    · rw [List.map_map]
      rfl
  | _ => exact h.elim

variable [DecidableEq S.Role]

/-- **A run keeps what its supervisor was built with**, while the roster runs. -/
theorem run_assets (config : Config S) (prepared : List (PreparedWorker S))
    (events : List (FixedSupervisorEvent S Message))
    (h : (run config prepared events).supervisor.roster.Running) :
    (run config prepared events).supervisor.assets.Perm (builtAssets config prepared) := by
  induction events using List.reverseRecOn with
  | nil =>
    rw [run_nil] at h ⊢
    rw [init_assets config prepared h]
  | append_singleton events event ih =>
    rw [run_snoc] at h ⊢
    exact (FixedSupervisor.transition_assets _ event).trans
      (ih (FixedSupervisor.transition_running h))

/-- **No declared role is lost or owned twice.**  In every state of a run in which the roster is
in operation or shuts down, its owners own the declared roles, each once, the worker source is in
one place at most, and a snapshot lists every declared role in declaration order. -/
theorem run_preserves (config : Config S) (prepared : List (PreparedWorker S))
    (events : List (FixedSupervisorEvent S Message))
    (h : (run config prepared events).supervisor.roster.Running) :
    let self := (run config prepared events).supervisor
    Owns prepared self.roster.owned.flatten ∧
      self.roster.holders + self.recovery.assets.length ≤ 1 ∧
      ∃ snapshot, self.roster.status = some snapshot ∧
        Lists prepared self.roster.statuses snapshot := by
  intro self
  have hassets : (self.roster.assets ++ self.recovery.assets).Perm (builtAssets config prepared) :=
    run_assets config prepared events h
  have hsources : ∀ recovery : SupervisorRecovery S,
      recovery.assets.filterMap Asset.declaration = [] ∧
        recovery.assets.countP Asset.isSource = recovery.assets.length ∧
        recovery.assets.length ≤ 1 := by
    rintro (⟨settings, source, budget, correlations⟩ | _)
    · cases source <;> exact ⟨rfl, rfl, Nat.le_of_ble_eq_true rfl⟩
    · exact ⟨rfl, rfl, Nat.zero_le 1⟩
  have hdeclared : (self.roster.owned.flatten.map MemberRole.declaration).Perm
      (declarationsFrom 0 prepared) := by
    have hperm := hassets.filterMap Asset.declaration
    rw [builtAssets, List.filterMap_append, List.filterMap_append, (hsources _).1, (hsources _).1,
      List.append_nil, List.append_nil, FixedRoster.assets_declarations h,
      List.filterMap_map] at hperm
    refine hperm.trans (.of_eq ?_)
    exact List.filterMap_some
  obtain ⟨hpositions, hnames⟩ := declarationsFrom_eq 0 prepared
  have howns : Owns prepared self.roster.owned.flatten := by
    refine ⟨?_, fun role hrole => ?_⟩
    · have hperm := hdeclared.map Prod.fst
      rw [List.map_map, hpositions] at hperm
      rw [List.range_eq_range']
      exact hperm
    · have hmem := hdeclared.subset (List.mem_map_of_mem hrole)
      exact (hnames _ hmem).2
  refine ⟨howns, ?_, FixedRoster.status_lists h howns⟩
  have hcount := hassets.countP_eq Asset.isSource
  have hroles : ((declarationsFrom 0 prepared).map fun role =>
      (Asset.role role.1 role.2 : Asset S)).countP Asset.isSource = 0 := by
    rw [List.countP_map, List.countP_eq_zero]
    exact fun role _ => Bool.false_ne_true
  rw [builtAssets, List.countP_append, List.countP_append, hroles, (hsources _).2.1,
    (hsources _).2.1, FixedRoster.assets_sources self.roster h] at hcount
  have hle := (hsources (SupervisorRecovery.ofRecovery config.recovery)).2.2
  omega

/-- Two roles, the first of which recovers alone. -/
def pair : Config numbers where
  startup := ⟨1, Nat.one_pos⟩
  recovery := .permanent () ⟨.oneForOne, ⟨1, 1, RestartLimit.one_lt⟩, .immediate⟩
  failure := .retireMember
  shutdown := .waitForActorGraph
  diagnostics := .deliverTo
  lifecycle := false

/-- The worker of the first role stops while the second waits for its proxy, and no worker can be
prepared for its recovery. -/
def unprepared : List (FixedSupervisorEvent numbers Unit) :=
  [.proxyCreationsSettled (.settled [.attempted (.accepted (.established 1 .birth (7 : ℕ))),
      .attempted (.accepted (.established 2 .birth (8 : ℕ)))]),
    .proxyInputSettled (.attempted (.accepted ⟨1, (7 : ℕ), 0⟩)),
    .proxyReported ⟨1, .initial (.resolved (.ready ⟨1, 0⟩ ()))⟩,
    .proxyReported ⟨1, .workerStopped ⟨1, 0⟩ ⟨1, .ok .normal, 0⟩⟩,
    .workerPreparationStarted (.attempted (.accepted 2)),
    .workerPreparationReturned ⟨2, .workerRejected () [] (10 : ℕ) () []⟩]

/-- A recovery begins, and fails. -/
theorem run_preserves_pair :
    Lists [(⟨10, (), ()⟩ : PreparedWorker numbers), ⟨20, (), ()⟩]
        [(1, .awaitingProxy), (0, .recovering)] ⟨[.recovering, .awaitingProxy]⟩ ∧
      Lists [(⟨10, (), ()⟩ : PreparedWorker numbers), ⟨20, (), ()⟩]
        [(1, .awaitingProxy), (0, .stopping)] ⟨[.stopping, .awaitingProxy]⟩ := by
  constructor
  · obtain ⟨-, -, snapshot, hstatus, hlists⟩ := run_preserves pair [⟨10, (), ()⟩, ⟨20, (), ()⟩]
      (unprepared.take 4) trivial
    obtain rfl := Option.some.inj hstatus
    exact hlists
  · obtain ⟨-, -, snapshot, hstatus, hlists⟩ := run_preserves pair [⟨10, (), ()⟩, ⟨20, (), ()⟩]
      unprepared trivial
    obtain rfl := Option.some.inj hstatus
    exact hlists

end Bombay.Fixed
