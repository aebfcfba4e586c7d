/-
# The proxy of an entry stops

`accept_proxy_stop` of `directory/mod.rs` has an
arm for an entry that is stopping and one for an entry that is retiring.  In every
other phase the stop is only diagnosed, and a retirement whose worker input was given
away goes on waiting for its outcome: there the entry stays in the table.
-/

import Bombay.Directory.Runs

namespace Bombay.Directory

open Proxy (ProxyOutcome InitialWorkerOutcome ReplacementOutcome)
open DynamicSupervisor

variable {Key : Type} [LinearOrder Key] {S : Signature} {Message : Type}

/-! ### What an entry waits for -/

/-- The proxy of an entry, once it is established. -/
def DynamicEntryPhase.proxy : DynamicEntryPhase S Message → Option S.Actor
  | .creatingProxy _ => none
  | .shuttingDownProxyCreation => none
  | .drainingProxyCreationStop => none
  | .cancellingProxyCreation => none
  | .stoppingProxyCreation _ _ => none
  | .waitingForStartup proxy _ => some proxy
  | .waitingForProxyInput proxy _ => some proxy
  | .waitingForProxyOutcome proxy _ => some proxy
  | .available proxy _ _ => some proxy
  | .replacementQueued proxy _ _ => some proxy
  | .replacementAwaitingReceipt proxy _ _ => some proxy
  | .replacementAwaitingOutcome proxy _ _ => some proxy
  | .stopping proxy _ _ _ => some proxy
  | .retiring retirement => some retirement.proxy

/-- The operation whose settlement is outstanding. -/
def ProxyShutdown.outstanding : ProxyShutdown → List ℕ
  | .awaitingSettlement witness => [witness]
  | _ => []

/-- The worker input whose settlement is outstanding. -/
def RetiringWork.outstanding : RetiringWork S Message → List ℕ
  | .transferred _ (.awaitingSettlement witness) => [witness]
  | _ => []

/-- The operations of an entry whose settlements are outstanding. -/
def DynamicEntryPhase.outstanding : DynamicEntryPhase S Message → List ℕ
  | .waitingForProxyInput _ witness => [witness]
  | .replacementAwaitingReceipt _ _ witness => [witness]
  | .stopping _ _ shutdown _ => shutdown.outstanding
  | .retiring retirement => retirement.shutdown.outstanding ++ retirement.work.outstanding
  | _ => []

/-- An input that settles an operation on the proxy of an entry. -/
def Settles (entry : DynamicEntry S Message) (token : ℕ) (input : ProxyInputResult S) : Prop :=
  proxyInputCreation input = entry.creation ∧ proxyInputOperation input = token

/-- The outstanding settlements of an entry are among the events. -/
def Delivered (entry : DynamicEntry S Message)
    (events : List (DynamicSupervisorEvent Key S Message)) : Prop :=
  ∀ token ∈ entry.phase.outstanding, ∃ input, Settles entry token input ∧
    .proxyInputSettled input ∈ events

/-- **The entry is removed**, alone and with its retirement announced, by one transition. -/
def Journal.Removes (journal : Journal Key S Message) (key : Key)
    (entry : DynamicEntry S Message) : Prop :=
  (∀ other service, journal.supervisor.services.get? other = some service →
    service.creation ≠ entry.creation) ∧
  ∃ removal ∈ journal.entries, (∃ service, removal.before.services.get? key = some service ∧
      service.creation = entry.creation) ∧
    removal.after.services.get? key = none ∧
    (∃ cause, .entryRetired key entry.generation cause ∈ removal.actions.lifecycle) ∧
    ∀ other service, other ≠ key → removal.before.services.get? other = some service →
      ∃ after, removal.after.services.get? other = some after ∧ after.creation = service.creation

/-- **The stop of its proxy retires an entry**: it changes no other entry, and the entry is removed
once its outstanding settlements have been delivered, whatever else arrives. -/
structure RetiredBy (supervisor : DynamicSupervisor Key S Message) (key : Key)
    (entry : DynamicEntry S Message) (stop : ChildStopped S) : Prop where
  others : ∀ other, other ≠ key →
    (supervisor.transition (.proxyStopped stop)).1.services.get? other
      = supervisor.services.get? other
  removed : ∀ events, Delivered entry events →
    (supervisor.resume (.proxyStopped stop :: events)).Removes key entry

/-- The phases in which a stop of the proxy leads to the end of the entry: it is stopping, or it is
retiring and the worker input that was given away is resolved. -/
def DynamicEntryPhase.ends : DynamicEntryPhase S Message → Bool
  | .stopping _ _ _ _ => true
  | .retiring retirement => retirement.work.resolved
  | _ => false

/-! ### The table -/

variable {self : DynamicSupervisor Key S Message} {event : DynamicSupervisorEvent Key S Message}
    {key : Key} {entry service : DynamicEntry S Message} {stop : ChildStopped S} {witness : ℕ}
    {outcome : Outcome Key S Message}

/-- A transition that removes one entry removes no other. -/
theorem Turn.removes_one {acted} (h : Turn self event acted) {other}
    (hentry : self.services.get? key = some entry) (hgone : acted.1.services.get? key = none)
    (hother : other ≠ key) (hservice : self.services.get? other = some service) :
    ∃ after, acted.1.services.get? other = some after ∧ Evolves other event service after := by
  rcases h.entry_after hservice with hgoes | ⟨hnone, -⟩
  · exact hgoes
  -- Both are gone: the turn moved one entry, and the other one stayed.
  · cases h with
    | @moved _ moved old outcome operations _ _ actions hold _ hstep _ _ hauthorizes hactions =>
      have hstays : ∀ key entry, self.services.get? key = some entry → key ≠ moved →
          (self.moved moved outcome operations).services.get? key = some entry := by
        intro key entry hentry hkey
        rw [moved_get?, if_neg hkey]
        exact hentry
      by_cases hkey : other = moved
      · obtain ⟨after, hafter, -⟩ := hauthorizes.after
          (hstays key entry hentry fun h => hother (hkey.trans h.symm))
        exact absurd (hgone.symm.trans hafter) (by simp)
      · obtain ⟨after, hafter, -⟩ := hauthorizes.after (hstays other service hservice hkey)
        exact absurd (hnone.symm.trans hafter) (by simp)
    | swept haccepting =>
      obtain ⟨heap, hafter⟩ := (beginShutdown_entries haccepting).1 other service hservice
      exact absurd (hnone.symm.trans hafter) (by simp)
    | @begun begun _ _ _ _ _ _ _ _ _ haccepting habsent _ _ _ _ =>
      have hkey : other ≠ begun := by
        rintro rfl
        rw [habsent] at hservice
        cases hservice
      rw [put_get?, if_neg hkey, hservice] at hnone
      cases hnone
    | refused | kept hkeeps | timed havailability hdeadline =>
      exact absurd (hnone.symm.trans hservice) (by simp)

/-- The stop of a proxy touches the entry of that proxy. -/
theorem acceptProxyStop_others {other} (hfound : self.takeProxyEntry stop.child = some (key, entry))
    (hother : other ≠ key) :
    (acceptProxyStop self stop).1.services.get? other = self.services.get? other := by
  simp only [acceptProxyStop, hfound]
  split
  · simp [hother]
  · simp [DynamicSupervisor.drop, OrderedMap.get?_erase, hother]
  · rw [settleRetirement]
    split
    · simp [DynamicSupervisor.drop, OrderedMap.get?_erase, hother]
    · simp [hother]
  · rfl

/-! ### An entry that waits for one settlement -/

/-- The proxy of the entry has stopped, and only the settlement of its shutdown is missing. -/
def DynamicEntryPhase.Doomed (witness : ℕ) : DynamicEntryPhase S Message → Prop
  | .stopping _ _ shutdown stopped => shutdown = .awaitingSettlement witness ∧ stopped.isSome
  | .retiring ⟨_, shutdown, work, stopped⟩ =>
    shutdown = .awaitingSettlement witness ∧ work.resolved = true ∧ stopped.isSome
  | _ => False

omit [LinearOrder Key] in
/-- A step of such an entry ends it, and says so. -/
theorem Steps.doomed {heap} (h : Steps key heap event entry outcome)
    (hdoomed : entry.phase.Doomed witness) :
    outcome.after = none ∧
      ∃ cause, .entryRetired key entry.generation cause ∈ outcome.lifecycle := by
  cases h with
  | retired h | stopping h | uncreated hcreation hresolve h => cases h <;> exact absurd hdoomed id
  | shifted h =>
    cases h with
    | stopAccepted hcreation hwitness | restored hcreation hwitness hrefused hfailure
    | stopRefused hcreation hwitness hrefused hfailure | stopObserved hchild =>
      exact absurd hdoomed.2 (by simp)
    | _ => exact absurd hdoomed id
  | ended h =>
    refine ⟨rfl, .stop, ?_⟩
    cases h <;> simp [entryRetired]
  | @continued _ generation operation creation before retirement lifecycle diagnostics h =>
    have hclosable : retirement.closable = true := by
      cases h with
      | @accepted _ _ _ stopped _ hcreation hwitness =>
        obtain ⟨stop, rfl⟩ := Option.isSome_iff_exists.mp hdoomed.2.2
        exact hdoomed.2.1
      | @refused _ _ _ stopped _ _ hcreation hwitness hrefused hlifecycle =>
        obtain ⟨stop, rfl⟩ := Option.isSome_iff_exists.mp hdoomed.2.2
        exact hdoomed.2.1
      | inputAccepted hcreation hwitness | reported hexpects =>
        exact absurd hdoomed.2.1 (by simp [RetiringWork.resolved])
      | inputRefused hcreation hwitness hrefused =>
        exact absurd hdoomed.2.1 (by simp [RetiringWork.resolved])
      | stopped hchild => exact absurd hdoomed.2.2 (by simp)
    rcases closeRetirement_spec key generation operation retirement with
      ⟨hnot, -⟩ | ⟨-, closing, cause, hclose, hmem⟩
    · rw [hclosable] at hnot
      cases hnot
    · unfold settled
      rw [hclose]
      exact ⟨rfl, cause, List.mem_append_right _ hmem⟩

omit [LinearOrder Key] in
/-- **Such an entry stays as it is** for as long as it is there. -/
theorem Evolves.doomed {after} (h : Evolves key event entry after)
    (hdoomed : entry.phase.Doomed witness) : after.phase.Doomed witness := by
  induction h with
  | kept => exact hdoomed
  | stepped hstep hafter => exact absurd ((hstep.doomed hdoomed).1.symm.trans hafter) (by simp)
  | authorized hbefore hauthorized ih =>
    have hmiddle := ih hdoomed
    cases hauthorized <;> exact absurd hmiddle id
  | @swept entry heap hevent =>
    obtain ⟨generation, operation, creation, phase⟩ := entry
    cases phase <;> first | exact hdoomed | exact absurd hdoomed id

theorem transition_stopped (self : DynamicSupervisor Key S Message) (stop : ChildStopped S) :
    (self.transition (.proxyStopped stop)).1 = (acceptProxyStop self stop).1 :=
  applyShutdownStep_fst _

theorem transition_settled (self : DynamicSupervisor Key S Message) (input : ProxyInputResult S) :
    (self.transition (.proxyInputSettled input)).1 = (acceptProxyInput self input).1 :=
  applyShutdownStep_fst _

/-- A retirement that can end is taken out of the table. -/
theorem settleRetirement_closable {retirement} (h : retirement.closable = true) :
    (settleRetirement self key entry retirement).1 = self.drop key := by
  rcases closeRetirement_spec key entry.generation entry.operation retirement with
    ⟨hnot, -⟩ | ⟨-, closing, cause, hclose, -⟩
  · rw [h] at hnot
    cases hnot
  · rw [settleRetirement, hclose]

theorem drop_get? (self : DynamicSupervisor Key S Message) (key : Key) :
    (self.drop key).services.get? key = none := by
  rw [DynamicSupervisor.drop, OrderedMap.get?_erase, if_pos rfl]

/-- An entry that is not in the table is not given a slot. -/
theorem authorizeWaiting_absent
    (h : self.services.get? key = none) : (authorizeWaiting self).1.services.get? key = none := by
  by_contra hsome
  obtain ⟨after, hafter⟩ := Option.ne_none_iff_exists'.mp hsome
  obtain ⟨entry, hentry, -⟩ := (show Authorizes self (authorizeWaiting self) from .inr rfl).before
    hafter
  rw [h] at hentry
  cases hentry

/-- **The settlement it waits for ends a doomed entry.** -/
theorem doomed_settled (hsound : Sound self) {input} (hentry : self.services.get? key = some entry)
    (hdoomed : entry.phase.Doomed witness) (hsettles : Settles entry witness input) :
    (self.transition (.proxyInputSettled input)).1.services.get? key = none := by
  rw [transition_settled]
  have hfound := hsound.takeProxyEntry hentry
  rw [← hsettles.1] at hfound
  have hadmits : admits witness input = true := admits_iff.mpr hsettles.2
  obtain ⟨generation, operation, creation, phase⟩ := entry
  cases phase with
  | stopping proxy restorable shutdown stopped =>
    obtain ⟨rfl, hstopped⟩ := hdoomed
    obtain ⟨stop, rfl⟩ := Option.isSome_iff_exists.mp hstopped
    simp only [acceptProxyInput, hfound, acceptStoppingInput, hadmits, if_true]
    rcases accepted_or_refused input with ⟨receipt, rfl⟩ | hrefused
    · exact drop_get? self key
    · obtain ⟨failure, hfailure, hstop⟩ := entryStopResult_refused (some stop) hrefused
      simp only [hfailure, hstop]
      exact drop_get? self key
  | retiring retirement =>
    obtain ⟨proxy, shutdown, work, stopped⟩ := retirement
    obtain ⟨rfl, hresolved, hstopped⟩ := hdoomed
    obtain ⟨stop, rfl⟩ := Option.isSome_iff_exists.mp hstopped
    have hends : ∀ (retirement : ProxyRetirement S Message) lifecycle diagnostics,
        retirement.closable = true → (continueRetirement self key ⟨generation, operation, creation,
          .retiring ⟨proxy, .awaitingSettlement witness, work, some stop⟩⟩ retirement lifecycle
          diagnostics).1.services.get? key = none := by
      intro retirement lifecycle diagnostics hclosable
      rw [continueRetirement]
      refine authorizeWaiting_absent ?_
      rw [settleRetirement_closable hclosable]
      exact drop_get? self key
    simp only [acceptProxyInput, hfound, acceptRetiringInput, hadmits, if_true]
    rcases accepted_or_refused input with ⟨receipt, rfl⟩ | hrefused
    · exact hends _ _ _ hresolved
    · obtain ⟨failure, hfailure, -⟩ := entryStopResult_refused (some stop) hrefused
      simp only [hfailure]
      split <;> exact hends _ _ _ hresolved
  | _ => exact absurd hdoomed id

/-- **The stop of its proxy dooms an entry, or ends it.** -/
theorem stop_dooms (hsound : Sound self)
    (hentry : self.services.get? key = some entry) (hends : entry.phase.ends = true)
    (hstop : stop.child = entry.creation) :
    (self.transition (.proxyStopped stop)).1.services.get? key = none ∨
      ∃ witness after, entry.phase.outstanding = [witness] ∧ after.phase.Doomed witness ∧
        (self.transition (.proxyStopped stop)).1.services.get? key = some after := by
  rw [transition_stopped]
  have hfound := hsound.takeProxyEntry hentry
  rw [← hstop] at hfound
  have hopen := hsound.opened key entry hentry
  obtain ⟨generation, operation, creation, phase⟩ := entry
  cases phase with
  | stopping proxy restorable shutdown stopped =>
    cases shutdown with
    | rejected => exact absurd hopen id
    | accepted token =>
      cases stopped with
      | some earlier => exact absurd hopen id
      | none =>
        simp only [acceptProxyStop, hfound]
        exact .inl (drop_get? self key)
    | awaitingSettlement witness =>
      refine .inr ⟨witness, ?_⟩
      cases stopped with
      | none =>
        refine ⟨⟨generation, operation, creation,
          .stopping proxy restorable (.awaitingSettlement witness) (some stop)⟩, rfl,
          ⟨rfl, rfl⟩, ?_⟩
        simp only [acceptProxyStop, hfound, put_get?, if_true]
      | some earlier =>
        refine ⟨⟨generation, operation, creation,
          .stopping proxy restorable (.awaitingSettlement witness) (some earlier)⟩, rfl,
          ⟨rfl, rfl⟩, ?_⟩
        simp only [acceptProxyStop, hfound, rejectProxyStop]
        exact hentry
  | retiring retirement =>
    obtain ⟨proxy, shutdown, work, stopped⟩ := retirement
    have hresolved : work.resolved = true := hends
    have hquiet : work.outstanding = [] := by
      unfold RetiringWork.outstanding
      split
      · cases hresolved
      · rfl
    cases stopped with
    | none =>
      simp only [acceptProxyStop, hfound]
      cases shutdown with
      | awaitingSettlement witness =>
        refine .inr ⟨witness, ⟨generation, operation, creation,
          .retiring ⟨proxy, .awaitingSettlement witness, work, some stop⟩⟩, ?_,
          ⟨rfl, hresolved, rfl⟩, ?_⟩
        · simp [DynamicEntryPhase.outstanding, ProxyShutdown.outstanding, hquiet]
        · simp [settleRetirement, closeRetirement]
      | accepted token | rejected =>
        rw [settleRetirement_closable (by exact hresolved)]
        exact .inl (drop_get? self key)
    | some earlier =>
      cases shutdown with
      | awaitingSettlement witness =>
        refine .inr ⟨witness, ⟨generation, operation, creation,
          .retiring ⟨proxy, .awaitingSettlement witness, work, some earlier⟩⟩, ?_,
          ⟨rfl, hresolved, rfl⟩, ?_⟩
        · simp [DynamicEntryPhase.outstanding, ProxyShutdown.outstanding, hquiet]
        · simp only [acceptProxyStop, hfound, rejectProxyStop]
          exact hentry
      | accepted token | rejected => exact absurd (hresolved.symm.trans hopen) (by simp)
  | _ => cases hends

/-! ### Runs -/

/-- **An entry that a transition takes out of the table is removed.** -/
theorem Entry.Valid.removes {entry : Entry Key S Message} (h : entry.Valid)
    (hservice : entry.before.services.get? key = some service)
    (hgone : entry.after.services.get? key = none) :
    (∀ other after, entry.after.services.get? other = some after →
      after.creation ≠ service.creation) ∧
    ∀ other old, other ≠ key → entry.before.services.get? other = some old →
      ∃ after, entry.after.services.get? other = some after ∧ after.creation = old.creation := by
  constructor
  · intro other after hafter hsame
    rcases h.entry_before hafter with ⟨old, hold, hmoves⟩ | ⟨-, -, hissue⟩
    · obtain rfl := h.sound.distinct other key old service hold hservice
        (hmoves.kept_identity.1.symm.trans hsame)
      rw [hgone] at hafter
      cases hafter
    · have hlt := (h.sound.past key service hservice).ne_issue hissue
      omega
  · intro other old hother hold
    obtain ⟨acted, hturn, hafter, -⟩ := h.turn
    rw [← hafter] at hgone ⊢
    obtain ⟨after, hthere, hmoves⟩ := hturn.removes_one hservice hgone hother hold
    exact ⟨after, hthere, hmoves.kept_identity.1⟩

/-- What was removed stays so. -/
theorem Journal.Removes.step {first} {journal : Journal Key S Message}
    (h : journal.Removes key entry) (hcoherent : journal.Coherent first)
    (hpast : journal.supervisor.creations.Past entry.creation)
    (event : DynamicSupervisorEvent Key S Message) : (journal.step event).Removes key entry := by
  obtain ⟨habsent, removal, hremoval, hremoves⟩ := h
  refine ⟨fun other after hafter hsame => ?_, removal, List.mem_append_left _ hremoval, hremoves⟩
  have hvalid := DynamicSupervisor.entry_valid hcoherent.sound event
  rcases hvalid.entry_before hafter with ⟨old, hold, hmoves⟩ | ⟨-, -, hissue⟩
  · exact habsent other old hold (hmoves.kept_identity.1.symm.trans hsame)
  · have hlt := hpast.ne_issue hissue
    omega

omit [LinearOrder Key] in
/-- **A step that leaves nothing of an entry says so**: its retirement is announced, or the
rejection of its creation. -/
theorem Steps.announces {heap} (h : Steps key heap event entry outcome)
    (hnone : outcome.after = none) :
    (∃ cause, .entryRetired key entry.generation cause ∈ outcome.lifecycle) ∨
      ∃ submission settlement, entry.phase = .creatingProxy submission ∧
        .startCreationRejected key entry.generation submission settlement
          ∈ outcome.lifecycle := by
  cases h with
  | retired h => cases hnone
  | stopping h => cases hnone
  | shifted h => cases hnone
  | uncreated hcreation hresolve h =>
    cases h with
    | creating => exact .inr ⟨_, _, rfl, List.mem_singleton_self _⟩
    | _ => exact .inl ⟨_, by simp [entryRetired, operationCancelled]; rfl⟩
  | ended h =>
    refine .inl ⟨.stop, ?_⟩
    cases h <;> simp [entryRetired]
  | @continued _ generation operation creation before retirement lifecycle diagnostics h =>
    rcases closeRetirement_spec key generation operation retirement with
      ⟨-, hclose⟩ | ⟨-, closing, cause, hclose, hmem⟩
    · unfold settled at hnone
      rw [hclose] at hnone
      cases hnone
    · unfold settled
      rw [hclose]
      exact .inl ⟨cause, List.mem_append_right _ hmem⟩

/-- An entry that was established and is taken out of the table is removed. -/
theorem Journal.Coherent.removes {first} {journal : Journal Key S Message}
    (h : journal.Coherent first) (event : DynamicSupervisorEvent Key S Message)
    (hservice : journal.supervisor.services.get? key = some service)
    (hcreation : service.creation = entry.creation)
    (hgeneration : service.generation = entry.generation) (hends : service.phase.ends = true)
    (hgone : (journal.supervisor.transition event).1.services.get? key = none) :
    (journal.step event).Removes key entry := by
  have hvalid := DynamicSupervisor.entry_valid h.sound event
  obtain ⟨habsent, hothers⟩ := hvalid.removes hservice hgone
  refine ⟨fun other after hafter => hcreation ▸ habsent other after hafter,
    journal.supervisor.entry event, List.mem_append_right _ (List.mem_singleton_self _),
    ⟨service, hservice, hcreation⟩, hgone, ?_, hothers⟩
  rcases hvalid.entry_after hservice with
    ⟨after, hafter, -⟩ | ⟨-, heap, outcome, hstep, hnone, hspoken⟩
  · exact absurd (hgone.symm.trans hafter) (by simp)
  · rw [hspoken, ← hgeneration]
    rcases hstep.announces hnone with hretired | ⟨submission, settlement, hphase, -⟩
    · exact hretired
    · rw [hphase] at hends
      cases hends

theorem DynamicEntryPhase.Doomed.ends {phase : DynamicEntryPhase S Message}
    (h : phase.Doomed witness) : phase.ends = true := by
  cases phase with
  | stopping proxy restorable shutdown stopped => rfl
  | retiring retirement => exact h.2.1
  | _ => exact absurd h id

/-- **After the stop of its proxy**, an entry that ends has been removed, or waits for a settlement
that was not delivered. -/
theorem resume_stopped (hsound : Sound self)
    (hentry : self.services.get? key = some entry) (hends : entry.phase.ends = true)
    (hstop : stop.child = entry.creation) (events : List (DynamicSupervisorEvent Key S Message)) :
    (self.resume (.proxyStopped stop :: events)).supervisor.creations.Past entry.creation ∧
      ((self.resume (.proxyStopped stop :: events)).Removes key entry ∨
        ∃ witness service, entry.phase.outstanding = [witness] ∧ service.phase.Doomed witness ∧
          (self.resume (.proxyStopped stop :: events)).supervisor.services.get? key = some service ∧
          service.creation = entry.creation ∧ service.generation = entry.generation ∧
          ∀ input, .proxyInputSettled input ∈ events → ¬ Settles entry witness input) := by
  induction events using List.reverseRecOn with
  | nil =>
    have hvalid := DynamicSupervisor.entry_valid hsound (.proxyStopped stop)
    have hfirst := DynamicSupervisor.resume_coherent hsound
      ([] : List (DynamicSupervisorEvent Key S Message))
    refine ⟨hvalid.past (hsound.past key entry hentry), ?_⟩
    rcases stop_dooms hsound hentry hends hstop with hgone | ⟨witness, service, howed, hdoomed, hthere⟩
    · exact .inl (hfirst.removes (.proxyStopped stop) hentry rfl rfl hends hgone)
    · rcases hvalid.entry_after hentry with ⟨after, hafter, hmoves⟩ | ⟨hgone, -⟩
      · obtain rfl : service = after := Option.some.inj (hthere.symm.trans hafter)
        exact .inr ⟨witness, service, howed, hdoomed, hthere, hmoves.kept_identity.1,
          hmoves.kept_identity.2.1, nofun⟩
      · exact absurd (hgone.symm.trans hthere) (by simp)
  | append_singleton events event ih =>
    have hcoherent := DynamicSupervisor.resume_coherent hsound (.proxyStopped stop :: events)
    rw [← List.cons_append, DynamicSupervisor.resume_snoc]
    obtain ⟨hpast, ih⟩ := ih
    have hvalid := DynamicSupervisor.entry_valid hcoherent.sound event
    refine ⟨hvalid.past hpast, ?_⟩
    rcases ih with hremoved | ⟨witness, service, howed, hdoomed, hthere, hcreation, hgeneration, hnot⟩
    · exact .inl (hremoved.step hcoherent hpast event)
    · rcases hvalid.entry_after hthere with ⟨after, hafter, hmoves⟩ | ⟨hgone, -⟩
      · refine .inr ⟨witness, after, howed, hmoves.doomed hdoomed, hafter,
          hmoves.kept_identity.1.trans hcreation, hmoves.kept_identity.2.1.trans hgeneration, ?_⟩
        intro input hinput hsettles
        rcases List.mem_append.mp hinput with hinput | hinput
        · exact hnot input hinput hsettles
        · obtain rfl := List.mem_singleton.mp hinput
          have hgone := doomed_settled hcoherent.sound hthere hdoomed
            ⟨hsettles.1.trans hcreation.symm, hsettles.2⟩
          exact absurd (hgone.symm.trans hafter) (by simp)
      · exact .inl (hcoherent.removes event hthere hcreation hgeneration hdoomed.ends hgone)

/-! ### An entry that stays -/

/-- A proxy stopped, or an input of one was accepted. -/
def Harmless (event : DynamicSupervisorEvent Key S Message) : Prop :=
  (∃ stop, event = .proxyStopped stop) ∨
    ∃ receipt, event = .proxyInputSettled (.attempted (.accepted receipt))

/-- The entry has a proxy, and a stop of it does not lead to the end of the entry. -/
def DynamicEntryPhase.Stranded (phase : DynamicEntryPhase S Message) : Prop :=
  phase.proxy ≠ none ∧ phase.ends = false

omit [LinearOrder Key] in
/-- Neither a stop nor an accepted input takes out an entry that does not end, or lets it end
later. -/
theorem Steps.stranded {heap} (h : Steps key heap event entry outcome) (hevent : Harmless event)
    (hstranded : entry.phase.Stranded) :
    ∃ after, outcome.after = some after ∧ after.phase.Stranded := by
  cases h with
  | retired h =>
    cases h with
    | startRefused hcreation hwitness hrefused =>
      obtain ⟨stop, h⟩ | ⟨receipt, h⟩ := hevent
      · cases h
      · cases h
        cases hrefused
    | _ => obtain ⟨stop, h⟩ | ⟨receipt, h⟩ := hevent <;> cases h
  | stopping h => cases h <;> obtain ⟨stop, h⟩ | ⟨receipt, h⟩ := hevent <;> cases h
  | uncreated hcreation hresolve h => obtain ⟨stop, h⟩ | ⟨receipt, h⟩ := hevent <;> cases h
  | shifted h =>
    refine ⟨_, rfl, ?_⟩
    cases h with
    | startAccepted hcreation hwitness | replacementAccepted hcreation hwitness
    | replacementRefused hcreation hwitness hrefused =>
      exact ⟨by simp [DynamicEntryPhase.proxy], rfl⟩
    | stopAccepted hcreation hwitness | restored hcreation hwitness hrefused hfailure
    | stopRefused hcreation hwitness hrefused hfailure | stopObserved hchild => cases hstranded.2
    | _ => obtain ⟨stop, h⟩ | ⟨receipt, h⟩ := hevent <;> cases h
  | ended h => cases h <;> cases hstranded.2
  | @continued _ generation operation creation before retirement lifecycle diagnostics h =>
    have hunresolved : retirement.work.resolved = false := by
      have hbefore : before.work.resolved = false := hstranded.2
      cases h with
      | accepted hcreation hwitness => exact hbefore
      | refused hcreation hwitness hrefused hlifecycle => exact hbefore
      | inputAccepted hcreation hwitness => rfl
      | inputRefused hcreation hwitness hrefused =>
        obtain ⟨stop, h⟩ | ⟨receipt, h⟩ := hevent
        · cases h
        · cases h
          cases hrefused
      | stopped hchild => exact hbefore
      | reported hexpects => obtain ⟨stop, h⟩ | ⟨receipt, h⟩ := hevent <;> cases h
    rcases closeRetirement_spec key generation operation retirement with
      ⟨-, hclose⟩ | ⟨hclosable, -⟩
    · unfold settled
      rw [hclose]
      exact ⟨_, rfl, by simp [DynamicEntryPhase.proxy], hunresolved⟩
    · unfold ProxyRetirement.closable at hclosable
      split at hclosable
      · cases hclosable
      · cases hclosable
      · rw [hunresolved] at hclosable
        cases hclosable

omit [LinearOrder Key] in
theorem Evolves.stranded {after} (h : Evolves key event entry after) (hevent : Harmless event)
    (hstranded : entry.phase.Stranded) : after.phase.Stranded := by
  induction h with
  | kept => exact hstranded
  | stepped hstep hafter =>
    obtain ⟨other, hother, hstays⟩ := hstep.stranded hevent hstranded
    obtain rfl := Option.some.inj (hother.symm.trans hafter)
    exact hstays
  | authorized hbefore hauthorized ih =>
    cases hauthorized <;> exact ⟨by simp [DynamicEntryPhase.proxy], rfl⟩
  | swept h =>
    subst h
    obtain ⟨stop, h⟩ | ⟨receipt, h⟩ := hevent <;> cases h

/-- **An entry that does not end is there after any number of stops and accepted inputs.** -/
theorem resume_stranded (hsound : Sound self) (hentry : self.services.get? key = some entry)
    (hstranded : entry.phase.Stranded) {events} (hevents : ∀ event ∈ events, Harmless event) :
    ∃ service, (self.resume events).supervisor.services.get? key = some service ∧
      service.creation = entry.creation ∧ service.phase.Stranded := by
  induction events using List.reverseRecOn with
  | nil => exact ⟨entry, hentry, rfl, hstranded⟩
  | append_singleton events event ih =>
    obtain ⟨service, hservice, hcreation, hstays⟩ :=
      ih fun event hevent => hevents event (by simp [hevent])
    have hcoherent := DynamicSupervisor.resume_coherent hsound events
    have hvalid := DynamicSupervisor.entry_valid hcoherent.sound event
    have hharmless := hevents event (by simp)
    rw [DynamicSupervisor.resume_snoc]
    rcases hvalid.entry_after hservice with
      ⟨after, hafter, hmoves⟩ | ⟨-, heap, outcome, hstep, hnone, -⟩
    · exact ⟨after, hafter, hmoves.kept_identity.1.trans hcreation,
        hmoves.stranded hharmless hstays⟩
    · obtain ⟨after, hafter, -⟩ := hstep.stranded hharmless hstays
      exact absurd (hnone.symm.trans hafter) (by simp)

/-- Every outstanding settlement of the entry, as an acceptance. -/
def DynamicEntry.acceptances (entry : DynamicEntry S Message) (proxy : S.Actor) :
    List (DynamicSupervisorEvent Key S Message) :=
  entry.phase.outstanding.map fun token =>
    .proxyInputSettled (.attempted (.accepted ⟨entry.creation, proxy, token⟩))

/-- **A stop does not retire an entry that does not end**: it is still there when everything that
was outstanding has been accepted. -/
theorem stranded_not_retired (hsound : Sound self) {proxy}
    (hentry : self.services.get? key = some entry) (hproxy : entry.phase.proxy = some proxy)
    (hends : entry.phase.ends = false) (stop : ChildStopped S) :
    ¬ RetiredBy self key entry stop := by
  intro hretired
  have hdelivered : Delivered entry (entry.acceptances proxy :
      List (DynamicSupervisorEvent Key S Message)) := by
    intro token htoken
    exact ⟨_, ⟨rfl, rfl⟩, List.mem_map.mpr ⟨token, htoken, rfl⟩⟩
  have hharmless : ∀ event ∈ (.proxyStopped stop :: entry.acceptances proxy :
      List (DynamicSupervisorEvent Key S Message)), Harmless event := by
    intro event hevent
    rcases List.mem_cons.mp hevent with rfl | hevent
    · exact .inl ⟨stop, rfl⟩
    · obtain ⟨token, -, rfl⟩ := List.mem_map.mp hevent
      exact .inr ⟨_, rfl⟩
  obtain ⟨habsent, -⟩ := hretired.removed _ hdelivered
  obtain ⟨service, hservice, hcreation, -⟩ :=
    resume_stranded hsound hentry ⟨by simp [hproxy], hends⟩ hharmless
  exact habsent key service hservice hcreation

/-- **The stop of its proxy retires an entry exactly when the entry is stopping, or is retiring
with nothing given away that is still unresolved**: in every reachable state, for every entry with
an established proxy. -/
theorem proxy_stop_retires (config : Config)
    (events : List (DynamicSupervisorEvent Key S Message)) {key : Key}
    {entry : DynamicEntry S Message} {proxy : S.Actor} {stop : ChildStopped S}
    (hentry : (run config events).supervisor.services.get? key = some entry)
    (hproxy : entry.phase.proxy = some proxy) (hstop : stop.child = entry.creation) :
    RetiredBy (run config events).supervisor key entry stop ↔ entry.phase.ends = true := by
  have hsound := (run_coherent config events).sound
  constructor
  · intro hretired
    by_contra hends
    exact stranded_not_retired hsound hentry hproxy (Bool.eq_false_iff.mpr hends) stop hretired
  · intro hends
    constructor
    · intro other hother
      rw [transition_stopped]
      have hfound := hsound.takeProxyEntry hentry
      rw [← hstop] at hfound
      exact acceptProxyStop_others hfound hother
    · intro events hdelivered
      rcases (resume_stopped hsound hentry hends hstop events).2 with
        hremoved | ⟨witness, service, howed, -, -, -, -, hnot⟩
      · exact hremoved
      · obtain ⟨input, hsettles, hinput⟩ := hdelivered witness (by rw [howed]; simp)
        exact absurd hsettles (hnot input hinput)

/-- The service is stopped, and its proxy stops before the shutdown is settled. -/
theorem proxy_stop_retires_stopping :
    RetiredBy (run single (started ++ [.command (.stop 3 (9 : ℕ))])).supervisor 3
      ⟨1, 2, 1, .stopping (7 : ℕ) (some (.ready ⟨1, 0⟩ ())) (.awaitingSettlement 1) none⟩
      ⟨1, .ok .normal, 0⟩ :=
  (proxy_stop_retires single (started ++ [.command (.stop 3 (9 : ℕ))]) rfl rfl rfl).mpr rfl

/-- The proxy of a service that is ready stops: nothing is outstanding, and the service stays in
the table. -/
theorem ready_outlives_proxy :
    (run single started).supervisor.services.get? 3
        = some ⟨1, 1, 1, .available (7 : ℕ) (.ready ⟨1, 0⟩ ()) .committed⟩ ∧
      ¬ RetiredBy (run single started).supervisor 3
        ⟨1, 1, 1, .available (7 : ℕ) (.ready ⟨1, 0⟩ ()) .committed⟩ ⟨1, .ok .normal, 0⟩ :=
  ⟨rfl, stranded_not_retired (run_coherent single started).sound rfl rfl rfl _⟩

end Bombay.Directory
