/-
# Facts that are heard once

The settlement of a proxy creation, the settlement of a proxy input and the stop of a
proxy (`directory/mod.rs`) change the table once: an entry that has its proxy waits for
no creation, an operation that is settled is outstanding no more, and a stop that was
observed is kept.  The operations carry tokens from an allocator that never goes back.
-/

import Bombay.Directory.Identity
import Bombay.Directory.Drain

namespace Bombay.Directory

open Proxy (ProxyOutcome)
open DynamicSupervisor

variable {Key : Type} [LinearOrder Key] {S : Signature} {Message : Type}

/-! ### Tokens -/

/-- **The operations of every entry are distinct**, and come from the allocator. -/
structure Tokens (supervisor : DynamicSupervisor Key S Message) : Prop where
  distinct : ∀ key entry, supervisor.services.get? key = some entry →
    entry.phase.outstanding.Nodup
  spent : ∀ key entry, supervisor.services.get? key = some entry →
    ∀ token ∈ entry.phase.outstanding, token < supervisor.heap

/-- The operations of an entry that goes on: those it had, and perhaps the next one. -/
structure Grants (heap issued : ℕ) (entry after : DynamicEntry S Message) : Prop where
  tokens : ∀ token ∈ after.phase.outstanding,
    token ∈ entry.phase.outstanding ∨ token = heap ∧ issued = 1
  distinct : entry.phase.outstanding.Nodup → heap ∉ entry.phase.outstanding →
    after.phase.outstanding.Nodup

variable {heap : ℕ} {entry after : DynamicEntry S Message}
    {event : DynamicSupervisorEvent Key S Message} {self : DynamicSupervisor Key S Message}
    {acted : Acted Key S Message}

theorem Grants.nothing {issued} (h : after.phase.outstanding.Sublist entry.phase.outstanding) :
    Grants heap issued entry after :=
  ⟨fun _ htoken => .inl (h.subset htoken), fun hnodup _ => hnodup.sublist h⟩

theorem Grants.next {rest} (h : after.phase.outstanding = heap :: rest)
    (hrest : rest.Sublist entry.phase.outstanding) :
    Grants heap 1 entry after := by
  constructor
  · intro token htoken
    rw [h] at htoken
    rcases List.mem_cons.mp htoken with rfl | htoken
    · exact .inr ⟨rfl, rfl⟩
    · exact .inl (hrest.subset htoken)
  · intro hnodup hfresh
    rw [h]
    exact List.nodup_cons.mpr ⟨fun hmem => hfresh (hrest.subset hmem), hnodup.sublist hrest⟩

omit [LinearOrder Key] in
/-- **A step grants one operation at most.** -/
theorem Steps.grants {key outcome} (h : Steps key heap event entry outcome)
    (hafter : outcome.after = some after) :
    Grants heap outcome.operations.length entry after := by
  cases h with
  | retired h =>
    cases hafter
    refine .next rfl ?_
    cases h <;> first
      | exact List.Sublist.refl _
      | exact List.nil_sublist _
  | stopping h =>
    cases hafter
    exact .next rfl (List.nil_sublist _)
  | uncreated hcreation hresolve h => cases hafter
  | shifted h =>
    cases hafter
    refine .nothing ?_
    cases h <;> first
      | exact List.nil_sublist _
      | exact List.Sublist.refl _
  | ended h => cases hafter
  | @continued _ generation operation creation before retirement _ _ h =>
    have hgrants : Grants heap 0 (⟨generation, operation, creation, .retiring before⟩ :
        DynamicEntry S Message) ⟨generation, operation, creation, .retiring retirement⟩ := by
      refine .nothing ?_
      cases h with
      | accepted | refused => exact (List.nil_sublist _).append (List.Sublist.refl _)
      | inputAccepted | inputRefused => exact (List.Sublist.refl _).append (List.nil_sublist _)
      | stopped | reported => exact List.Sublist.refl _
    unfold settled at hafter ⊢
    split at hafter
    · cases hafter
    · cases hafter
      exact hgrants

theorem Authorized.grants {operation} (h : Authorized heap entry after operation) :
    entry.phase.outstanding = [] ∧ after.phase.outstanding = [heap] := by
  cases h <;> exact ⟨rfl, rfl⟩

/-- After an authorization every entry was there, and may have been granted the next operation. -/
theorem Authorizes.grants {self' waiting} (h : Authorizes self (self', waiting)) {key}
    (hafter : self'.services.get? key = some after) :
    self.heap ≤ self'.heap ∧ ∃ entry, self.services.get? key = some entry ∧
      (after = entry ∨ entry.phase.outstanding = [] ∧ after.phase.outstanding = [self.heap] ∧
        self'.heap = self.heap + 1) := by
  rcases h with h | h
  · cases h
    exact ⟨le_rfl, after, hafter, .inl rfl⟩
  · rcases authorizeWaiting_cases self with hnone | ⟨other, old, new, operation, hold, hgiven, heq⟩
    · rw [hnone] at h
      cases h
      exact ⟨le_rfl, after, hafter, .inl rfl⟩
    · rw [heq] at h
      cases h
      refine ⟨Nat.le_succ _, ?_⟩
      by_cases hkey : key = other
      · subst hkey
        have hnew : new = after := by simpa using hafter
        subst hnew
        exact ⟨old, hold, .inr ⟨hgiven.grants.1, hgiven.grants.2, rfl⟩⟩
      · exact ⟨after, by simpa [hkey] using hafter, .inl rfl⟩

omit [LinearOrder Key] in
/-- **The shutdown of the supervisor grants every entry its own operation.** -/
theorem accumulate_grants (entries : List (Key × DynamicEntry S Message))
    (sweep : Sweep Key S Message) :
    sweep.heap ≤ (OrderedMap.accumulate sweepEntry entries sweep).2.heap ∧
      ∀ key after, (key, after) ∈ (OrderedMap.accumulate sweepEntry entries sweep).1 →
        ∃ entry heap, (key, entry) ∈ entries ∧ after = entry.swept heap ∧ sweep.heap ≤ heap ∧
          heap + (if entry.phase.askable then 1 else 0)
            ≤ (OrderedMap.accumulate sweepEntry entries sweep).2.heap := by
  induction entries generalizing sweep with
  | nil => exact ⟨le_rfl, by simp [OrderedMap.accumulate]⟩
  | cons head rest ih =>
    obtain ⟨key, entry⟩ := head
    have hheap : (sweepEntry key entry sweep).2.heap
        = sweep.heap + if entry.phase.askable then 1 else 0 := by
      simp only [sweepEntry, shutdown_operation]
      split <;> rfl
    obtain ⟨hgrows, hentries⟩ := ih (sweepEntry key entry sweep).2
    simp only [OrderedMap.accumulate]
    refine ⟨by omega, fun other after hmem => ?_⟩
    rcases List.mem_cons.mp hmem with hhere | hlater
    · cases hhere
      exact ⟨entry, sweep.heap, List.mem_cons_self, rfl, le_rfl, by omega⟩
    · obtain ⟨old, heap, hold, hafter, hle, hbound⟩ := hentries other after hlater
      exact ⟨old, heap, List.mem_cons_of_mem _ hold, hafter, by omega, hbound⟩

theorem DynamicEntry.swept_grants (entry : DynamicEntry S Message) (heap : ℕ) :
    Grants heap (if entry.phase.askable then 1 else 0) entry (entry.swept heap) := by
  obtain ⟨generation, operation, creation, phase⟩ := entry
  cases phase <;> first
    | exact .nothing (List.Sublist.refl _)
    | exact .next rfl (List.Sublist.refl _)

/-- **The operations of a turn**: the entries that go on keep theirs, or are granted new ones. -/
theorem Turn.grants (h : Turn self event acted) :
    self.heap ≤ acted.1.heap ∧ ∀ key after, acted.1.services.get? key = some after →
      after.phase.outstanding = [] ∨ ∃ entry, self.services.get? key = some entry ∧
        (∀ token ∈ after.phase.outstanding, token ∈ entry.phase.outstanding ∨
          self.heap ≤ token ∧ token < acted.1.heap) ∧
        (entry.phase.outstanding.Nodup → (∀ token ∈ entry.phase.outstanding, token < self.heap) →
          after.phase.outstanding.Nodup) := by
  have hsame : ∀ key after, self.services.get? key = some after →
      after.phase.outstanding = [] ∨ ∃ entry, self.services.get? key = some entry ∧
        (∀ token ∈ after.phase.outstanding, token ∈ entry.phase.outstanding ∨
          self.heap ≤ token ∧ token < self.heap) ∧
        (entry.phase.outstanding.Nodup → (∀ token ∈ entry.phase.outstanding, token < self.heap) →
          after.phase.outstanding.Nodup) :=
    fun key after hafter => .inr ⟨after, hafter, fun _ htoken => .inl htoken, fun hnodup _ => hnodup⟩
  cases h with
  | refused hfact | kept hkeeps | timed havailability hdeadline => exact ⟨le_rfl, hsame⟩
  | @begun fresh submission _ generation operation creation =>
    refine ⟨le_rfl, fun key after hafter => ?_⟩
    by_cases hkey : key = fresh
    · simp only [put_get?, hkey, if_true, Option.some.injEq] at hafter
      rw [← hafter]
      exact .inl rfl
    · exact hsame key after (by simpa [hkey] using hafter)
  | @moved _ moved entry outcome operations self' _ _ hentry _ hstep _ _ hauthorizes =>
    have hmoved : (self.moved moved outcome operations).heap
        = self.heap + outcome.operations.length := by rw [moved_frame]
    have hgrows : (self.moved moved outcome operations).heap ≤ self'.heap := by
      rcases hauthorizes with h | h
      · cases h
        exact le_rfl
      · rcases authorizeWaiting_cases (self.moved moved outcome operations) with
          hnone | ⟨_, _, _, _, _, _, heq⟩
        · rw [hnone] at h
          cases h
          exact le_rfl
        · rw [heq] at h
          cases h
          exact Nat.le_succ _
    refine ⟨by dsimp only; omega, fun key after hafter => ?_⟩
    obtain ⟨-, middle, hmiddle, hgiven⟩ := hauthorizes.grants hafter
    have hbefore : ∃ entry, self.services.get? key = some entry ∧
        Grants self.heap outcome.operations.length entry middle := by
      rw [moved_get?] at hmiddle
      split at hmiddle
      · rename_i heq
        subst heq
        exact ⟨entry, hentry, hstep.grants hmiddle⟩
      · exact ⟨middle, hmiddle, .nothing (List.Sublist.refl _)⟩
    obtain ⟨old, hold, hgrants⟩ := hbefore
    rcases hgiven with rfl | ⟨-, hone, hheap⟩
    · refine .inr ⟨old, hold, fun token htoken => ?_, fun hnodup hless =>
        hgrants.distinct hnodup fun hmem => lt_irrefl _ (hless _ hmem)⟩
      rcases hgrants.tokens token htoken with htoken | ⟨rfl, hissued⟩
      · exact .inl htoken
      · exact .inr ⟨le_rfl, by dsimp only; omega⟩
    · refine .inr ⟨old, hold, fun token htoken => ?_, fun _ _ => by rw [hone]; simp⟩
      rw [hone, List.mem_singleton] at htoken
      exact .inr ⟨by omega, by dsimp only; omega⟩
  | swept haccepting =>
    obtain ⟨hgrows, hentries⟩ := accumulate_grants self.services.entries ⟨[], [], self.heap⟩
    have hswept : (beginShutdown self).1.heap
        = (OrderedMap.accumulate sweepEntry self.services.entries ⟨[], [], self.heap⟩).2.heap ∧
        (beginShutdown self).1.services
          = (self.services.mapAccum sweepEntry ⟨[], [], self.heap⟩).1 := by
      rw [beginShutdown, haccepting]
      exact ⟨rfl, rfl⟩
    refine ⟨by rw [hswept.1]; exact hgrows, fun key after hafter => ?_⟩
    rw [hswept.2] at hafter
    obtain ⟨entry, heap, hmem, rfl, hle, hbound⟩ :=
      hentries key after (OrderedMap.mem_entries.mpr hafter)
    dsimp only at hle
    have hgrants := entry.swept_grants heap
    refine .inr ⟨entry, OrderedMap.mem_entries.mp hmem, fun token htoken => ?_,
      fun hnodup hless => hgrants.distinct hnodup fun hmem => ?_⟩
    · rcases hgrants.tokens token htoken with htoken | ⟨rfl, hissued⟩
      · exact .inl htoken
      · exact .inr ⟨hle, by rw [hswept.1]; omega⟩
    · exact absurd (hless _ hmem) (by omega)

theorem tokens_new (config : Config) : Tokens (.new config : DynamicSupervisor Key S Message) where
  distinct key entry hentry := by
    rw [new_get?] at hentry
    cases hentry
  spent key entry hentry := by
    rw [new_get?] at hentry
    cases hentry

theorem Turn.tokens (h : Turn self event acted) (htokens : Tokens self) : Tokens acted.1 := by
  obtain ⟨hgrows, hentries⟩ := h.grants
  constructor
  · intro key after hafter
    rcases hentries key after hafter with hnone | ⟨entry, hentry, -, hdistinct⟩
    · rw [hnone]
      exact List.nodup_nil
    · exact hdistinct (htokens.distinct key entry hentry) (htokens.spent key entry hentry)
  · intro key after hafter token htoken
    rcases hentries key after hafter with hnone | ⟨entry, hentry, hold, -⟩
    · rw [hnone] at htoken
      cases htoken
    · rcases hold token htoken with htoken | ⟨-, hless⟩
      · exact (htokens.spent key entry hentry token htoken).trans_le hgrows
      · exact hless

/-! ### What an entry can still hear -/

/-- The stop of the proxy was observed. -/
def DynamicEntryPhase.observed : DynamicEntryPhase S Message → Bool
  | .stopping _ _ _ stopped => stopped.isSome
  | .retiring retirement => retirement.stopped.isSome
  | _ => false

/-- The entry has not heard the settlement or the stop yet. -/
def DynamicEntry.Hears (entry : DynamicEntry S Message) :
    DynamicSupervisorEvent Key S Message → Prop
  | .proxyCreationsSettled _ => entry.phase.proxy = none
  | .proxyInputSettled input => proxyInputOperation input ∈ entry.phase.outstanding
  | .proxyStopped _ => entry.phase.observed = false
  | _ => False

/-- Some entry can still hear the settlement or the stop, or may be to come. -/
def DynamicSupervisor.Hears (self : DynamicSupervisor Key S Message)
    (event : DynamicSupervisorEvent Key S Message) : Prop :=
  (∃ key entry, self.services.get? key = some entry ∧ event.about = some entry.creation ∧
      entry.Hears event) ∨
    (∃ creation, event.about = some creation ∧ ¬ self.creations.Past creation) ∨
    ∃ input, event = .proxyInputSettled input ∧ self.heap ≤ proxyInputOperation input

/-- The event is a settlement or a stop, which carries its own identity. -/
def DynamicSupervisorEvent.settles : DynamicSupervisorEvent Key S Message → Bool
  | .proxyCreationsSettled (.settled [_]) => true
  | .proxyInputSettled _ => true
  | .proxyStopped _ => true
  | _ => false

omit [LinearOrder Key] in
/-- What an entry waits for it has not heard. -/
theorem DynamicEntry.Expects.hears (hsettles : event.settles = true)
    (h : entry.Expects event) : entry.Hears event := by
  cases event with
  | proxyCreationsSettled proxies =>
    obtain ⟨settlement, -, -, hproxy⟩ := h
    exact hproxy
  | proxyInputSettled input => exact h.2
  | proxyStopped stopped =>
    obtain ⟨generation, operation, creation, phase⟩ := entry
    have hstops := h.2
    dsimp only at hstops
    cases phase with
    | stopping proxy restorable shutdown seen =>
      cases seen with
      | none => rfl
      | some stop => cases shutdown <;> cases hstops
    | retiring retirement =>
      obtain ⟨proxy, shutdown, work, seen⟩ := retirement
      cases seen with
      | none => rfl
      | some stop => cases hstops
    | _ => cases hstops
  | _ => cases hsettles

omit [LinearOrder Key] in
/-- **An entry that goes on hears nothing it had heard**, but the settlement of a new operation. -/
theorem Evolves.hears {key} (h : Evolves key event entry after) :
    (after.phase.proxy = none → entry.phase.proxy = none) ∧
      (after.phase.observed = false → entry.phase.observed = false) := by
  induction h with
  | kept => exact ⟨id, id⟩
  | stepped hstep hafter =>
    cases hstep with
    | retired h | stopping h =>
      cases hafter
      refine ⟨fun hnone => (by cases hnone), fun _ => ?_⟩
      cases h <;> rfl
    | uncreated hcreation hresolve h => cases hafter
    | shifted h =>
      cases hafter
      cases h <;> first
        | exact ⟨fun _ => rfl, fun _ => rfl⟩
        | exact ⟨fun hnone => (by cases hnone), fun _ => rfl⟩
    | ended h => cases hafter
    | continued h =>
      unfold settled at hafter
      split at hafter
      · cases hafter
      · cases hafter
        refine ⟨fun hnone => (by cases hnone), ?_⟩
        cases h with
        | stopped hchild => exact fun _ => rfl
        | accepted => exact id
        | refused => exact id
        | inputAccepted => exact id
        | inputRefused => exact id
        | reported => exact id
  | authorized hbefore hauthorized ih =>
    cases hauthorized with
    | start | replacement => exact ⟨fun hnone => (by cases hnone), fun _ => ih.2 rfl⟩
  | @swept entry heap hevent =>
    obtain ⟨generation, operation, creation, phase⟩ := entry
    cases phase <;> exact ⟨id, id⟩

/-- **What can be heard after a turn could be heard before.** -/
theorem Turn.hears {other} (h : Turn self event acted) (hhears : acted.1.Hears other) :
    self.Hears other := by
  have hpast := h.creationNumbers
  rcases hhears with ⟨key, after, hafter, habout, hhears⟩ | ⟨creation, habout, hcomes⟩ |
      ⟨input, rfl, hfresh⟩
  · rcases h.entry_before hafter with ⟨entry, hentry, hevolves⟩ | ⟨-, -, hissue⟩
    · have hcreation := hevolves.kept_identity.1
      cases other with
      | proxyCreationsSettled proxies =>
        exact .inl ⟨key, entry, hentry, hcreation ▸ habout, hevolves.hears.1 hhears⟩
      | proxyStopped stopped =>
        exact .inl ⟨key, entry, hentry, hcreation ▸ habout, hevolves.hears.2 hhears⟩
      | proxyInputSettled input =>
        rcases h.grants.2 key after hafter with hnone | ⟨old, hold, htokens, -⟩
        · rw [DynamicEntry.Hears, hnone] at hhears
          cases hhears
        · obtain rfl := Option.some.inj (hentry.symm.trans hold)
          rcases htokens _ hhears with htoken | ⟨hfresh, -⟩
          · exact .inl ⟨key, entry, hentry, hcreation ▸ habout, htoken⟩
          · exact .inr (.inr ⟨input, rfl, hfresh⟩)
      | _ => cases hhears
    · exact .inr (.inl ⟨after.creation, habout, fun hpast => lt_irrefl _ (hpast.ne_issue hissue)⟩)
  · exact .inr (.inl ⟨creation, habout, fun hold => hcomes (hpast.past hold)⟩)
  · exact .inr (.inr ⟨input, rfl, h.grants.1.trans hfresh⟩)

omit [LinearOrder Key] in
/-- **An entry that a settlement or a stop has moved does not hear it again.** -/
theorem Steps.heard {key outcome} (h : Steps key heap event entry outcome)
    (hsettles : event.settles = true) (hafter : outcome.after = some after)
    (hdistinct : entry.phase.outstanding.Nodup)
    (hspent : ∀ token ∈ entry.phase.outstanding, token < heap) : ¬ after.Hears event := by
  cases h with
  | retired h =>
    cases hafter
    cases h with
    | createdShut | createdCancelled => exact fun hnone => by cases hnone
    | startRefused hcreation hwitness =>
      intro hhears
      have hless := hspent _ (List.mem_singleton_self _)
      rw [DynamicEntry.Hears, hwitness, List.mem_singleton.mp hhears] at *
      omega
    | startFailed => cases hsettles
    | workerStopped => cases hsettles
    | _ => cases hsettles
  | stopping h =>
    cases hafter
    cases h with
    | createdDraining | createdStopping => exact fun hnone => by cases hnone
    | _ => cases hsettles
  | uncreated hcreation hresolve h => cases hafter
  | shifted h =>
    cases hafter
    cases h with
    | created => exact fun hnone => by cases hnone
    | startAccepted | replacementAccepted | replacementRefused | stopAccepted | restored
    | stopRefused => exact fun hmem => by cases hmem
    | stopObserved => exact fun hseen => by cases hseen
    | _ => cases hsettles
  | ended h => cases hafter
  | @continued _ generation operation creation before retirement _ _ h =>
    unfold settled at hafter
    split at hafter
    · cases hafter
    · cases hafter
      cases h with
      | stopped => exact fun hseen => by cases hseen
      | reported => cases hsettles
      | accepted hcreation hwitness | refused hcreation hwitness =>
        obtain ⟨hnot, -⟩ := List.nodup_cons.mp hdistinct
        exact fun hmem => hnot (hwitness ▸ hmem)
      | inputAccepted hcreation hwitness | inputRefused hcreation hwitness =>
        intro hmem
        refine List.disjoint_of_nodup_append hdistinct ?_ (List.mem_singleton_self _)
        exact hwitness ▸ (List.mem_append.mp hmem).resolve_right (by simp [RetiringWork.outstanding])

/-- An authorization lets nothing be heard again. -/
theorem Authorizes.hears {self' waiting} (h : Authorizes self (self', waiting))
    (hhears : self'.Hears event) :
    self.Hears event := by
  have hcreations : self'.creations = self.creations := by rw [h.frame]
  have hheap : self.heap ≤ self'.heap := by
    rcases h with h | h
    · cases h
      exact le_rfl
    · rcases authorizeWaiting_cases self with hnone | ⟨_, _, _, _, _, _, heq⟩
      · rw [hnone] at h
        cases h
        exact le_rfl
      · rw [heq] at h
        cases h
        exact Nat.le_succ _
  rcases hhears with ⟨key, after, hafter, habout, hhears⟩ | ⟨creation, habout, hcomes⟩ |
      ⟨input, rfl, hfresh⟩
  · obtain ⟨-, other, hother, hgranted⟩ := h.grants hafter
    obtain ⟨entry, hentry, rfl | ⟨heap, operation, hgiven⟩⟩ := h.before hafter
    · exact .inl ⟨key, after, hentry, habout, hhears⟩
    · obtain rfl := Option.some.inj (hentry.symm.trans hother)
      cases event with
      | proxyCreationsSettled proxies => cases hgiven <;> cases hhears
      | proxyStopped stopped => cases hgiven <;> exact .inl ⟨key, _, hentry, habout, rfl⟩
      | proxyInputSettled input =>
        rcases hgranted with rfl | ⟨-, hone, -⟩
        · exact .inl ⟨key, after, hentry, habout, hhears⟩
        · rw [DynamicEntry.Hears, hone, List.mem_singleton] at hhears
          exact .inr (.inr ⟨input, rfl, hhears.ge⟩)
      | _ => cases hhears
  · exact .inr (.inl ⟨creation, habout, hcreations ▸ hcomes⟩)
  · exact .inr (.inr ⟨input, rfl, hheap.trans hfresh⟩)

/-- **A settlement or a stop that changes something is not heard again.** -/
theorem Turn.heard
    (h : Turn self event acted) (hsettles : event.settles = true) (hchanges : acted.1 ≠ self)
    (htokens : Tokens self)
    (hcreations : Numbered self.services DynamicEntry.creation self.creations) :
    ¬ acted.1.Hears event := by
  cases h with
  | refused hfact | kept hkeeps => exact absurd rfl hchanges
  | timed havailability hdeadline =>
    rcases hdeadline with ⟨input, rfl, -⟩ | ⟨elapsed, rfl, -⟩ <;> cases hsettles
  | begun => cases hsettles
  | @moved _ moved entry outcome operations self' _ _ hentry _ hstep _ _ hauthorizes =>
    intro hhears
    have hfact : event.fact = true := by
      cases event <;> first | rfl | cases hsettles
    have hexpects := hstep.expects hfact
    have habout := hexpects.about
    rcases hauthorizes.hears hhears with ⟨key, after, hafter, hafterAbout, hagain⟩ |
        ⟨creation, hcreation, hcomes⟩ | ⟨input, rfl, hfresh⟩
    · rw [moved_get?] at hafter
      split at hafter
      · exact hstep.heard hsettles hafter (htokens.distinct moved entry hentry)
          (htokens.spent moved entry hentry) hagain
      · rename_i hkey
        exact hkey (hcreations.distinct key moved after entry hafter hentry
          (Option.some.inj (hafterAbout.symm.trans habout)))
    · have hsame : creation = entry.creation := Option.some.inj (hcreation.symm.trans habout)
      rw [moved_frame] at hcomes
      exact hcomes (hsame ▸ hcreations.past moved entry hentry)
    · have hless := htokens.spent moved entry hentry _ hexpects.2
      rw [moved_frame] at hfresh
      dsimp only at hfresh
      omega
  | swept haccepting => cases hsettles

/-! ### Runs -/

/-- **What tells the entries of a reachable supervisor apart.** -/
structure Distinct (config : Config) (supervisor : DynamicSupervisor Key S Message) : Prop where
  limit : supervisor.entries = config.entries
  capacity : supervisor.services.length ≤ config.entries.maximum
  identified : Identified supervisor
  operations : Numbered supervisor.services DynamicEntry.operation supervisor.operations
  tokens : Tokens supervisor

theorem distinct_new (config : Config) :
    Distinct config (.new config : DynamicSupervisor Key S Message) :=
  ⟨rfl, Nat.zero_le _, identified_new config, numbered_new config _ _, tokens_new config⟩

theorem Turn.distinct {config} (h : Turn self event acted) (hself : Distinct config self) :
    Distinct config acted.1 := by
  obtain ⟨hlimit, hcapacity⟩ := h.capacity (hself.limit ▸ hself.capacity)
  exact ⟨hlimit.trans hself.limit, hself.limit ▸ hcapacity, h.identified hself.identified,
    h.numbers.numbered hself.operations, h.tokens hself.tokens⟩

theorem Journal.Coherent.distinct {config} {journal : Journal Key S Message}
    (h : journal.Coherent (.new config)) {entry : Entry Key S Message}
    (hentry : entry ∈ journal.entries) :
    Distinct config entry.before ∧ Distinct config entry.after := by
  have hkeeps : ∀ other ∈ journal.entries, Distinct config other.before →
      Distinct config other.after := by
    intro other hother hbefore
    obtain ⟨acted, hturn, hafter, -⟩ := (h.valid other hother).turn
    rw [← hafter]
    exact hturn.distinct hbefore
  obtain ⟨before, after, hsplit⟩ := List.append_of_mem hentry
  have hbefore : Distinct config entry.before :=
    (h.prior hsplit).trail.invariant (distinct_new config) fun other hother =>
      hkeeps other (by simp [hsplit, hother])
  exact ⟨hbefore, hkeeps entry hentry hbefore⟩

/-- The numbers that a run issues, one after the other. -/
def Journal.issues (journal : Journal Key S Message)
    (sequence : DynamicSupervisor Key S Message → Sequence) : List ℕ :=
  journal.entries.flatMap fun entry => (sequence entry.before).issued (sequence entry.after)

/-- Every number after a turn was there before, under its key, or is the one that the turn issued. -/
def Entry.Numbers (entry : Entry Key S Message) (number : DynamicEntry S Message → ℕ)
    (sequence : DynamicSupervisor Key S Message → Sequence) : Prop :=
  ∀ key service, entry.after.services.get? key = some service →
    (∃ old, entry.before.services.get? key = some old ∧ number service = number old) ∨
      (sequence entry.before).issued (sequence entry.after) = [number service]

/-- The receipt names the operation that the turn issued, which its service carries. -/
structure WorkerChangeReceipt.Names (receipt : WorkerChangeReceipt Key)
    (before after : DynamicSupervisor Key S Message) : Prop where
  key : receipt.cancel.key = receipt.key
  issued : before.operations.issued after.operations = [receipt.cancel.operation]
  carried : ∃ service, after.services.get? receipt.key = some service ∧
    service.operation = receipt.cancel.operation

/-- **Identities are fresh, and commands and facts are taken whole or not at all.** -/
structure Journal.Fresh (config : Config) (journal : Journal Key S Message) : Prop where
  capacity : ∀ entry ∈ journal.entries, entry.after.services.length ≤ config.entries.maximum
  generations : (journal.issues (·.generations)).Nodup
  operations : (journal.issues (·.operations)).Nodup
  creations : (journal.issues (·.creations)).Nodup
  numbered : ∀ entry ∈ journal.entries, entry.Numbers (·.generation) (·.generations) ∧
    entry.Numbers (·.operation) (·.operations) ∧ entry.Numbers (·.creation) (·.creations)
  emitted : ∀ entry ∈ journal.entries, entry.actions.creations.map (·.id)
    = entry.before.creations.issued entry.after.creations
  receipts : ∀ entry ∈ journal.entries, ∀ replyTo receipt,
    (replyTo, .ok receipt) ∈ entry.actions.startReplies ∨
      (replyTo, .ok receipt) ∈ entry.actions.replaceReplies →
    receipt.Names entry.before entry.after
  exhaustion : ∀ entry ∈ journal.entries, entry.ReportsExhaustion
  distinct : ∀ entry ∈ journal.entries, ∀ key other service service',
    entry.after.services.get? key = some service →
    entry.after.services.get? other = some service' →
    service.creation = service'.creation → key = other
  removed : ∀ before entry after, journal.entries = before ++ entry :: after →
    ∀ key service, entry.before.services.get? key = some service →
      entry.after.services.get? key = none → ∀ later ∈ after,
        (later.event.about = some service.creation ∨ ∃ operation replyTo,
          later.event = .command (.cancel ⟨key, operation⟩ replyTo) ∧
            entry.after.operations.Past operation) → later.after = later.before
  atomic : ∀ entry ∈ journal.entries, entry.Atomic
  facts : ∀ entry ∈ journal.entries, entry.event.fact = true →
    ¬ entry.before.Expects entry.event → entry.after = entry.before ∧
      (entry.result = .error entry.event ∨ ∃ diagnostic step,
        entry.result = .ok { diagnostics := [diagnostic], step := step } ∧
          diagnostic.reports = some entry.event)
  once : ∀ before entry after, journal.entries = before ++ entry :: after →
    entry.event.settles = true → entry.after ≠ entry.before →
      ∀ later ∈ after, ¬ later.before.Expects entry.event

theorem Journal.Coherent.issues {config} {journal : Journal Key S Message}
    (h : journal.Coherent (.new config)) {number sequence}
    (hrenumbers : ∀ {self : DynamicSupervisor Key S Message} {event acted},
      Turn self event acted → Renumbers self.services acted.1.services number (sequence self)
        (sequence acted.1)) : (journal.issues sequence).Nodup := by
  refine h.trail.issued_nodup sequence fun entry hentry => ?_
  obtain ⟨acted, hturn, hafter, -⟩ := (h.valid entry hentry).turn
  rw [← hafter]
  exact (hrenumbers hturn).advances

theorem Entry.Valid.emitted {entry : Entry Key S Message} (h : entry.Valid) :
    entry.actions.creations.map (·.id)
      = entry.before.creations.issued entry.after.creations := by
  obtain ⟨acted, hturn, hafter, hresult⟩ := h.turn
  rcases hresult with ⟨input, herror, hresult⟩ | ⟨actions, hok, hresult⟩
  · rw [Entry.actions, hresult, ← hafter, (hturn.handed_back herror).1, Sequence.issued_self]
    rfl
  · have hcreations : entry.actions.creations = actions.creations := by
      rw [Entry.actions, hresult]
      dsimp only
      split <;> rfl
    rw [hcreations, ← hafter]
    generalize entry.before = self at hturn
    generalize entry.event = event at hturn
    cases hturn with
    | refused hfact => cases hok
    | kept hkeeps =>
      cases hok
      rw [hkeeps.quiet.1.creations, Sequence.issued_self]
      rfl
    | timed havailability hdeadline =>
      cases hok
      rw [Sequence.issued_self]
      rfl
    | begun haccepting habsent hfree hgeneration hoperation hcreation =>
      cases hok
      exact (Sequence.issued_of_issue hcreation).symm
    | moved hentry hcommand hstep hexit hoperation hauthorizes hactions =>
      cases hok
      rw [hactions.2.2.1, hauthorizes.frame, moved_frame, Sequence.issued_self]
      rfl
    | swept haccepting =>
      rw [beginShutdown, haccepting] at hok ⊢
      cases hok
      rw [Sequence.issued_self]
      rfl

theorem Entry.Valid.numbers {entry : Entry Key S Message} (h : entry.Valid) {number sequence}
    (hrenumbers : ∀ {self : DynamicSupervisor Key S Message} {event acted},
      Turn self event acted → Renumbers self.services acted.1.services number (sequence self)
        (sequence acted.1)) : entry.Numbers number sequence := by
  intro key service hservice
  obtain ⟨acted, hturn, hafter, -⟩ := h.turn
  rw [← hafter] at hservice ⊢
  exact ((hrenumbers hturn).before hservice).imp_right Sequence.issued_of_issue

omit [LinearOrder Key] in
theorem Answers.receipt {key now later replies replyTo receipt} {after : Option _}
    (h : Answers key now later event entry after replies)
    (hreceipt : (replyTo, .ok receipt) ∈ replies.start ∨ (replyTo, .ok receipt) ∈ replies.replace) :
    ∃ service, after = some service ∧ now.issue = some (service.operation, later) ∧
      receipt = ⟨key, ⟨key, service.operation⟩⟩ := by
  cases h with
  | replaced hissue =>
    simp only [List.not_mem_nil, List.mem_singleton, Prod.mk.injEq, Except.ok.injEq,
      false_or] at hreceipt
    exact ⟨_, rfl, hissue, hreceipt.2⟩
  | stopped | exhausted | returned | pending | fact =>
    rcases hreceipt with hreceipt | hreceipt <;> cases hreceipt

/-- **A receipt is given for the operation that its service carries.** -/
theorem Turn.receives (h : Turn self event acted) {actions replyTo receipt}
    (hok : acted.2 = .ok actions)
    (hreceipt : (replyTo, .ok receipt) ∈ actions.startReplies ∨
      (replyTo, .ok receipt) ∈ actions.replaceReplies) :
    receipt.Names self acted.1 := by
  cases h with
  | refused hfact => cases hok
  | kept hkeeps =>
    cases hok
    cases hkeeps <;> simp at hreceipt
  | timed havailability hdeadline =>
    cases hok
    simp at hreceipt
  | begun haccepting habsent hcapacity hgeneration hoperation hcreation =>
    cases hok
    simp only [List.mem_singleton, Prod.mk.injEq, Except.ok.injEq,
      List.not_mem_nil, or_false] at hreceipt
    obtain ⟨-, rfl⟩ := hreceipt
    exact ⟨rfl, Sequence.issued_of_issue hoperation, _,
      (put_get? _ _ _ _).trans (if_pos rfl), rfl⟩
  | moved hentry hcommand hstep hexit hoperation hauthorizes hactions hslots hanswers =>
    cases hok
    obtain ⟨service, hservice, hissue, rfl⟩ := hanswers.receipt hreceipt
    obtain ⟨after, hafter, hsame⟩ := hauthorizes.after
      ((moved_get? _ _ _ _ _).trans ((if_pos rfl).trans hservice))
    refine ⟨rfl, ?_, after, hafter, ?_⟩
    · rw [hauthorizes.frame, moved_frame]
      exact Sequence.issued_of_issue hissue
    · rcases hsame with rfl | ⟨heap, operation, hgiven⟩
      · rfl
      · exact hgiven.slots.2.2.2.2
  | swept haccepting =>
    rw [beginShutdown, haccepting] at hok
    cases hok
    simp at hreceipt

theorem Entry.Valid.receives {entry : Entry Key S Message} (h : entry.Valid) {replyTo receipt}
    (hreceipt : (replyTo, .ok receipt) ∈ entry.actions.startReplies ∨
      (replyTo, .ok receipt) ∈ entry.actions.replaceReplies) :
    receipt.Names entry.before entry.after := by
  obtain ⟨acted, hturn, hafter, ⟨hnothing, -⟩ | ⟨actions, hok, -, hanswers⟩⟩ := h.taken
  · rw [hnothing] at hreceipt
    rcases hreceipt with hreceipt | hreceipt <;> cases hreceipt
  · have hstart : entry.actions.startReplies = actions.startReplies :=
      congrArg Replies.start hanswers
    have hreplace : entry.actions.replaceReplies = actions.replaceReplies :=
      congrArg Replies.replace hanswers
    rw [hstart, hreplace] at hreceipt
    rw [← hafter]
    exact hturn.receives hok hreceipt

/-- **Fresh exactly as long as nothing is forgotten.**  Every run keeps the table within its
capacity, issues no number twice, gives every entry its own and names the operation in the
receipt, and says so when a number has run out.  What is said of an entry that
was removed changes nothing, a fact that nobody waits for is handed back or handed on in one
diagnostic, and a settlement or a stop is heard once.  A command that is declined changes nothing
if and only if no stop makes the supervisor forget that the last change of an entry was
cancelled. -/
theorem identity_fresh (config : Config) (events : List (DynamicSupervisorEvent Key S Message)) :
    (run config events).Fresh config ↔ ∀ entry ∈ (run config events).entries, ¬ entry.Forgets := by
  have hcoherent := run_coherent config events
  generalize run config events = journal at hcoherent
  refine ⟨fun hfresh entry hentry => (hcoherent.valid entry hentry).atomic.mp
    (hfresh.atomic entry hentry), fun hnot => ?_⟩
  constructor
  · exact fun entry hentry => (hcoherent.distinct hentry).2.capacity
  · exact hcoherent.issues Turn.generations
  · exact hcoherent.issues Turn.numbers
  · exact hcoherent.issues Turn.creationNumbers
  · exact fun entry hentry => ⟨(hcoherent.valid entry hentry).numbers Turn.generations,
      (hcoherent.valid entry hentry).numbers Turn.numbers,
      (hcoherent.valid entry hentry).numbers Turn.creationNumbers⟩
  · exact fun entry hentry => (hcoherent.valid entry hentry).emitted
  · exact fun entry hentry replyTo receipt => (hcoherent.valid entry hentry).receives
  · exact fun entry hentry => (hcoherent.valid entry hentry).exhaustion
  · exact fun entry hentry => (hcoherent.distinct hentry).2.identified.creations.distinct
  · intro before entry after hsplit key service hservice hgone later hlater hold
    have hentry : entry ∈ journal.entries := by simp [hsplit]
    have hthere : later ∈ journal.entries := by simp [hsplit, hlater]
    obtain ⟨acted, hturn, hafter, -⟩ := (hcoherent.valid later hthere).turn
    rw [← hafter]
    rcases hold with habout | ⟨operation, replyTo, hevent, hpast⟩
    · refine hturn.foreign habout fun other service' hservice' hsame => ?_
      have hspent : ¬ Numbered.May entry.after.services DynamicEntry.creation
          entry.after.creations service.creation := by
        obtain ⟨acted, hturn, hafter, -⟩ := (hcoherent.valid entry hentry).turn
        rw [← hafter] at hgone ⊢
        exact hturn.creationNumbers.spent (hcoherent.distinct hentry).1.identified.creations
          hservice hgone
      refine hcoherent.trail.lost (fun self : DynamicSupervisor Key S Message =>
        Numbered.May self.services DynamicEntry.creation self.creations) ?_ hsplit hspent later
          hlater (.inl ⟨other, service', hservice', hsame⟩)
      intro other hother hmay
      obtain ⟨acted, hturn, hafter, -⟩ := (hcoherent.valid other hother).turn
      rw [← hafter] at hmay
      exact hturn.creationNumbers.may hmay
    · rw [hevent] at hturn
      refine hturn.stale fun service' hservice' hsame => ?_
      refine (hcoherent.trail.afterwards (P := fun self : DynamicSupervisor Key S Message =>
        (∀ service, self.services.get? key = some service →
          ¬ entry.after.operations.Past service.operation) ∧
        ∀ value, entry.after.operations.Past value → self.operations.Past value) ?_ hsplit
          ⟨fun service hservice => ?_, fun _ h => h⟩ later hlater).1 service' hservice'
            (hsame ▸ hpast)
      · rintro other hother ⟨hyounger, hpasts⟩
        obtain ⟨acted, hturn, hafter, -⟩ := (hcoherent.valid other hother).turn
        rw [← hafter]
        refine ⟨fun service hservice hold => ?_,
          fun value hold => hturn.numbers.past (hpasts value hold)⟩
        rcases hturn.numbers.before hservice with ⟨old, hthere, hnumber⟩ | hissue
        · exact hyounger old hthere (hnumber ▸ hold)
        · exact lt_irrefl _ ((hpasts _ hold).ne_issue hissue)
      · rw [hgone] at hservice
        cases hservice
  · exact fun entry hentry => (hcoherent.valid entry hentry).atomic.mpr (hnot entry hentry)
  · intro entry hentry hfact hunexpected
    obtain ⟨acted, hturn, hafter, hresult⟩ := (hcoherent.valid entry hentry).turn
    obtain ⟨hsame, hback⟩ := hturn.unexpected hfact hunexpected
    refine ⟨hafter ▸ hsame, ?_⟩
    rcases hresult with ⟨input, herror, hresult⟩ | ⟨actions, hok, hresult⟩
    · left
      rw [hresult]
      rcases hback with hback | ⟨diagnostic, hback, -⟩
      · rw [herror] at hback
        exact hback
      · rw [herror] at hback
        cases hback
    · right
      rcases hback with hback | ⟨diagnostic, hback, hreports⟩
      · rw [hok] at hback
        cases hback
      · rw [hok] at hback
        cases hback
        rw [hresult]
        split
        · exact ⟨diagnostic, .stop, rfl, hreports⟩
        · exact ⟨diagnostic, .continue', rfl, hreports⟩
  · intro before entry after hsplit hsettles hchanged later hlater hexpects
    have hentry : entry ∈ journal.entries := by simp [hsplit]
    have hheard : ¬ entry.after.Hears entry.event := by
      obtain ⟨acted, hturn, hafter, -⟩ := (hcoherent.valid entry hentry).turn
      have hdistinct := (hcoherent.distinct hentry).1
      rw [← hafter] at hchanged ⊢
      exact hturn.heard hsettles hchanged hdistinct.tokens hdistinct.identified.creations
    refine hcoherent.trail.lost (fun (self : DynamicSupervisor Key S Message) event =>
      self.Hears event) ?_ hsplit hheard later hlater ?_
    · intro other hother hhears
      obtain ⟨acted, hturn, hafter, -⟩ := (hcoherent.valid other hother).turn
      rw [← hafter] at hhears
      exact hturn.hears hhears
    · rcases hexpects with ⟨key, service, hservice, hexpects⟩ | ⟨_, _, _, ⟨_, heq, _⟩ | ⟨_, heq, _⟩⟩
      · exact .inl ⟨key, service, hservice, hexpects.about, hexpects.hears hsettles⟩
      · rw [heq] at hsettles
        cases hsettles
      · rw [heq] at hsettles
        cases hsettles

/-! ### A stop that forgets -/

/-- Two services, one of them starting at a time. -/
def twins : Config := ⟨⟨2, Nat.two_pos⟩, ⟨1, Nat.one_pos⟩, .keepEmpty, .waitForActorGraph⟩

/-- A service is ready, and another one holds the startup slot. -/
def blocked : List (DynamicSupervisorEvent ℕ numbers Unit) :=
  started ++ [.command (.start 5 ⟨(), ()⟩ (9 : ℕ)),
    .proxyCreationsSettled (.settled [.attempted (.accepted (.established 2 .birth (8 : ℕ)))])]

/-- A replacement of the ready service that waits for the slot, and is cancelled. -/
def withdrawal (operation : ℕ) : List (DynamicSupervisorEvent ℕ numbers Unit) :=
  [.command (.replace 3 ⟨(), ()⟩ (9 : ℕ)), .command (.cancel ⟨3, operation⟩ (9 : ℕ))]

/-- The supervisor with the operation at the ready service, whose next operation follows. -/
def blockedAt (operation : ℕ) (phase : DynamicEntryPhase numbers Unit) :
    DynamicSupervisor ℕ numbers Unit where
  services := ((OrderedMap.empty.insert 3 ⟨1, operation, 1, phase⟩).insert 5
    ⟨2, 2, 2, .waitingForProxyInput (8 : ℕ) 1⟩)
  entries := twins.entries
  startup := twins.startup
  generations := ⟨some 3⟩
  operations := ⟨Sequence.successor operation⟩
  creations := ⟨some 3⟩
  unexpectedExit := .keepEmpty
  availability := .accepting .waitForActorGraph
  heap := 2

/-- The ready service, after its replacement was cancelled. -/
def withdrawn : DynamicEntryPhase numbers Unit :=
  .available (7 : ℕ) (.ready ⟨1, 0⟩ ()) .cancelled

/-- One more replacement is cancelled. -/
theorem withdrawal_run {operation} (h : operation + 1 < 2 ^ 64) :
    ((blockedAt operation withdrawn).resume (withdrawal (operation + 1))).supervisor
      = blockedAt (operation + 1) withdrawn := by
  have hnext : Sequence.successor operation = some (operation + 1) := by
    rw [Sequence.successor, if_pos h]
  have hqueued : ((blockedAt operation withdrawn).transition
      (.command (.replace 3 ⟨(), ()⟩ (9 : ℕ)))).1
        = blockedAt (operation + 1) (.replacementQueued (7 : ℕ) (.ready ⟨1, 0⟩ ()) ⟨(), ()⟩) := by
    rw [transition, applyShutdownStep_fst]
    simp only [blockedAt, hnext]
    rfl
  have hcancelled : ((blockedAt (operation + 1)
      (.replacementQueued (7 : ℕ) (.ready ⟨1, 0⟩ ()) ⟨(), ()⟩)).transition
        (.command (.cancel ⟨3, operation + 1⟩ (9 : ℕ)))).1
          = blockedAt (operation + 1) withdrawn := by
    rw [transition, applyShutdownStep_fst]
    have hentry : (blockedAt (operation + 1) (.replacementQueued (7 : ℕ) (.ready ⟨1, 0⟩ ())
        ⟨(), ()⟩)).services.get? 3 = some ⟨1, operation + 1, 1,
          .replacementQueued (7 : ℕ) (.ready ⟨1, 0⟩ ()) ⟨(), ()⟩⟩ := rfl
    change (cancel _ _ _).1 = _
    simp only [cancel, hentry, ne_eq, not_true_eq_false, if_false]
    rfl
  change (((blockedAt operation withdrawn).transition _).1.transition _).1 = _
  rw [hqueued, hcancelled]

/-- The replacements of many operations are cancelled, one after the other. -/
def withdrawals (count : ℕ) : List (DynamicSupervisorEvent ℕ numbers Unit) :=
  (List.range count).flatMap fun round => withdrawal (round + 3)

theorem withdrawals_run {count} (h : count + 3 < 2 ^ 64) :
    (run twins (blocked ++ withdrawals (count + 1))).supervisor
      = blockedAt (count + 3) withdrawn := by
  induction count with
  | zero => rfl
  | succ count ih =>
    have hmore : run twins (blocked ++ withdrawals (count + 1 + 1))
        = (withdrawal (count + 1 + 3)).foldl Journal.step
            (run twins (blocked ++ withdrawals (count + 1))) := by
      rw [withdrawals, List.range_succ, List.flatMap_append, List.flatMap_singleton,
        ← List.append_assoc, run, List.foldl_append]
      rfl
    have hsupervisor : ∀ journal : Journal ℕ numbers Unit,
        ((withdrawal (count + 1 + 3)).foldl Journal.step journal).supervisor
          = (journal.supervisor.resume (withdrawal (count + 1 + 3))).supervisor :=
      fun journal => rfl
    rw [hmore, hsupervisor, ih (by omega), Nat.add_right_comm count 1 3]
    exact withdrawal_run (by omega)

/-- Once the operation numbers are exhausted, the service whose last replacement was cancelled is
stopped. -/
def exhausting : List (DynamicSupervisorEvent ℕ numbers Unit) :=
  blocked ++ withdrawals (2 ^ 64 - 4 + 1) ++ [.command (.stop 3 (9 : ℕ))]

/-- The stop is rejected, and the service forgets that its last replacement was cancelled. -/
theorem exhausting_forgets : ¬ (run twins exhausting).Fresh twins := by
  intro hfresh
  have hbefore := withdrawals_run (by omega : 2 ^ 64 - 4 + 3 < 2 ^ 64)
  have hmem : (run twins (blocked ++ withdrawals (2 ^ 64 - 4 + 1))).supervisor.entry
      (.command (.stop 3 (9 : ℕ))) ∈ (run twins exhausting).entries := by
    rw [exhausting, run_snoc]
    exact List.mem_append_right _ (List.mem_singleton_self _)
  have hatomic := hfresh.atomic _ hmem
  have hvalid := (run_coherent twins exhausting).valid _ hmem
  refine hvalid.atomic.mp hatomic ⟨⟨.waitForActorGraph, ?_⟩, 3, (9 : ℕ), rfl, ?_, ?_⟩
  · rw [hbefore]
    rfl
  · rw [hbefore]
    rfl
  · rw [hbefore]
    exact ⟨_, _, _, rfl, rfl⟩

end Bombay.Directory
