/-
# What holds of every table of a dynamic supervisor

A turn begins one entry, or takes the entries that are there one step further:
`Evolves` says what becomes of one of them.  Distinct entries have distinct proxy
creations, all of them issued, and an entry that could end has ended.  Every turn
keeps this, so it holds along every run.
-/

import Bombay.Directory.Turns
import Bombay.Lib.Duty

namespace Bombay.Directory

open Proxy (ProxyOutcome InitialWorkerOutcome ReplacementOutcome)
open DynamicSupervisor

variable {Key : Type} [LinearOrder Key] {S : Signature} {Message : Type}

/-! ### The table after an update -/

@[simp] theorem put_get? (self : DynamicSupervisor Key S Message) (key other : Key)
    (entry : DynamicEntry S Message) :
    (self.put key entry).services.get? other
      = if other = key then some entry else self.services.get? other :=
  OrderedMap.get?_insert _ _ _ _

@[simp] theorem moved_get? (self : DynamicSupervisor Key S Message) (key other : Key)
    (outcome : Outcome Key S Message) (operations : Sequence) :
    (self.moved key outcome operations).services.get? other
      = if other = key then outcome.after else self.services.get? other := by
  obtain ⟨after, shutdowns, lifecycle, diagnostics⟩ := outcome
  cases after with
  | none => exact OrderedMap.get?_erase _ _ _
  | some after => exact OrderedMap.get?_insert _ _ _ _

/-- **A waiting entry is given its slot**: what becomes of it, and what its proxy is asked. -/
inductive Authorized (heap : ℕ) :
    DynamicEntry S Message → DynamicEntry S Message → ProxyOperation S → Prop
  | start {generation operation creation proxy submission} :
      Authorized heap ⟨generation, operation, creation, .waitingForStartup proxy submission⟩
        ⟨generation, operation, creation, .waitingForProxyInput proxy heap⟩
        (.initial creation submission heap)
  | replacement {generation operation creation proxy service submission} :
      Authorized heap
        ⟨generation, operation, creation, .replacementQueued proxy service submission⟩
        ⟨generation, operation, creation, .replacementAwaitingReceipt proxy service heap⟩
        (.replacement creation submission heap)

omit [LinearOrder Key] in
theorem earliest_mem {services : List (Key × DynamicEntry S Message)}
    {service : Key × DynamicEntry S Message} (h : earliest services = some service) :
    service ∈ services := by
  induction services generalizing service with
  | nil => cases h
  | cons head rest ih =>
    rw [earliest] at h
    cases hrest : earliest rest with
    | none =>
      rw [hrest] at h
      cases h
      exact List.mem_cons_self
    | some other =>
      simp only [hrest] at h
      split at h
      · cases h
        exact List.mem_cons_of_mem _ (ih hrest)
      · cases h
        exact List.mem_cons_self

/-- **At most one waiting entry is given a slot.** -/
theorem authorizeWaiting_cases (self : DynamicSupervisor Key S Message) :
    authorizeWaiting self = (self, []) ∨
      ∃ key entry after operation, self.services.get? key = some entry ∧
        Authorized self.heap entry after operation ∧
        authorizeWaiting self
          = ({ self.put key after with heap := self.heap + 1 }, [operation]) := by
  rw [authorizeWaiting]
  split
  · exact .inl rfl
  · split
    · exact .inl rfl
    · rename_i key entry hearliest
      have hentry : self.services.get? key = some entry :=
        OrderedMap.mem_entries.mp (List.mem_filter.mp (earliest_mem hearliest)).1
      obtain ⟨generation, operation, creation, phase⟩ := entry
      cases phase with
      | waitingForStartup proxy submission => exact .inr ⟨key, _, _, _, hentry, .start, rfl⟩
      | replacementQueued proxy service submission =>
        exact .inr ⟨key, _, _, _, hentry, .replacement, rfl⟩
      | _ => exact .inl rfl

/-- The shutdown of the supervisor reaches an entry. -/
def DynamicEntry.swept (entry : DynamicEntry S Message) (heap : ℕ) : DynamicEntry S Message :=
  { entry with phase := (entry.phase.shutdown entry.creation entry.operation heap).1 }

variable {self : DynamicSupervisor Key S Message} {key : Key} {entry : DynamicEntry S Message}
    {event : DynamicSupervisorEvent Key S Message} {acted : Acted Key S Message}

/-- **The shutdown of the supervisor reaches every entry.** -/
theorem beginShutdown_entries {drain} (haccepting : self.availability = .accepting drain) :
    (∀ key entry, self.services.get? key = some entry →
      ∃ heap, (beginShutdown self).1.services.get? key = some (entry.swept heap)) ∧
    ∀ key after, (beginShutdown self).1.services.get? key = some after →
      ∃ entry heap, self.services.get? key = some entry ∧ after = entry.swept heap := by
  obtain ⟨-, hold, hnew⟩ := OrderedMap.accumulate_invariant
    (P := fun _ => True) (f := sweepEntry) self.services.entries ⟨[], [], self.heap⟩ trivial
    fun _ _ _ _ _ => trivial
  have hservices : (beginShutdown self).1.services
      = (self.services.mapAccum sweepEntry ⟨[], [], self.heap⟩).1 := by
    rw [beginShutdown, haccepting]
  constructor
  · intro key entry hentry
    obtain ⟨sweep, -, hmem⟩ := hold key entry (OrderedMap.mem_entries.mpr hentry)
    exact ⟨sweep.heap, by rw [hservices]; exact OrderedMap.mem_entries.mp hmem⟩
  · intro key after hafter
    rw [hservices] at hafter
    obtain ⟨entry, sweep, hmem, -, rfl⟩ := hnew key after (OrderedMap.mem_entries.mpr hafter)
    exact ⟨entry, sweep.heap, OrderedMap.mem_entries.mp hmem, rfl⟩

/-! ### One entry through a turn -/

/-- **What becomes of an entry in a turn**, if it is not removed. -/
inductive Evolves (key : Key) (event : DynamicSupervisorEvent Key S Message) :
    DynamicEntry S Message → DynamicEntry S Message → Prop
  | kept {entry : DynamicEntry S Message} : Evolves key event entry entry
  | stepped {heap} {entry after : DynamicEntry S Message} {outcome}
      (hstep : Steps key heap event entry outcome) (hafter : outcome.after = some after) :
      Evolves key event entry after
  | authorized {heap} {entry middle after : DynamicEntry S Message} {operation}
      (hbefore : Evolves key event entry middle)
      (hauthorized : Authorized heap middle after operation) : Evolves key event entry after
  | swept {entry : DynamicEntry S Message} {heap} (hevent : event = .shutdown) :
      Evolves key event entry (entry.swept heap)

/-- After an authorization, every entry that was there is there, and may have its slot. -/
theorem Authorizes.after {self' waiting} (h : Authorizes self (self', waiting))
    (hentry : self.services.get? key = some entry) :
    ∃ after, self'.services.get? key = some after ∧
      (after = entry ∨ ∃ heap operation, Authorized heap entry after operation) := by
  rcases h with h | h
  · cases h
    exact ⟨entry, hentry, .inl rfl⟩
  · rcases authorizeWaiting_cases self with hnone | ⟨other, old, new, operation, hold, hgiven, heq⟩
    · rw [hnone] at h
      cases h
      exact ⟨entry, hentry, .inl rfl⟩
    · rw [heq] at h
      cases h
      by_cases hkey : key = other
      · subst hkey
        obtain rfl : entry = old := Option.some.inj (hentry.symm.trans hold)
        exact ⟨new, by simp, .inr ⟨_, _, hgiven⟩⟩
      · exact ⟨entry, by simp [hkey, hentry], .inl rfl⟩

/-- After an authorization, every entry was there before, and may have been given its slot. -/
theorem Authorizes.before {self' waiting} (h : Authorizes self (self', waiting)) {after}
    (hafter : self'.services.get? key = some after) :
    ∃ entry, self.services.get? key = some entry ∧
      (after = entry ∨ ∃ heap operation, Authorized heap entry after operation) := by
  rcases h with h | h
  · cases h
    exact ⟨after, hafter, .inl rfl⟩
  · rcases authorizeWaiting_cases self with hnone | ⟨other, old, new, operation, hold, hgiven, heq⟩
    · rw [hnone] at h
      cases h
      exact ⟨after, hafter, .inl rfl⟩
    · rw [heq] at h
      cases h
      by_cases hkey : key = other
      · subst hkey
        have hnew : new = after := by simpa using hafter
        subst hnew
        exact ⟨old, hold, .inr ⟨_, _, hgiven⟩⟩
      · exact ⟨after, by simpa [hkey] using hafter, .inl rfl⟩

/-- **An entry goes on, or is removed by a step that leaves nothing of it.** -/
theorem Turn.entry_after (h : Turn self event acted)
    (hentry : self.services.get? key = some entry) :
    (∃ after, acted.1.services.get? key = some after ∧ Evolves key event entry after) ∨
      acted.1.services.get? key = none ∧ ∃ outcome actions,
        Steps key self.heap event entry outcome ∧ outcome.after = none ∧
          acted.2 = .ok actions ∧ actions.lifecycle = outcome.lifecycle := by
  cases h with
  | refused | kept hkeeps | timed havailability hdeadline => exact .inl ⟨entry, hentry, .kept⟩
  | @begun other _ _ _ _ _ _ _ _ _ haccepting habsent _ _ _ _ =>
    have hkey : key ≠ other := by
      rintro rfl
      rw [habsent] at hentry
      cases hentry
    exact .inl ⟨entry, by simp [hkey, hentry], .kept⟩
  | @moved _ other old outcome _ _ _ actions hold _ hstep _ _ hauthorizes hactions =>
    by_cases hkey : key = other
    · subst hkey
      obtain rfl : entry = old := Option.some.inj (hentry.symm.trans hold)
      cases houtcome : outcome.after with
      | none =>
        refine .inr ⟨?_, outcome, actions, hstep, houtcome, rfl, hactions.2.2.2.2.2.1⟩
        by_contra hsome
        obtain ⟨after, hafter⟩ := Option.ne_none_iff_exists'.mp hsome
        obtain ⟨middle, hmiddle, -⟩ := hauthorizes.before hafter
        rw [moved_get?, if_pos rfl, houtcome] at hmiddle
        cases hmiddle
      | some middle =>
        obtain ⟨after, hafter, hgiven⟩ := hauthorizes.after
          (show (self.moved key outcome _).services.get? key = some middle by simp [houtcome])
        refine .inl ⟨after, hafter, ?_⟩
        rcases hgiven with rfl | ⟨heap, operation, hgiven⟩
        · exact .stepped hstep houtcome
        · exact .authorized (.stepped hstep houtcome) hgiven
    · obtain ⟨after, hafter, hgiven⟩ := hauthorizes.after
        (show (self.moved other outcome _).services.get? key = some entry by simp [hkey, hentry])
      refine .inl ⟨after, hafter, ?_⟩
      rcases hgiven with rfl | ⟨heap, operation, hgiven⟩
      · exact .kept
      · exact .authorized .kept hgiven
  | swept haccepting =>
    obtain ⟨heap, hafter⟩ := (beginShutdown_entries haccepting).1 key entry hentry
    exact .inl ⟨entry.swept heap, hafter, .swept rfl⟩

/-- **An entry was there before, or was begun with a new creation.** -/
theorem Turn.entry_before (h : Turn self event acted) {after}
    (hafter : acted.1.services.get? key = some after) :
    (∃ entry, self.services.get? key = some entry ∧ Evolves key event entry after) ∨
      (∃ submission replyTo, event = .command (.start key submission replyTo) ∧
          after.phase = .creatingProxy submission) ∧
        (∃ drain, acted.1.availability = .accepting drain) ∧
        self.creations.issue = some (after.creation, acted.1.creations) := by
  cases h with
  | refused | kept hkeeps | timed havailability hdeadline => exact .inl ⟨after, hafter, .kept⟩
  | @begun other submission _ _ _ _ _ _ _ _ haccepting habsent _ _ _ hcreation =>
    by_cases hkey : key = other
    · subst hkey
      have hnew := hafter
      simp only [put_get?, if_true, Option.some.injEq] at hnew
      subst hnew
      exact .inr ⟨⟨submission, _, rfl, rfl⟩, ⟨_, haccepting⟩, hcreation⟩
    · exact .inl ⟨after, by simpa [hkey] using hafter, .kept⟩
  | @moved _ other old outcome _ _ _ actions hold _ hstep _ _ hauthorizes hactions =>
    obtain ⟨middle, hmiddle, hgiven⟩ := hauthorizes.before hafter
    by_cases hkey : key = other
    · subst hkey
      rw [moved_get?, if_pos rfl] at hmiddle
      refine .inl ⟨old, hold, ?_⟩
      rcases hgiven with rfl | ⟨heap, operation, hgiven⟩
      · exact .stepped hstep hmiddle
      · exact .authorized (.stepped hstep hmiddle) hgiven
    · rw [moved_get?, if_neg hkey] at hmiddle
      refine .inl ⟨middle, hmiddle, ?_⟩
      rcases hgiven with rfl | ⟨heap, operation, hgiven⟩
      · exact .kept
      · exact .authorized .kept hgiven
  | swept haccepting =>
    obtain ⟨entry, heap, hentry, rfl⟩ := (beginShutdown_entries haccepting).2 key after hafter
    exact .inl ⟨entry, hentry, .swept rfl⟩

/-- The creations a turn issues: none, or one. -/
theorem Turn.creations (h : Turn self event acted) :
    acted.1.creations = self.creations ∨
      ∃ creation, self.creations.issue = some (creation, acted.1.creations) := by
  cases h with
  | begun haccepting habsent hcapacity hgeneration hoperation hcreation =>
    exact .inr ⟨_, hcreation⟩
  | @moved _ key old outcome operations self' waiting actions _ _ _ _ _ hauthorizes _ =>
    left
    have hmoved : (self.moved key outcome operations).creations = self.creations := by
      unfold DynamicSupervisor.moved
      cases outcome.after <;> rfl
    rcases hauthorizes with h | h
    · cases h
      exact hmoved
    · rcases authorizeWaiting_cases (self.moved key outcome operations) with
        hnone | ⟨other, old, new, operation, -, -, heq⟩
      · rw [hnone] at h
        cases h
        exact hmoved
      · rw [heq] at h
        cases h
        exact hmoved
  | swept haccepting =>
    left
    rw [beginShutdown, haccepting]
  | _ => exact .inl rfl

/-! ### Soundness -/

/-- The input that was given away is resolved, or there was none. -/
def RetiringWork.resolved : RetiringWork S Message → Bool
  | .transferred _ (.awaitingSettlement _) => false
  | .transferred _ (.awaitingOutcome _) => false
  | _ => true

/-- The entry can end: its shutdown is settled, its proxy has stopped, its work is resolved. -/
def ProxyRetirement.closable (retirement : ProxyRetirement S Message) : Bool :=
  match retirement.shutdown, retirement.stopped with
  | .awaitingSettlement _, _ => false
  | _, none => false
  | _, some _ => retirement.work.resolved

omit [LinearOrder Key] in
/-- **A retirement ends when it can**, and says so. -/
theorem closeRetirement_spec (key : Key) (generation operation : ℕ)
    (retirement : ProxyRetirement S Message) :
    (retirement.closable = false ∧ closeRetirement key generation operation retirement = none) ∨
      retirement.closable = true ∧ ∃ lifecycle cause,
        closeRetirement key generation operation retirement = some lifecycle ∧
          .entryRetired key generation cause ∈ lifecycle := by
  obtain ⟨proxy, shutdown, work, stopped⟩ := retirement
  cases shutdown with
  | awaitingSettlement witness => exact .inl ⟨rfl, rfl⟩
  | accepted token | rejected =>
    cases stopped with
    | none => exact .inl ⟨rfl, rfl⟩
    | some stopped =>
      rcases work with _ | _ | _ | _ | _ | ⟨purpose, custody⟩
      case transferred =>
        cases custody <;> cases purpose <;>
          first
          | exact .inl ⟨rfl, rfl⟩
          | exact .inr ⟨rfl, _, _, rfl, by simp [entryRetired, operationCancelled]; rfl⟩
      all_goals exact .inr ⟨rfl, _, _, rfl, by simp [entryRetired, operationCancelled]; rfl⟩

/-- The phase waits for something: a stop or a retirement that could end has ended. -/
def DynamicEntryPhase.Open : DynamicEntryPhase S Message → Prop
  | .stopping _ _ (.awaitingSettlement _) _ => True
  | .stopping _ _ (.accepted _) none => True
  | .stopping _ _ _ _ => False
  | .retiring retirement => retirement.closable = false
  | _ => True

/-- **What holds of every reachable supervisor.** -/
structure Sound (supervisor : DynamicSupervisor Key S Message) : Prop where
  distinct : ∀ key other entry entry', supervisor.services.get? key = some entry →
    supervisor.services.get? other = some entry' → entry.creation = entry'.creation → key = other
  past : ∀ key entry, supervisor.services.get? key = some entry →
    supervisor.creations.Past entry.creation
  opened : ∀ key entry, supervisor.services.get? key = some entry → entry.phase.Open

theorem new_get? (config : Config) (key : Key) :
    (.new config : DynamicSupervisor Key S Message).services.get? key = none :=
  rfl

theorem sound_new (config : Config) : Sound (.new config : DynamicSupervisor Key S Message) where
  distinct key other entry entry' hentry := by
    rw [new_get?] at hentry
    cases hentry
  past key entry hentry := by
    rw [new_get?] at hentry
    cases hentry
  opened key entry hentry := by
    rw [new_get?] at hentry
    cases hentry

/-- **The entry of a creation is the one that is found.** -/
theorem Sound.takeProxyEntry (h : Sound self) (hentry : self.services.get? key = some entry) :
    self.takeProxyEntry entry.creation = some (key, entry) := by
  cases hfound : self.takeProxyEntry entry.creation with
  | none =>
    have hnot := List.find?_eq_none.mp hfound (key, entry) (OrderedMap.mem_entries.mpr hentry)
    simp at hnot
  | some found =>
    obtain ⟨other, service⟩ := found
    obtain ⟨hservice, hsame⟩ := takeProxyEntry_some hfound
    obtain rfl := h.distinct other key service entry hservice hentry hsame
    rw [hservice] at hentry
    rw [Option.some.inj hentry]

omit [LinearOrder Key] in
theorem Steps.kept {heap after outcome} (h : Steps key heap event entry outcome)
    (hafter : outcome.after = some after) :
    after.creation = entry.creation ∧ after.generation = entry.generation ∧
      (entry.phase.Open → after.phase.Open) := by
  cases h with
  | retired h =>
    cases hafter
    exact ⟨rfl, rfl, fun _ => rfl⟩
  | stopping h =>
    cases hafter
    exact ⟨rfl, rfl, fun _ => trivial⟩
  | uncreated hcreation hresolve h => cases hafter
  | shifted h =>
    cases hafter
    cases h <;> exact ⟨rfl, rfl, fun _ => by trivial⟩
  | ended h => cases hafter
  | @continued _ generation operation creation before retirement _ _ h =>
    unfold settled at hafter
    rcases closeRetirement_spec key generation operation retirement with
      ⟨hclosable, hclose⟩ | ⟨-, lifecycle, cause, hclose, -⟩
    · rw [hclose] at hafter
      cases hafter
      exact ⟨rfl, rfl, fun _ => hclosable⟩
    · rw [hclose] at hafter
      cases hafter

omit [LinearOrder Key] in
theorem Authorized.kept {heap after operation} (h : Authorized heap entry after operation) :
    after.creation = entry.creation ∧ after.generation = entry.generation ∧ after.phase.Open := by
  cases h <;> exact ⟨rfl, rfl, trivial⟩

theorem DynamicEntry.swept_opened (heap : ℕ)
    (h : entry.phase.Open) : (entry.swept heap).phase.Open := by
  obtain ⟨generation, operation, creation, phase⟩ := entry
  cases phase <;> first | exact h | exact rfl

omit [LinearOrder Key] in
/-- **An entry keeps its creation and its generation**, and stays open. -/
theorem Evolves.kept_identity {after} (h : Evolves key event entry after) :
    after.creation = entry.creation ∧ after.generation = entry.generation ∧
      (entry.phase.Open → after.phase.Open) := by
  induction h with
  | kept => exact ⟨rfl, rfl, id⟩
  | stepped hstep hafter => exact hstep.kept hafter
  | authorized hbefore hauthorized ih =>
    obtain ⟨hcreation, hgeneration, hopen⟩ := hauthorized.kept
    exact ⟨hcreation.trans ih.1, hgeneration.trans ih.2.1, fun _ => hopen⟩
  | swept hevent => exact ⟨rfl, rfl, DynamicEntry.swept_opened _⟩

/-- **A turn keeps a supervisor sound.** -/
theorem Turn.sound (h : Turn self event acted) (hsound : Sound self) : Sound acted.1 := by
  have hpast : ∀ creation, self.creations.Past creation → acted.1.creations.Past creation := by
    intro creation hcreation
    rcases h.creations with heq | ⟨fresh, hissue⟩
    · rw [heq]
      exact hcreation
    · exact hcreation.issue hissue
  constructor
  · intro key other entry entry' hentry hentry' hsame
    rcases h.entry_before hentry with ⟨old, hold, hmoves⟩ | ⟨⟨_, _, hevent, -⟩, -, hissue⟩
    · rcases h.entry_before hentry' with ⟨old', hold', hmoves'⟩ | ⟨-, -, hissue'⟩
      · refine hsound.distinct key other old old' hold hold' ?_
        rw [← hmoves.kept_identity.1, ← hmoves'.kept_identity.1]
        exact hsame
      · have hlt := (hsound.past key old hold).ne_issue hissue'
        rw [← hmoves.kept_identity.1, hsame] at hlt
        exact absurd hlt (lt_irrefl _)
    · rcases h.entry_before hentry' with ⟨old', hold', hmoves'⟩ | ⟨⟨_, _, hevent', -⟩, -, -⟩
      · have hlt := (hsound.past other old' hold').ne_issue hissue
        rw [← hmoves'.kept_identity.1, ← hsame] at hlt
        exact absurd hlt (lt_irrefl _)
      · rw [hevent] at hevent'
        cases hevent'
        rfl
  · intro key entry hentry
    rcases h.entry_before hentry with ⟨old, hold, hmoves⟩ | ⟨-, -, hissue⟩
    · rw [hmoves.kept_identity.1]
      exact hpast _ (hsound.past key old hold)
    · exact Sequence.issue_past hissue
  · intro key entry hentry
    rcases h.entry_before hentry with ⟨old, hold, hmoves⟩ | ⟨⟨submission, -, -, hphase⟩, -, -⟩
    · exact hmoves.kept_identity.2.2 (hsound.opened key old hold)
    · rw [hphase]
      trivial

end Bombay.Directory
