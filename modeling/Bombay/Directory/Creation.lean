/-
# The settlement of a proxy creation

`accept_creations` of `directory/mod.rs` takes
a batch that was settled item by item, whatever became of its one item.  A batch that
was rejected as a whole, or given up as corrupt, is handed back, and the entry it was
for goes on waiting.
-/

import Bombay.Directory.Exit

namespace Bombay.Directory

open DynamicSupervisor

variable {Key : Type} [LinearOrder Key] {S : Signature} {Message : Type}

/-- The submission an entry holds while its proxy is created. -/
def DynamicEntryPhase.held : DynamicEntryPhase S Message → Option (WorkerSubmission S)
  | .creatingProxy submission => some submission
  | .stoppingProxyCreation _ submission => some submission
  | _ => none

/-- A batch settles exactly the creation of one proxy, in whatever shape. -/
def SettlesCreation (proxies : CreationsSettled (proxied S)) (creation : ℕ) : Prop :=
  identities proxies = [(creation, .birth)]

/-- **What is told when the proxy of an entry could not be created**, by what the entry waited for:
a cancelled start is told as cancelled, a stopped one hands its worker out. -/
def DynamicEntry.ending (key : Key) (entry : DynamicEntry S Message)
    (creation : StableProxyCreationSettlement S) : List (DynamicLifecycle Key S Message) :=
  match entry.phase with
  | .creatingProxy submission =>
    [.startCreationRejected key entry.generation submission creation]
  | .shuttingDownProxyCreation => [.entryRetired key entry.generation .shutdown]
  | .drainingProxyCreationStop => [.entryRetired key entry.generation .stop]
  | .cancellingProxyCreation =>
    [.operationCancelled key entry.generation entry.operation .start .workerReturned,
      .entryRetired key entry.generation .cancellation]
  | .stoppingProxyCreation start submission =>
    [.workerChangeInterrupted key entry.generation start (.explicitStop entry.operation)
      (.submission submission), .entryRetired key entry.generation .stop]
  | _ => []

/-- **The creation of an entry is resolved** by a transition: the settlement is taken, the entry has
a proxy or is gone, its submission is kept, given away or handed out, and its end is announced. -/
structure Resolves (supervisor : DynamicSupervisor Key S Message) (key : Key)
    (entry : DynamicEntry S Message) (proxies : CreationsSettled (proxied S)) : Prop where
  taken : ∀ input, (supervisor.transition (.proxyCreationsSettled proxies)).2 ≠ .error input
  moved : ∀ service,
    (supervisor.transition (.proxyCreationsSettled proxies)).1.services.get? key = some service →
      service.creation = entry.creation ∧ service.phase.proxy ≠ none
  submission : ∀ submission, entry.phase.held = some submission →
    let result := supervisor.entry (.proxyCreationsSettled proxies)
    (∃ service proxy, result.after.services.get? key = some service ∧
        service.phase = .waitingForStartup proxy submission) ∨
      (∃ operation ∈ result.actions.proxyOperations, operation.creation = entry.creation ∧
        operation.control = .start submission) ∨
      (∃ settlement, .startCreationRejected key entry.generation submission settlement
        ∈ result.actions.lifecycle) ∨
      ∃ operation interruption, .workerChangeInterrupted key entry.generation operation interruption
        (.submission submission) ∈ result.actions.lifecycle
  announced : let result := supervisor.entry (.proxyCreationsSettled proxies)
    result.after.services.get? key = none →
      ∃ creation, result.actions.lifecycle = entry.ending key creation

/-- The transition of a batch is that of `accept_creations`, with the last step applied. -/
theorem transition_created (self : DynamicSupervisor Key S Message)
    (proxies : CreationsSettled (proxied S)) :
    self.transition (.proxyCreationsSettled proxies)
      = applyShutdownStep (acceptCreations self proxies) :=
  rfl

/-- A batch that settles one creation settles its one item, or is handed back. -/
theorem settlesCreation_cases {proxies : CreationsSettled (proxied S)} {creation : ℕ}
    (h : SettlesCreation proxies creation) :
    (∃ settlement, proxies = .settled [settlement] ∧
        creationIdentity settlement = (creation, .birth)) ∨
      ∀ settlements, proxies ≠ .settled settlements := by
  cases proxies with
  | settled settlements =>
    left
    have hone : settlements.map creationIdentity = [(creation, .birth)] := h
    obtain ⟨settlement, rfl, hidentity⟩ := List.map_eq_singleton_iff.mp hone
    exact ⟨settlement, rfl, hidentity⟩
  | rejected creations | corrupt creations fault => exact .inr nofun

/-- What is not settled item by item is handed back. -/
theorem acceptCreations_back {self : DynamicSupervisor Key S Message}
    {proxies : CreationsSettled (proxied S)} (h : ∀ settlements, proxies ≠ .settled settlements) :
    acceptCreations self proxies = (self, .error (.proxyCreationsSettled proxies)) := by
  cases proxies with
  | settled settlements => exact absurd rfl (h settlements)
  | rejected creations => rfl
  | corrupt creations fault => rfl

/-- What a transition says, read off its handler. -/
theorem entry_actions {self : DynamicSupervisor Key S Message}
    {proxies : CreationsSettled (proxied S)} {after : DynamicSupervisor Key S Message}
    {actions : DynamicActions Key S Message}
    (h : acceptCreations self proxies = (after, .ok actions)) :
    (self.entry (.proxyCreationsSettled proxies)).after = after ∧
      (self.transition (.proxyCreationsSettled proxies)).1 = after ∧
      (∀ input, (self.transition (.proxyCreationsSettled proxies)).2 ≠ .error input) ∧
      (self.entry (.proxyCreationsSettled proxies)).actions.lifecycle = actions.lifecycle ∧
      (self.entry (.proxyCreationsSettled proxies)).actions.proxyOperations
        = actions.proxyOperations := by
  have htransition : self.transition (.proxyCreationsSettled proxies)
      = (after, .ok (if after.finished then { actions with step := .stop } else actions)) := by
    rw [transition_created, h]
    rfl
  have hentry : (self.entry (.proxyCreationsSettled proxies)).after = after := by
    rw [DynamicSupervisor.entry, htransition]
  refine ⟨hentry, by rw [htransition], fun input => by rw [htransition]; simp, ?_⟩
  rw [Entry.actions, DynamicSupervisor.entry, htransition]
  dsimp only
  split <;> exact ⟨rfl, rfl⟩

section

variable {self : DynamicSupervisor Key S Message} {key : Key} {entry : DynamicEntry S Message}
  {proxies : CreationsSettled (proxied S)}

/-- **An entry that is removed is resolved** when its end is told. -/
theorem Resolves.of_end {actions : DynamicActions Key S Message}
    (hactions : acceptCreations self proxies = (self.drop key, .ok actions))
    (creation) (htold : actions.lifecycle = entry.ending key creation) :
    Resolves self key entry proxies := by
  obtain ⟨hafter, htransition, htaken, hlifecycle, hoperations⟩ := entry_actions hactions
  constructor
  · exact htaken
  · intro service hservice
    rw [htransition, drop_get?] at hservice
    cases hservice
  · intro submission hheld
    dsimp only
    rw [hlifecycle, htold]
    refine .inr (.inr ?_)
    obtain ⟨generation, operation, number, phase⟩ := entry
    cases phase with
    | creatingProxy => cases hheld; exact .inl ⟨_, List.mem_singleton_self _⟩
    | stoppingProxyCreation => cases hheld; exact .inr ⟨_, _, List.mem_cons_self⟩
    | _ => cases hheld
  · dsimp only
    rw [hlifecycle]
    exact fun _ => ⟨creation, htold⟩

/-- **An entry that goes on with its proxy is resolved** when what it held is kept, given away or
handed out. -/
theorem Resolves.of_proxy (service : DynamicEntry S Message)
    {after : DynamicSupervisor Key S Message} {actions : DynamicActions Key S Message}
    (hactions : acceptCreations self proxies = (after, .ok actions))
    (hservice : after.services.get? key = some service)
    (hsame : service.creation = entry.creation) (hproxy : service.phase.proxy ≠ none)
    (hsubmission : ∀ submission, entry.phase.held = some submission →
      (∃ proxy, service.phase = .waitingForStartup proxy submission) ∨
      (∃ operation ∈ actions.proxyOperations, operation.creation = entry.creation ∧
        operation.control = .start submission) ∨
      ∃ operation interruption, .workerChangeInterrupted key entry.generation operation interruption
        (.submission submission) ∈ actions.lifecycle) :
    Resolves self key entry proxies := by
  obtain ⟨hafter, htransition, htaken, hlifecycle, hoperations⟩ := entry_actions hactions
  constructor
  · exact htaken
  · intro other hother
    rw [htransition, hservice] at hother
    obtain rfl := Option.some.inj hother
    exact ⟨hsame, hproxy⟩
  · intro submission hheld
    dsimp only
    rw [hlifecycle, hoperations, hafter]
    rcases hsubmission submission hheld with ⟨proxy, hphase⟩ | hgiven | hout
    · exact .inl ⟨service, proxy, hservice, hphase⟩
    · exact .inr (.inl hgiven)
    · exact .inr (.inr (.inr hout))
  · dsimp only
    rw [hafter, hservice]
    exact fun h => absurd h (by simp)

/-- **A proxy that is created serves the phase of its entry.** -/
theorem committed_resolves {settlement proxy}
    (hfound : self.takeProxyEntry (creationIdentity settlement).1 = some (key, entry))
    (hproxy : entry.phase.proxy = none) (hresolve : resolve settlement = .committed proxy) :
    Resolves self key entry (.settled [settlement]) := by
  obtain ⟨generation, operation, creation, phase⟩ := entry
  cases phase with
  | creatingProxy submission =>
    have hactions : acceptCreations self (.settled [settlement])
        = ((authorizeWaiting (self.put key ⟨generation, operation, creation,
            .waitingForStartup proxy submission⟩)).1,
          .ok { proxyOperations := (authorizeWaiting (self.put key ⟨generation, operation, creation,
            .waitingForStartup proxy submission⟩)).2 }) := by
      simp only [acceptCreations, hfound, hresolve]
    rcases authorizeWaiting_cases (self.put key ⟨generation, operation, creation,
        .waitingForStartup proxy submission⟩) with
      hnobody | ⟨other, old, new, asked, hold, hgiven, heq⟩
    · rw [hnobody] at hactions
      refine .of_proxy ⟨generation, operation, creation, .waitingForStartup proxy submission⟩
        hactions (by rw [put_get?, if_pos rfl]) rfl (by simp [DynamicEntryPhase.proxy])
        fun submission' hheld => ?_
      cases hheld
      exact .inl ⟨proxy, rfl⟩
    · rw [heq] at hactions
      by_cases hother : key = other
      · subst hother
        rw [put_get?, if_pos rfl] at hold
        cases hold
        cases hgiven
        refine .of_proxy
          ⟨generation, operation, creation, .waitingForProxyInput proxy self.heap⟩ hactions
          (by rw [put_get?, if_pos rfl]; rfl) rfl (by simp [DynamicEntryPhase.proxy])
          fun submission' hheld => ?_
        cases hheld
        exact .inr (.inl ⟨_, List.mem_singleton_self _, rfl, rfl⟩)
      · refine .of_proxy ⟨generation, operation, creation, .waitingForStartup proxy submission⟩
          hactions (by simp [hother]) rfl (by simp [DynamicEntryPhase.proxy])
          fun submission' hheld => ?_
        cases hheld
        exact .inl ⟨proxy, rfl⟩
  | shuttingDownProxyCreation =>
    exact .of_proxy ⟨generation, operation, creation, .retiring
      ⟨proxy, .awaitingSettlement self.heap, .supervisorShutdown none, none⟩⟩
      (by simp only [acceptCreations, hfound, hresolve]; rfl) (by simp) rfl
      (by simp [DynamicEntryPhase.proxy]) (by simp [DynamicEntryPhase.held])
  | drainingProxyCreationStop =>
    exact .of_proxy ⟨generation, operation, creation, .stopping proxy none
      (.awaitingSettlement self.heap) none⟩
      (by simp only [acceptCreations, hfound, hresolve]; rfl) (by simp) rfl
      (by simp [DynamicEntryPhase.proxy]) (by simp [DynamicEntryPhase.held])
  | cancellingProxyCreation =>
    exact .of_proxy ⟨generation, operation, creation, .retiring
      ⟨proxy, .awaitingSettlement self.heap, .cancelledWorkerReturned .start, none⟩⟩
      (by simp only [acceptCreations, hfound, hresolve]; rfl) (by simp) rfl
      (by simp [DynamicEntryPhase.proxy]) (by simp [DynamicEntryPhase.held])
  | stoppingProxyCreation start submission =>
    refine .of_proxy ⟨generation, operation, creation, .stopping proxy none
      (.awaitingSettlement self.heap) none⟩ (by simp only [acceptCreations, hfound, hresolve]; rfl)
      (by simp) rfl (by simp [DynamicEntryPhase.proxy]) fun submission' hheld => ?_
    cases hheld
    exact .inr (.inr ⟨_, _, List.mem_singleton_self _⟩)
  | _ => cases hproxy

/-- **A proxy that is not created ends its entry.** -/
theorem rejected_resolves {settlement rejected}
    (hfound : self.takeProxyEntry (creationIdentity settlement).1 = some (key, entry))
    (hproxy : entry.phase.proxy = none) (hresolve : resolve settlement = .rejected rejected) :
    Resolves self key entry (.settled [settlement]) := by
  obtain ⟨generation, operation, creation, phase⟩ := entry
  cases phase with
  | creatingProxy | shuttingDownProxyCreation | drainingProxyCreationStop | cancellingProxyCreation
  | stoppingProxyCreation =>
    exact .of_end (by simp only [acceptCreations, hfound, hresolve]; rfl) rejected rfl
  | _ => cases hproxy

end

/-- **The settlement of its own proxy creation resolves an entry exactly when the batch was settled
item by item**: in every reachable state, for every entry whose proxy is being created and every
shape of the settlement of its batch. -/
theorem creation_resolves (config : Config) (events : List (DynamicSupervisorEvent Key S Message))
    {key : Key} {entry : DynamicEntry S Message} {proxies : CreationsSettled (proxied S)}
    (hentry : (run config events).supervisor.services.get? key = some entry)
    (hproxy : entry.phase.proxy = none) (hsettles : SettlesCreation proxies entry.creation) :
    Resolves (run config events).supervisor key entry proxies ↔
      ∃ settlements, proxies = .settled settlements := by
  have hsound := (run_coherent config events).sound
  constructor
  · intro hresolves
    by_contra hnot
    refine hresolves.taken (.proxyCreationsSettled proxies) ?_
    rw [transition_created, acceptCreations_back fun settlements h => hnot ⟨settlements, h⟩]
    rfl
  · rintro ⟨settlements, rfl⟩
    rcases settlesCreation_cases hsettles with ⟨settlement, hone, hidentity⟩ | hnot
    · rw [hone]
      have hfound := hsound.takeProxyEntry hentry
      rw [← show (creationIdentity settlement).1 = entry.creation by rw [hidentity]] at hfound
      cases hresolve : resolve settlement with
      | committed proxy => exact committed_resolves hfound hproxy hresolve
      | rejected rejected => exact rejected_resolves hfound hproxy hresolve
    · exact absurd rfl (hnot settlements)

/-- The proxy of a service could not be created. -/
theorem creation_resolves_rejected :
    Resolves (run single [.command (.start 3 ⟨(), ()⟩ (9 : ℕ))] :
        Journal ℕ numbers Unit).supervisor 3 ⟨1, 1, 1, .creatingProxy ⟨(), ()⟩⟩
      (.settled [.unattempted ⟨1, Proxy.StableProxy.new, .birth⟩]) := by
  have hsettles : SettlesCreation
      (.settled [.unattempted ⟨1, Proxy.StableProxy.new, .birth⟩] :
        CreationsSettled (proxied numbers)) 1 := rfl
  have hentry : (run single [.command (.start 3 ⟨(), ()⟩ (9 : ℕ))] :
      Journal ℕ numbers Unit).supervisor.services.get? 3
        = some ⟨1, 1, 1, .creatingProxy ⟨(), ()⟩⟩ := rfl
  exact (creation_resolves single _ hentry rfl hsettles).mpr ⟨_, rfl⟩

/-- The whole batch is rejected: it is handed back, and the entry goes on waiting for it. -/
theorem rejected_batch_unresolved :
    (run single [.command (.start 3 ⟨(), ()⟩ (9 : ℕ)),
        .proxyCreationsSettled (.rejected [⟨1, Proxy.StableProxy.new, .birth⟩])] :
        Journal ℕ numbers Unit).supervisor.services.get? 3
      = some ⟨1, 1, 1, .creatingProxy ⟨(), ()⟩⟩ ∧
    ¬ Resolves (run single [.command (.start 3 ⟨(), ()⟩ (9 : ℕ))] :
        Journal ℕ numbers Unit).supervisor 3 ⟨1, 1, 1, .creatingProxy ⟨(), ()⟩⟩
      (.rejected [⟨1, Proxy.StableProxy.new, .birth⟩]) :=
  ⟨rfl, fun h => h.taken _ rfl⟩

end Bombay.Directory
