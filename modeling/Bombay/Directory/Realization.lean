/-
# Realization and departure along runs

Along a run every accepted change of a dynamic supervisor (`directory/mod.rs`) is
realized at most once, a change whose cancellation or stop was accepted never
succeeds, and every generation leaves the table at most once, in a transition that
says so.  Each follows from one permission that never comes back: to wait as the
change of an entry, to be able to succeed, and to be in the table.
-/

import Bombay.Directory.Changes

namespace Bombay.Directory

open DynamicSupervisor
open scoped List

variable {Key : Type} [LinearOrder Key] {S : Signature} {Message : Type}

/-! ### Generations -/

variable {self : DynamicSupervisor Key S Message} {event : DynamicSupervisorEvent Key S Message}
    {acted : Acted Key S Message} {change : ℕ} {entry : Entry Key S Message}

/-- **The identities of a turn**: the entries that were there keep theirs, and an entry that begins
is given the next generation and the next creation. -/
theorem Turn.identities (h : Turn self event acted) :
    (acted.1.generations = self.generations ∧ acted.1.creations = self.creations ∧
        ∀ key, Inherits self.services acted.1.services DynamicEntry.generation key ∧
          Inherits self.services acted.1.services DynamicEntry.creation key) ∨
      ∃ fresh entry, self.generations.issue = some (entry.generation, acted.1.generations) ∧
        self.creations.issue = some (entry.creation, acted.1.creations) ∧
        acted.1.services.get? fresh = some entry ∧
        ∀ key after, key ≠ fresh → acted.1.services.get? key = some after →
          self.services.get? key = some after := by
  cases h with
  | refused hfact | kept hkeeps | timed havailability hdeadline =>
    exact .inl ⟨rfl, rfl, fun key =>
      ⟨fun after hafter => ⟨after, hafter, rfl⟩, fun after hafter => ⟨after, hafter, rfl⟩⟩⟩
  | @begun fresh submission _ generation operation creation _ _ _ _ _ _ _ hgeneration _ hcreation =>
    refine .inr ⟨fresh, ⟨generation, operation, creation, .creatingProxy submission⟩, hgeneration,
      hcreation, by simp, fun key after hkey hafter => ?_⟩
    simpa [hkey] using hafter
  | @moved _ moved entry outcome operations self' _ _ hentry _ hstep _ _ hauthorizes =>
    have hback : ∀ key after, self'.services.get? key = some after →
        ∃ old, self.services.get? key = some old ∧ after.generation = old.generation ∧
          after.creation = old.creation := by
      intro key after hafter
      obtain ⟨middle, hmiddle, hgiven⟩ := hauthorizes.before hafter
      have hsame : after.generation = middle.generation ∧ after.creation = middle.creation := by
        rcases hgiven with rfl | ⟨heap, operation, hgiven⟩
        · exact ⟨rfl, rfl⟩
        · exact ⟨hgiven.kept.2.1, hgiven.kept.1⟩
      by_cases hkey : key = moved
      · subst hkey
        rw [moved_get?, if_pos rfl] at hmiddle
        have hkept := hstep.kept hmiddle
        exact ⟨entry, hentry, hsame.1.trans hkept.2.1, hsame.2.trans hkept.1⟩
      · rw [moved_get?, if_neg hkey] at hmiddle
        exact ⟨middle, hmiddle, hsame⟩
    refine .inl ⟨by rw [hauthorizes.frame, moved_frame], by rw [hauthorizes.frame, moved_frame],
      fun key => ⟨fun after hafter => ?_, fun after hafter => ?_⟩⟩
    · obtain ⟨old, hold, hgeneration, -⟩ := hback key after hafter
      exact ⟨old, hold, hgeneration⟩
    · obtain ⟨old, hold, -, hcreation⟩ := hback key after hafter
      exact ⟨old, hold, hcreation⟩
  | swept haccepting =>
    refine .inl ⟨by rw [beginShutdown, haccepting], by rw [beginShutdown, haccepting],
      fun key => ⟨fun after hafter => ?_, fun after hafter => ?_⟩⟩
    · obtain ⟨entry, heap, hentry, rfl⟩ := (beginShutdown_entries haccepting).2 key after hafter
      exact ⟨entry, hentry, rfl⟩
    · obtain ⟨entry, heap, hentry, rfl⟩ := (beginShutdown_entries haccepting).2 key after hafter
      exact ⟨entry, hentry, rfl⟩

theorem Turn.generations (h : Turn self event acted) :
    Renumbers self.services acted.1.services DynamicEntry.generation self.generations
      acted.1.generations := by
  rcases h.identities with ⟨hsame, -, hkeeps⟩ | ⟨fresh, entry, hissue, -, hfresh, hothers⟩
  · exact .kept hsame fun key => (hkeeps key).1
  · refine .given fresh entry.generation hissue (fun after hafter => ?_) fun key hkey after hafter =>
      ⟨after, hothers key after hkey hafter, rfl⟩
    rw [Option.some.inj (hafter.symm.trans hfresh)]

theorem Turn.creationNumbers (h : Turn self event acted) :
    Renumbers self.services acted.1.services DynamicEntry.creation self.creations
      acted.1.creations := by
  rcases h.identities with ⟨-, hsame, hkeeps⟩ | ⟨fresh, entry, -, hissue, hfresh, hothers⟩
  · exact .kept hsame fun key => (hkeeps key).2
  · refine .given fresh entry.creation hissue (fun after hafter => ?_) fun key hkey after hafter =>
      ⟨after, hothers key after hkey hafter, rfl⟩
    rw [Option.some.inj (hafter.symm.trans hfresh)]

/-- **What holds of the changes and the generations of every reachable supervisor.** -/
structure Identified (supervisor : DynamicSupervisor Key S Message) : Prop where
  changes : Changes supervisor
  creations : Numbered supervisor.services DynamicEntry.creation supervisor.creations
  generations : Numbered supervisor.services DynamicEntry.generation supervisor.generations

theorem identified_new (config : Config) :
    Identified (.new config : DynamicSupervisor Key S Message) :=
  ⟨changes_new config, numbered_new config _ _, numbered_new config _ _⟩

theorem Turn.identified
    (h : Turn self event acted) (hidentified : Identified self) : Identified acted.1 :=
  ⟨h.changes hidentified.changes, h.creationNumbers.numbered hidentified.creations,
    h.generations.numbered hidentified.generations⟩

theorem Journal.Coherent.identified {first} {journal : Journal Key S Message}
    (h : journal.Coherent first) (hfirst : Identified first) :
    Identified journal.supervisor := by
  refine h.trail.invariant hfirst fun entry hentry hidentified => ?_
  obtain ⟨acted, hturn, hafter, -⟩ := (h.valid entry hentry).turn
  rw [← hafter]
  exact hturn.identified hidentified

/-! ### Permissions -/

/-- The change is followed at some entry, or is still to come. -/
def May (track : DynamicEntry S Message → Option ℕ) (self : DynamicSupervisor Key S Message)
    (change : ℕ) : Prop :=
  (∃ key entry, self.services.get? key = some entry ∧ track entry = some change) ∨
    ¬ self.operations.Past change

/-- **A change that is followed no more never is again.** -/
theorem Turn.may {track} (htracks : Tracks track) (h : Turn self event acted)
    (hmay : May track acted.1 change) : May track self change := by
  rcases hmay with ⟨key, after, hafter, hchange⟩ | hcomes
  · rcases h.tracks htracks hafter hchange with ⟨entry, hentry, hthere⟩ | ⟨hissue, -⟩
    · exact .inl ⟨key, entry, hentry, hthere⟩
    · exact .inr fun hpast => lt_irrefl _ (hpast.ne_issue hissue)
  · exact .inr fun hpast => hcomes (h.numbers.past hpast)

/-- **A change that its entry follows no more is spent.** -/
theorem Turn.spent {track} (htracks : Tracks track)
    (hpends : ∀ entry change, track entry = some change → entry.pending = some change)
    (h : Turn self event acted) (hchanges : Changes self) {key entry}
    (hentry : self.services.get? key = some entry) (hpending : entry.pending = some change)
    (hafter : ∀ service, acted.1.services.get? key = some service → track service = none) :
    ¬ May track acted.1 change := by
  have hpast := hchanges.past key entry change hentry hpending
  rintro (⟨other, service, hservice, hchange⟩ | hcomes)
  · rcases h.tracks htracks hservice hchange with ⟨old, hold, hthere⟩ | ⟨hissue, -⟩
    · obtain rfl := hchanges.unique key other entry old change hentry hold hpending
        (hpends old change hthere)
      rw [hafter service hservice] at hchange
      cases hchange
    · exact lt_irrefl _ (hpast.ne_issue hissue)
  · exact hcomes (h.numbers.past hpast)

/-! ### One transition -/

/-- The turn of an entry of a run, when its event was taken. -/
theorem Entry.Valid.taken (h : entry.Valid) :
    ∃ acted, Turn entry.before entry.event acted ∧ acted.1 = entry.after ∧
      ((entry.actions = {} ∧ entry.after = entry.before) ∨
        ∃ actions, acted.2 = .ok actions ∧ entry.actions.lifecycle = actions.lifecycle ∧
          entry.actions.answers = actions.answers) := by
  obtain ⟨acted, hturn, hafter, hresult⟩ := h.turn
  refine ⟨acted, hturn, hafter, ?_⟩
  rcases hresult with ⟨input, herror, hresult⟩ | ⟨actions, hok, hresult⟩
  · exact .inl ⟨by rw [Entry.actions, hresult], hafter ▸ (hturn.handed_back herror).1⟩
  · refine .inr ⟨actions, hok, ?_⟩
    rw [Entry.actions, hresult]
    dsimp only
    split <;> exact ⟨rfl, rfl⟩

theorem Entry.Valid.realizes (h : entry.Valid) (hchanges : Changes entry.before) :
    entry.realizes.Nodup ∧ ∀ change ∈ entry.realizes,
      May DynamicEntry.pending entry.before change ∧
        ¬ May DynamicEntry.pending entry.after change := by
  obtain ⟨acted, hturn, hafter, ⟨hnothing, -⟩ | ⟨actions, hok, hlifecycle, hanswers⟩⟩ := h.taken
  · have hnone : entry.realizes = [] := by
      rw [Entry.realizes, hnothing]
      rfl
    rw [hnone]
    exact ⟨List.nodup_nil, by simp⟩
  · have hrealized := hturn.realizes hchanges hok
    rw [Entry.realizes, hlifecycle, hanswers]
    refine ⟨hrealized.nodup, fun change hchange => ?_⟩
    obtain ⟨key, service, hservice, hpending, hdone⟩ := hrealized.settled change hchange
    refine ⟨.inl ⟨key, service, hservice, hpending⟩, ?_⟩
    rw [← hafter]
    exact hturn.spent tracks_pending (fun _ _ h => h) hchanges hservice hpending hdone

theorem Entry.Valid.succeeds (h : entry.Valid)
    (hchange : change ∈ entry.succeeds) : May DynamicEntry.startable entry.before change := by
  obtain ⟨acted, hturn, hafter, ⟨hnothing, -⟩ | ⟨actions, hok, hlifecycle, -⟩⟩ := h.taken
  · rw [Entry.succeeds, hnothing] at hchange
    cases hchange
  · rw [Entry.succeeds, hlifecycle] at hchange
    exact .inl (hturn.succeeds hok hchange)

theorem Entry.Valid.abandons (h : entry.Valid)
    (hchanges : Changes entry.before) (hchange : change ∈ entry.abandons) :
    ¬ May DynamicEntry.startable entry.after change := by
  obtain ⟨acted, hturn, hafter, ⟨hnothing, -⟩ | ⟨actions, hok, -, hanswers⟩⟩ := h.taken
  · rw [Entry.abandons, hnothing] at hchange
    cases hchange
  · rw [Entry.abandons, hanswers] at hchange
    obtain ⟨key, service, hservice, hpending, hdone⟩ := hturn.abandons hok hchange
    rw [← hafter]
    exact hturn.spent tracks_startable (fun _ _ => DynamicEntry.pending_of_startable) hchanges
      hservice hpending hdone

/-- **What a transition says about the entries that leave**: every entry stays, under its
generation, or is named. -/
structure Entry.Departs (entry : Entry Key S Message) : Prop where
  one : entry.leaves.length ≤ 1
  there : ∀ key generation, (key, generation) ∈ entry.leaves →
    ∃ service, entry.before.services.get? key = some service ∧
      service.generation = generation ∧ entry.after.services.get? key = none
  spoken : ∀ key service, entry.before.services.get? key = some service →
    (key, service.generation) ∈ entry.leaves ∨ ∃ after, entry.after.services.get? key = some after ∧
      after.generation = service.generation

theorem Entry.Valid.departs (h : entry.Valid) : entry.Departs := by
  obtain ⟨acted, hturn, hafter, ⟨hnothing, hsame⟩ | ⟨actions, hok, hlifecycle, -⟩⟩ := h.taken
  · have hnone : entry.leaves = [] := by
      rw [Entry.leaves, hnothing]
      rfl
    refine ⟨by rw [hnone]; simp, fun key generation hmem => ?_, fun key service hservice =>
      .inr ⟨service, hsame ▸ hservice, rfl⟩⟩
    rw [hnone] at hmem
    cases hmem
  · have hspoken : entry.leaves = actions.lifecycle.filterMap (·.leaves) := by
      rw [Entry.leaves, hlifecycle]
    constructor
    · rw [hspoken]
      rcases hturn.leaves hok with hnone | ⟨key, service, -, -, hone⟩
      · rw [hnone]
        simp
      · rw [hone]
        simp
    · intro key generation hmem
      rw [hspoken] at hmem
      rcases hturn.leaves hok with hnone | ⟨other, service, hservice, hgone, hone⟩
      · rw [hnone] at hmem
        cases hmem
      · rw [hone, List.mem_singleton, Prod.mk.injEq] at hmem
        obtain ⟨rfl, rfl⟩ := hmem
        exact ⟨service, hservice, rfl, hafter ▸ hgone⟩
    · intro key service hservice
      rcases h.entry_after hservice with ⟨after, hthere, hmoves⟩ | ⟨hgone, -⟩
      · exact .inr ⟨after, hthere, hmoves.kept_identity.2.1⟩
      · obtain ⟨actions', hok', hone⟩ := hturn.leaves_removed hservice (hafter.symm ▸ hgone)
        obtain rfl := Except.ok.inj (hok.symm.trans hok')
        rw [hspoken, hone]
        exact .inl (List.mem_singleton_self _)

theorem Entry.Valid.leaves (h : entry.Valid)
    (hnumbered : Numbered entry.before.services DynamicEntry.generation entry.before.generations) :
    (entry.leaves.map (·.2)).Nodup ∧ ∀ generation ∈ entry.leaves.map (·.2),
      Numbered.May entry.before.services DynamicEntry.generation entry.before.generations
          generation ∧
        ¬ Numbered.May entry.after.services DynamicEntry.generation entry.after.generations
          generation := by
  have hdeparts := h.departs
  have hone := hdeparts.one
  constructor
  · match entry.leaves, hone with
    | [], _ => exact List.nodup_nil
    | [_], _ => exact List.nodup_singleton _
  · intro generation hmem
    obtain ⟨⟨key, _⟩, hleaves, rfl⟩ := List.mem_map.mp hmem
    obtain ⟨service, hservice, hgeneration, hgone⟩ := hdeparts.there key _ hleaves
    refine ⟨.inl ⟨key, service, hservice, hgeneration⟩, ?_⟩
    dsimp only at hgeneration ⊢
    rw [← hgeneration]
    obtain ⟨acted, hturn, hafter, -⟩ := h.turn
    rw [← hafter] at hgone ⊢
    exact hturn.generations.spent hnumbered hservice hgone

/-! ### Runs -/

/-- **Workers are kept account of, changes are realized once and entries leave once.**  In every run
each worker that came in is in one place: held by an entry, returned with an answer, handed out
with a lifecycle message or sent to a proxy, as often as it came in.  Each accepted change is
realized at most once, and once its cancellation or stop is accepted it never succeeds.  Each
generation leaves the table at most once, and the messages of a transition name exactly the entry
that it removes. -/
theorem worker_custody (config : Config) (events : List (DynamicSupervisorEvent Key S Message)) :
    let journal := run config events
    (journal.supervisor.holds ++ (journal.entries.flatMap (·.actions.returned) ++
        journal.entries.flatMap (·.actions.handed) ++ journal.entries.flatMap (·.actions.sent))
      ~ events.flatMap (·.brings)) ∧
    (journal.entries.flatMap (·.realizes)).Nodup ∧
    (∀ before entry after, journal.entries = before ++ entry :: after →
      ∀ change ∈ entry.abandons, ∀ later ∈ after, change ∉ later.succeeds) ∧
    (journal.entries.flatMap fun entry => entry.leaves.map (·.2)).Nodup ∧
    ∀ entry ∈ journal.entries, entry.Departs := by
  intro journal
  have hcoherent := run_coherent config events
  have hidentified : ∀ entry ∈ journal.entries, Identified entry.before := by
    intro entry hentry
    obtain ⟨before, after, hsplit⟩ := List.append_of_mem hentry
    exact (hcoherent.prior hsplit).identified (identified_new config)
  have hmay : ∀ {track : DynamicEntry S Message → Option ℕ}, Tracks track →
      ∀ entry ∈ journal.entries, ∀ change, May track entry.after change →
        May track entry.before change := by
    intro track htracks entry hentry change hmay
    obtain ⟨acted, hturn, hafter, -⟩ := (hcoherent.valid entry hentry).turn
    rw [← hafter] at hmay
    exact hturn.may htracks hmay
  refine ⟨run_custodies config events, ?_, ?_, ?_, ?_⟩
  · exact (hcoherent.trail.nodup (May DynamicEntry.pending) Entry.realizes
      (hmay tracks_pending) fun entry hentry =>
        (hcoherent.valid entry hentry).realizes (hidentified entry hentry).changes).1
  · intro before entry after hsplit change hchange later hlater hsucceeds
    have hentry : entry ∈ journal.entries := by simp [hsplit]
    have hnot := (hcoherent.valid entry hentry).abandons (hidentified entry hentry).changes hchange
    have hlost := hcoherent.trail.lost (May DynamicEntry.startable)
      (fun other hother => hmay tracks_startable other hother change) hsplit hnot later hlater
    have hthere : later ∈ journal.entries := by simp [hsplit, hlater]
    exact hlost ((hcoherent.valid later hthere).succeeds hsucceeds)
  · refine (hcoherent.trail.nodup (fun self : DynamicSupervisor Key S Message =>
      Numbered.May self.services DynamicEntry.generation self.generations)
      (fun entry => entry.leaves.map (·.2)) ?_ fun entry hentry =>
        (hcoherent.valid entry hentry).leaves (hidentified entry hentry).generations).1
    intro entry hentry generation hmay
    obtain ⟨acted, hturn, hafter, -⟩ := (hcoherent.valid entry hentry).turn
    rw [← hafter] at hmay
    exact hturn.generations.may hmay
  · exact fun entry hentry => (hcoherent.valid entry hentry).departs

end Bombay.Directory
