/-
# Runs of a dynamic supervisor

The entries of a run lead from a new supervisor to the present one, and every one of
them is a turn of a sound supervisor with the last step applied to it.
-/

import Bombay.Directory.Sound

namespace Bombay.Directory

open DynamicSupervisor

variable {Key : Type} [LinearOrder Key] {S : Signature} {Message : Type}

/-! ### The last step -/

@[simp] theorem applyShutdownStep_fst (acted : Acted Key S Message) :
    (applyShutdownStep acted).1 = acted.1 := by
  obtain ⟨self, result⟩ := acted
  cases result <;> rfl

/-! ### Entries -/

/-- What an entry of a run is: a transition of a sound supervisor. -/
structure Entry.Valid (entry : Entry Key S Message) : Prop where
  sound : Sound entry.before
  moves : entry = entry.before.entry entry.event

theorem DynamicSupervisor.entry_valid {self} (hsound : Sound self)
    (event : DynamicSupervisorEvent Key S Message) :
    (self.entry event).Valid :=
  ⟨hsound, rfl⟩

variable {entry : Entry Key S Message}

/-- The turn of an entry, with the lanes of its actions. -/
theorem Entry.Valid.turn (h : entry.Valid) :
    ∃ acted, Turn entry.before entry.event acted ∧ acted.1 = entry.after ∧
      ((∃ input, acted.2 = .error input ∧ entry.result = .error input) ∨
        ∃ actions, acted.2 = .ok actions ∧ entry.result
          = .ok (if entry.after.finished then { actions with step := .stop } else actions)) := by
  obtain ⟨acted, hturn, heq⟩ := transition_turn entry.before entry.event
  have hafter : entry.after = acted.1 := by
    rw [h.moves, DynamicSupervisor.entry, heq, applyShutdownStep_fst]
  have hresult : entry.result = (applyShutdownStep acted).2 := by
    rw [h.moves, DynamicSupervisor.entry, heq]
  refine ⟨acted, hturn, hafter.symm, ?_⟩
  rw [hafter, hresult]
  obtain ⟨self, result⟩ := acted
  cases result with
  | error input => exact .inl ⟨input, rfl, rfl⟩
  | ok actions => exact .inr ⟨actions, rfl, rfl⟩

theorem Entry.Valid.sound_after (h : entry.Valid) :
    Sound entry.after := by
  obtain ⟨acted, hturn, hafter, -⟩ := h.turn
  rw [← hafter]
  exact hturn.sound h.sound

/-- **An entry of the table goes on, or is removed by a step that leaves nothing of it.** -/
theorem Entry.Valid.entry_after (h : entry.Valid) {key service}
    (hservice : entry.before.services.get? key = some service) :
    (∃ after, entry.after.services.get? key = some after ∧
        Evolves key entry.event service after) ∨
      entry.after.services.get? key = none ∧ ∃ heap outcome,
        Steps key heap entry.event service outcome ∧ outcome.after = none ∧
          entry.actions.lifecycle = outcome.lifecycle := by
  obtain ⟨acted, hturn, hafter, hresult⟩ := h.turn
  rcases hturn.entry_after hservice with hgoes | ⟨hgone, outcome, actions, hstep, hnone, hok, hspoken⟩
  · exact .inl (hafter ▸ hgoes)
  · refine .inr ⟨hafter ▸ hgone, entry.before.heap, outcome, hstep, hnone, ?_⟩
    rcases hresult with ⟨input, herror, -⟩ | ⟨actions', hok', hresult⟩
    · rw [hok] at herror
      cases herror
    · obtain rfl := Except.ok.inj (hok.symm.trans hok')
      rw [Entry.actions, hresult, ← hspoken]
      dsimp only
      split <;> rfl

/-- **An entry of the table was there before, or was begun with a new creation.** -/
theorem Entry.Valid.entry_before (h : entry.Valid) {key after}
    (hafter : entry.after.services.get? key = some after) :
    (∃ service, entry.before.services.get? key = some service ∧
        Evolves key entry.event service after) ∨
      (∃ submission replyTo, entry.event = .command (.start key submission replyTo) ∧
          after.phase = .creatingProxy submission) ∧
        (∃ drain, entry.after.availability = .accepting drain) ∧
        entry.before.creations.issue = some (after.creation, entry.after.creations) := by
  obtain ⟨acted, hturn, hsame, -⟩ := h.turn
  rw [← hsame] at hafter ⊢
  exact hturn.entry_before hafter

theorem Entry.Valid.past (h : entry.Valid) {creation}
    (hpast : entry.before.creations.Past creation) : entry.after.creations.Past creation := by
  obtain ⟨acted, hturn, hafter, -⟩ := h.turn
  rw [← hafter]
  rcases hturn.creations with heq | ⟨fresh, hissue⟩
  · rw [heq]
    exact hpast
  · exact hpast.issue hissue

/-! ### Runs -/

/-- A run, as a trail of valid entries. -/
structure Journal.Coherent (first : DynamicSupervisor Key S Message)
    (journal : Journal Key S Message) : Prop where
  trail : Trail Entry.before Entry.after first journal.entries journal.supervisor
  sound : Sound journal.supervisor
  valid : ∀ entry ∈ journal.entries, entry.Valid

theorem Journal.Coherent.step {first} {journal : Journal Key S Message} (h : journal.Coherent first)
    (event : DynamicSupervisorEvent Key S Message) : (journal.step event).Coherent first := by
  have hvalid := DynamicSupervisor.entry_valid h.sound event
  refine ⟨h.trail.snoc rfl, hvalid.sound_after, ?_⟩
  intro entry hentry
  rcases List.mem_append.mp hentry with hentry | hentry
  · exact h.valid entry hentry
  · rw [List.mem_singleton.mp hentry]
    exact hvalid

/-- A run that goes on from a given supervisor. -/
def DynamicSupervisor.resume (self : DynamicSupervisor Key S Message)
    (events : List (DynamicSupervisorEvent Key S Message)) : Journal Key S Message :=
  events.foldl Journal.step ⟨self, []⟩

theorem DynamicSupervisor.resume_snoc (self : DynamicSupervisor Key S Message)
    (events : List (DynamicSupervisorEvent Key S Message))
    (event : DynamicSupervisorEvent Key S Message) :
    self.resume (events ++ [event]) = (self.resume events).step event := by
  rw [resume, List.foldl_append]
  rfl

theorem DynamicSupervisor.resume_coherent {self : DynamicSupervisor Key S Message}
    (hsound : Sound self) (events : List (DynamicSupervisorEvent Key S Message)) :
    (self.resume events).Coherent self := by
  induction events using List.reverseRecOn with
  | nil => exact ⟨.nil, hsound, by simp [resume]⟩
  | append_singleton events event ih =>
    rw [resume_snoc]
    exact ih.step event

/-- **Every run is coherent.** -/
theorem run_coherent (config : Config) (events : List (DynamicSupervisorEvent Key S Message)) :
    (run config events).Coherent (.new config) :=
  DynamicSupervisor.resume_coherent (sound_new config) events

/-- The run up to an entry. -/
theorem Journal.Coherent.prior {first} {journal : Journal Key S Message} {before after}
    (h : journal.Coherent first) (heq : journal.entries = before ++ entry :: after) :
    (⟨entry.before, before⟩ : Journal Key S Message).Coherent first where
  trail := (h.trail.split heq).1
  sound := (h.valid entry (by rw [heq]; simp)).sound
  valid other hother := h.valid other (by rw [heq]; simp [hother])

/-! ### A run -/

/-- One service at a time, and no deadline. -/
def single : Config := ⟨⟨1, Nat.one_pos⟩, ⟨1, Nat.one_pos⟩, .keepEmpty, .waitForActorGraph⟩

/-- A service is started and becomes ready. -/
def started : List (DynamicSupervisorEvent ℕ numbers Unit) :=
  [.command (.start 3 ⟨(), ()⟩ (9 : ℕ)),
    .proxyCreationsSettled (.settled [.attempted (.accepted (.established 1 .birth (7 : ℕ)))]),
    .proxyInputSettled (.attempted (.accepted ⟨1, (7 : ℕ), 0⟩)),
    .proxyReported ⟨1, .initial (.resolved (.ready ⟨1, 0⟩ ()))⟩]

end Bombay.Directory
