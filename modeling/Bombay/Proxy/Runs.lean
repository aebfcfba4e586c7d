/-
# Runs of a stable proxy

The entries of a run lead from a new proxy to the present one, every one of them is
a turn of a sound proxy and lawful.  So what was asked for is owed until it is told,
and what is owed was asked for and was not told since.
-/

import Bombay.Proxy.Told

namespace Bombay.Proxy

variable {S : Signature} {Message : Type}

/-- What an entry of a run is: a transition of a sound proxy. -/
structure Entry.Valid (entry : Entry S Message) : Prop where
  sound : Sound entry.before
  turn : Turn entry.before entry.event (entry.after, entry.actions)
  lawful : Lawful entry

theorem StableProxy.entry_valid {proxy} (hsound : Sound proxy) (event : ProxyEvent S Message) :
    (proxy.entry event).Valid :=
  ⟨hsound, transition_turn proxy event, transition_lawful hsound event⟩

theorem Entry.Valid.sound_after {entry : Entry S Message} (h : entry.Valid) : Sound entry.after :=
  h.turn.sound h.sound

/-- A run, as a trail of valid entries. -/
structure Journal.Coherent (first : StableProxy S) (journal : Journal S Message) : Prop where
  trail : Trail Entry.before Entry.after first journal.entries journal.proxy
  sound : Sound journal.proxy
  valid : ∀ entry ∈ journal.entries, entry.Valid

theorem Journal.Coherent.step {first} {journal : Journal S Message} (h : journal.Coherent first)
    (event : ProxyEvent S Message) :
    (journal.step event).Coherent first := by
  have hvalid := StableProxy.entry_valid h.sound event
  refine ⟨h.trail.snoc rfl, hvalid.sound_after, ?_⟩
  intro entry hentry
  rcases List.mem_append.mp hentry with hentry | hentry
  · exact h.valid entry hentry
  · rw [List.mem_singleton.mp hentry]
    exact hvalid

/-- **Every run is coherent.** -/
theorem run_coherent (events : List (ProxyEvent S Message)) : (run events).Coherent .new :=
  run_invariant ⟨.nil, sound_new, by simp⟩ (fun _ event h => h.step event) events

/-- A run that goes on from a given proxy. -/
def StableProxy.resume (proxy : StableProxy S) (events : List (ProxyEvent S Message)) :
    Journal S Message :=
  events.foldl Journal.step ⟨proxy, []⟩

theorem StableProxy.resume_coherent {proxy : StableProxy S} (hsound : Sound proxy)
    (events : List (ProxyEvent S Message)) : (proxy.resume events).Coherent proxy := by
  induction events using List.reverseRecOn with
  | nil => exact ⟨.nil, hsound, by simp [resume]⟩
  | append_singleton events event ih =>
    rw [resume, List.foldl_append]
    exact ih.step event

section Duties

variable {journal : Journal S Message} {before after : List (Entry S Message)}
  {entry : Entry S Message} {due : Due}

/-- The run up to an entry. -/
theorem Journal.Coherent.prior (h : journal.Coherent .new)
    (heq : journal.entries = before ++ entry :: after) :
    (⟨entry.before, before⟩ : Journal S Message).Coherent .new where
  trail := (h.trail.split heq).1
  sound := (h.valid entry (by rw [heq]; simp)).sound
  valid other hother := h.valid other (by rw [heq]; simp [hother])

/-- **What was asked for is still owed, or was told and taken since.** -/
theorem Journal.Coherent.settled (h : journal.Coherent .new)
    (heq : journal.entries = before ++ entry :: after) (hopen : due ∈ entry.opens) :
    due ∈ journal.proxy.state.owes ∨ ∃ later ∈ after, later.closes due :=
  h.trail.settled (fun proxy due => due ∈ proxy.state.owes)
    (fun entry due => due ∈ entry.opens) (fun entry due => entry.closes due)
    (fun entry hentry hopen => (h.valid entry hentry).lawful.opened due hopen)
    (fun entry hentry howed => (h.valid entry hentry).lawful.kept due howed) heq hopen

/-- **What is owed was asked for, and was not told since** other than where it is missed. -/
theorem Journal.Coherent.outstanding (h : journal.Coherent .new)
    (howed : due ∈ journal.proxy.state.owes) :
    ∃ before entry after, journal.entries = before ++ entry :: after ∧ due ∈ entry.opens ∧
      ∀ later ∈ after, due ∈ later.delivers → Missed later.before.state later.event := by
  obtain ⟨before, entry, after, heq, hopen, hclosed⟩ :=
    h.trail.outstanding (fun proxy due => due ∈ proxy.state.owes)
      (fun entry due => due ∈ entry.opens)
      (fun entry due => due ∈ entry.delivers ∧ ¬ Missed entry.before.state entry.event)
      (by simp [StableProxy.new, ProxyState.owes])
      (fun entry hentry howed => by
        rcases (h.valid entry hentry).lawful.known due howed with hopen | ⟨howed, hmissed⟩
        · exact .inl hopen
        · exact .inr ⟨howed, fun hclosed => hclosed.2 (hmissed hclosed.1)⟩)
      howed
  refine ⟨before, entry, after, heq, hopen, fun later hlater htold => ?_⟩
  by_contra hmissed
  exact hclosed later hlater ⟨htold, hmissed⟩

end Duties

end Bombay.Proxy
