/-
# Duties along a trail

A trail is a sequence of entries, each of which leads from one state to the next.
Entries open duties and close them.  When a state owes exactly what is open, two
things hold of every trail: a duty that was opened is still owed or was closed
since, and a duty that is owed was opened and not closed since.  A permission that
is used up and never comes back is used once.
-/

import Mathlib.Algebra.Ring.Nat
import Mathlib.Data.List.Nodup

namespace Bombay

variable {σ ε δ : Type*}

/-- **Entries that lead from `first` to a last state**, one after the other. -/
inductive Trail (source target : ε → σ) (first : σ) : List ε → σ → Prop
  | nil : Trail source target first [] first
  | snoc {entries : List ε} {last : σ} {entry : ε} (htrail : Trail source target first entries last)
      (hsource : source entry = last) :
      Trail source target first (entries ++ [entry]) (target entry)

namespace Trail

variable {source target : ε → σ} {first last : σ} {entries before after : List ε} {entry : ε}
  (h : Trail source target first entries last)

include h

/-- A trail splits at every entry. -/
theorem split (heq : entries = before ++ entry :: after) :
    Trail source target first before (source entry) ∧
      Trail source target (target entry) after last := by
  induction h generalizing after with
  | nil => simp at heq
  | @snoc entries last latest htrail hsource ih =>
    rcases List.eq_nil_or_concat after with rfl | ⟨rest, final, rfl⟩
    · obtain ⟨rfl, hlatest⟩ := List.append_inj' heq rfl
      obtain rfl := List.singleton_inj.mp hlatest
      exact ⟨hsource ▸ htrail, .nil⟩
    · have hrest : entries = before ++ entry :: rest ∧ latest = final := by
        have heq' : entries ++ [latest] = (before ++ entry :: rest) ++ [final] := by
          rw [heq]
          simp
        exact ⟨(List.append_inj' heq' rfl).1, List.singleton_inj.mp (List.append_inj' heq' rfl).2⟩
      obtain ⟨hbefore, hafter⟩ := ih hrest.1
      refine ⟨hbefore, ?_⟩
      rw [List.concat_eq_append, ← hrest.2]
      exact hafter.snoc hsource

/-- What every entry keeps holds at the end. -/
theorem invariant {P : σ → Prop} (hfirst : P first)
    (hkeeps : ∀ entry ∈ entries, P (source entry) → P (target entry)) : P last := by
  induction h with
  | nil => exact hfirst
  | @snoc entries last latest htrail hsource ih =>
    refine hkeeps latest (by simp) ?_
    rw [hsource]
    exact ih fun entry hentry => hkeeps entry (by simp [hentry])

/-- **What an entry establishes and every entry keeps holds ever since.** -/
theorem since {P : σ → Prop}
    (hkeeps : ∀ entry ∈ entries, P (source entry) → P (target entry))
    (hentry : entry ∈ entries) (hthen : P (target entry)) : P last := by
  obtain ⟨before, after, rfl⟩ := List.append_of_mem hentry
  exact (h.split rfl).2.invariant hthen fun later hlater => hkeeps later (by simp [hlater])

section Duties

variable (owes : σ → δ → Prop) (opens closes : ε → δ → Prop) {duty : δ}

/-- **A duty that was opened is still owed, or was closed since.** -/
theorem settled
    (hopens : ∀ entry ∈ entries, opens entry duty → owes (target entry) duty)
    (hkeeps : ∀ entry ∈ entries, owes (source entry) duty →
      owes (target entry) duty ∨ closes entry duty)
    (heq : entries = before ++ entry :: after) (hopen : opens entry duty) :
    owes last duty ∨ ∃ later ∈ after, closes later duty := by
  obtain ⟨-, hafter⟩ := h.split heq
  have howed : owes (target entry) duty := hopens entry (by simp [heq]) hopen
  have hmem : ∀ later ∈ after, later ∈ entries := fun later hlater => by simp [heq, hlater]
  clear heq h hopen
  generalize target entry = from' at hafter howed
  induction hafter with
  | nil => exact .inl howed
  | @snoc after last latest htrail hsource ih =>
    rcases ih (fun later hlater => hmem later (by simp [hlater])) with howed | hclosed
    · rcases hkeeps latest (hmem latest (by simp)) (hsource ▸ howed) with howed | hclosed
      · exact .inl howed
      · exact .inr ⟨latest, by simp, hclosed⟩
    · obtain ⟨later, hlater, hclosed⟩ := hclosed
      exact .inr ⟨later, by simp [hlater], hclosed⟩

/-- **A duty that is owed was opened, and not closed since.** -/
theorem outstanding (hfirst : ¬ owes first duty)
    (hback : ∀ entry ∈ entries, owes (target entry) duty →
      opens entry duty ∨ owes (source entry) duty ∧ ¬ closes entry duty)
    (howed : owes last duty) :
    ∃ before entry after, entries = before ++ entry :: after ∧ opens entry duty ∧
      ∀ later ∈ after, ¬ closes later duty := by
  induction h with
  | nil => exact absurd howed hfirst
  | @snoc entries last latest htrail hsource ih =>
    rcases hback latest (by simp) howed with hopen | ⟨howed, hclosed⟩
    · exact ⟨entries, latest, [], rfl, hopen, by simp⟩
    · obtain ⟨before, entry, after, rfl, hopen, hnot⟩ :=
        ih (fun entry hentry => hback entry (by simp [hentry])) (hsource ▸ howed)
      refine ⟨before, entry, after ++ [latest], by simp, hopen, ?_⟩
      intro later hlater
      rcases List.mem_append.mp hlater with hlater | hlater
      · exact hnot later hlater
      · rw [List.mem_singleton.mp hlater]
        exact hclosed

end Duties

/-- **What needs a permission that never comes back, and uses it up, happens once.** -/
theorem nodup (may : σ → δ → Prop) (acts : ε → List δ)
    (hmay : ∀ entry ∈ entries, ∀ act, may (target entry) act → may (source entry) act)
    (hacts : ∀ entry ∈ entries, (acts entry).Nodup ∧
      ∀ act ∈ acts entry, may (source entry) act ∧ ¬ may (target entry) act) :
    (entries.flatMap acts).Nodup ∧ ∀ act ∈ entries.flatMap acts, ¬ may last act := by
  induction h with
  | nil => simp
  | @snoc entries last latest htrail hsource ih =>
    obtain ⟨hnodup, hused⟩ := ih (fun entry hentry => hmay entry (by simp [hentry]))
      fun entry hentry => hacts entry (by simp [hentry])
    obtain ⟨hlatest, hneeds⟩ := hacts latest (by simp)
    rw [List.flatMap_append, List.flatMap_singleton]
    constructor
    · refine List.Nodup.append hnodup hlatest fun act hearlier hlater => ?_
      exact hused act hearlier (hsource ▸ (hneeds act hlater).1)
    · intro act hact
      rcases List.mem_append.mp hact with hearlier | hlater
      · exact fun hlast => hused act hearlier (hsource ▸ hmay latest (by simp) act hlast)
      · exact (hneeds act hlater).2

/-- **A budget along a trail**: what every entry spends is covered by what it takes from the state
and what it adds. -/
theorem budget (funds : σ → ℕ) (spends adds : ε → ℕ)
    (hentries : ∀ entry ∈ entries,
      spends entry + funds (target entry) ≤ funds (source entry) + adds entry) :
    (entries.map spends).sum + funds last ≤ funds first + (entries.map adds).sum := by
  induction h with
  | nil => simp
  | @snoc entries last latest htrail hsource ih =>
    have hearlier := ih fun entry hentry => hentries entry (by simp [hentry])
    have hlatest := hentries latest (by simp)
    rw [hsource] at hlatest
    simp only [List.map_append, List.sum_append, List.map_cons, List.map_nil, List.sum_cons,
      List.sum_nil]
    omega

/-- **Conservation along a trail**: when every entry hands on what it finds and takes, what the last
state holds and what was given away is what the first state held and what was taken. -/
theorem conserved (holds : σ → List δ) (takes gives : ε → List δ)
    (hentries : ∀ entry ∈ entries,
      (holds (target entry) ++ gives entry).Perm (holds (source entry) ++ takes entry)) :
    (holds last ++ entries.flatMap gives).Perm (holds first ++ entries.flatMap takes) := by
  induction h with
  | nil => exact List.Perm.refl _
  | @snoc entries last latest htrail hsource ih =>
    have hearlier := ih fun entry hentry => hentries entry (by simp [hentry])
    have hlatest := hentries latest (by simp)
    rw [hsource] at hlatest
    simp only [List.flatMap_append, List.flatMap_singleton]
    have hgiven : (holds (target latest) ++ (entries.flatMap gives ++ gives latest)).Perm
        (entries.flatMap gives ++ (holds last ++ takes latest)) :=
      (List.perm_append_comm_assoc ..).trans (hlatest.append_left _)
    have htaken : (entries.flatMap gives ++ (holds last ++ takes latest)).Perm
        (holds first ++ (entries.flatMap takes ++ takes latest)) := by
      rw [← List.append_assoc (holds first)]
      refine (List.perm_append_comm_assoc ..).trans ?_
      rw [← List.append_assoc]
      exact hearlier.append_right (takes latest)
    exact hgiven.trans htaken

/-- **What an entry establishes and every entry keeps holds before every later one.** -/
theorem afterwards {P : σ → Prop}
    (hkeeps : ∀ entry ∈ entries, P (source entry) → P (target entry))
    (heq : entries = before ++ entry :: after) (hthen : P (target entry)) :
    ∀ later ∈ after, P (source later) := by
  intro later hlater
  obtain ⟨between, rest, rfl⟩ := List.append_of_mem hlater
  have hbetween := ((h.split heq).2.split rfl).1
  exact hbetween.invariant hthen fun other hother => hkeeps other (by simp [heq, hother])

/-- **A permission that never comes back and is lost at an entry is used by no later one.** -/
theorem lost (may : σ → δ → Prop) {act : δ}
    (hmay : ∀ entry ∈ entries, may (target entry) act → may (source entry) act)
    (heq : entries = before ++ entry :: after) (hlost : ¬ may (target entry) act) :
    ∀ later ∈ after, ¬ may (source later) act :=
  h.afterwards (P := fun state => ¬ may state act)
    (fun entry hentry hnot hmay' => hnot (hmay entry hentry hmay')) heq hlost

end Trail
end Bombay
