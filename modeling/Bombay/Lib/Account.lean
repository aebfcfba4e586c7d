/-
# Accounts of what is delivered

Some deliveries take a thing in, some end one that was taken in, and the rest say
nothing about either.  A `Book` says which is which.  An account follows a run of
deliveries: it continues a ledger with what they take in and what they end, so that
what is left is held.  One posting at a time keeps it, and at the end every thing
that was taken in is in one place.
-/

import Bombay.Lib.Ledger
import Bombay.Lib.Sequence

namespace Bombay

open scoped List

variable {α δ : Type*}

theorem forall₂_exists_left {β γ : Type*} {R : β → γ → Prop} {as : List β} {bs : List γ}
    (h : List.Forall₂ R as bs) {b : γ} (hb : b ∈ bs) : ∃ a ∈ as, R a b := by
  induction h with
  | nil => simp at hb
  | @cons a _ as bs hfirst hrest ih =>
    rcases List.mem_cons.mp hb with rfl | hb
    · exact ⟨a, List.mem_cons_self, hfirst⟩
    · obtain ⟨a', ha', hr⟩ := ih hb
      exact ⟨a', List.mem_cons_of_mem _ ha', hr⟩

/-- **What deliveries say about things**: which thing one takes in, whether it ends one,
and which.  A thing is known by a number from a sequence. -/
structure Book (α δ : Type*) where
  key : α → ℕ
  /-- What every thing that is taken in satisfies. -/
  fits : α → Prop
  announces : δ → Option α
  ends : δ → Bool
  about : δ → Option ℕ
  resolves : α → δ → Prop
  ends_of_resolves : ∀ {a d}, resolves a d → ends d = true
  about_of_resolves : ∀ {a d}, resolves a d → about d = some (key a)
  announces_of_ends : ∀ {d}, ends d = true → announces d = none

namespace Book

variable {book : Book α δ} {prior : Ledger book.key} {held held' added resolved : List α}
  {sequence sequence' : Sequence} {outcomes delta : List δ}

/-- The numbers a posting uses up: none, one for nothing, or the one of what it takes in. -/
inductive Admits (book : Book α δ) (sequence : Sequence) : List α → Sequence → Prop
  | nothing : Admits book sequence [] sequence
  | skipped {number rest} (hissue : sequence.issue = some (number, rest)) :
      Admits book sequence [] rest
  | one {a rest} (hfits : book.fits a) (hissue : sequence.issue = some (book.key a, rest)) :
      Admits book sequence [a] rest

/-- **An account of deliveries**: a ledger that continues the prior one with what they take
in and what they end, and holds the rest. -/
def Account (book : Book α δ) (prior : Ledger book.key) (held : List α) (sequence : Sequence)
    (outcomes : List δ) : Prop :=
  ∃ (ledger : Ledger book.key) (resolved : List α),
    ledger.issued = prior.issued ++ outcomes.filterMap book.announces ∧ ledger.held = held ∧
    ledger.settled = prior.settled ++ resolved ∧
    List.Forall₂ book.resolves resolved (outcomes.filter book.ends) ∧
    ∀ a ∈ ledger.issued, book.fits a ∧ sequence.Past (book.key a)

/-- Deliveries that end things take nothing in. -/
theorem filter_of_resolves (book : Book α δ) (h : List.Forall₂ book.resolves resolved delta) :
    delta.filterMap book.announces = [] ∧ delta.filter book.ends = delta := by
  induction h with
  | nil => exact ⟨rfl, rfl⟩
  | cons hfirst hrest ih =>
    have hends := book.ends_of_resolves hfirst
    constructor
    · rw [List.filterMap_cons_none (book.announces_of_ends hends)]
      exact ih.1
    · rw [List.filter_cons_of_pos hends, ih.2]

/-- Numbers stay past, and a new one is known to nobody. -/
theorem Admits.past (h : book.Admits sequence added sequence') {ledger : Ledger book.key}
    (hpast : ∀ a ∈ ledger.issued, book.fits a ∧ sequence.Past (book.key a)) :
    ((ledger.issued ++ added).map book.key).Nodup ∧
      ∀ a ∈ ledger.issued ++ added, book.fits a ∧ sequence'.Past (book.key a) := by
  cases h with
  | nothing =>
    rw [List.append_nil]
    exact ⟨ledger.unique, hpast⟩
  | skipped hissue =>
    rw [List.append_nil]
    exact ⟨ledger.unique, fun a ha => ⟨(hpast a ha).1, (hpast a ha).2.issue hissue⟩⟩
  | @one new _ hfits hissue =>
    constructor
    · rw [List.map_append, List.nodup_append]
      refine ⟨ledger.unique, List.nodup_singleton _, ?_⟩
      intro number hnumber other hother
      obtain ⟨a, ha, rfl⟩ := List.mem_map.mp hnumber
      rw [List.mem_singleton.mp hother]
      exact Nat.ne_of_lt ((hpast a ha).2.ne_issue hissue)
    · intro a ha
      rcases List.mem_append.mp ha with ha | ha
      · exact ⟨(hpast a ha).1, (hpast a ha).2.issue hissue⟩
      · rw [List.mem_singleton.mp ha]
        exact ⟨hfits, Sequence.issue_past hissue⟩

/-- **A posting continues an account.** -/
theorem Account.post (h : book.Account prior held sequence outcomes)
    (hannounced : delta.filterMap book.announces = added)
    (hresolved : List.Forall₂ book.resolves resolved (delta.filter book.ends))
    (hperm : held ++ added ~ held' ++ resolved) (hadmits : book.Admits sequence added sequence') :
    book.Account prior held' sequence' (outcomes ++ delta) := by
  obtain ⟨ledger, settled, hissued, hheld, hsettled, hresolves, hpast⟩ := h
  obtain ⟨hunique, hpast'⟩ := hadmits.past hpast
  refine ⟨ledger.post added held' resolved (hheld ▸ hperm) hunique, settled ++ resolved, ?_, rfl,
    ?_, ?_, hpast'⟩
  · show ledger.issued ++ added = _
    rw [List.filterMap_append, hannounced, hissued, List.append_assoc]
  · show ledger.settled ++ resolved = _
    rw [hsettled, List.append_assoc]
  · rw [List.filter_append]
    exact List.rel_append hresolves hresolved

/-- Deliveries that end everything there is. -/
theorem Account.close (h : book.Account prior held sequence outcomes)
    (hresolved : List.Forall₂ book.resolves held delta) :
    book.Account prior [] sequence (outcomes ++ delta) := by
  obtain ⟨hannounced, hends⟩ := book.filter_of_resolves hresolved
  refine h.post hannounced (hends.symm ▸ hresolved) ?_ .nothing
  rw [List.append_nil, List.nil_append]

/-- Deliveries that neither take in nor end anything, beside things that stay. -/
theorem account_of_quiet (hheld : prior.held = held)
    (hpast : ∀ a ∈ prior.issued, book.fits a ∧ sequence.Past (book.key a))
    (hannounced : outcomes.filterMap book.announces = [])
    (hends : outcomes.filter book.ends = []) : book.Account prior held sequence outcomes := by
  refine ⟨prior, [], ?_, hheld, (List.append_nil _).symm, ?_, hpast⟩
  · rw [hannounced, List.append_nil]
  · rw [hends]
    exact .nil

/-- The things an account knows in one list are held once. -/
theorem Account.nodup (h : book.Account prior held sequence outcomes) :
    (held.map book.key).Nodup ∧ ∀ a ∈ held, book.fits a ∧ sequence.Past (book.key a) := by
  obtain ⟨ledger, settled, -, hheld, -, -, hpast⟩ := h
  subst hheld
  exact ⟨ledger.held_nodup, fun a ha => hpast a (Ledger.mem_issued_of_held ha)⟩

theorem countP_resolved (h : List.Forall₂ book.resolves resolved delta) (number : ℕ) :
    resolved.countP (fun a => book.key a = number)
      = delta.countP fun delivery => book.about delivery = some number := by
  induction h with
  | nil => rfl
  | cons hfirst hrest ih =>
    rw [List.countP_cons, List.countP_cons, ih, book.about_of_resolves hfirst]
    simp

section Custody

variable {ledger : Ledger book.key}
  (hsettled : List.Forall₂ book.resolves ledger.settled (outcomes.filter book.ends))

include hsettled

/-- **Whatever was taken in is held once or was ended once.** -/
theorem once {a : α} (ha : a ∈ ledger.issued) :
    ledger.held.countP (fun b => book.key b = book.key a)
      + (outcomes.filter book.ends).countP (fun d => book.about d = some (book.key a)) = 1 := by
  rw [← countP_resolved hsettled]
  exact ledger.once ha

/-- Nothing is ended twice. -/
theorem ended_le_one (number : ℕ) :
    (outcomes.filter book.ends).countP (fun d => book.about d = some number) ≤ 1 := by
  rw [← countP_resolved hsettled]
  by_cases hmem : ∃ a ∈ ledger.settled, book.key a = number
  · obtain ⟨a, ha, rfl⟩ := hmem
    have honce := ledger.once (Ledger.mem_issued_of_settled ha)
    omega
  · rw [List.countP_eq_zero.mpr]
    · exact Nat.zero_le _
    · intro a ha
      simpa using fun hkey => hmem ⟨a, ha, hkey⟩

/-- A delivery that ends something ends what was taken in under its number. -/
theorem resolves_of_about {a : α} {d : δ} (ha : a ∈ ledger.issued) (hd : d ∈ outcomes)
    (hends : book.ends d = true) (habout : book.about d = some (book.key a)) :
    book.resolves a d := by
  obtain ⟨b, hb, hresolves⟩ := forall₂_exists_left hsettled (List.mem_filter.mpr ⟨hd, hends⟩)
  have hkey : book.key b = book.key a := by
    rw [book.about_of_resolves hresolves] at habout
    exact Option.some.inj habout
  rwa [ledger.eq_of_key (Ledger.mem_issued_of_settled hb) ha hkey] at hresolves

end Custody

end Book
end Bombay
