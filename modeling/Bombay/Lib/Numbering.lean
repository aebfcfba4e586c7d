/-
# Numbered entries

The values of a map carry numbers from a sequence that never repeats.  A step keeps the
numbers that are there, or gives the next one to a single key.  Then distinct keys keep
distinct numbers, all of them issued, and a number that has left never comes back.  Along a trail
no number is issued twice (`Trail.issued_nodup`).
-/

import Bombay.Lib.Duty
import Bombay.Lib.OrderedMap
import Bombay.Lib.Sequence

namespace Bombay

variable {K V : Type} [LinearOrder K]

/-- **Distinct keys have distinct numbers**, all of them issued. -/
structure Numbered (map : OrderedMap K V) (number : V → ℕ) (sequence : Sequence) : Prop where
  distinct : ∀ key other value value', map.get? key = some value → map.get? other = some value' →
    number value = number value' → key = other
  past : ∀ key value, map.get? key = some value → sequence.Past (number value)

/-- Every value after a step has the number that its key had before. -/
def Inherits (map map' : OrderedMap K V) (number : V → ℕ) (key : K) : Prop :=
  ∀ value, map'.get? key = some value →
    ∃ old, map.get? key = some old ∧ number value = number old

/-- **What a step does to the numbers**: every key keeps its own, or one key is given the next. -/
inductive Renumbers (map map' : OrderedMap K V) (number : V → ℕ) (now later : Sequence) : Prop
  | kept (hsame : later = now) (hkeeps : ∀ key, Inherits map map' number key)
  | given (fresh : K) (next : ℕ) (hissue : now.issue = some (next, later))
      (hfresh : ∀ value, map'.get? fresh = some value → number value = next)
      (hkeeps : ∀ key, key ≠ fresh → Inherits map map' number key)

namespace Renumbers

variable {map map' : OrderedMap K V} {number : V → ℕ} {now later : Sequence}

/-- Past numbers stay past. -/
theorem past (h : Renumbers map map' number now later) {value : ℕ} (hpast : now.Past value) :
    later.Past value := by
  cases h with
  | kept hsame hkeeps => rwa [hsame]
  | given fresh next hissue hfresh hkeeps => exact hpast.issue hissue

/-- **A number after a step was there before, under its key, or is the one that is issued.** -/
theorem before (h : Renumbers map map' number now later) {key : K} {value : V}
    (hvalue : map'.get? key = some value) :
    (∃ old, map.get? key = some old ∧ number value = number old) ∨
      now.issue = some (number value, later) := by
  cases h with
  | kept hsame hkeeps => exact .inl (hkeeps key value hvalue)
  | given fresh next hissue hfresh hkeeps =>
    by_cases hkey : key = fresh
    · right
      rw [hfresh value (hkey ▸ hvalue)]
      exact hissue
    · exact .inl (hkeeps key hkey value hvalue)

/-- **A step keeps the numbers apart.** -/
theorem numbered (h : Renumbers map map' number now later) (hnumbered : Numbered map number now) :
    Numbered map' number later := by
  constructor
  · cases h with
    | kept hsame hkeeps =>
      intro key other value value' hvalue hvalue' heq
      obtain ⟨old, hold, hnumber⟩ := hkeeps key value hvalue
      obtain ⟨old', hold', hnumber'⟩ := hkeeps other value' hvalue'
      exact hnumbered.distinct key other old old' hold hold' (hnumber ▸ hnumber' ▸ heq)
    | given fresh next hissue hfresh hkeeps =>
      have hless : ∀ key value, key ≠ fresh → map'.get? key = some value → number value < next := by
        intro key value hkey hvalue
        obtain ⟨old, hold, hnumber⟩ := hkeeps key hkey value hvalue
        rw [hnumber]
        exact (hnumbered.past key old hold).ne_issue hissue
      intro key other value value' hvalue hvalue' heq
      by_cases hkey : key = fresh
      · subst hkey
        by_contra hother
        have hlt := hless other value' (Ne.symm hother) hvalue'
        rw [← heq, hfresh value hvalue] at hlt
        exact lt_irrefl _ hlt
      · by_cases hother : other = fresh
        · subst hother
          have hlt := hless key value hkey hvalue
          rw [heq, hfresh value' hvalue'] at hlt
          exact absurd hlt (lt_irrefl _)
        · obtain ⟨old, hold, hnumber⟩ := hkeeps key hkey value hvalue
          obtain ⟨old', hold', hnumber'⟩ := hkeeps other hother value' hvalue'
          exact hnumbered.distinct key other old old' hold hold' (hnumber ▸ hnumber' ▸ heq)
  · intro key value hvalue
    rcases h.before hvalue with ⟨old, hold, hnumber⟩ | hissue
    · rw [hnumber]
      exact h.past (hnumbered.past key old hold)
    · exact Sequence.issue_past hissue

end Renumbers

/-- The number is that of a key, or is still to come. -/
def Numbered.May (map : OrderedMap K V) (number : V → ℕ) (sequence : Sequence) (value : ℕ) : Prop :=
  (∃ key there, map.get? key = some there ∧ number there = value) ∨ ¬ sequence.Past value

variable {map map' : OrderedMap K V} {number : V → ℕ}

/-- **A number that has left never comes back.** -/
theorem Renumbers.may {now later : Sequence} (h : Renumbers map map' number now later) {value : ℕ}
    (hmay : Numbered.May map' number later value) : Numbered.May map number now value := by
  rcases hmay with ⟨key, there, hthere, rfl⟩ | hcomes
  · rcases h.before hthere with ⟨old, hold, hnumber⟩ | hissue
    · exact .inl ⟨key, old, hold, hnumber.symm⟩
    · exact .inr fun hpast => lt_irrefl _ (hpast.ne_issue hissue)
  · exact .inr fun hpast => hcomes (h.past hpast)

/-- **A number whose key is gone is spent.** -/
theorem Renumbers.spent {now later : Sequence}
    (h : Renumbers map map' number now later) (hnumbered : Numbered map number now) {key : K}
    {value : V} (hvalue : map.get? key = some value) (hgone : map'.get? key = none) :
    ¬ Numbered.May map' number later (number value) := by
  have hpast := hnumbered.past key value hvalue
  rintro (⟨other, there, hthere, hsame⟩ | hcomes)
  · rcases h.before hthere with ⟨old, hold, hnumber⟩ | hissue
    · obtain rfl := hnumbered.distinct key other value old hvalue hold
        (hsame.symm.trans hnumber)
      rw [hgone] at hthere
      cases hthere
    · rw [hsame] at hissue
      exact lt_irrefl _ (hpast.ne_issue hissue)
  · exact hcomes (h.past hpast)

/-! ### What a step issues -/

namespace Sequence

/-- The number that a step issues, if it issues one. -/
def issued (now later : Sequence) : List ℕ := if later = now then [] else now.next.toList

/-- A step leaves a sequence as it is, or issues one number. -/
def Advances (now later : Sequence) : Prop := later = now ∨ ∃ next, now.issue = some (next, later)

variable {now later : Sequence}

theorem issued_self (sequence : Sequence) : sequence.issued sequence = [] := if_pos rfl

/-- A number that is handed out is the one that is issued. -/
theorem issued_of_issue {next : ℕ} (h : now.issue = some (next, later)) :
    now.issued later = [next] := by
  have hchanged : later ≠ now := by
    rintro rfl
    exact lt_irrefl _ (issue_past h next (issue_next h))
  rw [issued, if_neg hchanged, issue_next h]
  rfl

/-- Past numbers stay past. -/
theorem Advances.past (h : now.Advances later) {value : ℕ} (hpast : now.Past value) :
    later.Past value := by
  rcases h with rfl | ⟨next, hissue⟩
  · exact hpast
  · exact hpast.issue hissue

/-- **A number that is issued was still to come, and is past.** -/
theorem Advances.issued (h : now.Advances later) :
    (now.issued later).Nodup ∧ ∀ value ∈ now.issued later, ¬ now.Past value ∧ later.Past value := by
  rcases h with rfl | ⟨next, hissue⟩
  · rw [issued_self]
    exact ⟨List.nodup_nil, fun _ hvalue => absurd hvalue List.not_mem_nil⟩
  · rw [issued_of_issue hissue]
    refine ⟨List.nodup_singleton _, fun value hvalue => ?_⟩
    rw [List.mem_singleton.mp hvalue]
    exact ⟨fun hpast => lt_irrefl _ (hpast.ne_issue hissue), issue_past hissue⟩

end Sequence

/-- **No number is issued twice along a trail.** -/
theorem Trail.issued_nodup {σ ε : Type*} {source target : ε → σ} {first last : σ} {entries : List ε}
    (number : σ → Sequence) (h : Trail source target first entries last)
    (hadvances : ∀ entry ∈ entries, (number (source entry)).Advances (number (target entry))) :
    (entries.flatMap fun entry =>
      (number (source entry)).issued (number (target entry))).Nodup := by
  refine (h.nodup (fun state value => ¬ (number state).Past value) _ ?_ ?_).1
  · intro entry hentry value hcomes hpast
    exact hcomes ((hadvances entry hentry).past hpast)
  · intro entry hentry
    obtain ⟨hnodup, hissued⟩ := (hadvances entry hentry).issued
    exact ⟨hnodup, fun value hvalue =>
      ⟨(hissued value hvalue).1, fun hnot => hnot (hissued value hvalue).2⟩⟩

/-- A step that renumbers a map advances its sequence. -/
theorem Renumbers.advances {now later : Sequence}
    (h : Renumbers map map' number now later) : now.Advances later := by
  cases h with
  | kept hsame hkeeps => exact .inl hsame
  | given fresh next hissue hfresh hkeeps => exact .inr ⟨next, hissue⟩

end Bombay
