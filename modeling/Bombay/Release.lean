/-
# What a restart release grants

`RestartRelease::calculate` of `crates/actors/src/templates/restart.rs`.  The uncapped
product is computed first and the maximum is taken of it afterwards, so a product that
no `Duration` can hold is refused, also where the maximum lies far below it
(`exponential_refused`).  Everywhere else the delay is the capped product, and delays
never fall as the ordinal grows (`release_law`).

A `Duration` is its number of nanoseconds; its whole seconds are a `u64`.
-/

import Bombay.Restart

namespace Bombay

/-- A `Duration` of this many nanoseconds exists. -/
def Representable (nanoseconds : ℕ) : Prop := nanoseconds / 1000000000 < 2 ^ 64

instance : DecidablePred Representable := fun _ => Nat.decLt _ _

theorem Representable.mono {shorter longer} (h : Representable longer) (hle : shorter ≤ longer) :
    Representable shorter :=
  lt_of_le_of_lt (Nat.div_le_div_right hle) h

/-- **The checks of `multiply` come down to one**: the product fits a `Duration`. -/
theorem multiply_eq (duration factor : ℕ) :
    multiply duration factor =
      if Representable (duration * factor) then .ok (duration * factor)
      else .error .durationOverflow := by
  by_cases hfits : Representable (duration * factor)
  · have hnarrow : duration * factor < 2 ^ 128 := by
      unfold Representable at hfits
      omega
    rw [if_pos hfits, multiply, if_pos hnarrow]
    exact if_pos hfits
  · rw [if_neg hfits, multiply]
    split
    · exact if_neg hfits
    · rfl

namespace RestartRelease

/-- The delay of an uncapped product under a maximum. -/
def capped (product maximum : ℕ) : Except RestartReleaseFailure RecoveryRelease :=
  if Representable product then .ok (.delayed (min product maximum)) else .error .durationOverflow

variable {initial maximum : ℕ} {release : RestartRelease}

/-- A schedule that grows is built of the delays as they were given. -/
theorem growth_ok {build : { d : ℕ × ℕ // 0 < d.1 ∧ d.1 ≤ d.2 } → RestartRelease}
    (h : (growth initial maximum >>= fun grown => .ok (build grown)) = .ok release) :
    ∃ hgrown, release = build ⟨(initial, maximum), hgrown⟩ := by
  by_cases hzero : initial = 0
  · rw [growth, positive, dif_pos hzero] at h
    cases h
  · rw [growth, positive, dif_neg hzero] at h
    by_cases hbelow : maximum < initial
    · simp only [bind, Except.bind, dif_pos hbelow] at h
      cases h
    · simp only [bind, Except.bind, dif_neg hbelow] at h
      cases h
      exact ⟨_, rfl⟩

theorem linear_ok (h : linear initial maximum = .ok release) :
    release.schedule = .linear initial maximum ∧ 0 < initial := by
  obtain ⟨hgrown, rfl⟩ := growth_ok h
  exact ⟨rfl, hgrown.1⟩

theorem exponential_ok (h : exponential initial maximum = .ok release) :
    release.schedule = .exponential initial maximum ∧ 0 < initial := by
  obtain ⟨hgrown, rfl⟩ := growth_ok h
  exact ⟨rfl, hgrown.1⟩

theorem calculate_linear (h : release.schedule = .linear initial maximum) (ordinal : ℕ) :
    release.calculate ordinal = capped (initial * ordinal) maximum := by
  unfold calculate capped
  rw [h]
  simp only [multiply_eq]
  split <;> rfl

/-- A shift of `128` or more is refused, as the product is. -/
theorem calculate_exponential
    (h : release.schedule = .exponential initial maximum) (hpositive : 0 < initial) (ordinal : ℕ) :
    release.calculate ordinal = capped (initial * 2 ^ (ordinal - 1)) maximum := by
  unfold calculate capped
  rw [h]
  simp only [multiply_eq]
  split
  · split <;> rfl
  · rename_i hshift
    rw [if_neg]
    have hpower : 2 ^ 128 ≤ 2 ^ (ordinal - 1) := Nat.pow_le_pow_right (by omega) (by omega)
    have hproduct : 2 ^ 128 ≤ initial * 2 ^ (ordinal - 1) :=
      hpower.trans (Nat.le_mul_of_pos_left _ hpositive)
    have hle := Nat.div_le_div_right (c := 1000000000) hproduct
    unfold Representable
    omega

/-- **A longer product is granted no shorter delay**, and what is granted under it was granted
before. -/
theorem capped_mono {shorter longer delay} (hle : shorter ≤ longer)
    (h : capped longer maximum = .ok (.delayed delay)) :
    ∃ sooner ≤ delay, capped shorter maximum = .ok (.delayed sooner) := by
  unfold capped at h ⊢
  split at h
  · rename_i hfits
    cases h
    exact ⟨min shorter maximum, inf_le_inf_right maximum hle, if_pos (hfits.mono hle)⟩
  · cases h

/-- **What a growing schedule grants**: the capped product of every ordinal whose uncapped product
is a `Duration`, an overflow refusal for every other ordinal, and never less for a later one. -/
theorem release_law {initial maximum : ℕ} {linearly exponentially : RestartRelease}
    (hlinear : linear initial maximum = .ok linearly)
    (hexponential : exponential initial maximum = .ok exponentially) :
    (∀ ordinal, linearly.calculate ordinal =
      if Representable (initial * ordinal) then .ok (.delayed (min (initial * ordinal) maximum))
      else .error .durationOverflow) ∧
    (∀ ordinal, exponentially.calculate ordinal =
      if Representable (initial * 2 ^ (ordinal - 1)) then
        .ok (.delayed (min (initial * 2 ^ (ordinal - 1)) maximum))
      else .error .durationOverflow) ∧
    ∀ release, (release = linearly ∨ release = exponentially) →
      ∀ earlier later delay, earlier ≤ later →
        release.calculate later = .ok (.delayed delay) →
          ∃ sooner ≤ delay, release.calculate earlier = .ok (.delayed sooner) := by
  obtain ⟨hlinearly, -⟩ := linear_ok hlinear
  obtain ⟨hexponentially, hpositive⟩ := exponential_ok hexponential
  have hgrows := calculate_linear hlinearly
  have hdoubles := calculate_exponential hexponentially hpositive
  refine ⟨hgrows, hdoubles, ?_⟩
  rintro release (rfl | rfl) earlier later delay hle hdelay
  · rw [hgrows] at hdelay ⊢
    exact capped_mono (Nat.mul_le_mul_left initial hle) hdelay
  · rw [hdoubles] at hdelay ⊢
    refine capped_mono (Nat.mul_le_mul_left initial ?_) hdelay
    exact Nat.pow_le_pow_right Nat.two_pos (Nat.sub_le_sub_right hle 1)

/-- The releases of `linear` and `exponential` with one second initially and at most a minute. -/
theorem release_law_minute :
    (RestartRelease.mk (.linear 1000000000 60000000000) ⟨by decide, by decide⟩).calculate 100 =
      .ok (.delayed 60000000000) ∧
    (RestartRelease.mk (.exponential 1000000000 60000000000) ⟨by decide, by decide⟩).calculate 100 =
      .error .durationOverflow := by
  have hlinearly : linear 1000000000 60000000000 =
      .ok ⟨.linear 1000000000 60000000000, by decide, by decide⟩ := rfl
  have hexponentially : exponential 1000000000 60000000000 =
      .ok ⟨.exponential 1000000000 60000000000, by decide, by decide⟩ := rfl
  obtain ⟨hlinear, hexponential, -⟩ := release_law hlinearly hexponentially
  exact ⟨(hlinear 100).trans (by decide), (hexponential 100).trans (by decide)⟩

/-- **A schedule that should have saturated is refused**: one second, doubled up to a minute, at the
sixty-sixth recovery. -/
theorem exponential_refused :
    ¬ ∀ initial maximum release ordinal,
      exponential initial maximum = .ok release → 1 ≤ ordinal → ordinal < 2 ^ 32 →
        release.calculate ordinal =
          .ok (.delayed (min (initial * 2 ^ (ordinal - 1)) maximum)) := by
  intro h
  have hsaturates := h 1000000000 60000000000
    ⟨.exponential 1000000000 60000000000, by decide, by decide⟩ 66 rfl (by decide) (by decide)
  rw [calculate_exponential rfl (by decide), capped, if_neg (by decide)] at hsaturates
  cases hsaturates

end RestartRelease
end Bombay
