/-
# Restart admission

`crates/actors/src/templates/restart.rs`: the sliding-window budget, the
recovery count and the release schedule that `admit_restart` consults before
any automatic replacement, shared by fixed supervision and the direct pools.

A `RestartBudget` retains the charges that were still inside the window of the
last accepted charge.  It carries the two facts `RestartBudget::preview` relies
on: the charges are sorted by time, so `partition_point` may search them, and
they sum to a `u32`, so the `expect` on the checked sum cannot fire.  `preview`
builds the next budget together with the proofs of both.

An `Instant` is a number of nanoseconds since the earliest representable
instant, so `Instant::checked_sub` fails exactly when it would go below zero; a
`Duration` is a number of nanoseconds.

The second half replays an arbitrary history of calls.  `replay_retains` is the
invariant — the budget is what is left of all charges ever accepted after one
cut — and `admit_restart_matches_history` is the specification of the budget
over that history.  `restart_intensity` is what the budget is for: no window anywhere
holds more charges than the limit.
-/

import Bombay.Lib.Window
import Mathlib.Algebra.Ring.Nat
import Mathlib.Data.List.Induction

namespace Bombay

/-- `Instant::checked_sub`. -/
def checkedSub (t window : ℕ) : Option ℕ :=
  if window ≤ t then some (t - window) else none

/-- `u32::checked_add`. -/
def checkedAdd32 (a b : ℕ) : Option ℕ := if a + b < 2 ^ 32 then some (a + b) else none

/-- `NonZeroUsize`. -/
abbrev NonZero := { n : ℕ // 0 < n }

/-- Sliding-window admission limit: `maximum` is a `u32`. -/
structure RestartLimit where
  maximum : ℕ
  window : ℕ
  maximum_lt : maximum < 2 ^ 32 := by decide
  deriving DecidableEq, Repr

theorem RestartLimit.one_lt : 1 < 2 ^ 32 := by decide

theorem RestartLimit.ten_lt : 10 < 2 ^ 32 := by decide

/-- `RestartReleaseSchedule`. -/
inductive RestartReleaseSchedule where
  | immediate
  | constant (delay : ℕ)
  | linear (initial maximum : ℕ)
  | exponential (initial maximum : ℕ)
  deriving DecidableEq, Repr

/-- `RestartReleaseError`. -/
inductive RestartReleaseError where
  | zeroDelay
  | maximumBelowInitial
  deriving DecidableEq, Repr

/-- `RestartReleaseFailure`. -/
inductive RestartReleaseFailure where
  | durationOverflow
  deriving DecidableEq, Repr

/-- `RecoveryRelease`. -/
inductive RecoveryRelease where
  | immediate
  | delayed (delay : ℕ)
  deriving DecidableEq, Repr

/-- A schedule only leaves its constructors with positive delays and a maximum
not below its initial delay. -/
def RestartReleaseSchedule.Valid : RestartReleaseSchedule → Prop
  | .immediate => True
  | .constant delay => 0 < delay
  | .linear initial maximum => 0 < initial ∧ initial ≤ maximum
  | .exponential initial maximum => 0 < initial ∧ initial ≤ maximum

/-- `RestartRelease`. -/
structure RestartRelease where
  schedule : RestartReleaseSchedule
  valid : schedule.Valid
  deriving DecidableEq

namespace RestartRelease

/-- `RestartRelease::positive`. -/
def positive (delay : ℕ) : Except RestartReleaseError { d : ℕ // 0 < d } :=
  if h : delay = 0 then .error .zeroDelay else .ok ⟨delay, Nat.pos_of_ne_zero h⟩

/-- `RestartRelease::growth`. -/
def growth (initial maximum : ℕ) :
    Except RestartReleaseError { d : ℕ × ℕ // 0 < d.1 ∧ d.1 ≤ d.2 } := do
  let initial ← positive initial
  if h : maximum < initial then .error .maximumBelowInitial
  else .ok ⟨(initial, maximum), initial.2, not_lt.mp h⟩

/-- `RestartRelease::immediate`. -/
def immediate : RestartRelease := ⟨.immediate, trivial⟩

/-- `RestartRelease::constant`. -/
def constant (delay : ℕ) : Except RestartReleaseError RestartRelease := do
  let delay ← positive delay
  .ok ⟨.constant delay, delay.2⟩

/-- `RestartRelease::linear`. -/
def linear (initial maximum : ℕ) : Except RestartReleaseError RestartRelease := do
  let grown ← growth initial maximum
  .ok ⟨.linear grown.1.1 grown.1.2, grown.2⟩

/-- `RestartRelease::exponential`. -/
def exponential (initial maximum : ℕ) : Except RestartReleaseError RestartRelease := do
  let grown ← growth initial maximum
  .ok ⟨.exponential grown.1.1 grown.1.2, grown.2⟩

end RestartRelease

/-- `multiply`: the `u128` product of nanoseconds must fit, and its whole
seconds must fit a `u64`. -/
def multiply (duration : ℕ) (factor : ℕ) : Except RestartReleaseFailure ℕ :=
  if duration * factor < 2 ^ 128 then
    if duration * factor / 1000000000 < 2 ^ 64 then .ok (duration * factor)
    else .error .durationOverflow
  else .error .durationOverflow

/-- `RestartRelease::calculate`.  `1_u128.checked_shl(shift)` fails from a shift
of `128` on. -/
def RestartRelease.calculate (release : RestartRelease) (ordinal : ℕ) :
    Except RestartReleaseFailure RecoveryRelease :=
  match release.schedule with
  | .immediate => .ok .immediate
  | .constant delay => .ok (.delayed delay)
  | .linear initial maximum => do
    let delay ← multiply initial ordinal
    .ok (.delayed (min delay maximum))
  | .exponential initial maximum =>
    if ordinal - 1 < 128 then do
      let delay ← multiply initial (2 ^ (ordinal - 1))
      .ok (.delayed (min delay maximum))
    else .error .durationOverflow

/-- `RecoveryCount`: the recoveries one role was granted, a `u32`. -/
structure RecoveryCount where
  admitted : ℕ
  deriving DecidableEq, Repr

/-- `RecoveryCount::new`. -/
def RecoveryCount.new : RecoveryCount := ⟨0⟩

/-- `RecoveryCount::propose`: the ordinal the next recovery would have. -/
def RecoveryCount.propose (count : RecoveryCount) : Option ℕ := checkedAdd32 count.admitted 1

/-- `RestartCharge`: a nonzero number of replacements at one instant. -/
structure RestartCharge where
  observedAt : ℕ
  replacements : ℕ
  positive : 0 < replacements
  deriving DecidableEq, Repr

variable (charges : List RestartCharge)

/-- The weight of a list of charges. -/
def chargeSum : ℕ := (charges.map (·.replacements)).sum

@[simp] theorem chargeSum_append (a b : List RestartCharge) :
    chargeSum (a ++ b) = chargeSum a + chargeSum b := by
  simp [chargeSum]

theorem chargeSum_drop_le (n : ℕ) :
    chargeSum (charges.drop n) ≤ chargeSum charges := by
  conv_rhs => rw [← List.take_append_drop n charges, chargeSum_append]
  exact Nat.le_add_left _ _

/-- `RestartBudget`, with what `preview` relies on. -/
structure RestartBudget where
  charges : List RestartCharge
  ordered : Window.Ordered RestartCharge.observedAt charges
  bounded : chargeSum charges < 2 ^ 32

namespace RestartBudget

instance : DecidableEq RestartBudget := fun a b =>
  decidable_of_iff (a.charges = b.charges)
    ⟨fun h => by cases a; cases b; cases h; rfl, fun h => h ▸ rfl⟩

/-- `RestartBudget::empty`. -/
def empty : RestartBudget := ⟨[], List.Pairwise.nil, by decide⟩

end RestartBudget

/-- `RestartDenial`. -/
inductive RestartDenial where
  | restartLimitReached (active requested maximum : ℕ)
  | clockRegressed (previous observed : ℕ)
  | recoveryCountExhausted (admitted : ℕ)
  | releaseCalculationFailed (reason : RestartReleaseFailure)
  deriving DecidableEq, Repr

/-- `BudgetCheck`. -/
inductive BudgetCheck where
  | admitted (budget : RestartBudget)
  | denied (reason : RestartDenial)
  deriving DecidableEq

/-- The sum `preview` folds with `checked_add`. -/
def tryTotal : Option ℕ :=
  charges.foldlM (fun active charge => checkedAdd32 active charge.replacements) 0

theorem foldlM_checkedAdd32 (start : ℕ)
    (h : start + chargeSum charges < 2 ^ 32) :
    charges.foldlM (fun active charge => checkedAdd32 active charge.replacements) start
      = some (start + chargeSum charges) := by
  induction charges generalizing start with
  | nil => simp [chargeSum]
  | cons charge charges ih =>
    have hsum : chargeSum (charge :: charges) = charge.replacements + chargeSum charges := by
      simp [chargeSum]
    rw [hsum] at h ⊢
    have hstep : checkedAdd32 start charge.replacements
        = some (start + charge.replacements) := if_pos (by omega)
    rw [List.foldlM_cons, hstep, Option.bind_eq_bind, Option.bind_some, ih _ (by omega)]
    congr 1
    omega

/-- **The checked sum of a bounded list of charges is its sum.** -/
theorem tryTotal_eq {charges} (h : chargeSum charges < 2 ^ 32) :
    tryTotal charges = some (chargeSum charges) := by
  have h0 := foldlM_checkedAdd32 charges 0 (by omega)
  rwa [Nat.zero_add] at h0

namespace RestartBudget

/-- The time `preview` refuses to go behind: `self.charges.last()`. -/
def latest (budget : RestartBudget) : Option ℕ :=
  budget.charges.getLast?.map (·.observedAt)

/-- `first_active`: where `partition_point` finds the first charge that is not
before the cutoff; the whole list when the subtraction underflows. -/
def firstActive (budget : RestartBudget) (limit : RestartLimit) (observedAt : ℕ) : ℕ :=
  match checkedSub observedAt limit.window with
  | none => 0
  | some cutoff => (budget.charges.takeWhile fun c => decide (c.observedAt < cutoff)).length

/-- `active_charges`. -/
def activeCharges (budget : RestartBudget) (limit : RestartLimit) (observedAt : ℕ) :
    List RestartCharge :=
  budget.charges.drop (budget.firstActive limit observedAt)

theorem activeCharges_bounded (budget : RestartBudget) (limit : RestartLimit)
    (observedAt : ℕ) : chargeSum (budget.activeCharges limit observedAt) < 2 ^ 32 :=
  lt_of_le_of_lt (chargeSum_drop_le _ _) budget.bounded

/-- **The `expect` in `preview` never fires.** -/
theorem tryTotal_isSome (budget : RestartBudget) (limit : RestartLimit) (observedAt : ℕ) :
    (tryTotal (budget.activeCharges limit observedAt)).isSome := by
  rw [tryTotal_eq (budget.activeCharges_bounded limit observedAt)]
  rfl

/-- The number the `expect` yields. -/
def activeTotal (budget : RestartBudget) (limit : RestartLimit) (observedAt : ℕ) : ℕ :=
  (tryTotal (budget.activeCharges limit observedAt)).get
    (budget.tryTotal_isSome limit observedAt)

theorem activeTotal_eq (budget : RestartBudget) (limit : RestartLimit) (observedAt : ℕ) :
    budget.activeTotal limit observedAt
      = chargeSum (budget.activeCharges limit observedAt) := by
  simp only [activeTotal, tryTotal_eq (budget.activeCharges_bounded limit observedAt),
    Option.get_some]

/-- The charges `preview` retains, with the new one, are sorted. -/
theorem retained_ordered (budget : RestartBudget) (limit : RestartLimit) {observedAt}
    (h : ∀ previous ∈ budget.latest, previous ≤ observedAt) (charge : RestartCharge)
    (hcharge : charge.observedAt = observedAt) :
    Window.Ordered RestartCharge.observedAt
      (budget.activeCharges limit observedAt ++ [charge]) := by
  refine (budget.ordered.drop _).append_singleton fun b hb => ?_
  have hmem : b ∈ budget.charges := List.mem_of_mem_drop hb
  cases hlast : budget.charges.getLast? with
  | none => simp [List.getLast?_eq_none_iff.mp hlast] at hmem
  | some last =>
    have hle := budget.ordered.le_getLast hlast b hmem
    have hlatest : last.observedAt ≤ observedAt := h _ (by simp [latest, hlast])
    omega

/-- `RestartBudget::preview`. -/
def preview (budget : RestartBudget) (limit : RestartLimit) (observedAt : ℕ)
    (replacements : NonZero) : BudgetCheck :=
  if hclock : ∀ previous ∈ budget.latest, previous ≤ observedAt then
    let active := budget.activeTotal limit observedAt
    let denied := BudgetCheck.denied
      (.restartLimitReached active replacements.1 limit.maximum)
    -- `u32::try_from(replacements.get())`
    if replacements.1 < 2 ^ 32 then
      match htotal : checkedAdd32 active replacements.1 with
      | none => denied
      | some total =>
        if total > limit.maximum then denied
        else .admitted
          { charges := budget.activeCharges limit observedAt
              ++ [⟨observedAt, replacements.1, replacements.2⟩]
            ordered := budget.retained_ordered limit hclock _ rfl
            bounded := by
              simp only [checkedAdd32, Option.ite_none_right_eq_some] at htotal
              rw [chargeSum_append, ← budget.activeTotal_eq limit]
              exact htotal.1 }
    else denied
  else .denied (.clockRegressed (budget.latest.getD 0) observedAt)

end RestartBudget

/-- `RestartProposal`, which borrows the count it would raise. -/
structure RestartProposal where
  count : RecoveryCount
  ordinal : ℕ
  budget : RestartBudget
  proposedBudget : RestartBudget
  release : RecoveryRelease
  deriving DecidableEq

/-- `RestartAdmission`; a denial also hands back the count it borrowed. -/
inductive RestartAdmission where
  | proposed (proposal : RestartProposal)
  | denied (count : RecoveryCount) (budget : RestartBudget) (reason : RestartDenial)
  deriving DecidableEq

/-- `RestartProposal::accept`. -/
def RestartProposal.accept (proposal : RestartProposal) : RecoveryCount × RestartBudget :=
  (⟨proposal.ordinal⟩, proposal.proposedBudget)

/-- `RestartProposal::decline`. -/
def RestartProposal.decline (proposal : RestartProposal) : RecoveryCount × RestartBudget :=
  (proposal.count, proposal.budget)

/-- `admit_restart`. -/
def admitRestart (count : RecoveryCount) (budget : RestartBudget) (limit : RestartLimit)
    (release : RestartRelease) (observedAt : ℕ) (replacements : NonZero) :
    RestartAdmission :=
  match count.propose with
  | none => .denied count budget (.recoveryCountExhausted count.admitted)
  | some ordinal =>
    match budget.preview limit observedAt replacements with
    | .denied reason => .denied count budget reason
    | .admitted proposedBudget =>
      match release.calculate ordinal with
      | .ok release => .proposed ⟨count, ordinal, budget, proposedBudget, release⟩
      | .error reason => .denied count budget (.releaseCalculationFailed reason)

/-! ### What one call can do -/

/-- **`preview` in closed form.**  It admits exactly a request that does not go
behind the latest retained charge and whose weight, added to the active
charges, stays within the maximum; it then retains the active charges and the
new one. -/
theorem RestartBudget.preview_admitted_iff (budget : RestartBudget) (limit : RestartLimit)
    (observedAt : ℕ) (replacements : NonZero) (next : RestartBudget) :
    budget.preview limit observedAt replacements = .admitted next ↔
      (∀ previous ∈ budget.latest, previous ≤ observedAt) ∧
      chargeSum (budget.activeCharges limit observedAt) + replacements.1 ≤ limit.maximum ∧
      next.charges = budget.activeCharges limit observedAt
        ++ [⟨observedAt, replacements.1, replacements.2⟩] := by
  have hmax := limit.maximum_lt
  have htotal := budget.activeTotal_eq limit observedAt
  unfold preview
  by_cases hclock : ∀ previous ∈ budget.latest, previous ≤ observedAt
  · rw [dif_pos hclock]
    by_cases hwidth : replacements.1 < 2 ^ 32
    · simp only [if_pos hwidth]
      split
      · rename_i hnone
        simp only [checkedAdd32, ite_eq_right_iff, reduceCtorEq, imp_false, not_lt] at hnone
        simp only [reduceCtorEq, false_iff, not_and]
        omega
      · rename_i total hsome
        simp only [checkedAdd32, Option.ite_none_right_eq_some, Option.some.injEq] at hsome
        obtain ⟨-, rfl⟩ := hsome
        split
        · simp only [reduceCtorEq, false_iff, not_and]
          omega
        · rename_i hle
          constructor
          · intro h
            cases h
            exact ⟨hclock, by omega, rfl⟩
          · rintro ⟨-, -, hnext⟩
            cases next
            cases hnext
            rfl
    · simp only [if_neg hwidth, reduceCtorEq, false_iff, not_and]
      omega
  · rw [dif_neg hclock]
    simp only [reduceCtorEq, hclock, false_and]

variable {budget : RestartBudget} {limit : RestartLimit} {accepted : List RestartCharge}

/-- **A clock denial names a charge later than the request.** -/
theorem RestartBudget.preview_clockRegressed {observedAt replacements previous observed}
    (h : budget.preview limit observedAt replacements
      = .denied (.clockRegressed previous observed)) :
    ∃ latest ∈ budget.latest, observedAt < latest := by
  unfold preview at h
  split at h
  · simp only at h
    split at h
    · split at h
      · simp at h
      · split at h <;> simp at h
    · simp at h
  · rename_i hclock
    simpa only [not_forall, not_le, exists_prop] using hclock

/-- **What `admit_restart` can answer.**  A denial hands the count and the
budget back as they came; a proposal carries both, the next ordinal and a
budget that `preview` admitted. -/
theorem admitRestart_cases (count : RecoveryCount) (budget : RestartBudget)
    (limit : RestartLimit) (release : RestartRelease) (observedAt : ℕ)
    (replacements : NonZero) :
    (∃ reason, admitRestart count budget limit release observedAt replacements
        = .denied count budget reason ∧
      ((∃ latest ∈ budget.latest, observedAt < latest) ∨
        ∀ previous observed, reason ≠ .clockRegressed previous observed)) ∨
    ∃ next delay, admitRestart count budget limit release observedAt replacements
        = .proposed ⟨count, count.admitted + 1, budget, next, delay⟩ ∧
      budget.preview limit observedAt replacements = .admitted next := by
  unfold admitRestart
  cases hcount : count.propose with
  | none => exact .inl ⟨_, rfl, .inr fun _ _ h => nomatch h⟩
  | some ordinal =>
    have hordinal : ordinal = count.admitted + 1 := by
      simp only [RecoveryCount.propose, checkedAdd32, Option.ite_none_right_eq_some,
        Option.some.injEq] at hcount
      exact hcount.2.symm
    subst hordinal
    cases hpreview : budget.preview limit observedAt replacements with
    | denied reason =>
      refine .inl ⟨reason, rfl, ?_⟩
      by_cases hreg : ∃ previous observed, reason = .clockRegressed previous observed
      · obtain ⟨previous, observed, rfl⟩ := hreg
        exact .inl (RestartBudget.preview_clockRegressed hpreview)
      · exact .inr fun previous observed h => hreg ⟨previous, observed, h⟩
    | admitted next =>
      cases hdelay : release.calculate (count.admitted + 1) with
      | error reason =>
        simp only [hdelay]
        exact .inl ⟨_, rfl, .inr fun _ _ h => nomatch h⟩
      | ok delay =>
        simp only [hdelay]
        exact .inr ⟨next, delay, rfl, rfl⟩

/-! ### A whole history of calls -/

/-- One call to `admit_restart` against the shared budget, with the caller's
answer to a proposal. -/
structure RestartCall where
  count : RecoveryCount
  release : RestartRelease
  observedAt : ℕ
  replacements : NonZero
  accepts : Bool

/-- The charge a call asks for. -/
def RestartCall.charge (call : RestartCall) : RestartCharge :=
  ⟨call.observedAt, call.replacements.1, call.replacements.2⟩

/-- One call's admission against `budget`. -/
def RestartCall.admission (call : RestartCall) (limit : RestartLimit) (budget : RestartBudget) :
    RestartAdmission :=
  admitRestart call.count budget limit call.release call.observedAt call.replacements

/-- The count and the budget once the caller has answered. -/
def RestartCall.answer (call : RestartCall) (limit : RestartLimit) (budget : RestartBudget) :
    RecoveryCount × RestartBudget :=
  match call.admission limit budget with
  | .denied count budget _ => (count, budget)
  | .proposed proposal => if call.accepts then proposal.accept else proposal.decline

/-- Whether the call's charge was proposed and accepted. -/
def RestartCall.charged (call : RestartCall) (limit : RestartLimit) (budget : RestartBudget) :
    Bool :=
  match call.admission limit budget with
  | .denied .. => false
  | .proposed _ => call.accepts

/-- The budget after a history of calls, and every charge ever accepted. -/
def replay (limit : RestartLimit) (calls : List RestartCall) :
    RestartBudget × List RestartCharge :=
  calls.foldl
    (fun (budget, accepted) call =>
      ((call.answer limit budget).2,
        if call.charged limit budget then accepted ++ [call.charge] else accepted))
    (RestartBudget.empty, [])

/-- The specification: what all accepted charges weigh in the inclusive window
`[t - window, t]`. -/
def windowTotal (limit : RestartLimit) (accepted : List RestartCharge) (t : ℕ) : ℕ :=
  chargeSum (accepted.filter fun c =>
    decide (t ≤ c.observedAt + limit.window ∧ c.observedAt ≤ t))

/-- A charge is inside the window that ends at `t`. -/
def survives (limit : RestartLimit) (t : ℕ) (c : RestartCharge) : Bool :=
  decide (t ≤ c.observedAt + limit.window)

/-- **The suffix `partition_point` finds is the charges inside the window**,
underflow included. -/
theorem RestartBudget.activeCharges_eq (budget : RestartBudget) (limit : RestartLimit)
    (t : ℕ) : budget.activeCharges limit t = budget.charges.filter (survives limit t) := by
  unfold activeCharges firstActive checkedSub
  by_cases hw : limit.window ≤ t
  · simp only [if_pos hw]
    rw [Window.drop_takeWhile_eq_filter budget.ordered]
    refine List.filter_congr fun c _ => ?_
    simp only [survives, decide_eq_decide]
    omega
  · simp only [if_neg hw, List.drop_zero]
    refine (List.filter_eq_self.mpr fun c _ => ?_).symm
    simp only [survives, decide_eq_true_eq]
    omega

/-- What a budget retains of the accepted charges: after one cut at some time no
later than the last of them. -/
structure Retains (limit : RestartLimit) (budget : RestartBudget)
    (accepted : List RestartCharge) : Prop where
  ordered : Window.Ordered RestartCharge.observedAt accepted
  latest : budget.latest = accepted.getLast?.map (·.observedAt)
  cut : ∃ t, budget.charges = accepted.filter (survives limit t) ∧
    ∀ last ∈ budget.latest, t ≤ last

theorem retains_empty (limit : RestartLimit) : Retains limit RestartBudget.empty [] :=
  ⟨List.Pairwise.nil, rfl, 0, rfl, fun _ h => nomatch h⟩

/-- **Pruning never changes a decision.**  The active charges of the retained
budget are those of the whole history. -/
theorem Retains.activeCharges (h : Retains limit budget accepted) {t}
    (hclock : ∀ previous ∈ budget.latest, previous ≤ t) :
    budget.activeCharges limit t = accepted.filter (survives limit t) := by
  obtain ⟨cut, hcut, hle⟩ := h.cut
  rw [budget.activeCharges_eq, hcut]
  cases hlast : budget.latest with
  | none =>
    have hnil : accepted = [] := by simpa [hlast] using h.latest
    simp [hnil]
  | some last =>
    have hcutt : cut ≤ t := le_trans (hle last hlast) (hclock last hlast)
    refine Window.filter_filter_of_imp (fun c hc => ?_) accepted
    simp only [survives, decide_eq_true_eq] at hc ⊢
    omega

/-- Under the clock check every accepted charge lies before `t`, so the window's
upper end is no restriction. -/
theorem Retains.windowTotal (h : Retains limit budget accepted) {t}
    (hclock : ∀ previous ∈ budget.latest, previous ≤ t) :
    chargeSum (budget.activeCharges limit t) = windowTotal limit accepted t := by
  rw [h.activeCharges hclock, Bombay.windowTotal]
  congr 1
  refine List.filter_congr fun c hc => ?_
  obtain ⟨last, hlast⟩ := Option.isSome_iff_exists.mp
    (List.getLast?_isSome.mpr (List.ne_nil_of_mem hc))
  have hle := h.ordered.le_getLast hlast c hc
  have ht : last.observedAt ≤ t := hclock _ (by simp [h.latest, hlast])
  simp only [survives, decide_eq_decide]
  omega

/-- **One accepted charge keeps the budget a cut of the history.** -/
theorem Retains.admit {next} (h : Retains limit budget accepted) (call : RestartCall)
    (hnext : budget.preview limit call.observedAt call.replacements = .admitted next) :
    Retains limit next (accepted ++ [call.charge]) := by
  obtain ⟨hclock, -, hcharges⟩ := (budget.preview_admitted_iff _ _ _ _).mp hnext
  have hlatest : next.latest = some call.observedAt := by
    simp [RestartBudget.latest, hcharges]
  have hsurvives : survives limit call.observedAt call.charge = true := by
    simp [survives, RestartCall.charge]
  refine ⟨h.ordered.append_singleton fun c hc => ?_, by simp [hlatest, RestartCall.charge],
    call.observedAt, ?_, ?_⟩
  · obtain ⟨last, hlast⟩ := Option.isSome_iff_exists.mp
      (List.getLast?_isSome.mpr (List.ne_nil_of_mem hc))
    have hle := h.ordered.le_getLast hlast c hc
    have ht : last.observedAt ≤ call.observedAt := hclock _ (by simp [h.latest, hlast])
    simp only [RestartCall.charge]
    omega
  · rw [hcharges, h.activeCharges hclock, List.filter_append,
      List.filter_cons_of_pos hsurvives, List.filter_nil]
    rfl
  · intro last hlast
    rw [hlatest] at hlast
    cases hlast
    exact le_refl _

/-- **One call keeps the budget a cut of the history**, whatever the caller
answers. -/
theorem Retains.answer (h : Retains limit budget accepted) (call : RestartCall) :
    Retains limit (call.answer limit budget).2
      (if call.charged limit budget then accepted ++ [call.charge] else accepted) := by
  rcases admitRestart_cases call.count budget limit call.release call.observedAt
    call.replacements with ⟨reason, hcall, -⟩ | ⟨next, delay, hcall, hnext⟩
  · simpa [RestartCall.answer, RestartCall.charged, RestartCall.admission, hcall] using h
  · cases hacc : call.accepts with
    | false =>
      simpa [RestartCall.answer, RestartCall.charged, RestartCall.admission, hcall, hacc,
        RestartProposal.decline] using h
    | true =>
      simpa [RestartCall.answer, RestartCall.charged, RestartCall.admission, hcall, hacc,
        RestartProposal.accept] using h.admit call hnext

/-- **The budget after any history is one cut of all its accepted charges.** -/
theorem replay_retains (limit : RestartLimit) (calls : List RestartCall) :
    Retains limit (replay limit calls).1 (replay limit calls).2 := by
  induction calls using List.reverseRecOn with
  | nil => exact retains_empty limit
  | append_singleton calls call ih =>
    rw [replay, List.foldl_append]
    exact ih.answer call

/-- **The restart budget is its specification over the whole history.**  After
any calls, each accepted or declined at will, a request passes the budget check
iff it is not earlier than the last retained charge and all charges ever
accepted inside the inclusive window leave room for it; a denied or declined
call changes neither the count nor the budget; the retained charges are sorted;
and the checked sum is a number. -/
theorem admit_restart_matches_history (limit : RestartLimit) (calls : List RestartCall)
    (call : RestartCall) :
    let budget := (replay limit calls).1
    let accepted := (replay limit calls).2
    ((∃ next, budget.preview limit call.observedAt call.replacements = .admitted next) ↔
      (∀ last ∈ budget.charges.getLast?, last.observedAt ≤ call.observedAt) ∧
        windowTotal limit accepted call.observedAt + call.replacements.1 ≤ limit.maximum) ∧
    (call.charged limit budget = false →
      call.answer limit budget = (call.count, budget)) ∧
    budget.charges.Pairwise (fun a b => a.observedAt ≤ b.observedAt) ∧
    (tryTotal (budget.activeCharges limit call.observedAt)).isSome := by
  intro budget accepted
  have hret : Retains limit budget accepted := replay_retains limit calls
  refine ⟨⟨?_, ?_⟩, ?_, budget.ordered, budget.tryTotal_isSome limit call.observedAt⟩
  · rintro ⟨next, hnext⟩
    obtain ⟨hclock, hle, -⟩ := (budget.preview_admitted_iff _ _ _ _).mp hnext
    rw [hret.windowTotal hclock] at hle
    exact ⟨fun last hlast => hclock _ (Option.mem_map_of_mem _ hlast), hle⟩
  · rintro ⟨hlast, hle⟩
    have hclock : ∀ previous ∈ budget.latest, previous ≤ call.observedAt := by
      intro previous hprevious
      obtain ⟨last, hmem, rfl⟩ := Option.mem_map.mp hprevious
      exact hlast last hmem
    rw [← hret.windowTotal hclock] at hle
    refine ⟨⟨_, budget.retained_ordered limit hclock call.charge rfl, ?_⟩,
      (budget.preview_admitted_iff _ _ _ _).mpr ⟨hclock, hle, rfl⟩⟩
    have hmax := limit.maximum_lt
    simp only [chargeSum_append]
    have : chargeSum [call.charge] = call.replacements.1 := by simp [chargeSum, RestartCall.charge]
    omega
  · intro hcharged
    rcases admitRestart_cases call.count budget limit call.release call.observedAt
      call.replacements with ⟨reason, hcall, -⟩ | ⟨next, delay, hcall, -⟩
    · simp [RestartCall.answer, RestartCall.admission, hcall]
    · have hdeclined : call.accepts = false := by
        simpa [RestartCall.charged, RestartCall.admission, hcall] using hcharged
      simp [RestartCall.answer, RestartCall.admission, hcall, hdeclined, RestartProposal.decline]

/-! ### Every window -/

theorem chargeSum_filter_le (p : RestartCharge → Bool) (charges) :
    chargeSum (charges.filter p) ≤ chargeSum charges := by
  induction charges with
  | nil => exact le_rfl
  | cons charge charges ih =>
    rw [List.filter_cons]
    simp only [chargeSum, List.map_cons, List.sum_cons] at ih ⊢
    split
    · exact Nat.add_le_add_left ih _
    · exact Nat.le_add_left_of_le ih

/-- **One accepted charge overloads no window**: what a window holds beside it, its budget check has
weighed. -/
theorem windowTotal_admit {next} (h : Retains limit budget accepted) (call : RestartCall)
    (hnext : budget.preview limit call.observedAt call.replacements = .admitted next) {t}
    (ht : windowTotal limit accepted t ≤ limit.maximum) :
    windowTotal limit (accepted ++ [call.charge]) t ≤ limit.maximum := by
  obtain ⟨hclock, hle, -⟩ := (budget.preview_admitted_iff _ _ _ _).mp hnext
  rw [h.activeCharges hclock] at hle
  rw [windowTotal, List.filter_append, chargeSum_append, ← windowTotal]
  by_cases hin : t ≤ call.observedAt + limit.window ∧ call.observedAt ≤ t
  · have hsurvives : ∀ charge : RestartCharge,
        decide (t ≤ charge.observedAt + limit.window ∧ charge.observedAt ≤ t) = true →
          survives limit call.observedAt charge = true := by
      intro charge hcharge
      simp only [survives, decide_eq_true_eq] at hcharge ⊢
      omega
    have hweighed : windowTotal limit accepted t ≤
        chargeSum (accepted.filter (survives limit call.observedAt)) := by
      rw [windowTotal, ← Window.filter_filter_of_imp hsurvives]
      exact chargeSum_filter_le _ _
    exact (Nat.add_le_add hweighed (chargeSum_filter_le _ [call.charge])).trans hle
  · simpa [RestartCall.charge, hin, chargeSum] using ht

/-- **No window holds more than the limit**: after any calls, each accepted or declined at will, and
wherever the window ends. -/
theorem restart_intensity (limit : RestartLimit) (calls : List RestartCall) (t : ℕ) :
    windowTotal limit (replay limit calls).2 t ≤ limit.maximum := by
  induction calls using List.reverseRecOn with
  | nil => exact Nat.zero_le _
  | append_singleton calls call ih =>
    have hretains := replay_retains limit calls
    rw [replay, List.foldl_append]
    change windowTotal limit (if call.charged limit (replay limit calls).1 then
      (replay limit calls).2 ++ [call.charge] else (replay limit calls).2) t ≤ _
    rcases admitRestart_cases call.count (replay limit calls).1 limit call.release call.observedAt
      call.replacements with ⟨reason, hcall, -⟩ | ⟨next, delay, hcall, hnext⟩
    · simpa [RestartCall.charged, RestartCall.admission, hcall] using ih
    · split
      · exact windowTotal_admit hretains call hnext ih
      · exact ih

end Bombay
