/-
# Custody of the worker source of a keyed pool

A keyed pool that replaces workers owns one source.  In every state of every run
the source is here and no role prepares, or it is away with exactly one role; and
a role of an operating pool waits for it only while another role has it, whichever
of the exits of `crates/actors/src/templates/pool/router/recovery.rs` the last
preparation took.
-/

import Bombay.Keyed.Runs

namespace Bombay.Keyed

variable {R : Router}

/-- Where the source of a pool is, and who waits for it. -/
def SourceKept (pool : KeyedPool R) : Prop :=
  match pool.state with
  | .operating operating =>
    InOnePlace pool.recovery (operating.roles.countP fun cell => isPreparing cell.member) ∧
      ∀ (position : ℕ) (cell : RoleCell R), operating.roles[position]? = some cell →
        isWaitingForSource cell.member = true → ∃ (other : ℕ) (cell' : RoleCell R),
          other ≠ position ∧ operating.roles[other]? = some cell' ∧
            isPreparing cell'.member = true
  | .retiring workers _ =>
    InOnePlace pool.recovery (workers.countP (isAwaitingPreparation (S := R.workers)))
  | .forcedRetirement workers _ =>
    InOnePlace pool.recovery (workers.countP (isAwaitingPreparation (S := R.workers)))
  | .constructed _ => InOnePlace pool.recovery 0
  | .stopped => InOnePlace pool.recovery 0

/-- A waiting role does not prepare itself, so another one does. -/
theorem exists_preparing {pool operating} (h : Operates pool operating) {position cell}
    (hcell : operating.roles[position]? = some cell)
    (hwaits : isWaitingForSource cell.member = true) :
    ∃ (other : ℕ) (cell' : RoleCell R), other ≠ position ∧
      operating.roles[other]? = some cell' ∧ isPreparing cell'.member = true := by
  have hpos := Roster.countP_pos_of_getElem? (p := fun cell : RoleCell R =>
    isWaitingForSource cell.member) hcell hwaits
  have hhere := pool.recovery.sourceHere_or_away (h.waits hpos)
  rw [h.served hpos] at hhere
  have haway : pool.recovery.sourceAway = true := by simpa using hhere.symm
  have hone := h.lent
  rw [Lent, if_pos haway] at hone
  obtain ⟨cell', hmem, hpreparing⟩ := List.countP_pos_iff.mp (hone ▸ Nat.one_pos)
  obtain ⟨other, hother⟩ := List.getElem?_of_mem hmem
  refine ⟨other, cell', ?_, hother, hpreparing⟩
  rintro rfl
  rw [hcell] at hother
  obtain rfl := Option.some.inj hother
  unfold isWaitingForSource at hwaits
  unfold isPreparing at hpreparing
  split at hwaits <;> simp_all

theorem Sound.sourceKept {pool : KeyedPool R} (h : Sound pool)
    (hrecovers : pool.recovery.recovers = true) : SourceKept pool := by
  unfold SourceKept
  unfold Sound at h
  split
  · rename_i operating hstate
    simp only [hstate] at h
    exact ⟨inOnePlace_of_count hrecovers h.lent, fun position cell => exists_preparing h⟩
  · rename_i workers deadline hstate
    simp only [hstate] at h
    exact inOnePlace_of_count hrecovers h
  · rename_i workers cause hstate
    simp only [hstate] at h
    exact inOnePlace_of_count hrecovers h
  · rename_i prepared hstate
    simp only [hstate] at h
    exact inOnePlace_of_count hrecovers (by rw [h]; rfl)
  · rename_i hstate
    simp only [hstate] at h
    exact inOnePlace_of_count hrecovers (by rw [h]; rfl)

/-- **Custody of the source.**  In every run of a keyed pool that replaces workers the
source is in exactly one place, and no role waits for a source nobody has. -/
theorem run_source_custody (config : Config R) (selector : R.Key → R.base.Role)
    (prepared : PreparedRoster R) (events : List (KeyedEvent R))
    (hrecovers : (PoolRecoveryState.ofRecovery config.recovery).recovers = true) :
    SourceKept (run config selector prepared events).pool := by
  refine (run_sound config selector prepared events).sourceKept ?_
  have hpolicy := (run_sameConfig config selector prepared events).policy
  rw [PoolRecoveryState.recovers_eq_of_policy hpolicy]
  exact hrecovers

/-- Two replaced roles stop once they serve; the first has the source and the second waits
for it. -/
theorem source_custody_of_two :
    (PoolRecoveryState.ofRecovery Keys.permanent).recovers = true ∧
    SourceKept (run (Keys.config Keys.permanent) id (Keys.roles 2)
      ([Keys.established 2, Keys.initializes 0, Keys.initializes 1] ++ Keys.starts 0 5 ++
        Keys.starts 1 6 ++ [Keys.stops 0 1, Keys.stops 1 2])).pool := by
  constructor
  · rfl
  · apply run_source_custody
    rfl

end Bombay.Keyed
