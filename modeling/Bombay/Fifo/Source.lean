/-
# Custody of the worker source

A pool that replaces workers owns one source.  In every state of every run the
source is here and no role prepares, or it is away with exactly one role; a role
waits for it only while another role has it; and the branches of `queue/mod.rs`
that find no place for a returned source are never taken.
-/

import Bombay.Fifo.Runs

namespace Bombay.Fifo

variable {S : Signature} {event : FifoEvent S}

/-- A source came back to a pool that had none to give. -/
def Corrupt : FifoDiagnosticCause S → Prop
  | .workerPreparationFailed _ _ _ _ .sourceStateCorrupt => True
  | .workerReplacementFailed _ _ _ _ _ .sourceStateCorrupt => True
  | _ => False

/-- Where the source of a pool is, and who waits for it. -/
def SourceKept (pool : FifoPool S) : Prop :=
  match pool.state with
  | .operating operating =>
    InOnePlace pool.recovery (operating.members.countP isPreparing) ∧
      ∀ (position : ℕ) (member : Member S), operating.members[position]? = some member →
        isWaitingForSource member = true → ∃ (other : ℕ) (member' : Member S),
          other ≠ position ∧ operating.members[other]? = some member' ∧
            isPreparing member' = true
  | .draining members _ => InOnePlace pool.recovery (members.countP isAwaitingPreparation)
  | .forcedRetirement members _ =>
    InOnePlace pool.recovery (members.countP isAwaitingPreparation)
  | .constructed _ => InOnePlace pool.recovery 0
  | .stopped => InOnePlace pool.recovery 0

variable {pool : FifoPool S} {cause : FifoDiagnosticCause S}

/-- A waiting role does not prepare itself, so another one does. -/
theorem exists_preparing {operating} (h : Operates pool operating) {position member}
    (hmember : operating.members[position]? = some member)
    (hwaits : isWaitingForSource member = true) :
    ∃ (other : ℕ) (member' : Member S), other ≠ position ∧
      operating.members[other]? = some member' ∧ isPreparing member' = true := by
  have hpos := Roster.countP_pos_of_getElem? hmember hwaits
  have hhere := pool.recovery.sourceHere_or_away (h.waits hpos)
  rw [h.served hpos] at hhere
  have haway : pool.recovery.sourceAway = true := by simpa using hhere.symm
  have hone := h.lent
  rw [Lent, if_pos haway] at hone
  obtain ⟨member', hmem, hpreparing⟩ := List.countP_pos_iff.mp (hone ▸ Nat.one_pos)
  obtain ⟨other, hother⟩ := List.getElem?_of_mem hmem
  refine ⟨other, member', ?_, hother, hpreparing⟩
  rintro rfl
  rw [hmember] at hother
  obtain rfl := Option.some.inj hother
  unfold isWaitingForSource at hwaits
  unfold isPreparing at hpreparing
  split at hwaits <;> simp_all

theorem Sound.sourceKept (h : Sound pool)
    (hrecovers : pool.recovery.recovers = true) : SourceKept pool := by
  unfold SourceKept
  unfold Sound at h
  split
  · rename_i operating hstate
    simp only [hstate] at h
    exact ⟨inOnePlace_of_count hrecovers h.lent, fun position member => exists_preparing h⟩
  · rename_i members deadline hstate
    simp only [hstate] at h
    exact inOnePlace_of_count hrecovers h
  · rename_i members cause hstate
    simp only [hstate] at h
    exact inOnePlace_of_count hrecovers h
  · rename_i prepared hstate
    simp only [hstate] at h
    exact inOnePlace_of_count hrecovers (by rw [h]; rfl)
  · rename_i hstate
    simp only [hstate] at h
    exact inOnePlace_of_count hrecovers (by rw [h]; rfl)

/-! ### Diagnostics of a preparation that comes back -/

/-- A preparation or a replacement failed. -/
def isFailure : FifoDiagnosticCause S → Bool
  | .workerPreparationFailed .. => true
  | .workerReplacementFailed .. => true
  | _ => false

/-- **A kind of failure that only a returned preparation can cause**, while a pool
operates: no drain and no timer causes it. -/
structure Rare (Bad : FifoDiagnosticCause S → Prop) : Prop where
  failure : ∀ cause, Bad cause → isFailure cause = true
  restored : ∀ cause, Restored cause → ¬ Bad cause
  delayed : ∀ role previous stopped submission error, (error = .workerCreationsExhausted ∨
    ∃ settled, error = .restartScheduleReturned settled) →
    ¬ Bad (.workerReplacementFailed role previous stopped submission none error)

/-- No diagnostic is of this kind. -/
def Spared (Bad : FifoDiagnosticCause S → Prop) (actions : FifoActions S) : Prop :=
  ∀ cause ∈ actions.diagnostics, ¬ Bad cause

variable {Bad : FifoDiagnosticCause S → Prop}

theorem spared_cont : Spared Bad (FifoActions.cont : FifoActions S) := by
  intro cause hcause
  simp [FifoActions.cont] at hcause

theorem Spared.diagnose {actions} (h : Spared Bad actions) (hcause : ¬ Bad cause) :
    Spared Bad (actions.diagnose cause) := by
  intro other hother
  rcases List.mem_append.mp hother with hother | hother
  · exact h other hother
  · rw [List.mem_singleton.mp hother]
    exact hcause

theorem Rare.not_of_failure (h : Rare Bad) (hcause : isFailure cause = false) : ¬ Bad cause := by
  intro hbad
  rw [h.failure cause hbad] at hcause
  exact Bool.noConfusion hcause

theorem isFailure_of_plain {diagnostics} (h : Plain event diagnostics cause) :
    isFailure cause = false := by
  cases cause <;> first | rfl | exact h.elim

theorem isFailure_of_idles {diagnostics} (h : Idles event diagnostics cause) :
    isFailure cause = false := by
  cases cause <;> first | rfl | exact h.elim

theorem Rare.not_of_forgoes (h : Rare Bad) (hforgoes : Forgoes cause) : ¬ Bad cause := by
  rcases hforgoes with ⟨report, rfl⟩ | ⟨role, previous, stopped, submission, rfl⟩
  · exact h.not_of_failure rfl
  · exact h.restored _ rfl

theorem Decided.diagnostics {before after : Turn S} {position : ℕ} {role : S.Role}
    {recoveries : RecoveryCount} {previous : WorkerAttempt} {stopped : ChildStopped S}
    {marks : Dirt} (h : Decided before position role recoveries previous stopped marks after) :
    after.actions.diagnostics = before.actions.diagnostics := by
  cases h <;> rfl

theorem Disposed.diagnostics {before after : Turn S} {role : S.Role} {customer : CustomerJob S}
    {requeues : Bool} (h : Disposed before role customer requeues after) :
    after.actions.diagnostics = before.actions.diagnostics := by
  cases h <;> rfl

/-- **A move spares every rare failure** that it spares where a preparation comes back. -/
theorem Move.spared {before after : Turn S} {marks : Dirt} (h : Move event marks before after)
    (hrare : Rare Bad)
    (hdeny : ∀ (position : ℕ) role recoveries previous stopped preparation cause,
      before.operating.members[position]?
        = some ⟨role, recoveries, .recovering (.preparing previous stopped preparation)⟩ →
      RestoredFailure role previous stopped before.pool.restarts cause → ¬ Bad cause)
    (hspared : Spared Bad before.actions) : Spared Bad after.actions := by
  cases h with
  | note hplain => exact hspared.diagnose (hrare.not_of_failure (isFailure_of_plain hplain))
  | rejectCreation => exact hspared.diagnose (hrare.not_of_failure rfl)
  | returnAll =>
    rw [returnQueued_eq]
    exact hspared
  | halt hmember hphase hhalts hfresh hdecided =>
    rw [Spared, hdecided.diagnostics]
    exact hspared
  | haltBusy hmember hhalts hdisposed hfresh hfirst hdecided =>
    rw [Spared, hdecided.diagnostics, hdisposed.diagnostics]
    exact hspared
  | quarantineBusy shutdown hmember hstop hdisposed =>
    intro cause hcause
    exact hspared cause (hdisposed.diagnostics ▸ hcause)
  | deny hmember haway hhere hpolicy hcause =>
    exact hspared.diagnose (hdeny _ _ _ _ _ _ _ hmember hcause)
  | retireDelayed hmember hbefore =>
    refine hspared.diagnose (hrare.delayed _ _ _ _ _ ?_)
    rcases hbefore with ⟨-, settled, -, -, rfl⟩ | ⟨-, rfl⟩
    · exact .inr ⟨settled, rfl⟩
    · exact .inl rfl
  | _ => exact hspared

theorem Wane.spared {before after} (h : Wane event before after) (hrare : Rare Bad)
    (hspared : Spared Bad before.actions) : Spared Bad after.actions := by
  cases h with
  | note hidles => exact hspared.diagnose (hrare.not_of_failure (isFailure_of_idles hidles))
  | restore hmember haway hhere hpolicy hevent hcause =>
    exact hspared.diagnose (hrare.restored _ hcause)
  | unschedule => exact hspared.diagnose (hrare.delayed _ _ _ _ _ (.inr ⟨_, rfl⟩))
  | dismiss hmember hevent hidentity hidles =>
    exact hspared.diagnose (hrare.not_of_failure (isFailure_of_idles hidles))
  | _ => exact hspared

/-- **An event spares every rare failure** that the moves of an operating pool spare. -/
theorem Acts.spared {acted} (h : Acts pool event acted) (hrare : Rare Bad)
    (hchains : ∀ operating dirt turn, pool.state = .operating operating →
      Chain event ⟨{ pool with state := .stopped }, operating, FifoActions.cont⟩ dirt turn →
      Spared Bad turn.actions) : Spared Bad acted.actions := by
  have hunexpected : Spared Bad (FifoActions.cont.diagnose (.unexpected event)) :=
    spared_cont.diagnose (hrare.not_of_failure rfl)
  cases h with
  | operating hstate hoperates hsettles =>
    cases hsettles with
    | operate hchain => exact hchains _ _ _ hstate hchain
    | leave hchain =>
      obtain ⟨added, hadded, hforgoes⟩ := (beginShutdown_cases _).diagnostics
      intro cause hcause
      rw [hadded] at hcause
      exact (List.mem_append.mp hcause).elim (hchains _ _ _ hstate hchain cause)
        fun hcause => hrare.not_of_forgoes (hforgoes cause hcause)
    | diagnosed shutdowns => exact hunexpected
  | draining hstate hlent hdrains =>
    rcases hdrains.ends with ⟨wake, hwaning, -, hactions, -⟩ | rfl
    · have hwake := hwaning.preserves (motive := fun wake => Spared Bad wake.actions)
        (fun hwane => hwane.spared hrare) spared_cont
      rw [hactions]
      exact hwake
    · exact hunexpected
  | idle => exact hunexpected

/-! ### No corrupt source -/

theorem rare_corrupt : Rare (Corrupt : FifoDiagnosticCause S → Prop) where
  failure := by
    intro cause hcorrupt
    cases cause <;> first | rfl | exact hcorrupt.elim
  restored := by
    intro cause hrestored
    unfold Restored at hrestored
    unfold Corrupt
    split at hrestored <;> simp_all
  delayed := by
    rintro role previous stopped submission error (rfl | ⟨settled, rfl⟩) <;> simp [Corrupt]

theorem not_corrupt_of_restoredFailure {role previous stopped budget}
    (h : RestoredFailure role previous stopped budget cause) : ¬ Corrupt cause := by
  unfold RestoredFailure at h
  unfold Corrupt
  split at h <;> simp_all

/-- **No event meets a source it cannot place.** -/
theorem Acts.intact {acted} (h : Acts pool event acted) :
    Spared Corrupt acted.actions := by
  refine h.spared rare_corrupt fun operating dirt turn hstate hchain => ?_
  exact hchain.preserves (motive := fun turn => Spared Corrupt turn.actions)
    (fun hmove => hmove.spared rare_corrupt fun _ _ _ _ _ _ _ _ hcause =>
      not_corrupt_of_restoredFailure hcause) spared_cont

/-- **Custody of the source.**  In every run of a pool that replaces workers the
source is in exactly one place, no role waits for a source nobody has, and no
returned source is without a place. -/
theorem run_source_in_one_place (config : Config S) (prepared : List (PreparedWorker S))
    (events : List (FifoEvent S))
    (hrecovers : (PoolRecoveryState.ofRecovery config.recovery).recovers = true) :
    SourceKept (run config prepared events).pool ∧
      ∀ entry ∈ (run config prepared events).entries, ∀ cause ∈ entry.actions.diagnostics,
        ¬ Corrupt cause := by
  refine ⟨(run_sound config prepared events).sourceKept ?_, ?_⟩
  · rw [PoolRecoveryState.recovers_eq_of_policy (run_sameConfig config prepared events).policy]
    exact hrecovers
  · refine (run_entries (G := Sound) (P := fun entry => Spared Corrupt entry.actions) config prepared
      (begin_sound config prepared) (fun pool event hsound => ?_) events).2
    have hacts := act_cases hsound event
    exact ⟨hacts.sound hsound, hacts.intact⟩

/-- Two replaced roles stop; the first has the source and the second waits for it. -/
theorem source_in_one_place_of_two :
    (PoolRecoveryState.ofRecovery Numbers.permanent).recovers = true ∧
    SourceKept (run (Numbers.config Numbers.permanent) (Numbers.roles 2)
      [Numbers.established 2, Numbers.stopsEarly 0 1, Numbers.stopsEarly 1 2]).pool ∧
    ∀ entry ∈ (run (Numbers.config Numbers.permanent) (Numbers.roles 2)
      [Numbers.established 2, Numbers.stopsEarly 0 1, Numbers.stopsEarly 1 2]).entries,
      ∀ cause ∈ entry.actions.diagnostics, ¬ Corrupt cause :=
  ⟨rfl, run_source_in_one_place _ _ _ rfl⟩

end Bombay.Fifo
