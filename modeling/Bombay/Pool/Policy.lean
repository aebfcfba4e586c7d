/-
# Pool policies

`crates/actors/src/templates/pool/policy.rs`: what a pool does with a stopped
worker and where its one affine worker source is.  `PoolRecoveryState::decide`
claims the source for an eligible stop, `restore_source` puts a returned source
back, `claim_waiting_source` takes it for the next role that waits.
-/

import Bombay.Runtime

namespace Bombay

/-- `Interruption`. -/
inductive Interruption where
  | fail
  | retry
  deriving DecidableEq, Repr

/-- `PoolFailureReaction`. -/
inductive PoolFailureReaction where
  | retireRole
  | stopPool
  deriving DecidableEq, Repr

/-- `WorkerRecoverySource<Source>`. -/
inductive WorkerRecoverySource (Source : Type) where
  | available (source : Source)
  | awaitingReturn

/-- `PoolRecovery<Source>`: the configured policy. -/
inductive PoolRecovery (Source : Type) where
  | permanent (source : Source) (limit : RestartLimit) (release : RestartRelease)
      (failure : PoolFailureReaction)
  | transient (source : Source) (limit : RestartLimit) (release : RestartRelease)
      (failure : PoolFailureReaction)
  | temporary (failure : PoolFailureReaction)

/-- `PoolRecoveryState<Source>`. -/
inductive PoolRecoveryState (Source : Type) where
  | permanent (source : WorkerRecoverySource Source) (limit : RestartLimit)
      (release : RestartRelease) (failure : PoolFailureReaction)
  | transient (source : WorkerRecoverySource Source) (limit : RestartLimit)
      (release : RestartRelease) (failure : PoolFailureReaction)
  | temporary (failure : PoolFailureReaction)

/-- `WorkerRecoveryDecision<Source>`. -/
inductive WorkerRecoveryDecision (Source : Type) where
  | prepareWorker (source : Source)
  | waitForSource
  | retireRole
  | stopPool

variable {Source : Type}

/-- `PoolRecoveryState::from`. -/
def PoolRecoveryState.ofRecovery : PoolRecovery Source → PoolRecoveryState Source
  | .permanent source limit release failure =>
    .permanent (.available source) limit release failure
  | .transient source limit release failure =>
    .transient (.available source) limit release failure
  | .temporary failure => .temporary failure

/-- `WorkerRecoverySource::claim_source`. -/
def WorkerRecoverySource.claimSource :
    WorkerRecoverySource Source → WorkerRecoverySource Source × Option Source
  | .available source => (.awaitingReturn, some source)
  | .awaitingReturn => (.awaitingReturn, none)

/-- `WorkerRecoverySource::claim`. -/
def WorkerRecoverySource.claim (held : WorkerRecoverySource Source) :
    WorkerRecoverySource Source × WorkerRecoveryDecision Source :=
  match held.claimSource with
  | (held, some source) => (held, .prepareWorker source)
  | (held, none) => (held, .waitForSource)

/-- The decision a failure reaction stands for. -/
def PoolFailureReaction.decision : PoolFailureReaction → WorkerRecoveryDecision Source
  | .retireRole => .retireRole
  | .stopPool => .stopPool

/-- The limit and the release of a policy that replaces workers. -/
def restartPolicy :
    PoolRecoveryState Source → Option (RestartLimit × RestartRelease)
  | .permanent _ limit release _ => some (limit, release)
  | .transient _ limit release _ => some (limit, release)
  | .temporary _ => none

namespace PoolRecoveryState

/-- `PoolRecoveryState::decide`. -/
def decide (recovery : PoolRecoveryState Source) (stop : StopKind) :
    PoolRecoveryState Source × WorkerRecoveryDecision Source :=
  match recovery, stop with
  | .permanent source limit release failure, _ =>
    let (source, decision) := source.claim
    (.permanent source limit release failure, decision)
  | .transient source limit release failure, .abnormal =>
    let (source, decision) := source.claim
    (.transient source limit release failure, decision)
  | .transient source limit release failure, .normal =>
    (.transient source limit release failure, failure.decision)
  | .temporary failure, _ => (.temporary failure, failure.decision)

/-- `PoolRecoveryState::failure`. -/
def failure : PoolRecoveryState Source → PoolFailureReaction
  | .permanent _ _ _ failure => failure
  | .transient _ _ _ failure => failure
  | .temporary failure => failure

/-- `PoolRecoveryState::restore_source`; `none` hands the source back. -/
def restoreSource (recovery : PoolRecoveryState Source) (returned : Source) :
    Option (PoolRecoveryState Source) :=
  match recovery with
  | .permanent .awaitingReturn limit release failure =>
    some (.permanent (.available returned) limit release failure)
  | .transient .awaitingReturn limit release failure =>
    some (.transient (.available returned) limit release failure)
  | .permanent (.available _) .. => none
  | .transient (.available _) .. => none
  | .temporary _ => none

/-- `PoolRecoveryState::claim_waiting_source`. -/
def claimWaitingSource (recovery : PoolRecoveryState Source) :
    PoolRecoveryState Source × Option Source :=
  match recovery with
  | .permanent source limit release failure =>
    let (source, claimed) := source.claimSource
    (.permanent source limit release failure, claimed)
  | .transient source limit release failure =>
    let (source, claimed) := source.claimSource
    (.transient source limit release failure, claimed)
  | .temporary failure => (.temporary failure, none)

/-! ### Where the source is -/

/-- The recovery policy replaces workers: it is not `Temporary`. -/
def recovers : PoolRecoveryState Source → Bool
  | .temporary _ => false
  | _ => true

/-- The policy replaces a worker that stops this way. -/
def eligible : PoolRecoveryState Source → StopKind → Bool
  | .permanent .., _ => true
  | .transient .., .abnormal => true
  | _, _ => false

/-- The source is away, in a preparation request. -/
def sourceAway : PoolRecoveryState Source → Bool
  | .permanent .awaitingReturn .. => true
  | .transient .awaitingReturn .. => true
  | _ => false

/-- The source is here to be claimed. -/
def sourceHere : PoolRecoveryState Source → Bool
  | .permanent (.available _) .. => true
  | .transient (.available _) .. => true
  | _ => false

/-- The policy without the place of its source: what no transition changes. -/
def policy : PoolRecoveryState Source → Bool × Option (RestartLimit × RestartRelease) ×
    PoolFailureReaction
  | .permanent _ limit release failure => (true, some (limit, release), failure)
  | .transient _ limit release failure => (false, some (limit, release), failure)
  | .temporary failure => (false, none, failure)

attribute [local simp] recovers eligible sourceAway sourceHere policy

theorem sourceHere_or_away (recovery : PoolRecoveryState Source) (h : recovery.recovers) :
    recovery.sourceHere = !recovery.sourceAway := by
  rcases recovery with (⟨source⟩ | _) | (⟨source⟩ | _) | _ <;> simp_all

variable {recovery a b : PoolRecoveryState Source}

theorem sourceAway_of_here (h : recovery.sourceHere = true) : recovery.sourceAway = false := by
  rcases recovery with (source | _) | (source | _) | _ <;> simp_all

theorem sourceHere_of_away (h : recovery.sourceAway = true) : recovery.sourceHere = false := by
  rcases recovery with (source | _) | (source | _) | _ <;> simp_all

theorem recovers_of_away (h : recovery.sourceAway = true) : recovery.recovers = true := by
  rcases recovery with (source | _) | (source | _) | _ <;> simp_all

theorem recovers_of_here (h : recovery.sourceHere = true) : recovery.recovers = true := by
  rcases recovery with (source | _) | (source | _) | _ <;> simp_all

theorem recovers_eq_of_policy (h : a.policy = b.policy) :
    a.recovers = b.recovers := by
  cases a <;> cases b <;> simp_all

theorem eligible_eq_of_policy (h : a.policy = b.policy) :
    a.eligible = b.eligible := by
  funext stop
  cases a <;> cases b <;> cases stop <;> simp_all

/-- **What a claim does.**  It succeeds exactly when the source is here, and
leaves it away. -/
theorem claimWaitingSource_cases (recovery : PoolRecoveryState Source) :
    (∃ claimed source, recovery.claimWaitingSource = (claimed, some source) ∧
      recovery.sourceHere = true ∧ claimed.sourceAway = true ∧
      claimed.policy = recovery.policy) ∨
    (recovery.claimWaitingSource = (recovery, none) ∧ recovery.sourceHere = false) := by
  rcases recovery with (⟨source⟩ | _) | (⟨source⟩ | _) | _ <;>
    simp [claimWaitingSource, WorkerRecoverySource.claimSource]

/-- **What a decision does.**  For an eligible stop it claims the source that is here or
waits for the source that is away; otherwise it leaves the recovery alone. -/
theorem decide_cases (recovery : PoolRecoveryState Source) (stop : StopKind) :
    (∃ claimed source, recovery.decide stop = (claimed, .prepareWorker source) ∧
      recovery.sourceHere = true ∧ claimed.sourceAway = true ∧
      claimed.policy = recovery.policy ∧ recovery.eligible stop = true) ∨
    (recovery.decide stop = (recovery, .waitForSource) ∧ recovery.sourceAway = true ∧
      recovery.eligible stop = true) ∨
    (recovery.decide stop = (recovery, .retireRole) ∧ recovery.failure = .retireRole) ∨
    (recovery.decide stop = (recovery, .stopPool) ∧ recovery.failure = .stopPool) := by
  rcases recovery with ⟨source, limit, release, reaction⟩ | ⟨source, limit, release, reaction⟩ |
    reaction
  · rcases source with source | _
    · exact .inl ⟨_, _, rfl, rfl, rfl, rfl, rfl⟩
    · exact .inr (.inl ⟨rfl, rfl, rfl⟩)
  · cases stop
    · cases reaction
      · exact .inr (.inr (.inl ⟨rfl, rfl⟩))
      · exact .inr (.inr (.inr ⟨rfl, rfl⟩))
    · rcases source with source | _
      · exact .inl ⟨_, _, rfl, rfl, rfl, rfl, rfl⟩
      · exact .inr (.inl ⟨rfl, rfl, rfl⟩)
  · cases reaction
    · exact .inr (.inr (.inl ⟨rfl, rfl⟩))
    · exact .inr (.inr (.inr ⟨rfl, rfl⟩))

/-- **A source that is away can be restored.** -/
theorem restoreSource_of_away (h : recovery.sourceAway = true) (returned : Source) :
    ∃ restored, recovery.restoreSource returned = some restored ∧
      restored.sourceHere = true ∧ restored.policy = recovery.policy := by
  rcases recovery with (⟨source⟩ | _) | (⟨source⟩ | _) | _ <;>
    simp_all [restoreSource]

theorem ofRecovery_here (recovery : PoolRecovery Source) :
    (ofRecovery recovery).sourceAway = false := by
  cases recovery <;> rfl

end PoolRecoveryState

/-- **The source is in exactly one place**: here, or with the one holder. -/
def InOnePlace (recovery : PoolRecoveryState Source) (holders : ℕ) : Prop :=
  (recovery.sourceHere = true ∧ recovery.sourceAway = false ∧ holders = 0) ∨
    (recovery.sourceHere = false ∧ recovery.sourceAway = true ∧ holders = 1)

theorem inOnePlace_of_count {recovery : PoolRecoveryState Source} {holders : ℕ}
    (hrecovers : recovery.recovers = true)
    (hcount : holders = if recovery.sourceAway then 1 else 0) : InOnePlace recovery holders := by
  have hhere := recovery.sourceHere_or_away hrecovers
  cases haway : recovery.sourceAway with
  | false =>
    rw [haway] at hhere hcount
    exact .inl ⟨hhere, haway, hcount⟩
  | true =>
    rw [haway] at hhere hcount
    exact .inr ⟨hhere, haway, hcount⟩

end Bombay
