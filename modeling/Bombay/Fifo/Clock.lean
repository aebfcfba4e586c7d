/-
# When a recovery is charged

A recovery is charged to the budget at the time of the stop it answers, but in the order
in which preparations come back: roles that wait for the source are served in declaration
order, and a stop that a worker retains is answered late.  A budget denies a charge behind
its latest one with `ClockRegressed`, so two stops that are charged against their order
look like a clock that went back.  `clock_regressed_without_regression` is such a run;
`run_never_regresses` says that a run which charges the earliest stop first has none.
-/

import Mathlib.Algebra.Order.BigOperators.Group.List
import Mathlib.Algebra.Order.Group.Nat
import Bombay.Fifo.Source

namespace Bombay.Fifo

variable {S : Signature} {event : FifoEvent S} {marks : Dirt} {before after : Turn S} {now : ℕ}

/-! ### Stops and their times -/

/-- The replacement was denied because the clock went back. -/
def isRegression : FifoDiagnosticCause S → Bool
  | .workerReplacementFailed _ _ _ _ _ (.restartDenied (.clockRegressed _ _)) => true
  | _ => false

/-- The time of the stop an event brings. -/
def stopTime : FifoEvent S → Option ℕ
  | .workerStopped stopped => some stopped.at'
  | .workerInitialization (.stopped _ _ _ stopped) => some stopped.at'
  | _ => none

/-- The stop a role still has to answer with a replacement: one it recovers from and that
is not charged yet, or one it retains and will recover from. -/
def owedStop (recovery : PoolRecoveryState S.Source) (member : Member S) :
    Option (ChildStopped S) :=
  match member.state with
  | .creating worker =>
    worker.stopped.filter fun stopped => recovery.eligible (stopKind stopped.outcome)
  | .worker _ phase =>
    phase.retained.filter fun stopped => recovery.eligible (stopKind stopped.outcome)
  | .recovering (.preparing _ stopped _) => some stopped
  | .recovering (.waitingForSource _ stopped) => some stopped
  | _ => none

/-- The stops the roles of a pool still have to answer. -/
def FifoOperating.owedStops (operating : FifoOperating S) (recovery : PoolRecoveryState S.Source) :
    List (ChildStopped S) :=
  operating.members.filterMap (owedStop recovery)

/-- The stops an event lets a pool charge: a prepared worker comes back to the role that
awaits it, and the budget has room. -/
def FifoOperating.chargedStops (operating : FifoOperating S) (pool : FifoPool S)
    (event : FifoEvent S) : List (ChildStopped S) :=
  match event with
  | .workerPreparationReturned returned =>
    operating.members.filterMap fun member =>
      match member.state with
      | .recovering (.preparing _ stopped preparation) =>
        if preparation.acceptsReturn returned && pool.admits returned stopped then some stopped
        else none
      | _ => none
  | _ => []

/-- **The earliest stop is charged first**: no role has an earlier stop to answer. -/
def ChargesEarliest (operating : FifoOperating S) (pool : FifoPool S) (event : FifoEvent S) :
    Prop :=
  ∀ charged ∈ operating.chargedStops pool event, ∀ owed ∈ operating.owedStops pool.recovery,
    charged.at' ≤ owed.at'

/-- What an event charges to a pool, it charges in order. -/
def RecoversEarliest (pool : FifoPool S) (event : FifoEvent S) : Prop :=
  match pool.state with
  | .operating operating => ChargesEarliest operating pool event
  | _ => True

instance (pool : FifoPool S) (event : FifoEvent S) : Decidable (RecoversEarliest pool event) := by
  unfold RecoversEarliest ChargesEarliest
  cases pool.state <;> infer_instance

/-- **No charge is ahead of the clock, and no stop behind a charge is left to answer.** -/
structure Timely (now : ℕ) (operating : FifoOperating S) (pool : FifoPool S) : Prop where
  charges : ∀ latest ∈ pool.restarts.latest, latest ≤ now
  owed : ∀ owed ∈ operating.owedStops pool.recovery, owed.at' ≤ now
  ahead : ∀ owed ∈ operating.owedStops pool.recovery, ∀ latest ∈ pool.restarts.latest,
    latest ≤ owed.at'

variable {operating : FifoOperating S} {pool : FifoPool S} {recovery : PoolRecoveryState S.Source}
    {role : S.Role} {recoveries : RecoveryCount} {current : CurrentWorker S}
    {phase : WorkerPhase S} {stopped owed : ChildStopped S} {position : ℕ}

theorem Timely.mono {later} (h : Timely now operating pool) (hle : now ≤ later) :
    Timely later operating pool where
  charges := fun latest hlatest => (h.charges latest hlatest).trans hle
  owed := fun owed howed => (h.owed owed howed).trans hle
  ahead := h.ahead

theorem owedStop_of_policy {recovery'} (h : recovery.policy = recovery'.policy) :
    (owedStop recovery : Member S → Option (ChildStopped S)) = owedStop recovery' := by
  funext member
  simp only [owedStop, PoolRecoveryState.eligible_eq_of_policy h]

theorem owedStop_worker :
    owedStop recovery ⟨role, recoveries, .worker current phase⟩ = some stopped ↔
      phase.retained = some stopped ∧ recovery.eligible (stopKind stopped.outcome) = true :=
  Option.filter_eq_some_iff

theorem owedStop_creating {worker} :
    owedStop recovery ⟨role, recoveries, .creating worker⟩ = some stopped ↔
      worker.stopped = some stopped ∧ recovery.eligible (stopKind stopped.outcome) = true :=
  Option.filter_eq_some_iff

theorem mem_owedStops {member} (hmember : operating.members[position]? = some member)
    (howed : owedStop recovery member = some stopped) :
    stopped ∈ operating.owedStops recovery :=
  List.mem_filterMap.mpr ⟨member, List.mem_of_getElem? hmember, howed⟩

/-! ### One move -/

/-- The stops a change of one member leaves to answer. -/
theorem owes_put {old new} (hmember : operating.members[position]? = some old)
    (h : owed ∈ (operating.members.set position new).filterMap (owedStop recovery))
    (hnew : owedStop recovery new = some owed →
      owedStop recovery old = some owed ∨ stopTime event = some owed.at') :
    owed ∈ operating.owedStops recovery ∨ stopTime event = some owed.at' := by
  obtain ⟨member, hmem, howed⟩ := List.mem_filterMap.mp h
  rcases List.mem_or_eq_of_mem_set hmem with hmem | rfl
  · exact .inl (List.mem_filterMap.mpr ⟨member, hmem, howed⟩)
  · exact (hnew howed).imp_left (mem_owedStops hmember)

theorem Shift.owes {old new} (h : Shift event old new)
    (howed : owedStop recovery ⟨role, recoveries, new⟩ = some owed) :
    owedStop recovery ⟨role, recoveries, old⟩ = some owed ∨ stopTime event = some owed.at' := by
  cases h with
  | @creatingStopped worker stopped hevent =>
    obtain rfl : stopped = owed := Option.some.inj (owedStop_creating.mp howed).1
    exact .inr (congrArg stopTime hevent)
  | @initializingStopped _ _ stopped hevent | @requestedStopped _ _ stopped hevent
  | @startingStopped _ _ stopped hevent | @shutdownStopped _ _ stopped hevent =>
    obtain rfl : stopped = owed := Option.some.inj (owedStop_worker.mp howed).1
    exact .inr (congrArg stopTime hevent)
  | @exited _ _ next stopped hevent hchild hcustomer hcorrelation hnone hstop =>
    have hretained : next.observedStop = some owed := (owedStop_worker.mp howed).1
    obtain rfl : stopped = owed := Option.some.inj (hstop.symm.trans hretained)
    exact .inr (congrArg stopTime hevent)
  | joined hcustomer hcorrelation hstop =>
    obtain ⟨hretained, heligible⟩ := owedStop_worker.mp howed
    exact .inl (owedStop_worker.mpr ⟨hstop.symm.trans hretained, heligible⟩)
  | started | preparationStarted => exact .inl howed
  | shutdownSettled => exact absurd (owedStop_worker.mp howed).1 (by simp [WorkerPhase.retained])
  | scheduled => simp [owedStop] at howed

theorem Halts.stopTime {diagnostics} (h : Halts event diagnostics current phase stopped) :
    phase.retained = some stopped ∨ stopTime event = some stopped.at' := by
  rcases h with hretained | ⟨-, -, rfl | ⟨⟨worker, initialization, startup, rfl⟩, -⟩⟩
  · exact .inl hretained
  · exact .inr rfl
  · exact .inr rfl

/-- A role that recovers owes the stop its worker retained or the event brings. -/
theorem Decided.owes {previous}
    (h : Decided before position role recoveries previous stopped marks after)
    (hmember : before.operating.members[position]?
      = some ⟨role, recoveries, .worker current phase⟩)
    (hstopped : phase.retained = some stopped ∨ stopTime event = some stopped.at')
    (howed : owed ∈ after.operating.owedStops before.pool.recovery) :
    owed ∈ before.operating.owedStops before.pool.recovery ∨ stopTime event = some owed.at' := by
  cases h with
  | prepare source hhere haway hpolicy heligible | wait haway heligible =>
    refine owes_put hmember howed fun hnew => ?_
    obtain rfl : stopped = owed := Option.some.inj hnew
    exact hstopped.imp_left fun hretained => owedStop_worker.mpr ⟨hretained, heligible⟩
  | retire => exact owes_put hmember howed fun hnew => by simp [owedStop] at hnew

/-- **No move makes up a stop**: what a role owes it owed before, or the event brings it. -/
theorem Move.owes (h : Move event marks before after)
    (howed : owed ∈ after.operating.owedStops before.pool.recovery) :
    owed ∈ before.operating.owedStops before.pool.recovery ∨ stopTime event = some owed.at' := by
  cases h with
  | note | reserve | refuse | returnHead | returnAll | queue => exact .inl howed
  | shift hmember hshift => exact owes_put hmember howed hshift.owes
  | establish hmember =>
    refine owes_put hmember howed fun hnew => ?_
    exact .inl (owedStop_creating.mpr (owedStop_worker.mp hnew))
  | claim source hmember => exact owes_put hmember howed .inl
  | rejectCreation _ hmember | permit _ _ hmember | authorize hmember | ready hmember
  | complete hmember | quarantine _ hmember | deny hmember | replaceNow hmember | schedule hmember
  | retireDelayed hmember | replaceDelayed hmember =>
    exact owes_put hmember howed fun hnew => by simp [owedStop, WorkerPhase.retained] at hnew
  | dispatch hfirst hposition hmember | serve hevent hissue hposition hmember =>
    exact owes_put hmember howed fun hnew => nomatch (owedStop_worker.mp hnew).1
  | halt hmember hphase hhalts hfresh hdecided => exact hdecided.owes hmember hhalts.stopTime howed
  | haltBusy hmember hhalts hdisposed hfresh hfirst hdecided =>
    cases hdisposed <;> exact hdecided.owes hmember hhalts.stopTime howed
  | quarantineBusy shutdown hmember hstop hdisposed =>
    cases hdisposed <;>
      exact owes_put hmember howed fun hnew => by simp [owedStop, WorkerPhase.retained] at hnew

/-- **Charges come first**: while a returned preparation has caused nothing, the budget is
as it was, and no role began to prepare. -/
theorem Move.first {returned} (h : Move (.workerPreparationReturned returned) marks before after)
    (hfirst : after.actions = FifoActions.cont) :
    before.actions = FifoActions.cont ∧ after.pool.restarts = before.pool.restarts ∧
      ∀ member ∈ after.operating.members, isPreparing member = true →
        member ∈ before.operating.members := by
  have hput {position : ℕ} {new : Member S} (hnew : isPreparing new = false) :
      ∀ member ∈ before.operating.members.set position new, isPreparing member = true →
        member ∈ before.operating.members := by
    intro member hmem hpreparing
    rcases List.mem_or_eq_of_mem_set hmem with hmem | rfl
    · exact hmem
    · exact absurd hpreparing (Bool.eq_false_iff.mp hnew)
  cases h with
  | reserve => exact ⟨hfirst, rfl, fun member hmem _ => hmem⟩
  | shift hmember hshift =>
    refine ⟨hfirst, rfl, hput ?_⟩
    cases hshift <;> first | rfl | simp_all
  | permit | ready => exact ⟨hfirst, rfl, hput rfl⟩
  | returnAll =>
    refine ⟨?_, rfl, fun member hmem _ => hmem⟩
    rw [returnQueued_eq] at hfirst
    obtain ⟨pool, operating, actions⟩ := before
    cases actions
    simp_all [FifoActions.cont]
  | halt hmember hphase hhalts hfresh hdecided =>
    cases hdecided with
    | prepare => simp [FifoActions.prepare, FifoActions.cont] at hfirst
    | wait | retire => exact ⟨hfirst, rfl, hput rfl⟩
  | haltBusy hmember hhalts hdisposed hfresh _ hdecided =>
    cases hdecided with
    | prepare => simp [FifoActions.prepare, FifoActions.cont] at hfirst
    | wait | retire =>
      cases hdisposed with
      | completed | returned =>
        simp [Turn.put, Turn.deliver, FifoActions.deliver, FifoActions.cont] at hfirst
      | requeued => exact ⟨hfirst, rfl, hput rfl⟩
  -- Every other move appends to some lane of the actions.
  | _ =>
    simp [Turn.note, Turn.deliver, Turn.assigned, Turn.quarantine, Turn.denied, Turn.replaced,
      Turn.put, FifoActions.cont, FifoActions.diagnose, FifoActions.deliver, FifoActions.assign,
      FifoActions.prepare, FifoActions.startup, FifoActions.requestInitialization,
      FifoActions.shutdown, FifoActions.create, FifoActions.schedule] at hfirst

theorem mem_chargedStops {returned} :
    stopped ∈ operating.chargedStops pool (.workerPreparationReturned returned) ↔
      ∃ role recoveries previous preparation,
        (⟨role, recoveries, .recovering (.preparing previous stopped preparation)⟩ : Member S)
          ∈ operating.members ∧
        preparation.acceptsReturn returned = true ∧ pool.admits returned stopped = true := by
  constructor
  · intro h
    obtain ⟨⟨role, recoveries, state⟩, hmem, hstopped⟩ := List.mem_filterMap.mp h
    split at hstopped
    · rename_i previous _ preparation hstate
      obtain rfl : state = _ := hstate
      simp only [Option.ite_none_right_eq_some, Bool.and_eq_true, Option.some.injEq] at hstopped
      obtain ⟨⟨hreturn, hadmits⟩, rfl⟩ := hstopped
      exact ⟨role, recoveries, previous, preparation, hmem, hreturn, hadmits⟩
    · simp at hstopped
  · rintro ⟨role, recoveries, previous, preparation, hmem, hreturn, hadmits⟩
    refine List.mem_filterMap.mpr ⟨_, hmem, ?_⟩
    simp only [hreturn, hadmits, Bool.and_self, if_true]

/-- Only the budget and the policy decide whether a replacement is admitted. -/
theorem admits_congr {pool' : FifoPool S} (hrestarts : pool'.restarts = pool.restarts)
    (hpolicy : pool'.recovery.policy = pool.recovery.policy) (returned : WorkerPreparation S)
    (stopped : ChildStopped S) : pool'.admits returned stopped = pool.admits returned stopped := by
  have hlimit : restartPolicy pool'.recovery = restartPolicy pool.recovery := by
    revert hpolicy
    cases pool'.recovery <;> cases pool.recovery <;>
      simp +contextual [PoolRecoveryState.policy, restartPolicy]
  simp only [FifoPool.admits, hlimit, hrestarts]

/-- **A transition that charges charges first**: until it acts, the stops it may charge and
those left to answer are the ones it began with. -/
theorem Move.chargesEarliest (h : Move event marks before after)
    (hearliest : before.actions = FifoActions.cont →
      ChargesEarliest before.operating before.pool event)
    (hfirst : after.actions = FifoActions.cont) :
    ChargesEarliest after.operating after.pool event := by
  intro charged hcharged owed howed
  cases event with
  | workerPreparationReturned returned =>
    obtain ⟨hbefore, hrestarts, hpreparing⟩ := h.first hfirst
    have hpolicy := h.sameConfig.policy
    obtain ⟨role, recoveries, previous, preparation, hmem, hreturn, hadmits⟩ :=
      mem_chargedStops.mp hcharged
    rw [admits_congr hrestarts hpolicy] at hadmits
    rw [FifoOperating.owedStops, owedStop_of_policy hpolicy] at howed
    refine hearliest hbefore charged ?_ owed ((h.owes howed).resolve_right (by simp [stopTime]))
    exact mem_chargedStops.mpr ⟨role, recoveries, previous, preparation, hpreparing _ hmem rfl,
      hreturn, hadmits⟩
  | _ => exact absurd hcharged List.not_mem_nil

/-- A charge is the latest of its budget. -/
theorem preview_latest {budget next : RestartBudget} {limit time replacements}
    (h : budget.preview limit time replacements = .admitted next) :
    next.latest = some time := by
  have hcharges := ((RestartBudget.preview_admitted_iff _ _ _ _ _).mp h).2.2
  simp [RestartBudget.latest, hcharges]

/-- **A move leaves the budget alone or charges one stop**, before anything else. -/
theorem Move.charges (h : Move event marks before after) :
    after.pool.restarts = before.pool.restarts ∨
    (before.actions = FifoActions.cont ∧ stopTime event = none ∧
      ∃ stopped ∈ before.operating.chargedStops before.pool event,
        stopped ∈ before.operating.owedStops before.pool.recovery ∧
        after.pool.restarts.latest = some stopped.at') := by
  cases h with
  | replaceNow hmember haway hhere hpolicy hbudget hissue hevent hreturn hadmits hfirst
  | schedule hmember haway hhere hpolicy hbudget htimer hevent hreturn hadmits hfirst =>
    subst hevent
    refine .inr ⟨hfirst, rfl, _, mem_chargedStops.mpr ⟨_, _, _, _, List.mem_of_getElem? hmember,
      hreturn, hadmits⟩, mem_owedStops hmember rfl, preview_latest hbudget⟩
  | halt hmember hphase hhalts hfresh hdecided => exact .inl (by cases hdecided <;> rfl)
  | haltBusy hmember hhalts hdisposed hfresh hfirst hdecided =>
    exact .inl (by cases hdisposed <;> cases hdecided <;> rfl)
  | quarantineBusy shutdown hmember hstop hdisposed => exact .inl (by cases hdisposed <;> rfl)
  | _ => exact .inl rfl

/-- **Every move is timely.** -/
theorem Move.timely (h : Move event marks before after)
    (htime : ∀ time ∈ stopTime event, time = now)
    (hearliest : before.actions = FifoActions.cont →
      ChargesEarliest before.operating before.pool event)
    (htimely : Timely now before.operating before.pool) :
    Timely now after.operating after.pool := by
  have howes : ∀ owed ∈ after.operating.owedStops after.pool.recovery,
      owed ∈ before.operating.owedStops before.pool.recovery ∨ stopTime event = some owed.at' := by
    intro owed howed
    rw [FifoOperating.owedStops, owedStop_of_policy h.sameConfig.policy] at howed
    exact h.owes howed
  have hnow : ∀ owed ∈ after.operating.owedStops after.pool.recovery, owed.at' ≤ now := by
    intro owed howed
    rcases howes owed howed with hbefore | hbrought
    · exact htimely.owed owed hbefore
    · exact (htime _ hbrought).le
  rcases h.charges with hsame | ⟨hfirst, hnone, stopped, hcharged, hstopped, hlatest⟩
  · refine ⟨hsame ▸ htimely.charges, hnow, fun owed howed latest hmem => ?_⟩
    rw [hsame] at hmem
    rcases howes owed howed with hbefore | hbrought
    · exact htimely.ahead owed hbefore latest hmem
    · exact (htimely.charges latest hmem).trans (htime _ hbrought).ge
  · rw [hnone] at howes
    have hbefore (owed) (howed : owed ∈ after.operating.owedStops after.pool.recovery) :=
      (howes owed howed).resolve_right nofun
    refine ⟨?_, hnow, ?_⟩
    · intro latest hmem
      rw [hlatest, Option.mem_some_iff] at hmem
      exact hmem ▸ htimely.owed stopped hstopped
    · intro owed howed latest hmem
      rw [hlatest, Option.mem_some_iff] at hmem
      exact hmem ▸ hearliest hfirst stopped hcharged owed (hbefore owed howed)

/-! ### One transition -/

/-- A denial for a clock that went back, as a kind of failure. -/
def Regressed (cause : FifoDiagnosticCause S) : Prop := isRegression cause = true

theorem rare_regressed : Rare (Regressed : FifoDiagnosticCause S → Prop) where
  failure := by
    intro cause hregressed
    cases cause <;> first | rfl | simp [Regressed, isRegression] at hregressed
  restored := by
    intro cause hrestored hregressed
    unfold Restored at hrestored
    split at hrestored <;> simp_all [Regressed, isRegression]
  delayed := by
    rintro role previous stopped submission error (rfl | ⟨settled, rfl⟩) <;>
      simp [Regressed, isRegression]

/-- A timely pool denies no replacement for its clock. -/
theorem Timely.not_regressed {previous preparation cause}
    (h : Timely now before.operating before.pool)
    (hmember : before.operating.members[position]?
      = some ⟨role, recoveries, .recovering (.preparing previous stopped preparation)⟩)
    (hcause : RestoredFailure role previous stopped before.pool.restarts cause) :
    ¬ Regressed cause := by
  have hahead := h.ahead stopped (mem_owedStops hmember rfl)
  intro hregressed
  unfold Regressed isRegression at hregressed
  split at hregressed
  · rename_i role' previous' stopped' submission source earlier observed
    cases source with
    | some source => exact hcause.elim
    | none =>
      rcases hcause.2.2.2 with ⟨latest, hlatest, hlt⟩ | hnot
      · exact absurd (hahead latest hlatest) (Nat.not_le_of_lt hlt)
      · exact hnot earlier observed rfl
  · exact Bool.noConfusion hregressed

/-- A pool whose operating state is timely. -/
def TimelyPool (now : ℕ) (pool : FifoPool S) : Prop :=
  ∀ operating, pool.state = .operating operating → Timely now operating pool

/-- **The moves of one event** are timely and deny no replacement for the clock. -/
theorem Chain.timely {turn dirt}
    (hchain : Chain event ⟨{ pool with state := .stopped }, operating, FifoActions.cont⟩ dirt turn)
    (htime : ∀ time ∈ stopTime event, time = now) (htimely : Timely now operating pool)
    (hearliest : ChargesEarliest operating pool event) :
    Timely now turn.operating turn.pool ∧ Spared Regressed turn.actions := by
  have hstart : Timely now operating { pool with state := .stopped } :=
    ⟨htimely.charges, htimely.owed, htimely.ahead⟩
  refine (hchain.preserves
    (motive := fun turn => (turn.actions = FifoActions.cont →
        ChargesEarliest turn.operating turn.pool event) ∧
      Timely now turn.operating turn.pool ∧ Spared Regressed turn.actions)
    ?_ ⟨fun _ => hearliest, hstart, spared_cont⟩).2
  rintro before after marks hmove ⟨hearliest, htimely, hspared⟩
  refine ⟨hmove.chargesEarliest hearliest, hmove.timely htime hearliest htimely, ?_⟩
  exact hmove.spared rare_regressed
    (fun _ _ _ _ _ _ _ hmember hcause => htimely.not_regressed hmember hcause) hspared

theorem Acts.timely {acted} (h : Acts pool event acted)
    (htime : ∀ time ∈ stopTime event, time = now) (htimely : TimelyPool now pool)
    (hearliest : RecoversEarliest pool event) :
    TimelyPool now acted.next ∧ Spared Regressed acted.actions := by
  have hcharges : ∀ operating, pool.state = .operating operating →
      ChargesEarliest operating pool event := by
    intro operating hstate
    rwa [RecoversEarliest, hstate] at hearliest
  constructor
  · intro operating hoperating
    cases h with
    | operating hstate hoperates hsettles =>
      cases hsettles with
      | operate hchain =>
        obtain rfl := PoolState.operating.inj hoperating
        have hturn := (hchain.timely htime (htimely _ hstate) (hcharges _ hstate)).1
        exact ⟨hturn.charges, hturn.owed, hturn.ahead⟩
      | leave hchain => exact absurd hoperating ((beginShutdown_cases _).state operating)
      | diagnosed shutdowns =>
        obtain rfl := PoolState.operating.inj hoperating
        have hsame := htimely _ hstate
        exact ⟨hsame.charges, hsame.owed, hsame.ahead⟩
    | draining hstate hlent hdrains => exact absurd hoperating (hdrains.state operating)
    | idle hnot => exact absurd hoperating (hnot operating)
  · exact h.spared rare_regressed fun operating dirt turn hstate hchain =>
      (hchain.timely htime (htimely operating hstate) (hcharges operating hstate)).2

/-! ### Whole runs -/

variable (config : Config S) (prepared : List (PreparedWorker S)) (events : List (FifoEvent S))

theorem begin_timely :
    TimelyPool now (Journal.begin config prepared).pool := by
  rcases begin_cases config prepared with ⟨creations, heq⟩ |
    ⟨creations, heap, ids, actions, members, -, -, heq, -, hborn⟩
  · rw [heq]
    intro operating hoperating
    simp [FifoPool.build] at hoperating
  · rw [heq]
    rintro _ ⟨⟩
    have hnone (recovery : PoolRecoveryState S.Source) :
        members.filterMap (owedStop recovery) = [] := by
      refine List.filterMap_eq_nil_iff.mpr fun member hmem => ?_
      obtain ⟨role, recoveries, state⟩ := member
      have hcreating := hborn _ hmem
      cases state with
      | creating worker =>
        simp only [isFirstBorn, Bool.and_eq_true, Option.isNone_iff_eq_none] at hcreating
        simp [owedStop, hcreating.1]
      | _ => simp [isFirstBorn] at hcreating
    refine ⟨(fun _ h => by cases h), ?_, ?_⟩ <;> intro owed howed <;>
      exact absurd howed (by rw [FifoOperating.owedStops, hnone]; exact List.not_mem_nil)

/-- **A run that charges the earliest stop first** is timely, and denies no replacement
for its clock. -/
theorem run_timely (htimes : (events.filterMap stopTime).Pairwise (· ≤ ·))
    (hearliest : ∀ entry ∈ (run config prepared events).entries,
      RecoversEarliest entry.before entry.event) :
    (∀ now, (∀ time ∈ events.filterMap stopTime, time ≤ now) →
      TimelyPool now (run config prepared events).pool) ∧
    ∀ entry ∈ (run config prepared events).entries, Spared Regressed entry.actions := by
  induction events using List.reverseRecOn with
  | nil =>
    refine ⟨fun now _ => begin_timely config prepared, fun entry hentry => ?_⟩
    rcases begin_cases config prepared with ⟨_, heq⟩ | ⟨_, _, _, _, _, -, -, heq, -⟩ <;>
      simp [run, heq] at hentry
  | append_singleton events event ih =>
    rw [run_append_singleton, Journal.step_entries] at hearliest
    rw [List.filterMap_append, List.pairwise_append] at htimes
    obtain ⟨htimely, hentries⟩ := ih htimes.1 fun entry hentry =>
      hearliest entry (List.mem_append_left _ hentry)
    have hacts := act_cases (run_sound config prepared events) event
    have hstep := hearliest _ (List.mem_append_right _ (List.mem_singleton.mpr rfl))
    -- The clock of the transition: the time of the stop it brings, if it brings one.
    have hafter (now) (hnow : ∀ time ∈ (events ++ [event]).filterMap stopTime, time ≤ now) :
        TimelyPool now (act (run config prepared events).pool event).next ∧
          Spared Regressed (act (run config prepared events).pool event).actions := by
      rw [List.filterMap_append] at hnow
      cases hevent : stopTime event with
      | none =>
        refine hacts.timely (by simp [hevent]) (htimely now fun time htime => ?_) hstep
        exact hnow time (List.mem_append_left _ htime)
      | some time =>
        have htime : time ∈ [event].filterMap stopTime := by simp [hevent]
        obtain ⟨hpool, hspared⟩ := hacts.timely (by simp [hevent])
          (htimely time fun earlier hearlier => htimes.2.2 earlier hearlier time htime) hstep
        refine ⟨fun operating hoperating => (hpool operating hoperating).mono ?_, hspared⟩
        exact hnow time (List.mem_append_right _ htime)
    rw [run_append_singleton]
    refine ⟨fun now hnow => (hafter now hnow).1, ?_⟩
    intro entry hentry
    rw [Journal.step_entries] at hentry
    rcases List.mem_append.mp hentry with hentry | hentry
    · exact hentries entry hentry
    · rw [List.mem_singleton.mp hentry]
      exact (hafter _ fun time htime => List.le_sum_of_mem htime).2

/-- **Recoveries in the order of their stops.**  In every run whose stops arrive in
order, and in which every replacement that is charged answers the earliest stop that is
left to answer, no replacement is denied for a clock that went back. -/
theorem run_never_regresses (htimes : (events.filterMap stopTime).Pairwise (· ≤ ·))
    (hearliest : ∀ entry ∈ (run config prepared events).entries,
      RecoversEarliest entry.before entry.event) :
    ∀ entry ∈ (run config prepared events).entries, ∀ cause ∈ entry.actions.diagnostics,
      isRegression cause = false := by
  intro entry hentry cause hcause
  have hspared := (run_timely config prepared events htimes hearliest).2 entry hentry
  exact Bool.eq_false_iff.mpr (hspared cause hcause)

/-- Four roles initialize, and three of them stop before they start. -/
def Numbers.threeStops (first second third : ℕ) : List (FifoEvent numbers) :=
  [established 4, initializes 0, initializes 1, initializes 2, initializes 3,
    stops first 1, stops second 3, stops third 5]

/-- The roles stop in declaration order, and are served in this order. -/
theorem never_regresses_of_three :
    ((Numbers.threeStops 1 2 3 ++ Numbers.prepares 9 ++ Numbers.prepares 12
        ++ Numbers.prepares 15).filterMap stopTime).Pairwise (· ≤ ·) ∧
    ∀ entry ∈ (run (Numbers.config Numbers.permanent) (Numbers.roles 4)
        (Numbers.threeStops 1 2 3 ++ Numbers.prepares 9 ++ Numbers.prepares 12
          ++ Numbers.prepares 15)).entries,
      ∀ cause ∈ entry.actions.diagnostics, isRegression cause = false :=
  ⟨by decide, run_never_regresses _ _ _ (by decide) (by decide)⟩

/-- The roles stop against declaration order.  The last one has the source; the first one
takes it next and is charged at time 5, and the one between is denied at time 3. -/
theorem clock_regressed_without_regression :
    ((Numbers.threeStops 3 2 1 ++ Numbers.prepares 9 ++ Numbers.prepares 12
        ++ Numbers.prepares 15).filterMap stopTime).Pairwise (· ≤ ·) ∧
    ((run (Numbers.config Numbers.permanent) (Numbers.roles 4)
      (Numbers.threeStops 3 2 1 ++ Numbers.prepares 9 ++ Numbers.prepares 12
        ++ Numbers.prepares 15)).entries.any
      fun entry => entry.actions.diagnostics.any isRegression) = true :=
  ⟨by decide, by decide⟩

end Bombay.Fifo
