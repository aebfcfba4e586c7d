/-
# Runs of a keyed pool

`Operates` collects what an operating pool keeps in order between transitions, and
`Sound` what any state keeps about the worker source.  `act_cases` says what one
event can do to a sound pool, `run_sound` that every pool of every run is sound,
and `run_entries` is the rule the later modules use: what holds of each transition
from a good pool holds of every transition of a run.
-/

import Bombay.Keyed.Upkeep
import Bombay.Keyed.Wane

namespace Bombay.Keyed

variable {R : Router}

/-! ### Between transitions -/

variable {operating : KeyedOperating R} {turn : Turn R} {acted left : Acted R}
    {deadline : ShutdownDeadline}

theorem KeyedPool.operating?_eq {pool : KeyedPool R} :
    pool.operating? = some operating ↔ pool.state = .operating operating := by
  unfold KeyedPool.operating?
  split <;> simp_all

/-- **What an operating pool keeps in order.** -/
structure Operates (pool : KeyedPool R) (operating : KeyedOperating R) : Prop where
  slots : SlotsUsed pool.startup.maximum operating
  limit : operating.roles.countP (fun cell => isOccupying cell.member) ≤ pool.startup.maximum
  lent : Lent pool.recovery operating
  served : SourceServed pool.recovery operating
  waits : 0 < operating.roles.countP (fun cell => isWaitingForSource cell.member) →
    pool.recovery.recovers = true

/-- **A pool whose state is in order.** -/
def Sound (pool : KeyedPool R) : Prop :=
  match pool.state with
  | .constructed _ => pool.recovery.sourceAway = false
  | .operating operating => Operates pool operating
  | .retiring workers _ => RetiredLent (S := R.workers) pool.recovery workers
  | .stopped => pool.recovery.sourceAway = false
  | .forcedRetirement workers _ => RetiredLent (S := R.workers) pool.recovery workers

theorem RetiringLent.of_retired {pool members}
    (h : RetiredLent (S := R.workers) pool.recovery members) : RetiringLent pool members := by
  intro member hmem hawaits
  by_contra haway
  rw [RetiredLent, if_neg haway] at h
  exact List.countP_eq_zero.mp h member hmem hawaits

/-! ### The beginning -/

/-- **`Member::begin` and `RoleCell::new` for each prepared worker**: the declared roles in
order, each waiting for its first worker, with nothing in its queue. -/
theorem beginRoles_fst (backlog : ℕ) (prepared : List (PreparedWorker R.workers)) (ids : List ℕ)
    (heap : ℕ) (actions : KeyedActions R) (hlength : ids.length = prepared.length) :
    (beginRoles backlog prepared ids heap actions).1.map RoleCell.role = prepared.map (·.role) ∧
      ∀ cell ∈ (beginRoles backlog prepared ids heap actions).1,
        isFirstBorn cell.member = true ∧ cell.queue = OrderedMap.empty ∧
          cell.capacity = backlog := by
  induction prepared generalizing ids heap actions with
  | nil => simp [beginRoles]
  | cons first rest ih =>
    cases ids with
    | nil => simp at hlength
    | cons creation ids =>
      obtain ⟨hroles, hborn⟩ := ih ids (heap + 2)
        (actions.create ⟨creation, first.submission.worker, .birth⟩ creation)
        (by simpa using hlength)
      constructor
      · simp only [beginRoles, List.map_cons]
        rw [← hroles]
        rfl
      · intro cell hmem
        rcases List.mem_cons.mp hmem with rfl | hmem
        · exact ⟨rfl, rfl, rfl⟩
        · exact hborn cell hmem

section

variable (config : Config R) (selector : R.Key → R.base.Role) (prepared : PreparedRoster R)
    (events : List (KeyedEvent R))

/-- **A run begins** with every declared role in creation and nothing bound, or, without
enough identifiers, with a pool that was only constructed. -/
theorem begin_cases :
    (∃ creations, Journal.begin config selector prepared
      = ⟨{ KeyedPool.new config selector prepared with creations := creations },
        KeyedActions.cont, []⟩) ∨
    ∃ creations heap ids actions roles,
      issueAll prepared.workers.length ⟨some 1⟩ = (some ids, creations) ∧
      beginRoles config.backlog prepared.workers ids 0 KeyedActions.cont
        = (roles, actions, heap) ∧
      Journal.begin config selector prepared
        = ⟨{ KeyedPool.new config selector prepared with
              state := .operating ⟨roles, .new config.bindings heap⟩
              creations := creations
              heap := heap + 1 }, actions, []⟩ ∧
      roles.map RoleCell.role = prepared.workers.map (·.role) ∧
      ∀ cell ∈ roles, isFirstBorn cell.member = true ∧ cell.queue = OrderedMap.empty ∧
        cell.capacity = config.backlog := by
  rcases hissue : issueAll prepared.workers.length ⟨some 1⟩ with ⟨_ | ids, creations⟩
  · exact .inl ⟨creations, by simp [Journal.begin, KeyedPool.init, KeyedPool.new, hissue]⟩
  · rcases hbegin : beginRoles config.backlog prepared.workers ids 0
      (KeyedActions.cont : KeyedActions R) with ⟨roles, actions, heap⟩
    have hfst := beginRoles_fst config.backlog prepared.workers ids 0 KeyedActions.cont
      (issueAll_length hissue)
    rw [hbegin] at hfst
    exact .inr ⟨creations, heap, ids, actions, roles, rfl, hbegin,
      by simp [Journal.begin, KeyedPool.init, KeyedPool.new, hissue, hbegin], hfst.1, hfst.2⟩

/-- Nobody works, waits or prepares while every worker is still to be created. -/
theorem countP_roles_of_firstBorn {roles : List (RoleCell R)}
    (h : ∀ cell ∈ roles, isFirstBorn cell.member = true) {p : Member R.workers → Bool}
    (hp : ∀ role recoveries worker, p ⟨role, recoveries, .creating worker⟩ = false) :
    roles.countP (fun cell => p cell.member) = 0 := by
  have hmembers : (roles.map (·.member)).countP p = 0 := by
    refine countP_of_firstBorn (fun member hmem => ?_) hp
    obtain ⟨cell, hcell, rfl⟩ := List.mem_map.mp hmem
    exact h cell hcell
  rwa [List.countP_map] at hmembers

theorem begin_sound : Sound (Journal.begin config selector prepared).pool := by
  rcases begin_cases config selector prepared with ⟨creations, heq⟩ |
    ⟨creations, heap, ids, actions, roles, -, -, heq, -, hborn⟩
  · rw [heq]
    exact PoolRecoveryState.ofRecovery_here config.recovery
  · rw [heq]
    have hfirst := fun cell hmem => (hborn cell hmem).1
    have hwaiting : roles.countP (fun cell => isWaiting cell.member) = 0 :=
      countP_roles_of_firstBorn hfirst fun _ _ _ => rfl
    have hoccupying : roles.countP (fun cell => isOccupying cell.member) = 0 :=
      countP_roles_of_firstBorn hfirst fun _ _ _ => rfl
    have hpreparing : roles.countP (fun cell => isPreparing cell.member) = 0 :=
      countP_roles_of_firstBorn hfirst fun _ _ _ => rfl
    have hsource : roles.countP (fun cell => isWaitingForSource cell.member) = 0 :=
      countP_roles_of_firstBorn hfirst fun _ _ _ => rfl
    show Operates _ ⟨roles, .new config.bindings heap⟩
    refine ⟨?_, ?_, ?_, ?_, ?_⟩
    · intro h
      exact absurd hwaiting h.ne'
    · exact hoccupying.le.trans (Nat.zero_le _)
    · show roles.countP _ = if (PoolRecoveryState.ofRecovery _).sourceAway then 1 else 0
      rw [PoolRecoveryState.ofRecovery_here, hpreparing]
      rfl
    · intro h
      exact absurd hsource h.ne'
    · intro h
      exact absurd hsource h.ne'

/-! ### Leaving -/

/-- What one role adds to the actions of a retirement. -/
def handOver (cell : RoleCell R) (id : Option ℕ) (actions : KeyedActions R) : KeyedActions R :=
  retainReturns cell.member.role (cell.member.shutdown id).custody
    (match (cell.member.shutdown id).request with
      | some request => (returnQueue cell.queue .poolShutdown actions).shutdown request
      | none => returnQueue cell.queue .poolShutdown actions)

theorem retireRoles_cons (ids : Option (List ℕ)) (cell : RoleCell R) (cells : List (RoleCell R))
    (actions : KeyedActions R) :
    retireRoles ids (cell :: cells) actions =
      ((cell.member.shutdown (takeId ids cell.member).1).member ::
        (retireRoles (takeId ids cell.member).2 cells
          (handOver cell (takeId ids cell.member).1 actions)).1,
        (retireRoles (takeId ids cell.member).2 cells
          (handOver cell (takeId ids cell.member).1 actions)).2) := by
  conv_lhs => unfold retireRoles
  unfold takeId handOver
  dsimp only
  rcases ids with _ | _ | ⟨id, ids⟩ <;> rcases cell.member.shutdownTarget with _ | target <;> rfl

/-- A fact about each retired member that only its former self decides. -/
theorem retireRoles_map {β : Type} {f : RetiringWorker R.workers → β}
    {g : Member R.workers → β}
    (h : ∀ member id, f (Member.shutdown member id).member = g member) (ids : Option (List ℕ))
    (cells : List (RoleCell R)) (actions : KeyedActions R) :
    (retireRoles ids cells actions).1.map f = cells.map fun cell => g cell.member := by
  induction cells generalizing ids actions with
  | nil => rfl
  | cons cell cells ih => simp only [retireRoles_cons, List.map_cons, h, ih]

/-- What neither a diagnostic nor an outcome nor a shutdown request shows, the role loop of
`begin_retirement` does not show. -/
theorem retireRoles_proj {β : Type} {f : KeyedActions R → β}
    (hdiagnose : ∀ actions cause, f (KeyedActions.diagnose actions cause) = f actions)
    (hdeliver : ∀ actions route outcome, f (KeyedActions.deliver actions route outcome) = f actions)
    (hshutdown : ∀ actions request, f (KeyedActions.shutdown actions request) = f actions)
    (ids : Option (List ℕ)) (cells : List (RoleCell R)) (actions : KeyedActions R) :
    f (retireRoles ids cells actions).2 = f actions := by
  have hreturns (role : R.base.Role) (custody : RetirementReturns R.workers)
      (actions : KeyedActions R) : f (retainReturns role custody actions) = f actions := by
    unfold retainReturns
    split
    · rfl
    · dsimp only
      split
      · rw [hdiagnose]
        exact hdeliver _ _ _
      · exact hdeliver _ _ _
    · exact hdiagnose _ _
  have hhanded (cell : RoleCell R) (id : Option ℕ) (actions : KeyedActions R) :
      f (handOver cell id actions) = f actions := by
    unfold handOver
    rw [hreturns]
    split
    · rw [hshutdown, returnQueue_proj hdeliver]
    · rw [returnQueue_proj hdeliver]
  induction cells generalizing ids actions with
  | nil => simp [retireRoles]
  | cons cell cells ih => rw [retireRoles_cons, ih, hhanded]

/-- What `begin_retirement` makes of the roles and the actions. -/
def Turn.retired (turn : Turn R) (ids : Option (List ℕ)) :
    List (RetiringWorker R.workers) × KeyedActions R :=
  retireRoles ids turn.operating.roles
    (removeBindings turn.operating.bindings.drain turn.actions)

/-- The number of shutdown identifiers `begin_retirement` asks for. -/
def Turn.required (turn : Turn R) : ℕ :=
  turn.operating.roles.countP fun cell => cell.member.shutdownTarget.isSome

/-- **What `begin_retirement` can do**: the pool is out of identifiers, it retires its
workers, or it has no worker to wait for. -/
inductive Leaves (turn : Turn R) : Acted R → Prop
  | exhausted :
      Leaves turn ⟨turn.pool, .forcedRetirement (turn.retired none).1 .workerShutdownIdsExhausted,
        (turn.retired none).2.stop⟩
  | retire {ids} {deadline : ShutdownDeadline} {schedule} (shutdowns : Sequence)
      (hids : ids.length = turn.required)
      (hdeadline : ShutdownDeadline.begin turn.pool.actorDrain = (deadline, schedule)) :
      Leaves turn ⟨{ turn.pool with shutdowns := shutdowns },
        .retiring (turn.retired (some ids)).1 deadline,
        { (turn.retired (some ids)).2 with
          restartSchedules := (turn.retired (some ids)).2.restartSchedules ++ schedule.toList }⟩
  | stop {ids} {deadline : ShutdownDeadline} {schedule} (shutdowns : Sequence)
      (hids : ids.length = turn.required)
      (hdeadline : ShutdownDeadline.begin turn.pool.actorDrain = (deadline, schedule))
      (hdone : ∀ worker ∈ (turn.retired (some ids)).1, worker.waiting = false) :
      Leaves turn ⟨{ turn.pool with shutdowns := shutdowns }, .stopped,
        { (turn.retired (some ids)).2 with
          restartSchedules := (turn.retired (some ids)).2.restartSchedules ++ schedule.toList
          become := .stop }⟩

theorem beginRetirement_cases (turn : Turn R) : Leaves turn (beginRetirement turn) := by
  unfold beginRetirement
  dsimp only
  cases hreserve : turn.pool.shutdowns.reserve
      (turn.operating.roles.countP fun cell => cell.member.shutdownTarget.isSome) with
  | none => exact .exhausted
  | some reserved =>
    obtain ⟨ids, shutdowns⟩ := reserved
    have hids : ids.length = turn.required := Sequence.reserve_length hreserve
    have hgoes (deadline : ShutdownDeadline) (schedule : Option ScheduleAfter)
        (hdeadline : ShutdownDeadline.begin turn.pool.actorDrain = (deadline, schedule)) :
        Leaves turn (if (turn.retired (some ids)).1.any RetiringWorker.waiting then
          ⟨{ turn.pool with shutdowns := shutdowns }, .retiring (turn.retired (some ids)).1 deadline,
            { (turn.retired (some ids)).2 with
              restartSchedules := (turn.retired (some ids)).2.restartSchedules
                ++ schedule.toList }⟩
        else ⟨{ turn.pool with shutdowns := shutdowns }, .stopped,
          { (turn.retired (some ids)).2 with
            restartSchedules := (turn.retired (some ids)).2.restartSchedules ++ schedule.toList
            become := .stop }⟩) := by
      split
      · exact .retire shutdowns hids hdeadline
      · rename_i hany
        refine .stop shutdowns hids hdeadline fun worker hmem => ?_
        exact Bool.eq_false_iff.mpr fun hwaiting =>
          hany (List.any_eq_true.mpr ⟨worker, hmem, hwaiting⟩)
    rcases hdeadline : ShutdownDeadline.begin turn.pool.actorDrain with ⟨deadline, schedule⟩
    have hleaves := hgoes deadline schedule hdeadline
    unfold ShutdownDeadline.begin at hdeadline
    split at hdeadline <;> obtain ⟨rfl, rfl⟩ := Prod.mk.inj hdeadline
    · simp only [Option.toList_none, List.append_nil] at hleaves
      exact hleaves
    · exact hleaves

/-- A pool that leaves does not operate. -/
theorem Leaves.state (h : Leaves turn acted)
    (operating : KeyedOperating R) : acted.state ≠ .operating operating := by
  cases h <;> simp

theorem Leaves.sameConfig (h : Leaves turn acted) :
    SameConfig turn.pool acted.pool := by
  cases h <;> exact ⟨rfl, rfl, rfl, rfl, rfl, rfl, rfl⟩

/-- The source a retiring pool waits for is the one it had lent. -/
theorem retired_lent (turn : Turn R) (ids : Option (List ℕ))
    (hlent : Lent turn.pool.recovery turn.operating) :
    RetiredLent (S := R.workers) turn.pool.recovery (turn.retired ids).1 := by
  have hmap := congrArg (List.countP id) (retireRoles_map
    (fun member id => (shutdown_member member id).2) ids turn.operating.roles
    (removeBindings turn.operating.bindings.drain turn.actions))
  rw [List.countP_map, List.countP_map] at hmap
  exact hmap.trans hlent

theorem Leaves.sound (h : Leaves turn acted)
    (hlent : Lent turn.pool.recovery turn.operating) : Sound acted.next := by
  cases h with
  | exhausted => exact retired_lent turn none hlent
  | retire => exact retired_lent turn _ hlent
  | stop shutdowns hids hdeadline hdone =>
    exact (retired_lent turn _ hlent).sourceAway hdone

/-! ### A retiring pool -/

variable {pool : KeyedPool R} {event : KeyedEvent R}

/-- **A retiring pool keeps track of its source.** -/
theorem Wane.retiredLent {before after} (h : Wane event before after)
    (hlent : RetiredLent (S := R.workers) before.pool.recovery before.members) :
    RetiredLent (S := R.workers) after.pool.recovery after.members := by
  cases h with
  | note => exact hlent
  | fade hmember hfades => cases hfades <;> exact hlent.set hmember rfl
  | restore hmember haway hhere => exact hlent.restored hmember rfl rfl haway hhere
  | unschedule hmember | establish shutdowns hmember => exact hlent.set hmember rfl
  | depart hmember | dismiss hmember => exact hlent.eraseIdx hmember rfl

/-- **What every move preserves holds after a sequence of them.** -/
theorem Waning.preserves {motive : Wake R → Prop} {start wake : Wake R}
    (h : Waning event start wake)
    (hmove : ∀ {before after}, Wane event before after → motive before → motive after)
    (hstart : motive start) : motive wake := by
  induction h with
  | start => exact hstart
  | move hwaning hwane ih => exact hmove hwane ih

/-- **`continue_retirement`** with no schedule to send: the deadline forces retirement,
something still waits, or the pool has stopped. -/
theorem continueRetirement_cases (pool : KeyedPool R) (members : List (RetiringWorker R.workers))
    (deadline : ShutdownDeadline) (actions : KeyedActions R) :
    (∃ cause, continueRetirement pool members deadline none actions
      = ⟨pool, .forcedRetirement members cause, actions.stop⟩) ∨
    continueRetirement pool members deadline none actions
      = ⟨pool, .retiring members deadline, actions⟩ ∨
    continueRetirement pool members deadline none actions = ⟨pool, .stopped, actions.stop⟩ ∧
      ∀ member ∈ members, member.waiting = false := by
  have hgoes (next : ShutdownDeadline) (h : continueRetirement pool members next none actions
      = if members.any RetiringWorker.waiting then ⟨pool, .retiring members next, actions⟩
        else ⟨pool, .stopped, actions.stop⟩) :
      continueRetirement pool members next none actions
        = ⟨pool, .retiring members next, actions⟩ ∨
      continueRetirement pool members next none actions = ⟨pool, .stopped, actions.stop⟩ ∧
        ∀ member ∈ members, member.waiting = false := by
    cases hany : members.any RetiringWorker.waiting with
    | true =>
      rw [hany, if_pos rfl] at h
      exact .inl h
    | false =>
      rw [hany, if_neg Bool.false_ne_true] at h
      exact .inr ⟨h, by simpa using hany⟩
  cases deadline with
  | notScheduled settlement | elapsed elapsed => exact .inl ⟨_, rfl⟩
  | _ => exact .inr (hgoes _ rfl)

/-- The state of a pool whose members are these and which does not operate any more. -/
inductive Retained (members : List (RetiringWorker R.workers)) : KeyedPoolState R → Prop
  | forced (cause : ForcedRetirementCause) : Retained members (.forcedRetirement members cause)
  | retiring (deadline : ShutdownDeadline) : Retained members (.retiring members deadline)
  | stopped (hdone : ∀ member ∈ members, member.waiting = false) : Retained members .stopped

/-- **How a transition of a retiring pool ends**: after its moves, or with the event
handed back. -/
theorem Retires.ends {members} (h : Retires pool members deadline event acted) :
    (∃ wake step, Waning event (Wake.begin pool members) wake ∧ acted.pool = wake.pool ∧
      acted.actions = { wake.actions with become := step } ∧ Retained wake.members acted.state) ∨
    acted = diagnose pool (.retiring members deadline) event := by
  cases h with
  | @moved wake hwaning next =>
    refine .inl ⟨wake, ?_⟩
    rcases continueRetirement_cases wake.pool wake.members next wake.actions with
      ⟨cause, heq⟩ | heq | ⟨heq, hdone⟩ <;> rw [heq]
    · exact ⟨.stop, hwaning, rfl, rfl, .forced cause⟩
    · exact ⟨wake.actions.become, hwaning, rfl, rfl, .retiring next⟩
    · exact ⟨.stop, hwaning, rfl, rfl, .stopped hdone⟩
  | @forced wake hwaning cause => exact .inl ⟨wake, .stop, hwaning, rfl, rfl, .forced cause⟩
  | @waits wake hwaning =>
    exact .inl ⟨wake, wake.actions.become, hwaning, rfl, rfl, .retiring deadline⟩
  | diagnosed => exact .inr rfl

/-- A pool that retires never operates again. -/
theorem Retires.state {members} (h : Retires pool members deadline event acted)
    (operating : KeyedOperating R) : acted.state ≠ .operating operating := by
  intro hoperating
  rcases h.ends with ⟨wake, step, -, -, -, hstate⟩ | rfl
  · rw [hoperating] at hstate
    cases hstate
  · simp [diagnose] at hoperating

theorem Retires.sound {members : List (RetiringWorker R.workers)}
    (h : Retires pool members deadline event acted)
    (hlent : RetiredLent (S := R.workers) pool.recovery members) : Sound acted.next := by
  rcases h.ends with ⟨wake, step, hwaning, hpool, -, hstate⟩ | rfl
  · have hwake := hwaning.preserves (motive := fun wake => RetiredLent (S := R.workers)
      wake.pool.recovery wake.members) Wane.retiredLent hlent
    rw [← hpool] at hwake
    obtain ⟨pool', state, actions⟩ := acted
    cases hstate with
    | forced cause => exact hwake
    | retiring deadline => exact hwake
    | stopped hdone => exact hwake.sourceAway hdone
  · exact hlent

theorem Wane.sameConfig {before after} (h : Wane event before after) :
    SameConfig before.pool after.pool := by
  cases h with
  | restore hmember haway hhere hpolicy => exact ⟨rfl, rfl, rfl, rfl, rfl, rfl, hpolicy⟩
  | _ => exact ⟨rfl, rfl, rfl, rfl, rfl, rfl, rfl⟩

theorem Retires.sameConfig {members : List (RetiringWorker R.workers)}
    (h : Retires pool members deadline event acted) : SameConfig pool acted.pool := by
  rcases h.ends with ⟨wake, step, hwaning, hpool, -⟩ | rfl
  · rw [hpool]
    exact hwaning.preserves (motive := fun wake => SameConfig pool wake.pool)
      (fun hwane hsame => hsame.trans hwane.sameConfig) (.refl _)
  · exact .refl _

/-! ### One transition -/

/-- **The rest of a batch, after the pool left in the middle of it**: there is none, the
retiring pool takes it, or it comes back. -/
inductive Batches (event : KeyedEvent R) (left : Acted R) : Acted R → Prop
  | done : Batches event left left
  | retires {members} {deadline : ShutdownDeadline} {settled}
      (hstate : left.state = .retiring members deadline)
      (hretires : Retires left.pool members deadline event settled) :
      Batches event left { settled with
        actions := { left.actions.append settled.actions with become := settled.actions.become } }
  | returned {workers remaining} (hevent : event = .workerCreationsSettled workers)
      (hstate : ∀ members deadline, left.state ≠ .retiring members deadline) :
      Batches event left ⟨left.pool, left.state,
        left.actions.append (KeyedActions.cont.diagnose
          (.unexpected (.workerCreationsSettled remaining)))⟩

theorem retireBatch_batches {workers remaining} (hevent : event = .workerCreationsSettled workers)
    (hremains : Remains workers remaining) :
    Batches event left (retireBatch left remaining) := by
  unfold retireBatch
  split
  · rename_i members deadline hstate
    subst hevent
    exact .retires hstate (acceptWorkerCreations_retires hremains)
  · rename_i hother
    exact .returned hevent fun members deadline hstate => hother members deadline hstate

/-- **What an event can do to an operating pool**: moves after which it operates, moves
and then a retirement, or nothing but the diagnosed event. -/
theorem Settles.cases (h : Settles pool operating event acted) :
    (∃ idle turn, Chain event (Turn.begin pool operating) { idle := idle } turn ∧
      (idle = true → Strands pool operating event) ∧ acted = turn.operate) ∨
    (∃ marks turn left, Chain event (Turn.begin pool operating) marks turn ∧ Leaves turn left ∧
      Batches event left acted) ∨
    ∃ shutdowns, acted
      = diagnose { pool with shutdowns := shutdowns } (.operating operating) event := by
  cases h with
  | operate hchain hidle => exact .inl ⟨_, _, hchain, hidle, rfl⟩
  | leave hchain => exact .inr (.inl ⟨_, _, _, hchain, beginRetirement_cases _, .done⟩)
  | batch hchain hevent hremains =>
    exact .inr (.inl ⟨_, _, _, hchain, beginRetirement_cases _,
      retireBatch_batches hevent hremains⟩)
  | diagnosed shutdowns => exact .inr (.inr ⟨shutdowns, rfl⟩)

theorem Batches.state (h : Batches event left acted)
    (hleaves : Leaves turn left) (operating : KeyedOperating R) :
    acted.state ≠ .operating operating := by
  cases h with
  | done | returned => exact hleaves.state operating
  | retires hstate hretires => exact hretires.state operating

theorem Batches.sound (h : Batches event left acted)
    (hsound : Sound left.next) : Sound acted.next := by
  cases h with
  | done => exact hsound
  | retires hstate hretires =>
    obtain ⟨pool', state, actions⟩ := left
    obtain rfl : state = _ := hstate
    exact hretires.sound hsound
  | returned => exact hsound

theorem Batches.sameConfig (h : Batches event left acted) :
    SameConfig left.pool acted.pool := by
  cases h with
  | done => exact .refl _
  | retires hstate hretires => exact hretires.sameConfig
  | returned => exact .refl _

/-- **An operating pool stays in order.** -/
theorem Chain.operates {start idle} (h : Chain event start { idle := idle } turn)
    (hoperates : Operates start.pool start.operating) : Operates turn.pool turn.operating where
  slots := h.slotsUsed rfl hoperates.slots
  limit := h.preserves (motive := WithinLimit) Move.withinLimit hoperates.limit
  lent := h.preserves (motive := fun turn => Lent turn.pool.recovery turn.operating) Move.lent
    hoperates.lent
  served := h.sourceServed rfl hoperates.served
  waits := h.preserves (motive := WaitsToRecover) Move.waitsToRecover hoperates.waits

theorem Settles.sound
    (h : Settles pool operating event acted) (hoperates : Operates pool operating) :
    Sound acted.next := by
  rcases h.cases with ⟨idle, turn, hchain, -, rfl⟩ | ⟨marks, turn, left, hchain, hleaves, hbatches⟩ |
    ⟨shutdowns, rfl⟩
  · obtain ⟨hslots, hlimit, hlent, hserved, hwaits⟩ := hchain.operates hoperates
    exact ⟨hslots, hlimit, hlent, hserved, hwaits⟩
  · refine hbatches.sound (hleaves.sound ?_)
    exact hchain.preserves (motive := fun turn => Lent turn.pool.recovery turn.operating) Move.lent
      hoperates.lent
  · exact ⟨hoperates.slots, hoperates.limit, hoperates.lent, hoperates.served, hoperates.waits⟩

/-- **What one event can do to a sound pool.** -/
inductive Acts (pool : KeyedPool R) (event : KeyedEvent R) : Acted R → Prop
  | operating {operating : KeyedOperating R} {acted : Acted R}
      (hstate : pool.state = .operating operating) (hoperates : Operates pool operating)
      (hsettles : Settles { pool with state := .stopped } operating event acted) :
      Acts pool event acted
  | retiring {members} {deadline : ShutdownDeadline} {acted : Acted R}
      (hstate : pool.state = .retiring members deadline)
      (hlent : RetiredLent (S := R.workers) pool.recovery members)
      (hretires : Retires { pool with state := .stopped } members deadline event acted) :
      Acts pool event acted
  /-- A pool that does not serve returns every event. -/
  | idle (hoperating : ∀ operating, pool.state ≠ .operating operating)
      (hretiring : ∀ members deadline, pool.state ≠ .retiring members deadline) :
      Acts pool event (diagnose { pool with state := .stopped } pool.state event)

/-- A pool that neither operates nor retires. -/
theorem acts_idle (hoperating : ∀ operating, pool.state ≠ .operating operating)
    (hretiring : ∀ members deadline, pool.state ≠ .retiring members deadline) {state}
    (hstate : pool.state = state) :
    Acts pool event (diagnose { pool with state := .stopped } state event) := by
  subst hstate
  exact .idle hoperating hretiring

theorem act_cases (hsound : Sound pool) (event : KeyedEvent R) :
    Acts pool event (act pool event) := by
  unfold act
  cases hstate : pool.state with
  | constructed prepared | stopped | forcedRetirement members cause =>
    exact acts_idle (by simp [hstate]) (by simp [hstate]) hstate
  | operating operating =>
    have hoperates : Operates pool operating := by simpa only [Sound, hstate] using hsound
    have hlent : Lent ({ pool with state := .stopped } : KeyedPool R).recovery operating :=
      hoperates.lent
    exact .operating hstate hoperates (operatingTransition_settles hlent.sourceLent event)
  | retiring members deadline =>
    have hlent : RetiredLent (S := R.workers)
        ({ pool with state := .stopped } : KeyedPool R).recovery members := by
      simpa only [Sound, hstate] using hsound
    exact .retiring hstate hlent (retiringTransition_retires (.of_retired hlent) event)

theorem Acts.sound (h : Acts pool event acted) (hsound : Sound pool) :
    Sound acted.next := by
  cases h with
  | operating hstate hoperates hsettles =>
    refine hsettles.sound ?_
    exact ⟨hoperates.slots, hoperates.limit, hoperates.lent, hoperates.served, hoperates.waits⟩
  | retiring hstate hlent hretires => exact hretires.sound hlent
  | idle => exact hsound

/-- **No event changes the configuration.** -/
theorem Acts.sameConfig (h : Acts pool event acted) :
    SameConfig pool acted.pool := by
  cases h with
  | operating hstate hoperates hsettles =>
    have hstopped : SameConfig pool { pool with state := .stopped } :=
      ⟨rfl, rfl, rfl, rfl, rfl, rfl, rfl⟩
    rcases hsettles.cases with ⟨idle, turn, hchain, -, rfl⟩ |
      ⟨marks, turn, left, hchain, hleaves, hbatches⟩ | ⟨shutdowns, rfl⟩
    · exact hstopped.trans hchain.sameConfig
    · exact hstopped.trans (hchain.sameConfig.trans (hleaves.sameConfig.trans hbatches.sameConfig))
    · exact ⟨rfl, rfl, rfl, rfl, rfl, rfl, rfl⟩
  | retiring hstate hlent hretires =>
    obtain ⟨h₁, h₂, h₃, h₄, h₅, h₆, h₇⟩ := hretires.sameConfig
    exact ⟨h₁, h₂, h₃, h₄, h₅, h₆, h₇⟩
  | idle => exact ⟨rfl, rfl, rfl, rfl, rfl, rfl, rfl⟩

/-! ### Whole runs -/

/-- **Every pool of every run is in order.** -/
theorem run_sound :
    Sound (run config selector prepared events).pool :=
  run_invariant (motive := fun journal => Sound journal.pool) config selector prepared
    (begin_sound config selector prepared)
    (fun _ event hsound => (act_cases hsound event).sound hsound) events

/-- The record of one transition. -/
def KeyedPool.entry (pool : KeyedPool R) (event : KeyedEvent R) : Entry R :=
  ⟨pool, event, (pool.transition event).2, (pool.transition event).1⟩

theorem Journal.step_entries (journal : Journal R) (event : KeyedEvent R) :
    (journal.step event).entries = journal.entries ++ [journal.pool.entry event] :=
  rfl

/-- The last transition of a run is one of its transitions. -/
theorem entry_mem_run (event : KeyedEvent R) :
    (run config selector prepared events).pool.entry event
      ∈ (run config selector prepared (events ++ [event])).entries := by
  unfold run
  rw [List.foldl_append, List.foldl_cons, List.foldl_nil, Journal.step_entries]
  exact List.mem_append_right _ (List.mem_singleton.mpr rfl)

/-- **What every transition keeps, and says of itself, holds throughout a run.** -/
theorem run_entries {G : KeyedPool R → Prop} {P : Entry R → Prop} (config : Config R)
    (selector : R.Key → R.base.Role) (prepared : PreparedRoster R)
    (hbegin : G (Journal.begin config selector prepared).pool)
    (hstep : ∀ pool event, G pool →
      G (KeyedPool.transition pool event).1 ∧ P (KeyedPool.entry pool event))
    (events : List (KeyedEvent R)) :
    G (run config selector prepared events).pool ∧
      ∀ entry ∈ (run config selector prepared events).entries, P entry := by
  refine run_invariant (motive := fun journal => G journal.pool ∧
    ∀ entry ∈ journal.entries, P entry) config selector prepared ⟨hbegin, ?_⟩ ?_ events
  · rcases begin_cases config selector prepared with ⟨_, heq⟩ | ⟨_, _, _, _, _, -, -, heq, -⟩ <;>
      simp [heq]
  · rintro journal event ⟨hgood, hentries⟩
    obtain ⟨hnext, hentry⟩ := hstep journal.pool event hgood
    refine ⟨hnext, fun entry hmem => ?_⟩
    rw [Journal.step_entries] at hmem
    rcases List.mem_append.mp hmem with hmem | hmem
    · exact hentries entry hmem
    · rw [List.mem_singleton.mp hmem]
      exact hentry

/-- **Every pool of a run has the configuration it was built with.** -/
theorem run_sameConfig :
    SameConfig (KeyedPool.new config selector prepared)
      (run config selector prepared events).pool := by
  refine (run_invariant (motive := fun journal => Sound journal.pool ∧
    SameConfig (KeyedPool.new config selector prepared) journal.pool) config selector prepared
    ?_ ?_ events).2
  · refine ⟨begin_sound config selector prepared, ?_⟩
    rcases begin_cases config selector prepared with ⟨_, heq⟩ | ⟨_, _, _, _, _, -, -, heq, -⟩ <;>
      rw [heq] <;> exact ⟨rfl, rfl, rfl, rfl, rfl, rfl, rfl⟩
  · rintro journal event ⟨hsound, hsame⟩
    have hacts := act_cases hsound event
    refine ⟨hacts.sound hsound, hsame.trans ?_⟩
    obtain ⟨h₁, h₂, h₃, h₄, h₅, h₆, h₇⟩ := hacts.sameConfig
    exact ⟨h₁, h₂, h₃, h₄, h₅, h₆, h₇⟩

/-- A transition after which an operating pool operates. -/
theorem Acts.operating_chain {next} (h : Acts pool event acted)
    (hbefore : pool.state = .operating operating) (hafter : acted.state = .operating next) :
    (∃ idle turn, Chain event (Turn.begin { pool with state := .stopped } operating)
        { idle := idle } turn ∧
      (idle = true → Strands { pool with state := .stopped } operating event) ∧
      acted = turn.operate ∧ turn.operating = next) ∨
    ∃ shutdowns, next = operating ∧ acted = diagnose
      { pool with state := .stopped, shutdowns := shutdowns } (.operating operating) event := by
  cases h with
  | operating hstate hoperates hsettles =>
    obtain rfl := KeyedPoolState.operating.inj (hbefore.symm.trans hstate)
    rcases hsettles.cases with ⟨idle, turn, hchain, hidle, rfl⟩ |
      ⟨marks, turn, left, hchain, hleaves, hbatches⟩ | ⟨shutdowns, rfl⟩
    · exact .inl ⟨idle, turn, hchain, hidle, rfl, KeyedPoolState.operating.inj hafter⟩
    · exact absurd hafter (hbatches.state hleaves next)
    · exact .inr ⟨shutdowns, (KeyedPoolState.operating.inj hafter).symm, rfl⟩
  | retiring hstate hlent hretires => exact absurd hafter (hretires.state next)
  | idle hoperating hretiring => exact absurd hbefore (hoperating operating)

/-- A pool that operates after a transition operated before it. -/
theorem Acts.operated {next} (h : Acts pool event acted) (hafter : acted.state = .operating next) :
    ∃ operating, pool.state = .operating operating := by
  cases h with
  | @operating operating _ hstate hoperates hsettles => exact ⟨operating, hstate⟩
  | retiring hstate hlent hretires => exact absurd hafter (hretires.state next)
  | idle hoperating hretiring => exact ⟨next, hafter⟩

/-- **An operating pool has one cell for each declared role**, in order and with the
capacity of its configuration. -/
theorem run_roles (operating : KeyedOperating R)
    (hstate : (run config selector prepared events).pool.state = .operating operating) :
    operating.roles.map (fun cell => (cell.role, cell.capacity))
      = prepared.workers.map fun worker => (worker.role, config.backlog) := by
  refine (run_invariant (motive := fun journal => Sound journal.pool ∧
    ∀ operating, journal.pool.state = .operating operating →
      operating.roles.map (fun cell => (cell.role, cell.capacity))
        = prepared.workers.map fun worker => (worker.role, config.backlog)) config selector
    prepared ⟨begin_sound config selector prepared, ?_⟩ ?_ events).2 operating hstate
  · intro operating hoperating
    rcases begin_cases config selector prepared with ⟨_, heq⟩ |
      ⟨_, _, _, _, roles, -, -, heq, hroles, hborn⟩
    · rw [heq] at hoperating
      cases hoperating
    · rw [heq] at hoperating
      obtain rfl := KeyedPoolState.operating.inj hoperating
      have hpairs : roles.map (fun cell => (cell.role, cell.capacity))
          = (roles.map RoleCell.role).map fun role => (role, config.backlog) := by
        rw [List.map_map]
        exact List.map_congr_left fun cell hmem => by simp [(hborn cell hmem).2.2]
      show roles.map _ = _
      rw [hpairs, hroles, List.map_map]
      rfl
  · rintro journal event ⟨hsound, hdeclared⟩
    have hacts := act_cases hsound event
    refine ⟨hacts.sound hsound, fun next hafter => ?_⟩
    have hnext : (act journal.pool event).state = .operating next := hafter
    obtain ⟨operating, hoperating⟩ := hacts.operated hnext
    rw [← hdeclared operating hoperating]
    rcases hacts.operating_chain hoperating hnext with ⟨idle, turn, hchain, -, -, rfl⟩ |
      ⟨shutdowns, rfl, -⟩
    · refine hchain.map_roles fun cell cell' hrole hcapacity => ?_
      rw [hrole, hcapacity]
    · rfl

theorem run_roles_nodup (operating : KeyedOperating R)
    (hstate : (run config selector prepared events).pool.state = .operating operating) :
    (operating.roles.map RoleCell.role).Nodup := by
  have hroles := congrArg (List.map Prod.fst)
    (run_roles config selector prepared events operating hstate)
  rw [List.map_map, List.map_map] at hroles
  exact (show operating.roles.map RoleCell.role = prepared.workers.map (·.role) from hroles) ▸
    prepared.distinct

/-- Among distinct roles the pool finds each role at its own position. -/
theorem KeyedOperating.rolePosition_eq {position cell}
    (hnodup : (operating.roles.map RoleCell.role).Nodup)
    (hcell : operating.roles[position]? = some cell) :
    operating.rolePosition cell.role = some position := by
  obtain ⟨hlt, hget⟩ := List.getElem?_eq_some_iff.mp hcell
  refine List.findIdx?_eq_some_iff_getElem.mpr ⟨hlt, by simp [hget], fun other hother hsame => ?_⟩
  have hlength : (operating.roles.map RoleCell.role).length = operating.roles.length :=
    List.length_map _
  have hrole : (operating.roles.map RoleCell.role)[other]
      = (operating.roles.map RoleCell.role)[position] := by
    simpa [hget] using hsame
  have hposition := (List.Nodup.getElem_inj_iff hnodup).mp hrole
  omega

end

/-! ### A pool of numbered keys

The configurations and events the concrete runs of the later modules are made of.  Role
`i` of such a pool is created with identifier `i + 1`, its first attempt has token `2 * i`
and its initialization token `2 * i + 1`. -/

/-- Keys and management routes are numbers too. -/
abbrev keys : Router where
  base := numbers
  Key := ℕ
  keyOrder := inferInstance
  roleEq := inferInstanceAs (DecidableEq ℕ)
  Management := ℕ

namespace Keys

/-- One startup at a time, two jobs may wait for a role, interrupted jobs fail. -/
def config (recovery : PoolRecovery Unit) : Config keys :=
  ⟨⟨1, Nat.one_pos⟩, recovery, 2, ⟨2, Nat.two_pos⟩, .fail, .waitForActorGraph⟩

/-- Replace every worker, ten times in any minute, and retire a role otherwise. -/
def permanent : PoolRecovery Unit :=
  .permanent () ⟨10, 60, RestartLimit.ten_lt⟩ .immediate .retireRole

/-- Replace no worker, and retire a role that loses it. -/
def temporary : PoolRecovery Unit := .temporary .retireRole

/-- The roles `0, …, n - 1`. -/
def roles (n : ℕ) : PreparedRoster keys where
  workers := (List.range n).map fun i => ⟨i, (), ()⟩
  distinct := by
    rw [List.map_map]
    exact (List.map_id (List.range n)).symm ▸ List.nodup_range

/-- The first attempt of role `i`. -/
def attempt (i : ℕ) : WorkerAttempt := ⟨i + 1, 2 * i⟩

/-- Every worker of `n` roles is established. -/
def established (n : ℕ) : KeyedEvent keys :=
  .workerCreationsSettled (.settled ((List.range n).map fun i =>
    .attempted (.accepted (.established (i + 1) .birth i))))

/-- The worker of role `i` initializes and may start. -/
def initializes (i : ℕ) : KeyedEvent keys :=
  .workerInitialization (.readyForStartup (attempt i) ⟨attempt i, 2 * i + 1⟩ ()
    ⟨attempt i, ⟨attempt i, 2 * i + 1⟩, i⟩)

/-- The worker of role `i`, initialized, starts and is ready; `token` is that of its
grant. -/
def starts (i token : ℕ) : List (KeyedEvent keys) :=
  [.workerStartupReported ⟨attempt i, ⟨attempt i, token⟩, .started⟩,
    .workerStartupReported ⟨attempt i, ⟨attempt i, token⟩, .ready ()⟩]

/-- The first worker of role `i` stops. -/
def stops (i time : ℕ) : KeyedEvent keys := .workerStopped ⟨i + 1, .ok .normal, time⟩

end Keys

end Bombay.Keyed
