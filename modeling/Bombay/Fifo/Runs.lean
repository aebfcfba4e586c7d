/-
# Runs of a FIFO pool

`Operates` collects what an operating pool keeps in order between transitions, and
`Sound` what any state keeps about the worker source.  `act_cases` says what one
event can do to a sound pool, `run_sound` that every pool of every run is sound,
and `run_entries` is the rule the later modules use: what holds of each transition
from a good pool holds of every transition of a run.
-/

import Bombay.Fifo.Upkeep
import Bombay.Fifo.Wane

namespace Bombay.Fifo

variable {S : Signature}

/-! ### Between transitions -/

/-- **What an operating pool keeps in order.** -/
structure Operates (pool : FifoPool S) (operating : FifoOperating S) : Prop where
  work : WorkConserving operating
  slots : SlotsUsed pool.startup.maximum operating
  limit : operating.members.countP isOccupying ≤ pool.startup.maximum
  lent : Lent pool.recovery operating
  served : SourceServed pool.recovery operating
  serviceable : Serviceable pool.recovery operating
  waits : 0 < operating.members.countP isWaitingForSource → pool.recovery.recovers = true

/-- The state field of the pool itself does not matter. -/
theorem Operates.of_state {pool : FifoPool S} {operating : FifoOperating S}
    (h : Operates pool operating) {state : PoolState S} :
    Operates { pool with state := state } operating :=
  ⟨h.work, h.slots, h.limit, h.lent, h.served, h.serviceable, h.waits⟩

/-- **A pool whose state is in order.** -/
def Sound (pool : FifoPool S) : Prop :=
  match pool.state with
  | .constructed _ => pool.recovery.sourceAway = false
  | .operating operating => Operates pool operating
  | .draining members _ => RetiredLent pool.recovery members
  | .stopped => pool.recovery.sourceAway = false
  | .forcedRetirement members _ => RetiredLent pool.recovery members

variable {members : List (RetiringWorker S)} {turn : Turn S} {acted : Acted S}
    {deadline : ShutdownDeadline}

theorem RetiringLent.of_retired {pool} (h : RetiredLent pool.recovery members) :
    RetiringLent pool members := by
  intro member hmem hawaits
  by_contra haway
  rw [RetiredLent, if_neg haway] at h
  exact List.countP_eq_zero.mp h member hmem hawaits

/-! ### The beginning -/

/-- **`Member::begin` for each prepared worker**: the declared roles in order, each
waiting for its first worker. -/
theorem beginMembers_fst (prepared : List (PreparedWorker S)) (ids : List ℕ) (heap : ℕ)
    (actions : FifoActions S) (hlength : ids.length = prepared.length) :
    (beginMembers prepared ids heap actions).1.map Member.role = prepared.map (·.role) ∧
      ∀ member ∈ (beginMembers prepared ids heap actions).1, isFirstBorn member = true := by
  induction prepared generalizing ids heap actions with
  | nil => simp [beginMembers]
  | cons first rest ih =>
    cases ids with
    | nil => simp at hlength
    | cons creation ids =>
      obtain ⟨hroles, hborn⟩ := ih ids (heap + 2)
        (actions.create ⟨creation, first.submission.worker, .birth⟩ creation)
        (by simpa using hlength)
      refine ⟨?_, ?_⟩
      · simp only [beginMembers, List.map_cons]
        rw [← hroles]
        rfl
      · intro member hmem
        rcases List.mem_cons.mp hmem with rfl | hmem
        · rfl
        · exact hborn member hmem

section

variable (config : Config S) (prepared : List (PreparedWorker S)) (events : List (FifoEvent S))

/-- **A run begins** with every declared role in creation, or, without enough
identifiers, with a pool that was only constructed. -/
theorem begin_cases :
    (∃ creations, Journal.begin config prepared
      = ⟨{ FifoPool.build config prepared with creations := creations }, FifoActions.cont, []⟩) ∨
    ∃ creations heap ids actions members,
      issueAll prepared.length ⟨some 1⟩ = (some ids, creations) ∧
      beginMembers prepared ids 0 FifoActions.cont = (members, actions, heap) ∧
      Journal.begin config prepared
        = ⟨{ FifoPool.build config prepared with
              state := .operating ⟨members, OrderedMap.empty, 0⟩
              creations := creations
              heap := heap }, actions, []⟩ ∧
      members.map Member.role = prepared.map (·.role) ∧
      ∀ member ∈ members, isFirstBorn member = true := by
  rcases hissue : issueAll prepared.length ⟨some 1⟩ with ⟨_ | ids, creations⟩
  · exact .inl ⟨creations, by simp [Journal.begin, FifoPool.init, FifoPool.build, hissue]⟩
  · rcases hbegin : beginMembers prepared ids 0 (FifoActions.cont : FifoActions S) with
      ⟨members, actions, heap⟩
    have hfst := beginMembers_fst prepared ids 0 FifoActions.cont (issueAll_length hissue)
    rw [hbegin] at hfst
    exact .inr ⟨creations, heap, ids, actions, members, rfl, hbegin,
      by simp [Journal.begin, FifoPool.init, FifoPool.build, hissue, hbegin], hfst.1, hfst.2⟩

theorem begin_sound :
    Sound (Journal.begin config prepared).pool := by
  rcases begin_cases config prepared with ⟨creations, heq⟩ |
    ⟨creations, heap, ids, actions, members, -, -, heq, -, hborn⟩
  · rw [heq]
    exact PoolRecoveryState.ofRecovery_here config.recovery
  · rw [heq]
    have hidle : members.countP isIdle = 0 := countP_of_firstBorn hborn fun _ _ _ => rfl
    have hwaiting : members.countP isWaiting = 0 := countP_of_firstBorn hborn fun _ _ _ => rfl
    have hoccupying : members.countP isOccupying = 0 := countP_of_firstBorn hborn fun _ _ _ => rfl
    have hpreparing : members.countP isPreparing = 0 := countP_of_firstBorn hborn fun _ _ _ => rfl
    have hsource : members.countP isWaitingForSource = 0 :=
      countP_of_firstBorn hborn fun _ _ _ => rfl
    show Operates _ ⟨members, OrderedMap.empty, 0⟩
    refine ⟨.inr hidle, ?_, ?_, ?_, ?_, fun _ => .inl rfl, ?_⟩
    · intro h
      exact absurd hwaiting h.ne'
    · exact hoccupying.le.trans (Nat.zero_le _)
    · show members.countP isPreparing = if (PoolRecoveryState.ofRecovery _).sourceAway then 1 else 0
      rw [PoolRecoveryState.ofRecovery_here, hpreparing]
      rfl
    · intro h
      exact absurd hsource h.ne'
    · intro h
      exact absurd hsource h.ne'

/-! ### Leaving -/

/-- What one member adds to the actions of a shutdown. -/
def handOver (member : Member S) (id : Option ℕ) (actions : FifoActions S) : FifoActions S :=
  retainReturns member.role (member.shutdown id).custody
    (match (member.shutdown id).request with
      | some request => actions.shutdown request
      | none => actions)

theorem retireMembers_cons (ids : Option (List ℕ)) (member : Member S)
    (members : List (Member S)) (actions : FifoActions S) :
    retireMembers ids (member :: members) actions =
      ((member.shutdown (takeId ids member).1).member ::
        (retireMembers (takeId ids member).2 members
          (handOver member (takeId ids member).1 actions)).1,
        (retireMembers (takeId ids member).2 members
          (handOver member (takeId ids member).1 actions)).2) :=
  rfl

/-- A fact about each retired member that only its former self decides. -/
theorem retireMembers_map {β : Type} {f : RetiringWorker S → β} {g : Member S → β}
    (h : ∀ member id, f (Member.shutdown member id).member = g member) (ids : Option (List ℕ))
    (members : List (Member S)) (actions : FifoActions S) :
    (retireMembers ids members actions).1.map f = members.map g := by
  induction members generalizing ids actions with
  | nil => rfl
  | cons member members ih =>
    simp only [retireMembers_cons, List.map_cons, h, ih]

theorem retireMembers_countP {p : RetiringWorker S → Bool} {q : Member S → Bool}
    (h : ∀ member id, p (Member.shutdown member id).member = q member) (ids : Option (List ℕ))
    (members : List (Member S)) (actions : FifoActions S) :
    (retireMembers ids members actions).1.countP p = members.countP q := by
  have hmap := congrArg (List.countP id) (retireMembers_map h ids members actions)
  rwa [List.countP_map, List.countP_map] at hmap

/-- What `begin_shutdown` makes of the members and the actions. -/
def Turn.retired (turn : Turn S) (ids : Option (List ℕ)) :
    List (RetiringWorker S) × FifoActions S :=
  retireMembers ids turn.operating.members
    (returnQueued .poolShutdown turn.operating.backlog.values turn.actions)

/-- The number of shutdown identifiers `begin_shutdown` asks for. -/
def Turn.required (turn : Turn S) : ℕ :=
  turn.operating.members.countP fun member => member.shutdownTarget.isSome

/-- **What `begin_shutdown` can do**: the pool is out of identifiers, it drains, or
it has nothing to drain. -/
inductive Leaves (turn : Turn S) : Acted S → Prop
  | exhausted :
      Leaves turn ⟨turn.pool, .forcedRetirement (turn.retired none).1 .workerShutdownIdsExhausted,
        (turn.retired none).2.stop⟩
  | drain {ids} {deadline : ShutdownDeadline} {schedule} (shutdowns : Sequence)
      (hids : ids.length = turn.required)
      (hdeadline : ShutdownDeadline.begin turn.pool.actorDrain = (deadline, schedule)) :
      Leaves turn ⟨{ turn.pool with shutdowns := shutdowns },
        .draining (turn.retired (some ids)).1 deadline,
        { (turn.retired (some ids)).2 with
          restartSchedules := (turn.retired (some ids)).2.restartSchedules ++ schedule.toList }⟩
  | stop {ids shutdowns} (hids : ids.length = turn.required)
      (hdone : ∀ member ∈ (turn.retired (some ids)).1, member.waiting = false) :
      Leaves turn ⟨{ turn.pool with shutdowns := shutdowns }, .stopped,
        (turn.retired (some ids)).2.stop⟩

theorem beginShutdown_cases (turn : Turn S) : Leaves turn (beginShutdown turn) := by
  unfold beginShutdown
  dsimp only
  cases hreserve : turn.pool.shutdowns.reserve
      (turn.operating.members.countP fun member => member.shutdownTarget.isSome) with
  | none => exact .exhausted
  | some reserved =>
    obtain ⟨ids, shutdowns⟩ := reserved
    have hids : ids.length = turn.required := Sequence.reserve_length hreserve
    dsimp only
    split
    · rcases hdeadline : ShutdownDeadline.begin turn.pool.actorDrain with ⟨deadline, _ | schedule⟩
      · simpa [Turn.retired] using Leaves.drain shutdowns hids hdeadline
      · exact .drain shutdowns hids hdeadline
    · rename_i hany
      refine .stop hids fun member hmem => ?_
      exact Bool.eq_false_iff.mpr fun hwaiting => hany (List.any_eq_true.mpr ⟨member, hmem, hwaiting⟩)

/-- What a shutdown may diagnose: a completion that came too late, or a replacement
that is given up. -/
def Forgoes (cause : FifoDiagnosticCause S) : Prop :=
  (∃ report, cause = .unexpected (.workerCompleted report)) ∨
    ∃ role previous stopped submission,
      cause = .workerReplacementFailed role previous stopped submission none .poolShutdown

theorem retainReturns_diagnostics (role : S.Role) (custody : RetirementReturns S)
    (actions : FifoActions S) :
    ∃ added, (retainReturns role custody actions).diagnostics = actions.diagnostics ++ added ∧
      ∀ cause ∈ added, Forgoes cause := by
  cases custody with
  | noTransfer => exact ⟨[], by simp [retainReturns], by simp⟩
  | assignment assignment =>
    cases hcompletion : assignment.completion with
    | none => exact ⟨[], by simp [retainReturns, hcompletion, FifoActions.deliver], by simp⟩
    | some completion =>
      refine ⟨[.unexpected (.workerCompleted ⟨assignment.worker.creation, completion⟩)], ?_, ?_⟩
      · simp [retainReturns, hcompletion, FifoActions.deliver, FifoActions.diagnose]
      · intro cause hcause
        exact .inl ⟨_, List.mem_singleton.mp hcause⟩
  | replacement replacement =>
    refine ⟨[_], rfl, fun cause hcause => .inr ?_⟩
    exact ⟨_, _, _, _, List.mem_singleton.mp hcause⟩

theorem retireMembers_diagnostics (ids : Option (List ℕ)) (members : List (Member S))
    (actions : FifoActions S) :
    ∃ added, (retireMembers ids members actions).2.diagnostics = actions.diagnostics ++ added ∧
      ∀ cause ∈ added, Forgoes cause := by
  induction members generalizing ids actions with
  | nil => exact ⟨[], by simp [retireMembers], by simp⟩
  | cons member members ih =>
    obtain ⟨first, hfirst, hfirsts⟩ := retainReturns_diagnostics member.role
      (member.shutdown (takeId ids member).1).custody
      (match (member.shutdown (takeId ids member).1).request with
        | some request => actions.shutdown request
        | none => actions)
    obtain ⟨added, hadded, hforgoes⟩ := ih (takeId ids member).2
      (handOver member (takeId ids member).1 actions)
    refine ⟨first ++ added, ?_, ?_⟩
    · rw [retireMembers_cons, hadded, handOver, hfirst, List.append_assoc]
      cases (member.shutdown (takeId ids member).1).request <;> rfl
    · intro cause hcause
      exact (List.mem_append.mp hcause).elim (hfirsts cause) (hforgoes cause)

theorem Leaves.diagnostics (h : Leaves turn acted) :
    ∃ added, acted.actions.diagnostics = turn.actions.diagnostics ++ added ∧
      ∀ cause ∈ added, Forgoes cause := by
  have hretired (ids) : ∃ added, (turn.retired ids).2.diagnostics
      = turn.actions.diagnostics ++ added ∧ ∀ cause ∈ added, Forgoes cause := by
    obtain ⟨added, hadded, hforgoes⟩ := retireMembers_diagnostics ids turn.operating.members
      (returnQueued .poolShutdown turn.operating.backlog.values turn.actions)
    refine ⟨added, hadded.trans ?_, hforgoes⟩
    rw [returnQueued_eq]
  cases h with
  | exhausted => exact hretired none
  | drain | stop => exact hretired _

/-! ### One transition -/

variable {pool : FifoPool S} {event : FifoEvent S}

theorem retired_countP (turn : Turn S) (ids : Option (List ℕ)) :
    (turn.retired ids).1.countP isAwaitingPreparation
      = turn.operating.members.countP isPreparing :=
  retireMembers_countP (fun member id => (shutdown_member member id).2) _ _ _

/-- The state a handler returned, put back. -/
def Acted.next (acted : Acted S) : FifoPool S := { acted.pool with state := acted.state }

theorem Leaves.sound (h : Leaves turn acted)
    (hlent : Lent turn.pool.recovery turn.operating) : Sound acted.next := by
  have hretired (ids) : RetiredLent turn.pool.recovery (turn.retired ids).1 :=
    (retired_countP turn ids).trans hlent
  cases h with
  | exhausted => exact hretired none
  | drain => exact hretired _
  | stop hids hdone => exact (hretired _).sourceAway hdone

/-- **An operating pool stays in order.** -/
theorem Chain.operates {start} (h : Chain event start {} turn)
    (hoperates : Operates start.pool start.operating) : Operates turn.pool turn.operating where
  work := h.conserving rfl hoperates.work
  slots := h.slotsUsed rfl hoperates.slots
  limit := h.preserves (motive := WithinLimit) Move.withinLimit hoperates.limit
  lent := h.preserves (motive := fun turn => Lent turn.pool.recovery turn.operating) Move.lent
    hoperates.lent
  served := h.sourceServed rfl hoperates.served
  serviceable := h.serviceable rfl hoperates.serviceable
  waits := h.preserves (motive := WaitsToRecover) Move.waitsToRecover hoperates.waits

theorem Settles.sound {operating : FifoOperating S}
    (h : Settles pool operating event acted) (hoperates : Operates pool operating) :
    Sound acted.next := by
  cases h with
  | operate hchain => exact (hchain.operates hoperates).of_state
  | leave hchain =>
    exact (beginShutdown_cases _).sound (hchain.preserves
      (motive := fun turn => Lent turn.pool.recovery turn.operating) Move.lent hoperates.lent)
  | diagnosed shutdowns =>
    exact ⟨hoperates.work, hoperates.slots, hoperates.limit, hoperates.lent, hoperates.served,
      hoperates.serviceable, hoperates.waits⟩

/-- **A draining pool keeps track of its source.** -/
theorem Wane.retiredLent {before after} (h : Wane event before after)
    (hlent : RetiredLent before.pool.recovery before.members) :
    RetiredLent after.pool.recovery after.members := by
  cases h with
  | note => exact hlent
  | fade hmember hfades => cases hfades <;> exact hlent.set hmember rfl
  | restore hmember haway hhere => exact hlent.restored hmember rfl rfl haway hhere
  | unschedule hmember | establish shutdowns hmember => exact hlent.set hmember rfl
  | depart hmember | dismiss hmember => exact hlent.eraseIdx hmember rfl

/-- **What every move preserves holds after a sequence of them.** -/
theorem Waning.preserves {motive : Wake S → Prop} {start wake : Wake S}
    (h : Waning event start wake)
    (hmove : ∀ {before after}, Wane event before after → motive before → motive after)
    (hstart : motive start) : motive wake := by
  induction h with
  | start => exact hstart
  | move hwaning hwane ih => exact hmove hwane ih

/-- **`continue_draining`**: the deadline forces retirement, something still waits, or
the pool has stopped. -/
theorem continueDraining_cases (pool : FifoPool S) (members : List (RetiringWorker S))
    (deadline : ShutdownDeadline) (actions : FifoActions S) :
    (∃ cause, continueDraining pool members deadline actions
      = ⟨pool, .forcedRetirement members cause, actions.stop⟩) ∨
    continueDraining pool members deadline actions = ⟨pool, .draining members deadline, actions⟩ ∨
    continueDraining pool members deadline actions = ⟨pool, .stopped, actions.stop⟩ ∧
      ∀ member ∈ members, member.waiting = false := by
  have hgoes (next : ShutdownDeadline) (h : continueDraining pool members next actions
      = if members.any RetiringWorker.waiting then ⟨pool, .draining members next, actions⟩
        else ⟨pool, .stopped, actions.stop⟩) :
      continueDraining pool members next actions = ⟨pool, .draining members next, actions⟩ ∨
      continueDraining pool members next actions = ⟨pool, .stopped, actions.stop⟩ ∧
        ∀ member ∈ members, member.waiting = false := by
    cases hany : members.any RetiringWorker.waiting with
    | true =>
      rw [hany, if_pos rfl] at h
      exact .inl h
    | false =>
      rw [hany, if_neg Bool.false_ne_true] at h
      exact .inr ⟨h, by simpa using hany⟩
  cases deadline with
  | notScheduled settlement | elapsed elapsed => exact .inl ⟨_, rfl⟩
  | _ => exact .inr (hgoes _ rfl)

/-- **How a drain transition ends.**  Its moves are done, and the members that are left
force a retirement, go on draining or have nothing left to wait for; or the event is
handed back. -/
theorem Drains.ends (h : Drains pool members deadline event acted) :
    (∃ wake, Waning event (Wake.begin pool members) wake ∧ acted.pool = wake.pool ∧
      acted.actions = { wake.actions with
        customerOutcomes := acted.actions.customerOutcomes
        become := acted.actions.become } ∧
      (acted.actions.customerOutcomes = wake.actions.customerOutcomes ∨
        ∃ customer submission payload reason, acted.actions.customerOutcomes
          = [(customer, .rejected submission payload reason)]) ∧
      ((∃ cause, acted.state = .forcedRetirement wake.members cause) ∨
        (∃ next, acted.state = .draining wake.members next) ∨
        acted.state = .stopped ∧ ∀ member ∈ wake.members, member.waiting = false)) ∨
    acted = diagnose pool (.draining members deadline) event := by
  cases h with
  | @moved wake hwaning next =>
    refine .inl ⟨wake, hwaning, ?_⟩
    rcases continueDraining_cases wake.pool wake.members next wake.actions with
      ⟨cause, heq⟩ | heq | ⟨heq, hdone⟩ <;> rw [heq]
    · exact ⟨rfl, rfl, .inl rfl, .inl ⟨cause, rfl⟩⟩
    · exact ⟨rfl, rfl, .inl rfl, .inr (.inl ⟨next, rfl⟩)⟩
    · exact ⟨rfl, rfl, .inl rfl, .inr (.inr ⟨rfl, hdone⟩)⟩
  | @forced wake hwaning cause =>
    exact .inl ⟨wake, hwaning, rfl, rfl, .inl rfl, .inl ⟨cause, rfl⟩⟩
  | @returned wake hwaning =>
    exact .inl ⟨wake, hwaning, rfl, rfl, .inl rfl, .inr (.inl ⟨deadline, rfl⟩)⟩
  | diagnosed => exact .inr rfl
  | refused =>
    exact .inl ⟨_, .start, rfl, rfl, .inr ⟨_, _, _, _, rfl⟩, .inr (.inl ⟨deadline, rfl⟩)⟩

/-- A pool that drains never operates again. -/
theorem Drains.state (h : Drains pool members deadline event acted)
    (operating : FifoOperating S) : acted.state ≠ .operating operating := by
  intro hoperating
  rcases h.ends with ⟨wake, -, -, -, -, hstate⟩ | rfl
  · rw [hoperating] at hstate
    simp at hstate
  · simp [diagnose] at hoperating

theorem Drains.sound (h : Drains pool members deadline event acted)
    (hlent : RetiredLent pool.recovery members) : Sound acted.next := by
  rcases h.ends with ⟨wake, hwaning, hpool, -, -, hstate⟩ | rfl
  · have hwake := hwaning.preserves (motive := fun wake => RetiredLent wake.pool.recovery
      wake.members) Wane.retiredLent hlent
    rw [← hpool] at hwake
    rcases hstate with ⟨cause, hstate⟩ | ⟨next, hstate⟩ | ⟨hstate, hdone⟩
    · simpa only [Sound, Acted.next, hstate] using hwake
    · simpa only [Sound, Acted.next, hstate] using hwake
    · simpa only [Sound, Acted.next, hstate] using hwake.sourceAway hdone
  · exact hlent

/-- **What one event can do to a sound pool.** -/
inductive Acts (pool : FifoPool S) (event : FifoEvent S) : Acted S → Prop
  | operating {operating} {acted : Acted S} (hstate : pool.state = .operating operating)
      (hoperates : Operates pool operating)
      (hsettles : Settles { pool with state := .stopped } operating event acted) :
      Acts pool event acted
  | draining {members : List (RetiringWorker S)} {deadline : ShutdownDeadline} {acted : Acted S}
      (hstate : pool.state = .draining members deadline)
      (hlent : RetiredLent pool.recovery members)
      (hdrains : Drains { pool with state := .stopped } members deadline event acted) :
      Acts pool event acted
  /-- A pool that does not serve returns every event. -/
  | idle {step} (hoperating : ∀ operating, pool.state ≠ .operating operating)
      (hdraining : ∀ members deadline, pool.state ≠ .draining members deadline) :
      Acts pool event ⟨{ pool with state := .stopped }, pool.state,
        { FifoActions.cont.diagnose (.unexpected event) with become := step }⟩

/-- A pool that neither operates nor drains. -/
theorem acts_idle (hoperating : ∀ operating, pool.state ≠ .operating operating)
    (hdraining : ∀ members deadline, pool.state ≠ .draining members deadline) {state}
    (hstate : pool.state = state) (step : Step) :
    Acts pool event ⟨{ pool with state := .stopped }, state,
      { FifoActions.cont.diagnose (.unexpected event) with become := step }⟩ := by
  subst hstate
  exact .idle hoperating hdraining

theorem act_cases (hsound : Sound pool) (event : FifoEvent S) :
    Acts pool event (act pool event) := by
  unfold act
  cases hstate : pool.state with
  | constructed prepared => exact acts_idle (by simp [hstate]) (by simp [hstate]) hstate .continue'
  | operating operating =>
    have hoperates : Operates pool operating := by simpa only [Sound, hstate] using hsound
    have hlent : Lent ({ pool with state := .stopped } : FifoPool S).recovery operating :=
      hoperates.lent
    exact .operating hstate hoperates
      (operatingTransition_settles hlent.sourceLent hoperates.work event)
  | draining members deadline =>
    have hlent : RetiredLent ({ pool with state := .stopped } : FifoPool S).recovery members := by
      simpa only [Sound, hstate] using hsound
    exact .draining hstate hlent (drainingTransition_drains (.of_retired hlent) event)
  | stopped => exact acts_idle (by simp [hstate]) (by simp [hstate]) hstate .stop
  | forcedRetirement members cause =>
    exact acts_idle (by simp [hstate]) (by simp [hstate]) hstate .stop

theorem Acts.sound (h : Acts pool event acted) (hsound : Sound pool) :
    Sound acted.next := by
  cases h with
  | operating hstate hoperates hsettles =>
    exact hsettles.sound hoperates.of_state
  | draining hstate hlent hdrains => exact hdrains.sound hlent
  | idle => exact hsound

/-- A shutdown hands out no work. -/
theorem retireMembers_fresh (ids : Option (List ℕ)) (members : List (Member S)) {actions}
    (h : Fresh actions) : Fresh (retireMembers ids members actions).2 := by
  induction members generalizing ids actions with
  | nil => exact h
  | cons member members ih =>
    rw [retireMembers_cons]
    refine ih _ ?_
    unfold handOver retainReturns retainCancelledReplacement
    generalize (member.shutdown (takeId ids member).1).request = request
    cases (member.shutdown (takeId ids member).1).custody with
    | noTransfer | replacement replacement => cases request <;> exact h
    | assignment assignment =>
      cases request <;> rcases hcompletion : assignment.completion with _ | completion <;>
        simp only [hcompletion] <;> exact h

theorem Leaves.fresh (h : Leaves turn acted)
    (hfresh : Fresh turn.actions) : Fresh acted.actions := by
  have hretired (ids) : Fresh (turn.retired ids).2 := by
    refine retireMembers_fresh ids turn.operating.members ?_
    rw [returnQueued_eq]
    exact hfresh
  cases h with
  | exhausted => exact hretired none
  | drain | stop => exact hretired _

theorem Leaves.state (h : Leaves turn acted)
    (operating : FifoOperating S) : acted.state ≠ .operating operating := by
  cases h <;> simp

/-- A drain hands out no work. -/
theorem Wane.fresh {before after} (h : Wane event before after) (hfresh : Fresh before.actions) :
    Fresh after.actions := by
  cases h <;> exact hfresh

/-- **Work is handed out only by the moves of an operating pool**; any other event
leaves an operating state as it was, or leaves it for good. -/
theorem Acts.chain_or_fresh (h : Acts pool event acted) :
    (∃ operating turn, pool.state = .operating operating ∧
      Chain event ⟨{ pool with state := .stopped }, operating, FifoActions.cont⟩ {} turn ∧
      acted = turn.operate) ∨
    Fresh acted.actions ∧ ∀ operating, acted.state = .operating operating →
      pool.state = .operating operating := by
  cases h with
  | operating hstate hoperates hsettles =>
    cases hsettles with
    | operate hchain => exact .inl ⟨_, _, hstate, hchain, rfl⟩
    | leave hchain hfresh =>
      refine .inr ⟨(beginShutdown_cases _).fresh hfresh, fun operating hafter => ?_⟩
      exact absurd hafter ((beginShutdown_cases _).state operating)
    | diagnosed shutdowns => exact .inr ⟨⟨rfl, rfl⟩, fun operating hafter => hstate.trans hafter⟩
  | draining hstate hlent hdrains =>
    refine .inr ⟨?_, fun operating hoperating => absurd hoperating (hdrains.state operating)⟩
    rcases hdrains.ends with ⟨wake, hwaning, -, hactions, -⟩ | rfl
    · have hfresh := hwaning.preserves (motive := fun wake => Fresh wake.actions) Wane.fresh
        ⟨rfl, rfl⟩
      rw [hactions]
      exact hfresh
    · exact ⟨rfl, rfl⟩
  | idle hoperating => exact .inr ⟨⟨rfl, rfl⟩, fun operating hafter => absurd hafter (hoperating _)⟩

theorem Leaves.sameConfig (h : Leaves turn acted) :
    SameConfig turn.pool acted.pool := by
  cases h <;> exact ⟨rfl, rfl, rfl, rfl, rfl⟩

theorem Wane.sameConfig {before after} (h : Wane event before after) :
    SameConfig before.pool after.pool := by
  cases h with
  | restore hmember haway hhere hpolicy => exact ⟨rfl, rfl, rfl, rfl, hpolicy⟩
  | _ => exact ⟨rfl, rfl, rfl, rfl, rfl⟩

/-- **No event changes the configuration.** -/
theorem Acts.sameConfig (h : Acts pool event acted) :
    SameConfig pool acted.next := by
  cases h with
  | operating hstate hoperates hsettles =>
    cases hsettles with
    | operate hchain =>
      obtain ⟨h₁, h₂, h₃, h₄, h₅⟩ := hchain.sameConfig
      exact ⟨h₁, h₂, h₃, h₄, h₅⟩
    | leave hchain =>
      obtain ⟨h₁, h₂, h₃, h₄, h₅⟩ := hchain.sameConfig.trans (beginShutdown_cases _).sameConfig
      exact ⟨h₁, h₂, h₃, h₄, h₅⟩
    | diagnosed shutdowns => exact ⟨rfl, rfl, rfl, rfl, rfl⟩
  | draining hstate hlent hdrains =>
    rcases hdrains.ends with ⟨wake, hwaning, hpool, -⟩ | rfl
    · have hsame := hwaning.preserves
        (motive := fun wake => SameConfig { pool with state := .stopped } wake.pool)
        (fun hwane hsame => hsame.trans hwane.sameConfig) ⟨rfl, rfl, rfl, rfl, rfl⟩
      rw [← hpool] at hsame
      obtain ⟨h₁, h₂, h₃, h₄, h₅⟩ := hsame
      exact ⟨h₁, h₂, h₃, h₄, h₅⟩
    · exact ⟨rfl, rfl, rfl, rfl, rfl⟩
  | idle => exact ⟨rfl, rfl, rfl, rfl, rfl⟩

/-! ### Whole runs -/

/-- **Every pool of every run is in order.** -/
theorem run_sound : Sound (run config prepared events).pool :=
  run_invariant (motive := fun journal => Sound journal.pool) config prepared
    (begin_sound config prepared)
    (fun _ event hsound => (act_cases hsound event).sound hsound) events

/-- **Every pool of a run has the configuration it was built with.** -/
theorem run_sameConfig :
    SameConfig (FifoPool.build config prepared) (run config prepared events).pool := by
  refine (run_invariant (motive := fun journal => Sound journal.pool ∧
    SameConfig (FifoPool.build config prepared) journal.pool) config prepared ?_ ?_ events).2
  · refine ⟨begin_sound config prepared, ?_⟩
    rcases begin_cases config prepared with ⟨_, heq⟩ | ⟨_, _, _, _, _, -, -, heq, -⟩ <;>
      rw [heq] <;> exact ⟨rfl, rfl, rfl, rfl, rfl⟩
  · rintro journal event ⟨hsound, hsame⟩
    have hacts := act_cases hsound event
    exact ⟨hacts.sound hsound, hsame.trans hacts.sameConfig⟩

end

/-- The record of one transition. -/
def FifoPool.entry (pool : FifoPool S) (event : FifoEvent S) : Entry S :=
  ⟨pool, event, (pool.transition event).2, (pool.transition event).1⟩

theorem Journal.step_entries (journal : Journal S) (event : FifoEvent S) :
    (journal.step event).entries = journal.entries ++ [journal.pool.entry event] :=
  rfl

/-- **What every transition keeps, and says of itself, holds throughout a run.** -/
theorem run_entries {G : FifoPool S → Prop} {P : Entry S → Prop} (config : Config S)
    (prepared : List (PreparedWorker S)) (hbegin : G (Journal.begin config prepared).pool)
    (hstep : ∀ pool event, G pool →
      G (FifoPool.transition pool event).1 ∧ P (FifoPool.entry pool event))
    (events : List (FifoEvent S)) :
    G (run config prepared events).pool ∧ ∀ entry ∈ (run config prepared events).entries,
      P entry := by
  refine run_invariant (motive := fun journal => G journal.pool ∧
    ∀ entry ∈ journal.entries, P entry) config prepared ⟨hbegin, ?_⟩ ?_ events
  · rcases begin_cases config prepared with ⟨_, heq⟩ | ⟨_, _, _, _, _, -, -, heq, -⟩ <;>
      simp [heq]
  · rintro journal event ⟨hgood, hentries⟩
    obtain ⟨hnext, hentry⟩ := hstep journal.pool event hgood
    refine ⟨hnext, fun entry hmem => ?_⟩
    rw [Journal.step_entries] at hmem
    rcases List.mem_append.mp hmem with hmem | hmem
    · exact hentries entry hmem
    · rw [List.mem_singleton.mp hmem]
      exact hentry

/-! ### A pool of numbers

The configurations and events the concrete runs of the later modules are made of.  Role
`i` of such a pool is created with identifier `i + 1`, its first attempt has token `2 * i`
and its initialization token `2 * i + 1`. -/

namespace Numbers

/-- One startup at a time, one job may wait, interrupted jobs fail. -/
def config (recovery : PoolRecovery Unit) : Config numbers :=
  ⟨⟨1, Nat.one_pos⟩, recovery, 1, .fail, .waitForActorGraph⟩

/-- Replace every worker, ten times in any minute, and retire a role otherwise. -/
def permanent : PoolRecovery Unit :=
  .permanent () ⟨10, 60, RestartLimit.ten_lt⟩ .immediate .retireRole

/-- Replace no worker, and retire a role that loses it. -/
def temporary : PoolRecovery Unit := .temporary .retireRole

/-- The roles `0, …, n - 1`. -/
def roles (n : ℕ) : List (PreparedWorker numbers) := (List.range n).map fun i => ⟨i, (), ()⟩

/-- The first attempt of role `i`. -/
def attempt (i : ℕ) : WorkerAttempt := ⟨i + 1, 2 * i⟩

/-- Every worker of `n` roles is established. -/
def established (n : ℕ) : FifoEvent numbers :=
  .workerCreationsSettled (.settled ((List.range n).map fun i =>
    .attempted (.accepted (.established (i + 1) .birth i))))

/-- The worker of role `i` stops while it initializes. -/
def stopsEarly (i time : ℕ) : FifoEvent numbers :=
  .workerInitialization (.stopped (attempt i) ⟨attempt i, 2 * i + 1⟩ () ⟨i + 1, .ok .normal, time⟩)

/-- The worker of role `i` initializes and may start. -/
def initializes (i : ℕ) : FifoEvent numbers :=
  .workerInitialization (.readyForStartup (attempt i) ⟨attempt i, 2 * i + 1⟩ ()
    ⟨attempt i, ⟨attempt i, 2 * i + 1⟩, i⟩)

/-- The first worker of role `i` stops. -/
def stops (i time : ℕ) : FifoEvent numbers := .workerStopped ⟨i + 1, .ok .normal, time⟩

/-- A preparation begins, and a worker comes back from it. -/
def prepares (ticket : ℕ) : List (FifoEvent numbers) :=
  [.workerPreparationStarted (.attempted (.accepted ticket)),
    .workerPreparationReturned ⟨ticket, .prepared () [⟨0, (), ()⟩]⟩]

/-- The worker of role `i` initializes, and its effects are rejected. -/
def rejectsEffects (i : ℕ) : FifoEvent numbers :=
  .workerInitialization (.effectsRejected (attempt i) ⟨attempt i, 2 * i + 1⟩ () .effectsRejected)

end Numbers

end Bombay.Fifo
