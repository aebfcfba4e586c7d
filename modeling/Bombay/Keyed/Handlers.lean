/-
# Every handler of a keyed pool is a chain of moves

The handlers of `router/` read as chains of the moves of `Bombay.Keyed.Moves`.
The three repairs come first, one per mark: `fill_role` leaves no idle worker
beside a waiting job unless no correlation is left for it, `authorize_waiting`
no startup slot free, `prepare_next_waiting` no source unclaimed.  Then the ways
a member gives its place up: `recover_worker` and `retire_unrecovered_worker`.
-/

import Bombay.Keyed.Moves

namespace Bombay.Keyed

variable {R : Router} {event : KeyedEvent R} {start turn : Turn R} {marks : Marks} {position : ℕ}

/-! ### Taking a cell out and putting it back -/

/-- The roster while one cell is taken out. -/
def KeyedOperating.taken (operating : KeyedOperating R) (position : ℕ) : KeyedOperating R :=
  { operating with roles := operating.roles.eraseIdx position }

/-- The turn while one cell is taken out. -/
def Turn.take (turn : Turn R) (position : ℕ) : Turn R :=
  { turn with operating := turn.operating.taken position }

variable {operating : KeyedOperating R} {cell : RoleCell R} {frame frame' : Frame R}
    {before : MemberState R.workers} {pool' : KeyedPool R} {actions' : KeyedActions R}

theorem KeyedOperating.remove_eq (h : operating.roles[position]? = some cell) :
    operating.remove position = some (cell, operating.taken position) := by
  simp only [remove, h, taken]

theorem KeyedOperating.taken_insert
    (h : operating.roles[position]? = some cell) (next : RoleCell R) :
    (operating.taken position).insert position next = operating.put position next := by
  have hlt := (List.getElem?_eq_some_iff.mp h).1
  simp only [taken, insert, put, Roster.insertIdx_eraseIdx hlt]

theorem KeyedOperating.taken_insert_self (h : operating.roles[position]? = some cell) :
    (operating.taken position).insert position cell = operating := by
  simp only [taken, insert, Roster.insertIdx_eraseIdx_self h]

theorem Turn.take_insert (turn : Turn R)
    (h : turn.operating.roles[position]? = some cell) (next : RoleCell R) :
    (turn.take position).insert position next = turn.put position next := by
  simp only [take, insert, put, KeyedOperating.taken_insert h]

/-- A search over the members finds a cell, with none before it. -/
theorem KeyedOperating.find_some {accepts} (h : operating.find accepts = some position) :
    ∃ frame state, operating.roles[position]? = some (Frame.cell frame state) ∧
      accepts ⟨frame.role, frame.recoveries, state⟩ = true := by
  obtain ⟨⟨⟨role, recoveries, state⟩, queue, capacity⟩, hcell, haccepts, -⟩ :=
    Roster.findIdx?_some h
  exact ⟨⟨role, recoveries, queue, capacity⟩, state, hcell, haccepts⟩

theorem Conserving.put
    (h : Conserving operating) (hcell : isIdle cell.member = true → cell.queue.entries = []) :
    Conserving (operating.put position cell) :=
  Roster.forall_mem_set h hcell

/-! ### `fill_role` -/

/-- **What `fill_role` does** for an idle worker: nothing waits, the first job goes to
it, or the first job comes back. -/
theorem fillRole_cases {current}
    (hcell : turn.operating.roles[position]? = some (frame.cell (.worker current .idle))) :
    (frame.queue.entries = [] ∧ fillRole turn position = turn) ∨
    (∃ admitted customer queue assignment assignments,
      frame.queue.popFirst = some ((admitted, customer), queue) ∧
      turn.pool.assignments.issue = some (assignment, assignments) ∧
      fillRole turn position = turn.assigned position { frame with queue := queue } current
        customer assignment assignments) ∨
    ∃ admitted customer queue,
      frame.queue.popFirst = some ((admitted, customer), queue) ∧
      turn.pool.assignments.issue = none ∧
      fillRole turn position = { turn with
          operating := turn.operating.put position
            (Frame.cell { frame with queue := queue } (.worker current .idle))
          actions := returnWaiting customer .assignmentCorrelationExhausted turn.actions } := by
  unfold fillRole
  simp only [hcell, Frame.cell]
  cases hfirst : frame.queue.popFirst with
  | none => exact .inl ⟨OrderedMap.popFirst_eq_none hfirst, rfl⟩
  | some popped =>
    obtain ⟨⟨admitted, customer⟩, queue⟩ := popped
    right
    unfold AssignmentSequence.assign
    cases hissue : turn.pool.assignments.issue with
    | some issued =>
      obtain ⟨assignment, assignments⟩ := issued
      exact .inl ⟨admitted, customer, queue, assignment, assignments, rfl, rfl, rfl⟩
    | none => exact .inr ⟨admitted, customer, queue, rfl, rfl, rfl⟩

/-- **`fill_role` leaves no idle worker beside a waiting job**, unless two jobs wait and no
correlation is left. -/
theorem fillRole_chain {current} (hchain : Chain event start marks turn)
    (hoperating : turn.operating = start.operating.put position (frame.cell (.worker current .idle)))
    (hstart : start.operating.roles[position]? = some cell) (hqueue : cell.queue = frame.queue)
    (haims : Aims event start.operating position) :
    ∃ idle, Chain event start { marks with idle := idle } (fillRole turn position) ∧
      (idle = true → turn.pool.assignments.issue = none ∧ 2 ≤ cell.queue.length) := by
  have hlt := (List.getElem?_eq_some_iff.mp hstart).1
  have hcell : turn.operating.roles[position]? = some (frame.cell (.worker current .idle)) := by
    rw [hoperating]
    exact List.getElem?_set_self hlt
  rcases fillRole_cases hcell with
    ⟨hempty, hfill⟩ | ⟨admitted, customer, queue, assignment, assignments, hfirst, hissue, hfill⟩ |
    ⟨admitted, customer, queue, hfirst, hissue, hfill⟩
  · refine ⟨false, ?_, by simp⟩
    rw [hfill]
    refine .settleIdle hchain fun hconserving => ?_
    rw [hoperating]
    exact hconserving.put fun _ => hempty
  · refine ⟨false, ?_, by simp⟩
    rw [hfill]
    refine .settleIdle (hchain.clean (.fill hcell haims hstart hqueue hfirst hissue)) ?_
    intro hconserving
    show Conserving (turn.operating.put position _)
    rw [hoperating]
    simp only [KeyedOperating.put, List.set_set]
    exact Roster.forall_mem_set hconserving fun hidle => absurd hidle Bool.false_ne_true
  · have hmove : Chain event start { marks with idle := true } (fillRole turn position) := by
      rw [hfill]
      simpa [Marks.merge] using hchain.move (.refuse hcell haims hfirst hissue)
    by_cases hleft : queue.entries = []
    · refine ⟨false, ?_, by simp⟩
      have hsettled := Chain.settleIdle hmove
      refine hsettled fun hconserving => ?_
      rw [hfill]
      show Conserving (turn.operating.put position _)
      rw [hoperating]
      simp only [KeyedOperating.put, List.set_set]
      exact Roster.forall_mem_set hconserving fun _ => hleft
    · refine ⟨true, hmove, fun _ => ⟨hissue, ?_⟩⟩
      rw [hqueue, OrderedMap.length, OrderedMap.popFirst_entries hfirst, List.length_cons]
      have hpos := List.length_pos_of_ne_nil hleft
      omega

/-! ### `authorize_waiting` -/

theorem isWaiting_cases {state}
    (h : isWaiting (⟨frame.role, frame.recoveries, state⟩ : Member R.workers) = true) :
    ∃ current permit startup, state = .worker current (.waitingForStartup permit startup) := by
  unfold isWaiting at h
  split at h
  · rename_i current permit startup hstate
    exact ⟨current, permit, startup, hstate⟩
  · simp at h

theorem authorizeSlots_chain {available} (hchain : Chain event start marks turn)
    (hslots : available = turn.pool.startup.maximum
      - turn.operating.roles.countP fun cell => isOccupying cell.member) :
    Chain event start { marks with slot := false } (authorizeSlots available turn) := by
  induction available generalizing turn with
  | zero =>
    have hfull : turn.pool.startup.maximum
        ≤ turn.operating.roles.countP fun cell => isOccupying cell.member := by omega
    exact .settleSlot hchain fun _ => hfull
  | succ available ih =>
    unfold authorizeSlots
    cases hposition : turn.operating.find isWaiting with
    | none =>
      have hzero := Roster.findIdx?_none hposition
      exact .settleSlot hchain fun hpos => absurd hzero hpos.ne'
    | some position =>
      obtain ⟨frame, state, hcell, hwaiting⟩ := KeyedOperating.find_some hposition
      obtain ⟨current, permit, startup, rfl⟩ := isWaiting_cases hwaiting
      have hmove := hchain.clean (.authorize hcell (by omega))
      have hcount := Roster.countP_set (p := fun cell => isOccupying cell.member) hcell
        (frame.cell (.worker current (.startupRequested ⟨permit.worker, turn.pool.heap⟩ none)))
      simp only [KeyedOperating.remove_eq hcell, Frame.cell, Member.authorizeStartup,
        StartWorker.new, KeyedOperating.taken_insert hcell]
      refine ih hmove ?_
      show available = turn.pool.startup.maximum -
        (turn.operating.roles.set position _).countP fun cell => isOccupying cell.member
      have hbefore : isOccupying (frame.cell
          (.worker current (.waitingForStartup permit startup))).member = false := rfl
      have hafter : isOccupying (frame.cell (.worker current
          (.startupRequested ⟨permit.worker, turn.pool.heap⟩ none))).member = true := rfl
      rw [hbefore, hafter] at hcount
      simp only [Bool.false_eq_true, if_false, if_true] at hcount
      simp only [Frame.cell] at hcount ⊢
      omega

/-- **`authorize_waiting` leaves no startup slot free while a worker waits.** -/
theorem authorizeWaiting_chain (hchain : Chain event start marks turn) :
    Chain event start { marks with slot := false } (authorizeWaiting turn) :=
  authorizeSlots_chain hchain rfl

/-! ### `prepare_next_waiting` -/

theorem isWaitingForSource_cases {state}
    (h : isWaitingForSource (⟨frame.role, frame.recoveries, state⟩ : Member R.workers) = true) :
    ∃ previous stopped, state = .recovering (.waitingForSource previous stopped) := by
  unfold isWaitingForSource at h
  split at h
  · rename_i previous stopped hstate
    exact ⟨previous, stopped, hstate⟩
  · simp at h

/-- **What `prepare_next_waiting` does**: nothing, where the source is away or no role waits
for it, or a role that waits is lent the source. -/
theorem prepareNextWaiting_cases (turn : Turn R) :
    (prepareNextWaiting turn = turn ∧ SourceServed turn.pool.recovery turn.operating) ∨
    ∃ position, ∃ frame : Frame R, ∃ previous stopped recovery source,
      turn.operating.roles[position]?
        = some (frame.cell (.recovering (.waitingForSource previous stopped))) ∧
      turn.pool.recovery.sourceHere = true ∧ recovery.sourceAway = true ∧
      recovery.policy = turn.pool.recovery.policy ∧
      prepareNextWaiting turn =
        { pool := { turn.pool with recovery := recovery, heap := turn.pool.heap + 1 }
          operating := turn.operating.put position (frame.cell
            (.recovering (.preparing previous stopped (.issued turn.pool.heap))))
          actions := turn.actions.prepare ⟨turn.pool.heap, source, frame.role, []⟩ } := by
  unfold prepareNextWaiting
  cases hposition : turn.operating.waitingRecoveryPosition with
  | none =>
    have hzero := Roster.findIdx?_none hposition
    exact .inl ⟨rfl, fun hpos => absurd hzero hpos.ne'⟩
  | some position =>
    obtain ⟨frame, state, hcell, hwaiting⟩ := KeyedOperating.find_some hposition
    obtain ⟨previous, stopped, rfl⟩ := isWaitingForSource_cases hwaiting
    simp only [KeyedOperating.remove_eq hcell, Frame.cell]
    rcases turn.pool.recovery.claimWaitingSource_cases with
      ⟨recovery, source, hclaim, hhere, haway, hpolicy⟩ | ⟨hclaim, hhere⟩
    · refine .inr ⟨position, frame, previous, stopped, recovery, source, hcell, hhere, haway,
        hpolicy, ?_⟩
      simp only [hclaim, requestPreparation, PrepareWorkers.new, Turn.insert,
        KeyedOperating.taken_insert hcell]
      rfl
    · refine .inl ⟨?_, fun _ => hhere⟩
      simp only [hclaim]
      have hself := KeyedOperating.taken_insert_self hcell
      simp only [Frame.cell] at hself
      simp only [RoleCell.frame, hself]

/-- **`prepare_next_waiting` leaves no source here while a role waits for it.** -/
theorem prepareNextWaiting_chain (hchain : Chain event start marks turn) :
    Chain event start { marks with source := false } (prepareNextWaiting turn) := by
  rcases prepareNextWaiting_cases turn with ⟨heq, hserved⟩ |
    ⟨position, frame, previous, stopped, recovery, source, hcell, hhere, haway, hpolicy, heq⟩
  · rw [heq]
    exact .settleSource hchain hserved
  · rw [heq]
    exact .settleSource (hchain.clean (.serve source hcell hhere haway hpolicy))
      fun _ => PoolRecoveryState.sourceHere_of_away haway

/-! ### A member gives its place up -/

/-- A worker of the first roster works on the job it has. -/
theorem works_self (hcell : operating.roles[position]? = some cell) :
    ∀ customer ∈ customersOf cell.member, Works operating position customer :=
  fun _ hmem => ⟨cell, hcell, hmem⟩

/-- **`retire_role`** seats a cleared role. -/
theorem retireRole_seats (turn : Turn R)
    (hcell : turn.operating.roles[position]? = some cell) (frame : Frame R) :
    Seats turn position frame false (retireRole (turn.take position) position frame) := by
  have heq : retireRole (turn.take position) position frame =
      { turn with
        operating := KeyedOperating.put
          { turn.operating with
            bindings := (turn.operating.bindings.retireRole frame.role).2 } position
          (Frame.cell { frame with queue := OrderedMap.empty } .retired)
        actions := removeBindings (turn.operating.bindings.retireRole frame.role).1
          (returnQueue frame.queue .rolePermanentlyUnavailable turn.actions) } := by
    have hlt := (List.getElem?_eq_some_iff.mp hcell).1
    simp only [retireRole, Turn.take, KeyedOperating.taken, KeyedOperating.insert,
      KeyedOperating.put, Roster.insertIdx_eraseIdx hlt]
  rw [heq]
  exact .clear

/-- `prepare_next_waiting` leaves every cell alone that does not wait for the source. -/
theorem prepareNextWaiting_getElem? {index : ℕ} (hcell : turn.operating.roles[index]? = some cell)
    (hwaiting : isWaitingForSource cell.member = false) :
    (prepareNextWaiting turn).operating.roles[index]? = some cell := by
  rcases prepareNextWaiting_cases turn with ⟨heq, -⟩ |
    ⟨position, frame, previous, stopped, recovery, source, hget, -, -, -, heq⟩
  · rw [heq]
    exact hcell
  · rw [heq]
    have hne : position ≠ index := by
      rintro rfl
      rw [hget, Option.some.injEq] at hcell
      subst hcell
      exact absurd hwaiting (by simp [Frame.cell, isWaitingForSource])
    exact (List.getElem?_set_ne hne).trans hcell

/-- What becomes of a job that `recover_worker` is handed. -/
def Kept (interrupted : Option (CustomerJob R.workers)) (frame : Frame R)
    (actions : KeyedActions R) (actions' : KeyedActions R) (frame' : Frame R) : Prop :=
  match interrupted with
  | none => actions' = actions ∧ frame' = frame
  | some customer => Disposes frame actions customer actions' frame'

theorem keepInterrupted_kept (interruption : Interruption)
    (interrupted : Option (CustomerJob R.workers)) (frame : Frame R) (actions : KeyedActions R) :
    Kept interrupted frame actions (keepInterrupted interruption interrupted frame actions).2
      (keepInterrupted interruption interrupted frame actions).1 := by
  cases interrupted with
  | none => exact ⟨rfl, rfl⟩
  | some customer =>
    cases interruption with
    | fail => exact .returned .workerStopped
    | retry => exact .requeued

theorem returnInterrupted_kept (interruption : Interruption) (retry : KeyedAssignedReturnReason)
    (interrupted : Option (CustomerJob R.workers)) (frame : Frame R) (actions : KeyedActions R) :
    Kept interrupted frame actions (returnInterrupted interruption retry interrupted actions)
      frame := by
  cases interrupted with
  | none => exact ⟨rfl, rfl⟩
  | some customer =>
    cases interruption with
    | fail => exact .returned .workerStopped
    | retry => exact .returned retry

section Turnover

variable (hchain : Chain event start {} turn)
    (hcell : turn.operating.roles[position]? = some (frame.cell before))
    (haims : Aims event start.operating position)
    (hworks : ∀ customer ∈ customersOf (frame.cell before).member,
      Works start.operating position customer)

include hchain hcell haims hworks

section

variable {restored : Bool}
    (hvacates : Vacates event turn.pool turn.actions frame restored before pool' actions' frame')

include hvacates

/-- A member gives its place up and something is seated there. -/
theorem Chain.turnover {doomed next}
    (hseats : Seats ⟨pool', turn.operating, actions'⟩ position frame' doomed next) :
    Chain event start { source := restored, vacant := doomed } next := by
  have hmove := hchain.move (.turnover hcell haims hworks hvacates hseats)
  rwa [Marks.clean_merge] at hmove

/-- **What `retire_unrecovered_worker` does**: it clears the role and serves the next one
that waits, or it retires the pool. -/
theorem retireUnrecoveredWorker_cases :
    (∃ next, Chain event start {} next ∧
      retireUnrecoveredWorker ⟨pool', turn.operating.taken position, actions'⟩ position frame'
        = next.operate ∧
      ∀ index, index ≠ position → ∀ cell, turn.operating.roles[index]? = some cell →
        isWaitingForSource cell.member = false → next.operating.roles[index]? = some cell) ∨
    ∃ marks next, Chain event start marks next ∧
      retireUnrecoveredWorker ⟨pool', turn.operating.taken position, actions'⟩ position frame'
        = beginRetirement next ∧
      ∀ index, index ≠ position → ∀ cell, turn.operating.roles[index]? = some cell →
        next.operating.roles[index]? = some cell := by
  unfold retireUnrecoveredWorker
  cases pool'.recovery.failure with
  | retireRole =>
    have hseats := retireRole_seats ⟨pool', turn.operating, actions'⟩ hcell frame'
    refine .inl ⟨_, prepareNextWaiting_chain
      (hchain.turnover hcell haims hworks hvacates hseats), rfl, ?_⟩
    intro index hindex cell hget hwaiting
    refine prepareNextWaiting_getElem? ?_ hwaiting
    have hlt := (List.getElem?_eq_some_iff.mp hcell).1
    show ((turn.operating.roles.eraseIdx position).insertIdx position _)[index]? = some cell
    rw [Roster.insertIdx_eraseIdx hlt]
    exact (List.getElem?_set_ne (Ne.symm hindex)).trans hget
  | stopPool =>
    have hinsert := Turn.take_insert ⟨pool', turn.operating, actions'⟩ hcell
      (frame'.cell .retired)
    refine .inr ⟨_, _, hchain.turnover hcell haims hworks hvacates .doom,
      congrArg beginRetirement hinsert, fun index hindex cell hget => ?_⟩
    exact (List.getElem?_set_ne (Ne.symm hindex)).trans hget

/-- **`retire_unrecovered_worker`.** -/
theorem retireUnrecoveredWorker_ends :
    Ends event start {}
      (retireUnrecoveredWorker ⟨pool', turn.operating.taken position, actions'⟩ position
        frame') := by
  rcases retireUnrecoveredWorker_cases hchain hcell haims hworks hvacates with
    ⟨next, hnext, heq, -⟩ | ⟨marks, next, hnext, heq, -⟩
  · rw [heq]
    exact .operate hnext
  · rw [heq]
    exact .leave hnext

end

/-- **What `recover_worker` does**: it operates on after a turnover, or retires the pool. -/
theorem recoverWorker_ends {interrupted}
    (hvacates : ∀ actions'' frame'', Kept interrupted frame' actions' actions'' frame'' →
      Vacates event turn.pool turn.actions frame false before turn.pool actions'' frame'')
    (previous : WorkerAttempt) (stopped : ChildStopped R.workers) :
    Ends event start {}
      (recoverWorker ⟨turn.pool, turn.operating.taken position, actions'⟩ position frame' previous
        stopped interrupted) := by
  have hput := fun cell => KeyedOperating.taken_insert hcell cell
  unfold recoverWorker
  rcases turn.pool.recovery.decide_cases (stopKind stopped.outcome) with
    ⟨recovery, source, hdecide, hhere, haway, hpolicy, -⟩ | ⟨hdecide, haway, -⟩ | ⟨hdecide, -⟩ |
    ⟨hdecide, -⟩
  · have hkept := keepInterrupted_kept turn.pool.interruption interrupted frame' actions'
    have hturn := hchain.turnover hcell haims hworks (hvacates _ _ hkept)
      (.lend previous stopped source hhere haway hpolicy)
    simp only [hdecide, requestPreparation, PrepareWorkers.new, Turn.insert, hput]
    exact .operate hturn
  · have hkept := keepInterrupted_kept turn.pool.interruption interrupted frame' actions'
    have hturn := hchain.turnover hcell haims hworks (hvacates _ _ hkept) (.wait previous stopped haway)
    simp only [hdecide, Turn.insert, hput]
    exact .operate hturn
  · have hkept := returnInterrupted_kept turn.pool.interruption .rolePermanentlyUnavailable
      interrupted frame' actions'
    have hseats := retireRole_seats ⟨turn.pool, turn.operating,
      returnInterrupted turn.pool.interruption .rolePermanentlyUnavailable interrupted actions'⟩
      hcell frame'
    have hturn := hchain.turnover hcell haims hworks (hvacates _ _ hkept) hseats
    simp only [hdecide]
    exact .operate hturn
  · have hkept := returnInterrupted_kept turn.pool.interruption .poolShutdown interrupted frame'
      actions'
    have hturn := hchain.turnover hcell haims hworks (hvacates _ _ hkept) .doom
    simp only [hdecide, Turn.insert, hput]
    exact .leave hturn

end Turnover

/-- A retirement never operates on. -/
theorem beginRetirement_leaves (turn : Turn R) (operating : KeyedOperating R) :
    (beginRetirement turn).state ≠ .operating operating := by
  unfold beginRetirement continueRetirement
  dsimp only
  split
  · simp
  · split
    · simp
    · simp
    · split <;> simp

/-- What ended in a retirement, or is retired now, has left. -/
theorem Ends.retire {acted} (h : Ends event start marks acted) :
    ∃ more next, Chain event start more next ∧
      (match acted.state with
        | .operating operating => beginRetirement ⟨acted.pool, operating, acted.actions⟩
        | _ => acted) = beginRetirement next := by
  cases h with
  | operate hchain => exact ⟨_, _, hchain, rfl⟩
  | leave hchain =>
    rename_i more turn
    refine ⟨more, turn, hchain, ?_⟩
    have hleaves := beginRetirement_leaves turn
    generalize beginRetirement turn = acted at hleaves
    split
    · rename_i operating hstate
      exact absurd hstate (hleaves operating)
    · rfl

end Bombay.Keyed
