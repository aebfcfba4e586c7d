/-
# Every handler is a chain of moves

The handlers of `queue/mod.rs` read as chains of the moves of
`Bombay.Fifo.Moves`.  The four repairs come first, one per mark: `fill_fifo`
leaves no idle worker beside a waiting job, `authorize_waiting` no free startup
slot, `prepare_next_waiting` no source unclaimed, and `return_unrecoverable_jobs`
no job without a worker.  Each handler then makes its own moves and calls the
repairs its marks ask for; `operatingTransition_settles` puts them together.
-/

import Bombay.Fifo.Moves

namespace Bombay.Fifo

variable {S : Signature} {event : FifoEvent S} {start turn : Turn S} {dirt : Dirt}

/-! ### Taking a member out and putting it back -/

/-- The turn while one member is taken out. -/
def Turn.take (turn : Turn S) (position : ℕ) : Turn S :=
  { turn with operating := turn.operating.remove position }

variable {operating : FifoOperating S} {position : ℕ} {member : Member S} {role : S.Role}
    {recoveries : RecoveryCount} {previous : WorkerAttempt} {stopped : ChildStopped S}

theorem FifoOperating.remove_insert
    (h : operating.members[position]? = some member) (next : Member S) :
    (operating.remove position).insert position next = operating.put position next := by
  have hlt := (List.getElem?_eq_some_iff.mp h).1
  simp only [remove, insert, put, Roster.insertIdx_eraseIdx hlt]

theorem FifoOperating.remove_insert_self (h : operating.members[position]? = some member) :
    (operating.remove position).insert position member = operating := by
  simp only [remove, insert, Roster.insertIdx_eraseIdx_self h]

theorem FifoOperating.remove_of_none
    (h : operating.members[position]? = none) : operating.remove position = operating := by
  simp only [remove, List.eraseIdx_of_length_le (List.getElem?_eq_none_iff.mp h)]

/-! ### `fill_fifo` -/

/-- An available position is that of an idle worker. -/
theorem availablePosition_some (h : operating.availablePosition = some position) :
    ∃ role recoveries current,
      operating.members[position]? = some ⟨role, recoveries, .worker current .idle⟩ := by
  rcases operating.availablePosition_cases with ⟨hnone, -⟩ | ⟨offset, -, hsome, hidle, -⟩
  · rw [hnone] at h
    exact absurd h (by simp)
  · rw [hsome, Option.some.injEq] at h
    obtain ⟨⟨role, recoveries, state⟩, hmember, hidle⟩ := hidle
    rw [h] at hmember
    unfold isIdle at hidle
    split at hidle
    · rename_i current hstate
      exact ⟨role, recoveries, current, by rw [hmember, ← hstate]⟩
    · simp at hidle

theorem availablePosition_none
    (h : operating.availablePosition = none) : operating.members.countP isIdle = 0 := by
  rcases operating.availablePosition_cases with ⟨-, hcount⟩ | ⟨offset, -, hsome, -⟩
  · exact hcount
  · rw [hsome] at h
    exact absurd h (by simp)

/-- **What `dispatch` does** where a worker is available: the job goes to it, or
no correlation is left and nothing changes. -/
theorem dispatch_cases (operating : FifoOperating S)
    (h : operating.availablePosition = some position) (assignments : Sequence) (heap : ℕ)
    (queued : QueuedJob S) :
    ∃ role recoveries current,
      operating.members[position]? = some ⟨role, recoveries, .worker current .idle⟩ ∧
      ((∃ assignment next, assignments.issue = some (assignment, next) ∧
          operating.dispatch assignments heap queued = ({ operating with
                members := operating.members.set position ⟨role, recoveries, .worker current
                  (.busy ⟨queued.customer, ⟨assignment, current.attempt, heap⟩,
                    .awaitingReceipt⟩)⟩
                cursor := position + 1 },
              next, heap + 1,
              .assigned ⟨current.recipient,
                ⟨queued.customer.payload, ⟨assignment, current.attempt, heap⟩⟩,
                ⟨assignment, current.attempt⟩⟩)) ∨
        (assignments.issue = none ∧ operating.dispatch assignments heap queued =
          (operating, assignments, heap, .correlationUnavailable queued))) := by
  obtain ⟨role, recoveries, current, hmember⟩ := availablePosition_some h
  refine ⟨role, recoveries, current, hmember, ?_⟩
  unfold FifoOperating.dispatch AssignmentSequence.assign
  simp only [h, hmember]
  cases hissue : assignments.issue with
  | none => exact .inr ⟨rfl, rfl⟩
  | some issued => exact .inl ⟨issued.1, issued.2, rfl, rfl⟩

theorem fillRounds_chain {fuel} (hchain : Chain event start dirt turn)
    (hfuel : turn.operating.backlog.length < fuel) :
    Chain event start { dirt with dispatch := false } (fillRounds fuel turn) := by
  -- The backlog shrinks in every round that does not end the loop.
  induction fuel generalizing turn with
  | zero => exact absurd hfuel (Nat.not_lt_zero _)
  | succ fuel ih =>
    unfold fillRounds
    cases hposition : turn.operating.availablePosition with
    | none => exact .cleanDispatch hchain (.inr (availablePosition_none hposition))
    | some position =>
      cases hfirst : turn.operating.backlog.popFirst with
      | none => exact .cleanDispatch hchain (.inl (OrderedMap.popFirst_eq_none hfirst))
      | some popped =>
        obtain ⟨⟨admitted, queued⟩, backlog⟩ := popped
        have hshorter : backlog.length < fuel := by
          have hentries := OrderedMap.popFirst_entries hfirst
          simp only [OrderedMap.length, hentries, List.length_cons] at hfuel ⊢
          omega
        obtain ⟨role, recoveries, current, hmember, hassigned | hunavailable⟩ :=
          dispatch_cases { turn.operating with backlog := backlog } hposition
            turn.pool.assignments turn.pool.heap queued
        · obtain ⟨assignment, next, hissue, hdispatch⟩ := hassigned
          simp only [hdispatch]
          have hmove := hchain.move (.dispatch hfirst hposition hmember hissue)
          rw [Dirt.merge_clean] at hmove
          exact ih hmove hshorter
        · obtain ⟨hissue, hdispatch⟩ := hunavailable
          simp only [hdispatch]
          have hmove := hchain.move (.returnHead hfirst hissue)
          rw [Dirt.merge_clean] at hmove
          exact ih hmove hshorter

/-- **`fill_fifo` leaves no idle worker beside a waiting job.** -/
theorem fillFifo_chain (hchain : Chain event start dirt turn) :
    Chain event start { dirt with dispatch := false } (fillFifo turn) :=
  fillRounds_chain hchain (Nat.lt_succ_self _)

/-- Where no idle worker stands beside a waiting job, `fill_fifo` does nothing. -/
theorem fillFifo_of_conserving (h : WorkConserving turn.operating) : fillFifo turn = turn := by
  unfold fillFifo fillRounds
  cases hposition : turn.operating.availablePosition with
  | none => rfl
  | some position =>
    obtain ⟨role, recoveries, current, hmember⟩ := availablePosition_some hposition
    rcases h with hempty | hidle
    · cases hfirst : turn.operating.backlog.popFirst with
      | none => rfl
      | some popped =>
        have hentries := OrderedMap.popFirst_entries hfirst
        exact absurd (hempty.symm.trans hentries) (by simp)
    · have hpos := Roster.countP_pos_of_getElem? (p := isIdle) hmember rfl
      omega

/-! ### `return_unrecoverable_jobs` -/

/-- **`return_unrecoverable_jobs` leaves no job without a worker.** -/
theorem returnUnrecoverableJobs_chain (hchain : Chain event start dirt turn) :
    Chain event start { dirt with service := false } (returnUnrecoverableJobs turn) := by
  unfold returnUnrecoverableJobs
  cases hposition : turn.operating.recoverablePosition turn.pool.recovery with
  | some position =>
    obtain ⟨member, hmember, hrecoverable, -⟩ := Roster.findIdx?_some hposition
    have hpos := Roster.countP_pos_of_getElem? hmember hrecoverable
    exact .cleanService hchain fun hzero => absurd hzero hpos.ne'
  | none =>
    have hmove := hchain.move (.returnAll hposition)
    rw [Dirt.merge_clean] at hmove
    exact .cleanService hmove fun _ => .inl rfl

/-! ### `authorize_waiting` -/

theorem isWaiting_cases (h : isWaiting member = true) :
    ∃ role recoveries current permit startup,
      member = ⟨role, recoveries, .worker current (.waitingForStartup permit startup)⟩ := by
  obtain ⟨role, recoveries, state⟩ := member
  unfold isWaiting at h
  split at h
  · rename_i current permit startup hstate
    exact ⟨role, recoveries, current, permit, startup, by rw [← hstate]⟩
  · simp at h

theorem authorizeSlots_chain {available} (hchain : Chain event start dirt turn)
    (hslots : available = turn.pool.startup.maximum - turn.operating.members.countP isOccupying) :
    Chain event start { dirt with startup := false } (authorizeSlots available turn) := by
  induction available generalizing turn with
  | zero =>
    have hfull : turn.pool.startup.maximum ≤ turn.operating.members.countP isOccupying := by omega
    exact .cleanStartup hchain fun _ => hfull
  | succ available ih =>
    unfold authorizeSlots
    cases hposition : turn.operating.members.findIdx? isWaiting with
    | none =>
      have hzero := Roster.findIdx?_none hposition
      exact .cleanStartup hchain fun hpos => absurd hzero hpos.ne'
    | some position =>
      obtain ⟨member, hmember, hwaiting, hfirst⟩ := Roster.findIdx?_some hposition
      obtain ⟨role, recoveries, current, permit, startup, rfl⟩ := isWaiting_cases hwaiting
      have hmove := hchain.move (.authorize hmember hfirst (by omega))
      rw [Dirt.merge_clean] at hmove
      have hcount := Roster.countP_set (p := isOccupying) hmember
        ⟨role, recoveries, .worker current
          (.startupRequested ⟨permit.worker, turn.pool.heap⟩ none)⟩
      simp only [hmember, Member.authorizeStartup, StartWorker.new, Turn.insert,
        FifoOperating.remove_insert hmember]
      refine ih hmove ?_
      show available = turn.pool.startup.maximum -
        (turn.operating.members.set position _).countP isOccupying
      simp only [isOccupying, Bool.false_eq_true, if_false, if_true] at hcount
      omega

/-- **`authorize_waiting` leaves no startup slot free while a worker waits.** -/
theorem authorizeWaiting_chain (hchain : Chain event start dirt turn) :
    Chain event start { dirt with startup := false } (authorizeWaiting turn) :=
  authorizeSlots_chain hchain rfl

/-! ### `prepare_next_waiting` -/

theorem isWaitingForSource_cases (h : isWaitingForSource member = true) :
    ∃ role recoveries previous stopped,
      member = ⟨role, recoveries, .recovering (.waitingForSource previous stopped)⟩ := by
  obtain ⟨role, recoveries, state⟩ := member
  unfold isWaitingForSource at h
  split at h
  · rename_i previous stopped hstate
    exact ⟨role, recoveries, previous, stopped, by rw [← hstate]⟩
  · simp at h

/-- **`prepare_next_waiting` leaves no source here while a role waits for it.** -/
theorem prepareNextWaiting_chain (hchain : Chain event start dirt turn) :
    Chain event start { dirt with source := false } (prepareNextWaiting turn) := by
  unfold prepareNextWaiting
  cases hposition : turn.operating.waitingRecoveryPosition with
  | none =>
    have hzero := Roster.findIdx?_none hposition
    exact .cleanSource hchain fun hpos => absurd hzero hpos.ne'
  | some position =>
    obtain ⟨member, hmember, hwaiting, -⟩ := Roster.findIdx?_some hposition
    obtain ⟨role, recoveries, previous, stopped, rfl⟩ := isWaitingForSource_cases hwaiting
    rcases turn.pool.recovery.claimWaitingSource_cases with
      ⟨recovery, source, hclaim, hhere, haway, hpolicy⟩ | ⟨hclaim, hhere⟩
    · have hmove := hchain.move (.claim source hmember hhere haway hpolicy)
      rw [Dirt.merge_clean] at hmove
      simp only [hmember, hclaim, requestPreparation, PrepareWorkers.new, Turn.insert,
        FifoOperating.remove_insert hmember]
      exact .cleanSource hmove fun _ => PoolRecoveryState.sourceHere_of_away haway
    · simp only [hmember, hclaim, Turn.insert, FifoOperating.remove_insert_self hmember]
      exact .cleanSource hchain fun _ => hhere

/-! ### Recovery -/

/-- A handler of the source is done: the moves end here, or in a shutdown that
found nothing handed out. -/
inductive Ends (event : FifoEvent S) (start : Turn S) (dirt : Dirt) : Acted S → Prop
  | operate {turn : Turn S} (hchain : Chain event start dirt turn) :
      Ends event start dirt turn.operate
  | leave {marks} {turn : Turn S} (hchain : Chain event start marks turn)
      (hfresh : Fresh turn.actions) : Ends event start dirt (beginShutdown turn)

theorem Ends.settles {pool acted} (h : Ends event ⟨pool, operating, FifoActions.cont⟩ {} acted) :
    Settles pool operating event acted := by
  cases h with
  | operate hchain => exact .operate hchain
  | leave hchain hfresh => exact .leave hchain hfresh

theorem beginShutdown_leaves (turn : Turn S) (operating : FifoOperating S) :
    (beginShutdown turn).state ≠ .operating operating := by
  unfold beginShutdown
  dsimp only
  split
  · simp
  · split <;> simp

/-- A decision puts a recovering or retired role where the worker was, and hands
nothing out. -/
theorem Decided.put {next} (h : Decided turn position role recoveries previous stopped dirt next) :
    (∃ state, next.operating = turn.operating.put position ⟨role, recoveries, state⟩ ∧
      ∀ current phase, state ≠ .worker current phase) ∧
    next.actions.workerAssignments = turn.actions.workerAssignments ∧
    next.actions.workerStartups = turn.actions.workerStartups := by
  cases h with
  | prepare | wait | retire => exact ⟨⟨_, rfl, by simp⟩, rfl, rfl⟩

/-- **What `recover_worker` does**: a decision, then the repairs it needs, or a
shutdown. -/
theorem recoverWorker_cases
    (hmember : turn.operating.members[position]? = some member) (role : S.Role)
    (recoveries : RecoveryCount) (previous : WorkerAttempt) (stopped : ChildStopped S) :
    ∃ dirt next, Decided turn position role recoveries previous stopped dirt next ∧
      ((recoverWorker (turn.take position) position role recoveries previous stopped
          = (fillFifo next).operate ∧ dirt = {}) ∨
        (recoverWorker (turn.take position) position role recoveries previous stopped
          = (returnUnrecoverableJobs (fillFifo next)).operate ∧ dirt = { service := true }) ∨
        recoverWorker (turn.take position) position role recoveries previous stopped
          = beginShutdown next) := by
  unfold recoverWorker
  rcases turn.pool.recovery.decide_cases (stopKind stopped.outcome) with
    ⟨recovery, source, hdecide, hhere, haway, hpolicy, heligible⟩ | ⟨hdecide, haway, heligible⟩ |
    ⟨hdecide, -⟩ |
    ⟨hdecide, -⟩
  · refine ⟨_, _, .prepare source hhere haway hpolicy heligible, .inl ⟨?_, rfl⟩⟩
    simp only [Turn.take, hdecide, requestPreparation, PrepareWorkers.new, Turn.insert,
      FifoOperating.remove_insert hmember]
  · refine ⟨_, _, .wait haway heligible, .inl ⟨?_, rfl⟩⟩
    simp only [Turn.take, hdecide, Turn.insert, FifoOperating.remove_insert hmember]
    rfl
  · refine ⟨_, _, .retire, .inr (.inl ⟨?_, rfl⟩)⟩
    simp only [Turn.take, hdecide, Turn.insert, FifoOperating.remove_insert hmember]
    rfl
  · refine ⟨_, _, .retire, .inr (.inr ?_)⟩
    simp only [Turn.take, hdecide, Turn.insert, FifoOperating.remove_insert hmember]
    rfl

/-- **`recover_worker`**, on a turn that any decision continues. -/
theorem recoverWorker_ends (startup dispatch : Bool)
    (hmember : turn.operating.members[position]? = some member) (hfresh : Fresh turn.actions)
    (hdecided : ∀ dirt next, Decided turn position role recoveries previous stopped dirt next →
      Chain event start { dirt with startup := startup, dispatch := dispatch } next) :
    Ends event start { startup := startup }
      (recoverWorker (turn.take position) position role recoveries previous stopped) := by
  obtain ⟨dirt, next, hnext, ⟨heq, rfl⟩ | ⟨heq, rfl⟩ | heq⟩ :=
    recoverWorker_cases hmember role recoveries previous stopped
  · rw [heq]
    exact .operate (fillFifo_chain (hdecided _ _ hnext))
  · rw [heq]
    exact .operate (returnUnrecoverableJobs_chain (fillFifo_chain (hdecided _ _ hnext)))
  · rw [heq]
    obtain ⟨-, hassignments, hstartups⟩ := hnext.put
    exact .leave (hdecided _ _ hnext) ⟨hassignments.trans hfresh.1, hstartups.trans hfresh.2⟩

theorem returnQueued_eq (reason : QueuedReturnReason) (queued : List (QueuedJob S))
    (actions : FifoActions S) :
    returnQueued reason queued actions =
      { actions with
        customerOutcomes := actions.customerOutcomes ++ queued.map fun queued =>
          (queued.customer.customer,
            .returnedQueued queued.customer.id queued.customer.payload reason) } := by
  unfold returnQueued
  induction queued generalizing actions with
  | nil => simp
  | cons head rest ih =>
    rw [List.foldl_cons, ih]
    simp [FifoActions.deliver]

theorem WorkConserving.put {before after} (h : WorkConserving operating)
    (hmember : operating.members[position]? = some before) (hafter : isIdle after = false) :
    WorkConserving (operating.put position after) := by
  refine h.imp_right fun hzero => ?_
  have hcount := Roster.countP_set (p := isIdle) hmember after
  simp only [hafter, Bool.false_eq_true, if_false] at hcount
  show (operating.members.set position after).countP isIdle = 0
  omega

/-- Where no idle worker stands beside a waiting job, recovery hands nothing out. -/
theorem recoverWorker_fresh (startup dispatch : Bool)
    (hmember : turn.operating.members[position]? = some member) (hfresh : Fresh turn.actions)
    (hwork : WorkConserving turn.operating)
    (hdecided : ∀ dirt next, Decided turn position role recoveries previous stopped dirt next →
      Chain event start { dirt with startup := startup, dispatch := dispatch } next) :
    ∃ marks next, Chain event start marks next ∧ Fresh next.actions ∧
      (recoverWorker (turn.take position) position role recoveries previous stopped
          = next.operate ∨
        recoverWorker (turn.take position) position role recoveries previous stopped
          = beginShutdown next) := by
  obtain ⟨dirt, next, hnext, hcases⟩ :=
    recoverWorker_cases hmember role recoveries previous stopped
  obtain ⟨⟨state, hput, hstate⟩, hassignments, hstartups⟩ := hnext.put
  have hfresh' : Fresh next.actions := ⟨hassignments.trans hfresh.1, hstartups.trans hfresh.2⟩
  have hidle : isIdle (⟨role, recoveries, state⟩ : Member S) = false := by
    cases state with
    | worker current phase => exact absurd rfl (hstate current phase)
    | _ => rfl
  have hfill : fillFifo next = next :=
    fillFifo_of_conserving (hput ▸ hwork.put hmember hidle)
  rcases hcases with ⟨heq, rfl⟩ | ⟨heq, rfl⟩ | heq
  · exact ⟨_, next, hdecided _ _ hnext, hfresh', .inl (by rw [heq, hfill])⟩
  · refine ⟨_, _, returnUnrecoverableJobs_chain (hdecided _ _ hnext), ?_, .inl (by rw [heq, hfill])⟩
    unfold returnUnrecoverableJobs
    split
    · exact hfresh'
    · rw [returnQueued_eq]
      exact hfresh'
  · exact ⟨_, next, hdecided _ _ hnext, hfresh', .inr heq⟩

/-- **`continue_after_pre_ready_stop`** also gives the startup slot away. -/
theorem continueAfterPreReadyStop_ends {startup}
    (hends : Ends event start { startup := startup }
      (recoverWorker turn position role recoveries previous stopped)) :
    Ends event start {}
      (continueAfterPreReadyStop turn position role recoveries previous stopped) := by
  unfold continueAfterPreReadyStop
  generalize recoverWorker turn position role recoveries previous stopped = acted at hends
  cases hends with
  | operate hchain => exact .operate (authorizeWaiting_chain hchain)
  | @leave marks turn hchain hfresh =>
    have hleaves := beginShutdown_leaves turn
    have hshutdown : Ends event start {} (beginShutdown turn) := .leave hchain hfresh
    generalize beginShutdown turn = acted at hleaves hshutdown
    obtain ⟨pool, state, actions⟩ := acted
    cases state with
    | operating operating => exact absurd rfl (hleaves operating)
    | _ => exact hshutdown

/-- **`retire_role_after_error`**, from a turn in which the role is retired. -/
theorem retireRoleAfterError_ends {next source service}
    (hnext : turn.insert position ⟨role, recoveries, .retired⟩ = next)
    (hchain : Chain event start { source := source, service := service } next)
    (hfresh : Fresh next.actions) :
    Ends event start {} (retireRoleAfterError turn position role recoveries) := by
  unfold retireRoleAfterError
  rw [hnext]
  cases hfailure : next.pool.recovery.failure with
  | retireRole =>
    simp only [hfailure]
    exact .operate
      (returnUnrecoverableJobs_chain (fillFifo_chain (prepareNextWaiting_chain hchain)))
  | stopPool =>
    simp only [hfailure]
    exact .leave hchain hfresh

end Bombay.Fifo
