/-
# What each event does to an operating pool

One lemma per handler of `queue/mod.rs`: the event settles by moves that leave
nothing undone, by moves and a shutdown, or as a diagnostic (`Settles`).  The
searches of the handlers are read back first: a position they find holds a
member in the phase they look for.

Two facts about the pool are needed on the way, and both are invariants of every
run: a role that prepares has the source away, and no idle worker stands beside a
waiting job.
-/

import Bombay.Fifo.Handlers

namespace Bombay.Fifo

variable {S : Signature} {pool : FifoPool S} {operating : FifoOperating S}
  {event : FifoEvent S}

/-- A turn that has just begun. -/
def Turn.begin (pool : FifoPool S) (operating : FifoOperating S) : Turn S :=
  ⟨pool, operating, FifoActions.cont⟩

theorem fresh_cont : Fresh (FifoActions.cont : FifoActions S) := ⟨rfl, rfl⟩

/-- One move from the beginning. -/
theorem Chain.single {start next dirt} (hmove : Move event dirt start next) :
    Chain event start dirt next := by
  have hchain := Chain.start.move hmove
  rwa [Dirt.clean_merge] at hchain

/-- One move that leaves nothing undone. -/
theorem settles_move {next} (hmove : Move event {} (Turn.begin pool operating) next) :
    Settles pool operating event next.operate :=
  (Ends.operate (Chain.single hmove)).settles

/-- A diagnostic from the beginning. -/
theorem Chain.noted {start cause} (hplain : Plain event start.actions.diagnostics cause) :
    Chain event start {} (start.note cause) :=
  Chain.single (.note hplain)

theorem settles_error {Input : Type} {input : Input} {constructor : Input → FifoEvent S}
    {result : Except (FifoOperating S × Input) (Acted S)}
    (h : result = .error (operating, input)) :
    Settles pool operating (constructor input) (settle pool constructor result) := by
  rw [h]
  exact .diagnosed pool.shutdowns

variable {position : ℕ} {role : S.Role} {recoveries : RecoveryCount} {current : CurrentWorker S}

/-- A member that only changes its phase. -/
theorem settles_shift {before after}
    (hmember : operating.members[position]? = some ⟨role, recoveries, before⟩)
    (hshift : Shift event before after) :
    Settles pool operating event ⟨pool, .operating ((operating.remove position).insert position
      ⟨role, recoveries, after⟩), FifoActions.cont⟩ := by
  rw [FifoOperating.remove_insert hmember]
  exact (Ends.operate (Chain.single (.shift hmember hshift fresh_cont))).settles

/-! ### Submissions -/

/-- **What a submission can do**: it is turned away, it waits below the capacity, or it
goes to an idle worker while nothing waits. -/
inductive Submits (pool : FifoPool S) (operating : FifoOperating S) (submission : ℕ)
    (payload : S.Job) (customer : S.Customer) : Turn S → Prop
  | refused {reason : AdmissionRejection} {jobs}
      (hjobs : jobs = pool.jobs ∨ ∃ job, pool.jobs.issue = some (job, jobs)) :
      Submits pool operating submission payload customer
        (((Turn.begin pool operating).withJobs jobs).deliver customer
          (.rejected submission payload reason))
  | queued {job jobs} (hissue : pool.jobs.issue = some (job, jobs))
      (hserve : ∃ position, operating.recoverablePosition pool.recovery = some position)
      (hbusy : operating.availablePosition = none) (hroom : operating.backlog.length < pool.backlog) :
      Submits pool operating submission payload customer
        ((((Turn.begin pool operating).withJobs jobs).enqueue
          ⟨⟨job, job, payload, customer⟩, none⟩).deliver customer (.accepted submission job))
  | assigned {job position : ℕ} {jobs} {role : S.Role} {recoveries : RecoveryCount}
      {current : CurrentWorker S} {assignment assignments}
      (hissue : pool.jobs.issue = some (job, jobs))
      (hposition : operating.availablePosition = some position)
      (hmember : operating.members[position]? = some ⟨role, recoveries, .worker current .idle⟩)
      (hassign : pool.assignments.issue = some (assignment, assignments)) :
      Submits pool operating submission payload customer
        ((((Turn.begin pool operating).withJobs jobs).assigned position role recoveries current
          ⟨job, job, payload, customer⟩ assignment assignments).deliver customer
          (.accepted submission job))

/-- **`accept_submission`.** -/
theorem acceptSubmission_cases (pool : FifoPool S) (operating : FifoOperating S)
    (submission : ℕ) (payload : S.Job) (customer : S.Customer) :
    Submits pool operating submission payload customer
      (acceptSubmission pool operating submission payload customer) := by
  unfold acceptSubmission
  cases hserve : operating.recoverablePosition pool.recovery with
  | none => exact .refused (.inl rfl)
  | some recoverable =>
    dsimp only
    split
    · exact .refused (.inl rfl)
    · rename_i hroom
      cases hissue : pool.jobs.issue with
      | none => exact .refused (.inl rfl)
      | some issued =>
        obtain ⟨job, jobs⟩ := issued
        cases hposition : operating.availablePosition with
        | none =>
          refine .queued hissue ⟨recoverable, hserve⟩ hposition ?_
          rw [hposition] at hroom
          exact Nat.lt_of_not_le fun hfull => hroom ⟨rfl, hfull⟩
        | some position =>
          obtain ⟨role, recoveries, current, hmember, hassigned | hunavailable⟩ :=
            dispatch_cases operating hposition pool.assignments pool.heap
              ⟨⟨job, job, payload, customer⟩, none⟩
          · obtain ⟨assignment, assignments, hassign, hdispatch⟩ := hassigned
            simp only [hdispatch]
            exact .assigned hissue hposition hmember hassign
          · obtain ⟨hnone, hdispatch⟩ := hunavailable
            simp only [hdispatch]
            exact .refused (.inr ⟨job, hissue⟩)

theorem acceptSubmission_settles (hwork : WorkConserving operating) (submission : ℕ)
    (payload : S.Job) (customer : S.Customer) :
    Settles pool operating (.command (.submit submission payload customer))
      (acceptSubmission pool operating submission payload customer).operate := by
  have hsubmits := acceptSubmission_cases pool operating submission payload customer
  generalize acceptSubmission pool operating submission payload customer = turn at hsubmits ⊢
  cases hsubmits with
  | refused hjobs => exact settles_move (.refuse rfl hjobs)
  | queued hissue hserve hbusy hroom =>
    exact settles_move (.queue rfl hissue hserve hbusy hroom fresh_cont)
  | assigned hissue hposition hmember hassign =>
    have hempty : operating.backlog.entries = [] := hwork.resolve_right
      (Roster.countP_pos_of_getElem? (p := isIdle) hmember rfl).ne'
    exact settles_move (.serve rfl hissue hposition hmember hassign hempty fresh_cont)

/-! ### Preparations and replacements -/

section Preparations

variable {position : ℕ} {role : S.Role} {recoveries : RecoveryCount}
  {previous : WorkerAttempt} {stopped : ChildStopped S}
  {preparation : WorkerPreparationExpectation}

variable {source : S.Source}

variable (hmember : operating.members[position]?
      = some ⟨role, recoveries, .recovering (.preparing previous stopped preparation)⟩)
    (haway : pool.recovery.sourceAway = true)

include hmember haway

/-- **`reject_preparation`** with the source away. -/
theorem rejectPreparation_ends {error}
    (hevent : Returns event preparation)
    (herror : error ≠ .sourceStateCorrupt) :
    Ends event (Turn.begin pool operating) {}
      (rejectPreparation pool (operating.remove position) position role recoveries previous
        stopped source error) := by
  obtain ⟨recovery, hrestore, hhere, hpolicy⟩ :=
    PoolRecoveryState.restoreSource_of_away haway source
  unfold rejectPreparation restoreOr
  simp only [hrestore]
  have hcause : RestoredFailure role previous stopped pool.restarts
      (.workerPreparationFailed role previous stopped none error) := ⟨rfl, rfl, rfl, herror⟩
  refine retireRoleAfterError_ends ?_
    (Chain.single (.deny hmember haway hhere hpolicy hcause hevent)) fresh_cont
  simp only [Turn.insert, FifoOperating.remove_insert hmember]
  rfl

/-- **`return_source_after_failed_replacement`** with the source away. -/
theorem returnSource_ends {submission error}
    (hevent : Returns event preparation)
    (hcause : RestoredFailure role previous stopped pool.restarts
      (.workerReplacementFailed role previous stopped submission none error)) :
    Ends event (Turn.begin pool operating) {}
      (returnSourceAfterFailedReplacement pool (operating.remove position) position role
        recoveries previous stopped source submission error) := by
  obtain ⟨recovery, hrestore, hhere, hpolicy⟩ :=
    PoolRecoveryState.restoreSource_of_away haway source
  unfold returnSourceAfterFailedReplacement restoreOr rejectReplacement
  simp only [hrestore]
  refine retireRoleAfterError_ends ?_
    (Chain.single (.deny hmember haway hhere hpolicy hcause hevent)) fresh_cont
  simp only [Turn.insert, Turn.note, FifoOperating.remove_insert hmember]
  rfl

/-- **A ready preparation** is admitted, at once or after a delay, or denied. -/
theorem admitReplacement_ends {submission limit release returned}
    (hreturn : preparation.acceptsReturn returned = true)
    (hlimit : restartPolicy pool.recovery = some (limit, release))
    (hready : ∃ first rest, returned.outcome = .prepared source (first :: rest)) :
    Ends (.workerPreparationReturned returned) (Turn.begin pool operating) {}
      (admitReplacement pool (operating.remove position) position limit release
        ⟨role, recoveries, previous, stopped, source, submission⟩) := by
  have hevent : Returns (.workerPreparationReturned returned) preparation :=
    .inr ⟨returned, rfl, hreturn⟩
  unfold admitReplacement
  rcases admitRestart_cases recoveries pool.restarts limit release stopped.at' ⟨1, Nat.one_pos⟩
    with ⟨reason, hdenied, hreason⟩ | ⟨budget, delay, hproposed, hbudget⟩
  · simp only [hdenied]
    exact returnSource_ends hmember haway hevent ⟨rfl, rfl, rfl, hreason⟩
  · have hadmits : pool.admits returned stopped = true := by
      obtain ⟨first, rest, hready⟩ := hready
      simp only [FifoPool.admits, hlimit, hready, hbudget]
    simp only [hproposed, RestartProposal.decline, RestartProposal.accept]
    cases delay with
    | immediate =>
      cases hissue : pool.creations.issue with
      | none =>
        simp only [issueRelease, hissue]
        exact returnSource_ends hmember haway hevent ⟨rfl, rfl, rfl, by simp⟩
      | some issued =>
        obtain ⟨creation, creations⟩ := issued
        obtain ⟨recovery, hrestore, hhere, hpolicy⟩ :=
          PoolRecoveryState.restoreSource_of_away haway source
        simp only [issueRelease, hissue, hrestore, replaceMember, Member.beginReplacement,
          Member.start, WorkerAttempt.issued, InitializationAttempt.issued, Turn.insert,
          FifoOperating.remove_insert hmember]
        exact .operate (prepareNextWaiting_chain (Chain.single (.replaceNow hmember haway hhere
          hpolicy hbudget hissue rfl hreturn hadmits rfl)))
    | delayed delay =>
      cases htimer : ScheduleKey.issue pool.nextRestartTimer with
      | none =>
        simp only [issueRelease, issueRestartTimer, htimer]
        exact returnSource_ends hmember haway hevent ⟨rfl, rfl, rfl, by simp⟩
      | some issued =>
        obtain ⟨timer, next⟩ := issued
        obtain ⟨recovery, hrestore, hhere, hpolicy⟩ :=
          PoolRecoveryState.restoreSource_of_away haway source
        simp only [issueRelease, issueRestartTimer, htimer, hrestore, Turn.insert,
          FifoOperating.remove_insert hmember]
        exact .operate (prepareNextWaiting_chain (Chain.single (.schedule hmember haway hhere
          hpolicy hbudget htimer rfl hreturn hadmits rfl)))

end Preparations

/-- A role that prepares has the source away. -/
def SourceLent (pool : FifoPool S) (operating : FifoOperating S) : Prop :=
  ∀ member ∈ operating.members, isPreparing member = true → pool.recovery.sourceAway = true

/-- **`accept_worker_preparation_start`.** -/
theorem acceptWorkerPreparationStart_settles (hsource : SourceLent pool operating)
    (input : PreparationStarted S) :
    Settles pool operating (.workerPreparationStarted input)
      (settle pool .workerPreparationStarted
        (acceptWorkerPreparationStart pool operating input)) := by
  cases hposition : operating.preparationStartPosition input with
  | none => exact settles_error (by simp only [acceptWorkerPreparationStart, hposition])
  | some position =>
    obtain ⟨⟨role, recoveries, state⟩, hmember, hfound, -⟩ := Roster.findIdx?_some hposition
    split at hfound
    case h_2 => simp at hfound
    rename_i previous stopped expected hstate
    simp only at hstate
    subst hstate
    have haway := hsource _ (List.mem_of_getElem? hmember) rfl
    have hfailed : ∀ source fault, (∀ ticket, input ≠ .attempted (.accepted ticket)) →
        Settles pool operating (.workerPreparationStarted input)
          (rejectPreparation pool (operating.remove position) position role recoveries previous
            stopped source (WorkerPreparationStartFault.error fault)) :=
      fun source fault hinput => (rejectPreparation_ends hmember haway
        (.inl ⟨input, rfl, hfound, hinput⟩)
        (by cases fault <;> simp [WorkerPreparationStartFault.error])).settles
    unfold acceptWorkerPreparationStart settle
    simp only [hposition, hmember, Member.acceptPreparationStart,
      RecoveringWorker.acceptPreparationStart, hfound, if_true]
    rcases input with (ticket | ⟨item, reason⟩ | ⟨item, fault⟩) | item
    · cases expected with
      | started expected => simp [WorkerPreparationExpectation.acceptsIssued] at hfound
      | issued expected =>
        simp only [WorkerPreparationExpectation.acceptsIssued, preparationStartAccepts] at hfound
        simp only [WorkerPreparationExpectation.acceptStart, hfound, if_true]
        exact settles_shift hmember (.preparationStarted rfl)
    · exact reason.elim
    · exact hfailed item.source _ (by simp)
    · exact hfailed item.source _ (by simp)

/-- **`accept_worker_preparation_return`.** -/
theorem acceptWorkerPreparationReturn_settles (hsource : SourceLent pool operating)
    (input : WorkerPreparation S) :
    Settles pool operating (.workerPreparationReturned input)
      (settle pool .workerPreparationReturned
        (acceptWorkerPreparationReturn pool operating input)) := by
  cases hpolicy : restartPolicy pool.recovery with
  | none => exact settles_error (by simp only [acceptWorkerPreparationReturn, hpolicy])
  | some policy =>
    obtain ⟨limit, release⟩ := policy
    cases hposition : operating.preparationReturnPosition input with
    | none =>
      exact settles_error (by simp only [acceptWorkerPreparationReturn, hpolicy, hposition])
    | some position =>
      obtain ⟨⟨role, recoveries, state⟩, hmember, hfound, -⟩ := Roster.findIdx?_some hposition
      split at hfound
      case h_2 => simp at hfound
      rename_i previous stopped expected hstate
      simp only at hstate
      subst hstate
      have haway := hsource _ (List.mem_of_getElem? hmember) rfl
      have hevent : Returns (.workerPreparationReturned input) expected :=
        .inr ⟨input, rfl, hfound⟩
      unfold acceptWorkerPreparationReturn settle
      simp only [hpolicy, hposition, hmember, Member.acceptPreparationReturn,
        RecoveringWorker.acceptPreparationReturn, hfound, if_true]
      obtain ⟨ticket, outcome⟩ := input
      cases outcome with
      | prepared source members =>
        cases hlast : members.getLast? with
        | some prepared =>
          simp only [hlast]
          refine (admitReplacement_ends hmember haway hfound hpolicy ?_).settles
          obtain ⟨first, rest, rfl⟩ := List.exists_cons_of_ne_nil
            (List.ne_nil_of_mem (List.mem_of_getLast? hlast))
          exact ⟨first, rest, rfl⟩
        | none =>
          simp only [hlast, FifoOperating.remove_insert_self hmember]
          exact .diagnosed pool.shutdowns
      | workerRejected source members failed reason remaining
      | sourceRejected source failed reason remaining =>
        exact (rejectPreparation_ends hmember haway hevent (by simp)).settles

/-- **`accept_restart_schedule`.** -/
theorem acceptRestartSchedule_settles (input : ScheduleSettled) :
    Settles pool operating (.restartScheduleSettled input)
      (settle pool .restartScheduleSettled (acceptRestartSchedule pool operating input)) := by
  cases hposition : operating.restartSchedulePosition input with
  | none => exact settles_error (by simp only [acceptRestartSchedule, hposition])
  | some position =>
    obtain ⟨⟨role, recoveries, state⟩, hmember, hfound, -⟩ := Roster.findIdx?_some hposition
    split at hfound
    case h_2 => simp at hfound
    rename_i recovering hstate
    simp only at hstate
    subst hstate
    unfold RecoveringWorker.acceptsRestartSchedule at hfound
    split at hfound
    case h_2 => simp at hfound
    rename_i previous stopped submission timer
    have hreturned : Ends (.restartScheduleSettled input) (Turn.begin pool operating) {}
        (rejectReplacement ⟨pool, operating.remove position, FifoActions.cont⟩ position role
          recoveries previous stopped submission none (.restartScheduleReturned input)) := by
      refine retireRoleAfterError_ends ?_ (Chain.single (.retireDelayed hmember
        (.inl ⟨rfl, input, rfl, hfound, rfl⟩))) fresh_cont
      simp only [Turn.insert, Turn.note, FifoOperating.remove_insert hmember]
      rfl
    unfold acceptRestartSchedule settle
    simp only [hposition, hmember, RecoveringWorker.admitRestartSchedule, hfound, if_true]
    rcases input with (accepted | ⟨item, reason⟩ | ⟨item, fault⟩) | item
    · exact settles_shift hmember (.scheduled rfl hfound)
    · exact hreturned.settles
    · exact hreturned.settles
    · exact hreturned.settles

/-- **`accept_restart_timer`.** -/
theorem acceptRestartTimer_settles (elapsed : TimerElapsed) :
    Settles pool operating (.restartElapsed elapsed)
      (settle pool .restartElapsed (acceptRestartTimer pool operating elapsed)) := by
  cases hposition : operating.restartTimerPosition elapsed with
  | none => exact settles_error (by simp only [acceptRestartTimer, hposition])
  | some position =>
    obtain ⟨⟨role, recoveries, state⟩, hmember, hfound, -⟩ := Roster.findIdx?_some hposition
    split at hfound
    case h_2 => simp at hfound
    rename_i recovering hstate
    simp only at hstate
    subst hstate
    unfold RecoveringWorker.acceptsRestartTimer at hfound
    split at hfound
    case h_2 => simp at hfound
    rename_i previous stopped submission timer
    unfold acceptRestartTimer settle
    simp only [hposition, hmember, RecoveringWorker.admitRestartTimer, ScheduleKey.admitElapsed,
      hfound, if_true]
    cases hissue : pool.creations.issue with
    | none =>
      refine Ends.settles (retireRoleAfterError_ends ?_ (Chain.single
        (.retireDelayed hmember (.inr ⟨rfl, rfl⟩))) fresh_cont)
      simp only [Turn.insert, Turn.note, FifoOperating.remove_insert hmember]
    | some issued =>
      obtain ⟨creation, creations⟩ := issued
      simp only [replaceMember, Member.beginReplacement, Member.start, WorkerAttempt.issued,
        InitializationAttempt.issued, Turn.insert, FifoOperating.remove_insert hmember]
      have hmove : Move (.restartElapsed elapsed) {} (Turn.begin pool operating) _ :=
        .replaceDelayed hmember hissue
      exact settles_move hmove

/-! ### Stopped workers -/

section Stops

variable {start turn middle : Turn S} {position : ℕ} {role : S.Role}
  {recoveries : RecoveryCount} {current : CurrentWorker S} {stopped : ChildStopped S}

variable {requeues : Bool}

theorem Disposed.members {customer} (h : Disposed turn role customer requeues middle) :
    middle.operating.members = turn.operating.members := by
  cases h <;> rfl

theorem Disposed.fresh {customer} (h : Disposed turn role customer requeues middle)
    (hfresh : Fresh turn.actions) :
    Fresh middle.actions := by
  cases h <;> exact hfresh

/-- **A worker without a job has stopped.** -/
theorem halt_ends {phase} (hchain : Chain event start {} turn)
    (hmember : turn.operating.members[position]?
      = some ⟨role, recoveries, .worker current phase⟩)
    (hphase : ∀ assigned, phase ≠ .busy assigned)
    (hhalts : Halts event turn.actions.diagnostics current phase stopped)
    (hfresh : Fresh turn.actions) :
    Ends event start
      { startup := isOccupying (⟨role, recoveries, .worker current phase⟩ : Member S) }
      (recoverWorker (turn.take position) position role recoveries current.attempt stopped) := by
  refine recoverWorker_ends _ false hmember hfresh fun dirt next hdecided => ?_
  have hmove := hchain.move (.halt hmember hphase hhalts hfresh hdecided)
  rwa [Dirt.clean_merge] at hmove

variable {assigned : AssignedJob S} (hchain : Chain event start {} turn)
    (hmember : turn.operating.members[position]?
      = some ⟨role, recoveries, .worker current (.busy assigned)⟩)
    (hhalts : Halts event turn.actions.diagnostics current (.busy assigned) stopped)
    (hdisposed : Disposed turn role assigned.customer requeues middle) (hfresh : Fresh turn.actions)
    (hfirst : requeues = true → turn.actions.customerOutcomes = [])

include hchain hmember hhalts hdisposed hfresh hfirst

/-- What follows once the job of a stopped worker is disposed of. -/
theorem haltBusy_chain (dirt : Dirt) (next : Turn S)
    (hdecided : Decided middle position role recoveries current.attempt stopped dirt next) :
    Chain event start { dirt with startup := false, dispatch := requeues } next := by
  have hmove := hchain.move (.haltBusy hmember hhalts hdisposed hfresh hfirst hdecided)
  rwa [Dirt.clean_merge] at hmove

/-- **A worker with a job has stopped.** -/
theorem haltBusy_ends :
    Ends event start {}
      (recoverWorker (middle.take position) position role recoveries current.attempt
        stopped) :=
  recoverWorker_ends false requeues (hdisposed.members ▸ hmember) (hdisposed.fresh hfresh)
    (haltBusy_chain hchain hmember hhalts hdisposed hfresh hfirst)

end Stops

/-! ### Assignments -/

section Assignments

variable {position : ℕ} {role : S.Role} {recoveries : RecoveryCount}
  {current : CurrentWorker S} {assigned : AssignedJob S}

/-- **`complete_assignment`.** -/
theorem completeAssignment_ends (result : S.WorkerResult)
    (hmember : operating.members[position]?
      = some ⟨role, recoveries, .worker current (.busy assigned)⟩) :
    Ends event (Turn.begin pool operating) {}
      (completeAssignment pool (operating.remove position) position role recoveries current
        assigned.customer result assigned.observedStop) := by
  unfold completeAssignment
  cases hstop : assigned.observedStop with
  | none =>
    simp only [Turn.insert, FifoOperating.remove_insert hmember]
    exact .operate (fillFifo_chain (Chain.single (.complete hmember hstop fresh_cont)))
  | some stopped =>
    exact haltBusy_ends Chain.start hmember (.inl hstop) (.completed result) fresh_cont
      fun _ => rfl

/-- **`interrupt_assignment`.** -/
theorem interruptAssignment_ends {stopped}
    (hmember : operating.members[position]?
      = some ⟨role, recoveries, .worker current (.busy assigned)⟩)
    (hhalts : ∀ diagnostics, Halts event diagnostics current (.busy assigned) stopped)
    (hevent : ∀ report, event ≠ .workerCompleted report) (lateCompletion : Option (Completion S)) :
    Ends event (Turn.begin pool operating) {}
      (interruptAssignment pool (operating.remove position) position role recoveries current
        assigned.customer stopped lateCompletion) := by
  -- A late completion is a diagnostic of its own, before anything else.
  have hlate (completion : Completion S) : Plain event []
      (.unexpected (.workerCompleted ⟨current.attempt.creation, completion⟩)) :=
    fun h => absurd h.symm (hevent _)
  unfold interruptAssignment
  cases pool.interruption with
  | fail =>
    cases lateCompletion with
    | none =>
      exact haltBusy_ends Chain.start hmember (hhalts _) (.returned .workerStopped) fresh_cont
        fun _ => rfl
    | some completion =>
      exact haltBusy_ends (Chain.noted (hlate completion)) hmember (hhalts _)
        (.returned .workerStopped) fresh_cont fun _ => rfl
  | retry =>
    cases lateCompletion with
    | none =>
      exact haltBusy_ends Chain.start hmember (hhalts _) .requeued fresh_cont fun _ => rfl
    | some completion =>
      exact haltBusy_ends (Chain.noted (hlate completion)) hmember (hhalts _) .requeued
        fresh_cont fun _ => rfl

end Assignments

/-- **`accept_assignment_receipt`.** -/
theorem acceptAssignmentReceipt_settles (receipt : AssignmentReceipt) :
    Settles pool operating (.assignmentSettled (.attempted (.accepted receipt)))
      (settle pool (fun receipt => .assignmentSettled (.attempted (.accepted receipt)))
        (acceptAssignmentReceipt pool operating receipt)) := by
  cases hposition : operating.assignmentReceiptPosition receipt with
  | none =>
    unfold acceptAssignmentReceipt settle
    simp only [hposition]
    exact .diagnosed pool.shutdowns
  | some position =>
    obtain ⟨⟨role, recoveries, state⟩, hmember, hfound, -⟩ := Roster.findIdx?_some hposition
    split at hfound
    case h_2 => simp at hfound
    rename_i current assigned hstate
    simp only at hstate
    subst hstate
    unfold acceptAssignmentReceipt settle
    simp only [hposition, hmember]
    rcases assigned.acceptReceipt_cases receipt with
      heq | ⟨next, heq, hcustomer, hcorrelation, hstop⟩ | ⟨result, heq⟩ |
      ⟨stopped, late, heq, hstop⟩
    · simp only [heq, FifoOperating.remove_insert_self hmember]
      exact .diagnosed pool.shutdowns
    · simp only [heq]
      exact settles_shift hmember (.joined hcustomer hcorrelation hstop)
    · simp only [heq]
      exact (completeAssignment_ends result hmember).settles
    · simp only [heq]
      exact (interruptAssignment_ends hmember (fun _ => .inl hstop) (by simp) late).settles

/-- **`accept_completion`.** -/
theorem acceptCompletion_settles (child : ℕ) (completion : Completion S) :
    Settles pool operating (.workerCompleted ⟨child, completion⟩)
      (settle pool .workerCompleted (acceptCompletion pool operating child completion)) := by
  cases hposition : operating.completionPosition child completion with
  | none => exact settles_error (by simp only [acceptCompletion, hposition])
  | some position =>
    obtain ⟨⟨role, recoveries, state⟩, hmember, hfound, -⟩ := Roster.findIdx?_some hposition
    split at hfound
    case h_2 => simp at hfound
    rename_i current assigned hstate
    simp only at hstate
    subst hstate
    unfold acceptCompletion settle
    simp only [hposition, hmember]
    rcases assigned.acceptCompletion_cases completion with
      heq | ⟨next, heq, hcustomer, hcorrelation, hstop⟩ | ⟨result, heq, hstop⟩
    · simp only [heq, FifoOperating.remove_insert_self hmember]
      exact .diagnosed pool.shutdowns
    · simp only [heq]
      exact settles_shift hmember (.joined hcustomer hcorrelation hstop)
    · simp only [heq]
      rw [← hstop]
      exact (completeAssignment_ends result hmember).settles

/-! ### Returned deliveries -/

theorem requestWorkerShutdown_eq (turn : Turn S) {member}
    (hmember : turn.operating.members[position]? = some member) (role : S.Role)
    (recoveries : RecoveryCount) (current : CurrentWorker S) (shutdown : ℕ) :
    requestWorkerShutdown (turn.take position) position role recoveries current shutdown
      = turn.quarantine position role recoveries current shutdown := by
  simp only [requestWorkerShutdown, Turn.take, Turn.insert, FifoOperating.remove_insert hmember,
    CurrentWorker.shutdownRequest, Turn.quarantine]

theorem reserveShutdown_cases (pool : FifoPool S) :
    reserveShutdown pool = none ∨
      ∃ shutdown shutdowns, reserveShutdown pool
          = some (shutdown, { pool with shutdowns := shutdowns }) := by
  unfold reserveShutdown
  split
  · rename_i shutdown rest shutdowns hreserve
    exact .inr ⟨shutdown, shutdowns, rfl⟩
  · exact .inl rfl

section Deliveries

variable {position : ℕ} {role : S.Role} {recoveries : RecoveryCount}
  {current : CurrentWorker S} {assigned : AssignedJob S} {item : AssignWorker S}
  {reason : ExactDeliveryReason} {shutdown : ℕ} {shutdowns : Sequence}

/-- **A job comes back from a worker that did not stop**: it waits again, and the
worker is asked to shut down. -/
theorem returnDelivery_settles
    (hmember : operating.members[position]?
      = some ⟨role, recoveries, .worker current (.busy assigned)⟩)
    (hstop : assigned.observedStop = none) :
    Settles pool operating (.assignmentSettled (.attempted (.rejected item reason)))
      (fillFifo (requestWorkerShutdown
        (Turn.take (((Turn.begin pool operating).withShutdowns shutdowns).enqueue
          ⟨assigned.customer, some role⟩) position) position role recoveries current
        shutdown)).operate := by
  have hreserved : Chain (.assignmentSettled (.attempted (.rejected item reason)))
      (Turn.begin pool operating) {} ((Turn.begin pool operating).withShutdowns shutdowns) :=
    Chain.single (.reserve shutdowns)
  have hquarantine := hreserved.move (.quarantineBusy shutdown hmember hstop .requeued fresh_cont
    fun _ => rfl)
  rw [Dirt.clean_merge] at hquarantine
  rw [requestWorkerShutdown_eq _ hmember]
  exact (Ends.operate (fillFifo_chain hquarantine)).settles

/-- A shutdown after a recovery that hands nothing out. -/
theorem shutdown_settles (acted : Acted S) :
    (∃ marks next, Chain event (Turn.begin pool operating) marks next ∧ Fresh next.actions ∧
      (acted = next.operate ∨ acted = beginShutdown next)) →
    Settles pool operating event (match acted with
      | ⟨pool, .operating operating, actions⟩ => beginShutdown ⟨pool, operating, actions⟩
      | acted => acted) := by
  rintro ⟨marks, next, hchain, hfresh, rfl | rfl⟩
  · exact .leave hchain hfresh
  · have hleaves := beginShutdown_leaves next
    have hsettles : Settles pool operating event (beginShutdown next) := .leave hchain hfresh
    generalize beginShutdown next = acted at hleaves hsettles
    obtain ⟨pool, state, actions⟩ := acted
    cases state with
    | operating operating => exact absurd rfl (hleaves operating)
    | _ => exact hsettles

/-- **`reject_assignment_delivery`.** -/
theorem rejectAssignmentDelivery_settles (hwork : WorkConserving operating)
    (item : AssignWorker S) (reason : ExactDeliveryReason) :
    Settles pool operating (.assignmentSettled (.attempted (.rejected item reason)))
      (rejectAssignmentDelivery pool operating item reason) := by
  have hplain (diagnostics : List (FifoDiagnosticCause S)) :
      Plain (.assignmentSettled (.attempted (.rejected item reason))) diagnostics
        (.unexpected (.assignmentSettled (.attempted (.rejected item reason)))) :=
    fun _ => .inr ⟨_, rfl⟩
  unfold rejectAssignmentDelivery
  cases hposition : operating.assignmentReceiptPosition item.receipt with
  | none => exact .diagnosed pool.shutdowns
  | some position =>
    obtain ⟨⟨role, recoveries, state⟩, hmember, hfound, -⟩ := Roster.findIdx?_some hposition
    split at hfound
    case h_2 => simp at hfound
    rename_i current assigned hstate
    simp only at hstate
    subst hstate
    rcases reserveShutdown_cases pool with hreserve | ⟨shutdown, shutdowns, hreserve⟩
    · simp only [hreserve]
      exact .leave (Chain.noted (hplain _)) fresh_cont
    have hreserved : Chain (.assignmentSettled (.attempted (.rejected item reason)))
        (Turn.begin pool operating) {} ((Turn.begin pool operating).withShutdowns shutdowns) :=
      Chain.single (.reserve shutdowns)
    simp only [hreserve, hmember]
    rcases assigned.acceptRejection_cases item.assignment with heq | heq | ⟨completion, heq⟩
    · simp only [heq, FifoOperating.remove_insert_self hmember]
      exact .diagnosed shutdowns
    · simp only [heq]
      cases hstop : assigned.observedStop with
      | none => exact returnDelivery_settles hmember hstop
      | some stopped =>
        exact (haltBusy_ends hreserved hmember (.inl hstop) .requeued fresh_cont
          fun _ => rfl).settles
    · -- The contradiction is diagnosed, the job returned, and the pool shuts down.
      simp only [heq]
      have hlate : Plain (.assignmentSettled (.attempted (.rejected item reason)))
          [.unexpected (.assignmentSettled (.attempted (.rejected item reason)))]
          (.unexpected (.workerCompleted ⟨current.attempt.creation, completion⟩)) :=
        fun h => absurd h (by simp)
      have hnoted := (hreserved.move (.note (hplain _))).move (.note hlate)
      simp only [Dirt.merge_clean] at hnoted
      cases hstop : assigned.observedStop with
      | none =>
        have hmove := hnoted.move (.quarantineBusy shutdown hmember hstop
          (.returned .contradictoryAssignmentSettlement) fresh_cont fun _ => rfl)
        show Settles pool operating _ (beginShutdown (requestWorkerShutdown
          (Turn.take ⟨{ pool with shutdowns := shutdowns }, operating, _⟩ position) position role
          recoveries current shutdown))
        rw [requestWorkerShutdown_eq _ hmember]
        exact .leave hmove fresh_cont
      | some stopped =>
        have hdecided := haltBusy_chain hnoted hmember (.inl hstop)
          (.returned .contradictoryAssignmentSettlement) fresh_cont fun _ => rfl
        exact shutdown_settles _ (recoverWorker_fresh false false hmember fresh_cont hwork hdecided)

end Deliveries

/-! ### Stops and shutdowns -/

section Stopping

variable {position : ℕ} {role : S.Role} {recoveries : RecoveryCount}
  {current : CurrentWorker S} {stopped : ChildStopped S}

/-- **`finish_worker_shutdown`.** -/
theorem finishWorkerShutdown_ends {join}
    (hmember : operating.members[position]?
      = some ⟨role, recoveries, .worker current (.stopping join)⟩)
    (hhalts : ∀ diagnostics, Halts event diagnostics current (.stopping join) stopped)
    (shutdown : EstablishedShutdownResolved) :
    Ends event (Turn.begin pool operating) {}
      (finishWorkerShutdown pool (operating.remove position) position role recoveries current
        shutdown stopped) := by
  unfold finishWorkerShutdown
  cases shutdown with
  | accepted id =>
    exact halt_ends Chain.start hmember (by simp) (hhalts _) fresh_cont
  | rejected id reason =>
    have hplain : Plain event []
        (.workerShutdownRejected role (.rejected id reason)) := trivial
    exact halt_ends (Chain.noted hplain) hmember (by simp) (hhalts _) fresh_cont

/-- **The exact stop of an established worker**, by its phase. -/
theorem stopWorker_settles {phase : WorkerPhase S}
    (hmember : operating.members[position]? = some ⟨role, recoveries, .worker current phase⟩)
    (hchild : stopped.child = current.attempt.creation) :
    Settles pool operating (.workerStopped stopped)
      (settle pool .workerStopped (stopWorker pool (operating.remove position) position role
        recoveries current phase stopped)) := by
  have hback : Settles pool operating (.workerStopped stopped)
      (settle pool .workerStopped (.error ((operating.remove position).insert position
        ⟨role, recoveries, .worker current phase⟩, stopped))) :=
    settles_error (by rw [FifoOperating.remove_insert_self hmember])
  cases phase with
  | initializing initialization retained =>
    cases retained with
    | none => exact settles_shift hmember (.initializingStopped rfl hchild)
    | some retained => exact hback
  | waitingForStartup permit startup =>
    have hplain : Plain (.workerStopped stopped) []
        (.unusedStartup role (some permit) startup) := trivial
    have hnoted : Chain (.workerStopped stopped) (Turn.begin pool operating) {} _ :=
      Chain.noted hplain
    exact (continueAfterPreReadyStop_ends (halt_ends hnoted hmember (by simp)
      (.inr ⟨rfl, hchild, .inl rfl⟩) fresh_cont)).settles
  | startupRequested attempt retained =>
    cases retained with
    | none => exact settles_shift hmember (.requestedStopped rfl hchild)
    | some retained => exact hback
  | starting attempt retained =>
    cases retained with
    | none => exact settles_shift hmember (.startingStopped rfl hchild)
    | some retained => exact hback
  | idle =>
    have hidle : ∀ assigned, (WorkerPhase.idle : WorkerPhase S) ≠ .busy assigned := by simp
    have hhalt : Ends (.workerStopped stopped) (Turn.begin pool operating) {} _ :=
      halt_ends Chain.start hmember hidle (.inr ⟨rfl, hchild, .inl rfl⟩) fresh_cont
    exact hhalt.settles
  | busy assigned =>
    simp only [stopWorker]
    rcases assigned.acceptWorkerExit_cases stopped with
      heq | ⟨next, heq, hcustomer, hcorrelation, hstop, hnone⟩ | ⟨heq, hnone⟩
    · simp only [heq]
      exact hback
    · simp only [heq]
      exact settles_shift hmember (.exited rfl hchild hcustomer hcorrelation hnone hstop)
    · simp only [heq]
      exact (interruptAssignment_ends hmember (fun _ => .inr ⟨hnone, hchild, .inl rfl⟩) (by simp)
        none).settles
  | stopping join =>
    simp only [stopWorker, ShutdownJoin.stopped, hchild, ne_eq, not_true_eq_false, if_false]
    cases join with
    | awaitingBoth request => exact settles_shift hmember (.shutdownStopped rfl hchild)
    | awaitingStop settlement =>
      exact (finishWorkerShutdown_ends hmember (fun _ => .inr ⟨rfl, hchild, .inl rfl⟩)
        settlement).settles
    | awaitingSettlement request retained => exact hback

end Stopping

/-- **`accept_worker_stop`.** -/
theorem acceptWorkerStop_settles (stopped : ChildStopped S) :
    Settles pool operating (.workerStopped stopped)
      (settle pool .workerStopped (acceptWorkerStop pool operating stopped)) := by
  cases hposition : operating.workerPosition stopped.child with
  | none => exact settles_error (by simp only [acceptWorkerStop, hposition])
  | some position =>
    obtain ⟨⟨role, recoveries, state⟩, hmember, hfound, -⟩ := Roster.findIdx?_some hposition
    cases state with
    | creating worker =>
      have hchild : stopped.child = worker.attempt.creation := (of_decide_eq_true hfound).symm
      unfold acceptWorkerStop
      simp only [hposition, hmember]
      cases hstopped : worker.stopped with
      | none => exact settles_shift hmember (.creatingStopped rfl hchild hstopped)
      | some retained =>
        exact settles_error (by rw [FifoOperating.remove_insert_self hmember])
    | worker current phase =>
      unfold acceptWorkerStop
      simp only [hposition, hmember]
      exact stopWorker_settles hmember (of_decide_eq_true hfound).symm
    | recovering worker => simp at hfound
    | retired => simp at hfound

/-- **`accept_worker_shutdown`.** -/
theorem acceptShutdownSettlement_settles (shutdown : EstablishedShutdownResolved) :
    Settles pool operating (.workerShutdownSettled shutdown)
      (settle pool .workerShutdownSettled
        (acceptShutdownSettlement pool operating shutdown)) := by
  cases hposition : operating.workerShutdownPosition shutdown.id with
  | none => exact settles_error (by simp only [acceptShutdownSettlement, hposition])
  | some position =>
    obtain ⟨⟨role, recoveries, state⟩, hmember, hfound, -⟩ := Roster.findIdx?_some hposition
    split at hfound
    case h_2 => simp at hfound
    rename_i current join hstate
    simp only at hstate
    subst hstate
    have hrequest : join.request = shutdown.id := of_decide_eq_true hfound
    unfold acceptShutdownSettlement
    simp only [hposition, hmember]
    cases join with
    | awaitingBoth request =>
      simp only [ShutdownJoin.request] at hrequest
      subst hrequest
      simp only [ShutdownJoin.settled, if_true]
      exact settles_shift hmember (.shutdownSettled rfl)
    | awaitingStop held =>
      exact settles_error (by simp only [ShutdownJoin.settled]
                              rw [FifoOperating.remove_insert_self hmember])
    | awaitingSettlement request stopped =>
      simp only [ShutdownJoin.request] at hrequest
      simp only [ShutdownJoin.settled, hrequest, if_true]
      exact (finishWorkerShutdown_ends hmember (fun _ => .inl rfl) shutdown).settles

/-! ### Initialization and startup -/

/-- **A worker that failed to start is asked to shut down.** -/
theorem quarantine_chain {turn phase} (hchain : Chain event (Turn.begin pool operating) {} turn)
    (hfresh : Fresh turn.actions)
    (hmember : turn.operating.members[position]? = some ⟨role, recoveries, .worker current phase⟩)
    (hsuspect : Suspect phase) (shutdown : ℕ) :
    Chain event (Turn.begin pool operating)
      { startup := isOccupying (⟨role, recoveries, .worker current phase⟩ : Member S) }
      (requestWorkerShutdown (turn.take position) position role recoveries current shutdown) := by
  have hmove := hchain.move (.quarantine shutdown hmember hsuspect hfresh)
  rwa [Dirt.clean_merge, ← requestWorkerShutdown_eq _ hmember] at hmove

/-- **A report brings the exact stop** of a worker that initializes. -/
theorem stoppedReport_settles {expected initialization worker startup stopped}
    (hmember : operating.members[position]?
      = some ⟨role, recoveries, .worker current (.initializing expected none)⟩)
    (hchild : stopped.child = current.attempt.creation) :
    Settles pool operating (.workerInitialization (.stopped worker initialization startup stopped))
      (continueAfterPreReadyStop ⟨pool, operating.remove position,
        FifoActions.cont.diagnose (.unusedStartup role none startup)⟩ position role recoveries
        current.attempt stopped) := by
  have hplain : Plain (.workerInitialization (.stopped worker initialization startup stopped)) []
      (.unusedStartup role none startup) := trivial
  have hnoted : Chain _ (Turn.begin pool operating) {} _ := Chain.noted hplain
  have hhalts : Halts (.workerInitialization (.stopped worker initialization startup stopped))
      [.unusedStartup role none startup] current (.initializing expected none) stopped :=
    .inr ⟨rfl, hchild, .inr ⟨⟨worker, initialization, startup, rfl⟩, by simp, by simp⟩⟩
  exact (continueAfterPreReadyStop_ends (halt_ends hnoted hmember (by simp) hhalts
    fresh_cont)).settles

/-- **One round of `accept_initialization`** acts, or leaves the roster as it was. -/
theorem initializationRound_cases (pool : FifoPool S) (operating : FifoOperating S)
    (input : WorkerInitializationReport S) (position : ℕ) :
    initializationRound pool operating input position = (operating, none) ∨
    ∃ rest acted, initializationRound pool operating input position = (rest, some acted) ∧
      Settles pool operating (.workerInitialization input) acted := by
  unfold initializationRound
  cases hmember : operating.members[position]? with
  | none => exact .inl (by simp only [FifoOperating.remove_of_none hmember])
  | some member =>
    obtain ⟨role, recoveries, state⟩ := member
    have hback := FifoOperating.remove_insert_self hmember
    cases state with
    | creating worker | recovering worker | retired => exact .inl (by simp only [hback])
    | worker current phase =>
      cases phase with
      | initializing initialization stopped =>
        by_cases hinitialization : initialization = input.initialization
        · subst hinitialization
          have hplain : Plain (.workerInitialization input) []
              (.unexpected (.workerInitialization input)) := fun _ => .inl ⟨input, rfl, rfl⟩
          have hnoted : Chain (.workerInitialization input) (Turn.begin pool operating) {} _ :=
            Chain.noted hplain
          simp only [ne_eq, not_true_eq_false, if_false]
          cases stopped with
          | some stopped =>
            exact .inr ⟨_, _, rfl, (continueAfterPreReadyStop_ends (halt_ends hnoted hmember
              (by simp) (.inl rfl) fresh_cont)).settles⟩
          | none =>
            cases input with
            | readyForStartup worker initialization startup permit =>
              exact .inl (by simp only [hback])
            | stopped worker initialization startup stopped =>
              by_cases hchild : stopped.child = current.attempt.creation
              · simp only [hchild, if_true]
                exact .inr ⟨_, _, rfl, stoppedReport_settles hmember hchild⟩
              · exact .inl (by simp only [hchild, if_false, hback])
            | effectsRejected worker initialization startup failure =>
              rcases reserveShutdown_cases pool with hreserve | ⟨shutdown, shutdowns, hreserve⟩
              · simp only [hreserve, Turn.insert, hback]
                exact .inr ⟨_, _, rfl, .leave hnoted fresh_cont⟩
              · simp only [hreserve]
                refine .inr ⟨_, _, rfl, ?_⟩
                have hreserved := hnoted.move (.reserve shutdowns)
                rw [Dirt.merge_clean] at hreserved
                exact .operate (quarantine_chain hreserved fresh_cont hmember .initializing shutdown)
        · exact .inl (by simp only [ne_eq, hinitialization, not_false_eq_true, if_true, hback])
      | _ => exact .inl (by simp only [hback])

theorem initializationRounds_settles (input : WorkerInitializationReport S)
    (positions : List ℕ) :
    Settles pool operating (.workerInitialization input)
      (settle pool .workerInitialization
        (initializationRounds pool input positions operating)) := by
  induction positions with
  | nil => exact settles_error rfl
  | cons position positions ih =>
    unfold initializationRounds
    rcases initializationRound_cases pool operating input position with
      heq | ⟨rest, acted, heq, hsettles⟩
    · simp only [heq]
      exact ih
    · simp only [heq]
      exact hsettles

/-- **`accept_initialization`.** -/
theorem acceptInitialization_settles (input : WorkerInitializationReport S) :
    Settles pool operating (.workerInitialization input)
      (settle pool .workerInitialization (acceptInitialization pool operating input)) := by
  unfold acceptInitialization
  cases hposition : attemptPosition operating input.worker with
  | none => exact initializationRounds_settles input _
  | some position =>
    obtain ⟨member, hmember, -, -⟩ := Roster.findIdx?_some hposition
    simp only [hmember]
    rcases member.admitInitialization_cases input with
      ⟨role, recoveries, current, initialization, permit, startup, rfl, heq⟩ | heq
    · simp only [heq, FifoOperating.remove_insert hmember]
      have hmove : Move (.workerInitialization input) { startup := true }
          (Turn.begin pool operating) _ := .permit permit startup hmember fresh_cont
      exact (Ends.operate (authorizeWaiting_chain (Chain.single hmove))).settles
    · simp only [heq, FifoOperating.remove_insert_self hmember]
      exact initializationRounds_settles input _

/-- **A worker whose startup failed** is asked to shut down, and gives its slot
away. -/
theorem failedStartup_settles {phase input}
    (hmember : operating.members[position]? = some ⟨role, recoveries, .worker current phase⟩)
    (hsuspect : Suspect phase) :
    Settles pool operating (.workerStartupReported input) (match reserveShutdown pool with
      | none => beginShutdown ⟨pool, operating, FifoActions.cont.diagnose
          (.workerStartupReturned role input.worker input.startup input.outcome)⟩
      | some (shutdown, pool) => (authorizeWaiting (requestWorkerShutdown
          ⟨pool, operating.remove position, FifoActions.cont.diagnose
            (.workerStartupReturned role input.worker input.startup input.outcome)⟩
          position role recoveries current shutdown)).operate) := by
  have hplain : Plain (.workerStartupReported input) []
      (.workerStartupReturned role input.worker input.startup input.outcome) := trivial
  have hnoted : Chain (.workerStartupReported input) (Turn.begin pool operating) {} _ :=
    Chain.noted hplain
  rcases reserveShutdown_cases pool with hreserve | ⟨shutdown, shutdowns, hreserve⟩
  · simp only [hreserve]
    exact .leave hnoted fresh_cont
  · simp only [hreserve]
    have hreserved := hnoted.move (.reserve shutdowns)
    rw [Dirt.merge_clean] at hreserved
    exact .operate (authorizeWaiting_chain
      (quarantine_chain hreserved fresh_cont hmember hsuspect shutdown))

/-- **One round of `accept_startup`** acts, or leaves the roster as it was. -/
theorem startupRound_cases (pool : FifoPool S) (operating : FifoOperating S)
    (input : WorkerStartup S) (position : ℕ) :
    startupRound pool operating input position = (operating, none) ∨
    ∃ rest acted, startupRound pool operating input position = (rest, some acted) ∧
      Settles pool operating (.workerStartupReported input) acted := by
  unfold startupRound
  cases hmember : operating.members[position]? with
  | none => exact .inl (by simp only [FifoOperating.remove_of_none hmember])
  | some member =>
    obtain ⟨role, recoveries, state⟩ := member
    have hback := FifoOperating.remove_insert_self hmember
    cases state with
    | creating worker | recovering worker | retired => exact .inl (by simp only [hback])
    | worker current phase =>
      by_cases hattempt : current.attempt = input.worker
      case neg =>
        exact .inl (by simp only [ne_eq, hattempt, not_false_eq_true, if_true, hback])
      have hplain : Plain (.workerStartupReported input) []
          (.workerStartupReturned role input.worker input.startup input.outcome) := trivial
      have hnoted : Chain (.workerStartupReported input) (Turn.begin pool operating) {} _ :=
        Chain.noted hplain
      have hrepeated := (Ends.operate hnoted).settles
      simp only [not_not_intro hattempt, if_false, Turn.insert, hback]
      cases phase with
      | startupRequested attempt stopped =>
        by_cases hstartup : attempt = input.startup
        case neg => cases stopped <;> exact .inl (by simp only [hstartup, if_false])
        cases stopped with
        | none =>
          simp only [hstartup, if_true]
          exact .inr ⟨_, _, rfl, failedStartup_settles hmember .requested⟩
        | some stopped =>
          simp only [hstartup, if_true]
          exact .inr ⟨_, _, rfl, (continueAfterPreReadyStop_ends (halt_ends hnoted hmember
            (by simp) (.inl rfl) fresh_cont)).settles⟩
      | starting attempt stopped =>
        by_cases hstartup : attempt = input.startup
        case neg => cases stopped <;> exact .inl (by simp only [hstartup, if_false])
        cases stopped with
        | none =>
          simp only [hstartup, if_true]
          cases houtcome : input.outcome
          case started => exact .inr ⟨_, _, rfl, houtcome ▸ hrepeated⟩
          all_goals exact .inr ⟨_, _, rfl, houtcome ▸ failedStartup_settles hmember .starting⟩
        | some stopped =>
          simp only [hstartup, if_true]
          have hdeparted := (continueAfterPreReadyStop_ends (halt_ends hnoted hmember (by simp)
            (.inl rfl) fresh_cont)).settles
          cases houtcome : input.outcome
          case started => exact .inr ⟨_, _, rfl, houtcome ▸ hrepeated⟩
          all_goals exact .inr ⟨_, _, rfl, hdeparted⟩
      | _ => exact .inl rfl

theorem startupRounds_settles (input : WorkerStartup S) (positions : List ℕ) :
    Settles pool operating (.workerStartupReported input)
      (settle pool .workerStartupReported (startupRounds pool input positions operating)) := by
  induction positions with
  | nil => exact settles_error rfl
  | cons position positions ih =>
    unfold startupRounds
    rcases startupRound_cases pool operating input position with
      heq | ⟨rest, acted, heq, hsettles⟩
    · simp only [heq]
      exact ih
    · simp only [heq]
      exact hsettles

/-- **`accept_startup`.** -/
theorem acceptStartup_settles (input : WorkerStartup S) :
    Settles pool operating (.workerStartupReported input)
      (settle pool .workerStartupReported (acceptStartup pool operating input)) := by
  unfold acceptStartup
  cases hposition : attemptPosition operating input.worker with
  | none => exact startupRounds_settles input _
  | some position =>
    obtain ⟨member, hmember, -, -⟩ := Roster.findIdx?_some hposition
    simp only [hmember]
    rcases member.admitStartup_cases input with
      ⟨role, recoveries, current, attempt, stopped, rfl, heq⟩ |
      ⟨role, recoveries, current, attempt, rfl, heq⟩ | heq
    · simp only [heq, FifoOperating.remove_insert hmember]
      have hmove : Move (.workerStartupReported input) {} (Turn.begin pool operating) _ :=
        .shift hmember .started fresh_cont
      exact (Ends.operate (authorizeWaiting_chain (Chain.single hmove))).settles
    · simp only [heq, FifoOperating.remove_insert hmember]
      have hmove : Move (.workerStartupReported input) { dispatch := true, startup := true }
          (Turn.begin pool operating) _ := .ready hmember fresh_cont
      exact (Ends.operate (authorizeWaiting_chain (fillFifo_chain (Chain.single hmove)))).settles
    · simp only [heq, FifoOperating.remove_insert_self hmember]
      exact startupRounds_settles input _

/-! ### Creations -/

section Creations

variable {start : Turn S} {backlog : OrderedMap ℕ (QueuedJob S)} {cursor : ℕ}

/-- **The member loop of `accept_creations`**, behind the members it has passed. -/
theorem settleMembers_chain {settlements returned}
    (hreturned : ∀ position settlement, returned.lookup position = some settlement →
      settlement ∈ settlements) (members passed : List (Member S)) (actions : FifoActions S)
    (failed : Bool)
    (hchain : Chain (.workerCreationsSettled (.settled settlements)) start
      { service := failed } ⟨pool, ⟨passed ++ members, backlog, cursor⟩, actions⟩) :
    Chain (.workerCreationsSettled (.settled settlements)) start
      { service := (settleMembers returned passed.length members actions failed).2.2 }
      ⟨pool, ⟨passed ++ (settleMembers returned passed.length members actions failed).1, backlog,
        cursor⟩, (settleMembers returned passed.length members actions failed).2.1⟩ := by
  induction members generalizing passed actions failed with
  | nil => exact hchain
  | cons member members ih =>
    have hmember : (passed ++ member :: members)[passed.length]? = some member := by simp
    have hnext (next : Member S) (actions : FifoActions S) (failed : Bool)
        (h : Chain (.workerCreationsSettled (.settled settlements)) start { service := failed }
          ⟨pool, ⟨passed ++ next :: members, backlog, cursor⟩, actions⟩) :=
      ih (passed ++ [next]) actions failed (by rwa [List.append_assoc, List.singleton_append])
    simp only [List.length_append, List.length_singleton, List.append_assoc,
      List.singleton_append] at hnext
    unfold settleMembers
    cases hlookup : returned.lookup passed.length with
    | none => exact hnext member actions failed hchain
    | some settlement =>
      have hmem := hreturned _ _ hlookup
      rcases member.admitCreation_cases settlement with
        ⟨role, recoveries, worker, actor, rfl, hidentity, hactor, heq⟩ |
        ⟨role, recoveries, worker, rejection, rfl, hidentity, hrejected, heq⟩ | ⟨heq, -⟩
      · have hmove := hchain.move (.establish hmember rfl hmem hidentity hactor)
        simp only [Dirt.merge_clean, FifoOperating.put, List.set_append_right _ _ le_rfl,
          Nat.sub_self, List.set_cons_zero] at hmove
        simp only [heq]
        exact hnext _ _ failed hmove
      · have hsettled := hidentity ▸ List.mem_map_of_mem (f := creationIdentity) hmem
        have hmove := hchain.move (.rejectCreation rejection hmember rfl hsettled)
        simp only [FifoOperating.put, List.set_append_right _ _ le_rfl,
          Nat.sub_self, List.set_cons_zero] at hmove
        simp only [heq]
        exact hnext _ _ true (by simpa [Dirt.merge] using hmove)
      · have hplain : Plain (.workerCreationsSettled (.settled settlements)) actions.diagnostics
            (.workersReturned (.settled [settlement])) := trivial
        have hmove := hchain.move (.note hplain)
        rw [Dirt.merge_clean] at hmove
        simp only [heq]
        exact hnext member _ failed hmove

theorem settleMembers_fresh (returned : List (ℕ × WorkerCreationSettlement S)) (position : ℕ)
    (members : List (Member S)) {actions} (failed : Bool) (h : Fresh actions) :
    Fresh (settleMembers returned position members actions failed).2.1 := by
  induction members generalizing position actions failed with
  | nil => exact h
  | cons member members ih =>
    unfold settleMembers
    cases returned.lookup position with
    | none => exact ih _ _ h
    | some settlement =>
      dsimp only
      cases member.admitCreation settlement <;> exact ih _ _ h

theorem rejectMembers_fresh (rejection : CreationBatchRejection)
    (returned : List (ℕ × CreateChild S)) (position : ℕ) (members : List (Member S)) {actions}
    (h : Fresh actions) :
    Fresh (rejectMembers rejection returned position members actions).2 := by
  induction members generalizing position actions with
  | nil => exact h
  | cons member members ih =>
    unfold rejectMembers
    cases returned.lookup position with
    | none => exact ih _ h
    | some creation =>
      obtain ⟨role, recoveries, state⟩ := member
      cases state <;> exact ih _ h

/-- **Every established worker of a batch initializes** once the loop has passed. -/
theorem settleMembers_established {returned settlement actor position offset member}
    (members : List (Member S)) (actions : FifoActions S) (failed : Bool)
    (hlookup : returned.lookup (position + offset) = some settlement)
    (hactor : settleWorkerCreation settlement = .established actor)
    (hmember : members[offset]? = some member)
    (hexpected : member.expectedCreation = some (creationIdentity settlement)) :
    ∃ role recoveries, ∃ worker : CreatingWorker S,
      creationIdentity settlement = (worker.attempt.creation, worker.kind) ∧
      (settleMembers returned position members actions failed).1[offset]?
        = some ⟨role, recoveries, .worker ⟨worker.attempt, actor⟩
            (.initializing worker.initialization worker.stopped)⟩ := by
  induction members generalizing position offset actions failed with
  | nil => simp at hmember
  | cons head members ih =>
    unfold settleMembers
    cases offset with
    | zero =>
      simp only [List.getElem?_cons_zero, Option.some.injEq] at hmember
      subst hmember
      rw [Nat.add_zero] at hlookup
      rcases head.admitCreation_cases settlement with
        ⟨role, recoveries, worker, actor', rfl, hidentity, hactor', heq⟩ |
        ⟨role, recoveries, worker, rejection, rfl, hidentity, hrejected, heq⟩ | ⟨heq, hother⟩
      · rw [hactor, WorkerCreationOutcome.established.injEq] at hactor'
        subst hactor'
        refine ⟨role, recoveries, worker, hidentity, ?_⟩
        simp only [hlookup, heq, List.getElem?_cons_zero]
      · rw [hactor] at hrejected
        simp at hrejected
      · exact absurd hexpected hother
    | succ offset =>
      simp only [List.getElem?_cons_succ] at hmember ⊢
      exact ih _ _ (by rw [← hlookup]; congr 1; omega) hmember

/-- **The member loop of `reject_creation_batch`**, behind the members it has
passed. -/
theorem rejectMembers_chain {workers rejection returned service}
    (hreturned : ∀ position creation, returned.lookup position = some creation →
      (creation.id, creation.kind) ∈ identities workers) (members passed : List (Member S))
    (actions : FifoActions S)
    (hexpected : ∀ offset member creation, members[offset]? = some member →
      returned.lookup (passed.length + offset) = some creation →
      member.expectedCreation = some (creation.id, creation.kind))
    (hchain : Chain (.workerCreationsSettled workers) start { service := service }
      ⟨pool, ⟨passed ++ members, backlog, cursor⟩, actions⟩) :
    ∃ service, Chain (.workerCreationsSettled workers) start { service := service }
      ⟨pool, ⟨passed ++ (rejectMembers rejection returned passed.length members actions).1,
        backlog, cursor⟩, (rejectMembers rejection returned passed.length members actions).2⟩ := by
  induction members generalizing passed actions service with
  | nil => exact ⟨service, hchain⟩
  | cons member members ih =>
    have hmember : (passed ++ member :: members)[passed.length]? = some member := by simp
    have hnext (next : Member S) (actions : FifoActions S) (service : Bool)
        (h : Chain (.workerCreationsSettled workers) start { service := service }
          ⟨pool, ⟨passed ++ next :: members, backlog, cursor⟩, actions⟩) :=
      ih (passed ++ [next]) actions (fun offset member creation hget hlookup =>
        hexpected (offset + 1) member creation hget (by
          rw [← hlookup, List.length_append, List.length_singleton]
          congr 1
          omega)) (by rwa [List.append_assoc, List.singleton_append])
    simp only [List.length_append, List.length_singleton, List.append_assoc,
      List.singleton_append] at hnext
    unfold rejectMembers
    cases hlookup : returned.lookup passed.length with
    | none => exact hnext member actions service hchain
    | some creation =>
      have hmem := hreturned _ _ hlookup
      have hcreation := hexpected 0 member creation rfl hlookup
      obtain ⟨role, recoveries, state⟩ := member
      cases state with
      | creating worker =>
        rw [← Option.some.inj hcreation] at hmem
        have hmove := hchain.move (.rejectCreation (rejection.worker creation.worker) hmember rfl
          hmem)
        simp only [FifoOperating.put, List.set_append_right _ _ le_rfl, Nat.sub_self,
          List.set_cons_zero] at hmove
        exact hnext _ _ true (by simpa [Dirt.merge] using hmove)
      | _ => simp [Member.expectedCreation] at hcreation

/-- What follows a settled batch. -/
theorem finishCreations_ends {turn failed service}
    (hchain : Chain event start { service := service } turn) (hfresh : Fresh turn.actions)
    (hservice : failed = false → service = false) :
    Ends event start {} (finishCreations turn failed) := by
  unfold finishCreations
  cases failed with
  | false =>
    rw [hservice rfl] at hchain
    exact .operate hchain
  | true =>
    simp only [if_true]
    split
    · exact .operate (returnUnrecoverableJobs_chain (fillFifo_chain hchain))
    · exact .leave hchain hfresh

/-- **A whole batch comes back.** -/
theorem rejectCreationBatch_settles {creations : List (CreateChild S)}
    {rejection : CreationBatchRejection} {workers : CreationsSettled S}
    (hworkers : workers = rejection.settlement creations) :
    Settles pool operating (.workerCreationsSettled workers)
      (settle pool .workerCreationsSettled
        (match rejectCreationBatch operating creations rejection with
        | .ok (operating, actions) => .ok (finishCreations ⟨pool, operating, actions⟩ true)
        | .error workers => .error (operating, workers))) := by
  unfold rejectCreationBatch
  cases hpositions : operating.creationPositions
      (creations.map fun creation => (creation.id, creation.kind)) with
  | none => exact settles_error (by rw [hworkers])
  | some positions =>
    obtain ⟨-, hmatch⟩ := orderedCreationPositions_some hpositions
    rw [List.forall₂_map_right_iff, List.forall₂_iff_zip] at hmatch
    have hidentities : identities workers
        = creations.map fun creation => (creation.id, creation.kind) := by
      rw [hworkers]
      cases rejection <;> rfl
    have hreturned : ∀ position creation,
        (positions.zip creations).lookup position = some creation →
        (creation.id, creation.kind) ∈ identities workers := by
      intro position creation hlookup
      rw [hidentities]
      exact List.mem_map_of_mem (List.of_mem_zip (Roster.mem_of_lookup hlookup)).2
    have hexpected : ∀ offset member creation, operating.members[offset]? = some member →
        (positions.zip creations).lookup (0 + offset) = some creation →
        member.expectedCreation = some (creation.id, creation.kind) := by
      intro offset member creation hget hlookup
      rw [Nat.zero_add] at hlookup
      have hfound := hmatch.2 (Roster.mem_of_lookup hlookup)
      simpa [hget] using hfound
    obtain ⟨service, hchain⟩ := rejectMembers_chain hreturned operating.members [] _ hexpected
      (Chain.start : Chain (.workerCreationsSettled workers) (Turn.begin pool operating) {} _)
    exact (finishCreations_ends hchain (rejectMembers_fresh _ _ _ _ fresh_cont)
      fun h => absurd h (by simp)).settles

/-- **`accept_creations`.** -/
theorem acceptCreations_settles (workers : CreationsSettled S) :
    Settles pool operating (.workerCreationsSettled workers)
      (settle pool .workerCreationsSettled (acceptCreations pool operating workers)) := by
  cases workers with
  | rejected creations | corrupt creations fault => exact rejectCreationBatch_settles rfl
  | settled settlements =>
    unfold acceptCreations
    cases hpositions : operating.creationPositions (settlements.map creationIdentity) with
    | none => exact settles_error (by simp only [hpositions])
    | some positions =>
      simp only [hpositions]
      have hreturned : ∀ position settlement,
          (positions.zip settlements).lookup position = some settlement →
          settlement ∈ settlements := fun position settlement hlookup =>
        (List.of_mem_zip (Roster.mem_of_lookup hlookup)).2
      have hchain := settleMembers_chain hreturned operating.members [] FifoActions.cont false
        (Chain.start : Chain _ (Turn.begin pool operating) {} (Turn.begin pool operating))
      exact (finishCreations_ends hchain (settleMembers_fresh _ _ _ _ fresh_cont) id).settles

end Creations

/-- **What any event can do to an operating pool.** -/
theorem operatingTransition_settles (hsource : SourceLent pool operating)
    (hwork : WorkConserving operating) (event : FifoEvent S) :
    Settles pool operating event (operatingTransition pool operating event) := by
  cases event with
  | command command =>
    cases command with
    | submit submission payload customer =>
      exact acceptSubmission_settles hwork submission payload customer
    | shutdown => exact .leave Chain.start fresh_cont
  | shutdown => exact .leave Chain.start fresh_cont
  | workerCreationsSettled workers => exact acceptCreations_settles workers
  | workerInitialization report => exact acceptInitialization_settles report
  | workerStartupReported startup => exact acceptStartup_settles startup
  | workerStopped stopped => exact acceptWorkerStop_settles stopped
  | workerCompleted report => exact acceptCompletion_settles report.child report.report
  | assignmentSettled settled =>
    rcases settled with (receipt | ⟨item, reason⟩ | ⟨item, fault⟩) | item
    · exact acceptAssignmentReceipt_settles receipt
    · exact rejectAssignmentDelivery_settles hwork item reason
    · exact .diagnosed pool.shutdowns
    · exact .diagnosed pool.shutdowns
  | workerPreparationStarted started => exact acceptWorkerPreparationStart_settles hsource started
  | workerPreparationReturned returned =>
    exact acceptWorkerPreparationReturn_settles hsource returned
  | restartScheduleSettled settled => exact acceptRestartSchedule_settles settled
  | restartElapsed elapsed => exact acceptRestartTimer_settles elapsed
  | workerShutdownSettled shutdown => exact acceptShutdownSettlement_settles shutdown

end Bombay.Fifo
