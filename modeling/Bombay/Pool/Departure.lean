/-
# What one fact does to the members of a retiring pool

The functions of `crates/actors/src/templates/pool/worker.rs` that a retiring
pool offers its facts to (`accept_worker_exit`, `accept_worker_shutdown`,
`accept_worker_initialization`, `accept_worker_startup` and the two preparation
functions) search the roster, take one member out and insert a successor.  Each
has one lemma here that says, for every roster, which member it found and what
became of it; both pools are proved over these and never search a roster again.
-/

import Bombay.Pool.Retiring
import Bombay.Pool.Policy

namespace Bombay

variable {S : Signature}

variable (workers : List (RetiringWorker S))

/-- **`accept_worker_exit`**: the stop is retained beside a creation or a shutdown, ends
a shutdown that was settled, or comes back. -/
theorem acceptWorkerExit_cases (stopped : ChildStopped S) :
    acceptWorkerExit workers stopped = .error (workers, stopped) ∨
    (∃ position role creating, workers[position]? = some ⟨role, .awaitingCreation creating⟩ ∧
      stopped.child = creating.attempt.creation ∧ creating.stopped = none ∧
      acceptWorkerExit workers stopped = .ok (.resume (workers.set position
        ⟨role, .awaitingCreation { creating with stopped := some stopped }⟩))) ∨
    (∃ position role current startup request, workers[position]?
        = some ⟨role, .established current startup (.waiting (.awaitingBoth request))⟩ ∧
      stopped.child = current.attempt.creation ∧
      acceptWorkerExit workers stopped = .ok (.resume (workers.set position
        ⟨role, .established current startup (.waiting (.awaitingSettlement request stopped))⟩))) ∨
    ∃ position role current startup settlement, workers[position]?
        = some ⟨role, .established current startup (.waiting (.awaitingStop settlement))⟩ ∧
      stopped.child = current.attempt.creation ∧
      acceptWorkerExit workers stopped
        = .ok (.stop (workers.eraseIdx position, ⟨role, startup, settlement⟩)) := by
  have hback : ∀ worker worker' fact', RetiringWorker.acceptExit (S := S) worker stopped
      = .error (worker', fact') → worker' = worker ∧ fact' = stopped := by
    intro worker worker' fact' h
    rcases worker.acceptExit_cases stopped with heq | ⟨_, _, _, _, _, heq⟩ |
      ⟨_, _, _, _, _, _, heq⟩ | ⟨_, _, _, _, _, _, heq⟩ <;> rw [heq] at h <;> simp_all
  unfold acceptWorkerExit
  rcases offerEach_cases hback (List.range workers.length) workers with
    heq | ⟨position, worker, next, hworker, hoffer, heq⟩ |
    ⟨position, worker, departure, hworker, hoffer, heq⟩
  · exact .inl heq
  · rw [heq]
    rcases worker.acceptExit_cases stopped with hcase | ⟨role, creating, rfl, hchild, hnone, hcase⟩ |
      ⟨role, current, startup, request, rfl, hchild, hcase⟩ |
      ⟨role, current, startup, settlement, rfl, hchild, hcase⟩ <;>
      rw [hcase] at hoffer <;>
      simp only [Except.ok.injEq, ControlFlow.resume.injEq, reduceCtorEq] at hoffer
    · subst hoffer
      exact .inr (.inl ⟨position, role, creating, hworker, hchild, hnone, rfl⟩)
    · subst hoffer
      exact .inr (.inr (.inl ⟨position, role, current, startup, request, hworker, hchild, rfl⟩))
  · rw [heq]
    rcases worker.acceptExit_cases stopped with hcase | ⟨role, creating, rfl, hchild, hnone, hcase⟩ |
      ⟨role, current, startup, request, rfl, hchild, hcase⟩ |
      ⟨role, current, startup, settlement, rfl, hchild, hcase⟩ <;>
      rw [hcase] at hoffer <;>
      simp only [Except.ok.injEq, ControlFlow.stop.injEq, reduceCtorEq] at hoffer
    subst hoffer
    exact .inr (.inr (.inr ⟨position, role, current, startup, settlement, hworker, hchild, rfl⟩))

/-- **`accept_worker_shutdown`**: the settlement is retained, ends a shutdown whose worker
has stopped, or comes back. -/
theorem acceptWorkerShutdown_cases
    (settlement : EstablishedShutdownResolved) :
    acceptWorkerShutdown workers settlement = .error (workers, settlement) ∨
    (∃ position role current startup, workers[position]?
        = some ⟨role, .established current startup (.waiting (.awaitingBoth settlement.id))⟩ ∧
      acceptWorkerShutdown workers settlement = .ok (.resume (workers.set position
        ⟨role, .established current startup (.waiting (.awaitingStop settlement))⟩))) ∨
    ∃ position role current startup stopped, workers[position]?
        = some ⟨role, .established current startup
          (.waiting (.awaitingSettlement settlement.id stopped))⟩ ∧
      acceptWorkerShutdown workers settlement
        = .ok (.stop (workers.eraseIdx position, ⟨role, startup, settlement⟩)) := by
  have hback : ∀ worker worker' fact', RetiringWorker.acceptShutdownSettlement (S := S) worker
      settlement = .error (worker', fact') → worker' = worker ∧ fact' = settlement := by
    intro worker worker' fact' h
    rcases worker.acceptShutdownSettlement_cases settlement with heq | ⟨_, _, _, _, heq⟩ |
      ⟨_, _, _, _, _, heq⟩ <;> rw [heq] at h <;> simp_all
  unfold acceptWorkerShutdown
  rcases offerEach_cases hback (List.range workers.length) workers with
    heq | ⟨position, worker, next, hworker, hoffer, heq⟩ |
    ⟨position, worker, departure, hworker, hoffer, heq⟩
  · exact .inl heq
  · rw [heq]
    rcases worker.acceptShutdownSettlement_cases settlement with hcase |
      ⟨role, current, startup, rfl, hcase⟩ | ⟨role, current, startup, stopped, rfl, hcase⟩ <;>
      rw [hcase] at hoffer <;>
      simp only [Except.ok.injEq, ControlFlow.resume.injEq, reduceCtorEq] at hoffer
    subst hoffer
    exact .inr (.inl ⟨position, role, current, startup, hworker, rfl⟩)
  · rw [heq]
    rcases worker.acceptShutdownSettlement_cases settlement with hcase |
      ⟨role, current, startup, rfl, hcase⟩ | ⟨role, current, startup, stopped, rfl, hcase⟩ <;>
      rw [hcase] at hoffer <;>
      simp only [Except.ok.injEq, ControlFlow.stop.injEq, reduceCtorEq] at hoffer
    subst hoffer
    exact .inr (.inr ⟨position, role, current, startup, stopped, hworker, rfl⟩)

/-- **`accept_worker_startup`**: the report is another worker's, or its worker goes on
starting or has reported. -/
theorem acceptWorkerStartup_cases (input : WorkerStartup S) :
    acceptWorkerStartup workers input = .unrelated workers input ∨
    ∃ position role current startup shutdown startup',
      workers[position]? = some ⟨role, .established current startup shutdown⟩ ∧
      (acceptWorkerStartup workers input
          = .started (workers.set position ⟨role, .established current startup' shutdown⟩) ∨
        acceptWorkerStartup workers input
          = .returned (workers.set position ⟨role, .established current startup' shutdown⟩)
            role input.worker input.startup input.outcome) := by
  unfold acceptWorkerStartup
  cases hposition : workers.findIdx? fun worker => worker.startup == some input.startup with
  | none => exact .inl rfl
  | some position =>
    obtain ⟨⟨role, state⟩, hmember, hfound, -⟩ := Roster.findIdx?_some hposition
    have hlt := (List.getElem?_eq_some_iff.mp hmember).1
    rcases state with worker | ⟨current, startup, shutdown⟩ | _ | _ | _ <;>
      simp only [RetiringWorker.startup, beq_iff_eq, reduceCtorEq] at hfound
    rcases startup with _ | (startup | initialization | ⟨permit, startup⟩ | startup | startup) <;>
      simp only [Option.some.injEq, reduceCtorEq] at hfound
    · subst hfound
      simp only [hmember, Roster.insertIdx_eraseIdx hlt]
      cases input.outcome with
      | started => exact .inr ⟨position, role, current, _, shutdown, _, hmember, .inl rfl⟩
      | startRejected request reason | ready readiness | rejected rejection =>
        exact .inr ⟨position, role, current, _, shutdown, none, hmember, .inr rfl⟩
    · subst hfound
      simp only [hmember, Roster.insertIdx_eraseIdx hlt]
      exact .inr ⟨position, role, current, _, shutdown, _, hmember, .inr rfl⟩

/-- **`accept_worker_initialization`**: the report comes back untouched, comes back after
its worker was noted, or brings the stop of its worker. -/
theorem acceptWorkerInitialization_cases
    (input : WorkerInitializationReport S) :
    acceptWorkerInitialization workers input = .returned workers input ∨
    (∃ position role current startup shutdown, workers[position]?
        = some ⟨role, .established current startup shutdown⟩ ∧
      acceptWorkerInitialization workers input
        = .returned (workers.set position ⟨role, .established current none shutdown⟩) input) ∨
    ∃ position role current custody join worker initialization startup stopped,
      workers[position]? = some ⟨role, .established current custody (.waiting join)⟩ ∧
      input = .stopped worker initialization startup stopped ∧
      stopped.child = current.attempt.creation ∧
      ((∃ request, join = .awaitingBoth request ∧
          acceptWorkerInitialization workers input = .workerStopped
            (workers.set position
              ⟨role, .established current none (.waiting (.awaitingSettlement request stopped))⟩)
            none role startup) ∨
        ∃ settlement, join = .awaitingStop settlement ∧
          acceptWorkerInitialization workers input = .workerStopped (workers.eraseIdx position)
            (some ⟨role, none, settlement⟩) role startup) := by
  unfold acceptWorkerInitialization
  cases hposition : workers.findIdx? fun worker =>
      worker.initialization == some input.initialization with
  | none => exact .inl rfl
  | some position =>
    obtain ⟨⟨role, state⟩, hmember, hfound, -⟩ := Roster.findIdx?_some hposition
    have hlt := (List.getElem?_eq_some_iff.mp hmember).1
    have hkept : (workers.eraseIdx position).insertIdx position ⟨role, state⟩ = workers :=
      Roster.insertIdx_eraseIdx_self hmember
    rcases state with worker | ⟨current, startup, shutdown⟩ | _ | _ | _ <;>
      simp only [RetiringWorker.initialization, beq_iff_eq, reduceCtorEq] at hfound
    rcases startup with _ | (startup | expected | ⟨permit, startup⟩ | startup | startup) <;>
      simp only [Option.some.injEq, reduceCtorEq] at hfound
    simp only [hmember]
    cases shutdown with
    | notRequested => exact .inl (by simp only [hkept])
    | waiting join =>
      cases input with
      | readyForStartup worker initialization startup permit
      | effectsRejected worker initialization startup failure =>
        exact .inr (.inl ⟨position, role, current, _, _, hmember, by
          simp only [Roster.insertIdx_eraseIdx hlt]⟩)
      | stopped worker initialization startup stopped =>
        by_cases hchild : stopped.child = current.attempt.creation
        case neg => exact .inl (by simp only [hchild, if_false, hkept])
        simp only [hchild, if_true, ShutdownJoin.stopped, ne_eq, not_true_eq_false, if_false]
        cases join with
        | awaitingBoth request =>
          exact .inr (.inr ⟨position, role, current, _, _, worker, initialization, startup, stopped,
            hmember, rfl, hchild, .inl ⟨request, rfl, by
              simp only [Roster.insertIdx_eraseIdx hlt]⟩⟩)
        | awaitingStop settlement =>
          exact .inr (.inr ⟨position, role, current, _, _, worker, initialization, startup, stopped,
            hmember, rfl, hchild, .inr ⟨settlement, rfl, rfl⟩⟩)
        | awaitingSettlement request retained => exact .inl (by simp only [hkept])

/-- **`accept_retiring_worker_preparation_start`**: the preparation starts, could not be
started, or is another's. -/
theorem acceptRetiringWorkerPreparationStart_cases
    (input : PreparationStarted S) :
    acceptRetiringWorkerPreparationStart workers input = .error (workers, input) ∨
    ∃ position role recoveries previous stopped preparation, workers[position]?
        = some ⟨role, .awaitingPreparation recoveries previous stopped preparation⟩ ∧
      preparation.acceptsIssued input = true ∧
      ((∃ ticket, preparation = .issued ticket ∧
          acceptRetiringWorkerPreparationStart workers input = .ok (.resume (workers.set position
            ⟨role, .awaitingPreparation recoveries previous stopped (.started ticket)⟩))) ∨
        ∃ source fault, (∀ ticket, input ≠ .attempted (.accepted ticket)) ∧
          acceptRetiringWorkerPreparationStart workers input
            = .ok (.stop (workers.set position ⟨role, .drained⟩,
              ⟨role, recoveries, previous, stopped, source, fault⟩))) := by
  unfold acceptRetiringWorkerPreparationStart
  cases hposition : workers.findIdx? (·.awaitsPreparation (·.acceptsIssued input)) with
  | none => exact .inl rfl
  | some position =>
    obtain ⟨⟨role, state⟩, hmember, hfound, -⟩ := Roster.findIdx?_some hposition
    have hlt := (List.getElem?_eq_some_iff.mp hmember).1
    rcases state with worker | ⟨current, startup, shutdown⟩ |
      ⟨recoveries, previous, stopped, preparation⟩ | _ | _ <;>
      simp only [RetiringWorker.awaitsPreparation, Bool.false_eq_true] at hfound
    refine .inr ⟨position, role, recoveries, previous, stopped, preparation, hmember, hfound, ?_⟩
    simp only [hmember, RecoveringWorker.acceptPreparationStart, hfound, if_true]
    rcases input with (ticket | ⟨item, reason⟩ | ⟨item, fault⟩) | item
    · cases preparation with
      | started expected => simp [WorkerPreparationExpectation.acceptsIssued] at hfound
      | issued expected =>
        simp only [WorkerPreparationExpectation.acceptsIssued, preparationStartAccepts] at hfound
        simp only [WorkerPreparationExpectation.acceptStart, hfound, if_true,
          Roster.insertIdx_eraseIdx hlt]
        exact .inl ⟨expected, rfl, rfl⟩
    · exact reason.elim
    · exact .inr ⟨item.source, .interpreterCorrupt fault, by simp, by
        simp only [Roster.insertIdx_eraseIdx hlt]⟩
    · exact .inr ⟨item.source, .interpretationSkipped, by simp, by
        simp only [Roster.insertIdx_eraseIdx hlt]⟩

/-- **`accept_retiring_worker_preparation_return`**: the preparation ended, with a worker
or without one, or it comes back. -/
theorem acceptRetiringWorkerPreparationReturn_cases
    (input : WorkerPreparation S) :
    acceptRetiringWorkerPreparationReturn workers input = .error (workers, input) ∨
    ∃ position role recoveries previous stopped preparation, workers[position]?
        = some ⟨role, .awaitingPreparation recoveries previous stopped preparation⟩ ∧
      preparation.acceptsReturn input = true ∧
      ((∃ source submission, acceptRetiringWorkerPreparationReturn workers input
          = .ok (workers.set position ⟨role, .drained⟩,
            .ready ⟨role, recoveries, previous, stopped, source, submission⟩)) ∨
        ∃ source error, error ≠ .sourceStateCorrupt ∧
          acceptRetiringWorkerPreparationReturn workers input
            = .ok (workers.set position ⟨role, .drained⟩,
              .failed role recoveries previous stopped source error)) := by
  unfold acceptRetiringWorkerPreparationReturn
  cases hposition : workers.findIdx? (·.awaitsPreparation (·.acceptsReturn input)) with
  | none => exact .inl rfl
  | some position =>
    obtain ⟨⟨role, state⟩, hmember, hfound, -⟩ := Roster.findIdx?_some hposition
    have hlt := (List.getElem?_eq_some_iff.mp hmember).1
    rcases state with worker | ⟨current, startup, shutdown⟩ |
      ⟨recoveries, previous, stopped, preparation⟩ | _ | _ <;>
      simp only [RetiringWorker.awaitsPreparation, Bool.false_eq_true] at hfound
    simp only [hmember, RecoveringWorker.acceptPreparationReturn, hfound, if_true]
    obtain ⟨ticket, outcome⟩ := input
    cases outcome with
    | prepared source prepared =>
      cases hlast : prepared.getLast? with
      | none => exact .inl (by simp only [hlast, Roster.insertIdx_eraseIdx_self hmember])
      | some last =>
        exact .inr ⟨position, role, recoveries, previous, stopped, preparation, hmember, hfound,
          .inl ⟨source, last.submission, by simp only [hlast, Roster.insertIdx_eraseIdx hlt]⟩⟩
    | workerRejected source prepared failed reason remaining =>
      exact .inr ⟨position, role, recoveries, previous, stopped, preparation, hmember, hfound,
        .inr ⟨source, .workerRejected reason, by simp, by
          simp only [Roster.insertIdx_eraseIdx hlt]⟩⟩
    | sourceRejected source failed reason remaining =>
      exact .inr ⟨position, role, recoveries, previous, stopped, preparation, hmember, hfound,
        .inr ⟨source, .sourceRejected reason, by simp, by
          simp only [Roster.insertIdx_eraseIdx hlt]⟩⟩

/-! ### A member as its pool retires -/

/-- The identifier a member takes from those reserved, and what is left. -/
def takeId (ids : Option (List ℕ)) (member : Member S) : Option ℕ × Option (List ℕ) :=
  match ids, member.shutdownTarget with
  | some (id :: ids), some _ => (some id, some ids)
  | ids, _ => (none, ids)

/-- **A shutdown hands a job over** exactly from a busy worker. -/
theorem shutdown_custody (member : Member S) (id : Option ℕ) :
    (∃ assigned : AssignedJob S, customersOf member = [assigned.customer] ∧
      (member.shutdown id).custody = .assignment assigned.shutdown) ∨
    (customersOf member = [] ∧
      ((member.shutdown id).custody = .noTransfer ∨
        ∃ replacement, (member.shutdown id).custody = .replacement replacement)) := by
  obtain ⟨role, recoveries, state⟩ := member
  rcases state with worker | ⟨current, phase⟩ | recovering | _
  · exact .inr ⟨rfl, .inl rfl⟩
  · rcases phase with ⟨_, _ | _⟩ | _ | ⟨_, _ | _⟩ | ⟨_, _ | _⟩ | _ | assigned | join
    case busy =>
      refine .inl ⟨assigned, rfl, ?_⟩
      simp only [Member.shutdown]
      cases assigned.shutdown.stopped <;> rfl
    case stopping => cases join <;> exact .inr ⟨rfl, .inl rfl⟩
    all_goals exact .inr ⟨rfl, .inl rfl⟩
  · cases recovering with
    | waitingForTimer => exact .inr ⟨rfl, .inr ⟨_, rfl⟩⟩
    | _ => exact .inr ⟨rfl, .inl rfl⟩
  · exact .inr ⟨rfl, .inl rfl⟩

/-! ### The source of a retiring pool -/

/-- The retired member awaits a preparation. -/
def isAwaitingPreparation (member : RetiringWorker S) : Bool :=
  member.awaitsPreparation fun _ => true

/-- The source is away exactly while one retired member awaits its preparation. -/
def RetiredLent (recovery : PoolRecoveryState S.Source) (members : List (RetiringWorker S)) :
    Prop :=
  members.countP isAwaitingPreparation = if recovery.sourceAway then 1 else 0

/-- A shutdown keeps the role, and only a role that prepares awaits its preparation after it. -/
theorem shutdown_member (member : Member S) (id : Option ℕ) :
    (member.shutdown id).member.role = member.role ∧
      isAwaitingPreparation (member.shutdown id).member = isPreparing member := by
  obtain ⟨role, recoveries, state⟩ := member
  rcases state with worker | ⟨current, phase⟩ | recovering | _
  · exact ⟨rfl, rfl⟩
  · rcases phase with ⟨_, _ | _⟩ | _ | ⟨_, _ | _⟩ | ⟨_, _ | _⟩ | _ | assigned | join
    case busy =>
      simp only [Member.shutdown]
      cases assigned.shutdown.stopped <;> cases id <;> exact ⟨rfl, rfl⟩
    case stopping => cases join <;> exact ⟨rfl, rfl⟩
    all_goals first | exact ⟨rfl, rfl⟩ | (cases id <;> exact ⟨rfl, rfl⟩)
  · cases recovering <;> exact ⟨rfl, rfl⟩
  · exact ⟨rfl, rfl⟩

section Lent

variable {recovery recovery' : PoolRecoveryState S.Source} {members : List (RetiringWorker S)}
  {position : ℕ} {old new : RetiringWorker S} (hlent : RetiredLent recovery members)
  (hmember : members[position]? = some old)

include hlent hmember

theorem RetiredLent.set (hsame : isAwaitingPreparation new = isAwaitingPreparation old) :
    RetiredLent recovery (members.set position new) :=
  (Roster.countP_set_of_eq hmember hsame).trans hlent

theorem RetiredLent.eraseIdx (hnot : isAwaitingPreparation old = false) :
    RetiredLent recovery (members.eraseIdx position) := by
  have hcount := Roster.countP_eraseIdx (p := isAwaitingPreparation) hmember
  rw [hnot] at hcount
  exact hcount.symm.trans hlent

/-- The member whose preparation ends gives the source back. -/
theorem RetiredLent.restored (hawaits : isAwaitingPreparation old = true)
    (hnot : isAwaitingPreparation new = false) (haway : recovery.sourceAway = true)
    (hhere : recovery'.sourceHere = true) :
    RetiredLent recovery' (members.set position new) := by
  have hcount := Roster.countP_set (p := isAwaitingPreparation) hmember new
  rw [RetiredLent, if_pos haway] at hlent
  rw [RetiredLent, PoolRecoveryState.sourceAway_of_here hhere]
  simp only [hawaits, hnot, Bool.false_eq_true, if_true, if_false] at hcount hlent ⊢
  omega

end Lent

theorem countP_awaiting_of_done {members : List (RetiringWorker S)}
    (h : ∀ member ∈ members, member.waiting = false) :
    members.countP isAwaitingPreparation = 0 := by
  refine List.countP_eq_zero.mpr fun member hmem => ?_
  have hdone := h member hmem
  obtain ⟨role, state⟩ := member
  cases state with
  | drained => simp [isAwaitingPreparation, RetiringWorker.awaitsPreparation]
  | _ => simp [RetiringWorker.waiting] at hdone

/-- Nothing awaits a preparation, so the source is not away. -/
theorem RetiredLent.sourceAway {recovery : PoolRecoveryState S.Source}
    {members : List (RetiringWorker S)} (h : RetiredLent recovery members)
    (hdone : ∀ member ∈ members, member.waiting = false) : recovery.sourceAway = false := by
  rw [RetiredLent, countP_awaiting_of_done hdone] at h
  by_contra haway
  rw [if_pos (by simpa using haway)] at h
  exact absurd h (by decide)

end Bombay
