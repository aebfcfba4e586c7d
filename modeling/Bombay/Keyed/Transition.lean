/-
# The transitions of a keyed pool, and its runs

`KeyedPool::init` and `KeyedPool::transition` of
`crates/actors/src/templates/pool/router/mod.rs`.  `transition` takes the state
out of `self`, leaves `Stopped` in its place, and matches on it and the input
together; whatever no arm accepts is diagnosed.  A `Journal` records a run:
`init`, then any finite sequence of events in any order.
-/

import Bombay.Keyed.Pool

namespace Bombay.Keyed

variable {R : Router}

/-- `KeyedError`. -/
inductive KeyedError where
  | initializationUnavailable
  | workerCreationsExhausted
  deriving DecidableEq, Repr

/-- `Member::begin` and `RoleCell::new` for each prepared worker; a member takes two
tokens. -/
def beginRoles (backlog : ℕ) : List (PreparedWorker R.workers) → List ℕ → ℕ → KeyedActions R →
    List (RoleCell R) × KeyedActions R × ℕ
  | prepared :: rest, creation :: ids, heap, actions =>
    let (member, worker, observation) := Member.begin prepared creation heap
    let (roles, actions, heap) :=
      beginRoles backlog rest ids (heap + 2) (actions.create worker observation)
    (.new member backlog :: roles, actions, heap)
  | _, _, heap, actions => ([], actions, heap)

variable (pool : KeyedPool R)

/-- `KeyedPool::init`; the table takes one token after the members. -/
def KeyedPool.init : KeyedPool R × Except KeyedError (KeyedActions R) :=
  match pool.state with
  | .constructed prepared =>
    match issueAll prepared.length pool.creations with
    | (none, creations) => ({ pool with creations := creations }, .error .workerCreationsExhausted)
    | (some ids, creations) =>
      let (roles, actions, heap) :=
        beginRoles pool.backlog prepared ids pool.heap KeyedActions.cont
      ({ pool with
          state := .operating ⟨roles, .new pool.bindingCapacity heap⟩
          creations := creations
          heap := heap + 1 },
        .ok actions)
  | _ => (pool, .error .initializationUnavailable)

/-- What `transition` does with the result of a handler: an input that comes back is
diagnosed. -/
def settle {Input : Type} (event : Input → KeyedEvent R)
    (result : Except (KeyedOperating R × Input) (Acted R)) : Acted R :=
  match result with
  | .ok acted => acted
  | .error (operating, input) => diagnose pool (.operating operating) (event input)

/-- The arms of `transition` for an operating pool. -/
def operatingTransition (operating : KeyedOperating R)
    (event : KeyedEvent R) : Acted R :=
  match event with
  | .command (.submit submission key payload customer) =>
    (acceptSubmission pool operating submission key payload customer).operate
  | .command (.binding command) => (acceptBinding pool operating command).operate
  | .command .shutdown => beginRetirement ⟨pool, operating, KeyedActions.cont⟩
  | .shutdown => beginRetirement ⟨pool, operating, KeyedActions.cont⟩
  | .workerCreationsSettled workers =>
    settle pool .workerCreationsSettled (acceptCreations pool operating workers)
  | .workerInitialization input =>
    settle pool .workerInitialization (acceptInitialization pool operating input)
  | .workerStartupReported input =>
    settle pool .workerStartupReported (acceptStartup pool operating input)
  | .assignmentSettled (.attempted (.accepted receipt)) =>
    settle pool (fun receipt => .assignmentSettled (.attempted (.accepted receipt)))
      (acceptAssignmentReceipt pool operating receipt)
  | .assignmentSettled (.attempted (.rejected item reason)) =>
    rejectAssignmentDelivery pool operating item reason
  | .workerCompleted report =>
    settle pool .workerCompleted (acceptCompletion pool operating report)
  | .workerStopped stopped =>
    settle pool .workerStopped (acceptWorkerStop pool operating stopped)
  | .workerShutdownSettled settlement =>
    settle pool .workerShutdownSettled (acceptQuarantineShutdown pool operating settlement)
  | .workerPreparationStarted input =>
    settle pool .workerPreparationStarted (acceptWorkerPreparationStart pool operating input)
  | .workerPreparationReturned input =>
    settle pool .workerPreparationReturned (acceptWorkerPreparationReturn pool operating input)
  | .restartScheduleSettled input =>
    settle pool .restartScheduleSettled (acceptRestartSchedule pool operating input)
  | .restartElapsed elapsed =>
    settle pool .restartElapsed (acceptRestartTimer pool operating elapsed)
  | event => diagnose pool (.operating operating) event

/-- The arms of `transition` for a retiring pool. -/
def retiringTransition (workers : List (RetiringWorker R.workers))
    (deadline : ShutdownDeadline) (event : KeyedEvent R) : Acted R :=
  match event with
  | .workerCreationsSettled creations => acceptWorkerCreations pool workers deadline creations
  | .workerStopped stopped => acceptWorkerExit pool workers deadline stopped
  | .workerShutdownSettled settlement => acceptWorkerShutdown pool workers deadline settlement
  | .workerInitialization input => acceptWorkerInitialization pool workers deadline input
  | .workerStartupReported input => acceptWorkerStartup pool workers deadline input
  | .workerPreparationStarted input => acceptRetiredPreparationStart pool workers deadline input
  | .workerPreparationReturned input => acceptRetiredPreparationReturn pool workers deadline input
  | .restartScheduleSettled settlement => acceptRetirementSchedule pool workers deadline settlement
  | .restartElapsed elapsed => acceptDeadline pool workers deadline elapsed
  | event => diagnose pool (.retiring workers deadline) event

/-- The match of `transition`, on the state it took out of `self`. -/
def act (event : KeyedEvent R) : Acted R :=
  let self := { pool with state := .stopped }
  match pool.state with
  | .operating operating => operatingTransition self operating event
  | .retiring workers deadline => retiringTransition self workers deadline event
  | state => diagnose self state event

/-- The pool after a handler: `self.state = state`. -/
def Acted.next (acted : Acted R) : KeyedPool R := { acted.pool with state := acted.state }

/-- `KeyedPool::transition`. -/
def KeyedPool.transition (event : KeyedEvent R) :
    KeyedPool R × KeyedActions R :=
  let acted := act pool event
  (acted.next, acted.actions)

/-! ### Whole runs -/

/-- One transition of a run. -/
structure Entry (R : Router) where
  before : KeyedPool R
  event : KeyedEvent R
  actions : KeyedActions R
  after : KeyedPool R

/-- A run so far: the pool now, the actions of `init`, and every transition. -/
structure Journal (R : Router) where
  pool : KeyedPool R
  first : KeyedActions R
  entries : List (Entry R)

/-- The journal after `init`; a failed `init` acts on nothing. -/
def Journal.begin (config : Config R) (selector : R.Key → R.base.Role)
    (prepared : PreparedRoster R) : Journal R :=
  match (KeyedPool.new config selector prepared).init with
  | (pool, .ok actions) => ⟨pool, actions, []⟩
  | (pool, .error _) => ⟨pool, KeyedActions.cont, []⟩

/-- The journal after one more event. -/
def Journal.step (journal : Journal R) (event : KeyedEvent R) : Journal R :=
  let (pool, actions) := journal.pool.transition event
  { journal with
    pool := pool
    entries := journal.entries ++ [⟨journal.pool, event, actions, pool⟩] }

/-- **A run**: `init`, then any events in any order. -/
def run (config : Config R) (selector : R.Key → R.base.Role) (prepared : PreparedRoster R)
    (events : List (KeyedEvent R)) : Journal R :=
  events.foldl Journal.step (Journal.begin config selector prepared)

/-- Every action a run has emitted, `init` first. -/
def Journal.emitted (journal : Journal R) : List (KeyedActions R) :=
  journal.first :: journal.entries.map (·.actions)

/-- The operating state of a pool, if it operates. -/
def KeyedPool.operating? : Option (KeyedOperating R) :=
  match pool.state with
  | .operating operating => some operating
  | _ => none

/-- **Induction over a run.** -/
theorem run_invariant {motive : Journal R → Prop} (config : Config R)
    (selector : R.Key → R.base.Role) (prepared : PreparedRoster R)
    (hbegin : motive (Journal.begin config selector prepared))
    (hstep : ∀ journal event, motive journal → motive (journal.step event))
    (events : List (KeyedEvent R)) : motive (run config selector prepared events) := by
  induction events using List.reverseRecOn with
  | nil => exact hbegin
  | append_singleton events event ih =>
    unfold run
    rw [List.foldl_append, List.foldl_cons, List.foldl_nil]
    exact hstep _ event ih

end Bombay.Keyed
