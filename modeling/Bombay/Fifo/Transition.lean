/-
# The FIFO pool as a behaviour

`impl Behavior for FifoPool` in `crates/actors/src/templates/pool/queue/mod.rs`:
`init` creates every prepared worker, `transition` sends each event to the
handler of the state it meets.  A `Journal` records a whole run, and `run`
plays any sequence of events against a pool built from any configuration.
-/

import Bombay.Fifo.Pool

namespace Bombay.Fifo

variable {S : Signature}

/-- `FifoError`. -/
inductive FifoError where
  | initializationUnavailable
  | workerCreationsExhausted
  deriving DecidableEq, Repr

/-- `Member::begin` for each prepared worker; a member takes two tokens. -/
def beginMembers : List (PreparedWorker S) → List ℕ → ℕ → FifoActions S →
    List (Member S) × FifoActions S × ℕ
  | prepared :: rest, creation :: ids, heap, actions =>
    let (member, worker, observation) := Member.begin prepared creation heap
    let (members, actions, heap) :=
      beginMembers rest ids (heap + 2) (actions.create worker observation)
    (member :: members, actions, heap)
  | _, _, heap, actions => ([], actions, heap)

variable (pool : FifoPool S)

/-- `FifoPool::init`. -/
def FifoPool.init : FifoPool S × Except FifoError (FifoActions S) :=
  match pool.state with
  | .constructed prepared =>
    match issueAll prepared.length pool.creations with
    | (none, creations) => ({ pool with creations := creations }, .error .workerCreationsExhausted)
    | (some ids, creations) =>
      let (members, actions, heap) := beginMembers prepared ids pool.heap FifoActions.cont
      ({ pool with
          state := .operating ⟨members, OrderedMap.empty, 0⟩
          creations := creations
          heap := heap },
        .ok actions)
  | _ => (pool, .error .initializationUnavailable)

/-- What `transition` does with the result of a handler: an input that comes
back is diagnosed. -/
def settle {Input : Type} (event : Input → FifoEvent S)
    (result : Except (FifoOperating S × Input) (Acted S)) : Acted S :=
  match result with
  | .ok acted => acted
  | .error (operating, input) => diagnose pool (.operating operating) (event input)

/-- The arms of `transition` for an operating pool. -/
def operatingTransition (operating : FifoOperating S)
    (event : FifoEvent S) : Acted S :=
  match event with
  | .command (.submit submission payload customer) =>
    (acceptSubmission pool operating submission payload customer).operate
  | .command .shutdown => beginShutdown ⟨pool, operating, FifoActions.cont⟩
  | .shutdown => beginShutdown ⟨pool, operating, FifoActions.cont⟩
  | .workerCreationsSettled workers =>
    settle pool .workerCreationsSettled (acceptCreations pool operating workers)
  | .workerInitialization input =>
    settle pool .workerInitialization (acceptInitialization pool operating input)
  | .workerStartupReported input =>
    settle pool .workerStartupReported (acceptStartup pool operating input)
  | .workerPreparationStarted input =>
    settle pool .workerPreparationStarted (acceptWorkerPreparationStart pool operating input)
  | .workerPreparationReturned input =>
    settle pool .workerPreparationReturned (acceptWorkerPreparationReturn pool operating input)
  | .restartScheduleSettled input =>
    settle pool .restartScheduleSettled (acceptRestartSchedule pool operating input)
  | .restartElapsed elapsed =>
    settle pool .restartElapsed (acceptRestartTimer pool operating elapsed)
  | .assignmentSettled (.attempted (.accepted receipt)) =>
    settle pool (fun receipt => .assignmentSettled (.attempted (.accepted receipt)))
      (acceptAssignmentReceipt pool operating receipt)
  | .assignmentSettled (.attempted (.rejected item reason)) =>
    rejectAssignmentDelivery pool operating item reason
  | .workerCompleted ⟨child, report⟩ =>
    settle pool .workerCompleted (acceptCompletion pool operating child report)
  | .workerStopped stopped =>
    settle pool .workerStopped (acceptWorkerStop pool operating stopped)
  | .workerShutdownSettled shutdown =>
    settle pool .workerShutdownSettled (acceptShutdownSettlement pool operating shutdown)
  | event => diagnose pool (.operating operating) event

/-- The arms of `transition` for a draining pool. -/
def drainingTransition (members : List (RetiringWorker S))
    (deadline : ShutdownDeadline) (event : FifoEvent S) : Acted S :=
  match event with
  | .command (.submit submission payload customer) =>
    ⟨pool, .draining members deadline, FifoActions.cont.deliver customer
      (.rejected submission payload .shuttingDown)⟩
  | .command .shutdown => ⟨pool, .draining members deadline, FifoActions.cont⟩
  | .shutdown => ⟨pool, .draining members deadline, FifoActions.cont⟩
  | .workerCreationsSettled workers => acceptDrainCreations pool members deadline workers
  | .workerStopped stopped => acceptDrainStop pool members deadline stopped
  | .workerInitialization report => acceptDrainInitialization pool members deadline report
  | .workerStartupReported startup => acceptDrainStartup pool members deadline startup
  | .workerShutdownSettled settled => acceptDrainShutdown pool members deadline settled
  | .workerPreparationStarted started => acceptDrainPreparationStart pool members deadline started
  | .workerPreparationReturned returned =>
    acceptDrainPreparationReturn pool members deadline returned
  | .restartScheduleSettled settled => acceptDrainSchedule pool members deadline settled
  | .restartElapsed elapsed => acceptDrainDeadline pool members deadline elapsed
  | event => diagnose pool (.draining members deadline) event

/-- The match of `transition`, on the state it took out of `self`. -/
def act (event : FifoEvent S) : Acted S :=
  let self := { pool with state := .stopped }
  match pool.state with
  | .operating operating => operatingTransition self operating event
  | .draining members deadline => drainingTransition self members deadline event
  | .stopped =>
    let acted := diagnose self .stopped event
    { acted with actions := acted.actions.stop }
  | .forcedRetirement members cause =>
    let acted := diagnose self (.forcedRetirement members cause) event
    { acted with actions := acted.actions.stop }
  | .constructed prepared => diagnose self (.constructed prepared) event

/-- `FifoPool::transition`. -/
def FifoPool.transition (event : FifoEvent S) :
    FifoPool S × FifoActions S :=
  let acted := act pool event
  ({ acted.pool with state := acted.state }, acted.actions)

/-! ### Whole runs -/

/-- One transition of a run. -/
structure Entry (S : Signature) where
  before : FifoPool S
  event : FifoEvent S
  actions : FifoActions S
  after : FifoPool S

/-- A run so far: the pool now, the actions of `init`, and every transition. -/
structure Journal (S : Signature) where
  pool : FifoPool S
  first : FifoActions S
  entries : List (Entry S)

/-- The journal after `init`; a failed `init` acts on nothing. -/
def Journal.begin (config : Config S) (prepared : List (PreparedWorker S)) : Journal S :=
  match (FifoPool.build config prepared).init with
  | (pool, .ok actions) => ⟨pool, actions, []⟩
  | (pool, .error _) => ⟨pool, FifoActions.cont, []⟩

/-- The journal after one more event. -/
def Journal.step (journal : Journal S) (event : FifoEvent S) : Journal S :=
  let (pool, actions) := journal.pool.transition event
  { journal with
    pool := pool
    entries := journal.entries ++ [⟨journal.pool, event, actions, pool⟩] }

/-- **A run**: `init`, then any events in any order. -/
def run (config : Config S) (prepared : List (PreparedWorker S)) (events : List (FifoEvent S)) :
    Journal S :=
  events.foldl Journal.step (Journal.begin config prepared)

/-- Every action a run has emitted, `init` first. -/
def Journal.emitted (journal : Journal S) : List (FifoActions S) :=
  journal.first :: journal.entries.map (·.actions)

/-- **What holds after `init` and survives every event holds in every run.** -/
theorem run_invariant {motive : Journal S → Prop} (config : Config S)
    (prepared : List (PreparedWorker S)) (hbegin : motive (Journal.begin config prepared))
    (hstep : ∀ journal event, motive journal → motive (journal.step event))
    (events : List (FifoEvent S)) : motive (run config prepared events) := by
  induction events using List.reverseRecOn with
  | nil => exact hbegin
  | append_singleton events event ih =>
    rw [run, List.foldl_append]
    exact hstep _ event ih

theorem run_append_singleton (config : Config S) (prepared : List (PreparedWorker S))
    (events : List (FifoEvent S)) (event : FifoEvent S) :
    run config prepared (events ++ [event]) = (run config prepared events).step event := by
  simp [run, List.foldl_append]

end Bombay.Fifo
