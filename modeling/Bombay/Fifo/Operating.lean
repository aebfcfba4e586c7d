/-
# The operating pool

`FifoOperating` of `crates/actors/src/templates/pool/queue/mod.rs`: the members
in declaration order, the backlog in admission order and the round-robin
cursor, with the searches its transitions start from, and `FifoPool` itself.

A handler of the source owns `self`, the operating state and the actions at
once; a `Turn` is the three of them.  While a transition runs, `self.state` is
the `Stopped` placeholder that `mem::replace` left behind.
-/

import Bombay.Fifo.Protocol
import Bombay.Lib.OrderedMap

namespace Bombay.Fifo

section

variable (S : Signature)

/-- `FifoOperating`. -/
structure FifoOperating where
  members : List (Member S)
  backlog : OrderedMap ℕ (QueuedJob S)
  cursor : ℕ

/-- `FifoDispatch`. -/
inductive FifoDispatch where
  | assigned (assignment : AssignWorker S)
  | workerUnavailable (queued : QueuedJob S)
  | correlationUnavailable (queued : QueuedJob S)

/-- `PoolState`. -/
inductive PoolState where
  | constructed (prepared : List (PreparedWorker S))
  | operating (operating : FifoOperating S)
  | draining (members : List (RetiringWorker S)) (deadline : ShutdownDeadline)
  | stopped
  | forcedRetirement (members : List (RetiringWorker S)) (cause : ForcedRetirementCause)

/-- `FifoPool`, with the allocator of the `Arc` tokens it issues. -/
structure FifoPool where
  state : PoolState S
  startup : StartupLimit
  recovery : PoolRecoveryState S.Source
  restarts : RestartBudget
  /-- `BacklogCapacity`. -/
  backlog : ℕ
  interruption : Interruption
  actorDrain : ActorDrainPolicy
  creations : Sequence
  jobs : Sequence
  assignments : Sequence
  shutdowns : Sequence
  nextRestartTimer : ℕ
  heap : ℕ

/-- `Config`, less the diagnostic route. -/
structure Config where
  startup : StartupLimit
  recovery : PoolRecovery S.Source
  backlog : ℕ
  interruption : Interruption
  shutdown : ActorDrainPolicy

/-- What a handler of the source owns while it runs. -/
structure Turn where
  pool : FifoPool S
  operating : FifoOperating S
  actions : FifoActions S

/-- What a handler of the source returns: `&mut self`, the next state and the
actions. -/
structure Acted where
  pool : FifoPool S
  state : PoolState S
  actions : FifoActions S

end

variable {S : Signature}

/-- `FifoBuilder::build` once every initial worker is prepared. -/
def FifoPool.build (config : Config S) (prepared : List (PreparedWorker S)) : FifoPool S where
  state := .constructed prepared
  startup := config.startup
  recovery := .ofRecovery config.recovery
  restarts := RestartBudget.empty
  backlog := config.backlog
  interruption := config.interruption
  actorDrain := config.shutdown
  creations := ⟨some 1⟩
  jobs := AcceptedJobSequence.new
  assignments := AssignmentSequence.new
  shutdowns := ⟨some 0⟩
  nextRestartTimer := 1
  heap := 0

/-! ### The phases the searches look for -/

/-- The member counts as able to serve now or later: a stopping or recovering
role does so only where the policy replaces workers. -/
def isRecoverable (recovery : PoolRecoveryState S.Source) (member : Member S) : Bool :=
  match member.state with
  | .retired => false
  | .worker _ (.stopping _) => recovery.recovers
  | .recovering _ => recovery.recovers
  | .creating _ => true
  | .worker _ _ => true

namespace FifoOperating

variable (operating : FifoOperating S)

/-- `FifoOperating::available_position`. -/
def availablePosition : Option ℕ :=
  if operating.members.isEmpty then none
  else (List.range operating.members.length).findSome? fun offset =>
    let position := (operating.cursor + offset) % operating.members.length
    match operating.members[position]? with
    | some member => if isIdle member then some position else none
    | none => none

/-- `FifoOperating::creation_positions`. -/
def creationPositions (identities : List (ℕ × CreationKind)) :
    Option (List ℕ) :=
  orderedCreationPositions (operating.members.map Member.expectedCreation) identities

/-- `FifoOperating::recoverable_position`. -/
def recoverablePosition (recovery : PoolRecoveryState S.Source) :
    Option ℕ :=
  operating.members.findIdx? (isRecoverable recovery)

/-- `FifoOperating::dispatch`; a correlation takes one token. -/
def dispatch (assignments : Sequence) (heap : ℕ)
    (queued : QueuedJob S) : FifoOperating S × Sequence × ℕ × FifoDispatch S :=
  match operating.availablePosition with
  | none => (operating, assignments, heap, .workerUnavailable queued)
  | some position =>
    match operating.members[position]? with
    | some ⟨role, recoveries, .worker current .idle⟩ =>
      match AssignmentSequence.assign assignments heap current.attempt
          queued.customer.payload with
      | none => (operating, assignments, heap, .correlationUnavailable queued)
      | some ((correlation, execution), assignments) =>
        ({ operating with
            members := operating.members.set position ⟨role, recoveries,
              .worker current (.busy (AssignedJob.new queued.customer correlation))⟩
            cursor := position + 1 },
          assignments, heap + 1,
          .assigned (AssignWorker.new current.recipient correlation execution))
    | _ => (operating, assignments, heap, .workerUnavailable queued)

/-- `FifoOperating::assignment_receipt_position`. -/
def assignmentReceiptPosition (receipt : AssignmentReceipt) :
    Option ℕ :=
  operating.members.findIdx? fun member =>
    match member.state with
    | .worker _ (.busy assignment) => assignment.compareReceipt receipt = .exact
    | _ => false

/-- `FifoOperating::completion_position`. -/
def completionPosition (child : ℕ) (completion : Completion S) :
    Option ℕ :=
  operating.members.findIdx? fun member =>
    match member.state with
    | .worker current (.busy assignment) =>
      current.attempt.creation = child ∧ assignment.compareCompletion completion = .exact
    | _ => false

/-- `FifoOperating::worker_position`. -/
def workerPosition (child : ℕ) : Option ℕ :=
  operating.members.findIdx? fun member =>
    match member.state with
    | .creating worker => worker.attempt.creation = child
    | .worker current _ => current.attempt.creation = child
    | _ => false

/-- `FifoOperating::worker_shutdown_position`. -/
def workerShutdownPosition (request : ℕ) : Option ℕ :=
  operating.members.findIdx? fun member =>
    match member.state with
    | .worker _ (.stopping join) => join.request = request
    | _ => false

/-- `FifoOperating::preparation_start_position`. -/
def preparationStartPosition (input : PreparationStarted S) :
    Option ℕ :=
  operating.members.findIdx? fun member =>
    match member.state with
    | .recovering (.preparing _ _ expected) => expected.acceptsIssued input
    | _ => false

/-- `FifoOperating::preparation_return_position`. -/
def preparationReturnPosition (input : WorkerPreparation S) :
    Option ℕ :=
  operating.members.findIdx? fun member =>
    match member.state with
    | .recovering (.preparing _ _ expected) => expected.acceptsReturn input
    | _ => false

/-- `FifoOperating::waiting_recovery_position`. -/
def waitingRecoveryPosition : Option ℕ :=
  operating.members.findIdx? isWaitingForSource

/-- `FifoOperating::restart_schedule_position`. -/
def restartSchedulePosition (input : ScheduleSettled) : Option ℕ :=
  operating.members.findIdx? fun member =>
    match member.state with
    | .recovering recovering => recovering.acceptsRestartSchedule input
    | _ => false

/-- `FifoOperating::restart_timer_position`. -/
def restartTimerPosition (elapsed : TimerElapsed) : Option ℕ :=
  operating.members.findIdx? fun member =>
    match member.state with
    | .recovering recovering => recovering.acceptsRestartTimer elapsed
    | _ => false

/-- Every position is at some offset from the cursor. -/
theorem exists_offset {position size} (cursor : ℕ) (h : position < size) :
    ∃ offset < size, (cursor + offset) % size = position := by
  have hcursor : cursor % size < size := Nat.mod_lt _ (by omega)
  refine ⟨(position + (size - cursor % size)) % size, Nat.mod_lt _ (by omega), ?_⟩
  rw [Nat.add_mod_mod, ← Nat.mod_add_mod]
  rw [show cursor % size + (position + (size - cursor % size)) = position + size by omega,
    Nat.add_mod_right, Nat.mod_eq_of_lt h]

/-- **The round-robin search**: the first idle member at or after the cursor, in
circular order, or nobody is idle. -/
theorem availablePosition_cases :
    (operating.availablePosition = none ∧ operating.members.countP isIdle = 0) ∨
    ∃ offset < operating.members.length,
      operating.availablePosition = some ((operating.cursor + offset) % operating.members.length) ∧
      (∃ member, operating.members[(operating.cursor + offset) % operating.members.length]?
        = some member ∧ isIdle member = true) ∧
      ∀ earlier < offset, ∀ member,
        operating.members[(operating.cursor + earlier) % operating.members.length]?
          = some member → isIdle member = false := by
  unfold availablePosition
  split
  · rename_i hempty
    exact .inl ⟨rfl, by simp [List.isEmpty_iff.mp hempty]⟩
  rename_i hempty
  cases hfound : (List.range operating.members.length).findSome? fun offset =>
      match operating.members[(operating.cursor + offset) % operating.members.length]? with
      | some member => if isIdle member then
          some ((operating.cursor + offset) % operating.members.length) else none
      | none => none with
  | none =>
    refine .inl ⟨rfl, List.countP_eq_zero.mpr fun member hmember => ?_⟩
    obtain ⟨position, hposition, rfl⟩ := List.getElem_of_mem hmember
    obtain ⟨offset, hoffset, heq⟩ := exists_offset operating.cursor hposition
    have hnone := List.findSome?_eq_none_iff.mp hfound offset (List.mem_range.mpr hoffset)
    rw [heq, List.getElem?_eq_getElem hposition] at hnone
    simpa using hnone
  | some position =>
    obtain ⟨offset, hoffset, hposition, hbefore⟩ := Roster.findSome?_range hfound
    refine .inr ⟨offset, hoffset, ?_, ?_, fun earlier hearlier member hmember => ?_⟩
    · split at hposition <;> simp_all
    · split at hposition <;> simp_all
    · have hnone := hbefore earlier hearlier
      rw [hmember] at hnone
      simpa using hnone

/-- `operating.members.remove(position)`. -/
def remove (position : ℕ) : FifoOperating S :=
  { operating with members := operating.members.eraseIdx position }

/-- `operating.members.insert(position, member)`. -/
def insert (position : ℕ) (member : Member S) : FifoOperating S :=
  { operating with members := operating.members.insertIdx position member }

/-- `operating.backlog.insert(customer.admitted, queued)`. -/
def enqueue (queued : QueuedJob S) : FifoOperating S :=
  { operating with backlog := operating.backlog.insert queued.customer.admitted queued }

end FifoOperating

end Bombay.Fifo
