/-
# One assigned job

`crates/actors/src/templates/pool/assignment.rs`: the custody of one accepted
customer job while a worker runs it.  The delivery receipt, the worker's
completion and the worker's exit arrive in any order; `AssignedJob` joins them
and releases the customer exactly once.  A fact that does not fit is handed
back together with the unchanged assignment.
-/

import Bombay.Worker

namespace Bombay

/-- `CompletionAuthority`, affine, held by the worker. -/
structure CompletionAuthority where
  assignment : ℕ
  worker : WorkerAttempt
  token : ℕ
  deriving DecidableEq, Repr

/-- `CompletionCorrelation`, held by the pool. -/
structure CompletionCorrelation where
  assignment : ℕ
  worker : WorkerAttempt
  token : ℕ
  deriving DecidableEq, Repr

/-- `CorrelationMatch`. -/
inductive CorrelationMatch where
  | exact
  | foreign
  deriving DecidableEq, Repr

/-- `AssignmentReceipt`. -/
structure AssignmentReceipt where
  assignment : ℕ
  worker : WorkerAttempt
  deriving DecidableEq, Repr

/-- `CompletionCorrelation::compare`. -/
def CompletionCorrelation.compare (correlation : CompletionCorrelation)
    (authority : CompletionAuthority) : CorrelationMatch :=
  if correlation.assignment = authority.assignment ∧ correlation.worker = authority.worker ∧
      correlation.token = authority.token then .exact else .foreign

/-- `AssignmentReceipt::issued`. -/
def AssignmentReceipt.issued (correlation : CompletionCorrelation) : AssignmentReceipt :=
  ⟨correlation.assignment, correlation.worker⟩

/-- `AssignmentReceipt::compare`. -/
def AssignmentReceipt.compare (receipt : AssignmentReceipt)
    (correlation : CompletionCorrelation) : CorrelationMatch :=
  if receipt.assignment = correlation.assignment ∧ receipt.worker = correlation.worker then .exact
  else .foreign

/-- `ExactDeliveryReason`. -/
inductive ExactDeliveryReason where
  | closedRecipient
  deriving DecidableEq, Repr

section

variable (S : Signature)

/-- `Assignment<Job>`. -/
structure Assignment where
  payload : S.Job
  authority : CompletionAuthority

/-- `Completion<WorkerResult>`. -/
structure Completion where
  workerResult : S.WorkerResult
  authority : CompletionAuthority

/-- `ChildReport<Completion<WorkerResult>>`. -/
structure CompletionReport where
  child : ℕ
  report : Completion S

/-- `AssignWorker<P, Job>`. -/
structure AssignWorker where
  target : S.Recipient
  assignment : Assignment S
  receipt : AssignmentReceipt

/-- `ActionItemResult<AssignWorker<P, Job>>`. -/
abbrev AssignmentSettled :=
  ActionItemResult (AssignWorker S) AssignmentReceipt ExactDeliveryReason

/-- `CustomerJob<Job, Customer>`: the job identifier and its admission ordinal
come from one sequence. -/
structure CustomerJob where
  id : ℕ
  admitted : ℕ
  payload : S.Job
  customer : S.Customer

/-- `AssignmentDelivery<WorkerResult, A>`. -/
inductive AssignmentDelivery where
  | awaitingReceipt
  | accepted
  | completionHasPriority (completion : Completion S) (laterExit : Option (ChildStopped S))
  | workerExitHasPriority (stopped : ChildStopped S) (laterCompletion : Option (Completion S))

/-- `AssignedJob<Job, Customer, WorkerResult, A>`. -/
structure AssignedJob where
  customer : CustomerJob S
  correlation : CompletionCorrelation
  delivery : AssignmentDelivery S

/-- `AssignmentShutdown`. -/
structure AssignmentShutdown where
  customer : CustomerJob S
  worker : WorkerAttempt
  stopped : Option (ChildStopped S)
  completion : Option (Completion S)

/-- `AssignmentReceiptOutcome`. -/
inductive AssignmentReceiptOutcome where
  | awaitingCompletion (assigned : AssignedJob S)
  | jobCompleted (customer : CustomerJob S) (result : S.WorkerResult)
      (stopped : Option (ChildStopped S))
  | jobInterrupted (customer : CustomerJob S) (stopped : ChildStopped S)
      (lateCompletion : Option (Completion S))

/-- `WorkerCompletionOutcome`. -/
inductive WorkerCompletionOutcome where
  | awaitingReceipt (assigned : AssignedJob S)
  | jobCompleted (customer : CustomerJob S) (result : S.WorkerResult)
      (stopped : Option (ChildStopped S))

/-- `AssignmentRejectionOutcome`. -/
inductive AssignmentRejectionOutcome where
  | jobReturned (customer : CustomerJob S) (stopped : Option (ChildStopped S))
  | conflictingCompletion (customer : CustomerJob S) (assignment : Assignment S)
      (completion : Completion S) (stopped : Option (ChildStopped S))

/-- `WorkerExitOutcome`. -/
inductive WorkerExitOutcome where
  | awaitingReceipt (assigned : AssignedJob S)
  | jobInterrupted (customer : CustomerJob S) (stopped : ChildStopped S)
      (lateCompletion : Option (Completion S))

end

variable {S : Signature}

/-- `AcceptedJobSequence::new`. -/
def AcceptedJobSequence.new : Sequence := ⟨some 1⟩

/-- `AssignmentSequence::new`. -/
def AssignmentSequence.new : Sequence := ⟨some 1⟩

/-- `AssignmentSequence::assign`: one identifier, one token, two halves. -/
def AssignmentSequence.assign (assignments : Sequence) (token : ℕ) (worker : WorkerAttempt)
    (payload : S.Job) : Option ((CompletionCorrelation × Assignment S) × Sequence) :=
  match assignments.issue with
  | none => none
  | some (assignment, assignments) =>
    some ((⟨assignment, worker, token⟩, ⟨payload, ⟨assignment, worker, token⟩⟩), assignments)

/-- `AssignWorker::new`. -/
def AssignWorker.new (target : S.Recipient) (correlation : CompletionCorrelation)
    (assignment : Assignment S) : AssignWorker S :=
  ⟨target, assignment, AssignmentReceipt.issued correlation⟩

namespace AssignedJob

/-- `AssignedJob::new`. -/
def new (customer : CustomerJob S) (correlation : CompletionCorrelation) : AssignedJob S :=
  ⟨customer, correlation, .awaitingReceipt⟩

variable (assigned : AssignedJob S)

/-- `AssignedJob::compare_receipt`. -/
def compareReceipt (receipt : AssignmentReceipt) : CorrelationMatch :=
  receipt.compare assigned.correlation

/-- `AssignedJob::compare_completion`. -/
def compareCompletion (completion : Completion S) :
    CorrelationMatch :=
  assigned.correlation.compare completion.authority

/-- `AssignedJob::shutdown`. -/
def shutdown : AssignmentShutdown S :=
  match assigned.delivery with
  | .awaitingReceipt => ⟨assigned.customer, assigned.correlation.worker, none, none⟩
  | .accepted => ⟨assigned.customer, assigned.correlation.worker, none, none⟩
  | .completionHasPriority completion laterExit =>
    ⟨assigned.customer, assigned.correlation.worker, laterExit, some completion⟩
  | .workerExitHasPriority stopped laterCompletion =>
    ⟨assigned.customer, assigned.correlation.worker, some stopped, laterCompletion⟩

/-- `AssignedJob::accept_receipt`. -/
def acceptReceipt (receipt : AssignmentReceipt) :
    Except (AssignedJob S × AssignmentReceipt) (AssignmentReceiptOutcome S) :=
  match receipt.compare assigned.correlation with
  | .foreign => .error (assigned, receipt)
  | .exact =>
    match assigned.delivery with
    | .awaitingReceipt =>
      .ok (.awaitingCompletion ⟨assigned.customer, assigned.correlation, .accepted⟩)
    | .completionHasPriority completion laterExit =>
      .ok (.jobCompleted assigned.customer completion.workerResult laterExit)
    | .workerExitHasPriority stopped laterCompletion =>
      .ok (.jobInterrupted assigned.customer stopped laterCompletion)
    | .accepted =>
      .error (⟨assigned.customer, assigned.correlation, .accepted⟩, receipt)

/-- `AssignedJob::accept_rejection`. -/
def acceptRejection (assignment : Assignment S) :
    Except (AssignedJob S × Assignment S) (AssignmentRejectionOutcome S) :=
  match assigned.correlation.compare assignment.authority with
  | .foreign => .error (assigned, assignment)
  | .exact =>
    match assigned.delivery with
    | .awaitingReceipt => .ok (.jobReturned assigned.customer none)
    | .completionHasPriority completion laterExit =>
      .ok (.conflictingCompletion assigned.customer assignment completion laterExit)
    | .workerExitHasPriority stopped none => .ok (.jobReturned assigned.customer (some stopped))
    | .workerExitHasPriority stopped (some completion) =>
      .ok (.conflictingCompletion assigned.customer assignment completion (some stopped))
    | .accepted =>
      .error (⟨assigned.customer, assigned.correlation, .accepted⟩, assignment)

/-- `AssignedJob::accept_completion`. -/
def acceptCompletion (completion : Completion S) :
    Except (AssignedJob S × Completion S) (WorkerCompletionOutcome S) :=
  match assigned.correlation.compare completion.authority with
  | .foreign => .error (assigned, completion)
  | .exact =>
    match assigned.delivery with
    | .awaitingReceipt =>
      .ok (.awaitingReceipt
        ⟨assigned.customer, assigned.correlation, .completionHasPriority completion none⟩)
    | .accepted => .ok (.jobCompleted assigned.customer completion.workerResult none)
    | .workerExitHasPriority stopped none =>
      .ok (.awaitingReceipt ⟨assigned.customer, assigned.correlation,
        .workerExitHasPriority stopped (some completion)⟩)
    | delivery => .error (⟨assigned.customer, assigned.correlation, delivery⟩, completion)

/-- `AssignedJob::accept_worker_exit`. -/
def acceptWorkerExit (stopped : ChildStopped S) :
    Except (AssignedJob S × ChildStopped S) (WorkerExitOutcome S) :=
  if stopped.child ≠ assigned.correlation.worker.creation then .error (assigned, stopped)
  else
    match assigned.delivery with
    | .awaitingReceipt =>
      .ok (.awaitingReceipt
        ⟨assigned.customer, assigned.correlation, .workerExitHasPriority stopped none⟩)
    | .accepted => .ok (.jobInterrupted assigned.customer stopped none)
    | .completionHasPriority completion none =>
      .ok (.awaitingReceipt ⟨assigned.customer, assigned.correlation,
        .completionHasPriority completion (some stopped)⟩)
    | delivery => .error (⟨assigned.customer, assigned.correlation, delivery⟩, stopped)

/-- `AssignedJob::observed_stop`. -/
def observedStop : Option (ChildStopped S) :=
  match assigned.delivery with
  | .completionHasPriority _ (some stopped) => some stopped
  | .workerExitHasPriority stopped _ => some stopped
  | _ => none

/-! ### What each fact can do to the join

Every fact is handed back with the unchanged assignment, or keeps the customer
and the correlation, or releases the customer of this assignment with the stop
it had observed. -/

theorem shutdown_customer :
    assigned.shutdown.customer = assigned.customer := by
  unfold shutdown
  split <;> rfl

theorem shutdown_stopped :
    assigned.shutdown.stopped = assigned.observedStop := by
  unfold shutdown observedStop
  rcases assigned with ⟨customer, correlation, _ | _ | ⟨completion, _ | exit⟩ | _⟩ <;> rfl

/-- **A receipt.** -/
theorem acceptReceipt_cases (receipt : AssignmentReceipt) :
    assigned.acceptReceipt receipt = .error (assigned, receipt) ∨
    (∃ next, assigned.acceptReceipt receipt = .ok (.awaitingCompletion next) ∧
      next.customer = assigned.customer ∧ next.correlation = assigned.correlation ∧
      next.observedStop = assigned.observedStop) ∨
    (∃ result, assigned.acceptReceipt receipt
      = .ok (.jobCompleted assigned.customer result assigned.observedStop)) ∨
    ∃ stopped late, assigned.acceptReceipt receipt
        = .ok (.jobInterrupted assigned.customer stopped late) ∧
      assigned.observedStop = some stopped := by
  unfold acceptReceipt observedStop
  rcases assigned with ⟨customer, correlation, _ | _ | ⟨completion, _ | exit⟩ | ⟨stopped, late⟩⟩ <;>
    cases receipt.compare correlation <;> simp

/-- **A returned delivery.** -/
theorem acceptRejection_cases (assignment : Assignment S) :
    assigned.acceptRejection assignment = .error (assigned, assignment) ∨
    assigned.acceptRejection assignment
      = .ok (.jobReturned assigned.customer assigned.observedStop) ∨
    ∃ completion, assigned.acceptRejection assignment
      = .ok (.conflictingCompletion assigned.customer assignment completion
          assigned.observedStop) := by
  unfold acceptRejection observedStop
  rcases assigned with ⟨customer, correlation, _ | _ | ⟨completion, _ | exit⟩ |
    ⟨stopped, _ | late⟩⟩ <;>
    cases correlation.compare assignment.authority <;> simp

/-- **A completion.** -/
theorem acceptCompletion_cases (completion : Completion S) :
    assigned.acceptCompletion completion = .error (assigned, completion) ∨
    (∃ next, assigned.acceptCompletion completion = .ok (.awaitingReceipt next) ∧
      next.customer = assigned.customer ∧ next.correlation = assigned.correlation ∧
      next.observedStop = assigned.observedStop) ∨
    ∃ result, assigned.acceptCompletion completion
        = .ok (.jobCompleted assigned.customer result none) ∧ assigned.observedStop = none := by
  unfold acceptCompletion observedStop
  rcases assigned with ⟨customer, correlation, _ | _ | ⟨completion', _ | exit⟩ |
    ⟨stopped, _ | late⟩⟩ <;>
    cases correlation.compare completion.authority <;> simp

/-- **An exit.**  It is kept only where no exit was observed yet. -/
theorem acceptWorkerExit_cases (stopped : ChildStopped S) :
    assigned.acceptWorkerExit stopped = .error (assigned, stopped) ∨
    (∃ next, assigned.acceptWorkerExit stopped = .ok (.awaitingReceipt next) ∧
      next.customer = assigned.customer ∧ next.correlation = assigned.correlation ∧
      next.observedStop = some stopped ∧ assigned.observedStop = none) ∨
    (assigned.acceptWorkerExit stopped = .ok (.jobInterrupted assigned.customer stopped none) ∧
      assigned.observedStop = none) := by
  unfold acceptWorkerExit observedStop
  rcases assigned with ⟨customer, correlation, _ | _ | ⟨completion', _ | exit⟩ |
    ⟨stopped', _ | late⟩⟩ <;>
    by_cases h : stopped.child = correlation.worker.creation <;> simp [h]

end AssignedJob
end Bombay
