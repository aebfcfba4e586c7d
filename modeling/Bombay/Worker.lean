/-
# One worker attempt

`crates/actors/src/templates/worker/`: the correlations an owner issues for a
worker it creates (`WorkerAttempt`, `InitializationAttempt`,
`WorkerStartupGrant`, `PreparationTicket`), the requests that carry them out and
the reports that carry them back.

`Arc::new(())` is an allocation: each issuing function takes the next free token
and its caller counts it.
-/

import Bombay.Runtime

namespace Bombay

/-- `WorkerAttempt`: a creation and the token that makes it unforgeable. -/
structure WorkerAttempt where
  creation : ℕ
  token : ℕ
  deriving DecidableEq, Repr

/-- `InitializationAttempt`. -/
structure InitializationAttempt where
  worker : WorkerAttempt
  token : ℕ
  deriving DecidableEq, Repr

/-- `WorkerStartupGrant<W, P>`. -/
structure WorkerStartupGrant where
  worker : WorkerAttempt
  token : ℕ
  deriving DecidableEq, Repr

/-- `WorkerInitializationFailure`. -/
inductive WorkerInitializationFailure where
  | effectsRejected
  | interpreterCorrupt
  deriving DecidableEq, Repr

/-- `StartupRejection`. -/
inductive StartupRejection where
  | ownerStopped
  deriving DecidableEq, Repr

/-- `StartupLimit`: a positive number of unresolved startups. -/
structure StartupLimit where
  maximum : ℕ
  positive : 0 < maximum

/-- `StartupLimit::new`. -/
def StartupLimit.new (maximum : ℕ) : Option StartupLimit :=
  if h : 0 < maximum then some ⟨maximum, h⟩ else none

section

variable (S : Signature)

/-- `WorkerSubmission<W, P>`. -/
structure WorkerSubmission where
  worker : S.Worker
  startup : S.Plan

/-- `PreparedWorker<Role, W, P>`. -/
structure PreparedWorker where
  role : S.Role
  submission : WorkerSubmission S

/-- `StartupPermit<W>`. -/
structure StartupPermit where
  worker : WorkerAttempt
  initialization : InitializationAttempt
  target : S.Recipient

/-- `InitializeWorker<W, P>`. -/
structure InitializeWorker where
  worker : WorkerAttempt
  initialization : InitializationAttempt
  target : S.Recipient
  startup : S.Plan

/-- `WorkerInitializationReport<W, P>`. -/
inductive WorkerInitializationReport where
  | readyForStartup (worker : WorkerAttempt) (initialization : InitializationAttempt)
      (startup : S.Plan) (permit : StartupPermit S)
  | effectsRejected (worker : WorkerAttempt) (initialization : InitializationAttempt)
      (startup : S.Plan) (failure : WorkerInitializationFailure)
  | stopped (worker : WorkerAttempt) (initialization : InitializationAttempt)
      (startup : S.Plan) (stopped : ChildStopped S)

/-- `StartWorker<W, P>`. -/
structure StartWorker where
  startup : WorkerStartupGrant
  permit : StartupPermit S
  plan : S.Plan

/-- `WorkerStartupOutcome<W, P>`. -/
inductive WorkerStartupOutcome where
  | started
  | startRejected (request : StartWorker S) (reason : StartupRejection)
  | ready (readiness : S.Ready)
  | rejected (rejection : S.Rejection)

/-- `WorkerStartup<W, P>`. -/
structure WorkerStartup where
  worker : WorkerAttempt
  startup : WorkerStartupGrant
  outcome : WorkerStartupOutcome S

/-- `PrepareWorkers<Source, Role, W, P>`. -/
structure PrepareWorkers where
  ticket : ℕ
  source : S.Source
  first : S.Role
  remaining : List S.Role

/-- `WorkerPreparationOutcome`. -/
inductive WorkerPreparationOutcome where
  | prepared (source : S.Source) (members : List (PreparedWorker S))
  | workerRejected (source : S.Source) (prepared : List (PreparedWorker S))
      (failedRole : S.Role) (reason : S.WorkerRejection) (remaining : List S.Role)
  | sourceRejected (source : S.Source) (failedRole : S.Role) (reason : S.SourceRejection)
      (remaining : List S.Role)

/-- `WorkerPreparation<Source, Role, W, P>`. -/
structure WorkerPreparation where
  ticket : ℕ
  outcome : WorkerPreparationOutcome S

/-- `ActionItemResult<PrepareWorkers>`: the receipt `WorkerPreparationStarted` is
its ticket, and no rejection is inhabited. -/
abbrev PreparationStarted := ActionItemResult (PrepareWorkers S) ℕ Empty

end

variable {S : Signature}

/-- `WorkerAttempt::issued`. -/
def WorkerAttempt.issued (creation token : ℕ) : WorkerAttempt := ⟨creation, token⟩

/-- `InitializationAttempt::issued`. -/
def InitializationAttempt.issued (worker : WorkerAttempt) (token : ℕ) : InitializationAttempt :=
  ⟨worker, token⟩

/-- `StartWorker::new`: the grant names the permit's worker. -/
def StartWorker.new (plan : S.Plan) (permit : StartupPermit S) (token : ℕ) : StartWorker S :=
  ⟨⟨permit.worker, token⟩, permit, plan⟩

/-- `PrepareWorkers::new`: the ticket is retained by the owner and by the request. -/
def PrepareWorkers.new (source : S.Source) (first : S.Role) (remaining : List S.Role)
    (token : ℕ) : ℕ × PrepareWorkers S :=
  (token, ⟨token, source, first, remaining⟩)

/-- `WorkerInitializationReport::worker`. -/
def WorkerInitializationReport.worker : WorkerInitializationReport S → WorkerAttempt
  | .readyForStartup worker .. => worker
  | .effectsRejected worker .. => worker
  | .stopped worker .. => worker

/-- `WorkerInitializationReport::initialization`. -/
def WorkerInitializationReport.initialization :
    WorkerInitializationReport S → InitializationAttempt
  | .readyForStartup _ initialization .. => initialization
  | .effectsRejected _ initialization .. => initialization
  | .stopped _ initialization .. => initialization

/-- `WorkerPreparationExpectation`. -/
inductive WorkerPreparationExpectation where
  | issued (ticket : ℕ)
  | started (ticket : ℕ)
  deriving DecidableEq, Repr

/-- `preparation_start_accepts`. -/
def preparationStartAccepts (expected : ℕ) : PreparationStarted S → Bool
  | .attempted (.accepted started) => started == expected
  | .attempted (.rejected item _) => expected == item.ticket
  | .attempted (.corrupt item _) => expected == item.ticket
  | .unattempted item => expected == item.ticket

namespace WorkerPreparationExpectation

/-- `WorkerPreparationExpectation::accept_start`; an unaccepted one is handed back. -/
def acceptStart (expectation : WorkerPreparationExpectation) (receipt : ℕ) :
    Option WorkerPreparationExpectation :=
  match expectation with
  | .issued ticket => if receipt == ticket then some (.started ticket) else none
  | .started _ => none

/-- `WorkerPreparationExpectation::accepts_issued`. -/
def acceptsIssued (expectation : WorkerPreparationExpectation) (input : PreparationStarted S) :
    Bool :=
  match expectation with
  | .issued ticket => preparationStartAccepts ticket input
  | .started _ => false

/-- `WorkerPreparationExpectation::accepts_return`. -/
def acceptsReturn (expectation : WorkerPreparationExpectation)
    (returned : WorkerPreparation S) : Bool :=
  match expectation with
  | .issued _ => false
  | .started ticket => ticket == returned.ticket

end WorkerPreparationExpectation

end Bombay
