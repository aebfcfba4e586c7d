/-
# A stable proxy answers every operation of its owner once

An operation is admitted or returned at once.  An admitted one is in hand until it
is answered: by its result, by its cancellation before birth, or, after the owner has
shut the proxy down, by the retirement that keeps it.  What the owner hears about a
worker alternates: it is ready, then it has stopped.
-/

import Bombay.Proxy.Serving

namespace Bombay.Proxy

variable {S : Signature} {Message : Type}

/-! ### Operations -/

/-- An operation of the owner that starts a worker. -/
inductive Operation where
  | initial
  | replacement (replaces : WorkerAttempt)
  deriving DecidableEq, Repr

def WorkerStartKind.operation : WorkerStartKind → Operation
  | .initial => .initial
  | .replacement replaces _ => .replacement replaces

/-- The operation a proxy has in hand, or keeps in its retirement. -/
def ProxyState.operations : ProxyState S → List Operation
  | .starting start => [start.kind.operation]
  | .replacing (.returningPredecessor departure _ _) => [.replacement departure.worker.attempt]
  | .replacing (.successorResultAwaitingShutdown replaces _ _) => [.replacement replaces]
  | .shuttingDown (.waitingForCreation start) => [start.kind.operation]
  | .shuttingDown (.returningWorkerStart kind _ _) => [kind.operation]
  | .shuttingDown (.returningSuccessor replaces _ _ _) => [.replacement replaces]
  | .shuttingDown (.initializing kind _) => [kind.operation]
  | .shuttingDown (.starting kind _) => [kind.operation]
  | .shuttingDown (.waitingForPredecessor replaces _ _) => [.replacement replaces]
  | .stopped (.workerStart none _) => [.initial]
  | .stopped (.workerStart (some replaces) _) => [.replacement replaces]
  | .stopped (.replacementAfterPredecessor replaces _ _) => [.replacement replaces]
  | _ => []

/-- The operation an outcome answers after it was admitted. -/
def ProxyOutcome.answer : ProxyOutcome S Message → Option Operation
  | .initial (.resolved _) => some .initial
  | .replacement (.resolved replaces _) => some (.replacement replaces)
  | .replacement (.cancelledBeforeBirth replaces _ _) => some (.replacement replaces)
  | _ => none

/-- The worker and the plan an outcome returns from an operation that was not admitted. -/
def ProxyOutcome.returned : ProxyOutcome S Message → Option (WorkerSubmission S)
  | .initial (.overlap worker startup _) => some ⟨worker, startup⟩
  | .initial (.workerAttemptsExhausted worker startup) => some ⟨worker, startup⟩
  | .replacement (.notReplaceable worker startup _) => some ⟨worker, startup⟩
  | .replacement (.workerAttemptsExhausted _ worker startup) => some ⟨worker, startup⟩
  | _ => none

/-- The operations a transition answers. -/
def Entry.answers (entry : Entry S Message) : List Operation :=
  entry.actions.ownerOutcomes.filterMap ProxyOutcome.answer

/-- The operation a transition admits: it is not answered at once, and a replacement is of the
worker that serves, or that served last. -/
def Entry.admits (entry : Entry S Message) : List Operation :=
  match entry.event with
  | .owner (.start _) => if entry.actions.ownerOutcomes.isEmpty then [.initial] else []
  | .owner (.replace _) =>
    if entry.actions.ownerOutcomes.isEmpty then
      match entry.before.state with
      | .ready worker => [.replacement worker.attempt]
      | .emptyAfter previous => [.replacement previous]
      | _ => []
    else []
  | _ => []

/-! ### What the owner hears of a worker -/

/-- A worker is told to be ready, or to have stopped. -/
inductive Mark where
  | ready (attempt : WorkerAttempt)
  | stopped (attempt : WorkerAttempt)
  deriving DecidableEq, Repr

def ProxyOutcome.mark (outcome : ProxyOutcome S Message) : Option Mark :=
  match outcome with
  | .workerStopped attempt _ => some (.stopped attempt)
  | outcome => outcome.readyAttempt.map Mark.ready

def Entry.marks (entry : Entry S Message) : List Mark :=
  entry.actions.ownerOutcomes.filterMap ProxyOutcome.mark

/-- **Marks in order**: from the worker that stands, to the worker that stands after them; `none`
when a worker is told to have stopped that does not stand, or to be ready while another does. -/
def follow : Option WorkerAttempt → List Mark → Option (Option WorkerAttempt)
  | standing, [] => some standing
  | none, .ready attempt :: rest => follow (some attempt) rest
  | some attempt, .stopped other :: rest => if attempt = other then follow none rest else none
  | none, .stopped _ :: _ => none
  | some _, .ready _ :: _ => none

theorem follow_append (standing : Option WorkerAttempt) (first second : List Mark) :
    follow standing (first ++ second) =
      (follow standing first).bind fun standing => follow standing second := by
  induction first generalizing standing with
  | nil => rfl
  | cons mark rest ih =>
    cases standing with
    | none =>
      cases mark with
      | ready attempt => exact ih (some attempt)
      | stopped attempt => rfl
    | some standing =>
      cases mark with
      | ready attempt => rfl
      | stopped attempt =>
        simp only [List.cons_append, follow]
        split_ifs
        · exact ih none
        · rfl

/-- The worker the owner was told to be ready, and not yet to have stopped. -/
def ProxyState.standing : ProxyState S → Option WorkerAttempt
  | .ready worker => some worker.attempt
  | .replacing (.returningPredecessor departure _ _) => some departure.worker.attempt
  | _ => none

/-! ### Results that wait to be told -/

/-- The result of a replacement that waits for its predecessor fits what it says. -/
def ReplacementCompletion.Fits : ReplacementCompletion S → Prop
  | .ready worker result => result.readyAttempt = some worker.attempt
  | .readyAfterStop worker result stopped =>
    result.readyAttempt = some worker ∧ stopped.child = worker.creation
  | .empty _ result => result.readyAttempt = none

def ProxyState.completion : ProxyState S → Option (ReplacementCompletion S)
  | .replacing (.successorResultAwaitingShutdown _ _ completion) => some completion
  | _ => none

/-- The submission of a successor that waits to be created. -/
def ProxyState.submission (state : ProxyState S) : Option (WorkerSubmission S) :=
  state.unborn.map fun unborn => ⟨unborn.2.worker, unborn.1.startup⟩

/-- **What one transition does to the operations of the owner.** -/
structure Answered (entry : Entry S Message) : Prop where
  operations : entry.before.state.operations ++ entry.admits =
    entry.answers ++ entry.after.state.operations
  fits : (∀ completion, entry.before.state.completion = some completion → completion.Fits) →
    ∀ completion, entry.after.state.completion = some completion → completion.Fits
  submission : ∀ submission, entry.after.state.submission = some submission →
    (entry.event = .owner (.replace submission) ∧ entry.admits = entry.after.state.operations) ∨
      (entry.before.state.submission = some submission ∧ entry.admits = [])
  cancelled : ∀ replaces worker startup,
    .replacement (.cancelledBeforeBirth replaces worker startup) ∈ entry.actions.ownerOutcomes →
      entry.before.state.submission = some ⟨worker, startup⟩ ∧
        entry.before.state.operations = [.replacement replaces]

variable {self : StableProxy S} {acted : Acted S Message} {event : ProxyEvent S Message}

variable {entry : Entry S Message} {outcome : ProxyOutcome S Message}
    {replaces attempt : WorkerAttempt} {completion : ReplacementCompletion S}
    {kind : WorkerStartKind} {result : WorkerStartResult S} {place : Leaving S}
    {departure : WorkerStopping S} {gone : StoppedWorker S} {control : ProxyCommand S}
    {stopped : ChildStopped S}

/-- A transition that tells the owner nothing and admits nothing. -/
theorem Answered.of_silent
    (houtcomes : entry.actions.ownerOutcomes = []) (hadmits : entry.admits = [])
    (hoperations : entry.before.state.operations = entry.after.state.operations)
    (hcompletion : ∀ completion, entry.after.state.completion = some completion →
      entry.before.state.completion = some completion)
    (hsubmission : ∀ submission, entry.after.state.submission = some submission →
      entry.before.state.submission = some submission) : Answered entry where
  operations := by simp [hadmits, Entry.answers, houtcomes, hoperations]
  fits hfits completion h := hfits completion (hcompletion completion h)
  submission submission h := .inr ⟨hsubmission submission h, hadmits⟩
  cancelled := by simp [houtcomes]

/-- A transition that tells one outcome, of an operation that it answers or of none. -/
theorem Answered.of_report
    (houtcomes : entry.actions.ownerOutcomes = [outcome]) (hadmits : entry.admits = [])
    (hoperations : entry.before.state.operations =
      outcome.answer.toList ++ entry.after.state.operations)
    (hcompletion : entry.after.state.completion = none)
    (hsubmission : entry.after.state.submission = none) (hcancelled : ∀ replaces worker startup,
      outcome ≠ .replacement (.cancelledBeforeBirth replaces worker startup)) :
    Answered entry where
  operations := by
    rw [hadmits, hoperations, Entry.answers, houtcomes]
    cases h : outcome.answer <;> simp [h]
  fits _ := absent hcompletion
  submission := absent hsubmission
  cancelled replaces worker startup h := by
    rw [houtcomes, List.mem_singleton] at h
    exact absurd h.symm (hcancelled replaces worker startup)

/-! ### Starts that are concluded -/

theorem publishReplacement_answered
    (hadmits : (record self event (publishReplacement self replaces completion)).admits = [])
    (hoperations : self.state.operations = [.replacement replaces]) :
    Answered (record self event (publishReplacement self replaces completion)) := by
  cases completion with
  | ready worker result | empty worker result =>
    exact .of_report rfl hadmits hoperations rfl rfl nofun
  | readyAfterStop worker result stopped =>
    refine ⟨?_, fun _ => absent rfl, absent rfl, by simp [publishReplacement]⟩
    rw [hadmits, List.append_nil]
    exact hoperations

theorem finishReplacement_answered {predecessor} (hfits : completion.Fits)
    (hadmits : (record self event
      (finishReplacement self replaces predecessor completion)).admits = [])
    (hoperations : self.state.operations = [.replacement replaces]) :
    Answered (record self event (finishReplacement self replaces predecessor completion)) := by
  cases predecessor with
  | settled => exact publishReplacement_answered hadmits hoperations
  | awaiting id =>
    refine ⟨?_, ?_, absent rfl, by simp [finishReplacement]⟩
    · rw [hadmits, List.append_nil]
      exact hoperations
    · rintro - other ⟨⟩
      exact hfits

theorem workerStartEmpty_answered {previous} (hresult : result.readyAttempt = none)
    (hadmits : (record self event (workerStartEmpty self kind previous result)).admits = [])
    (hoperations : self.state.operations = [kind.operation]) :
    Answered (record self event (workerStartEmpty self kind previous result)) := by
  cases kind with
  | initial => exact .of_report rfl hadmits hoperations rfl rfl nofun
  | replacement replaces predecessor => exact finishReplacement_answered hresult hadmits hoperations

theorem workerCreationRejected_answered (hresult : result.readyAttempt = none)
    (hadmits : (record self event (workerCreationRejected self kind result)).admits = [])
    (hoperations : self.state.operations = [kind.operation]) :
    Answered (record self event (workerCreationRejected self kind result)) := by
  cases kind with
  | initial => exact .of_report rfl hadmits hoperations rfl rfl nofun
  | replacement replaces predecessor => exact finishReplacement_answered hresult hadmits hoperations

theorem workerStartReady_answered {worker} (hresult : result.readyAttempt = some worker.attempt)
    (hadmits : (record self event (workerStartReady self kind worker result)).admits = [])
    (hoperations : self.state.operations = [kind.operation]) :
    Answered (record self event (workerStartReady self kind worker result)) := by
  cases kind with
  | initial => exact .of_report rfl hadmits hoperations rfl rfl nofun
  | replacement replaces predecessor => exact finishReplacement_answered hresult hadmits hoperations

/-- A start that is retired keeps its operation. -/
theorem finishStartRetirement_answered {retirement}
    (hadmits : (record self event (finishStartRetirement self kind retirement)).admits = [])
    (hoperations : self.state.operations = [kind.operation]) :
    Answered (record self event (finishStartRetirement self kind retirement)) := by
  match kind with
  | .initial => exact .of_silent rfl hadmits hoperations (absent rfl) (absent rfl)
  | .replacement _ .settled | .replacement _ (.awaiting _) =>
    exact .of_silent rfl hadmits hoperations (absent rfl) (absent rfl)

/-- The operation a place has in hand. -/
def Leaving.operations : Leaving S → WorkerAttempt → List Operation
  | .returningStart kind _, _ => [kind.operation]
  | .returningPredecessor _ _, worker => [.replacement worker]
  | .returningWorker, _ => []
  | .retiringStart kind _, _ => [kind.operation]
  | .cancelledPredecessor _ _, _ => []
  | .returningSuccessor replaces _ _, _ => [.replacement replaces]
  | .retiringInitialization kind _, _ => [kind.operation]
  | .retiringStartup kind _, _ => [kind.operation]

theorem Leaving.state_operations (place : Leaving S) (departure : WorkerStopping S) :
    (place.state departure).operations = place.operations departure.worker.attempt := by
  cases place <;> rfl

theorem Leaving.state_completion (place : Leaving S) (departure : WorkerStopping S) :
    (place.state departure).completion = none := by
  cases place <;> rfl

/-- A departure that moves on in its place. -/
theorem Leaving.state_answered {departure' creations heap}
    (hworker : departure'.worker = departure.worker)
    (hadmits : (record ⟨place.state departure, creations, heap⟩ event
      (⟨place.state departure', creations, heap⟩, .cont)).admits = []) :
    Answered (record ⟨place.state departure, creations, heap⟩ event
      (⟨place.state departure', creations, heap⟩, .cont)) := by
  refine .of_silent rfl hadmits ?_ (absent (place.state_completion departure')) ?_
  · show (place.state departure).operations = (place.state departure').operations
    rw [state_operations, state_operations, hworker]
  · intro submission h
    show ((place.state departure).unborn.map _) = _
    have h' : ((place.state departure').unborn.map _) = some submission := h
    rw [state_unborn] at h' ⊢
    exact h'

/-- A worker that has left: its place concludes the operation, or keeps it. -/
theorem Leaving.left_answered (hstate : self.state = place.state departure)
    (hworker : gone.worker = departure.worker)
    (hadmits : (record self event (place.left self gone)).admits = []) :
    Answered (record self event (place.left self gone)) := by
  have hoperations : self.state.operations = place.operations gone.worker.attempt := by
    rw [hstate, state_operations, hworker]
  match place with
  | .returningStart kind failure =>
    exact workerStartEmpty_answered (workerReturnResult_readyAttempt gone failure) hadmits hoperations
  | .returningPredecessor successor creation =>
    exact .of_report rfl hadmits hoperations rfl rfl nofun
  | .returningWorker => exact .of_silent rfl hadmits hoperations (absent rfl) (absent rfl)
  | .retiringStart kind failure => exact finishStartRetirement_answered hadmits hoperations
  | .cancelledPredecessor _ _ | .returningSuccessor _ (.awaiting _) _
  | .returningSuccessor _ (.returned _) _ | .retiringInitialization _ none
  | .retiringStartup _ (.pending _) =>
    exact .of_silent rfl hadmits hoperations (absent rfl) (absent rfl)
  | .retiringInitialization kind (some _) =>
    exact finishStartRetirement_answered hadmits hoperations
  | .retiringStartup kind (.returned _) => exact finishStartRetirement_answered hadmits hoperations

/-! ### Every turn -/

theorem Stays.answered {actions} (h : Stays self event actions) :
    Answered (record self event (self, actions)) := by
  have hadmits : (record self event (self, actions)).admits = [] := by
    cases h with
    | diagnosed hdiagnostic =>
      simp only [Entry.admits, record]
      split
      · cases hdiagnostic
      · cases hdiagnostic
      · rfl
    | _ => rfl
  have hanswers : actions.ownerOutcomes.filterMap ProxyOutcome.answer = [] := by
    cases h <;> rfl
  refine ⟨?_, fun hfits => hfits, fun submission h => .inr ⟨h, hadmits⟩,
    fun replaces worker startup hmem => ?_⟩
  · rw [hadmits, List.append_nil, Entry.answers]
    show self.state.operations = actions.ownerOutcomes.filterMap ProxyOutcome.answer ++ _
    rw [hanswers]
    rfl
  · cases h <;> simp at hmem

theorem Orders.answered (h : Orders self control acted) :
    Answered (record self (.owner control) acted) := by
  cases h with
  | begun hissue | revived hissue => exact ⟨rfl, fun _ => absent rfl, absent rfl, nofun⟩
  | replaced hissue =>
    refine ⟨rfl, fun _ => absent rfl, ?_, nofun⟩
    rintro submission ⟨⟩
    exact .inl ⟨rfl, rfl⟩
  | closed hempty =>
    rcases hempty with ⟨rfl, rfl⟩ | ⟨rfl, rfl⟩ | ⟨attempt, rfl, rfl⟩ <;>
      exact .of_silent rfl rfl rfl (absent rfl) (absent rfl)
  | cancelled =>
    refine ⟨rfl, fun _ => absent rfl, absent rfl, fun replaces worker startup h => ?_⟩
    cases List.mem_singleton.mp h
    exact ⟨rfl, rfl⟩
  | _ => exact .of_silent rfl rfl rfl (absent rfl) (absent rfl)

theorem Creates.answered {workers} (h : Creates self workers acted) :
    Answered (record self (.workerCreationsSettled workers) acted) := by
  cases h with
  | rejected hstate hreads =>
    exact workerCreationRejected_answered rfl rfl (by rw [hstate]; rfl)
  | rejectedShut hstate hreads => exact finishStartRetirement_answered rfl (by rw [hstate]; rfl)
  | _ => exact .of_silent rfl rfl rfl (absent rfl) (absent rfl)

theorem Initializes.answered {report} (h : Initializes self report acted) :
    Answered (record self (.workerInitialization report) acted) := by
  cases h with
  | stillborn hstate hadmits hstillborn =>
    exact workerStartEmpty_answered rfl rfl (by rw [hstate]; rfl)
  | returnedStopped hstate hadmits hnone hsettled hchild
  | lateInitialized hstate hadmits hclassified =>
    exact finishStartRetirement_answered rfl (by rw [hstate]; rfl)
  | _ => exact .of_silent rfl rfl rfl (absent rfl) (absent rfl)

theorem Starts.answered {input} (h : Starts self input acted) :
    Answered (record self (.workerStartupReported input) acted) := by
  cases h with
  | ended hstate hends => exact workerStartEmpty_answered rfl rfl (by rw [hstate]; rfl)
  | ready hstate => exact workerStartReady_answered rfl rfl (by rw [hstate]; rfl)
  | lateReturned hstate hadmits hadvance =>
    exact finishStartRetirement_answered rfl (by rw [hstate]; rfl)
  | _ => exact .of_silent rfl rfl rfl (absent rfl) (absent rfl)

theorem Settles.answered {settlement} (h : Settles self settlement acted) :
    Answered (record self (.workerShutdownResolved settlement) acted) := by
  cases h with
  | published hstate => exact publishReplacement_answered rfl (by rw [hstate]; rfl)
  | settled hrequested hnone => exact Leaving.state_answered rfl rfl
  | settledLast hstate hrequested hheld => exact Leaving.left_answered hstate rfl rfl
  | _ => exact .of_silent rfl rfl rfl (absent rfl) (absent rfl)

theorem Stops.answered (h : Stops self stopped acted) :
    Answered (record self (.workerStopped stopped) acted) := by
  cases h with
  | readyStopped hchild => exact .of_report rfl rfl rfl rfl rfl nofun
  | successorStopped hchild =>
    refine ⟨rfl, fun hfits => ?_, absent rfl, nofun⟩
    rintro completion ⟨⟩
    exact ⟨hfits _ rfl, hchild⟩
  | predecessorStopped hstate hrequested hnone hchild =>
    exact .of_report rfl rfl (by rw [show (record _ _ _).before = self from rfl, hstate]; rfl) rfl rfl
      nofun
  | held hplace hrequested hnone hchild => exact Leaving.state_answered rfl rfl
  | stoppedLast hstate hsettled hnone hchild => exact Leaving.left_answered hstate rfl rfl
  | _ => exact .of_silent rfl rfl rfl (absent rfl) (absent rfl)

theorem Turn.answered (h : Turn self event acted) : Answered (record self event acted) := by
  cases h with
  | stays h | ordered h | created h | initialized h | started h | settled h | stopped h =>
    exact h.answered

/-! ### Ready, then stopped -/

/-- The attempts a transition tells to be ready. -/
def Entry.readyIds (entry : Entry S Message) : List ℕ :=
  entry.actions.ownerOutcomes.filterMap fun outcome =>
    outcome.readyAttempt.map WorkerAttempt.creation

/-- **What one transition tells of a worker**: marks in order, unless the proxy closes, and then
none; the stop of the worker itself; and that it is ready at one step of its attempt. -/
structure Marked (entry : Entry S Message) : Prop where
  order : entry.after.state.closing = false →
    follow entry.before.state.standing entry.marks = some entry.after.state.standing
  closed : entry.after.state.closing = true → entry.marks = []
  stops : ∀ attempt stopped, .workerStopped attempt stopped ∈ entry.actions.ownerOutcomes →
    stopped.child = attempt.creation
  once : entry.readyIds = [] ∨ ∃ creation, entry.readyIds = [creation] ∧
    entry.before.stage creation ≤ 5 ∧ 5 < entry.after.stage creation

/-- A transition that tells nothing of a worker. -/
theorem Marked.of_unmarked
    (houtcomes : ∀ outcome ∈ entry.actions.ownerOutcomes, outcome.mark = none)
    (hstanding : entry.after.state.closing = false →
      entry.before.state.standing = entry.after.state.standing) : Marked entry := by
  have hready : ∀ outcome ∈ entry.actions.ownerOutcomes, outcome.readyAttempt = none := by
    intro outcome houtcome
    have hmark := houtcomes outcome houtcome
    cases outcome with
    | workerStopped attempt stopped => rfl
    | _ => simpa [ProxyOutcome.mark] using hmark
  have hmarks : entry.marks = [] := List.filterMap_eq_nil_iff.mpr houtcomes
  refine ⟨fun hopen => ?_, fun _ => hmarks, fun attempt stopped hmem => ?_, .inl ?_⟩
  · rw [hmarks, hstanding hopen]
    rfl
  · cases houtcomes _ hmem
  · refine List.filterMap_eq_nil_iff.mpr fun outcome houtcome => ?_
    rw [hready outcome houtcome]
    rfl

theorem Marked.of_silent (houtcomes : entry.actions.ownerOutcomes = [])
    (hstanding : entry.after.state.closing = false →
      entry.before.state.standing = entry.after.state.standing) : Marked entry :=
  .of_unmarked (by simp [houtcomes]) hstanding

theorem Marked.of_report
    (houtcomes : entry.actions.ownerOutcomes = [outcome]) (hmark : outcome.mark = none)
    (hstanding : entry.after.state.closing = false →
      entry.before.state.standing = entry.after.state.standing) : Marked entry :=
  .of_unmarked (by simpa [houtcomes] using hmark) hstanding

/-- A worker is told to be ready. -/
theorem Marked.of_ready (houtcomes : entry.actions.ownerOutcomes = [outcome])
    (hmark : outcome.readyAttempt = some attempt) (hbefore : entry.before.state.standing = none)
    (hafter : entry.after.state.standing = some attempt)
    (hopen : entry.after.state.closing = false) (hstage : entry.before.stage attempt.creation ≤ 5)
    (hstage' : 5 < entry.after.stage attempt.creation) : Marked entry := by
  have hmarked : outcome.mark = some (.ready attempt) := by
    cases outcome with
    | workerStopped _ _ => cases hmark
    | _ => simpa [ProxyOutcome.mark] using hmark
  refine ⟨fun _ => ?_, fun hclosing => ?_, fun other stopped hmem => ?_,
    .inr ⟨attempt.creation, ?_, hstage, hstage'⟩⟩
  · rw [Entry.marks, houtcomes, hbefore, hafter]
    simp [hmarked, follow]
  · rw [hopen] at hclosing
    cases hclosing
  · rw [houtcomes, List.mem_singleton] at hmem
    rw [← hmem] at hmark
    cases hmark
  · simp [Entry.readyIds, houtcomes, hmark]

/-- A worker that stands is told to have stopped. -/
theorem Marked.of_stopped
    (houtcomes : entry.actions.ownerOutcomes = [.workerStopped attempt stopped])
    (hbefore : entry.before.state.standing = some attempt)
    (hafter : entry.after.state.standing = none) (hopen : entry.after.state.closing = false)
    (hchild : stopped.child = attempt.creation) : Marked entry := by
  refine ⟨fun _ => ?_, fun hclosing => ?_, fun other stopped hmem => ?_, .inl ?_⟩
  · rw [Entry.marks, houtcomes, hbefore, hafter]
    simp [ProxyOutcome.mark, follow]
  · rw [hopen] at hclosing
    cases hclosing
  · rw [houtcomes, List.mem_singleton] at hmem
    cases hmem
    exact hchild
  · simp [Entry.readyIds, houtcomes, ProxyOutcome.readyAttempt, ProxyOutcome.startResult]

theorem workerStartEmpty_marked {previous} (hresult : result.readyAttempt = none)
    (hstanding : self.state.standing = none) :
    Marked (record self event (workerStartEmpty self kind previous result)) := by
  match kind with
  | .initial | .replacement _ .settled =>
    exact .of_report rfl (by simp [ProxyOutcome.mark, ProxyOutcome.readyAttempt,
      ProxyOutcome.startResult, hresult]) fun _ => hstanding
  | .replacement replaces (.awaiting id) => exact .of_silent rfl fun _ => hstanding

theorem workerCreationRejected_marked
    (hresult : result.readyAttempt = none) (hstanding : self.state.standing = none) :
    Marked (record self event (workerCreationRejected self kind result)) := by
  cases kind with
  | initial =>
    exact .of_report rfl (by simp [ProxyOutcome.mark, ProxyOutcome.readyAttempt,
      ProxyOutcome.startResult, hresult]) fun _ => hstanding
  | replacement replaces predecessor =>
    show Marked (record self event
      (workerStartEmpty self (.replacement replaces predecessor) replaces result))
    exact workerStartEmpty_marked hresult hstanding

theorem finishStartRetirement_marked {retirement} :
    Marked (record self event (finishStartRetirement self kind retirement)) := by
  match kind with
  | .initial | .replacement _ .settled | .replacement _ (.awaiting _) => exact .of_silent rfl nofun

/-- A worker whose readiness is accepted. -/
theorem workerStartReady_marked {worker startup readiness}
    (hstate : self.state = .starting ⟨kind, .starting worker (.running startup) none⟩) :
    Marked (record self event
      (workerStartReady self kind worker (.ready worker.attempt readiness))) := by
  have hbefore : self.state.standing = none := by
    rw [hstate]
    rfl
  have hstage : self.stage worker.attempt.creation ≤ 5 := by
    rw [StableProxy.stage_tenant (show self.state.tenant = some worker.attempt by rw [hstate]; rfl),
      hstate]
    exact Nat.le_of_ble_eq_true rfl
  match kind with
  | .initial | .replacement _ .settled =>
    refine .of_ready rfl rfl hbefore rfl rfl hstage ?_
    exact lt_of_lt_of_eq (Nat.lt_of_sub_eq_succ rfl) (StableProxy.stage_tenant rfl).symm
  | .replacement replaces (.awaiting id) => exact .of_silent rfl fun _ => hbefore

/-- A result that waited for the predecessor is told. -/
theorem publishReplacement_marked {id} (hsound : Sound self)
    (hstate : self.state = .replacing (.successorResultAwaitingShutdown replaces id completion))
    (hfits : completion.Fits) :
    Marked (record self event (publishReplacement self replaces completion)) := by
  have hbefore : self.state.standing = none := by
    rw [hstate]
    rfl
  cases completion with
  | empty worker result =>
    have hresult : result.readyAttempt = none := hfits
    exact .of_report rfl (by simp [ProxyOutcome.mark, ProxyOutcome.readyAttempt,
      ProxyOutcome.startResult, hresult]) fun _ => hbefore
  | ready worker result =>
    have hresult : result.readyAttempt = some worker.attempt := hfits
    have htenant : self.state.tenant = some worker.attempt := by
      rw [hstate]
      rfl
    refine .of_ready rfl hresult hbefore rfl rfl ?_ ?_
    · show self.stage worker.attempt.creation ≤ 5
      rw [StableProxy.stage_tenant htenant, hstate]
      exact Nat.le_of_ble_eq_true rfl
    · exact lt_of_lt_of_eq (Nat.lt_of_sub_eq_succ rfl) (StableProxy.stage_tenant rfl).symm
  | readyAfterStop worker result stopped =>
    obtain ⟨hresult, hchild⟩ : result.readyAttempt = some worker ∧ stopped.child = worker.creation :=
      hfits
    have htenant : self.state.tenant = some worker := by
      rw [hstate]
      rfl
    have hready : (ProxyOutcome.replacement (.resolved replaces result) :
        ProxyOutcome S Message).readyAttempt = some worker := hresult
    refine ⟨fun _ => ?_, (fun h => by cases h), fun attempt other hmem => ?_,
      .inr ⟨worker.creation, ?_, ?_, ?_⟩⟩
    · show follow self.state.standing _ = some none
      rw [hbefore, Entry.marks]
      simp [publishReplacement, ProxyOutcome.mark, hready, follow]
    · rcases List.mem_cons.mp hmem with hmem | hmem
      · cases hmem
      · cases List.mem_singleton.mp hmem
        exact hchild
    · simp only [Entry.readyIds, record, publishReplacement, ProxyActions.reportPair,
        List.filterMap_cons, hready]
      rfl
    · show self.stage worker.creation ≤ 5
      rw [StableProxy.stage_tenant htenant, hstate]
      exact Nat.le_of_ble_eq_true rfl
    · have hgone : (⟨.emptyAfter worker, self.creations, self.heap⟩ : StableProxy S).stage
          worker.creation = 8 :=
        StableProxy.stage_gone (hsound.past worker htenant) (absent rfl) fun _ _ h => by cases h
      show 5 < (⟨.emptyAfter worker, self.creations, self.heap⟩ : StableProxy S).stage
        worker.creation
      omega

theorem Leaving.left_marked (hstate : self.state = place.state departure)
    (hworker : gone.worker = departure.worker)
    (hchild : place.isPredecessor = true → gone.stopped.child = gone.worker.attempt.creation) :
    Marked (record self event (place.left self gone)) := by
  match place with
  | .returningStart kind failure =>
    exact workerStartEmpty_marked (workerReturnResult_readyAttempt gone failure)
      (by rw [hstate]; rfl)
  | .returningPredecessor successor creation =>
    refine .of_stopped rfl ?_ rfl rfl (hchild rfl)
    show self.state.standing = some gone.worker.attempt
    rw [hstate, hworker]
    rfl
  | .returningWorker | .cancelledPredecessor _ _ | .returningSuccessor _ (.awaiting _) _
  | .returningSuccessor _ (.returned _) _ | .retiringInitialization _ none
  | .retiringStartup _ (.pending _) => exact .of_silent rfl nofun
  | .retiringStart _ _ | .retiringInitialization _ (some _) | .retiringStartup _ (.returned _) =>
    exact finishStartRetirement_marked

theorem Leaving.state_standing {departure'} (hworker : departure'.worker = departure.worker) :
    (place.state departure).standing = (place.state departure').standing := by
  cases place <;> simp [state, ProxyState.standing, hworker]

theorem Stays.marked {actions} (h : Stays self event actions) :
    Marked (record self event (self, actions)) := by
  cases h with
  | served hready | draining hshutdown | retired hstopped | diagnosed hdiagnostic =>
    exact .of_silent rfl fun _ => rfl
  | _ => exact .of_report rfl rfl fun _ => rfl

theorem Orders.marked (h : Orders self control acted) :
    Marked (record self (.owner control) acted) := by
  cases h with
  | begun hissue | replaced hissue | revived hissue => exact .of_silent rfl fun _ => rfl
  | cancelled => exact .of_report rfl rfl nofun
  | _ => exact .of_silent rfl nofun

theorem Turn.marked (h : Turn self event acted) (hsound : Sound self)
    (hfits : ∀ completion, self.state.completion = some completion → completion.Fits) :
    Marked (record self event acted) := by
  cases h with
  | stays h => exact h.marked
  | ordered h => exact h.marked
  | created h =>
    cases h with
    | established hreads => exact .of_silent rfl fun _ => rfl
    | rejected hstate hreads => exact workerCreationRejected_marked rfl (by rw [hstate]; rfl)
    | rejectedShut hstate hreads => exact finishStartRetirement_marked
    | _ => exact .of_silent rfl nofun
  | initialized h =>
    cases h with
    | initialized hattempt hinitialization | uninitialized hattempt hinitialization =>
      exact .of_silent rfl fun _ => rfl
    | stillborn hstate hadmits hstillborn =>
      exact workerStartEmpty_marked rfl (by rw [hstate]; rfl)
    | retained hadmits hretains => exact .of_silent rfl nofun
    | returnedStopped hstate hadmits hnone hsettled hchild
    | lateInitialized hstate hadmits hclassified => exact finishStartRetirement_marked
  | started h =>
    cases h with
    | started | failed hfails => exact .of_silent rfl fun _ => rfl
    | ended hstate hends => exact workerStartEmpty_marked rfl (by rw [hstate]; rfl)
    | ready hstate => exact workerStartReady_marked hstate
    | advanced hadmits hadvance | lateStarted hadmits hadvance => exact .of_silent rfl nofun
    | lateReturned hstate hadmits hadvance => exact finishStartRetirement_marked
  | settled h =>
    cases h with
    | predecessorSettled => exact .of_silent rfl fun _ => rfl
    | published hstate =>
      exact publishReplacement_marked hsound hstate (hfits _ (by rw [hstate]; rfl))
    | predecessorReturned | predecessorLast => exact .of_silent rfl nofun
    | settled hrequested hnone => exact .of_silent rfl fun _ => Leaving.state_standing rfl
    | @settledLast place departure settlement stopped self hstate hrequested hheld =>
      refine Leaving.left_marked hstate rfl fun hplace => ?_
      obtain ⟨successor, creation, rfl⟩ := Leaving.eq_returningPredecessor hplace
      have hnone := hsound.predecessor departure successor creation hstate
      rw [hheld] at hnone
      cases hnone
  | stopped h =>
    cases h with
    | readyStopped hchild => exact .of_stopped rfl rfl rfl rfl hchild
    | predecessorStopped hstate hrequested hnone hchild =>
      refine .of_stopped rfl ?_ rfl rfl hchild
      show self.state.standing = _
      rw [hstate]
      rfl
    | held hplace hrequested hnone hchild =>
      exact .of_silent rfl fun _ => Leaving.state_standing rfl
    | stoppedLast hstate hsettled hnone hchild =>
      exact Leaving.left_marked hstate rfl fun _ => hchild
    | _ => exact .of_silent rfl fun _ => rfl

/-! ### Operations that are not admitted, and outcomes after a shutdown -/

/-- The outcome refuses a new operation or a service command. -/
def ProxyOutcome.refuses : ProxyOutcome S Message → Bool
  | .unavailable _ _ _ => true
  | outcome => outcome.returned.isSome

/-- **An operation is admitted, or returned whole at once.** -/
theorem Turn.admitted_or_returned {submission} (h : Turn self (.owner control) acted)
    (hcontrol : control = .start submission ∨ control = .replace submission) :
    (∃ operation, (record self (.owner control) acted).admits = [operation] ∧
      acted.2.ownerOutcomes = []) ∨
    ∃ outcome, acted = (self, .report outcome) ∧ outcome.returned = some submission := by
  cases h with
  | stays h =>
    right
    rcases hcontrol with rfl | rfl
    · cases h with
      | overlap hdormant | startExhausted hdormant hissue => exact ⟨_, rfl, rfl⟩
      | diagnosed hdiagnostic => cases hdiagnostic
    · cases h with
      | notReplaceable hready hempty | replaceExhausted hreplaces hissue => exact ⟨_, rfl, rfl⟩
      | diagnosed hdiagnostic => cases hdiagnostic
  | ordered h =>
    left
    rcases hcontrol with rfl | rfl
    · cases h with
      | begun hissue => exact ⟨_, rfl, rfl⟩
    · cases h with
      | replaced hissue | revived hissue => exact ⟨_, rfl, rfl⟩

/-- A shutdown tells nothing but that a successor was cancelled before its birth. -/
theorem Turn.shutdown_outcomes (h : Turn self (.owner .shutdown) acted) :
    ∀ outcome ∈ acted.2.ownerOutcomes, ∃ replaces worker startup,
      outcome = .replacement (.cancelledBeforeBirth replaces worker startup) := by
  intro outcome houtcome
  cases h with
  | stays h => cases h <;> cases houtcome
  | ordered h =>
    cases h with
    | cancelled => exact ⟨_, _, _, List.mem_singleton.mp houtcome⟩
    | _ => cases houtcome

theorem finishStartRetirement_outcomes (kind : WorkerStartKind)
    (retirement : WorkerStartRetirement S) :
    (finishStartRetirement self kind retirement : Acted S Message).2.ownerOutcomes = [] := by
  match kind with
  | .initial => rfl
  | .replacement _ .settled => rfl
  | .replacement _ (.awaiting _) => rfl

/-- A worker that leaves a closed proxy is not told of. -/
theorem Leaving.left_outcomes (hclosing : (place.state departure).closing = true) :
    (place.left self gone : Acted S Message).2.ownerOutcomes = [] := by
  match place with
  | .returningStart kind failure => cases hclosing
  | .returningPredecessor successor creation => cases hclosing
  | .returningWorker => rfl
  | .retiringStart kind failure => exact finishStartRetirement_outcomes _ _
  | .cancelledPredecessor replaces successor => rfl
  | .returningSuccessor replaces (.awaiting _) result => rfl
  | .returningSuccessor replaces (.returned _) result => rfl
  | .retiringInitialization kind none => rfl
  | .retiringInitialization kind (some _) => exact finishStartRetirement_outcomes _ _
  | .retiringStartup kind (.pending _) => rfl
  | .retiringStartup kind (.returned _) => exact finishStartRetirement_outcomes _ _

/-- **A closed proxy tells its owner nothing but refusals.** -/
theorem Turn.closed_outcomes (h : Turn self event acted) (hclosing : self.state.closing = true) :
    ∀ outcome ∈ acted.2.ownerOutcomes, outcome.refuses = true := by
  have hnil : acted.2.ownerOutcomes = [] →
      ∀ outcome ∈ acted.2.ownerOutcomes, outcome.refuses = true := by
    intro hnil
    simp [hnil]
  cases h with
  | stays h =>
    intro outcome houtcome
    cases h with
    | served hready => cases houtcome
    | draining hshutdown => cases houtcome
    | retired hstopped => cases houtcome
    | diagnosed hdiagnostic => cases houtcome
    | _ =>
      rw [List.mem_singleton.mp houtcome]
      rfl
  | ordered h =>
    cases h with
    | closed hempty => exact hnil rfl
    | _ => cases hclosing
  | created h =>
    cases h with
    | established hreads => cases hclosing
    | rejected hstate hreads =>
      rw [hstate] at hclosing
      cases hclosing
    | establishedShut hreads => exact hnil rfl
    | establishedHeldShut hreads => exact hnil rfl
    | rejectedShut hstate hreads => exact hnil (finishStartRetirement_outcomes _ _)
  | initialized h =>
    cases h with
    | initialized hattempt hinitialization => cases hclosing
    | stillborn hstate hadmits hstillborn =>
      rw [hstate] at hclosing
      cases hclosing
    | uninitialized hattempt hinitialization => cases hclosing
    | retained hadmits hretains => exact hnil rfl
    | returnedStopped hstate hadmits hnone hsettled hchild =>
      exact hnil (finishStartRetirement_outcomes _ _)
    | lateInitialized hstate hadmits hclassified => exact hnil (finishStartRetirement_outcomes _ _)
  | started h =>
    cases h with
    | started => cases hclosing
    | failed hfails => cases hclosing
    | ended hstate hends | ready hstate =>
      rw [hstate] at hclosing
      cases hclosing
    | advanced hadmits hadvance => exact hnil rfl
    | lateStarted hadmits hadvance => exact hnil rfl
    | lateReturned hstate hadmits hadvance => exact hnil (finishStartRetirement_outcomes _ _)
  | settled h =>
    cases h with
    | predecessorSettled => cases hclosing
    | published hstate =>
      rw [hstate] at hclosing
      cases hclosing
    | settledLast hstate hrequested hheld => exact hnil (Leaving.left_outcomes (hstate ▸ hclosing))
    | _ => exact hnil rfl
  | stopped h =>
    cases h with
    | predecessorStopped hstate hrequested hnone hchild =>
      rw [hstate] at hclosing
      cases hclosing
    | held hplace hrequested hnone hchild => exact hnil rfl
    | stoppedLast hstate hsettled hnone hchild =>
      exact hnil (Leaving.left_outcomes (hstate ▸ hclosing))
    | _ => cases hclosing

/-- **The stop of the worker that stands is told at once.** -/
theorem standing_stop_told (hsound : Sound self) (hstanding : self.state.standing = some attempt)
    (hchild : stopped.child = attempt.creation) :
    (self.transition (.workerStopped stopped) : Acted S Message).2.ownerOutcomes =
      [.workerStopped attempt stopped] := by
  obtain ⟨state, creations, heap⟩ := self
  unfold ProxyState.standing at hstanding
  split at hstanding
  · next hstate =>
    obtain rfl : state = _ := hstate
    cases hstanding
    simp only [StableProxy.transition, workerStopped, CurrentWorker.admitStop_iff.mpr hchild, if_true]
    rfl
  · next departure successor creation hstate =>
    obtain rfl : state = _ := hstate
    cases hstanding
    obtain ⟨worker, shutdown, held⟩ := departure
    obtain rfl : held = none := hsound.predecessor _ _ _ rfl
    have hadmits : worker.admitStop stopped = true := CurrentWorker.admitStop_iff.mpr hchild
    cases shutdown with
    | requested id | settled settlement =>
      simp only [StableProxy.transition, workerStopped, replacementWorkerStopped,
        WorkerStopping.workerStopped, hadmits, if_true]
      rfl
  · cases hstanding

end Bombay.Proxy
