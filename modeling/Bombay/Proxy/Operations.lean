/-
# Every operation of the owner is answered once, over a whole run

The operations a run has admitted are those it has answered and the one it has in
hand, in order.  What it has told of its workers alternates.  After the owner's
shutdown it tells nothing but a cancellation before birth and refusals.
-/

import Bombay.Proxy.Progress

namespace Bombay.Proxy

variable {S : Signature} {Message : Type}

namespace Journal

variable (journal : Journal S Message)

/-- The operations a run has admitted. -/
def admitted : List Operation := journal.entries.flatMap Entry.admits

/-- The operations a run has answered. -/
def answered : List Operation := journal.entries.flatMap Entry.answers

/-- What a run has told of its workers. -/
def marks : List Mark := journal.entries.flatMap Entry.marks

/-- The attempts a run has told to be ready. -/
def readyIds : List ℕ := journal.entries.flatMap Entry.readyIds

end Journal

/-! ### The ledger of operations -/

variable (events : List (ProxyEvent S Message))

/-- **What was admitted was answered, or is in hand.** -/
theorem run_operations :
    (run events).admitted = (run events).answered ++ (run events).proxy.state.operations := by
  induction events using List.reverseRecOn with
  | nil => rfl
  | append_singleton events event ih =>
    have hentry := (transition_turn (run events).proxy event).answered.operations
    have hadmitted : (run (events ++ [event])).admitted =
        (run events).admitted ++ ((run events).proxy.entry event).admits := by
      rw [run_snoc, Journal.admitted, Journal.step, List.flatMap_append, List.flatMap_singleton]
      rfl
    have hanswered : (run (events ++ [event])).answered =
        (run events).answered ++ ((run events).proxy.entry event).answers := by
      rw [run_snoc, Journal.answered, Journal.step, List.flatMap_append, List.flatMap_singleton]
      rfl
    rw [hadmitted, hanswered, ih, List.append_assoc, List.append_assoc, run_snoc]
    exact congrArg _ hentry

variable {journal : Journal S Message} {submission : WorkerSubmission S}

/-- A result that waits to be told fits what it says. -/
theorem Journal.Coherent.fits (h : journal.Coherent .new) :
    ∀ completion, journal.proxy.state.completion = some completion → completion.Fits :=
  h.trail.invariant
    (P := fun proxy => ∀ completion, proxy.state.completion = some completion → completion.Fits)
    (absent rfl) fun entry hentry hfits => (h.valid entry hentry).turn.answered.fits hfits

/-- Every entry of a run tells of its workers in order. -/
theorem Journal.Coherent.marked (h : journal.Coherent .new) {entry}
    (hentry : entry ∈ journal.entries) : Marked entry := by
  obtain ⟨before, after, heq⟩ := List.append_of_mem hentry
  exact (h.valid entry hentry).turn.marked (h.valid entry hentry).sound (h.prior heq).fits

/-! ### A successor that is cancelled -/

/-- A successor that waits to be created is the operation in hand. -/
theorem ProxyState.operation_of_submission {state : ProxyState S}
    (h : state.submission = some submission) :
    ∃ operation, state.operations = [operation] := by
  obtain ⟨unborn, hunborn, -⟩ := Option.map_eq_some_iff.mp h
  unfold ProxyState.unborn at hunborn
  split at hunborn
  · exact ⟨_, rfl⟩
  · cases hunborn

/-- **A successor that waits to be created was submitted** with the operation in hand, and no
operation was admitted since. -/
theorem Journal.Coherent.submitted (h : journal.Coherent .new) {operation : Operation}
    (hsubmission : journal.proxy.state.submission = some submission)
    (hoperations : journal.proxy.state.operations = [operation]) :
    ∃ before entry after, journal.entries = before ++ entry :: after ∧
      (entry.event = .owner (.replace submission) ∧ entry.admits = [operation]) ∧
      ∀ later ∈ after, later.admits = [] := by
  obtain ⟨before, entry, after, heq, hadmits, hlater⟩ :=
    h.trail.outstanding
      (fun proxy operation => proxy.state.submission = some submission ∧
        proxy.state.operations = [operation])
      (fun entry operation =>
        entry.event = .owner (.replace submission) ∧ entry.admits = [operation])
      (fun entry _ => entry.admits ≠ []) (by simp [StableProxy.new, ProxyState.operations])
      (fun entry hentry howed => by
        have hanswered := (h.valid entry hentry).turn.answered
        rcases hanswered.submission submission howed.1 with ⟨hevent, hadmits⟩ | ⟨hbefore, hadmits⟩
        · exact .inl ⟨hevent, hadmits.trans howed.2⟩
        · have hadmits : entry.admits = [] := hadmits
          obtain ⟨earlier, hearlier⟩ := ProxyState.operation_of_submission hbefore
          have hoperations : entry.before.state.operations ++ entry.admits =
            entry.answers ++ entry.after.state.operations := hanswered.operations
          have hbefore' : entry.before.state.operations = [earlier] := hearlier
          rw [hadmits, List.append_nil, howed.2, hbefore'] at hoperations
          have hsplit : [] ++ [earlier] = entry.answers ++ [operation] := hoperations
          refine .inr ⟨⟨hbefore, ?_⟩, by simp [hadmits]⟩
          rw [hbefore', (List.append_inj' hsplit rfl).2])
      ⟨hsubmission, hoperations⟩
  exact ⟨before, entry, after, heq, hadmits, fun later hmem => not_not.mp (hlater later hmem)⟩

/-! ### What the owner hears of its workers -/

/-- **The marks of a run are in order**, and lead to the worker that stands. -/
theorem run_marks :
    ∃ standing, follow none (run events).marks = some standing ∧
      ((run events).proxy.state.closing = false →
        standing = (run events).proxy.state.standing) := by
  induction events using List.reverseRecOn with
  | nil => exact ⟨none, rfl, fun _ => rfl⟩
  | append_singleton events event ih =>
    obtain ⟨standing, hfollow, hstanding⟩ := ih
    have hmarks : (run (events ++ [event])).marks =
        (run events).marks ++ ((run events).proxy.entry event).marks := by
      rw [run_snoc, Journal.marks, Journal.step, List.flatMap_append, List.flatMap_singleton]
      rfl
    have hmem : (run events).proxy.entry event ∈ (run (events ++ [event])).entries := by
      rw [run_snoc]
      exact List.mem_append_right _ (List.mem_singleton_self _)
    have hmarked := (run_coherent (events ++ [event])).marked hmem
    have hproxy : (run (events ++ [event])).proxy = ((run events).proxy.entry event).after := by
      rw [run_snoc]
      rfl
    rw [hmarks, follow_append, hfollow, Option.bind_some, hproxy]
    cases hclosing : ((run events).proxy.entry event).after.state.closing with
    | true =>
      refine ⟨standing, ?_, fun h => by cases h⟩
      rw [hmarked.closed hclosing]
      cases standing <;> rfl
    | false =>
      have hopen : (run events).proxy.state.closing = false := by
        by_contra hopen
        have hclosed := (transition_turn (run events).proxy event).closes.closing (by simpa using hopen)
        cases hclosed.symm.trans hclosing
      rw [hstanding hopen]
      exact ⟨_, hmarked.order hclosing, fun _ => rfl⟩

theorem readyIds_nodup : (run events).readyIds.Nodup := by
  have h := run_coherent events
  refine (h.trail.nodup (fun proxy creation => proxy.stage creation ≤ 5) Entry.readyIds ?_ ?_).1
  · intro entry hentry creation hmay
    exact ((h.valid entry hentry).stage_le creation).trans hmay
  · intro entry hentry
    rcases (h.marked hentry).once with hnil | ⟨creation, hone, hbefore, hafter⟩
    · simp [hnil]
    · simp [hone, hbefore, hafter]

/-! ### The whole law -/

/-- **A run answers every operation of its owner once.** -/
structure AnswersOnce (journal : Journal S Message) : Prop where
  /-- An operation that is not admitted is returned whole at once, and nothing else happens. -/
  returned : ∀ entry ∈ journal.entries, ∀ submission,
    entry.event = .owner (.start submission) ∨ entry.event = .owner (.replace submission) →
      entry.admits = [] → entry.after = entry.before ∧
        ∃ outcome, entry.actions = .report outcome ∧ outcome.returned = some submission
  /-- An operation that is admitted is answered once, or is in hand: in the retirement, when the
  proxy has stopped. -/
  answered : journal.admitted = journal.answered ++ journal.proxy.state.operations
  /-- A proxy that was told all it asked for has no operation in hand, or it has stopped. -/
  told : journal.allTold = true → journal.proxy.state.busy = false
  /-- A successor that is cancelled before its birth is the one that was submitted last. -/
  cancelled : ∀ before entry after, journal.entries = before ++ entry :: after →
    ∀ replaces worker startup,
      .replacement (.cancelledBeforeBirth replaces worker startup) ∈ entry.actions.ownerOutcomes →
        ∃ earlier admitting later, before = earlier ++ admitting :: later ∧
          (admitting.event = .owner (.replace ⟨worker, startup⟩) ∧
            admitting.admits = [.replacement replaces]) ∧
          ∀ other ∈ later, other.admits = []
  /-- What is told of the workers alternates, and leads to the worker that stands. -/
  alternates : ∃ standing, follow none journal.marks = some standing ∧
    (journal.proxy.state.closing = false → standing = journal.proxy.state.standing)
  /-- No worker is told to be ready twice. -/
  readies : journal.readyIds.Nodup
  /-- The stop that is told is that of the worker. -/
  stops : ∀ entry ∈ journal.entries, ∀ attempt stopped,
    .workerStopped attempt stopped ∈ entry.actions.ownerOutcomes →
      stopped.child = attempt.creation
  /-- The stop of the worker that stands is told when it arrives. -/
  stopTold : ∀ attempt stopped, journal.proxy.state.standing = some attempt →
    stopped.child = attempt.creation →
      (journal.proxy.transition (.workerStopped stopped) : Acted S Message).2.ownerOutcomes =
        [.workerStopped attempt stopped]
  /-- The owner's shutdown tells nothing but a cancellation before birth. -/
  shutdown : ∀ entry ∈ journal.entries, entry.event = .owner .shutdown →
    ∀ outcome ∈ entry.actions.ownerOutcomes, ∃ replaces worker startup,
      outcome = .replacement (.cancelledBeforeBirth replaces worker startup)
  /-- After the owner's shutdown, nothing is told but refusals. -/
  closed : ∀ entry ∈ journal.entries, entry.before.state.closing = true →
    ∀ outcome ∈ entry.actions.ownerOutcomes, outcome.refuses = true

/-- An operation of a run is admitted, or returned whole at once. -/
theorem Entry.Valid.returned {entry : Entry S Message} (h : entry.Valid)
    (hevent : entry.event = .owner (.start submission) ∨
      entry.event = .owner (.replace submission)) (hadmits : entry.admits = []) :
    entry.after = entry.before ∧
      ∃ outcome, entry.actions = .report outcome ∧ outcome.returned = some submission := by
  obtain ⟨before, event, actions, after⟩ := entry
  obtain ⟨control, hcontrol, rfl⟩ : ∃ control : ProxyCommand S,
      (control = .start submission ∨ control = .replace submission) ∧ event = .owner control := by
    rcases hevent with hevent | hevent
    · exact ⟨_, .inl rfl, hevent⟩
    · exact ⟨_, .inr rfl, hevent⟩
  rcases h.turn.admitted_or_returned hcontrol with ⟨operation, hone, -⟩ | ⟨outcome, hacted, hreturned⟩
  · have hone : Entry.admits ⟨before, .owner control, actions, after⟩ = [operation] := hone
    rw [hadmits] at hone
    cases hone
  · cases hacted
    exact ⟨rfl, outcome, rfl, hreturned⟩

/-- **A stable proxy answers every operation of its owner exactly once**, in every run in which
no fact that it waits for is handed back. -/
theorem answers_every_operation_once
    (hmissed : (run events).NothingMissed) : AnswersOnce (run events) where
  returned entry hentry submission hevent hadmits :=
    ((run_coherent events).valid entry hentry).returned hevent hadmits
  answered := run_operations events
  told htold := (run_coherent events).not_busy hmissed htold
  cancelled before entry after heq replaces worker startup hcancelled := by
    have h := run_coherent events
    have hvalid := h.valid entry (by simp [heq])
    obtain ⟨hsubmission, hoperations⟩ :=
      hvalid.turn.answered.cancelled replaces worker startup hcancelled
    exact (h.prior heq).submitted hsubmission hoperations
  alternates := run_marks events
  readies := readyIds_nodup events
  stops entry hentry := ((run_coherent events).marked hentry).stops
  stopTold attempt stopped := standing_stop_told (run_coherent events).sound
  shutdown entry hentry hevent := by
    have hturn := ((run_coherent events).valid entry hentry).turn
    rw [hevent] at hturn
    exact hturn.shutdown_outcomes
  closed entry hentry := ((run_coherent events).valid entry hentry).turn.closed_outcomes

/-- A start whose creation is rejected. -/
theorem answers_every_operation_once_rejected :
    AnswersOnce (run [.owner (.start ⟨(), ()⟩), .workerCreationsSettled
      (.rejected [⟨1, (), .birth⟩])] : Journal numbers Unit) := by
  refine answers_every_operation_once _ fun entry hentry hmissed => ?_
  rcases List.mem_cons.mp hentry with rfl | hentry
  · cases hmissed
  · rcases List.mem_singleton.mp hentry with rfl
    cases hmissed

/-- A start whose creation comes back in a corrupt batch is never answered, although everything
that the proxy asked for was told. -/
theorem corrupt_batch_unanswered :
    (run [.owner (.start ⟨(), ()⟩), .workerCreationsSettled
      (.corrupt [⟨1, (), .birth⟩] .corruptTraversal)] : Journal numbers Unit).admitted = [.initial] ∧
    (run [.owner (.start ⟨(), ()⟩), .workerCreationsSettled
      (.corrupt [⟨1, (), .birth⟩] .corruptTraversal)] : Journal numbers Unit).allTold = true ∧
    (run [.owner (.start ⟨(), ()⟩), .workerCreationsSettled
      (.corrupt [⟨1, (), .birth⟩] .corruptTraversal)] : Journal numbers Unit).answered = [] ∧
    ¬ AnswersOnce (run [.owner (.start ⟨(), ()⟩), .workerCreationsSettled
      (.corrupt [⟨1, (), .birth⟩] .corruptTraversal)] : Journal numbers Unit) := by
  refine ⟨rfl, rfl, rfl, fun hanswers => ?_⟩
  have hbusy := hanswers.told rfl
  cases hbusy

end Bombay.Proxy
