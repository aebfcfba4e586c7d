/-
# The work queue

`crates/actors/src/routing/work_queue.rs`: values wait for workers, or workers for values, never
both.  An announcement makes a worker available for one dispatch; it takes the oldest waiting value,
or waits itself.

`work_queue_law` reads a run off its turns: values are dispatched in the order of their submission,
workers in the order of their announcements.
-/

import Bombay.Lib.Machine

namespace Bombay.Routing

variable {T Worker Reply : Type}

/-- `WorkQueueRejection`. -/
inductive WorkQueueRejection where
  | full
  deriving DecidableEq

/-- `WorkQueueOutcome`. -/
inductive WorkQueueOutcome (T : Type) where
  | queued (depth : ℕ)
  | dispatched (queued : ℕ)
  | rejected (value : T) (reason : WorkQueueRejection)
  deriving DecidableEq

/-- `WorkQueueMessage`. -/
inductive WorkQueueMessage (T Worker Reply : Type) where
  | submit (value : T) (replyTo : Reply)
  | available (worker : Worker)
  | withdraw (worker : Worker)

/-- `WorkQueueSends`: every transition continues and creates nothing. -/
structure WorkQueueSends (T Worker Reply : Type) where
  assignments : List (Worker × T) := []
  outcomes : List (Reply × WorkQueueOutcome T) := []

/-- `Waiting`. -/
structure Waiting (T Reply : Type) where
  value : T
  replyTo : Reply

/-- `WorkQueue`. -/
structure WorkQueue (T Worker Reply : Type) where
  capacity : ℕ
  available : List Worker
  waiting : List (Waiting T Reply)

namespace WorkQueue

/-- `WorkQueue::new`. -/
def new (capacity : ℕ) : WorkQueue T Worker Reply := ⟨capacity, [], []⟩

/-- `WorkQueue::submit`. -/
def submit (self : WorkQueue T Worker Reply) (value : T) (replyTo : Reply) :
    WorkQueue T Worker Reply × WorkQueueSends T Worker Reply :=
  match self.available with
  | worker :: available =>
    ({ self with available }, ⟨[(worker, value)], [(replyTo, .dispatched self.waiting.length)]⟩)
  | [] =>
    if self.waiting.length = self.capacity then
      (self, { outcomes := [(replyTo, .rejected value .full)] })
    else
      let waiting := self.waiting ++ [⟨value, replyTo⟩]
      ({ self with waiting }, { outcomes := [(replyTo, .queued waiting.length)] })

/-- **The discipline of the queue.**  Not both sides wait, no worker waits twice, and the values
fit. -/
structure Disciplined (self : WorkQueue T Worker Reply) : Prop where
  oneSided : self.available = [] ∨ self.waiting = []
  distinct : self.available.Nodup
  bounded : self.waiting.length ≤ self.capacity

variable [DecidableEq Worker]

/-- `WorkQueue::announce`. -/
def announce (self : WorkQueue T Worker Reply) (worker : Worker) :
    WorkQueue T Worker Reply × WorkQueueSends T Worker Reply :=
  match self.waiting with
  | first :: waiting =>
    ({ self with waiting },
      ⟨[(worker, first.value)], [(first.replyTo, .dispatched waiting.length)]⟩)
  | [] =>
    if worker ∈ self.available then (self, {})
    else ({ self with available := self.available ++ [worker] }, {})

/-- `WorkQueue::transition`; a withdrawal removes the first such worker. -/
def transition (self : WorkQueue T Worker Reply) :
    WorkQueueMessage T Worker Reply → WorkQueue T Worker Reply × WorkQueueSends T Worker Reply
  | .submit value replyTo => self.submit value replyTo
  | .available worker => self.announce worker
  | .withdraw worker => ({ self with available := self.available.erase worker }, {})

end WorkQueue

/-- A turn of a work queue. -/
abbrev WorkTurn (T Worker Reply : Type) :=
  Turn (WorkQueue T Worker Reply) (WorkQueueMessage T Worker Reply)
    (WorkQueueSends T Worker Reply)

namespace WorkTurn

variable (now : WorkTurn T Worker Reply)

/-- The value that is submitted. -/
def submitted : List T :=
  match now.event with
  | .submit value _ => [value]
  | _ => []

/-- The worker that is announced. -/
def announced : List Worker :=
  match now.event with
  | .available worker => [worker]
  | _ => []

/-- The values that are returned. -/
def rejected (now : WorkTurn T Worker Reply) : List T :=
  now.emitted.outcomes.filterMap fun
    | (_, .rejected value _) => some value
    | _ => none

/-- The value that is submitted and not returned. -/
def accepted : List T :=
  if now.rejected.isEmpty then now.submitted else []

/-- The workers that are given a value. -/
def workers : List Worker := now.emitted.assignments.map (·.1)

/-- The values that are given to a worker. -/
def dispatched : List T := now.emitted.assignments.map (·.2)

/-- **What a turn does** to a disciplined queue: the values that go are the first, and so are the
workers. -/
structure Works (now : WorkTurn T Worker Reply) : Prop where
  disciplined : now.after.Disciplined
  values : now.dispatched ++ now.after.waiting.map (·.value) =
    now.before.waiting.map (·.value) ++ now.accepted
  workers : (now.workers ++ now.after.available).Sublist (now.before.available ++ now.announced)
  fate : now.accepted ++ now.rejected = now.submitted

end WorkTurn

namespace WorkQueue

variable [DecidableEq Worker]

/-- **Every turn keeps the discipline and both orders.** -/
theorem transition_works {self} (h : self.Disciplined) (message : WorkQueueMessage T Worker Reply) :
    WorkTurn.Works (Machine.turn transition self message) := by
  obtain ⟨capacity, available, waiting⟩ := self
  obtain ⟨hsided, hdistinct, hbounded⟩ := h
  cases message with
  | submit value replyTo =>
    cases available with
    | cons worker available =>
      -- A worker waits, so no value does: the submitted value is the first.
      obtain rfl : waiting = [] := hsided.resolve_left (List.cons_ne_nil _ _)
      have hrest : (worker :: available).Sublist (worker :: available ++ []) := by simp
      exact ⟨⟨.inr rfl, hdistinct.of_cons, hbounded⟩, rfl, hrest, rfl⟩
    | nil =>
      simp only [Machine.turn, transition, submit]
      split_ifs with hfull
      · exact ⟨⟨hsided, hdistinct, hbounded⟩, (List.append_nil _).symm, List.nil_sublist _, rfl⟩
      · have hroom : waiting.length < capacity := lt_of_le_of_ne hbounded hfull
        refine ⟨⟨.inl rfl, hdistinct, ?_⟩, ?_, List.nil_sublist _, rfl⟩
        · show (waiting ++ [_]).length ≤ capacity
          rw [List.length_append]
          exact hroom
        · exact List.map_append
  | available worker =>
    cases waiting with
    | cons first waiting =>
      obtain rfl : available = [] := hsided.resolve_right (List.cons_ne_nil _ _)
      refine ⟨⟨.inl rfl, hdistinct, Nat.le_of_succ_le hbounded⟩, ?_, List.Sublist.refl _, rfl⟩
      exact (List.append_nil (first.value :: waiting.map (·.value))).symm
    | nil =>
      simp only [Machine.turn, transition, announce]
      split_ifs with hknown
      · exact ⟨⟨.inr rfl, hdistinct, hbounded⟩, rfl, List.sublist_append_left _ _, rfl⟩
      · have hdistinct' : (available ++ [worker]).Nodup :=
          List.nodup_append'.mpr ⟨hdistinct, List.nodup_singleton _, by simpa using hknown⟩
        exact ⟨⟨.inr rfl, hdistinct', hbounded⟩, rfl, List.Sublist.refl _, rfl⟩
  | withdraw worker =>
    have hless : (available.erase worker).Sublist (available ++ []) := by
      rw [List.append_nil]
      exact List.erase_sublist
    refine ⟨⟨hsided.imp_left fun h => ?_, hdistinct.erase _, hbounded⟩, ?_, hless, rfl⟩
    · show available.erase worker = []
      rw [show available = [] from h, List.erase_nil]
    · exact (List.append_nil _).symm

/-! ### Runs -/

/-- The queue after a run. -/
def run (capacity : ℕ) (messages : List (WorkQueueMessage T Worker Reply)) :
    WorkQueue T Worker Reply :=
  Machine.reached transition (new capacity) messages

/-- The turns of a run. -/
def turns (capacity : ℕ) (messages : List (WorkQueueMessage T Worker Reply)) :
    List (WorkTurn T Worker Reply) :=
  Machine.turns transition (new capacity) messages

theorem run_disciplined (capacity : ℕ) (messages : List (WorkQueueMessage T Worker Reply)) :
    (run capacity messages).Disciplined ∧ (run capacity messages).capacity = capacity := by
  refine Machine.reached_invariant
    (P := fun self : WorkQueue T Worker Reply => self.Disciplined ∧ self.capacity = capacity)
    ⟨⟨.inl rfl, List.nodup_nil, Nat.zero_le _⟩, rfl⟩ (fun self message h => ?_) messages
  refine ⟨(transition_works h.1 message).disciplined, Eq.trans ?_ h.2⟩
  cases message <;> simp only [transition, submit, announce] <;> split <;> try split
  all_goals rfl

/-- **The law of the work queue.**  Not both sides wait, the workers that wait are distinct, and no
more values wait than the capacity.  A submitted value is accepted or returned; over a run the
accepted values are dispatched in the order of their submission, and the others still wait.  The
workers that were given a value, and then those that wait, are in the order of their announcements,
each of which gives at most one. -/
theorem work_queue_law (capacity : ℕ) (messages : List (WorkQueueMessage T Worker Reply)) :
    ((run capacity messages).Disciplined ∧ (run capacity messages).capacity = capacity) ∧
    (∀ now ∈ turns capacity messages, now.accepted ++ now.rejected = now.submitted) ∧
    (turns capacity messages).flatMap WorkTurn.dispatched ++
        (run capacity messages).waiting.map (·.value) =
      (turns capacity messages).flatMap WorkTurn.accepted ∧
    ((turns capacity messages).flatMap WorkTurn.workers ++ (run capacity messages).available).Sublist
      ((turns capacity messages).flatMap WorkTurn.announced) := by
  have hworks := fun earlier (message : WorkQueueMessage T Worker Reply) =>
    transition_works (run_disciplined capacity earlier).1 message
  refine ⟨run_disciplined capacity messages, fun now hnow => ?_, ?_, ?_⟩
  · obtain ⟨earlier, later, hsplit⟩ := List.append_of_mem hnow
    obtain ⟨before, -, hturn⟩ := Machine.turns_split hsplit
    rw [hturn]
    exact (hworks before now.event).fate
  · exact Machine.turns_ordered (fun self : WorkQueue T Worker Reply => self.waiting.map (·.value))
      WorkTurn.accepted WorkTurn.dispatched rfl (fun earlier message => (hworks earlier message).values)
      messages
  · exact Machine.turns_sublist (fun self : WorkQueue T Worker Reply => self.available)
      WorkTurn.announced WorkTurn.workers rfl (fun earlier message => (hworks earlier message).workers)
      messages

end WorkQueue
end Bombay.Routing
