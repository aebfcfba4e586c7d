/-
# Jobs leave in the order of their admission

A worker that becomes idle takes the waiting job that was admitted first, and a job
that comes back from a worker waits at its old place.  `HandsOut` says this of one
transition: what waits when work is handed out is one queue in admission order, the
jobs that leave are its front, and each is assigned or returned.  A job that was only
just submitted goes to a worker at once only where nothing waits.
-/

import Bombay.Fifo.Custody

namespace Bombay.Fifo

open scoped List

variable {S : Signature} {event : FifoEvent S} {marks : Dirt} {before after : Turn S}
  {start : FifoOperating S} {taken assigned joined : List (QueuedJob S)}

/-- The first job was admitted before the second. -/
def Precedes (first second : QueuedJob S) : Prop :=
  first.customer.admitted < second.customer.admitted

/-- **The assignment hands this job to a worker**, which now has it under the correlation
the assignment names. -/
def Carries (operating : FifoOperating S) (assignment : AssignWorker S)
    (customer : CustomerJob S) : Prop :=
  ∃ (position : ℕ) (role : S.Role) (recoveries : RecoveryCount) (current : CurrentWorker S)
    (assigned : AssignedJob S),
    operating.members[position]? = some ⟨role, recoveries, .worker current (.busy assigned)⟩ ∧
    assigned.customer = customer ∧ assignment.target = current.recipient ∧
    assignment.assignment.payload = customer.payload ∧
    assignment.receipt = ⟨assigned.correlation.assignment, assigned.correlation.worker⟩ ∧
    assignment.assignment.authority = ⟨assigned.correlation.assignment,
      assigned.correlation.worker, assigned.correlation.token⟩

/-- **Work handed out in admission order** since a transition began.  The jobs that
waited and those that came back from workers are one queue in the order of their
admission; `taken` is its front, of which `assigned` went to workers, in this order, and
the rest to their customers. -/
structure HandsOut (start operating : FifoOperating S) (actions : FifoActions S)
    (taken assigned joined : List (QueuedJob S)) : Prop where
  sorted : (taken ++ operating.backlog.values).Pairwise Precedes
  queue : taken ++ operating.backlog.values ~ start.backlog.values ++ joined
  worked : ∀ queued ∈ joined, queued.customer ∈ start.members.flatMap customersOf
  sublist : assigned.Sublist taken
  carried : List.Forall₂ (fun assignment queued => Carries operating assignment queued.customer)
    actions.workerAssignments assigned
  returned : ∀ queued ∈ taken, queued ∈ assigned ∨
    ∃ delivery ∈ actions.customerOutcomes, Resolves queued.customer delivery

variable {operating : FifoOperating S} {customer : CustomerJob S} {position : ℕ}
    {old new : Member S} {backlog : OrderedMap ℕ (QueuedJob S)} {pool : FifoPool S}

/-- **Nobody is overtaken**: when a waiting job is assigned, no job that was admitted
before it is left waiting. -/
theorem HandsOut.not_overtaken {actions}
    (h : HandsOut start operating actions taken assigned joined) :
    ∀ first ∈ operating.backlog.values, ∀ second ∈ assigned, ¬ Precedes first second := by
  intro first hfirst second hsecond hprecedes
  have hahead := (List.pairwise_append.mp h.sorted).2.2 second (h.sublist.subset hsecond) first
    hfirst
  exact lt_asymm hprecedes hahead

/-! ### One move -/

/-- The busy workers that were there are still there. -/
def KeepsBusy (operating operating' : FifoOperating S) : Prop :=
  ∀ (position : ℕ) (member : Member S), isBusy member = true →
    operating.members[position]? = some member → operating'.members[position]? = some member

theorem Carries.mono {operating' assignment} (h : Carries operating assignment customer)
    (hbusy : KeepsBusy operating operating') : Carries operating' assignment customer := by
  obtain ⟨position, role, recoveries, current, assigned, hmember, hrest⟩ := h
  exact ⟨position, role, recoveries, current, assigned, hbusy position _ rfl hmember, hrest⟩

theorem keepsBusy_put
    (hmember : operating.members[position]? = some old) (hold : isBusy old = false) :
    KeepsBusy operating (operating.put position new) := by
  intro i member hbusy hi
  have hne : position ≠ i := by
    rintro rfl
    rw [hmember, Option.some.injEq] at hi
    rw [hi, hbusy] at hold
    exact Bool.noConfusion hold
  exact (List.getElem?_set_ne hne).trans hi

/-- **Jobs leave the front of the queue**, some to workers and the rest to their
customers. -/
theorem HandsOut.take {gone given assignments}
    (h : HandsOut start before.operating before.actions taken assigned joined)
    (hbacklog : before.operating.backlog.values = gone ++ after.operating.backlog.values)
    (hgiven : given.Sublist gone)
    (hassignments : after.actions.workerAssignments
      = before.actions.workerAssignments ++ assignments)
    (hcarried : List.Forall₂
      (fun assignment queued => Carries after.operating assignment queued.customer)
      assignments given)
    (hbusy : before.actions.workerAssignments = [] ∨ KeepsBusy before.operating after.operating)
    (houtcomes : before.actions.customerOutcomes ⊆ after.actions.customerOutcomes)
    (hreturned : ∀ queued ∈ gone, queued ∈ given ∨
      ∃ delivery ∈ after.actions.customerOutcomes, Resolves queued.customer delivery) :
    HandsOut start after.operating after.actions (taken ++ gone) (assigned ++ given) joined where
  sorted := by
    rw [List.append_assoc, ← hbacklog]
    exact h.sorted
  queue := by
    rw [List.append_assoc, ← hbacklog]
    exact h.queue
  worked := h.worked
  sublist := h.sublist.append hgiven
  carried := by
    rw [hassignments]
    refine List.rel_append ?_ hcarried
    rcases hbusy with hnone | hbusy
    · have hcarried := h.carried
      rw [hnone] at hcarried ⊢
      rw [List.forall₂_nil_left_iff.mp hcarried]
      exact .nil
    · exact h.carried.imp fun _ _ hcarries => hcarries.mono hbusy
  returned := by
    intro queued hqueued
    rcases List.mem_append.mp hqueued with hqueued | hqueued
    · rcases h.returned queued hqueued with hassigned | ⟨delivery, hdelivery, hresolves⟩
      · exact .inl (List.mem_append_left _ hassigned)
      · exact .inr ⟨delivery, houtcomes hdelivery, hresolves⟩
    · exact (hreturned queued hqueued).imp_left (List.mem_append_right _)

/-- The backlog is in admission order where it is keyed by admission. -/
theorem values_sorted (hkeyed : ∀ entry ∈ backlog.entries, entry.1 = entry.2.customer.admitted) :
    backlog.values.Pairwise Precedes := by
  refine List.pairwise_map.mpr (backlog.ordered.imp_of_mem ?_)
  intro first second hfirst hsecond hlt
  rwa [hkeyed first hfirst, hkeyed second hsecond] at hlt

/-- **A job comes back from its worker**, before any other has left the queue. -/
theorem HandsOut.join (queued : QueuedJob S)
    (h : HandsOut start before.operating before.actions taken assigned joined)
    (hbacklog : after.operating.backlog
      = before.operating.backlog.insert queued.customer.admitted queued)
    (hkeyed : ∀ entry ∈ before.operating.backlog.entries, entry.1 = entry.2.customer.admitted)
    (hapart : ∀ entry ∈ before.operating.backlog.entries, entry.1 ≠ queued.customer.admitted)
    (hworked : queued.customer ∈ start.members.flatMap customersOf)
    (hbefore : before.actions.workerAssignments = [])
    (houtcomes : before.actions.customerOutcomes = [])
    (hafter : after.actions.workerAssignments = []) :
    HandsOut start after.operating after.actions [] [] (joined ++ [queued]) := by
  have hcarried := h.carried
  rw [hbefore] at hcarried
  have hassigned : assigned = [] := List.forall₂_nil_left_iff.mp hcarried
  have htaken : taken = [] := by
    refine List.eq_nil_iff_forall_not_mem.mpr fun other hother => ?_
    rcases h.returned other hother with hmem | ⟨delivery, hdelivery, -⟩
    · simp [hassigned] at hmem
    · simp [houtcomes] at hdelivery
  have hqueue := h.queue
  rw [htaken, List.nil_append] at hqueue
  have hinsert : after.operating.backlog.values ~ queued :: before.operating.backlog.values := by
    rw [hbacklog]
    exact (OrderedMap.insert_entries_perm hapart).map (·.2)
  refine ⟨?_, ?_, ?_, List.Sublist.refl _, by rw [hafter]; exact .nil, by simp⟩
  · rw [List.nil_append, hbacklog]
    exact values_sorted (keyed_insert hkeyed)
  · rw [List.nil_append, ← List.append_assoc]
    exact hinsert.trans ((hqueue.cons queued).trans (List.perm_append_singleton _ _).symm)
  · intro other hother
    rcases List.mem_append.mp hother with hother | hother
    · exact h.worked other hother
    · rwa [List.mem_singleton.mp hother]

/-- **What a transition has handed out so far**; until it hands out any job, its workers
only have jobs they began with. -/
def Hands (start : FifoOperating S) (turn : Turn S) : Prop :=
  (∃ taken assigned joined, HandsOut start turn.operating turn.actions taken assigned joined) ∧
    (turn.actions.workerAssignments = [] → ∀ customer ∈ turn.operating.members.flatMap customersOf,
      customer ∈ start.members.flatMap customersOf)

theorem jobs_put (hmember : operating.members[position]? = some old)
    (hjobs : customersOf new ⊆ customersOf old)
    (h : customer ∈ (operating.put position new).members.flatMap customersOf) :
    customer ∈ operating.members.flatMap customersOf := by
  obtain ⟨member, hmem, hcustomer⟩ := List.mem_flatMap.mp h
  rcases List.mem_or_eq_of_mem_set hmem with hmem | rfl
  · exact List.mem_flatMap.mpr ⟨member, hmem, hcustomer⟩
  · exact List.mem_flatMap.mpr ⟨old, List.mem_of_getElem? hmember, hjobs hcustomer⟩

/-- A member changes, and no job leaves the queue. -/
theorem Hands.put (h : Hands start before)
    (hmember : before.operating.members[position]? = some old)
    (hbacklog : after.operating.backlog = before.operating.backlog)
    (hmembers : after.operating.members = before.operating.members.set position new)
    (hjobs : customersOf new ⊆ customersOf old)
    (hassignments : after.actions.workerAssignments = before.actions.workerAssignments)
    (houtcomes : before.actions.customerOutcomes ⊆ after.actions.customerOutcomes)
    (hbusy : before.actions.workerAssignments = [] ∨ isBusy old = false) : Hands start after := by
  obtain ⟨⟨taken, assigned, joined, hhands⟩, hworkers⟩ := h
  refine ⟨⟨_, _, joined, hhands.take (by simp [hbacklog]) (List.Sublist.refl [])
    (by simpa using hassignments) .nil ?_ houtcomes (by simp)⟩, ?_⟩
  · refine hbusy.imp_right fun hold position member hbusy hi => ?_
    rw [hmembers]
    exact keepsBusy_put hmember hold position member hbusy hi
  · intro hnone customer hcustomer
    rw [hmembers] at hcustomer
    rw [hassignments] at hnone
    exact hworkers hnone customer (jobs_put hmember hjobs hcustomer)

/-- Nothing about workers or waiting jobs changes. -/
theorem Hands.same (h : Hands start before) (hoperating : after.operating = before.operating)
    (hassignments : after.actions.workerAssignments = before.actions.workerAssignments)
    (houtcomes : after.actions.customerOutcomes = before.actions.customerOutcomes) :
    Hands start after := by
  obtain ⟨⟨taken, assigned, joined, hhands⟩, hworkers⟩ := h
  refine ⟨⟨taken, assigned, joined, ?_⟩, ?_⟩
  · obtain ⟨hsorted, hqueue, hworked, hsublist, hcarried, hreturned⟩ := hhands
    rw [← hoperating] at hsorted hqueue hcarried
    rw [← hassignments] at hcarried
    rw [← houtcomes] at hreturned
    exact ⟨hsorted, hqueue, hworked, hsublist, hcarried, hreturned⟩
  · rw [hoperating, hassignments]
    exact hworkers

/-- Jobs leave the front of the queue for their customers. -/
theorem Hands.give_back {gone} (h : Hands start before)
    (hbacklog : before.operating.backlog.values = gone ++ after.operating.backlog.values)
    (hmembers : after.operating.members = before.operating.members)
    (hassignments : after.actions.workerAssignments = before.actions.workerAssignments)
    (houtcomes : before.actions.customerOutcomes ⊆ after.actions.customerOutcomes)
    (hreturned : ∀ queued ∈ gone, ∃ delivery ∈ after.actions.customerOutcomes,
      Resolves queued.customer delivery) : Hands start after := by
  obtain ⟨⟨taken, assigned, joined, hhands⟩, hworkers⟩ := h
  refine ⟨⟨_, _, joined, hhands.take hbacklog (List.nil_sublist _) (by simpa using hassignments)
    .nil (.inr ?_) houtcomes fun queued hqueued => .inr (hreturned queued hqueued)⟩, ?_⟩
  · intro position member _ hi
    rwa [hmembers]
  · rw [hmembers, hassignments]
    exact hworkers

theorem values_of_popFirst {rest admitted queued}
    (h : backlog.popFirst = some ((admitted, queued), rest)) :
    backlog.values = [queued] ++ rest.values := by
  simp [OrderedMap.values, OrderedMap.popFirst_entries h]

/-- **The first waiting job goes to an idle worker.** -/
theorem Hands.dispatch {admitted role recoveries current queued} (h : Hands start before)
    (hfirst : before.operating.backlog.popFirst = some ((admitted, queued), backlog))
    (hmember : before.operating.members[position]?
      = some ⟨role, recoveries, .worker current .idle⟩) (assignment : ℕ) (assignments : Sequence) :
    Hands start ((before.withBacklog backlog).assigned position role recoveries current
      queued.customer assignment assignments) := by
  obtain ⟨⟨taken, assigned, joined, hhands⟩, -⟩ := h
  have hlt := (List.getElem?_eq_some_iff.mp hmember).1
  refine ⟨⟨_, _, joined, hhands.take (values_of_popFirst hfirst) (.refl _) rfl (.cons ?_ .nil)
    (.inr (keepsBusy_put hmember rfl)) (List.Subset.refl _) fun other hother => .inl hother⟩, ?_⟩
  · exact ⟨position, role, recoveries, current, _, List.getElem?_set_self hlt, rfl, rfl, rfl, rfl,
      rfl⟩
  · intro hnone
    simp [Turn.assigned, FifoActions.assign] at hnone

/-- **A worker gives its job up** before work is handed out: the job is over, or it is
the first of this transition and waits again. -/
theorem Disposed.hands {middle role requeues} (h : Disposed before role customer requeues middle)
    (hhands : Hands start before) (htidy : Tidy before)
    (hmember : before.operating.members[position]? = some old) (hold : customersOf old = [customer])
    (hnew : customersOf new = []) (hfresh : Fresh before.actions)
    (hfirst : requeues = true → before.actions.customerOutcomes = [])
    (hafter : after.operating = middle.operating.put position new)
    (hassignments : after.actions.workerAssignments = middle.actions.workerAssignments)
    (houtcomes : after.actions.customerOutcomes = middle.actions.customerOutcomes) :
    Hands start after := by
  have hjobs : customersOf new ⊆ customersOf old := by simp [hnew]
  cases h with
  | completed result | returned reason =>
    refine hhands.put hmember (by rw [hafter]; rfl) (by rw [hafter]; rfl) hjobs
      (by rw [hassignments]; rfl) ?_ (.inl hfresh.1)
    rw [houtcomes]
    exact List.subset_append_left _ _
  | requeued =>
    obtain ⟨⟨taken, assigned, joined, hhands⟩, hworkers⟩ := hhands
    have hworks : customer ∈ before.operating.members.flatMap customersOf :=
      List.mem_flatMap.mpr ⟨old, List.mem_of_getElem? hmember, by simp [hold]⟩
    have hnone : after.actions.workerAssignments = [] := hassignments.trans hfresh.1
    refine ⟨⟨[], [], _, hhands.join ⟨customer, some role⟩ ?_ htidy.keyed
      (htidy.apart hmember hold) (hworkers hfresh.1 customer hworks) hfresh.1 (hfirst rfl) hnone⟩, ?_⟩
    · rw [hafter]
      rfl
    · intro _ other hother
      rw [hafter] at hother
      exact hworkers hfresh.1 other (jobs_put hmember hjobs hother)

/-- **Every move that is not a submission hands out work in order.** -/
theorem Move.hands (h : Move event marks before after)
    (hsubmit : ∀ submission payload customer,
      event ≠ .command (.submit submission payload customer))
    (hhands : Hands start before) (htidy : Tidy before) : Hands start after := by
  have hput {position : ℕ} {old new : Member S} {turn : Turn S}
      (hmember : before.operating.members[position]? = some old)
      (hoperating : turn.operating = before.operating.put position new)
      (hjobs : customersOf new ⊆ customersOf old)
      (hassignments : turn.actions.workerAssignments = before.actions.workerAssignments)
      (houtcomes : turn.actions.customerOutcomes = before.actions.customerOutcomes)
      (hbusy : before.actions.workerAssignments = [] ∨ isBusy old = false) : Hands start turn := by
    refine hhands.put hmember ?_ ?_ hjobs hassignments (houtcomes ▸ List.Subset.refl _) hbusy
    · rw [hoperating]
      rfl
    · rw [hoperating]
      rfl
  cases h with
  | note | reserve => exact hhands.same rfl rfl rfl
  | shift hmember hshift hfresh =>
    refine hput hmember rfl ?_ rfl rfl (.inl hfresh.1)
    cases hshift with
    | joined hcustomer | exited hevent hchild hcustomer =>
      simp [customersOf, heldAssignments, hcustomer]
    | _ => exact List.nil_subset _
  | establish hmember | rejectCreation _ hmember | permit _ _ hmember | authorize hmember
  | ready hmember | claim _ hmember | deny hmember | replaceNow hmember | schedule hmember
  | retireDelayed hmember | replaceDelayed hmember =>
    exact hput hmember rfl (List.nil_subset _) rfl rfl (.inr rfl)
  | quarantine _ hmember hsuspect hfresh =>
    exact hput hmember rfl (List.nil_subset _) rfl rfl (.inl hfresh.1)
  | complete hmember hstop hfresh =>
    exact hhands.put hmember rfl rfl (List.nil_subset _) rfl (List.subset_append_left _ _)
      (.inl hfresh.1)
  | halt hmember hphase hhalts hfresh hdecided =>
    obtain ⟨new, hoperating, hnew⟩ := hdecided.without_job
    refine hput hmember hoperating (by simp [hnew]) ?_ hdecided.outcomes.1 (.inl hfresh.1)
    rw [(hdecided.fresh hfresh).1, hfresh.1]
  | haltBusy hmember hhalts hdisposed hfresh hfirst hdecided =>
    obtain ⟨new, hoperating, hnew⟩ := hdecided.without_job
    refine hdisposed.hands hhands htidy hmember rfl hnew hfresh hfirst hoperating ?_
      hdecided.outcomes.1
    cases hdecided <;> rfl
  | quarantineBusy shutdown hmember hstop hdisposed hfresh hfirst =>
    exact hdisposed.hands hhands htidy hmember rfl rfl hfresh hfirst rfl rfl rfl
  | dispatch hfirst hposition hmember => exact hhands.dispatch hfirst hmember _ _
  | returnHead hfirst =>
    refine hhands.give_back (values_of_popFirst hfirst) rfl rfl (List.subset_append_left _ _) ?_
    intro other hother
    rw [List.mem_singleton.mp hother]
    exact ⟨_, List.mem_append_right _ List.mem_cons_self, uncorrelated_resolves _⟩
  | returnAll =>
    refine hhands.give_back (List.append_nil _).symm rfl ?_ ?_ ?_ <;> rw [returnQueued_eq]
    · exact List.subset_append_left _ _
    · intro queued hqueued
      exact ⟨_, List.mem_append_right _ (List.mem_map_of_mem hqueued), rfl, .inr (.inl ⟨_, rfl⟩)⟩
  | refuse hevent | queue hevent | serve hevent => exact absurd hevent (hsubmit _ _ _)

/-! ### Whole runs -/

/-- **The books of a pool are open**: its backlog is keyed by admission, and some ledger
holds the jobs it holds. -/
def Booked (pool : FifoPool S) : Prop :=
  Keyed pool ∧ ∃ prior : JobLedger S, prior.held = pool.held ∧
    ∀ job ∈ prior.issued, job.admitted = job.id ∧ pool.jobs.Past job.id

variable (config : Config S) (prepared : List (PreparedWorker S)) (events : List (FifoEvent S))

theorem begin_booked :
    Booked (Journal.begin config prepared).pool := by
  have haudit := begin_audit config prepared
  exact ⟨haudit.keyed, Ledger.empty, haudit.held, haudit.past⟩

theorem Acts.booked {acted} (h : Acts pool event acted) (hbooked : Booked pool) :
    Booked acted.next := by
  obtain ⟨hkeyed, prior, hheld, hpast⟩ := hbooked
  obtain ⟨⟨ledger, resolved, -, hheld, -, -, hpast, -⟩, hkeyed⟩ := h.account hheld hpast hkeyed
  exact ⟨hkeyed, ledger, hheld, hpast⟩

/-- A transition that begins hands out nothing. -/
theorem handsOut_nothing {actions}
    (hkeyed : ∀ entry ∈ operating.backlog.entries, entry.1 = entry.2.customer.admitted)
    (hnone : actions.workerAssignments = []) :
    HandsOut operating operating actions [] [] [] where
  sorted := values_sorted hkeyed
  queue := by simp
  worked := by simp
  sublist := List.Sublist.refl _
  carried := by
    rw [hnone]
    exact .nil
  returned := by simp

/-- **A job that was only just submitted** is assigned only where nothing waits, and then
it is the only one. -/
def AssignsDirectly (before after : FifoOperating S) (actions : FifoActions S) (submission : ℕ)
    (payload : S.Job) (customer : S.Customer) : Prop :=
  actions.workerAssignments = [] ∨
    before.backlog.entries = [] ∧ after.backlog.entries = [] ∧
      ∃ assignment job, actions.workerAssignments = [assignment] ∧
        Carries after assignment ⟨job, job, payload, customer⟩ ∧
        actions.customerOutcomes = [(customer, .accepted submission job)]

/-- **The assignments of one transition**, in admission order; no other transition assigns
a job. -/
def Entry.InAdmissionOrder (entry : Entry S) : Prop :=
  match entry.before.state, entry.after.state with
  | .operating before, .operating after =>
    (∀ submission payload customer, entry.event = .command (.submit submission payload customer) →
      AssignsDirectly before after entry.actions submission payload customer) ∧
    ((∀ submission payload customer,
        entry.event ≠ .command (.submit submission payload customer)) →
      ∃ taken assigned joined, HandsOut before after entry.actions taken assigned joined ∧
        ∀ first ∈ after.backlog.values, ∀ second ∈ assigned, ¬ Precedes first second)
  | _, _ => entry.actions.workerAssignments = []

theorem submission_assignsDirectly
    (hwork : WorkConserving operating) (submission : ℕ) (payload : S.Job) (customer : S.Customer) :
    AssignsDirectly operating (acceptSubmission pool operating submission payload customer).operating
      (acceptSubmission pool operating submission payload customer).actions submission payload
      customer := by
  have hsubmits := acceptSubmission_cases pool operating submission payload customer
  generalize acceptSubmission pool operating submission payload customer = turn at hsubmits ⊢
  cases hsubmits with
  | refused => exact .inl rfl
  | queued => exact .inl rfl
  | @assigned job position _ role recoveries current assignment _ _ _ hmember =>
    have hempty : operating.backlog.entries = [] := hwork.resolve_right
      (Roster.countP_pos_of_getElem? (p := isIdle) hmember rfl).ne'
    have hlt := (List.getElem?_eq_some_iff.mp hmember).1
    refine .inr ⟨hempty, hempty, _, job, rfl, ?_, rfl⟩
    exact ⟨position, role, recoveries, current, _, List.getElem?_set_self hlt, rfl, rfl, rfl, rfl,
      rfl⟩

theorem Chain.hands {turn} (hstate : pool.state = .operating operating)
    (hchain : Chain event ⟨{ pool with state := .stopped }, operating, FifoActions.cont⟩ {} turn)
    (hbooked : Booked pool)
    (hsubmit : ∀ submission payload customer,
      event ≠ .command (.submit submission payload customer)) : Hands operating turn := by
  obtain ⟨hkeyed, prior, hheld, hpast⟩ := hbooked
  have hoperating : prior.held = operating.held := by rw [hheld, FifoPool.held, hstate]
  have hstart : Hands operating ⟨{ pool with state := .stopped }, operating, FifoActions.cont⟩ :=
    ⟨⟨[], [], [], handsOut_nothing (hkeyed operating hstate) rfl⟩, fun _ _ hcustomer => hcustomer⟩
  refine (hchain.preserves (motive := fun turn => Accounts prior event turn ∧ Hands operating turn)
    ?_ ⟨⟨account_of_quiet hoperating hpast (.inl rfl), hkeyed operating hstate⟩, hstart⟩).2
  rintro before after marks hmove ⟨haccounts, hhands⟩
  exact ⟨hmove.accounts haccounts, hmove.hands hsubmit hhands haccounts.tidy⟩

/-- **Every transition of a pool in order assigns in admission order.** -/
theorem entry_inAdmissionOrder (hsound : Sound pool) (hbooked : Booked pool)
    (event : FifoEvent S) : (pool.entry event).InAdmissionOrder := by
  have hacts := act_cases hsound event
  unfold Entry.InAdmissionOrder
  split
  · rename_i before after hfrom hto
    have hstate : pool.state = .operating before := hfrom
    have hnext : (act pool event).state = .operating after := hto
    constructor
    · rintro submission payload customer hevent
      obtain rfl : event = .command (.submit submission payload customer) := hevent
      have hwork : WorkConserving before := by
        rw [Sound, hstate] at hsound
        exact hsound.work
      show AssignsDirectly before after (act pool _).actions submission payload customer
      rw [act_submit hstate] at hnext ⊢
      obtain rfl := PoolState.operating.inj hnext
      exact submission_assignsDirectly hwork submission payload customer
    · intro hsubmit
      show ∃ taken assigned joined,
        HandsOut before after (act pool event).actions taken assigned joined ∧ _
      rcases hacts.chain_or_fresh with ⟨operating, turn, hoperating, hchain, hacted⟩ |
        ⟨hfresh, hsame⟩
      · obtain rfl := PoolState.operating.inj (hstate.symm.trans hoperating)
        obtain ⟨⟨taken, assigned, joined, hhands⟩, -⟩ := hchain.hands hstate hbooked hsubmit
        rw [hacted] at hnext ⊢
        obtain rfl := PoolState.operating.inj hnext
        exact ⟨taken, assigned, joined, hhands, hhands.not_overtaken⟩
      · obtain rfl := PoolState.operating.inj (hstate.symm.trans (hsame after hnext))
        exact ⟨[], [], [], handsOut_nothing (hbooked.1 before hstate) hfresh.1, by simp⟩
  · rename_i hnot
    rcases hacts.chain_or_fresh with ⟨operating, turn, hoperating, hchain, hacted⟩ | ⟨hfresh, -⟩
    · refine absurd ?_ (hnot operating turn.operating hoperating)
      exact congrArg Acted.state hacted
    · exact hfresh.1

/-- **Admission order and work conservation.**  In every operating state of a run nothing
waits or nobody is idle, and the waiting jobs stand in admission order; every assignment of
a waiting job takes the one that was admitted first, and a new job is assigned directly only
where nothing waits. -/
theorem run_admission_order :
    (∀ operating, (run config prepared events).pool.state = .operating operating →
      (operating.backlog.entries = [] ∨ ∀ member ∈ operating.members, isIdle member = false) ∧
      operating.backlog.values.Pairwise Precedes) ∧
    ∀ entry ∈ (run config prepared events).entries, entry.InAdmissionOrder := by
  have hrun := run_entries (G := fun pool => Sound pool ∧ Booked pool)
    (P := Entry.InAdmissionOrder) config prepared
    ⟨begin_sound config prepared, begin_booked config prepared⟩
    (fun pool event hgood => by
      have hacts := act_cases hgood.1 event
      exact ⟨⟨hacts.sound hgood.1, hacts.booked hgood.2⟩,
        entry_inAdmissionOrder hgood.1 hgood.2 event⟩) events
  refine ⟨fun operating hoperating => ⟨?_, values_sorted (hrun.1.2.1 operating hoperating)⟩, hrun.2⟩
  have hsound := hrun.1.1
  rw [Sound, hoperating] at hsound
  refine hsound.work.imp_right fun hnone member hmem => ?_
  exact Bool.eq_false_iff.mpr (List.countP_eq_zero.mp hnone member hmem)

end Bombay.Fifo
