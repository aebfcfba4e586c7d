/-
# The order of work inside a role

`fill_role` of `router/mod.rs` and everything that
leads to it.  A role serves its own jobs in the order of their admission, keeps one job
more than its backlog holds at most, and is left alone by every event about the worker
of another role.  No idle worker stands beside a waiting job, unless an event strands
one: when the assignment correlations are exhausted, `fill_role` returns the first
waiting job and leaves the others where they are (`Strands`).
-/

import Bombay.Keyed.Custody

namespace Bombay.Keyed

variable {R : Router} {event : KeyedEvent R} {start before after : Turn R}
  {roster : KeyedOperating R} {marks : Marks}

/-! ### The first waiting job -/

/-- **The assignment hands this job to the worker of a role**, which now has it under the
correlation the assignment names. -/
def Carries (operating : KeyedOperating R) (position : ℕ) (assignment : AssignWorker R.workers)
    (customer : CustomerJob R.workers) : Prop :=
  ∃ (frame : Frame R) (current : CurrentWorker R.workers) (assigned : AssignedJob R.workers),
    operating.roles[position]? = some (frame.cell (.worker current (.busy assigned))) ∧
    assigned.customer = customer ∧ assignment.target = current.recipient ∧
    assignment.assignment.payload = customer.payload ∧
    assignment.receipt = ⟨assigned.correlation.assignment, assigned.correlation.worker⟩ ∧
    assignment.assignment.authority = ⟨assigned.correlation.assignment,
      assigned.correlation.worker, assigned.correlation.token⟩

/-- The job waits in the cell, and whatever else waits there was admitted later. -/
def IsFirst (cell : RoleCell R) (customer : CustomerJob R.workers) : Prop :=
  customer ∈ cell.queue.values ∧
    ∀ other ∈ cell.queue.values, other = customer ∨ customer.admitted < other.admitted

variable {customer : CustomerJob R.workers} {position : ℕ} {turn : Turn R}
    {frame frame' : Frame R} {actions actions' : KeyedActions R} {pool pool' : KeyedPool R}
    {state : MemberState R.workers}

/-- What `pop_first` takes is first. -/
theorem isFirst_of_popFirst {cell admitted queue} (hadmitted : Admitted cell.queue)
    (h : cell.queue.popFirst = some ((admitted, customer), queue)) : IsFirst cell customer := by
  have hvalues := OrderedMap.popFirst_values h
  have hentries := OrderedMap.popFirst_entries h
  refine ⟨by simp [hvalues], fun other hother => ?_⟩
  rw [hvalues] at hother
  rcases List.mem_cons.mp hother with rfl | hother
  · exact .inl rfl
  · obtain ⟨entry, hentry, rfl⟩ := List.mem_map.mp hother
    have hlt := OrderedMap.popFirst_lt h entry hentry
    have hfirst : admitted = customer.admitted :=
      hadmitted (admitted, customer) (by simp [hentries])
    have hother := hadmitted entry (by simp [hentries, hentry])
    rw [← hfirst, ← hother]
    exact .inr hlt

/-- A worker that one change does not concern keeps its job. -/
theorem Carries.set {operating next index cell cell' assignment}
    (h : Carries operating index assignment customer)
    (hcell : operating.roles[position]? = some cell)
    (hafter : next.roles = operating.roles.set position cell')
    (hother : customer ∉ customersOf cell.member) : Carries next index assignment customer := by
  obtain ⟨frame, current, assigned, hbusy, hcustomer, hrest⟩ := h
  refine ⟨frame, current, assigned, ?_, hcustomer, hrest⟩
  have hne : position ≠ index := by
    rintro rfl
    obtain rfl := Option.some.inj (hcell.symm.trans hbusy)
    exact hother (List.mem_singleton.mpr hcustomer.symm)
  rw [hafter]
  exact (List.getElem?_set_ne hne).trans hbusy

/-- **Every assignment so far** is of the job that waited first in its role when the
transition began. -/
def Hands (begun : KeyedOperating R) (turn : Turn R) : Prop :=
  ∀ assignment ∈ turn.actions.workerAssignments, ∃ position cell customer,
    begun.roles[position]? = some cell ∧ IsFirst cell customer ∧
      Carries turn.operating position assignment customer

theorem Seats.assignments {doomed} (h : Seats turn position frame doomed after) :
    after.actions.workerAssignments = turn.actions.workerAssignments ∧
      after.pool.assignments = turn.pool.assignments := by
  cases h with
  | clear =>
    refine ⟨?_, rfl⟩
    show (removeBindings _ (returnQueue _ _ _)).workerAssignments = _
    rw [removeBindings_proj (f := KeyedActions.workerAssignments) (fun _ _ => rfl),
      returnQueue_proj (f := KeyedActions.workerAssignments) (fun _ _ _ => rfl)]
  | _ => exact ⟨rfl, rfl⟩

theorem Disposes.assignments (h : Disposes frame actions customer actions' frame') :
    actions'.workerAssignments = actions.workerAssignments := by
  cases h <;> rfl

theorem Vacates.assignments {restored}
    (h : Vacates event pool actions frame restored state pool' actions' frame') :
    actions'.workerAssignments = actions.workerAssignments ∧
      pool'.assignments = pool.assignments := by
  cases h with
  | interrupted hhalts hdisposes => exact ⟨hdisposes.assignments, rfl⟩
  | _ => exact ⟨rfl, rfl⟩

/-- The event is not a submission. -/
def KeyedEvent.NoSubmit (event : KeyedEvent R) : Prop :=
  ∀ submission key payload customer, event ≠ .command (.submit submission key payload customer)

/-- **Every move but a submission hands out the job that waited first.** -/
theorem Move.hands (h : Move event roster marks before after)
    (hsubmit : event.NoSubmit)
    (hadmitted : ∀ cell ∈ roster.roles, Admitted cell.queue)
    (hapart : ∀ cell ∈ roster.roles, ∀ job ∈ cell.queue.values,
      ∀ position, ¬ Works roster position job)
    (hhands : Hands roster before) : Hands roster after := by
  have hsame (hassignments : after.actions.workerAssignments = before.actions.workerAssignments)
      (hcarries : ∀ position assignment customer,
        (∀ index, ¬ Works roster index customer) →
        Carries before.operating position assignment customer →
        Carries after.operating position assignment customer) : Hands roster after := by
    intro assignment hmem
    rw [hassignments] at hmem
    obtain ⟨position, cell, customer, hcell, hfirst, hcarried⟩ := hhands assignment hmem
    exact ⟨position, cell, customer, hcell, hfirst, hcarries position assignment customer
      (hapart cell (List.mem_of_getElem? hcell) customer hfirst.1) hcarried⟩
  have hput {position : ℕ} {cell cell' : RoleCell R}
      (hcell : before.operating.roles[position]? = some cell)
      (hafter : after.operating.roles = before.operating.roles.set position cell')
      (hworks : ∀ customer ∈ customersOf cell.member, Works roster position customer)
      (hassignments : after.actions.workerAssignments = before.actions.workerAssignments) :
      Hands roster after := by
    refine hsame hassignments fun index assignment customer hnot hcarried => ?_
    exact hcarried.set hcell hafter fun hmem => hnot position (hworks customer hmem)
  cases h with
  | note | spend | manage => exact hsame rfl fun _ _ _ _ hcarried => hcarried
  | reject reason hevent | enqueue hevent | dispatch hevent => exact absurd hevent (hsubmit _ _ _ _)
  | shift hcell haims hshift =>
    -- A worker that joins a fact keeps its job under the same correlation.
    have hjoin {position : ℕ} {frame : Frame R} {current : CurrentWorker R.workers}
        {assigned next : AssignedJob R.workers}
        (hbusy : before.operating.roles[position]?
          = some (frame.cell (.worker current (.busy assigned))))
        (hcustomer : next.customer = assigned.customer)
        (hcorrelation : next.correlation = assigned.correlation) :
        Hands roster (before.put position (frame.cell (.worker current (.busy next)))) := by
      intro assignment hmem
      obtain ⟨index, cell, customer, hfrom, hfirst, frame', current', assigned', hget, hrest⟩ :=
        hhands assignment hmem
      refine ⟨index, cell, customer, hfrom, hfirst, ?_⟩
      by_cases hindex : position = index
      · subst hindex
        have hlt := (List.getElem?_eq_some_iff.mp hbusy).1
        have heq := Option.some.inj (hbusy.symm.trans hget)
        simp only [Frame.cell, RoleCell.mk.injEq, Member.mk.injEq, MemberState.worker.injEq,
          WorkerPhase.busy.injEq] at heq
        obtain ⟨⟨-, -, rfl, rfl⟩, -⟩ := heq
        refine ⟨frame, current, next, List.getElem?_set_self hlt, ?_⟩
        rw [hcustomer, hcorrelation]
        exact hrest
      · exact ⟨frame', current', assigned', (List.getElem?_set_ne hindex).trans hget, hrest⟩
    cases hshift with
    | joined hcustomer hcorrelation | exited hevent hchild hcustomer hcorrelation =>
      exact hjoin hcell hcustomer hcorrelation
    | _ => exact hput hcell rfl (fun _ hmem => absurd hmem List.not_mem_nil) rfl
  | establish hcell | permit _ _ hcell | authorize hcell | ready hcell | refuse hcell
  | serve _ hcell => exact hput hcell rfl (fun _ hmem => absurd hmem List.not_mem_nil) rfl
  | @fill _ position admitted frame cell current customer queue assignment assignments hcell haims
      hstart hqueue hfirst hissue =>
    intro other hmem
    rcases List.mem_append.mp hmem with hmem | hmem
    · obtain ⟨index, cell', customer', hfrom, hfirst', hcarried⟩ := hhands other hmem
      exact ⟨index, cell', customer', hfrom, hfirst',
        hcarried.set hcell rfl fun hmem => absurd hmem List.not_mem_nil⟩
    · obtain rfl := List.mem_singleton.mp hmem
      have hlt := (List.getElem?_eq_some_iff.mp hcell).1
      rw [← hqueue] at hfirst
      exact ⟨position, cell, customer, hstart,
        isFirst_of_popFirst (hadmitted cell (List.mem_of_getElem? hstart)) hfirst,
        _, current, _, List.getElem?_set_self hlt, rfl, rfl, rfl, rfl, rfl⟩
  | complete result hcell haims hworks =>
    refine hput hcell rfl (fun customer hmem => ?_) rfl
    obtain rfl := List.mem_singleton.mp hmem
    exact hworks
  | quarantine shutdown hcell haims hworks hstop hdisposes =>
    refine hput hcell rfl (fun customer hmem => ?_) hdisposes.assignments
    obtain rfl := List.mem_singleton.mp hmem
    exact hworks
  | turnover hcell haims hworks hvacates hseats =>
    obtain ⟨cell, hroles, -⟩ := hseats.roles
    exact hput hcell hroles hworks (hseats.assignments.1.trans hvacates.assignments.1)

/-! ### The bound of a role -/

/-- The jobs of a role: those that wait, and the one its worker has. -/
def RoleCell.load (cell : RoleCell R) : ℕ :=
  cell.queue.length + if isBusy cell.member then 1 else 0

/-- A role has one job more than its backlog holds at most. -/
def WithinBacklog (operating : KeyedOperating R) : Prop :=
  ∀ cell ∈ operating.roles, cell.load ≤ cell.capacity + 1

theorem Disposes.length_le (h : Disposes frame actions customer actions' frame') :
    frame'.queue.length ≤ frame.queue.length + 1 := by
  cases h with
  | completed | returned => exact Nat.le_succ _
  | requeued => exact OrderedMap.length_insert_le _ _ _

/-- A member that gives its place up leaves no more jobs than it had. -/
theorem Vacates.length_le {restored}
    (h : Vacates event pool actions frame restored state pool' actions' frame') :
    frame'.queue.length ≤ (frame.cell state).load := by
  cases h with
  | interrupted hhalts hdisposes => exact hdisposes.length_le
  | _ => exact Nat.le_add_right _ _

/-- What is seated in a place has no more jobs than were left there. -/
theorem Seats.load_le {doomed} (h : Seats turn position frame doomed after) :
    ∃ cell, after.operating.roles = turn.operating.roles.set position cell ∧
      cell.capacity = frame.capacity ∧ cell.load ≤ frame.queue.length := by
  cases h with
  | clear => exact ⟨_, rfl, rfl, Nat.zero_le _⟩
  | _ => exact ⟨_, rfl, rfl, le_rfl⟩

/-- **Only a submission adds a job to a role.** -/
theorem Move.load_le (h : Move event roster marks before after)
    (hsubmit : event.NoSubmit) :
    after.operating.roles = before.operating.roles ∨
    ∃ position cell cell', before.operating.roles[position]? = some cell ∧
      after.operating.roles = before.operating.roles.set position cell' ∧
      cell'.capacity = cell.capacity ∧ cell'.load ≤ cell.load := by
  have hlength {queue rest : KeyedQueue R} {entry : ℕ × CustomerJob R.workers}
      (hfirst : queue.popFirst = some (entry, rest)) : rest.length + 1 = queue.length := by
    rw [OrderedMap.length, OrderedMap.length, OrderedMap.popFirst_entries hfirst, List.length_cons]
  cases h with
  | note | spend | manage => exact .inl rfl
  | reject reason hevent | enqueue hevent | dispatch hevent => exact absurd hevent (hsubmit _ _ _ _)
  | shift hcell haims hshift =>
    refine .inr ⟨_, _, _, hcell, rfl, rfl, ?_⟩
    cases hshift <;> exact le_rfl
  | establish hcell | permit _ _ hcell | authorize hcell | ready hcell | serve _ hcell =>
    exact .inr ⟨_, _, _, hcell, rfl, rfl, le_rfl⟩
  | fill hcell haims hstart hqueue hfirst =>
    exact .inr ⟨_, _, _, hcell, rfl, rfl, (hlength hfirst).le⟩
  | refuse hcell haims hfirst =>
    refine .inr ⟨_, _, _, hcell, rfl, rfl, ?_⟩
    exact (Nat.le_succ _).trans (hlength hfirst).le
  | complete result hcell => exact .inr ⟨_, _, _, hcell, rfl, rfl, Nat.le_succ _⟩
  | quarantine shutdown hcell haims hworks hstop hdisposes =>
    refine .inr ⟨_, _, _, hcell, rfl, ?_, hdisposes.length_le⟩
    cases hdisposes <;> rfl
  | turnover hcell haims hworks hvacates hseats =>
    obtain ⟨cell, hroles, hcapacity, hload⟩ := hseats.load_le
    exact .inr ⟨_, _, cell, hcell, hroles, hcapacity.trans hvacates.frame.2,
      hload.trans hvacates.length_le⟩

theorem Move.withinBacklog (h : Move event roster marks before after)
    (hsubmit : event.NoSubmit)
    (hwithin : WithinBacklog before.operating) : WithinBacklog after.operating := by
  unfold WithinBacklog
  rcases h.load_le hsubmit with hsame | ⟨position, cell, cell', hcell, hafter, hcapacity, hload⟩
  · rw [hsame]
    exact hwithin
  · rw [hafter]
    refine Roster.forall_mem_set hwithin ?_
    rw [hcapacity]
    exact hload.trans (hwithin cell (List.mem_of_getElem? hcell))

/-- A role takes a waiting job only where its backlog has room. -/
theorem length_lt_of_admission {cell : RoleCell R} (h : cell.admissionTarget = .queue) :
    cell.queue.length < cell.capacity := by
  have htarget : cell.queueTarget = .queue := by
    unfold RoleCell.admissionTarget at h
    split at h <;> simp_all
  unfold RoleCell.queueTarget at htarget
  split at htarget
  · assumption
  · simp at htarget

/-- **A submission keeps the bound**: it waits where there is room, and it goes to an idle
worker where nothing waits. -/
theorem Submits.withinBacklog {operating : KeyedOperating R} {submission : ℕ}
    {key : R.Key} {payload : R.base.Job} {customer : R.base.Customer}
    (h : Submits pool operating submission key payload customer turn)
    (hserved : Conserving operating ∨ pool.assignments.issue = none)
    (hwithin : WithinBacklog operating) : WithinBacklog turn.operating := by
  cases h with
  | refused => exact hwithin
  | @queued position job cell evidence bindings jobs hcell htarget hjobs hbinds =>
    refine Roster.forall_mem_set hwithin ?_
    have hroom := length_lt_of_admission htarget
    have hinsert := OrderedMap.length_insert_le cell.queue job
      (⟨job, job, payload, ⟨evidence, customer⟩⟩ : CustomerJob R.workers)
    have hone : (if isBusy cell.member then 1 else 0) ≤ 1 := by split <;> omega
    show (cell.queue.insert job _).length + (if isBusy cell.member then 1 else 0)
      ≤ cell.capacity + 1
    omega
  | @assigned position job assignment frame current evidence bindings jobs assignments hcell hjobs
      hissue hbinds =>
    refine Roster.forall_mem_set hwithin ?_
    have hempty : frame.queue.entries = [] := by
      refine hserved.resolve_right ?_ _ (List.mem_of_getElem? hcell) rfl
      simp [hissue]
    show frame.queue.length + 1 ≤ frame.capacity + 1
    rw [OrderedMap.length, hempty, List.length_nil]
    omega

/-! ### Idle workers -/

/-- Once the correlations are exhausted, they stay exhausted. -/
theorem Move.exhausted (h : Move event roster marks before after)
    (hissue : before.pool.assignments.issue = none) : after.pool.assignments.issue = none := by
  cases h with
  | fill hcell haims hstart hqueue hfirst hsome | dispatch hevent hcell hjobs hsome =>
    simp [hissue] at hsome
  | turnover hcell haims hworks hvacates hseats =>
    rw [hseats.assignments.2, hvacates.assignments.2]
    exact hissue
  | _ => exact hissue

/-! ### Other roles -/

/-- **The roles an event is not about** still have the jobs they had when the transition
began. -/
def Undisturbed (event : KeyedEvent R) (begun operating : KeyedOperating R) : Prop :=
  ∀ (position : ℕ) (cell : RoleCell R), begun.roles[position]? = some cell →
    ¬ Concerns event cell.member →
    ∃ cell' : RoleCell R, operating.roles[position]? = some cell' ∧ cell'.queue = cell.queue ∧
      heldAssignments cell'.member = heldAssignments cell.member

/-- **Every move but a submission leaves the jobs of other roles alone.** -/
theorem Move.undisturbed (h : Move event roster marks before after)
    (hsubmit : event.NoSubmit)
    (hothers : Undisturbed event roster before.operating) :
    Undisturbed event roster after.operating := by
  have hput {position : ℕ} {cell cell' : RoleCell R}
      (hcell : before.operating.roles[position]? = some cell)
      (hafter : after.operating.roles = before.operating.roles.set position cell')
      (hsame : Aims event roster position ∨
        (cell'.queue = cell.queue ∧ heldAssignments cell'.member = heldAssignments cell.member)) :
      Undisturbed event roster after.operating := by
    intro index old hold hnot
    obtain ⟨current, hcurrent, hqueue, hheld⟩ := hothers index old hold hnot
    rw [hafter]
    by_cases hindex : position = index
    · subst hindex
      have hlt := (List.getElem?_eq_some_iff.mp hcell).1
      obtain rfl := Option.some.inj (hcell.symm.trans hcurrent)
      rcases hsame with ⟨aimed, haimed, hconcerns⟩ | ⟨hqueue', hheld'⟩
      · obtain rfl := Option.some.inj (hold.symm.trans haimed)
        exact absurd hconcerns hnot
      · exact ⟨cell', List.getElem?_set_self hlt, hqueue'.trans hqueue, hheld'.trans hheld⟩
    · exact ⟨current, (List.getElem?_set_ne hindex).trans hcurrent, hqueue, hheld⟩
  cases h with
  | note | spend | manage => exact hothers
  | reject reason hevent | enqueue hevent | dispatch hevent => exact absurd hevent (hsubmit _ _ _ _)
  | establish hcell | permit _ _ hcell | authorize hcell | ready hcell | serve _ hcell =>
    exact hput hcell rfl (.inr ⟨rfl, rfl⟩)
  | shift hcell haims | fill hcell haims | refuse hcell haims | complete _ hcell haims =>
    exact hput hcell rfl (.inl haims)
  | quarantine shutdown hcell haims => exact hput hcell rfl (.inl haims)
  | turnover hcell haims hworks hvacates hseats =>
    obtain ⟨cell, hroles, -⟩ := hseats.roles
    exact hput hcell hroles (.inl haims)

/-! ### Leaving -/

/-- A pool that leaves assigns nothing. -/
theorem Leaves.assignments {acted} (h : Leaves turn acted) :
    acted.actions.workerAssignments = turn.actions.workerAssignments := by
  have hretired (ids) : (turn.retired ids).2.workerAssignments
      = turn.actions.workerAssignments := by
    rw [Turn.retired, retireRoles_proj (f := KeyedActions.workerAssignments) (fun _ _ => rfl)
      (fun _ _ _ => rfl) (fun _ _ => rfl),
      removeBindings_proj (f := KeyedActions.workerAssignments) (fun _ _ => rfl)]
  cases h with
  | exhausted => exact hretired none
  | retire | stop => exact hretired _

/-- A retiring pool assigns nothing. -/
theorem Retires.assignments {members deadline acted}
    (h : Retires pool members deadline event acted) : acted.actions.workerAssignments = [] := by
  rcases h.ends with ⟨wake, step, hwaning, -, hactions, -⟩ | rfl
  · rw [hactions]
    refine hwaning.preserves (motive := fun wake => wake.actions.workerAssignments = []) ?_ rfl
    intro before after hwane hnone
    cases hwane <;> exact hnone
  · rfl

theorem Batches.assignments {left acted} (h : Batches event left acted) :
    acted.actions.workerAssignments = left.actions.workerAssignments := by
  cases h with
  | done => rfl
  | retires hstate hretires =>
    show left.actions.workerAssignments ++ _ = _
    rw [hretires.assignments, List.append_nil]
  | returned hevent hstate => exact List.append_nil _

/-! ### Whole runs -/

/-- **The assignments of one transition**: each is of the job that waited first in its role
when the transition began, or of a submission to a role where nothing waited. -/
def Entry.AssignsFirst (entry : Entry R) (before : KeyedOperating R) : Prop :=
  ∀ assignment ∈ entry.actions.workerAssignments, ∃ position cell customer,
    before.roles[position]? = some cell ∧
    (IsFirst cell customer ∨ cell.queue.entries = [] ∧ ∃ submission key,
      entry.event = .command (.submit submission key customer.payload customer.customer.route)) ∧
    ∀ after, entry.after.state = .operating after → Carries after position assignment customer

/-- **The transition strands a job.** -/
def Entry.Stranding (entry : Entry R) : Prop :=
  ∃ operating, entry.before.state = .operating operating ∧
    Strands entry.before operating entry.event

/-- What a pool keeps so that its roles work in order. -/
structure Orderly (pool : KeyedPool R) : Prop where
  sound : Sound pool
  books : ∃ ledger, OnBooks pool ledger
  served : ∀ operating, pool.state = .operating operating →
    Conserving operating ∨ pool.assignments.issue = none
  within : ∀ operating, pool.state = .operating operating → WithinBacklog operating

section Step

variable {pool : KeyedPool R} {operating : KeyedOperating R}

/-- An event is a submission or it is not. -/
theorem submission_or (event : KeyedEvent R) :
    (∃ submission key payload customer,
      event = .command (.submit submission key payload customer)) ∨
    ∀ submission key payload customer,
      event ≠ .command (.submit submission key payload customer) := by
  by_cases h : ∃ submission key payload customer,
      event = .command (.submit submission key payload customer)
  · exact .inl h
  · exact .inr fun submission key payload customer heq => h ⟨submission, key, payload, customer, heq⟩

/-- The moves of every event but a submission. -/
theorem Orderly.chain {turn} (h : Orderly pool) (hstate : pool.state = .operating operating)
    (hsubmit : event.NoSubmit)
    (hchain : Chain event (Turn.begin { pool with state := .stopped } operating) marks turn) :
    Hands operating turn ∧ WithinBacklog turn.operating ∧
      Undisturbed event operating turn.operating := by
  obtain ⟨ledger, hbooks⟩ := h.books
  have hadmitted := (hbooks.order operating hstate).1
  refine hchain.preserves (motive := fun turn => Hands operating turn ∧
    WithinBacklog turn.operating ∧ Undisturbed event operating turn.operating) ?_ ⟨?_, ?_, ?_⟩
  · rintro marks before after hmove ⟨hhands, hwithin, hothers⟩
    refine ⟨hmove.hands hsubmit hadmitted ?_ hhands, hmove.withinBacklog hsubmit hwithin,
      hmove.undisturbed hsubmit hothers⟩
    intro cell hmem job hjob position
    exact hbooks.not_works hstate hmem hjob
  · intro assignment hmem
    cases hmem
  · exact h.within operating hstate
  · intro position cell hcell _
    exact ⟨cell, hcell, rfl, rfl⟩

theorem act_submit {submission key payload customer} (hstate : pool.state = .operating operating) :
    act pool (.command (.submit submission key payload customer))
      = (acceptSubmission { pool with state := .stopped } operating submission key payload
        customer).operate := by
  simp only [act, hstate, operatingTransition]

/-- **An operating pool that operates on keeps its roles in order.** -/
theorem Orderly.operates {next} (h : Orderly pool) (hstate : pool.state = .operating operating)
    (hnext : (act pool event).state = .operating next) :
    WithinBacklog next ∧
      (Conserving next ∨ (act pool event).pool.assignments.issue = none) ∧
      (Conserving operating → ¬ Strands pool operating event → Conserving next) ∧
      ((∀ request, event ≠ .command request) → Undisturbed event operating next) := by
  have hacts := act_cases h.sound event
  have hserved := h.served operating hstate
  rcases hacts.operating_chain hstate hnext with ⟨idle, turn, hchain, hidle, heq, rfl⟩ |
    ⟨shutdowns, rfl, heq⟩
  · have hconserves : Conserving operating → ¬ Strands pool operating event →
        Conserving turn.operating := by
      intro hconserving hnot
      have hclean : idle = false := Bool.eq_false_iff.mpr fun hstrands => hnot (hidle hstrands)
      exact hchain.conserving hclean hconserving
    refine ⟨?_, ?_, hconserves, fun hevent => ?_⟩
    · rcases submission_or event with ⟨submission, key, payload, customer, rfl⟩ | hsubmit
      · rw [act_submit hstate] at heq
        have hsame := congrArg Acted.state heq
        obtain hoperating := KeyedPoolState.operating.inj hsame
        rw [← hoperating]
        exact (acceptSubmission_cases _ operating submission key payload customer).withinBacklog
          hserved (h.within operating hstate)
      · exact (h.chain hstate hsubmit hchain).2.1
    · rw [heq]
      by_cases hexhausted : pool.assignments.issue = none
      · exact .inr (hchain.preserves (motive := fun turn => turn.pool.assignments.issue = none)
          Move.exhausted hexhausted)
      · exact .inl (hconserves (hserved.resolve_right hexhausted) fun h => hexhausted h.1)
    · exact (h.chain hstate (fun _ _ _ _ => hevent _) hchain).2.2
  · refine ⟨h.within next hstate, ?_, fun hconserving _ => hconserving, fun _ => ?_⟩
    · rw [heq]
      exact hserved
    · intro position cell hcell _
      exact ⟨cell, hcell, rfl, rfl⟩

theorem Orderly.step (h : Orderly pool) (event : KeyedEvent R) :
    Orderly (pool.transition event).1 := by
  have hacts := act_cases h.sound event
  obtain ⟨ledger, hbooks⟩ := h.books
  refine ⟨hacts.sound h.sound, hacts.onBooks hbooks, fun next hnext => ?_, fun next hnext => ?_⟩
  · obtain ⟨operating, hstate⟩ := hacts.operated hnext
    exact (h.operates hstate hnext).2.1
  · obtain ⟨operating, hstate⟩ := hacts.operated hnext
    exact (h.operates hstate hnext).1

/-- **A submission is assigned at once only where nothing waits.** -/
theorem Submits.assignsFirst {submission key payload customer turn}
    (h : Submits pool operating submission key payload customer turn)
    (hserved : Conserving operating ∨ pool.assignments.issue = none) :
    ∀ assignment ∈ turn.actions.workerAssignments, ∃ position cell job,
      operating.roles[position]? = some cell ∧ cell.queue.entries = [] ∧ job.payload = payload ∧
        job.customer.route = customer ∧ Carries turn.operating position assignment job := by
  intro assignment hmem
  cases h with
  | refused => cases hmem
  | queued => cases hmem
  | @assigned position job _ frame current evidence bindings jobs assignments hcell hjobs hissue
      hbinds =>
    obtain rfl := List.mem_singleton.mp hmem
    have hempty : frame.queue.entries = [] := by
      refine hserved.resolve_right ?_ _ (List.mem_of_getElem? hcell) rfl
      simp [hissue]
    have hlt := (List.getElem?_eq_some_iff.mp hcell).1
    exact ⟨position, _, ⟨job, job, payload, ⟨evidence, customer⟩⟩, hcell, hempty, rfl, rfl, frame,
      current, _, List.getElem?_set_self hlt, rfl, rfl, rfl, rfl, rfl⟩

/-- **Every other event assigns what waited first.** -/
theorem Acts.assignsFirst {acted} (hacts : Acts pool event acted) (h : Orderly pool)
    (hstate : pool.state = .operating operating)
    (hsubmit : event.NoSubmit) :
    ∀ assignment ∈ acted.actions.workerAssignments, ∃ position cell customer,
      operating.roles[position]? = some cell ∧ IsFirst cell customer ∧
        ∀ after, acted.state = .operating after → Carries after position assignment customer := by
  intro assignment hmem
  have hfirst {marks : Marks} {turn : Turn R}
      (hchain : Chain event (Turn.begin { pool with state := .stopped } operating) marks turn)
      (hassigned : assignment ∈ turn.actions.workerAssignments) :
      ∃ position cell customer, operating.roles[position]? = some cell ∧ IsFirst cell customer ∧
        Carries turn.operating position assignment customer :=
    (h.chain hstate hsubmit hchain).1 assignment hassigned
  cases hacts with
  | operating hbefore hoperates hsettles =>
    obtain rfl := KeyedPoolState.operating.inj (hstate.symm.trans hbefore)
    rcases hsettles.cases with ⟨idle, turn, hchain, -, rfl⟩ |
      ⟨marks, turn, left, hchain, hleaves, hbatches⟩ | ⟨shutdowns, rfl⟩
    · obtain ⟨position, cell, customer, hcell, hwaits, hcarries⟩ := hfirst hchain hmem
      refine ⟨position, cell, customer, hcell, hwaits, ?_⟩
      rintro _ ⟨⟩
      exact hcarries
    · rw [hbatches.assignments, hleaves.assignments] at hmem
      obtain ⟨position, cell, customer, hcell, hwaits, -⟩ := hfirst hchain hmem
      exact ⟨position, cell, customer, hcell, hwaits,
        fun after hafter => absurd hafter (hbatches.state hleaves after)⟩
    · cases hmem
  | retiring hbefore => simp [hstate] at hbefore
  | idle hnot => exact absurd hstate (hnot operating)

/-- **Every transition assigns what waited first.** -/
theorem Orderly.assignsFirst (h : Orderly pool) (event : KeyedEvent R)
    (hstate : pool.state = .operating operating) :
    (pool.entry event).AssignsFirst operating := by
  intro assignment hmem
  rcases submission_or event with ⟨submission, key, payload, customer, rfl⟩ | hsubmit
  · have hact : act pool (.command (.submit submission key payload customer)) = _ :=
      act_submit hstate
    have hsubmits := acceptSubmission_cases { pool with state := .stopped } operating submission key
      payload customer
    have hmem' : assignment ∈ (act pool _).actions.workerAssignments := hmem
    rw [hact] at hmem'
    obtain ⟨position, cell, job, hcell, hempty, rfl, rfl, hcarries⟩ :=
      hsubmits.assignsFirst (h.served operating hstate) assignment hmem'
    refine ⟨position, cell, job, hcell, .inr ⟨hempty, submission, key, rfl⟩, fun after hafter => ?_⟩
    have hnext : (act pool _).state = .operating after := hafter
    rw [hact] at hnext
    obtain rfl := KeyedPoolState.operating.inj hnext
    exact hcarries
  · obtain ⟨position, cell, customer, hcell, hwaits, hcarries⟩ :=
      (act_cases h.sound event).assignsFirst h hstate hsubmit assignment hmem
    exact ⟨position, cell, customer, hcell, .inl hwaits, hcarries⟩

/-- A pool that does not operate assigns nothing. -/
theorem Acts.assigns_nothing {acted} (hacts : Acts pool event acted)
    (hnot : ∀ operating, pool.state ≠ .operating operating) :
    acted.actions.workerAssignments = [] := by
  cases hacts with
  | operating hstate => exact absurd hstate (hnot _)
  | retiring hstate hlent hretires => exact hretires.assignments
  | idle => rfl

end Step

section

variable (config : Config R) (selector : R.Key → R.base.Role) (prepared : PreparedRoster R)
    (events : List (KeyedEvent R))

/-- No job waits in a pool that has just begun. -/
theorem begin_queues (operating : KeyedOperating R)
    (hstate : (Journal.begin config selector prepared).pool.state = .operating operating) :
    ∀ cell ∈ operating.roles, cell.queue = OrderedMap.empty := by
  rcases begin_cases config selector prepared with ⟨_, heq⟩ |
    ⟨_, _, _, _, roles, -, -, heq, -, hborn⟩
  · rw [heq] at hstate
    cases hstate
  · rw [heq] at hstate
    obtain rfl := KeyedPoolState.operating.inj hstate
    exact fun cell hmem => (hborn cell hmem).2.1

theorem begin_conserving (operating : KeyedOperating R)
    (hstate : (Journal.begin config selector prepared).pool.state = .operating operating) :
    Conserving operating := by
  intro cell hmem _
  rw [begin_queues config selector prepared operating hstate cell hmem]
  rfl

theorem begin_orderly : Orderly (Journal.begin config selector prepared).pool := by
  refine ⟨begin_sound config selector prepared,
    ⟨_, (begin_audit config selector prepared).toOnBooks⟩,
    fun operating hstate => .inl (begin_conserving config selector prepared operating hstate), ?_⟩
  intro operating hstate cell hmem
  have hone : (if isBusy cell.member then 1 else 0) ≤ 1 := by split <;> omega
  have hnone : cell.queue.length = 0 := by
    rw [begin_queues config selector prepared operating hstate cell hmem]
    rfl
  unfold RoleCell.load
  omega

/-- No step of a run strands a job: no worker of its operating states is idle beside one. -/
theorem run_conserving :
    (∀ entry ∈ (run config selector prepared events).entries, ¬ entry.Stranding) →
    ∀ operating, (run config selector prepared events).pool.state = .operating operating →
      Conserving operating := by
  refine (run_invariant (motive := fun journal => Orderly journal.pool ∧
    ((∀ entry ∈ journal.entries, ¬ entry.Stranding) → ∀ operating,
      journal.pool.state = .operating operating → Conserving operating)) config selector prepared
    ?_ ?_ events).2
  · exact ⟨begin_orderly config selector prepared,
      fun _ => begin_conserving config selector prepared⟩
  · rintro journal event ⟨horderly, hconserving⟩
    refine ⟨horderly.step event, fun hsteps next hnext => ?_⟩
    rw [Journal.step_entries] at hsteps
    obtain ⟨operating, hstate⟩ := (act_cases horderly.sound event).operated hnext
    have hbefore := hconserving (fun entry hmem => hsteps entry (List.mem_append_left _ hmem))
      operating hstate
    refine (horderly.operates hstate hnext).2.2.1 hbefore fun hstrands => ?_
    exact hsteps _ (List.mem_append_right _ (List.mem_singleton.mpr rfl))
      ⟨operating, hstate, hstrands⟩

/-- **Order, bound and work conservation of every role.**  In every run no worker is idle
beside a waiting job, as long as no step strands one; no role has more than one job beyond its
backlog; every assignment from a queue is of the job admitted first; a pool that does not
operate assigns nothing; and an event changes the jobs of no role it is not about. -/
theorem run_role_order :
    ((∀ entry ∈ (run config selector prepared events).entries, ¬ entry.Stranding) →
      ∀ operating, (run config selector prepared events).pool.state = .operating operating →
        ∀ cell ∈ operating.roles, cell.queue.entries = [] ∨ isIdle cell.member = false) ∧
    (∀ operating, (run config selector prepared events).pool.state = .operating operating →
      ∀ cell ∈ operating.roles,
        cell.queue.length + (if isBusy cell.member then 1 else 0) ≤ cell.capacity + 1) ∧
    ∀ entry ∈ (run config selector prepared events).entries,
      (∀ before, entry.before.state = .operating before → entry.AssignsFirst before ∧
        ∀ after, entry.after.state = .operating after →
          (∀ request, entry.event ≠ .command request) → Undisturbed entry.event before after) ∧
      ((∀ before, entry.before.state ≠ .operating before) →
        entry.actions.workerAssignments = []) := by
  have hrun := run_entries (G := Orderly)
    (P := fun entry => Orderly entry.before ∧ entry = entry.before.entry entry.event) config
    selector prepared (begin_orderly config selector prepared)
    (fun pool event h => ⟨h.step event, h, rfl⟩) events
  obtain ⟨horderly, hentries⟩ := hrun
  refine ⟨fun hsteps operating hstate cell hmem => ?_, horderly.within, fun entry hentry => ?_⟩
  · have hconserving := run_conserving config selector prepared events hsteps operating hstate
    cases hidle : isIdle cell.member with
    | true => exact .inl (hconserving cell hmem hidle)
    | false => exact .inr rfl
  · obtain ⟨hbefore, heq⟩ := hentries entry hentry
    rw [heq]
    refine ⟨fun before hstate => ⟨hbefore.assignsFirst entry.event hstate, ?_⟩,
      (act_cases hbefore.sound entry.event).assigns_nothing⟩
    exact fun after hafter => (hbefore.operates hstate hafter).2.2.2

/-! ### A run that exhausts its correlations

One worker serves key `0` of one role until no assignment correlation is left.  Two jobs
are interrupted and assigned again first, so that job identifiers outlast the
correlations. -/

/-- What further events make of the pool of a run. -/
theorem run_append_pool (events more : List (KeyedEvent R)) :
    (run config selector prepared (events ++ more)).pool
      = more.foldl (fun pool event => (pool.transition event).1)
        (run config selector prepared events).pool := by
  unfold run
  rw [List.foldl_append]
  generalize events.foldl Journal.step (Journal.begin config selector prepared) = journal
  induction more generalizing journal with
  | nil => rfl
  | cons event more ih => exact ih (journal.step event)

end

namespace Keys

/-- Interrupted jobs are assigned again. -/
def retrying : Config keys := { config permanent with interruption := .retry }

/-- Customer `8` submits a job for key `0`. -/
def submission (payload : ℕ) : KeyedEvent keys := .command (.submit payload 0 payload 8)

/-- The worker received an assignment. -/
def receipt (assignment : ℕ) (worker : WorkerAttempt) : KeyedEvent keys :=
  .assignmentSettled (.attempted (.accepted ⟨assignment, worker⟩))

/-- The worker completes an assignment. -/
def completion (assignment : ℕ) (worker : WorkerAttempt) (token : ℕ) : KeyedEvent keys :=
  .workerCompleted ⟨worker.creation, ⟨0, ⟨assignment, worker, token⟩⟩⟩

/-- The worker of role `0` is created, initializes and starts; `grant` is the token of its
grant. -/
def begins (worker : WorkerAttempt) (kind : CreationKind) (grant : ℕ) : List (KeyedEvent keys) :=
  [.workerCreationsSettled (.settled
      [.attempted (.accepted (.established worker.creation kind worker.creation))]),
    .workerInitialization (.readyForStartup worker ⟨worker, worker.token + 1⟩ ()
      ⟨worker, ⟨worker, worker.token + 1⟩, worker.creation⟩),
    .workerStartupReported ⟨worker, ⟨worker, grant⟩, .started⟩,
    .workerStartupReported ⟨worker, ⟨worker, grant⟩, .ready ()⟩]

/-- A worker stops, and its replacement is prepared. -/
def departs (creation ticket : ℕ) : List (KeyedEvent keys) :=
  [.workerStopped ⟨creation, .ok .normal, creation⟩,
    .workerPreparationStarted (.attempted (.accepted ticket)),
    .workerPreparationReturned ⟨ticket, .prepared () [⟨0, (), ()⟩]⟩]

/-- The first job is assigned three times, to three workers. -/
def retries : List (KeyedEvent keys) :=
  begins ⟨1, 0⟩ .birth 3 ++ [submission 7, receipt 1 ⟨1, 0⟩] ++ departs 1 5
    ++ begins ⟨2, 6⟩ (.replacement 1) 8 ++ [receipt 2 ⟨2, 6⟩] ++ departs 2 10
    ++ begins ⟨3, 11⟩ (.replacement 2) 13 ++ [receipt 3 ⟨3, 11⟩, completion 3 ⟨3, 11⟩ 14]

/-- One more job, from its submission to its completion, after `n` such jobs. -/
def serves (n : ℕ) : List (KeyedEvent keys) :=
  [submission 7, receipt (4 + n) ⟨3, 11⟩, completion (4 + n) ⟨3, 11⟩ (15 + n)]

/-- **The run that strands a job**: the last correlation goes to a job behind which two more
wait, and that job completes. -/
def exhausting : List (KeyedEvent keys) :=
  retries ++ ((List.range (2 ^ 64 - 5)).flatMap serves ++
    [submission 7, submission 7, submission 7, receipt (2 ^ 64 - 1) ⟨3, 11⟩,
      completion (2 ^ 64 - 1) ⟨3, 11⟩ (2 ^ 64 + 10)])

/-- A pool of one role stands like this, with these counters. -/
structure Stands (cell : RoleCell keys) (table : BindingTable ℕ ℕ) (jobs assignments : Option ℕ)
    (heap : ℕ) (pool : KeyedPool keys) : Prop where
  state : pool.state = .operating ⟨[cell], table⟩
  jobs : pool.jobs = ⟨jobs⟩
  assignments : pool.assignments = ⟨assignments⟩
  heap : pool.heap = heap

section Steps

variable {pool : KeyedPool keys} {frame : Frame keys} {current : CurrentWorker keys.workers}
  {table : BindingTable ℕ ℕ} {evidence : BindingEvidence ℕ} {jobs assignments : Option ℕ}
  {heap job assignment payload token : ℕ} {customer : CustomerJob keys.workers}

/-- An idle worker is assigned what is submitted. -/
theorem Stands.assigned (hbound : table.binding 0 = some evidence)
    (hrole : evidence.role = frame.role)
    (h : Stands (frame.cell (.worker current .idle)) table (some job) (some assignment) heap pool) :
    Stands (frame.cell (.worker current (.busy ⟨⟨job, job, payload, ⟨evidence, 8⟩⟩,
        ⟨assignment, current.attempt, heap⟩, .awaitingReceipt⟩))) table (Sequence.successor job)
      (Sequence.successor assignment) (heap + 1) (pool.transition (submission payload)).1 := by
  constructor <;>
    simp [KeyedPool.transition, act, submission, h.state, operatingTransition, acceptSubmission,
      proposeBinding, hbound, KeyedOperating.rolePosition, hrole, RoleCell.role, admitJob,
      Frame.cell, RoleCell.admissionTarget, h.jobs, h.assignments, h.heap, Sequence.issue,
      AssignmentSequence.assign, Turn.operate, Acted.next, KeyedOperating.put,
      AdmissionBinding.commit, AssignedJob.new, RoleCell.frame]

/-- What is submitted behind a busy worker waits. -/
theorem Stands.queued {assigned}
    (h : Stands (frame.cell (.worker current (.busy assigned))) table (some job) assignments heap
      pool) (hbound : table.binding 0 = some evidence) (hrole : evidence.role = frame.role)
    (hroom : frame.queue.length < frame.capacity) :
    Stands (Frame.cell { frame with
        queue := frame.queue.insert job ⟨job, job, payload, ⟨evidence, 8⟩⟩ }
        (.worker current (.busy assigned))) table (Sequence.successor job) assignments heap
      (pool.transition (submission payload)).1 := by
  constructor <;>
    simp [KeyedPool.transition, act, submission, h.state, operatingTransition, acceptSubmission,
      proposeBinding, hbound, KeyedOperating.rolePosition, hrole, RoleCell.role, admitJob,
      Frame.cell, RoleCell.admissionTarget, RoleCell.queueTarget, hroom, h.jobs, h.assignments,
      h.heap, Sequence.issue, Turn.operate, Acted.next, KeyedOperating.put,
      AdmissionBinding.commit]

theorem Stands.received (h : Stands (frame.cell (.worker current (.busy ⟨customer,
      ⟨assignment, current.attempt, token⟩, .awaitingReceipt⟩))) table jobs assignments heap pool) :
    Stands (frame.cell (.worker current (.busy ⟨customer, ⟨assignment, current.attempt, token⟩,
      .accepted⟩))) table jobs assignments heap
      (pool.transition (receipt assignment current.attempt)).1 := by
  constructor <;>
    simp [KeyedPool.transition, act, receipt, h.state, operatingTransition, settle,
      acceptAssignmentReceipt, KeyedOperating.assignmentReceiptPosition, KeyedOperating.find,
      AssignedJob.compareReceipt, AssignmentReceipt.compare, KeyedOperating.remove,
      AssignedJob.acceptReceipt, KeyedOperating.insert, Frame.cell, Acted.next, RoleCell.frame,
      h.jobs, h.assignments, h.heap]

/-- The worker of a completed job is filled. -/
theorem Stands.filled (h : Stands (frame.cell (.worker current (.busy ⟨customer,
      ⟨assignment, current.attempt, token⟩, .accepted⟩))) table jobs assignments heap pool) :
    (pool.transition (completion assignment current.attempt token)).1 =
      (fillRole ⟨{ pool with state := .stopped }, ⟨[frame.cell (.worker current .idle)], table⟩,
        KeyedActions.cont.deliver customer.customer.route
          (.completed customer.id customer.customer.binding 0)⟩ 0).operate.next := by
  simp [KeyedPool.transition, act, completion, h.state, operatingTransition, settle,
    acceptCompletion, KeyedOperating.completionPosition, KeyedOperating.find,
    AssignedJob.compareCompletion, CompletionCorrelation.compare, KeyedOperating.remove,
    AssignedJob.acceptCompletion, KeyedOperating.insert, Frame.cell, Acted.next, RoleCell.frame,
    completeAssignment, Turn.insert]

/-- Nothing waits: the worker is idle. -/
theorem Stands.rested (hempty : frame.queue = OrderedMap.empty)
    (h : Stands (frame.cell (.worker current (.busy ⟨customer,
      ⟨assignment, current.attempt, token⟩, .accepted⟩))) table jobs assignments heap pool) :
    Stands (frame.cell (.worker current .idle)) table jobs assignments heap
      (pool.transition (completion assignment current.attempt token)).1 := by
  rw [h.filled]
  obtain ⟨role, recoveries, queue, capacity⟩ := frame
  obtain rfl : queue = OrderedMap.empty := hempty
  exact ⟨rfl, h.jobs, h.assignments, h.heap⟩

/-- **Something waits, and no correlation is left**: the first job comes back and the worker
is idle beside the others. -/
theorem Stands.stranded {admitted first queue}
    (hfirst : frame.queue.popFirst = some ((admitted, first), queue))
    (h : Stands (frame.cell (.worker current (.busy ⟨customer,
      ⟨assignment, current.attempt, token⟩, .accepted⟩))) table jobs none heap pool) :
    Stands (Frame.cell { frame with queue := queue } (.worker current .idle)) table jobs none heap
      (pool.transition (completion assignment current.attempt token)).1 := by
  rw [h.filled]
  constructor <;>
    simp [fillRole, Frame.cell, hfirst, AssignmentSequence.assign, Sequence.issue, h.jobs,
      h.assignments, h.heap, Turn.operate, Acted.next, KeyedOperating.put]

end Steps

theorem retries_stands :
    ∃ table evidence, table.binding 0 = some evidence ∧ evidence.role = 0 ∧
      Stands (Frame.cell ⟨0, ⟨2⟩, OrderedMap.empty, 2⟩ (.worker ⟨⟨3, 11⟩, 3⟩ .idle)) table
        (some 2) (some 4) 15 (run retrying id (roles 1) retries).pool :=
  ⟨_, _, rfl, rfl, rfl, rfl, rfl, rfl⟩

theorem successor_eq {value} (h : value + 1 < 2 ^ 64) :
    Sequence.successor value = some (value + 1) := by
  rw [Sequence.successor, if_pos h]

section Serving

variable {table : BindingTable ℕ ℕ} {evidence : BindingEvidence ℕ} {frame : Frame keys} {n : ℕ}
  {pool : KeyedPool keys} (hbound : table.binding 0 = some evidence)
  (hrole : evidence.role = frame.role) (hempty : frame.queue = OrderedMap.empty)

include hbound hrole hempty

/-- One more job costs one job identifier, one correlation and one token. -/
theorem Stands.serves (hn : 5 + n < 2 ^ 64)
    (h : Stands (frame.cell (.worker ⟨⟨3, 11⟩, 3⟩ .idle)) table (some (2 + n)) (some (4 + n))
      (15 + n) pool) :
    Stands (frame.cell (.worker ⟨⟨3, 11⟩, 3⟩ .idle)) table (some (2 + (n + 1)))
      (some (4 + (n + 1))) (15 + (n + 1))
      ((serves n).foldl (fun pool event => (pool.transition event).1) pool) := by
  have hassigned : Stands _ table _ _ _ (pool.transition (submission 7)).1 :=
    h.assigned hbound hrole
  have hserved := hassigned.received.rested hempty
  rw [successor_eq (by omega), successor_eq (by omega)] at hserved
  exact hserved

/-- **Any number of jobs is served**, as long as there are correlations. -/
theorem Stands.all (count : ℕ) (hcount : 4 + count < 2 ^ 64)
    (h : Stands (frame.cell (.worker ⟨⟨3, 11⟩, 3⟩ .idle)) table (some 2) (some 4) 15 pool) :
    Stands (frame.cell (.worker ⟨⟨3, 11⟩, 3⟩ .idle)) table (some (2 + count)) (some (4 + count))
      (15 + count)
      (((List.range count).flatMap Keys.serves).foldl
        (fun pool event => (pool.transition event).1) pool) := by
  induction count with
  | zero => exact h
  | succ count ih =>
    rw [List.range_succ, List.flatMap_append, List.foldl_append, List.flatMap_singleton]
    exact (ih (by omega)).serves hbound hrole hempty (by omega)

/-- **The last correlation goes to a job behind which two more wait**, and when it completes
one of them is left. -/
theorem Stands.exhausts (hcapacity : frame.capacity = 2) (hn : 5 + n = 2 ^ 64)
    (h : Stands (frame.cell (.worker ⟨⟨3, 11⟩, 3⟩ .idle)) table (some (2 + n)) (some (4 + n))
      (15 + n) pool) :
    ∃ (left : Frame keys) (jobs : Option ℕ), left.queue.entries ≠ [] ∧
      Stands (left.cell (.worker ⟨⟨3, 11⟩, 3⟩ .idle)) table jobs none (15 + n + 1)
        ([submission 7, submission 7, submission 7, receipt (4 + n) ⟨3, 11⟩,
          completion (4 + n) ⟨3, 11⟩ (15 + n)].foldl
            (fun pool event => (pool.transition event).1) pool) := by
  have hlast : Sequence.successor (4 + n) = none := by
    rw [Sequence.successor, if_neg (by omega)]
  have hassigned : Stands _ table _ _ _ (pool.transition (submission 7)).1 :=
    h.assigned hbound hrole
  rw [successor_eq (by omega), hlast] at hassigned
  have hfirst : Stands _ table _ _ _ ((pool.transition (submission 7)).1.transition
      (submission 7)).1 :=
    hassigned.queued hbound hrole (by rw [hempty, hcapacity]; exact Nat.two_pos)
  rw [successor_eq (by omega), hempty] at hfirst
  have hsecond : Stands _ table _ _ _ (((pool.transition (submission 7)).1.transition
      (submission 7)).1.transition (submission 7)).1 :=
    hfirst.queued hbound hrole (by rw [hcapacity]; exact Nat.one_lt_two)
  have hpopped : ∀ first second : CustomerJob keys.workers, ∃ queue : KeyedQueue keys,
      ((OrderedMap.empty.insert (2 + n + 1) first).insert (2 + n + 1 + 1) second).popFirst
        = some ((2 + n + 1, first), queue) ∧ queue.entries ≠ [] := by
    intro first second
    have hentries : ((OrderedMap.empty.insert (2 + n + 1) first).insert (2 + n + 1 + 1)
        second).entries = [(2 + n + 1, first), (2 + n + 1 + 1, second)] := by
      simp [OrderedMap.insert, OrderedMap.empty, OrderedMap.place]
    generalize (OrderedMap.empty.insert (2 + n + 1) first).insert (2 + n + 1 + 1) second = queue
      at hentries
    obtain ⟨entries, ordered⟩ := queue
    obtain rfl : entries = _ := hentries
    exact ⟨_, rfl, List.cons_ne_nil _ _⟩
  obtain ⟨queue, hpop, hleft⟩ := hpopped _ _
  exact ⟨_, _, hleft, hsecond.received.stranded hpop⟩

end Serving

/-- **An idle worker stands beside a waiting job** at the end of the run that exhausts its
correlations. -/
theorem idle_beside_waiting_job :
    ¬ ∀ operating, (run retrying id (roles 1) exhausting).pool.state = .operating operating →
      ∀ cell ∈ operating.roles, cell.queue.entries = [] ∨ isIdle cell.member = false := by
  obtain ⟨table, evidence, hbound, hrole, hstands⟩ := retries_stands
  obtain ⟨left, jobs, hwaits, hstranded⟩ := (hstands.all hbound hrole rfl (2 ^ 64 - 5)
    (by omega)).exhausts hbound hrole rfl rfl (by omega)
  intro h
  have hstate : (run retrying id (roles 1) exhausting).pool.state
      = .operating ⟨[left.cell (.worker ⟨⟨3, 11⟩, 3⟩ .idle)], table⟩ := by
    rw [exhausting, run_append_pool, List.foldl_append]
    exact hstranded.state
  rcases h _ hstate _ List.mem_cons_self with hempty | hidle
  · exact hwaits hempty
  · cases hidle

end Keys

end Bombay.Keyed
