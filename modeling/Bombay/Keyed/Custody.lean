/-
# Custody of the customers' jobs in a keyed pool

Every accepted job waits in one queue, is with one busy worker, or was resolved by one
terminal outcome; until then it stays with the role of the binding it was admitted
under, whatever happens to that binding meanwhile, and its outcome carries the same
evidence.  A move changes one cell, and `Move.posts` says which jobs enter and leave it
there.  The ledger of the run follows from these postings.
-/

import Bombay.Keyed.Runs
import Bombay.Lib.Account

namespace Bombay.Keyed

open scoped List

variable {R : Router} {event : KeyedEvent R} {roster : KeyedOperating R} {marks : Marks}
  {before after : Turn R}

/-! ### Where jobs are -/

/-- The jobs of one cell: those that wait for its role, and that of its worker. -/
def RoleCell.held (cell : RoleCell R) : List (CustomerJob R.workers) :=
  cell.queue.values ++ customersOf cell.member

/-- The jobs an operating pool holds. -/
def KeyedOperating.held (operating : KeyedOperating R) : List (CustomerJob R.workers) :=
  operating.roles.flatMap RoleCell.held

/-- The jobs a pool holds. -/
def KeyedPool.held (pool : KeyedPool R) : List (CustomerJob R.workers) :=
  match pool.state with
  | .operating operating => operating.held
  | _ => []

variable {pool : KeyedPool R} {job : CustomerJob R.workers} {actions actions' : KeyedActions R}
    {cell : RoleCell R} {position : ℕ} {resolved added : List (CustomerJob R.workers)}
    {roles : List (RoleCell R)} {acted : Acted R}

theorem held_of_not_operating
    (h : ∀ operating, pool.state ≠ .operating operating) : pool.held = [] := by
  unfold KeyedPool.held
  split
  · rename_i operating hstate
    exact absurd hstate (h operating)
  · rfl

/-- The queue of a cell is keyed by admission. -/
def Admitted (queue : KeyedQueue R) : Prop := ∀ entry ∈ queue.entries, entry.1 = entry.2.admitted

theorem Admitted.insert {queue} (h : Admitted queue) (customer : CustomerJob R.workers) :
    Admitted (queue.insert customer.admitted customer) := by
  intro entry hentry
  rcases OrderedMap.mem_place hentry with rfl | hentry
  · rfl
  · exact h entry hentry

theorem Admitted.popFirst {queue rest : KeyedQueue R} {entry : ℕ × CustomerJob R.workers}
    (h : Admitted queue) (hfirst : queue.popFirst = some (entry, rest)) : Admitted rest := by
  intro other hother
  refine h other ?_
  rw [OrderedMap.popFirst_entries hfirst]
  exact List.mem_cons_of_mem _ hother

/-! ### What outcomes say -/

/-- The outcome ends its job. -/
def isTerminal (delivery : R.base.Customer × KeyedOutcome R) : Bool :=
  match delivery.2 with
  | .completed _ _ _ => true
  | .returnedQueued _ _ _ _ => true
  | .returnedAssigned _ _ _ _ => true
  | _ => false

/-- The job an outcome is about. -/
def aboutJob (delivery : R.base.Customer × KeyedOutcome R) : Option ℕ :=
  match delivery.2 with
  | .completed job _ _ => some job
  | .returnedQueued job _ _ _ => some job
  | .returnedAssigned job _ _ _ => some job
  | .accepted _ job _ => some job
  | .rejected _ _ _ _ => none

/-- **The outcome ends this job**: it goes to its customer, with the evidence the job was
accepted under, and with its payload where the payload comes back. -/
def Resolves (job : CustomerJob R.workers) (delivery : R.base.Customer × KeyedOutcome R) : Prop :=
  delivery.1 = job.customer.route ∧
    ((∃ result, delivery.2 = .completed job.id job.customer.binding result) ∨
      (∃ reason, delivery.2 = .returnedQueued job.id job.customer.binding job.payload reason) ∨
      ∃ reason, delivery.2 = .returnedAssigned job.id job.customer.binding job.payload reason)

theorem Resolves.isTerminal {delivery} (h : Resolves job delivery) :
    isTerminal delivery = true := by
  obtain ⟨-, ⟨result, h⟩ | ⟨reason, h⟩ | ⟨reason, h⟩⟩ := h <;> simp [Keyed.isTerminal, h]

theorem Resolves.aboutJob {delivery} (h : Resolves job delivery) :
    aboutJob delivery = some job.id := by
  obtain ⟨-, ⟨result, h⟩ | ⟨reason, h⟩ | ⟨reason, h⟩⟩ := h <;> simp [Keyed.aboutJob, h]

/-- **The book of an event**: what its outcomes say about jobs, a job being accepted as it
was submitted, under the binding the outcome names. -/
def jobBook (event : KeyedEvent R) :
    Book (CustomerJob R.workers) (R.base.Customer × KeyedOutcome R) where
  key := CustomerJob.id
  fits job := job.admitted = job.id
  announces delivery :=
    match event, delivery.2 with
    | .command (.submit _ _ payload route), .accepted _ job binding =>
      some ⟨job, job, payload, ⟨binding, route⟩⟩
    | _, _ => none
  ends := isTerminal
  about := aboutJob
  resolves := Resolves
  ends_of_resolves := Resolves.isTerminal
  about_of_resolves := Resolves.aboutJob
  announces_of_ends := by
    rintro ⟨route, outcome⟩ hends
    cases outcome <;> simp [isTerminal] at hends ⊢

/-- Jobs are accepted for the customer that submitted them. -/
def Submitted (event : KeyedEvent R) (outcomes : List (R.base.Customer × KeyedOutcome R)) :
    Prop :=
  ∀ route submission job binding, (route, .accepted submission job binding) ∈ outcomes →
    ∃ key payload, event = .command (.submit submission key payload route)

/-- Outcomes that end jobs accept none. -/
theorem submitted_of_resolves {jobs outcomes} (h : List.Forall₂ Resolves jobs outcomes) :
    Submitted event outcomes := by
  intro route submission job binding hmem
  obtain ⟨resolved, -, hresolves⟩ := forall₂_exists_left h hmem
  have hterminal := hresolves.isTerminal
  simp [isTerminal] at hterminal

/-! ### Leaving a cell -/

theorem returnQueue_outcomes (queue : KeyedQueue R) (reason : KeyedQueuedReturnReason)
    (actions : KeyedActions R) :
    (returnQueue queue reason actions).customerOutcomes = actions.customerOutcomes
      ++ queue.values.map fun job =>
        (job.customer.route, .returnedQueued job.id job.customer.binding job.payload reason) := by
  unfold returnQueue
  generalize queue.values = jobs
  induction jobs generalizing actions with
  | nil => simp
  | cons job jobs ih =>
    rw [List.foldl_cons, ih]
    simp [returnWaiting, KeyedActions.deliver]

theorem removeBindings_outcomes (removed : List (R.Key × BindingEvidence R.base.Role))
    (actions : KeyedActions R) :
    (removeBindings removed actions).customerOutcomes = actions.customerOutcomes :=
  removeBindings_proj (f := KeyedActions.customerOutcomes) (fun _ _ => rfl) removed actions

/-- A queue that is returned resolves its jobs. -/
theorem resolves_queue (queue : KeyedQueue R) (reason : KeyedQueuedReturnReason) :
    List.Forall₂ Resolves queue.values (queue.values.map fun job =>
      (job.customer.route, .returnedQueued job.id job.customer.binding job.payload reason)) := by
  rw [List.forall₂_map_right_iff]
  exact List.forall₂_same.mpr fun job _ => ⟨rfl, .inr (.inl ⟨reason, rfl⟩)⟩

/-- **How a job ends in a transition that began with this roster**: it comes back from a
queue, or a worker of that roster had it. -/
def Ended (roster : KeyedOperating R) (job : CustomerJob R.workers)
    (delivery : R.base.Customer × KeyedOutcome R) : Prop :=
  Resolves job delivery ∧
    ((∃ reason, delivery.2 = .returnedQueued job.id job.customer.binding job.payload reason) ∨
      ∃ position, Works roster position job)

/-- A queue that is returned ends its jobs. -/
theorem ended_queue (queue : KeyedQueue R) (reason : KeyedQueuedReturnReason) :
    List.Forall₂ (Ended roster) queue.values (queue.values.map fun job =>
      (job.customer.route, .returnedQueued job.id job.customer.binding job.payload reason)) := by
  rw [List.forall₂_map_right_iff]
  refine List.forall₂_same.mpr fun job _ => ⟨⟨rfl, .inr (.inl ⟨reason, rfl⟩)⟩, .inl ⟨reason, rfl⟩⟩

/-- What leaves a cell, and the outcomes that say so. -/
structure Parts (roster : KeyedOperating R) (actions actions' : KeyedActions R)
    (before after resolved : List (CustomerJob R.workers)) : Prop where
  outcomes : ∃ delta, actions'.customerOutcomes = actions.customerOutcomes ++ delta ∧
    List.Forall₂ (Ended roster) resolved delta
  held : before ~ after ++ resolved

theorem Parts.nothing {jobs} (h : actions'.customerOutcomes = actions.customerOutcomes) :
    Parts roster actions actions' jobs jobs [] :=
  ⟨⟨[], by rw [h, List.append_nil], .nil⟩, by rw [List.append_nil]⟩

theorem Parts.trans {a b c x y z r s} (h : Parts roster a b x y r) (h' : Parts roster b c y z s) :
    Parts roster a c x z (r ++ s) := by
  obtain ⟨⟨first, hfirst, hresolves⟩, hheld⟩ := h
  obtain ⟨⟨second, hsecond, hresolves'⟩, hheld'⟩ := h'
  refine ⟨⟨first ++ second, ?_, List.rel_append hresolves hresolves'⟩, ?_⟩
  · rw [hsecond, hfirst, List.append_assoc]
  · calc x ~ y ++ r := hheld
      _ ~ (z ++ s) ++ r := hheld'.append_right r
      _ ~ z ++ (r ++ s) := by
        rw [List.append_assoc]
        exact List.perm_append_comm.append_left z

/-- The jobs of a cell are known by distinct identifiers, which are their ordinals. -/
structure RoleCell.Tidy (cell : RoleCell R) : Prop where
  unique : (cell.held.map (·.id)).Nodup
  admitted : Admitted cell.queue
  fits : ∀ job ∈ cell.held, job.admitted = job.id

/-- The job of a worker does not wait: it is held once. -/
theorem RoleCell.Tidy.apart (h : cell.Tidy) {customer} (hjob : customer ∈ customersOf cell.member) :
    ∀ entry ∈ cell.queue.entries, entry.1 ≠ customer.admitted := by
  intro entry hentry hsame
  have hwaits : entry.2 ∈ cell.queue.values := List.mem_map_of_mem hentry
  have hunique := h.unique
  rw [RoleCell.held, List.map_append, List.nodup_append] at hunique
  refine hunique.2.2 _ (List.mem_map_of_mem hwaits) _ (List.mem_map_of_mem hjob) ?_
  rw [← h.fits _ (List.mem_append_left _ hwaits), ← h.fits _ (List.mem_append_right _ hjob),
    ← h.admitted entry hentry, hsame]

/-- **A worker gives its job up**: the job is over, or it waits again. -/
theorem Disposes.parts {frame frame' customer} (h : Disposes frame actions customer actions' frame')
    (hqueue : Admitted frame.queue)
    (hfresh : ∀ entry ∈ frame.queue.entries, entry.1 ≠ customer.admitted)
    (hworks : Works roster position customer) :
    Admitted frame'.queue ∧ ∃ resolved,
      Parts roster actions actions' (frame.queue.values ++ [customer]) frame'.queue.values
        resolved := by
  have hworked : ∃ position, Works roster position customer := ⟨position, hworks⟩
  cases h with
  | completed result =>
    refine ⟨hqueue, [customer], ⟨_, rfl, .cons ?_ .nil⟩, .refl _⟩
    exact ⟨⟨rfl, .inl ⟨result, rfl⟩⟩, .inr hworked⟩
  | returned reason =>
    refine ⟨hqueue, [customer], ⟨_, rfl, .cons ?_ .nil⟩, .refl _⟩
    exact ⟨⟨rfl, .inr (.inr ⟨reason, rfl⟩)⟩, .inr hworked⟩
  | requeued =>
    refine ⟨hqueue.insert customer, [], ⟨[], (List.append_nil _).symm, .nil⟩, ?_⟩
    rw [List.append_nil]
    exact List.perm_append_comm.trans (OrderedMap.values_insert_perm hfresh).symm

/-- **A member gives its place up**, and its job with it. -/
theorem Vacates.parts {pool' frame frame' restored state}
    (h : Vacates event pool actions frame restored state pool' actions' frame')
    (htidy : (frame.cell state).Tidy)
    (hworks : ∀ customer ∈ customersOf (frame.cell state).member, Works roster position customer) :
    pool'.jobs = pool.jobs ∧ Admitted frame'.queue ∧ ∃ resolved,
      Parts roster actions actions' (frame.cell state).held frame'.queue.values resolved := by
  have hnone {actions : KeyedActions R} {queue : KeyedQueue R} :
      Parts roster actions actions (queue.values ++ []) queue.values [] := by
    rw [List.append_nil]
    exact .nothing rfl
  cases h with
  | halted hhalts hjob =>
    refine ⟨rfl, htidy.admitted, [], ?_⟩
    cases hhalts with
    | retained | exits => exact absurd rfl (hjob _)
    | _ => exact hnone
  | interrupted hhalts hdisposes =>
    exact ⟨rfl, hdisposes.parts htidy.admitted (htidy.apart List.mem_cons_self)
      (hworks _ List.mem_cons_self)⟩
  | uncreated | returned | unscheduled | elapsed => exact ⟨rfl, htidy.admitted, [], hnone⟩

/-- **Whatever is seated in a place** keeps the jobs that wait there, or returns them. -/
theorem Seats.parts (roster : KeyedOperating R) {turn frame doomed}
    (h : Seats turn position frame doomed after) (hqueue : Admitted frame.queue) :
    after.pool.jobs = turn.pool.jobs ∧
      ∃ cell, after.operating.roles = turn.operating.roles.set position cell ∧
        cell.role = frame.role ∧ Admitted cell.queue ∧ ∃ resolved,
          Parts roster turn.actions after.actions frame.queue.values cell.held resolved := by
  have hkept {cell : RoleCell R} (hheld : cell.held = frame.queue.values ++ [])
      {actions : KeyedActions R}
      (hsame : actions.customerOutcomes = turn.actions.customerOutcomes) :
      ∃ resolved, Parts roster turn.actions actions frame.queue.values cell.held resolved := by
    rw [hheld, List.append_nil]
    exact ⟨[], .nothing hsame⟩
  cases h with
  | clear =>
    refine ⟨rfl, _, rfl, rfl, ?_, frame.queue.values, ⟨_, ?_, ended_queue frame.queue
      .rolePermanentlyUnavailable⟩, .refl _⟩
    · intro entry hentry
      cases hentry
    · rw [removeBindings_outcomes, returnQueue_outcomes]
  | _ => exact ⟨rfl, _, rfl, rfl, hqueue, hkept rfl rfl⟩

/-! ### One move -/

/-- **What becomes of the cells**: nothing, or one of them takes some jobs in, under a
binding to its own role, and lets some go. -/
inductive Passes (before after : List (RoleCell R)) :
    List (CustomerJob R.workers) → List (CustomerJob R.workers) → Prop
  | stays (hsame : after = before) : Passes before after [] []
  | one {position : ℕ} {cell next : RoleCell R} {added resolved : List (CustomerJob R.workers)}
      (hcell : before[position]? = some cell) (hafter : after = before.set position next)
      (hrole : next.role = cell.role) (hqueue : Admitted next.queue)
      (hheld : cell.held ++ added ~ next.held ++ resolved)
      (hadded : ∀ job ∈ added, job.customer.binding.role = cell.role) :
      Passes before after added resolved

/-- **What one move posts**: outcomes that end jobs a cell no longer holds, and at most one
job that is new. -/
structure Posts (event : KeyedEvent R) (roster : KeyedOperating R) (before after : Turn R)
    (added resolved : List (CustomerJob R.workers)) : Prop where
  outcomes : ∃ delta, after.actions.customerOutcomes = before.actions.customerOutcomes ++ delta ∧
    delta.filterMap (jobBook event).announces = added ∧
    List.Forall₂ (Ended roster) resolved (delta.filter isTerminal) ∧ Submitted event delta
  cells : Passes before.operating.roles after.operating.roles added resolved
  admits : (jobBook event).Admits before.pool.jobs added after.pool.jobs

/-- **Jobs in order**: in every cell, and with identifiers that are past. -/
structure Tidy (turn : Turn R) : Prop where
  cells : ∀ cell ∈ turn.operating.roles, cell.Tidy
  past : ∀ cell ∈ turn.operating.roles, ∀ job ∈ cell.held, turn.pool.jobs.Past job.id

/-- A new job has a key of its own in the queue of every cell. -/
theorem Tidy.fresh (h : Tidy before) (hmem : cell ∈ before.operating.roles) {job jobs}
    (hissue : before.pool.jobs.issue = some (job, jobs)) :
    ∀ entry ∈ cell.queue.entries, entry.1 ≠ job := by
  intro entry hentry
  have hheld : entry.2 ∈ cell.held := List.mem_append_left _ (List.mem_map_of_mem hentry)
  have hlt := (h.past cell hmem entry.2 hheld).ne_issue hissue
  rw [(h.cells cell hmem).admitted entry hentry, (h.cells cell hmem).fits entry.2 hheld]
  exact Nat.ne_of_lt hlt

/-- A job is admitted under a binding to the role that takes it. -/
theorem Binds.role {table bindings : BindingTable R.Key R.base.Role} {key : R.Key}
    {role : R.base.Role} {evidence : BindingEvidence R.base.Role}
    (h : Binds table key role evidence bindings) : evidence.role = role := by
  cases h with
  | retained hbound hrole => exact hrole
  | fresh hfree hissue hkey hrole => exact hrole

/-- A move that lets jobs go, and takes none in. -/
theorem Parts.posts {next}
    (h : Parts roster before.actions after.actions cell.held next.held resolved)
    (hcell : before.operating.roles[position]? = some cell)
    (hafter : after.operating.roles = before.operating.roles.set position next)
    (hrole : next.role = cell.role) (hqueue : Admitted next.queue)
    (hjobs : after.pool.jobs = before.pool.jobs) : Posts event roster before after [] resolved := by
  obtain ⟨⟨delta, houtcomes, hended⟩, hheld⟩ := h
  have hresolves : List.Forall₂ Resolves resolved delta := hended.imp fun _ _ h => h.1
  obtain ⟨hannounced, hterminal⟩ := (jobBook event).filter_of_resolves hresolves
  refine ⟨⟨delta, houtcomes, hannounced, ?_, submitted_of_resolves hresolves⟩,
    .one hcell hafter hrole hqueue ?_ (by simp), ?_⟩
  · exact (show delta.filter isTerminal = delta from hterminal).symm ▸ hended
  · rwa [List.append_nil]
  · rw [hjobs]
    exact .nothing

/-- A move that neither delivers an outcome nor changes the jobs of a cell. -/
theorem posts_same {next} (htidy : cell.Tidy)
    (hcell : before.operating.roles[position]? = some cell)
    (hafter : after.operating.roles = before.operating.roles.set position next)
    (hrole : next.role = cell.role) (hqueue : next.queue = cell.queue)
    (hjob : customersOf next.member = customersOf cell.member)
    (houtcomes : after.actions.customerOutcomes = before.actions.customerOutcomes)
    (hjobs : after.pool.jobs = before.pool.jobs) : Posts event roster before after [] [] := by
  have hheld : next.held = cell.held := by
    rw [RoleCell.held, hqueue, hjob, RoleCell.held]
  have hparts : Parts roster before.actions after.actions cell.held next.held [] := by
    rw [hheld]
    exact .nothing houtcomes
  exact hparts.posts hcell hafter hrole (hqueue ▸ htidy.admitted) hjobs

/-- A move that touches no cell and settles no job. -/
theorem posts_stays (hroles : after.operating.roles = before.operating.roles) {delta}
    (houtcomes : after.actions.customerOutcomes = before.actions.customerOutcomes ++ delta)
    (hrejected : ∀ delivery ∈ delta, ∃ submission key payload reason,
      delivery.2 = .rejected submission key payload reason)
    (hjobs : after.pool.jobs = before.pool.jobs ∨
      ∃ job, before.pool.jobs.issue = some (job, after.pool.jobs)) :
    Posts event roster before after [] [] := by
  have hquiet : ∀ delivery ∈ delta,
      (jobBook event).announces delivery = none ∧ isTerminal delivery = false := by
    rintro ⟨route, outcome⟩ hmem
    obtain ⟨submission, key, payload, reason, heq⟩ := hrejected _ hmem
    simp only at heq
    subst heq
    exact ⟨by simp [jobBook], rfl⟩
  refine ⟨⟨delta, houtcomes, ?_, ?_, ?_⟩, .stays hroles, ?_⟩
  · exact List.filterMap_eq_nil_iff.mpr fun delivery hmem => (hquiet delivery hmem).1
  · rw [List.filter_eq_nil_iff.mpr fun delivery hmem => by simp [(hquiet delivery hmem).2]]
    exact .nil
  · intro route submission job binding hmem
    obtain ⟨_, _, _, _, heq⟩ := hrejected _ hmem
    cases heq
  · rcases hjobs with hsame | ⟨job, hissue⟩
    · rw [hsame]
      exact .nothing
    · exact .skipped hissue

/-- A move that accepts a job for one cell. -/
theorem posts_accepted {submission job key payload customer evidence next}
    (hevent : event = .command (.submit submission key payload customer))
    (hissue : before.pool.jobs.issue = some (job, after.pool.jobs))
    (houtcomes : after.actions.customerOutcomes
      = before.actions.customerOutcomes ++ [(customer, .accepted submission job evidence)])
    (hcell : before.operating.roles[position]? = some cell)
    (hafter : after.operating.roles = before.operating.roles.set position next)
    (hrole : next.role = cell.role) (hqueue : Admitted next.queue)
    (hheld : cell.held ++ [⟨job, job, payload, ⟨evidence, customer⟩⟩] ~ next.held)
    (hbinding : evidence.role = cell.role) :
    Posts event roster before after [⟨job, job, payload, ⟨evidence, customer⟩⟩] [] := by
  refine ⟨⟨_, houtcomes, ?_, ?_, ?_⟩, .one hcell hafter hrole hqueue ?_ ?_, .one rfl hissue⟩
  · simp [jobBook, hevent]
  · simp [isTerminal]
  · intro route submission' job' binding hmem
    simp only [List.mem_singleton, Prod.mk.injEq, KeyedOutcome.accepted.injEq] at hmem
    obtain ⟨rfl, rfl, rfl, rfl⟩ := hmem
    exact ⟨key, payload, hevent⟩
  · rwa [List.append_nil]
  · intro other hmem
    rw [List.mem_singleton.mp hmem]
    exact hbinding

/-- **Every move posts what it does to jobs.** -/
theorem Move.posts (h : Move event roster marks before after) (htidy : Tidy before) :
    ∃ added resolved, Posts event roster before after added resolved := by
  cases h with
  | note | spend | manage =>
    exact ⟨[], [], posts_stays rfl (List.append_nil _).symm (by simp) (.inl rfl)⟩
  | reject reason hevent hjobs hspends hreason =>
    exact ⟨[], [], posts_stays rfl rfl (by simp) hjobs⟩
  | shift hcell haims hshift =>
    have hcells := htidy.cells _ (List.mem_of_getElem? hcell)
    refine ⟨[], [], posts_same hcells hcell rfl rfl rfl ?_ rfl rfl⟩
    cases hshift with
    | joined hcustomer | exited hevent hchild hcustomer =>
      exact congrArg (fun customer => [customer]) hcustomer
    | _ => rfl
  | establish hcell | permit _ _ hcell | authorize hcell | ready hcell | serve _ hcell =>
    have hcells := htidy.cells _ (List.mem_of_getElem? hcell)
    exact ⟨[], [], posts_same hcells hcell rfl rfl rfl rfl rfl rfl⟩
  | @fill _ _ _ frame _ current customer queue _ _ hcell haims hstart hqueue hfirst hissue =>
    have hcells := htidy.cells _ (List.mem_of_getElem? hcell)
    refine ⟨[], [], Parts.posts ⟨⟨[], (List.append_nil _).symm, .nil⟩, ?_⟩ hcell rfl rfl
      (hcells.admitted.popFirst hfirst) rfl⟩
    show frame.queue.values ++ [] ~ (queue.values ++ [customer]) ++ []
    rw [List.append_nil, List.append_nil, OrderedMap.popFirst_values hfirst]
    exact (List.perm_append_singleton _ _).symm
  | @refuse _ _ _ frame current customer queue hcell haims hfirst hissue =>
    have hcells := htidy.cells _ (List.mem_of_getElem? hcell)
    refine ⟨[], [customer], Parts.posts ⟨⟨_, rfl, .cons ?_ .nil⟩, ?_⟩ hcell rfl rfl
      (hcells.admitted.popFirst hfirst) rfl⟩
    · exact ⟨⟨rfl, .inr (.inl ⟨_, rfl⟩)⟩, .inl ⟨_, rfl⟩⟩
    · show frame.queue.values ++ [] ~ (queue.values ++ []) ++ [customer]
      rw [List.append_nil, List.append_nil, OrderedMap.popFirst_values hfirst]
      exact (List.perm_append_singleton _ _).symm
  | @complete _ _ frame current assigned result hcell haims hworks hstop =>
    have hcells := htidy.cells _ (List.mem_of_getElem? hcell)
    refine ⟨[], [assigned.customer], Parts.posts ⟨⟨_, rfl, .cons ?_ .nil⟩, ?_⟩ hcell rfl rfl
      hcells.admitted rfl⟩
    · exact ⟨⟨rfl, .inl ⟨result, rfl⟩⟩, .inr ⟨_, hworks⟩⟩
    · show frame.queue.values ++ [assigned.customer] ~ (frame.queue.values ++ []) ++ _
      rw [List.append_nil]
  | @quarantine _ _ frame frame' current assigned actions' shutdown hcell haims hworks hstop
      hdisposes =>
    have hcells := htidy.cells _ (List.mem_of_getElem? hcell)
    obtain ⟨hqueue, resolved, hparts⟩ := hdisposes.parts hcells.admitted
      (hcells.apart List.mem_cons_self) hworks
    have hrole : frame'.role = frame.role := by cases hdisposes <;> rfl
    refine ⟨[], resolved, Parts.posts ⟨hparts.outcomes, ?_⟩ hcell rfl hrole hqueue rfl⟩
    show frame.queue.values ++ [assigned.customer] ~ (frame'.queue.values ++ []) ++ resolved
    rw [List.append_nil]
    exact hparts.held
  | turnover hcell haims hworks hvacates hseats =>
    have hcells := htidy.cells _ (List.mem_of_getElem? hcell)
    obtain ⟨hjobs, hqueue, resolved, hleaves⟩ := hvacates.parts hcells hworks
    obtain ⟨hjobs', cell, hroles, hrole, hqueue', returned, hclears⟩ :=
      hseats.parts roster hqueue
    exact ⟨[], _, (hleaves.trans hclears).posts hcell hroles (hrole.trans hvacates.frame.1) hqueue'
      (hjobs'.trans hjobs)⟩
  | @enqueue _ position submission job key payload customer cell evidence bindings jobs hevent
      hcell htarget hjobs hbinds =>
    have hmem := List.mem_of_getElem? hcell
    refine ⟨_, [], posts_accepted hevent hjobs rfl hcell rfl rfl
      ((htidy.cells cell hmem).admitted.insert ⟨job, job, payload, ⟨evidence, customer⟩⟩) ?_
      hbinds.role⟩
    have hvalues : (cell.queue.insert job ⟨job, job, payload, ⟨evidence, customer⟩⟩).values
        ~ ⟨job, job, payload, ⟨evidence, customer⟩⟩ :: cell.queue.values :=
      OrderedMap.values_insert_perm (htidy.fresh hmem hjobs)
    refine (List.perm_append_singleton _ _).trans ?_
    exact (hvalues.append_right (customersOf cell.member)).symm
  | @dispatch _ position submission job assignment key payload customer frame current evidence
      bindings jobs assignments hevent hcell hjobs hissue hbinds =>
    have hcells := htidy.cells _ (List.mem_of_getElem? hcell)
    refine ⟨_, [], posts_accepted hevent hjobs rfl hcell rfl rfl hcells.admitted ?_ hbinds.role⟩
    show (frame.queue.values ++ []) ++ _ ~ _
    rw [List.append_nil]
    exact .refl _

/-! ### One transition -/

/-- The jobs of a ledger are known by their identifiers. -/
abbrev JobLedger (R : Router) := Ledger (CustomerJob.id (S := R.workers))

/-- **Every job is with the role it was admitted for.** -/
def AtHome (operating : KeyedOperating R) : Prop :=
  ∀ cell ∈ operating.roles, ∀ job ∈ cell.held, job.customer.binding.role = cell.role

/-- **The account of a turn**: the ledger of the run goes on with what its outcomes accept
and end, and the cells are in order. -/
structure Accounts (prior : JobLedger R) (event : KeyedEvent R) (turn : Turn R) : Prop where
  account : (jobBook event).Account prior turn.operating.held turn.pool.jobs
    turn.actions.customerOutcomes
  queues : ∀ cell ∈ turn.operating.roles, Admitted cell.queue
  home : AtHome turn.operating
  submitted : Submitted event turn.actions.customerOutcomes

variable {prior : JobLedger R}

theorem Accounts.tidy (h : Accounts prior event before) : Tidy before := by
  obtain ⟨hunique, hfits⟩ := h.account.nodup
  have hheld {cell : RoleCell R} (hmem : cell ∈ before.operating.roles) :
      ∀ job ∈ cell.held, job ∈ before.operating.held :=
    fun job hjob => List.mem_flatMap.mpr ⟨cell, hmem, hjob⟩
  refine ⟨fun cell hmem => ⟨?_, h.queues cell hmem, fun job hjob => ?_⟩, fun cell hmem job hjob => ?_⟩
  · refine hunique.sublist (List.Sublist.map _ ?_)
    exact List.sublist_flatten_of_mem (List.mem_map_of_mem hmem)
  · exact (hfits job (hheld hmem job hjob)).1
  · exact (hfits job (hheld hmem job hjob)).2

theorem Passes.held {next} (h : Passes roles next added resolved) :
    roles.flatMap RoleCell.held ++ added ~ next.flatMap RoleCell.held ++ resolved := by
  cases h with
  | stays hsame => rw [hsame]
  | @one position cell after _ _ hcell hafter hrole hqueue hheld hadded =>
    obtain ⟨others, hbefore, hset⟩ := Roster.perm_set hcell after
    rw [hafter]
    calc roles.flatMap RoleCell.held ++ added
        ~ (cell.held ++ others.flatMap RoleCell.held) ++ added :=
          (hbefore.flatMap_right _).append_right _
      _ ~ others.flatMap RoleCell.held ++ (cell.held ++ added) := by
          rw [← List.append_assoc]
          exact List.perm_append_comm.append_right _
      _ ~ others.flatMap RoleCell.held ++ (after.held ++ resolved) := hheld.append_left _
      _ ~ (after.held ++ others.flatMap RoleCell.held) ++ resolved := by
          rw [← List.append_assoc]
          exact List.perm_append_comm.append_right _
      _ ~ (roles.set position after).flatMap RoleCell.held ++ resolved :=
          ((hset.flatMap_right _).append_right _).symm

/-- A cell keeps the jobs it has at home. -/
theorem Passes.home {next} (h : Passes roles next added resolved)
    (hhome : ∀ cell ∈ roles, ∀ job ∈ cell.held, job.customer.binding.role = cell.role) :
    ∀ cell ∈ next, ∀ job ∈ cell.held, job.customer.binding.role = cell.role := by
  cases h with
  | stays hsame => rwa [hsame]
  | one hcell hafter hrole hqueue hheld hadded =>
    rw [hafter]
    refine Roster.forall_mem_set hhome fun job hjob => ?_
    rw [hrole]
    rcases List.mem_append.mp (hheld.symm.subset (List.mem_append_left _ hjob)) with hjob | hjob
    · exact hhome _ (List.mem_of_getElem? hcell) job hjob
    · exact hadded job hjob

theorem Passes.queues {next} (h : Passes roles next added resolved)
    (hqueues : ∀ cell ∈ roles, Admitted cell.queue) : ∀ cell ∈ next, Admitted cell.queue := by
  cases h with
  | stays hsame => rwa [hsame]
  | one hcell hafter hrole hqueue hheld hadded =>
    rw [hafter]
    exact Roster.forall_mem_set hqueues hqueue

/-- **A posting continues an account.** -/
theorem Posts.accounts
    (h : Posts event roster before after added resolved) (haccounts : Accounts prior event before) :
    Accounts prior event after := by
  obtain ⟨⟨delta, houtcomes, hannounced, hended, hsubmitted⟩, hcells, hadmits⟩ := h
  refine ⟨?_, hcells.queues haccounts.queues, hcells.home haccounts.home, ?_⟩
  · rw [houtcomes]
    exact haccounts.account.post hannounced (hended.imp fun _ _ h => h.1) hcells.held hadmits
  · rw [houtcomes]
    intro route submission job binding hmem
    exact (List.mem_append.mp hmem).elim (haccounts.submitted route submission job binding)
      (hsubmitted route submission job binding)

theorem Move.accounts (h : Move event roster marks before after)
    (haccounts : Accounts prior event before) : Accounts prior event after := by
  obtain ⟨added, resolved, hposts⟩ := h.posts haccounts.tidy
  exact hposts.accounts haccounts

/-! ### Leaving -/

/-- **What one role hands over** as its pool retires: all its jobs. -/
theorem handOver_outcomes (cell : RoleCell R) (id : Option ℕ) (actions : KeyedActions R) :
    ∃ delta, (handOver cell id actions).customerOutcomes = actions.customerOutcomes ++ delta ∧
      List.Forall₂ Resolves cell.held delta := by
  obtain ⟨asked, hasked, hsame⟩ : ∃ asked : KeyedActions R, handOver cell id actions
      = retainReturns cell.member.role (cell.member.shutdown id).custody asked ∧
      asked.customerOutcomes = (returnQueue cell.queue .poolShutdown actions).customerOutcomes := by
    unfold handOver
    cases (cell.member.shutdown id).request <;> exact ⟨_, rfl, rfl⟩
  have hqueue := resolves_queue cell.queue .poolShutdown
  rw [returnQueue_outcomes] at hsame
  rw [hasked, RoleCell.held]
  rcases shutdown_custody cell.member id with ⟨assigned, hjob, hcustody⟩ |
    ⟨hnone, hcustody | ⟨replacement, hcustody⟩⟩
  · rw [hjob, hcustody]
    refine ⟨_ ++ [(assigned.customer.customer.route, .returnedAssigned assigned.customer.id
      assigned.customer.customer.binding assigned.customer.payload .poolShutdown)], ?_,
      List.rel_append hqueue (.cons ⟨rfl, .inr (.inr ⟨_, rfl⟩)⟩ .nil)⟩
    rw [← List.append_assoc, ← hsame]
    simp only [retainReturns, AssignedJob.shutdown_customer]
    cases assigned.shutdown.completion <;> rfl
  · rw [hnone, hcustody, List.append_nil]
    exact ⟨_, hsame, hqueue⟩
  · rw [hnone, hcustody, List.append_nil]
    exact ⟨_, hsame, hqueue⟩

/-- **The role loop of `begin_retirement`** returns every job of every role. -/
theorem retireRoles_outcomes (ids : Option (List ℕ)) (cells : List (RoleCell R))
    (actions : KeyedActions R) :
    ∃ delta, (retireRoles ids cells actions).2.customerOutcomes
        = actions.customerOutcomes ++ delta ∧
      List.Forall₂ Resolves (cells.flatMap RoleCell.held) delta := by
  induction cells generalizing ids actions with
  | nil => exact ⟨[], by simp [retireRoles], .nil⟩
  | cons cell cells ih =>
    obtain ⟨first, hfirst, hresolves⟩ := handOver_outcomes cell (takeId ids cell.member).1 actions
    obtain ⟨rest, hrest, hothers⟩ := ih (takeId ids cell.member).2
      (handOver cell (takeId ids cell.member).1 actions)
    refine ⟨first ++ rest, ?_, ?_⟩
    · rw [retireRoles_cons, hrest, hfirst, List.append_assoc]
    · rw [List.flatMap_cons]
      exact List.rel_append hresolves hothers

/-- **Leaving resolves every job the pool holds.** -/
theorem Leaves.outcomes {turn} (h : Leaves turn acted) :
    ∃ delta, acted.actions.customerOutcomes = turn.actions.customerOutcomes ++ delta ∧
      List.Forall₂ Resolves turn.operating.held delta := by
  have hretired (ids) : ∃ delta, (turn.retired ids).2.customerOutcomes
      = turn.actions.customerOutcomes ++ delta ∧
      List.Forall₂ Resolves turn.operating.held delta := by
    obtain ⟨delta, hdelta, hresolves⟩ := retireRoles_outcomes ids turn.operating.roles
      (removeBindings turn.operating.bindings.drain turn.actions)
    rw [removeBindings_outcomes] at hdelta
    exact ⟨delta, hdelta, hresolves⟩
  cases h with
  | exhausted => exact hretired none
  | retire | stop => exact hretired _

theorem Leaves.jobs {turn} (h : Leaves turn acted) :
    acted.pool.jobs = turn.pool.jobs := by
  cases h <;> rfl

theorem Wane.jobs {wake next} (h : Wane event wake next) :
    next.pool.jobs = wake.pool.jobs ∧
      next.actions.customerOutcomes = wake.actions.customerOutcomes := by
  cases h <;> exact ⟨rfl, rfl⟩

/-- A retiring pool has no job left to resolve. -/
theorem Retires.jobs {members deadline} (h : Retires pool members deadline event acted) :
    acted.pool.jobs = pool.jobs ∧ acted.actions.customerOutcomes = [] := by
  rcases h.ends with ⟨wake, step, hwaning, hpool, hactions, -⟩ | rfl
  · have hsame := hwaning.preserves
      (motive := fun wake => wake.pool.jobs = pool.jobs ∧ wake.actions.customerOutcomes = [])
      (fun hwane hbefore => ⟨hwane.jobs.1.trans hbefore.1, hwane.jobs.2.trans hbefore.2⟩)
      ⟨rfl, rfl⟩
    rw [hpool, hactions]
    exact hsame
  · exact ⟨rfl, rfl⟩

theorem Batches.jobs {left} (h : Batches event left acted) :
    acted.pool.jobs = left.pool.jobs ∧
      acted.actions.customerOutcomes = left.actions.customerOutcomes := by
  cases h with
  | done => exact ⟨rfl, rfl⟩
  | retires hstate hretires =>
    refine ⟨hretires.jobs.1, ?_⟩
    show left.actions.customerOutcomes ++ _ = _
    rw [hretires.jobs.2, List.append_nil]
  | returned hevent hstate => exact ⟨rfl, List.append_nil _⟩

/-- What the books need to know of an operating pool. -/
def InOrder (pool : KeyedPool R) : Prop :=
  ∀ operating, pool.state = .operating operating →
    (∀ cell ∈ operating.roles, Admitted cell.queue) ∧ AtHome operating

/-- **The jobs of a pool are on the books**: the ledger holds what the pool holds, its
identifiers are past, and the cells are in order. -/
structure OnBooks (pool : KeyedPool R) (ledger : JobLedger R) : Prop where
  held : ledger.held = pool.held
  past : ∀ job ∈ ledger.issued, job.admitted = job.id ∧ pool.jobs.Past job.id
  order : InOrder pool

theorem submitted_nothing :
    Submitted event ([] : List (R.base.Customer × KeyedOutcome R)) := by
  intro _ _ _ _ hmem
  cases hmem

/-- Nothing happened yet. -/
theorem OnBooks.quiet (h : OnBooks pool prior) {held} (hsame : pool.held = held) :
    (jobBook event).Account prior held pool.jobs [] :=
  Book.account_of_quiet (h.held.trans hsame) h.past rfl rfl

/-- The account a transition of an operating pool begins with. -/
theorem OnBooks.start {operating} (event : KeyedEvent R) (h : OnBooks pool prior)
    (hstate : pool.state = .operating operating) :
    Accounts prior event (Turn.begin { pool with state := .stopped } operating) := by
  refine ⟨h.quiet ?_, (h.order operating hstate).1, (h.order operating hstate).2,
    submitted_nothing⟩
  rw [KeyedPool.held, hstate]
  rfl

/-- **Every transition posts to the ledger of the run.** -/
theorem Acts.account (h : Acts pool event acted) (hbooks : OnBooks pool prior) :
    (jobBook event).Account prior acted.next.held acted.pool.jobs
        acted.actions.customerOutcomes ∧
      InOrder acted.next ∧ Submitted event acted.actions.customerOutcomes := by
  cases h with
  | @operating operating _ hstate hoperates hsettles =>
    have hstart := hbooks.start event hstate
    rcases hsettles.cases with ⟨idle, turn, hchain, -, rfl⟩ |
      ⟨marks, turn, left, hchain, hleaves, hbatches⟩ | ⟨shutdowns, rfl⟩
    · have hturn := hchain.preserves (motive := Accounts prior event) Move.accounts hstart
      refine ⟨hturn.account, ?_, hturn.submitted⟩
      rintro _ ⟨⟩
      exact ⟨hturn.queues, hturn.home⟩
    · have hturn := hchain.preserves (motive := Accounts prior event) Move.accounts hstart
      obtain ⟨delta, houtcomes, hresolved⟩ := hleaves.outcomes
      have hnot := hbatches.state hleaves
      refine ⟨?_, fun operating hafter => absurd hafter (hnot operating), ?_⟩
      · rw [held_of_not_operating hnot, hbatches.jobs.1, hbatches.jobs.2, hleaves.jobs, houtcomes]
        exact hturn.account.close hresolved
      · rw [hbatches.jobs.2, houtcomes]
        intro route submission job binding hmem
        exact (List.mem_append.mp hmem).elim (hturn.submitted route submission job binding)
          (submitted_of_resolves hresolved route submission job binding)
    · refine ⟨hstart.account, ?_, submitted_nothing⟩
      rintro _ ⟨⟩
      exact hbooks.order operating hstate
  | retiring hstate hlent hretires =>
    have hnone : pool.held = acted.next.held := by
      rw [KeyedPool.held, hstate, held_of_not_operating hretires.state]
    refine ⟨?_, fun operating hafter => absurd hafter (hretires.state operating), ?_⟩
    · rw [hretires.jobs.1, hretires.jobs.2]
      exact hbooks.quiet hnone
    · rw [hretires.jobs.2]
      exact submitted_nothing
  | idle hoperating hretiring => exact ⟨hbooks.quiet rfl, hbooks.order, submitted_nothing⟩

theorem Acts.onBooks (h : Acts pool event acted)
    (hbooks : OnBooks pool prior) : ∃ ledger, OnBooks acted.next ledger := by
  obtain ⟨⟨ledger, resolved, -, hheld, -, -, hpast⟩, horder, -⟩ := h.account hbooks
  exact ⟨ledger, hheld, hpast, horder⟩

/-! ### Whole runs -/

variable (journal : Journal R)

/-- Every outcome a run has delivered. -/
def Journal.outcomes : List (R.base.Customer × KeyedOutcome R) :=
  journal.emitted.flatMap (·.customerOutcomes)

/-- The jobs a run has accepted, as they were submitted. -/
def Journal.announced : List (CustomerJob R.workers) :=
  journal.entries.flatMap fun entry =>
    entry.actions.customerOutcomes.filterMap (jobBook entry.event).announces

/-- **The books of a run**: a ledger of every job accepted, those the pool holds and
those that terminal outcomes ended. -/
structure Audit (journal : Journal R) (ledger : JobLedger R) : Prop
    extends OnBooks journal.pool ledger where
  issued : ledger.issued = journal.announced
  settled : List.Forall₂ Resolves ledger.settled (journal.outcomes.filter isTerminal)
  submitted : ∀ entry ∈ journal.entries, Submitted entry.event entry.actions.customerOutcomes

theorem beginRoles_outcomes (backlog : ℕ) (prepared : List (PreparedWorker R.workers))
    (ids : List ℕ) (heap : ℕ) (actions : KeyedActions R) :
    (beginRoles backlog prepared ids heap actions).2.1.customerOutcomes
      = actions.customerOutcomes := by
  induction prepared generalizing ids heap actions with
  | nil => rfl
  | cons first rest ih =>
    cases ids with
    | nil => rfl
    | cons creation ids => exact ih ids (heap + 2) _

variable (config : Config R) (selector : R.Key → R.base.Role) (prepared : PreparedRoster R)
    (events : List (KeyedEvent R))

theorem begin_audit :
    Audit (Journal.begin config selector prepared) Ledger.empty := by
  rcases begin_cases config selector prepared with ⟨creations, heq⟩ |
    ⟨creations, heap, ids, actions, roles, -, hbegin, heq, -, hborn⟩
  · rw [heq]
    refine ⟨⟨rfl, by simp [Ledger.empty], ?_⟩, rfl, .nil, by simp⟩
    intro operating hoperating
    cases hoperating
  · rw [heq]
    have houtcomes : actions.customerOutcomes = [] := by
      have hactions := beginRoles_outcomes config.backlog prepared.workers ids 0
        (KeyedActions.cont : KeyedActions R)
      rwa [hbegin] at hactions
    have hnothing : ∀ cell ∈ roles, cell.held = [] := by
      intro cell hmem
      obtain ⟨hfirst, hqueue, -⟩ := hborn cell hmem
      obtain ⟨⟨role, recoveries, state⟩, queue, capacity⟩ := cell
      cases state with
      | creating worker =>
        obtain rfl : queue = _ := hqueue
        rfl
      | _ => simp [isFirstBorn] at hfirst
    refine ⟨⟨?_, by simp [Ledger.empty], ?_⟩, rfl, ?_, by simp⟩
    · show [] = roles.flatMap RoleCell.held
      rw [List.flatMap_eq_nil_iff.mpr hnothing]
    · rintro _ ⟨⟩
      constructor
      · intro cell hmem entry hentry
        rw [(hborn cell hmem).2.1] at hentry
        cases hentry
      · intro cell hmem job hjob
        rw [hnothing cell hmem] at hjob
        cases hjob
    · simp only [Journal.outcomes, Journal.emitted, List.map_nil, List.flatMap_cons,
        List.flatMap_nil, houtcomes]
      exact .nil

theorem Journal.outcomes_step (event : KeyedEvent R) :
    (journal.step event).outcomes
      = journal.outcomes ++ (act journal.pool event).actions.customerOutcomes := by
  simp [Journal.outcomes, Journal.emitted, Journal.step, KeyedPool.transition]

theorem Journal.announced_step (event : KeyedEvent R) :
    (journal.step event).announced = journal.announced
      ++ (act journal.pool event).actions.customerOutcomes.filterMap
        (jobBook event).announces := by
  simp [Journal.announced, Journal.step, KeyedPool.transition]

/-- **Every event keeps the books.** -/
theorem Audit.step {journal ledger} (h : Audit journal ledger) (hsound : Sound journal.pool)
    (event : KeyedEvent R) :
    ∃ next, Audit (journal.step event) next := by
  obtain ⟨⟨next, resolved, hissued, hheld, hsettled, hresolves, hpast⟩, horder, hsubmitted⟩ :=
    (act_cases hsound event).account h.toOnBooks
  refine ⟨next, ⟨hheld, hpast, horder⟩, ?_, ?_, ?_⟩
  · rw [hissued, h.issued, Journal.announced_step]
  · rw [hsettled, Journal.outcomes_step, List.filter_append]
    exact List.rel_append h.settled hresolves
  · intro entry hentry
    rcases List.mem_append.mp hentry with hentry | hentry
    · exact h.submitted entry hentry
    · rw [List.mem_singleton.mp hentry]
      exact hsubmitted

theorem run_audit :
    ∃ ledger, Audit (run config selector prepared events) ledger := by
  refine (run_invariant (motive := fun journal => Sound journal.pool ∧
    ∃ ledger, Audit journal ledger) config selector prepared ?_ ?_ events).2
  · exact ⟨begin_sound config selector prepared, _, begin_audit config selector prepared⟩
  · rintro journal event ⟨hsound, ledger, haudit⟩
    exact ⟨(act_cases hsound event).sound hsound, haudit.step hsound event⟩

/-- The queue entries, of all roles, that hold a job. -/
def waitingCount (pool : KeyedPool R) (job : ℕ) : ℕ :=
  match pool.state with
  | .operating operating =>
    (operating.roles.flatMap fun cell => cell.queue.values).countP fun customer => customer.id = job
  | _ => 0

/-- The busy members that hold a job. -/
def workingCount (pool : KeyedPool R) (job : ℕ) : ℕ :=
  match pool.state with
  | .operating operating => operating.roles.countP fun cell =>
      (customersOf cell.member).any fun customer => customer.id = job
  | _ => 0

/-- The terminal outcomes a run has delivered for a job. -/
def Journal.resolvedCount (job : ℕ) : ℕ :=
  (journal.outcomes.filter isTerminal).countP fun delivery => aboutJob delivery = some job

theorem countP_flatMap_held (roles : List (RoleCell R)) (job : ℕ) :
    (roles.flatMap RoleCell.held).countP (fun customer => customer.id = job)
      = (roles.flatMap fun cell => cell.queue.values).countP (fun customer => customer.id = job)
        + roles.countP fun cell => (customersOf cell.member).any fun customer =>
          customer.id = job := by
  induction roles with
  | nil => rfl
  | cons cell cells ih =>
    rw [List.flatMap_cons, List.countP_append, ih, RoleCell.held, List.countP_append,
      List.flatMap_cons, List.countP_append, List.countP_cons, countP_customersOf]
    omega

/-- The places of a job in a pool. -/
theorem countP_held (pool : KeyedPool R) (job : ℕ) :
    pool.held.countP (fun customer => customer.id = job)
      = waitingCount pool job + workingCount pool job := by
  unfold KeyedPool.held waitingCount workingCount
  cases pool.state with
  | operating operating => exact countP_flatMap_held operating.roles job
  | _ => rfl

/-- A job is held once: what waits is with no worker. -/
theorem OnBooks.not_works {ledger operating} (h : OnBooks pool ledger)
    (hstate : pool.state = .operating operating) (hmem : cell ∈ operating.roles)
    (hjob : job ∈ cell.queue.values) : ¬ Works operating position job := by
  rintro ⟨other, hother, hworks⟩
  have hheld : operating.held = ledger.held := by
    rw [h.held, KeyedPool.held, hstate]
  have hone : operating.held.countP (fun customer => customer.id = job.id) = 1 := by
    rw [hheld]
    refine Ledger.countP_key_of_nodup ledger.held_nodup ?_
    rw [← hheld]
    exact List.mem_flatMap.mpr ⟨cell, hmem, List.mem_append_left _ hjob⟩
  have hwaiting : 0 < (operating.roles.flatMap fun cell => cell.queue.values).countP
      (fun customer => customer.id = job.id) :=
    List.countP_pos_iff.mpr ⟨job, List.mem_flatMap.mpr ⟨cell, hmem, hjob⟩, by simp⟩
  have hworking : 0 < operating.roles.countP fun cell => (customersOf cell.member).any
      fun customer => customer.id = job.id :=
    List.countP_pos_iff.mpr ⟨other, List.mem_of_getElem? hother,
      List.any_eq_true.mpr ⟨job, hworks, by simp⟩⟩
  have hsplit := countP_flatMap_held operating.roles job.id
  rw [← KeyedOperating.held, hone] at hsplit
  omega

/-- **The custody of one accepted job**: it waits once, is worked on once or was resolved
once; wherever it is, it is the job that was submitted, with the role its binding names;
what resolves it goes to its customer with that binding; and a pool that left `Operating`
has resolved it. -/
structure InCustody (journal : Journal R) (job : CustomerJob R.workers) : Prop where
  once : waitingCount journal.pool job.id + workingCount journal.pool job.id
    + journal.resolvedCount job.id = 1
  same : ∀ other ∈ journal.pool.held, other.id = job.id → other = job
  home : ∀ operating, journal.pool.state = .operating operating →
    ∀ position cell, operating.roles[position]? = some cell →
      (∃ other ∈ cell.held, other.id = job.id) →
      operating.rolePosition job.customer.binding.role = some position
  resolves : ∀ delivery ∈ journal.outcomes, isTerminal delivery = true →
    aboutJob delivery = some job.id → Resolves job delivery
  left : (∀ operating, journal.pool.state ≠ .operating operating) →
    journal.resolvedCount job.id = 1

/-- **Customer conservation and affinity.**  In every run, every job announced by an
accepted outcome was submitted by that customer and is in custody, with the role of the
binding that outcome names, and no job is resolved twice. -/
theorem run_customer_custody :
    (∀ entry ∈ (run config selector prepared events).entries,
      ∀ route submission job binding,
        (route, .accepted submission job binding) ∈ entry.actions.customerOutcomes →
        ∃ key payload, entry.event = .command (.submit submission key payload route) ∧
          InCustody (run config selector prepared events)
            ⟨job, job, payload, ⟨binding, route⟩⟩) ∧
    ∀ job, (run config selector prepared events).resolvedCount job ≤ 1 := by
  obtain ⟨ledger, haudit⟩ := run_audit config selector prepared events
  have hnodup := run_roles_nodup config selector prepared events
  generalize run config selector prepared events = journal at haudit hnodup
  have hsettled : List.Forall₂ (jobBook (R := R) .shutdown).resolves ledger.settled
      (journal.outcomes.filter (jobBook (R := R) .shutdown).ends) := haudit.settled
  constructor
  · intro entry hentry route submission job binding haccepted
    obtain ⟨key, payload, hevent⟩ :=
      haudit.submitted entry hentry route submission job binding haccepted
    refine ⟨key, payload, hevent, ?_⟩
    have hissued : (⟨job, job, payload, ⟨binding, route⟩⟩ : CustomerJob R.workers)
        ∈ ledger.issued := by
      rw [haudit.issued]
      refine List.mem_flatMap.mpr ⟨entry, hentry, List.mem_filterMap.mpr ⟨_, haccepted, ?_⟩⟩
      rw [hevent]
      rfl
    have honce : waitingCount journal.pool job + workingCount journal.pool job
        + journal.resolvedCount job = 1 := by
      rw [← countP_held, ← haudit.held]
      exact Book.once hsettled hissued
    have hsame : ∀ other ∈ journal.pool.held, other.id = job →
        other = ⟨job, job, payload, ⟨binding, route⟩⟩ := by
      intro other hother hid
      exact ledger.eq_of_key (Ledger.mem_issued_of_held (haudit.held ▸ hother)) hissued hid
    refine ⟨honce, hsame, ?_, ?_, ?_⟩
    · rintro operating hstate position cell hcell ⟨other, hother, hid⟩
      have hmem := List.mem_of_getElem? hcell
      have hheld : other ∈ journal.pool.held := by
        rw [KeyedPool.held, hstate]
        exact List.mem_flatMap.mpr ⟨cell, hmem, hother⟩
      have hrole := (haudit.order operating hstate).2 cell hmem other hother
      rw [hsame other hheld hid] at hrole
      rw [hrole]
      exact KeyedOperating.rolePosition_eq (hnodup operating hstate) hcell
    · intro delivery hdelivery hterminal habout
      exact Book.resolves_of_about hsettled hissued hdelivery hterminal habout
    · intro hleft
      have hnone := countP_held journal.pool job
      rw [held_of_not_operating hleft, List.countP_nil] at hnone
      show journal.resolvedCount job = 1
      omega
  · intro job
    exact Book.ended_le_one hsettled job

end Bombay.Keyed
