/-
# Custody of the customers' jobs

Every accepted job is in one backlog entry, with one busy worker, or was resolved by
one terminal outcome, and leaving the operating state resolves the rest.  A move posts
its outcomes to a `Ledger` of the jobs (`Move.posts`), a transition to the ledger of
the run, and `run_custody` reads the places of a job off it.
-/

import Bombay.Fifo.Service
import Bombay.Lib.Account

namespace Bombay.Fifo

open scoped List

variable {S : Signature} {event : FifoEvent S} {marks : Dirt} {before after : Turn S}

/-! ### Where jobs are -/

/-- The jobs an operating pool holds: those that wait, and those of its workers. -/
def FifoOperating.held (operating : FifoOperating S) : List (CustomerJob S) :=
  operating.backlog.values.map (·.customer) ++ operating.members.flatMap customersOf

/-- The jobs a pool holds. -/
def FifoPool.held (pool : FifoPool S) : List (CustomerJob S) :=
  match pool.state with
  | .operating operating => operating.held
  | _ => []

variable {operating : FifoOperating S} {position : ℕ} {old new : Member S}
    {customer : CustomerJob S} {acted : Acted S}

/-- One member changes, and the jobs of the others stay. -/
theorem held_put (hmember : operating.members[position]? = some old) (new : Member S) :
    ∃ rest, operating.held ~ customersOf old ++ rest ∧
      (operating.put position new).held ~ customersOf new ++ rest := by
  obtain ⟨others, hbefore, hafter⟩ := Roster.perm_set hmember new
  have hmove (member : Member S) :
      operating.backlog.values.map (·.customer) ++ (member :: others).flatMap customersOf
        ~ customersOf member
          ++ (operating.backlog.values.map (·.customer) ++ others.flatMap customersOf) := by
    rw [List.flatMap_cons, ← List.append_assoc, ← List.append_assoc]
    exact List.perm_append_comm.append_right _
  exact ⟨_, ((hbefore.flatMap_right customersOf).append_left _).trans (hmove old),
    ((hafter.flatMap_right customersOf).append_left _).trans (hmove new)⟩

theorem held_put_same (hmember : operating.members[position]? = some old)
    (hsame : customersOf new = customersOf old) :
    operating.held ~ (operating.put position new).held := by
  obtain ⟨rest, hbefore, hafter⟩ := held_put hmember new
  exact hbefore.trans (hsame ▸ hafter.symm)

/-- A worker gives its job up. -/
theorem held_release (hmember : operating.members[position]? = some old)
    (hold : customersOf old = [customer]) (hnew : customersOf new = []) :
    operating.held ~ (operating.put position new).held ++ [customer] := by
  obtain ⟨rest, hbefore, hafter⟩ := held_put hmember new
  rw [hold] at hbefore
  rw [hnew] at hafter
  exact hbefore.trans (List.perm_append_comm.trans (hafter.symm.append_right _))

/-- A worker takes a job. -/
theorem held_occupy (hmember : operating.members[position]? = some old)
    (hold : customersOf old = []) (hnew : customersOf new = [customer]) :
    operating.held ++ [customer] ~ (operating.put position new).held := by
  obtain ⟨rest, hbefore, hafter⟩ := held_put hmember new
  rw [hold] at hbefore
  rw [hnew] at hafter
  exact (hbefore.append_right _).trans (List.perm_append_comm.trans hafter.symm)

/-- A job waits. -/
theorem held_enqueue (queued : QueuedJob S)
    (hfresh : ∀ entry ∈ operating.backlog.entries, entry.1 ≠ queued.customer.admitted) :
    operating.held ++ [queued.customer] ~ (operating.enqueue queued).held := by
  have hentries : (operating.enqueue queued).backlog.entries
      ~ (queued.customer.admitted, queued) :: operating.backlog.entries :=
    OrderedMap.insert_entries_perm hfresh
  have hvalues : (operating.enqueue queued).backlog.values.map (·.customer)
      ~ queued.customer :: operating.backlog.values.map (·.customer) :=
    (hentries.map (·.2)).map (·.customer)
  refine List.perm_append_comm.trans ?_
  exact (hvalues.append_right (operating.members.flatMap customersOf)).symm

/-- The first waiting job leaves the backlog. -/
theorem held_popFirst {admitted queued backlog}
    (hfirst : operating.backlog.popFirst = some ((admitted, queued), backlog)) :
    operating.held ~ FifoOperating.held { operating with backlog := backlog }
      ++ [queued.customer] := by
  have hentries := OrderedMap.popFirst_entries hfirst
  have hvalues : operating.backlog.values = queued :: backlog.values := by
    simp [OrderedMap.values, hentries]
  unfold FifoOperating.held
  rw [hvalues, List.map_cons, List.cons_append]
  exact (List.perm_append_singleton _ _).symm

/-! ### What outcomes say -/

/-- The outcome ends its job. -/
def isTerminal (delivery : S.Customer × FifoOutcome S) : Bool :=
  match delivery.2 with
  | .completed _ _ _ => true
  | .returnedQueued _ _ _ => true
  | .returnedAssigned _ _ _ _ => true
  | _ => false

/-- The job an outcome is about. -/
def aboutJob (delivery : S.Customer × FifoOutcome S) : Option ℕ :=
  match delivery.2 with
  | .completed job _ _ => some job
  | .returnedQueued job _ _ => some job
  | .returnedAssigned job _ _ _ => some job
  | .accepted _ job => some job
  | .rejected _ _ _ => none

/-- **The outcome ends this job**, delivered to its customer and with its payload where
the payload comes back. -/
def Resolves (job : CustomerJob S) (delivery : S.Customer × FifoOutcome S) : Prop :=
  delivery.1 = job.customer ∧
    ((∃ role result, delivery.2 = .completed job.id role result) ∨
      (∃ reason, delivery.2 = .returnedQueued job.id job.payload reason) ∨
      ∃ role reason, delivery.2 = .returnedAssigned job.id role job.payload reason)

/-- The jobs that outcomes announce as accepted, as they were submitted. -/
def announced (event : FifoEvent S) (outcomes : List (S.Customer × FifoOutcome S)) :
    List (CustomerJob S) :=
  outcomes.filterMap fun delivery =>
    match event, delivery.2 with
    | .command (.submit _ payload customer), .accepted _ job => some ⟨job, job, payload, customer⟩
    | _, _ => none

theorem Resolves.isTerminal {job : CustomerJob S} {delivery : S.Customer × FifoOutcome S}
    (h : Resolves job delivery) : isTerminal delivery = true := by
  obtain ⟨-, ⟨role, result, h⟩ | ⟨reason, h⟩ | ⟨role, reason, h⟩⟩ := h <;>
    simp [Fifo.isTerminal, h]

theorem Resolves.aboutJob {job : CustomerJob S} {delivery : S.Customer × FifoOutcome S}
    (h : Resolves job delivery) : aboutJob delivery = some job.id := by
  obtain ⟨-, ⟨role, result, h⟩ | ⟨reason, h⟩ | ⟨role, reason, h⟩⟩ := h <;>
    simp [Fifo.aboutJob, h]

/-- A job without a correlation comes back to its customer. -/
theorem uncorrelated_resolves (queued : QueuedJob S) :
    Resolves queued.customer (queued.customer.customer, uncorrelated queued) := by
  unfold uncorrelated
  cases queued.assignedRole with
  | none => exact ⟨rfl, .inr (.inl ⟨_, rfl⟩)⟩
  | some role => exact ⟨rfl, .inr (.inr ⟨role, _, rfl⟩)⟩

/-- **The book of an event**: what its outcomes say about jobs. -/
def jobBook (event : FifoEvent S) : Book (CustomerJob S) (S.Customer × FifoOutcome S) where
  key := CustomerJob.id
  fits job := job.admitted = job.id
  announces delivery :=
    match event, delivery.2 with
    | .command (.submit _ payload customer), .accepted _ job => some ⟨job, job, payload, customer⟩
    | _, _ => none
  ends := isTerminal
  about := aboutJob
  resolves := Resolves
  ends_of_resolves := Resolves.isTerminal
  about_of_resolves := Resolves.aboutJob
  announces_of_ends := by
    rintro ⟨customer, outcome⟩ hends
    cases outcome <;> simp [isTerminal] at hends ⊢

/-! ### One move -/

/-- **Jobs in order**: no two share an identifier, the backlog is keyed by admission,
which is the identifier, and every identifier is past. -/
structure Tidy (turn : Turn S) : Prop where
  unique : (turn.operating.held.map (·.id)).Nodup
  keyed : ∀ entry ∈ turn.operating.backlog.entries, entry.1 = entry.2.customer.admitted
  past : ∀ job ∈ turn.operating.held, job.admitted = job.id ∧ turn.pool.jobs.Past job.id

/-- **What one move posts**: outcomes that end jobs it no longer holds, and at most one
job that is new. -/
structure Posts (event : FifoEvent S) (before after : Turn S)
    (added resolved : List (CustomerJob S)) : Prop where
  outcomes : ∃ delta, after.actions.customerOutcomes = before.actions.customerOutcomes ++ delta ∧
    announced event delta = added ∧ List.Forall₂ Resolves resolved (delta.filter isTerminal) ∧
    ∀ route submission job, (route, .accepted submission job) ∈ delta →
      ∃ payload, event = .command (.submit submission payload route)
  held : before.operating.held ++ added ~ after.operating.held ++ resolved
  keyed : ∀ entry ∈ after.operating.backlog.entries, entry.1 = entry.2.customer.admitted
  sequence : (added = [] ∧ (after.pool.jobs = before.pool.jobs ∨
      ∃ job, before.pool.jobs.issue = some (job, after.pool.jobs))) ∨
    ∃ job, added = [job] ∧ job.admitted = job.id ∧
      before.pool.jobs.issue = some (job.id, after.pool.jobs)

/-- A move that neither delivers an outcome nor lets a job go. -/
theorem posts_nothing (houtcomes : after.actions.customerOutcomes = before.actions.customerOutcomes)
    (hheld : before.operating.held ~ after.operating.held)
    (hkeyed : ∀ entry ∈ after.operating.backlog.entries, entry.1 = entry.2.customer.admitted)
    (hjobs : after.pool.jobs = before.pool.jobs) : Posts event before after [] [] where
  outcomes := ⟨[], by simpa using houtcomes, rfl, .nil, by simp⟩
  held := by simpa using hheld
  keyed := hkeyed
  sequence := .inl ⟨rfl, .inl hjobs⟩

/-- A move that delivers outcomes for the jobs it lets go. -/
theorem posts_resolved {resolved delta}
    (houtcomes : after.actions.customerOutcomes = before.actions.customerOutcomes ++ delta)
    (hresolves : List.Forall₂ Resolves resolved delta)
    (hheld : before.operating.held ~ after.operating.held ++ resolved)
    (hkeyed : ∀ entry ∈ after.operating.backlog.entries, entry.1 = entry.2.customer.admitted)
    (hjobs : after.pool.jobs = before.pool.jobs) : Posts event before after [] resolved where
  outcomes := by
    have hall := (jobBook event).filter_of_resolves hresolves
    have hterminal : delta.filter isTerminal = delta := hall.2
    refine ⟨delta, houtcomes, hall.1, hterminal.symm ▸ hresolves, ?_⟩
    intro route submission job hmem
    have hterm := List.of_mem_filter (hterminal.symm ▸ hmem)
    simp [isTerminal] at hterm
  held := by simpa using hheld
  keyed := hkeyed
  sequence := .inl ⟨rfl, .inl hjobs⟩

theorem Decided.outcomes {role recoveries previous stopped}
    (h : Decided before position role recoveries previous stopped marks after) :
    after.actions.customerOutcomes = before.actions.customerOutcomes ∧
      after.pool.jobs = before.pool.jobs := by
  cases h <;> exact ⟨rfl, rfl⟩

/-- What a decision makes of the member it is about. -/
theorem Decided.without_job {role recoveries previous stopped}
    (h : Decided before position role recoveries previous stopped marks after) :
    ∃ new, after.operating = before.operating.put position new ∧ customersOf new = [] := by
  cases h <;> exact ⟨_, rfl, rfl⟩

/-- A key of the backlog is the identifier of a waiting job. -/
theorem Tidy.fresh (h : Tidy before) {job} (hnot : ∀ held ∈ before.operating.held, held.id ≠ job) :
    ∀ entry ∈ before.operating.backlog.entries, entry.1 ≠ job := by
  intro entry hentry
  have hheld : entry.2.customer ∈ before.operating.held :=
    List.mem_append_left _ (List.mem_map_of_mem (List.mem_map_of_mem hentry))
  rw [h.keyed entry hentry, (h.past _ hheld).1]
  exact hnot _ hheld

/-- A job a worker has does not wait: it is held once. -/
theorem Tidy.apart (h : Tidy before) {member}
    (hmember : before.operating.members[position]? = some member)
    (hjob : customersOf member = [customer]) :
    ∀ entry ∈ before.operating.backlog.entries, entry.1 ≠ customer.admitted := by
  have hworks : customer ∈ before.operating.members.flatMap customersOf :=
    List.mem_flatMap.mpr ⟨member, List.mem_of_getElem? hmember, by simp [hjob]⟩
  have hunique := h.unique
  rw [FifoOperating.held, List.map_append, List.nodup_append] at hunique
  rw [(h.past customer (List.mem_append_right _ hworks)).1]
  intro entry hentry
  have hwaits : entry.2.customer ∈ before.operating.backlog.values.map (·.customer) :=
    List.mem_map_of_mem (List.mem_map_of_mem hentry)
  rw [h.keyed entry hentry, (h.past _ (List.mem_append_left _ hwaits)).1]
  exact hunique.2.2 _ (List.mem_map_of_mem hwaits) _ (List.mem_map_of_mem hworks)

theorem keyed_insert {backlog : OrderedMap ℕ (QueuedJob S)} {queued}
    (h : ∀ entry ∈ backlog.entries, entry.1 = entry.2.customer.admitted) :
    ∀ entry ∈ (backlog.insert queued.customer.admitted queued).entries,
      entry.1 = entry.2.customer.admitted := by
  intro entry hentry
  rcases OrderedMap.mem_place hentry with rfl | hentry
  · rfl
  · exact h entry hentry

/-- **A worker gives its job up**: the job is over, or it waits again. -/
theorem Disposed.posts {middle : Turn S} {role : S.Role}
    {requeues : Bool} (h : Disposed before role customer requeues middle)
    (htidy : Tidy before) (hmember : before.operating.members[position]? = some old)
    (hold : customersOf old = [customer]) (hnew : customersOf new = [])
    (hafter : after.operating = middle.operating.put position new)
    (houtcomes : after.actions.customerOutcomes = middle.actions.customerOutcomes)
    (hjobs : after.pool.jobs = before.pool.jobs) :
    ∃ resolved, Posts event before after [] resolved := by
  have hrelease := held_release hmember hold hnew
  cases h with
  | completed result =>
    refine ⟨[customer], posts_resolved houtcomes (.cons ⟨rfl, .inl ⟨role, result, rfl⟩⟩ .nil) ?_ ?_
      hjobs⟩
    · rw [hafter]
      exact hrelease
    · rw [hafter]
      exact htidy.keyed
  | returned reason =>
    refine ⟨[customer], posts_resolved houtcomes
      (.cons ⟨rfl, .inr (.inr ⟨role, reason, rfl⟩)⟩ .nil) ?_ ?_ hjobs⟩
    · rw [hafter]
      exact hrelease
    · rw [hafter]
      exact htidy.keyed
  | requeued =>
    have hfresh : ∀ entry ∈ (before.operating.put position new).backlog.entries,
        entry.1 ≠ customer.admitted := htidy.apart hmember hold
    refine ⟨[], posts_nothing houtcomes ?_ ?_ hjobs⟩
    · rw [hafter]
      exact hrelease.trans (held_enqueue ⟨customer, some role⟩ hfresh)
    · rw [hafter]
      exact keyed_insert htidy.keyed

/-- **Every move posts what it does to jobs.** -/
theorem Move.posts (h : Move event marks before after) (htidy : Tidy before) :
    ∃ added resolved, Posts event before after added resolved := by
  have hput {position : ℕ} {old new : Member S} {turn : Turn S}
      (hmember : before.operating.members[position]? = some old)
      (hoperating : turn.operating = before.operating.put position new)
      (hsame : customersOf new = customersOf old)
      (houtcomes : turn.actions.customerOutcomes = before.actions.customerOutcomes)
      (hjobs : turn.pool.jobs = before.pool.jobs) :
      ∃ added resolved, Posts event before turn added resolved := by
    refine ⟨[], [], posts_nothing houtcomes ?_ ?_ hjobs⟩
    · rw [hoperating]
      exact held_put_same hmember hsame
    · rw [hoperating]
      exact htidy.keyed
  cases h with
  | note | reserve => exact ⟨[], [], posts_nothing rfl (.refl _) htidy.keyed rfl⟩
  | shift hmember hshift =>
    refine hput hmember rfl ?_ rfl rfl
    cases hshift with
    | joined hcustomer | exited hevent hchild hcustomer =>
      exact congrArg (fun customer => [customer]) hcustomer
    | _ => rfl
  | establish hmember | rejectCreation _ hmember | permit _ _ hmember | authorize hmember
  | ready hmember | claim _ hmember | deny hmember | replaceNow hmember | schedule hmember
  | retireDelayed hmember | replaceDelayed hmember => exact hput hmember rfl rfl rfl rfl
  | quarantine _ hmember hsuspect =>
    refine hput hmember rfl ?_ rfl rfl
    cases hsuspect <;> rfl
  | halt hmember hphase hhalts hfresh hdecided =>
    obtain ⟨new, hoperating, hnew⟩ := hdecided.without_job
    refine hput hmember hoperating ?_ hdecided.outcomes.1 hdecided.outcomes.2
    rw [hnew]
    symm
    unfold customersOf heldAssignments
    split
    · rename_i current assigned hstate
      simp only [MemberState.worker.injEq] at hstate
      exact absurd hstate.2 (hphase assigned)
    · rfl
  | haltBusy hmember hhalts hdisposed hfresh hfirst hdecided =>
    obtain ⟨new, hoperating, hnew⟩ := hdecided.without_job
    refine ⟨[], hdisposed.posts htidy hmember rfl hnew hoperating hdecided.outcomes.1
      (hdecided.outcomes.2.trans ?_)⟩
    cases hdisposed <;> rfl
  | quarantineBusy shutdown hmember hstop hdisposed =>
    refine ⟨[], hdisposed.posts htidy hmember rfl rfl rfl rfl ?_⟩
    cases hdisposed <;> rfl
  | complete hmember =>
    refine ⟨[], [_], posts_resolved rfl (.cons ⟨rfl, .inl ⟨_, _, rfl⟩⟩ .nil)
      (held_release hmember rfl rfl) htidy.keyed rfl⟩
  | dispatch hfirst hposition hmember =>
    refine ⟨[], [], posts_nothing rfl ?_ ?_ rfl⟩
    · exact (held_popFirst hfirst).trans (held_occupy hmember rfl rfl)
    · intro entry hentry
      refine htidy.keyed entry ?_
      rw [OrderedMap.popFirst_entries hfirst]
      exact List.mem_cons_of_mem _ hentry
  | @returnHead _ admitted queued backlog hfirst =>
    refine ⟨[], [queued.customer], posts_resolved rfl (.cons ?_ .nil) (held_popFirst hfirst) ?_ rfl⟩
    · exact uncorrelated_resolves queued
    · intro entry hentry
      refine htidy.keyed entry ?_
      rw [OrderedMap.popFirst_entries hfirst]
      exact List.mem_cons_of_mem _ hentry
  | returnAll =>
    refine ⟨[], before.operating.backlog.values.map (·.customer), posts_resolved
      (by rw [returnQueued_eq]) ?_ ?_ (by simp [OrderedMap.empty]) rfl⟩
    · rw [List.forall₂_map_left_iff, List.forall₂_map_right_iff]
      exact List.forall₂_same.mpr fun queued _ => ⟨rfl, .inr (.inl ⟨_, rfl⟩)⟩
    · exact List.perm_append_comm
  | refuse hevent hjobs =>
    refine ⟨[], [], ⟨_, rfl, ?_, .nil, by simp⟩, by simp; rfl, htidy.keyed, .inl ⟨rfl, hjobs⟩⟩
    simp [announced]
  | @queue _ submission job payload customer jobs hevent hissue =>
    have hfresh := htidy.fresh fun held hheld => ((htidy.past held hheld).2.ne_issue hissue).ne
    refine ⟨[⟨job, job, payload, customer⟩], [], ⟨_, rfl, ?_, .nil, ?_⟩, ?_, ?_, ?_⟩
    · simp [announced, hevent]
    · intro route submission' job' hmem
      simp only [List.mem_singleton, Prod.mk.injEq, FifoOutcome.accepted.injEq] at hmem
      obtain ⟨rfl, rfl, rfl⟩ := hmem
      exact ⟨payload, hevent⟩
    · rw [List.append_nil]
      exact held_enqueue ⟨⟨job, job, payload, customer⟩, none⟩ hfresh
    · exact keyed_insert htidy.keyed
    · exact .inr ⟨_, rfl, rfl, hissue⟩
  | @serve _ submission job position payload customer jobs role recoveries current assignment _
      hevent hissue hposition hmember =>
    refine ⟨[⟨job, job, payload, customer⟩], [], ⟨_, rfl, ?_, .nil, ?_⟩, ?_, htidy.keyed,
      .inr ⟨_, rfl, rfl, hissue⟩⟩
    · simp [announced, hevent]
    · intro route submission' job' hmem
      simp only [List.mem_singleton, Prod.mk.injEq, FifoOutcome.accepted.injEq] at hmem
      obtain ⟨rfl, rfl, rfl⟩ := hmem
      exact ⟨payload, hevent⟩
    · rw [List.append_nil]
      exact held_occupy hmember rfl rfl

/-! ### One transition -/

/-- The jobs of a ledger are known by their identifiers. -/
abbrev JobLedger (S : Signature) := Ledger (CustomerJob.id (S := S))

/-- **An account of one transition so far**: a ledger that continues the prior one with
the jobs the outcomes announce and those they end, and holds what the pool holds. -/
def Account (prior : JobLedger S) (event : FifoEvent S) (held : List (CustomerJob S))
    (jobs : Sequence) (outcomes : List (S.Customer × FifoOutcome S)) : Prop :=
  ∃ (ledger : JobLedger S) (resolved : List (CustomerJob S)),
    ledger.issued = prior.issued ++ announced event outcomes ∧ ledger.held = held ∧
    ledger.settled = prior.settled ++ resolved ∧
    List.Forall₂ Resolves resolved (outcomes.filter isTerminal) ∧
    (∀ job ∈ ledger.issued, job.admitted = job.id ∧ jobs.Past job.id) ∧
    ∀ route submission job, (route, .accepted submission job) ∈ outcomes →
      ∃ payload, event = .command (.submit submission payload route)

/-- The account of a turn. -/
def Accounts (prior : JobLedger S) (event : FifoEvent S) (turn : Turn S) : Prop :=
  Account prior event turn.operating.held turn.pool.jobs turn.actions.customerOutcomes ∧
    ∀ entry ∈ turn.operating.backlog.entries, entry.1 = entry.2.customer.admitted

variable {prior : JobLedger S}

/-- The account of an event, beside whose submissions its outcomes accept. -/
theorem account_iff {held jobs outcomes} :
    Account prior event held jobs outcomes ↔
      (jobBook event).Account prior held jobs outcomes ∧
        ∀ route submission job, (route, .accepted submission job) ∈ outcomes →
          ∃ payload, event = .command (.submit submission payload route) := by
  constructor
  · rintro ⟨ledger, resolved, hissued, hheld, hsettled, hresolves, hpast, hsubmitted⟩
    exact ⟨⟨ledger, resolved, hissued, hheld, hsettled, hresolves, hpast⟩, hsubmitted⟩
  · rintro ⟨⟨ledger, resolved, hissued, hheld, hsettled, hresolves, hpast⟩, hsubmitted⟩
    exact ⟨ledger, resolved, hissued, hheld, hsettled, hresolves, hpast, hsubmitted⟩

theorem Accounts.tidy (h : Accounts prior event before) : Tidy before :=
  ⟨(account_iff.mp h.1).1.nodup.1, h.2, (account_iff.mp h.1).1.nodup.2⟩

/-- **A posting continues an account.** -/
theorem Posts.accounts {added resolved} (h : Posts event before after added resolved)
    (haccounts : Accounts prior event before) :
    Accounts prior event after := by
  obtain ⟨haccount, hsubmitted⟩ := account_iff.mp haccounts.1
  obtain ⟨⟨delta, houtcomes, hannounced, hresolved, hdelta⟩, hperm, hkeyed, hsequence⟩ := h
  have hadmits : (jobBook event).Admits before.pool.jobs added after.pool.jobs := by
    rcases hsequence with ⟨rfl, hsame | ⟨skipped, hissue⟩⟩ | ⟨job, rfl, hadmitted, hissue⟩
    · rw [hsame]
      exact .nothing
    · exact .skipped hissue
    · exact .one hadmitted hissue
  refine ⟨account_iff.mpr ⟨?_, ?_⟩, hkeyed⟩
  · rw [houtcomes]
    exact haccount.post hannounced hresolved hperm hadmits
  · intro route submission job hmem
    rw [houtcomes] at hmem
    exact (List.mem_append.mp hmem).elim (hsubmitted route submission job)
      (hdelta route submission job)

theorem Move.accounts (h : Move event marks before after)
    (haccounts : Accounts prior event before) : Accounts prior event after := by
  obtain ⟨added, resolved, hposts⟩ := h.posts haccounts.tidy
  exact hposts.accounts haccounts

/-- Outcomes that neither announce nor end a job, beside jobs that stay. -/
theorem account_of_quiet {held : List (CustomerJob S)} {jobs : Sequence}
    {outcomes : List (S.Customer × FifoOutcome S)} (hheld : prior.held = held)
    (hpast : ∀ job ∈ prior.issued, job.admitted = job.id ∧ jobs.Past job.id)
    (houtcomes : outcomes = [] ∨ ∃ customer submission payload reason,
      outcomes = [(customer, .rejected submission payload reason)]) :
    Account prior event held jobs outcomes := by
  refine account_iff.mpr ⟨Book.account_of_quiet hheld hpast ?_ ?_, ?_⟩
  · rcases houtcomes with rfl | ⟨customer, submission, payload, reason, rfl⟩ <;> simp [jobBook]
  · rcases houtcomes with rfl | ⟨customer, submission, payload, reason, rfl⟩ <;>
      simp [jobBook, isTerminal]
  · rintro route submission job hmem
    rcases houtcomes with rfl | ⟨customer, submission, payload, reason, rfl⟩ <;> simp at hmem

/-! ### Leaving -/

theorem handOver_outcomes (member : Member S) (id : Option ℕ) (actions : FifoActions S) :
    ∃ delta, (handOver member id actions).customerOutcomes = actions.customerOutcomes ++ delta ∧
      List.Forall₂ Resolves (customersOf member) delta := by
  obtain ⟨asked, hasked, hsame⟩ : ∃ asked : FifoActions S, handOver member id actions
      = retainReturns member.role (member.shutdown id).custody asked ∧
      asked.customerOutcomes = actions.customerOutcomes := by
    unfold handOver
    cases (member.shutdown id).request <;> exact ⟨_, rfl, rfl⟩
  rw [hasked, ← hsame]
  rcases shutdown_custody member id with ⟨assigned, hjob, hcustody⟩ |
    ⟨hnone, hcustody | ⟨replacement, hcustody⟩⟩
  · rw [hjob, hcustody]
    refine ⟨[(assigned.customer.customer, .returnedAssigned assigned.customer.id member.role
      assigned.customer.payload .poolShutdown)], ?_, .cons ⟨rfl, .inr (.inr ⟨_, _, rfl⟩)⟩ .nil⟩
    simp only [retainReturns, AssignedJob.shutdown_customer]
    cases assigned.shutdown.completion <;> rfl
  · exact ⟨[], by simp [hcustody, retainReturns], hnone ▸ .nil⟩
  · refine ⟨[], ?_, hnone ▸ .nil⟩
    simp [hcustody, retainReturns, retainCancelledReplacement, FifoActions.diagnose]

/-- **The member loop of `begin_shutdown`** returns every job a worker has. -/
theorem retireMembers_outcomes (ids : Option (List ℕ)) (members : List (Member S))
    (actions : FifoActions S) :
    ∃ delta, (retireMembers ids members actions).2.customerOutcomes
        = actions.customerOutcomes ++ delta ∧
      List.Forall₂ Resolves (members.flatMap customersOf) delta := by
  induction members generalizing ids actions with
  | nil => exact ⟨[], by simp [retireMembers], .nil⟩
  | cons member members ih =>
    obtain ⟨first, hfirst, hresolves⟩ := handOver_outcomes member (takeId ids member).1 actions
    obtain ⟨rest, hrest, hothers⟩ := ih (takeId ids member).2
      (handOver member (takeId ids member).1 actions)
    refine ⟨first ++ rest, ?_, ?_⟩
    · rw [retireMembers_cons, hrest, hfirst, List.append_assoc]
    · rw [List.flatMap_cons]
      exact List.rel_append hresolves hothers

/-- **Leaving resolves every job the pool holds.** -/
theorem Leaves.outcomes {turn} (h : Leaves turn acted) :
    ∃ delta, acted.actions.customerOutcomes = turn.actions.customerOutcomes ++ delta ∧
      List.Forall₂ Resolves turn.operating.held delta := by
  have hretired (ids) : ∃ delta, (turn.retired ids).2.customerOutcomes
      = turn.actions.customerOutcomes ++ delta ∧
      List.Forall₂ Resolves turn.operating.held delta := by
    obtain ⟨delta, hdelta, hresolves⟩ := retireMembers_outcomes ids turn.operating.members
      (returnQueued .poolShutdown turn.operating.backlog.values turn.actions)
    refine ⟨_, hdelta.trans (by rw [returnQueued_eq, List.append_assoc]), ?_⟩
    refine List.rel_append ?_ hresolves
    rw [List.forall₂_map_left_iff, List.forall₂_map_right_iff]
    exact List.forall₂_same.mpr fun queued _ => ⟨rfl, .inr (.inl ⟨_, rfl⟩)⟩
  cases h with
  | exhausted => exact hretired none
  | drain | stop => exact hretired _

theorem Leaves.jobs {turn} (h : Leaves turn acted) :
    acted.pool.jobs = turn.pool.jobs := by
  cases h <;> rfl

theorem held_of_not_operating {pool : FifoPool S}
    (h : ∀ operating, pool.state ≠ .operating operating) : pool.held = [] := by
  unfold FifoPool.held
  split
  · rename_i operating hstate
    exact absurd hstate (h operating)
  · rfl

theorem Leaves.account {turn : Turn S} (h : Leaves turn acted)
    (haccounts : Accounts prior event turn) :
    Account prior event acted.next.held acted.pool.jobs acted.actions.customerOutcomes := by
  obtain ⟨haccount, hsubmitted⟩ := account_iff.mp haccounts.1
  obtain ⟨delta, houtcomes, hresolved⟩ := h.outcomes
  have hterminal : delta.filter isTerminal = delta :=
    ((jobBook event).filter_of_resolves hresolved).2
  rw [held_of_not_operating h.state, h.jobs, houtcomes]
  refine account_iff.mpr ⟨haccount.close hresolved, ?_⟩
  intro route submission job hmem
  rcases List.mem_append.mp hmem with hmem | hmem
  · exact hsubmitted route submission job hmem
  · have hterm := List.of_mem_filter (hterminal.symm ▸ hmem)
    simp [isTerminal] at hterm

theorem Wane.jobs {wake next} (h : Wane event wake next) :
    next.pool.jobs = wake.pool.jobs ∧
      next.actions.customerOutcomes = wake.actions.customerOutcomes := by
  cases h <;> exact ⟨rfl, rfl⟩

/-- The backlog of a pool is keyed by admission. -/
def Keyed (pool : FifoPool S) : Prop :=
  ∀ operating, pool.state = .operating operating →
    ∀ entry ∈ operating.backlog.entries, entry.1 = entry.2.customer.admitted

/-- **Every transition posts to the ledger of the run.** -/
theorem Acts.account {pool : FifoPool S} (h : Acts pool event acted)
    (hheld : prior.held = pool.held)
    (hpast : ∀ job ∈ prior.issued, job.admitted = job.id ∧ pool.jobs.Past job.id)
    (hkeyed : Keyed pool) :
    Account prior event acted.next.held acted.pool.jobs acted.actions.customerOutcomes ∧
      Keyed acted.next := by
  cases h with
  | @operating operating _ hstate hoperates hsettles =>
    have hoperating : prior.held = operating.held := by rw [hheld, FifoPool.held, hstate]
    have hstart : Accounts prior event
        ⟨{ pool with state := .stopped }, operating, FifoActions.cont⟩ :=
      ⟨account_of_quiet hoperating hpast (.inl rfl), hkeyed operating hstate⟩
    cases hsettles with
    | operate hchain =>
      obtain ⟨haccount, hbacklog⟩ := hchain.preserves (motive := Accounts prior event)
        Move.accounts hstart
      refine ⟨haccount, ?_⟩
      rintro _ ⟨⟩
      exact hbacklog
    | @leave _ turn hchain =>
      have hturn := hchain.preserves (motive := Accounts prior event) Move.accounts hstart
      have hleaves := beginShutdown_cases turn
      refine ⟨hleaves.account hturn, fun operating hafter => ?_⟩
      exact absurd hafter (hleaves.state operating)
    | diagnosed shutdowns =>
      refine ⟨account_of_quiet hoperating hpast (.inl rfl), ?_⟩
      rintro _ ⟨⟩
      exact hkeyed operating hstate
  | draining hstate hlent hdrains =>
    have hnone : pool.held = [] := by rw [FifoPool.held, hstate]
    rcases hdrains.ends with ⟨wake, hwaning, hpool, -, houtcomes, -⟩ | rfl
    · have hsame := hwaning.preserves
        (motive := fun wake => wake.pool.jobs = pool.jobs ∧ wake.actions.customerOutcomes = [])
        (fun hwane hbefore => ⟨hwane.jobs.1.trans hbefore.1, hwane.jobs.2.trans hbefore.2⟩)
        ⟨rfl, rfl⟩
      have hnot : ∀ operating, acted.next.state ≠ .operating operating := hdrains.state
      rw [hsame.2] at houtcomes
      refine ⟨account_of_quiet ?_ ?_ houtcomes, fun operating hoperating =>
        absurd hoperating (hnot operating)⟩
      · rw [hheld, hnone, held_of_not_operating hnot]
      · rw [hpool, hsame.1]
        exact hpast
    · refine ⟨account_of_quiet (hheld.trans hnone) hpast (.inl rfl), ?_⟩
      rintro _ ⟨⟩
  | idle hoperating hdraining =>
    exact ⟨account_of_quiet hheld hpast (.inl rfl), hkeyed⟩

/-! ### Whole runs -/

/-- Every outcome a run has delivered. -/
def Journal.outcomes (journal : Journal S) : List (S.Customer × FifoOutcome S) :=
  journal.emitted.flatMap (·.customerOutcomes)

/-- The jobs a run has accepted, as they were submitted. -/
def Journal.announced (journal : Journal S) : List (CustomerJob S) :=
  journal.entries.flatMap fun entry => Fifo.announced entry.event entry.actions.customerOutcomes

/-- **The books of a run**: a ledger of every job accepted, those the pool holds and
those that terminal outcomes ended. -/
structure Audit (journal : Journal S) (ledger : JobLedger S) : Prop where
  issued : ledger.issued = journal.announced
  held : ledger.held = journal.pool.held
  settled : List.Forall₂ Resolves ledger.settled (journal.outcomes.filter isTerminal)
  past : ∀ job ∈ ledger.issued, job.admitted = job.id ∧ journal.pool.jobs.Past job.id
  keyed : Keyed journal.pool
  submitted : ∀ entry ∈ journal.entries, ∀ route submission job,
    (route, .accepted submission job) ∈ entry.actions.customerOutcomes →
      ∃ payload, entry.event = .command (.submit submission payload route)

theorem beginMembers_outcomes (prepared : List (PreparedWorker S)) (ids : List ℕ) (heap : ℕ)
    (actions : FifoActions S) :
    (beginMembers prepared ids heap actions).2.1.customerOutcomes = actions.customerOutcomes := by
  induction prepared generalizing ids heap actions with
  | nil => rfl
  | cons first rest ih =>
    cases ids with
    | nil => rfl
    | cons creation ids => exact ih ids (heap + 2) _

variable (config : Config S) (prepared : List (PreparedWorker S)) (events : List (FifoEvent S))

theorem begin_audit :
    Audit (Journal.begin config prepared) Ledger.empty := by
  rcases begin_cases config prepared with ⟨creations, heq⟩ |
    ⟨creations, heap, ids, actions, members, -, hbegin, heq, -, hborn⟩
  · rw [heq]
    refine ⟨rfl, rfl, .nil, by simp [Ledger.empty], ?_, by simp⟩
    intro operating hoperating
    simp [FifoPool.build] at hoperating
  · rw [heq]
    have houtcomes : actions.customerOutcomes = [] := by
      have hactions := beginMembers_outcomes prepared ids 0 FifoActions.cont
      rwa [hbegin] at hactions
    have hheld : members.flatMap customersOf = [] := by
      refine List.flatMap_eq_nil_iff.mpr fun member hmem => ?_
      obtain ⟨role, recoveries, state⟩ := member
      have hcreating := hborn _ hmem
      cases state with
      | creating worker => rfl
      | _ => simp [isFirstBorn] at hcreating
    refine ⟨rfl, ?_, ?_, by simp [Ledger.empty], ?_, by simp⟩
    · show [] = [] ++ members.flatMap customersOf
      rw [hheld, List.append_nil]
    · simp only [Journal.outcomes, Journal.emitted, List.map_nil, List.flatMap_cons,
        List.flatMap_nil, houtcomes]
      exact .nil
    · rintro _ ⟨⟩ entry hentry
      simp [OrderedMap.empty] at hentry

theorem Journal.outcomes_step (journal : Journal S) (event : FifoEvent S) :
    (journal.step event).outcomes
      = journal.outcomes ++ (act journal.pool event).actions.customerOutcomes := by
  simp [Journal.outcomes, Journal.emitted, Journal.step, FifoPool.transition]

theorem Journal.announced_step (journal : Journal S) (event : FifoEvent S) :
    (journal.step event).announced = journal.announced
      ++ Fifo.announced event (act journal.pool event).actions.customerOutcomes := by
  simp [Journal.announced, Journal.step, FifoPool.transition]

/-- **Every event keeps the books.** -/
theorem Audit.step {journal ledger} (h : Audit journal ledger) (hsound : Sound journal.pool)
    (event : FifoEvent S) :
    ∃ next, Audit (journal.step event) next := by
  obtain ⟨⟨next, resolved, hissued, hheld, hsettled, hresolves, hpast, hsubmitted⟩, hkeyed⟩ :=
    (act_cases hsound event).account h.held h.past h.keyed
  refine ⟨next, ?_, hheld, ?_, hpast, hkeyed, ?_⟩
  · rw [hissued, h.issued, Journal.announced_step]
  · rw [hsettled, Journal.outcomes_step, List.filter_append]
    exact List.rel_append h.settled hresolves
  · intro entry hentry
    rcases List.mem_append.mp hentry with hentry | hentry
    · exact h.submitted entry hentry
    · rw [List.mem_singleton.mp hentry]
      exact hsubmitted

theorem run_audit : ∃ ledger, Audit (run config prepared events) ledger := by
  refine (run_invariant (motive := fun journal => Sound journal.pool ∧
    ∃ ledger, Audit journal ledger) config prepared ?_ ?_ events).2
  · exact ⟨begin_sound config prepared, _, begin_audit config prepared⟩
  · rintro journal event ⟨hsound, ledger, haudit⟩
    exact ⟨(act_cases hsound event).sound hsound, haudit.step hsound event⟩

/-- The backlog entries that hold a job. -/
def waitingCount (pool : FifoPool S) (job : ℕ) : ℕ :=
  match pool.state with
  | .operating operating => operating.backlog.values.countP fun queued => queued.customer.id = job
  | _ => 0

/-- The busy members that hold a job. -/
def workingCount (pool : FifoPool S) (job : ℕ) : ℕ :=
  match pool.state with
  | .operating operating => operating.members.countP fun member =>
      (customersOf member).any fun customer => customer.id = job
  | _ => 0

/-- The terminal outcomes a run has delivered for a job. -/
def Journal.resolvedCount (journal : Journal S) (job : ℕ) : ℕ :=
  (journal.outcomes.filter isTerminal).countP fun delivery => aboutJob delivery = some job

theorem countP_flatMap_customersOf (members : List (Member S)) (job : ℕ) :
    (members.flatMap customersOf).countP (fun customer => customer.id = job)
      = members.countP fun member => (customersOf member).any fun customer => customer.id = job := by
  induction members with
  | nil => rfl
  | cons member members ih =>
    rw [List.flatMap_cons, List.countP_append, List.countP_cons, ih, Nat.add_comm,
      countP_customersOf]

/-- The places of a job in a pool. -/
theorem countP_held (pool : FifoPool S) (job : ℕ) :
    pool.held.countP (fun customer => customer.id = job)
      = waitingCount pool job + workingCount pool job := by
  unfold FifoPool.held waitingCount workingCount
  cases pool.state with
  | operating operating =>
    show (FifoOperating.held operating).countP _ = _
    rw [FifoOperating.held, List.countP_append, countP_flatMap_customersOf, List.countP_map]
    rfl
  | _ => rfl

/-- **The custody of one accepted job**: it waits once, is worked on once or was resolved
once; wherever it is, it is the job that was submitted; what resolves it goes to its
customer with its payload; and a pool that left `Operating` has resolved it. -/
structure InCustody (journal : Journal S) (job : CustomerJob S) : Prop where
  once : waitingCount journal.pool job.id + workingCount journal.pool job.id
    + journal.resolvedCount job.id = 1
  same : ∀ other ∈ journal.pool.held, other.id = job.id → other = job
  resolves : ∀ delivery ∈ journal.outcomes, isTerminal delivery = true →
    aboutJob delivery = some job.id → Resolves job delivery
  left : (∀ operating, journal.pool.state ≠ .operating operating) →
    journal.resolvedCount job.id = 1

/-- **Customer conservation.**  In every run, every job announced by an accepted outcome
was submitted by that customer and is in custody, and no job is resolved twice. -/
theorem run_custody :
    (∀ entry ∈ (run config prepared events).entries, ∀ route submission job,
      (route, .accepted submission job) ∈ entry.actions.customerOutcomes →
      ∃ payload, entry.event = .command (.submit submission payload route) ∧
        InCustody (run config prepared events) ⟨job, job, payload, route⟩) ∧
    ∀ job, (run config prepared events).resolvedCount job ≤ 1 := by
  obtain ⟨ledger, haudit⟩ := run_audit config prepared events
  generalize run config prepared events = journal at haudit
  have hsettled : List.Forall₂ (jobBook (S := S) .shutdown).resolves ledger.settled
      (journal.outcomes.filter (jobBook (S := S) .shutdown).ends) := haudit.settled
  constructor
  · intro entry hentry route submission job haccepted
    obtain ⟨payload, hevent⟩ := haudit.submitted entry hentry route submission job haccepted
    refine ⟨payload, hevent, ?_⟩
    have hissued : (⟨job, job, payload, route⟩ : CustomerJob S) ∈ ledger.issued := by
      rw [haudit.issued]
      refine List.mem_flatMap.mpr ⟨entry, hentry, List.mem_filterMap.mpr ⟨_, haccepted, ?_⟩⟩
      rw [hevent]
    have honce : waitingCount journal.pool job + workingCount journal.pool job
        + journal.resolvedCount job = 1 := by
      rw [← countP_held, ← haudit.held]
      exact Book.once hsettled hissued
    refine ⟨honce, ?_, ?_, ?_⟩
    · intro other hother hid
      exact ledger.eq_of_key (Ledger.mem_issued_of_held (haudit.held ▸ hother)) hissued hid
    · intro delivery hdelivery hterminal habout
      exact Book.resolves_of_about hsettled hissued hdelivery hterminal habout
    · intro hleft
      have hnone := countP_held journal.pool job
      rw [held_of_not_operating hleft, List.countP_nil] at hnone
      show journal.resolvedCount job = 1
      omega
  · intro job
    exact Book.ended_le_one hsettled job

end Bombay.Fifo
